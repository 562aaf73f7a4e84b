import Predictive.Symbol

/-!
# Finite sets of symbols

A set is kept as the ascending list of its members, so that two sets with the same members are
equal (`SymbolSet.ext`) and a set is listed in order without sorting. Main statements: what each
operation does to membership (`mem_singleton`, `mem_insert`, `mem_union`, `mem_erase`,
`mem_ofList`).
-/

namespace Predictive

/-- A finite set of symbols, as the list of its members in ascending order of code points. -/
structure SymbolSet where
  /-- The members, each once and in ascending order. -/
  toList : List Symbol
  /-- Each member is less than those after it. -/
  ascending : toList.Pairwise (· < ·)
  deriving DecidableEq

namespace SymbolSet

instance : Membership Symbol SymbolSet := ⟨fun set s => s ∈ set.toList⟩

instance (s : Symbol) (set : SymbolSet) : Decidable (s ∈ set) :=
  inferInstanceAs (Decidable (s ∈ set.toList))

theorem mem_toList {s : Symbol} {set : SymbolSet} : s ∈ set.toList ↔ s ∈ set := Iff.rfl

/-- The set without members. -/
def empty : SymbolSet := ⟨[], .nil⟩

instance : EmptyCollection SymbolSet := ⟨empty⟩
instance : Inhabited SymbolSet := ⟨empty⟩

/-- The set with one member. -/
def singleton (s : Symbol) : SymbolSet := ⟨[s], List.pairwise_singleton _ s⟩

instance : Singleton Symbol SymbolSet := ⟨singleton⟩

/-- The ascending list with a symbol put in its place, unless it is there already. -/
def insertInto (s : Symbol) : List Symbol → List Symbol
  | [] => [s]
  | t :: rest =>
    if s < t then s :: t :: rest
    else if s = t then t :: rest
    else t :: insertInto s rest

theorem mem_insertInto {s t : Symbol} {l : List Symbol} :
    t ∈ insertInto s l ↔ t = s ∨ t ∈ l := by
  fun_induction insertInto s l <;> grind

/-- Putting a symbol in its place keeps the order. -/
theorem pairwise_insertInto {s : Symbol} {l : List Symbol} (h : l.Pairwise (· < ·)) :
    (insertInto s l).Pairwise (· < ·) := by
  fun_induction insertInto s l with
  | case1 => simp
  | case2 t rest hst =>
    refine List.pairwise_cons.2 ⟨fun u hu => ?_, h⟩
    rcases List.mem_cons.1 hu with rfl | hu
    · exact hst
    · exact String.lt_trans hst ((List.pairwise_cons.1 h).1 u hu)
  | case3 => exact h
  | case4 t rest hst hne ih =>
    obtain ⟨ht, hr⟩ := List.pairwise_cons.1 h
    refine List.pairwise_cons.2 ⟨fun u hu => ?_, ih hr⟩
    rcases mem_insertInto.1 hu with rfl | hu
    · exact Std.lt_of_le_of_ne (String.not_lt.1 hst) (Ne.symm hne)
    · exact ht u hu

/-- The set with one more member. -/
def insert (s : Symbol) (set : SymbolSet) : SymbolSet :=
  ⟨insertInto s set.toList, pairwise_insertInto set.ascending⟩

instance : Insert Symbol SymbolSet := ⟨insert⟩

/-- The members of either set. -/
def union (a b : SymbolSet) : SymbolSet :=
  b.toList.foldr insert a

instance : Union SymbolSet := ⟨union⟩

/-- The set without one symbol. -/
def erase (set : SymbolSet) (s : Symbol) : SymbolSet :=
  ⟨set.toList.filter (· ≠ s), set.ascending.filter _⟩

/-- The set of the symbols of a list, whatever their order and number. -/
def ofList (l : List Symbol) : SymbolSet :=
  l.foldr insert ∅

/-- Whether two sets have no common member. -/
def disjointFrom (a b : SymbolSet) : Bool :=
  a.toList.all (· ∉ b)

@[simp]
theorem not_mem_empty (s : Symbol) : s ∉ (∅ : SymbolSet) := List.not_mem_nil

@[simp]
theorem mem_singleton {s t : Symbol} : t ∈ ({s} : SymbolSet) ↔ t = s := List.mem_singleton

@[simp]
theorem mem_insert {s t : Symbol} {set : SymbolSet} : t ∈ set.insert s ↔ t = s ∨ t ∈ set :=
  mem_insertInto

theorem mem_foldr_insert {t : Symbol} {set : SymbolSet} {l : List Symbol} :
    t ∈ l.foldr insert set ↔ t ∈ l ∨ t ∈ set := by
  induction l with
  | nil => simp
  | cons s l ih => rw [List.foldr_cons, mem_insert, ih, List.mem_cons, or_assoc]

@[simp]
theorem mem_union {t : Symbol} {a b : SymbolSet} : t ∈ a ∪ b ↔ t ∈ a ∨ t ∈ b := by
  show t ∈ b.toList.foldr insert a ↔ _
  rw [mem_foldr_insert, mem_toList, or_comm]

@[simp]
theorem mem_erase {s t : Symbol} {set : SymbolSet} :
    t ∈ set.erase s ↔ t ∈ set ∧ t ≠ s := by
  show t ∈ set.toList.filter _ ↔ _
  simp [mem_toList]

@[simp]
theorem mem_ofList {t : Symbol} {l : List Symbol} : t ∈ ofList l ↔ t ∈ l := by
  simp [ofList, mem_foldr_insert]

theorem disjointFrom_iff {a b : SymbolSet} :
    a.disjointFrom b = true ↔ ∀ s ∈ a, s ∉ b := by
  simp [disjointFrom, mem_toList]

/-- Two ascending lists with the same members are the same list. -/
theorem eq_of_pairwise_of_mem_iff {l m : List Symbol} (hl : l.Pairwise (· < ·))
    (hm : m.Pairwise (· < ·)) (h : ∀ s, s ∈ l ↔ s ∈ m) : l = m := by
  induction l generalizing m with
  | nil =>
    cases m with
    | nil => rfl
    | cons t m => exact absurd ((h t).2 List.mem_cons_self) List.not_mem_nil
  | cons s l ih =>
    cases m with
    | nil => exact absurd ((h s).1 List.mem_cons_self) List.not_mem_nil
    | cons t m =>
      obtain ⟨hs, hl'⟩ := List.pairwise_cons.1 hl
      obtain ⟨ht, hm'⟩ := List.pairwise_cons.1 hm
      -- The least members agree, for each is a member of the other list.
      have hst : s = t := by
        rcases List.mem_cons.1 ((h s).1 List.mem_cons_self) with e | hsm
        · exact e
        · rcases List.mem_cons.1 ((h t).2 List.mem_cons_self) with e | htl
          · exact e.symm
          · exact absurd (String.lt_trans (hs t htl) (ht s hsm)) (String.lt_irrefl s)
      subst hst
      congr 1
      refine ih hl' hm' fun u => ?_
      constructor
      · intro hu
        rcases List.mem_cons.1 ((h u).1 (List.mem_cons_of_mem _ hu)) with rfl | hum
        · exact absurd (hs u hu) (String.lt_irrefl u)
        · exact hum
      · intro hu
        rcases List.mem_cons.1 ((h u).2 (List.mem_cons_of_mem _ hu)) with rfl | hul
        · exact absurd (ht u hu) (String.lt_irrefl u)
        · exact hul

/-- Sets with the same members are equal. -/
@[ext]
theorem ext {a b : SymbolSet} (h : ∀ s, s ∈ a ↔ s ∈ b) : a = b := by
  have hl : a.toList = b.toList := eq_of_pairwise_of_mem_iff a.ascending b.ascending h
  cases a
  cases b
  simpa using hl

theorem empty_union (a : SymbolSet) : ∅ ∪ a = a := ext fun t => by simp

theorem union_empty (a : SymbolSet) : a ∪ ∅ = a := ext fun t => by simp

theorem union_assoc (a b c : SymbolSet) : a ∪ b ∪ c = a ∪ (b ∪ c) :=
  ext fun t => by simp [or_assoc]

/-- Without a symbol that it does not have, a set is as it was. -/
theorem erase_of_not_mem {s : Symbol} {set : SymbolSet} (h : s ∉ set) : set.erase s = set :=
  ext fun t => by
    rw [mem_erase, and_iff_left_iff_imp]
    exact fun ht hts => h (hts ▸ ht)

end SymbolSet

end Predictive
