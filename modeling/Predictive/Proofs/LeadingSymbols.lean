import Mathlib.Logic.Relation
import Predictive.Proofs.Outcomes

/-!
# FIRST sets and the leading symbols

The leading symbols of a grammar form a graph: a non-terminal leads to the first symbol of each
alternative of its first rule. `firstFrom` walks this graph with the symbols on the way in hand.
Main statements: FIRST of a symbol is the set of the terminals that it leads to
(`mem_firstMembers_iff`); it fails only where a cycle is reached (`exists_cycle_of_firstFrom`); and
it is there exactly where every walk along leading symbols ends (`exists_first_eq_ok_iff_acc`).
-/

namespace Predictive

open Relation (ReflTransGen TransGen)

namespace Grammar

/-- The first rule of one symbol has an alternative that starts with the other. -/
def LeadsTo (g : Grammar) (a b : Symbol) : Prop :=
  ∃ r, g.rule? a = some r ∧ ∃ p ∈ r.alternatives, p.lead = b

/-- The members of FIRST of a symbol, of which there are none where FIRST fails. -/
def firstMembers (g : Grammar) (s : Symbol) : Set Symbol :=
  {t | ∃ set, g.first s = .ok set ∧ t ∈ set}

variable {g : Grammar} {path : List Symbol} {s t : Symbol}

/-- A terminal leads nowhere. -/
theorem not_leadsTo_of_isTerminal (hs : g.isTerminal s = true) (t : Symbol) :
    ¬ g.LeadsTo s t := by
  rintro ⟨r, hr, -⟩
  rw [rule?_eq_none_iff.2 hs] at hr
  cases hr

/-- A walk that starts at a terminal stays there. -/
theorem eq_of_leadsTo_of_isTerminal (hs : g.isTerminal s = true)
    (h : ReflTransGen g.LeadsTo s t) : t = s :=
  (Relation.reflTransGen_iff_eq fun b => not_leadsTo_of_isTerminal hs b).1 h

/-- FIRST of a symbol on its own path fails. -/
theorem firstFrom_of_mem (h : s ∈ path) : g.firstFrom path s = .error .leftRecursion := by
  rw [firstFrom, dif_pos h]

/-- FIRST of a terminal is the terminal. -/
theorem firstFrom_of_rule?_eq_none (h : s ∉ path) (hr : g.rule? s = none) :
    g.firstFrom path s = .ok {s} := by
  rw [firstFrom, dif_neg h]
  split
  · rfl
  · simp_all

/-- FIRST of a non-terminal joins FIRST of the leading symbols of its alternatives. -/
theorem firstFrom_of_rule?_eq_some {r : Rule} (h : s ∉ path) (hr : g.rule? s = some r) :
    g.firstFrom path s = unionOver (fun p => g.firstFrom (s :: path) p.lead) r.alternatives := by
  rw [firstFrom, dif_neg h]
  split
  · simp_all
  · rename_i r' hr'
    rw [hr] at hr'
    cases hr'
    rfl

/-- FIRST of a terminal is the terminal. -/
theorem first_of_isTerminal (hs : g.isTerminal s = true) : g.first s = .ok {s} :=
  firstFrom_of_rule?_eq_none List.not_mem_nil (rule?_eq_none_iff.2 hs)

/-- Where FIRST is there, it holds the terminals that the symbol leads to. -/
theorem mem_of_firstFrom_eq_ok {set : SymbolSet} (h : g.firstFrom path s = .ok set) :
    t ∈ set ↔ ReflTransGen g.LeadsTo s t ∧ g.isTerminal t = true := by
  induction path, s using firstFrom.induct g generalizing set with
  | case1 path s hp =>
    rw [firstFrom_of_mem hp] at h
    cases h
  | case2 path s hp hr =>
    rw [firstFrom_of_rule?_eq_none hp hr] at h
    cases h
    have hs : g.isTerminal s = true := rule?_eq_none_iff.1 hr
    rw [SymbolSet.mem_singleton]
    constructor
    · rintro rfl
      exact ⟨.refl, hs⟩
    · exact fun ht => eq_of_leadsTo_of_isTerminal hs ht.1
  | case3 path s hp r hr ih =>
    rw [firstFrom_of_rule?_eq_some hp hr] at h
    rw [mem_of_unionOver_eq_ok h]
    constructor
    · rintro ⟨p, hpr, part, hpart, ht⟩
      obtain ⟨hlead, hterm⟩ := (ih p hpart).1 ht
      exact ⟨.head ⟨r, hr, p, hpr, rfl⟩ hlead, hterm⟩
    · rintro ⟨hst, hterm⟩
      rcases hst.cases_head with rfl | ⟨b, ⟨r', hr', p, hpr, rfl⟩, hbt⟩
      · -- A symbol with a rule is no terminal.
        rw [rule?_eq_none_iff.2 hterm] at hr
        cases hr
      · rw [hr] at hr'
        cases hr'
        obtain ⟨part, hpart⟩ := exists_unionOver_eq_ok_iff.1 ⟨set, h⟩ p hpr
        exact ⟨p, hpr, part, hpart, (ih p hpart).2 ⟨hbt, hterm⟩⟩

/-- Where FIRST is there, every walk along leading symbols ends. -/
theorem acc_of_firstFrom_eq_ok {set : SymbolSet} (h : g.firstFrom path s = .ok set) :
    Acc (fun b a => g.LeadsTo a b) s := by
  induction path, s using firstFrom.induct g generalizing set with
  | case1 path s hp =>
    rw [firstFrom_of_mem hp] at h
    cases h
  | case2 path s hp hr =>
    exact ⟨s, fun b hb => absurd hb (not_leadsTo_of_isTerminal (rule?_eq_none_iff.1 hr) b)⟩
  | case3 path s hp r hr ih =>
    rw [firstFrom_of_rule?_eq_some hp hr] at h
    refine ⟨s, ?_⟩
    rintro b ⟨r', hr', p, hpr, rfl⟩
    rw [hr] at hr'
    cases hr'
    obtain ⟨part, hpart⟩ := exists_unionOver_eq_ok_iff.1 ⟨set, h⟩ p hpr
    exact ih p hpart

/-- Where every walk along leading symbols ends, none comes back to its start. -/
theorem not_transGen_leadsTo_self (h : Acc (fun b a => g.LeadsTo a b) s) :
    ¬ TransGen g.LeadsTo s s := by
  induction h with
  | intro s _ ih =>
    intro hss
    obtain ⟨b, hsb, hbs⟩ := Relation.TransGen.head'_iff.1 hss
    exact ih b hsb (Relation.TransGen.tail' hbs hsb)

/-- A step along leading symbols extends the walks to its start by one. -/
theorem transGen_leadsTo_cons {b : Symbol} (hpath : ∀ x ∈ path, TransGen g.LeadsTo x s)
    (hsb : g.LeadsTo s b) : ∀ x ∈ s :: path, TransGen g.LeadsTo x b := by
  intro x hx
  rcases List.mem_cons.1 hx with rfl | hx
  · exact .single hsb
  · exact (hpath x hx).tail hsb

/-- Where every walk along leading symbols ends, FIRST is there, after a path that was walked. -/
theorem exists_firstFrom_eq_ok (h : Acc (fun b a => g.LeadsTo a b) s)
    (hpath : ∀ x ∈ path, TransGen g.LeadsTo x s) : ∃ set, g.firstFrom path s = .ok set := by
  induction h generalizing path with
  | intro s hacc ih =>
    have hs : s ∉ path := fun hs => not_transGen_leadsTo_self ⟨s, hacc⟩ (hpath s hs)
    cases hr : g.rule? s with
    | none => exact ⟨_, firstFrom_of_rule?_eq_none hs hr⟩
    | some r =>
      rw [firstFrom_of_rule?_eq_some hs hr, exists_unionOver_eq_ok_iff]
      intro p hp
      have hlead : g.LeadsTo s p.lead := ⟨r, hr, p, hp, rfl⟩
      exact ih p.lead hlead (transGen_leadsTo_cons hpath hlead)

/-- FIRST that fails after a path that was walked has met a cycle. -/
theorem exists_cycle_of_firstFrom (h : ¬ ∃ set, g.firstFrom path s = .ok set)
    (hpath : ∀ x ∈ path, TransGen g.LeadsTo x s) :
    ∃ x, ReflTransGen g.LeadsTo s x ∧ TransGen g.LeadsTo x x := by
  induction path, s using firstFrom.induct g with
  | case1 path s hp => exact ⟨s, .refl, hpath s hp⟩
  | case2 path s hp hr => exact absurd ⟨{s}, firstFrom_of_rule?_eq_none hp hr⟩ h
  | case3 path s hp r hr ih =>
    rw [firstFrom_of_rule?_eq_some hp hr, exists_unionOver_eq_ok_iff] at h
    simp only [Classical.not_forall] at h
    obtain ⟨p, hpr, hfail⟩ := h
    have hlead : g.LeadsTo s p.lead := ⟨r, hr, p, hpr, rfl⟩
    obtain ⟨x, hx, hxx⟩ := ih p hfail (transGen_leadsTo_cons hpath hlead)
    exact ⟨x, .head hlead hx, hxx⟩

/-- FIRST of a symbol is there exactly where every walk along leading symbols ends. -/
theorem exists_first_eq_ok_iff_acc :
    (∃ set, g.first s = .ok set) ↔ Acc (fun b a => g.LeadsTo a b) s :=
  ⟨fun ⟨_, h⟩ => acc_of_firstFrom_eq_ok h, fun h => exists_firstFrom_eq_ok h (by simp)⟩

/-- A grammar whose leading symbols form no cycle has FIRST sets of all symbols. -/
theorem exists_first_eq_ok (h : ∀ s, ¬ TransGen g.LeadsTo s s) (s : Symbol) :
    ∃ set, g.first s = .ok set := by
  refine Classical.byContradiction fun hfail => ?_
  obtain ⟨x, -, hxx⟩ := exists_cycle_of_firstFrom hfail (by simp)
  exact h x hxx

/-- A grammar that has FIRST sets of its left-hand sides has FIRST sets of all symbols. -/
theorem exists_first_eq_ok_of_leftSides (h : ∀ s ∈ g.leftSides, (g.first s).toOption.isSome)
    (s : Symbol) : ∃ set, g.first s = .ok set := by
  cases hs : g.isTerminal s with
  | true => exact ⟨{s}, first_of_isTerminal hs⟩
  | false =>
    obtain ⟨r, hr, rfl⟩ := isTerminal_eq_false_iff.1 hs
    have hsome := h r.nonTerminal (List.mem_map_of_mem hr)
    cases hf : g.first r.nonTerminal with
    | error e => simp [hf, Except.toOption] at hsome
    | ok set => exact ⟨set, rfl⟩

/-- The leading symbols of a grammar that has FIRST sets of its left-hand sides form no cycle. -/
theorem not_transGen_leadsTo_of_leftSides
    (h : ∀ s ∈ g.leftSides, (g.first s).toOption.isSome) (s : Symbol) :
    ¬ TransGen g.LeadsTo s s :=
  not_transGen_leadsTo_self (exists_first_eq_ok_iff_acc.1 (exists_first_eq_ok_of_leftSides h s))

/-- FIRST of a non-terminal is there where FIRST of all leading symbols of its alternatives is. -/
theorem exists_first_eq_ok_of_leads (h : ∀ t, g.LeadsTo s t → ∃ set, g.first t = .ok set) :
    ∃ set, g.first s = .ok set := by
  rw [exists_first_eq_ok_iff_acc]
  exact ⟨s, fun t ht => exists_first_eq_ok_iff_acc.1 (h t ht)⟩

/-- The members of FIRST of a symbol whose FIRST set is there. -/
theorem mem_firstMembers_of_eq_ok {set : SymbolSet} (h : g.first s = .ok set) :
    t ∈ g.firstMembers s ↔ t ∈ set :=
  exists_mem_of_eq_ok_iff h

/-- A FIRST set that is there holds the terminals that the symbol leads to. -/
theorem mem_firstMembers_iff {set : SymbolSet} (h : g.first s = .ok set) :
    t ∈ g.firstMembers s ↔ ReflTransGen g.LeadsTo s t ∧ g.isTerminal t = true := by
  rw [mem_firstMembers_of_eq_ok h, mem_of_firstFrom_eq_ok h]

end Grammar

end Predictive
