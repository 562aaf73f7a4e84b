import Mathlib.Data.List.Infix
import Mathlib.Data.List.TakeWhile
import Predictive.Text.Blank

/-!
# Blanks between words and around them

How many blanks stand between two words, and which ones, is lost when a text is split into its
words; the blanks around a text are lost when it is trimmed. Main statements: the words of two texts
with blanks between them are the words of the one and then those of the other
(`splitWords_append_blanks`), from which everything about words follows; a text is its trimmed form
with blanks around it (`exists_eq_append_trimChars`), whatever they are (`trimChars_append_blanks`);
and trimming two texts with blanks between them trims each, if neither is blank
(`exists_trimChars_append_eq`).
-/

namespace Predictive.Text

/-- All characters are blanks. -/
def Blanks (cs : List Char) : Prop := ∀ c ∈ cs, isBlank c = true

instance (cs : List Char) : Decidable (Blanks cs) :=
  List.decidableBAll (fun c => isBlank c = true) cs

/-- No character is a blank. -/
def NoBlanks (cs : List Char) : Prop := ∀ c ∈ cs, isBlank c = false

instance (cs : List Char) : Decidable (NoBlanks cs) :=
  List.decidableBAll (fun c => isBlank c = false) cs

/-- Neither the first nor the last character is a blank. -/
structure Trimmed (cs : List Char) : Prop where
  /-- The first character, if there is one, is no blank. -/
  head : ∀ c ∈ cs.head?, isBlank c = false
  /-- The last character, if there is one, is no blank. -/
  last : ∀ c ∈ cs.getLast?, isBlank c = false

variable {xs ys u v cs word : List Char} {c : Char}

/-- Two texts together are blank if each is. -/
theorem blanks_append_iff : Blanks (xs ++ ys) ↔ Blanks xs ∧ Blanks ys := List.forall_mem_append

/-! ## Words -/

/-- A word ends before a blank as it ends at the end of the text. -/
theorem endsWord_append_cons (hc : isBlank c = true) (xs ys : List Char) :
    endsWord (xs ++ c :: ys) = endsWord xs := by
  cases xs with
  | nil => simpa [endsWord] using hc
  | cons d xs => rfl

/-- A text that starts with no blank starts with its first word; the other words are words of what
comes after its first character. -/
theorem exists_splitWords_cons_eq (hc : isBlank c = false) (cs : List Char) :
    ∃ tail more, splitWords (c :: cs) = (c :: tail) :: more ∧ tail <+: cs ∧
      more ⊆ splitWords cs := by
  induction cs generalizing c with
  | nil => exact ⟨[], [], by simp [splitWords, hc, endsWord], List.nil_prefix, List.nil_subset _⟩
  | cons d cs ih =>
    by_cases hd : isBlank d = true
    · refine ⟨[], splitWords (d :: cs), ?_, List.nil_prefix, List.Subset.refl _⟩
      rw [splitWords]
      simp [hc, hd, endsWord]
    · have hd : isBlank d = false := by simpa using hd
      obtain ⟨tail, more, hwords, hstart, -⟩ := ih hd
      refine ⟨d :: tail, more, ?_, List.cons_prefix_cons.2 ⟨rfl, hstart⟩, ?_⟩
      · rw [splitWords, hwords]
        simp [hc, hd, endsWord]
      · rw [hwords]
        exact List.subset_cons_self _ _

/-- Words end at a blank. -/
theorem splitWords_append_cons (hc : isBlank c = true) (xs ys : List Char) :
    splitWords (xs ++ c :: ys) = splitWords xs ++ splitWords ys := by
  induction xs with
  | nil => simp [splitWords, hc]
  | cons d xs ih =>
    rw [List.cons_append, splitWords, splitWords, endsWord_append_cons hc, ih]
    by_cases hd : isBlank d = true
    · simp [hd]
    · cases xs with
      | nil => simp [hd, endsWord]
      | cons e xs =>
        by_cases he : isBlank e = true
        · simp [hd, he, endsWord]
        · -- The word goes on, so what follows has a first word.
          have he : isBlank e = false := by simpa using he
          obtain ⟨tail, more, hwords, -⟩ := exists_splitWords_cons_eq he xs
          simp [hd, he, endsWord, hwords]

/-- Blanks before a text have no words. -/
theorem splitWords_blanks_append (hu : Blanks u) (ys : List Char) :
    splitWords (u ++ ys) = splitWords ys := by
  induction u with
  | nil => rfl
  | cons c u ih =>
    obtain ⟨hc, hu⟩ := List.forall_mem_cons.1 hu
    rw [List.cons_append, splitWords, if_pos hc, ih hu]

/-- The words of two texts with blanks between them are those of the one and then those of the
other. -/
theorem splitWords_append_blanks (hu : Blanks u) (hne : u ≠ []) (xs ys : List Char) :
    splitWords (xs ++ u ++ ys) = splitWords xs ++ splitWords ys := by
  cases u with
  | nil => exact absurd rfl hne
  | cons c u =>
    obtain ⟨hc, hu⟩ := List.forall_mem_cons.1 hu
    rw [List.append_assoc, List.cons_append, splitWords_append_cons hc,
      splitWords_blanks_append hu]

/-- A text of other characters than blanks is a word. -/
theorem splitWords_of_noBlanks (hne : cs ≠ []) (h : NoBlanks cs) : splitWords cs = [cs] := by
  induction cs with
  | nil => exact absurd rfl hne
  | cons c rest ih =>
    obtain ⟨hc, hrest⟩ := List.forall_mem_cons.1 h
    cases rest with
    | nil => simp [splitWords, hc, endsWord]
    | cons d rest =>
      have hd : isBlank d = false := hrest d List.mem_cons_self
      rw [splitWords, ih (List.cons_ne_nil d rest) hrest]
      simp [hc, hd, endsWord]

/-- A word is part of the text. -/
theorem isInfix_of_mem_splitWords (h : word ∈ splitWords cs) : word <:+: cs := by
  induction cs with
  | nil => simp [splitWords] at h
  | cons c rest ih =>
    by_cases hc : isBlank c = true
    · rw [splitWords, if_pos hc] at h
      exact List.infix_cons (ih h)
    · have hc : isBlank c = false := by simpa using hc
      obtain ⟨tail, more, hwords, hstart, hmore⟩ := exists_splitWords_cons_eq hc rest
      rw [hwords] at h
      rcases List.mem_cons.1 h with rfl | h
      · exact (List.cons_prefix_cons.2 ⟨rfl, hstart⟩).isInfix
      · exact List.infix_cons (ih (hmore h))

/-! ## Trimming -/

/-- A trimmed text is left as it is by trimming. -/
theorem trimChars_of_trimmed (h : Trimmed cs) : trimChars cs = cs := by
  have hdrop : ∀ l : List Char, (∀ c ∈ l.head?, isBlank c = false) → l.dropWhile isBlank = l := by
    intro l hl
    cases l with
    | nil => rfl
    | cons c l => rw [List.dropWhile_cons_of_neg (by simpa using hl)]
  rw [trimChars, hdrop cs h.head, hdrop cs.reverse, List.reverse_reverse]
  rw [List.head?_reverse]
  exact h.last

/-- A text without blanks is trimmed. -/
theorem NoBlanks.trimmed (h : NoBlanks cs) : Trimmed cs :=
  ⟨fun c hc => h c (List.mem_of_mem_head? hc), fun c hc => h c (List.mem_of_mem_getLast? hc)⟩

/-- A text that starts and ends with trimmed texts is trimmed, unless one of these is empty. -/
theorem Trimmed.append (hxs : Trimmed xs) (hys : Trimmed ys) (hxne : xs ≠ []) (hyne : ys ≠ [])
    (v : List Char) : Trimmed (xs ++ v ++ ys) := by
  refine ⟨fun c hc => hxs.head c ?_, fun c hc => hys.last c ?_⟩
  · rwa [List.append_assoc, List.head?_append_of_ne_nil _ hxne] at hc
  · rwa [List.getLast?_append_of_ne_nil _ hyne] at hc

/-- What is left after leading blanks starts with no blank. -/
theorem head?_dropWhile_isBlank (cs : List Char) :
    ∀ c ∈ (cs.dropWhile isBlank).head?, isBlank c = false := by
  intro c hc
  have h := List.head?_dropWhile_not isBlank cs
  rw [Option.mem_def.1 hc] at h
  exact h

/-- Trimming trims. -/
theorem trimmed_trimChars (cs : List Char) : Trimmed (trimChars cs) := by
  refine ⟨fun c hc => ?_, fun c hc => ?_⟩
  · -- What is left has the first character of the text without its leading blanks.
    have hstart : trimChars cs <+: cs.dropWhile isBlank := by
      rw [trimChars, ← List.reverse_suffix, List.reverse_reverse]
      exact List.dropWhile_suffix isBlank
    obtain ⟨tail, htail⟩ := hstart
    refine head?_dropWhile_isBlank cs c ?_
    rw [← htail, List.head?_append, Option.mem_def.1 hc]
    rfl
  · rw [trimChars, List.getLast?_reverse] at hc
    exact head?_dropWhile_isBlank _ c hc

/-- A text is its trimmed form with blanks around it. -/
theorem exists_eq_append_trimChars (cs : List Char) :
    ∃ u v, Blanks u ∧ Blanks v ∧ cs = u ++ trimChars cs ++ v := by
  have htake : ∀ l : List Char, Blanks (l.takeWhile isBlank) :=
    fun _ _ hc => List.mem_takeWhile_imp hc
  refine ⟨cs.takeWhile isBlank, ((cs.dropWhile isBlank).reverse.takeWhile isBlank).reverse,
    htake cs, fun c hc => htake _ c (List.mem_reverse.1 hc), ?_⟩
  -- The blanks at the end are those at the start of the text when it is turned around.
  rw [trimChars, List.append_assoc, ← List.reverse_append, List.takeWhile_append_dropWhile,
    List.reverse_reverse, List.takeWhile_append_dropWhile]

/-- A trimmed text is part of the text. -/
theorem isInfix_trimChars (cs : List Char) : trimChars cs <:+: cs := by
  obtain ⟨u, v, -, -, hcs⟩ := exists_eq_append_trimChars cs
  exact ⟨u, v, hcs.symm⟩

/-- Blanks around a text make no difference once it is trimmed. -/
theorem trimChars_append_blanks (hu : Blanks u) (hv : Blanks v) (cs : List Char) :
    trimChars (u ++ cs ++ v) = trimChars cs := by
  have hdrop : ∀ l : List Char, (v.reverse ++ l).dropWhile isBlank = l.dropWhile isBlank :=
    fun l => List.dropWhile_append_of_pos fun c hc => hv c (List.mem_reverse.1 hc)
  rw [List.append_assoc, trimChars, trimChars, List.dropWhile_append_of_pos hu,
    List.dropWhile_append]
  -- If nothing is left after the leading blanks, the blanks at the end are among them.
  by_cases hcs : (cs.dropWhile isBlank).isEmpty = true
  · rw [if_pos hcs, List.isEmpty_iff.1 hcs, List.dropWhile_eq_nil_iff.2 hv]
  · rw [if_neg hcs, List.reverse_append, hdrop]

/-- Nothing is left of blanks, and of blanks only. -/
theorem trimChars_eq_nil_iff : trimChars cs = [] ↔ Blanks cs := by
  constructor
  · intro h
    obtain ⟨u, v, hu, hv, hcs⟩ := exists_eq_append_trimChars cs
    rw [h, List.append_nil] at hcs
    rw [hcs]
    exact blanks_append_iff.2 ⟨hu, hv⟩
  · intro h
    have hblanks := trimChars_append_blanks h (List.forall_mem_nil _) []
    rwa [List.append_nil, List.append_nil] at hblanks

/-- Trimming two texts with blanks between them trims each of them, if neither is blank. -/
theorem exists_trimChars_append_eq (hu : Blanks u) (hne : u ≠ []) (hxs : ¬ Blanks xs)
    (hys : ¬ Blanks ys) :
    ∃ v, Blanks v ∧ v ≠ [] ∧ trimChars (xs ++ u ++ ys) = trimChars xs ++ v ++ trimChars ys := by
  obtain ⟨x₁, x₂, hx₁, hx₂, hx⟩ := exists_eq_append_trimChars xs
  obtain ⟨y₁, y₂, hy₁, hy₂, hy⟩ := exists_eq_append_trimChars ys
  have hv : Blanks (x₂ ++ u ++ y₁) := blanks_append_iff.2 ⟨blanks_append_iff.2 ⟨hx₂, hu⟩, hy₁⟩
  refine ⟨x₂ ++ u ++ y₁, hv, by simp [hne], ?_⟩
  have hxs' : trimChars xs ≠ [] := fun h => hxs (trimChars_eq_nil_iff.1 h)
  have hys' : trimChars ys ≠ [] := fun h => hys (trimChars_eq_nil_iff.1 h)
  have htrimmed : Trimmed (trimChars xs ++ (x₂ ++ u ++ y₁) ++ trimChars ys) :=
    (trimmed_trimChars xs).append (trimmed_trimChars ys) hxs' hys' _
  have hsplit : xs ++ u ++ ys =
      x₁ ++ (trimChars xs ++ (x₂ ++ u ++ y₁) ++ trimChars ys) ++ y₂ := by
    conv_lhs => rw [hx, hy]
    simp only [List.append_assoc]
  rw [hsplit, trimChars_append_blanks hx₁ hy₂, trimChars_of_trimmed htrimmed]

end Predictive.Text
