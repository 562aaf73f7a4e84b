import Mathlib.Data.List.Infix
import Predictive.Text.Pieces

/-!
# Cuts and characters that no mark holds

A text is cut at the first place where a mark stands. A character that is not in the mark keeps the
texts on its two sides apart: no place of the mark reaches across it. Main statements: a text with
such characters in it is cut where the text before them is cut, and else where the text after them
is (`cutAtFirst_append`); the mark does not stand in what comes before a cut
(`not_isInfix_of_cutAtFirst`); and joined lists are taken apart by cutting at the separator
(`pieces_intercalate`).
-/

namespace Predictive.Text

variable {mark xs ys u cs before after : List Char} {c : Char}

/-- A mark that starts a text reaches across no character that it does not hold. -/
theorem prefix_append_cons_iff (hc : c ∉ mark) : mark <+: xs ++ c :: ys ↔ mark <+: xs := by
  induction xs generalizing mark with
  | nil =>
    rw [List.nil_append, List.prefix_nil, List.prefix_cons_iff]
    constructor
    · rintro (rfl | ⟨tail, rfl, -⟩)
      · rfl
      · exact absurd List.mem_cons_self hc
    · exact Or.inl
  | cons d xs ih =>
    rw [List.cons_append, List.prefix_cons_iff, List.prefix_cons_iff]
    refine or_congr_right (exists_congr fun tail => and_congr_right fun hmark => ih ?_)
    rw [hmark] at hc
    exact fun hmem => hc (List.mem_cons_of_mem _ hmem)

/-- There is a cut exactly when the mark stands in the text. -/
theorem isSome_cutAtFirst_iff : (cutAtFirst mark cs).isSome = true ↔ mark <:+: cs := by
  induction cs with
  | nil =>
    rw [cutAtFirst, List.infix_nil]
    by_cases hmark : mark = [] <;> simp [hmark]
  | cons c cs ih =>
    rw [cutAtFirst, List.infix_cons_iff, ← List.isPrefixOf_iff_prefix]
    by_cases hstart : mark.isPrefixOf (c :: cs) = true
    · simp [hstart]
    · rw [if_neg hstart, Option.isSome_map, ih]
      exact (or_iff_right hstart).symm

/-- There is no cut where the mark does not stand. -/
theorem cutAtFirst_eq_none_iff : cutAtFirst mark cs = none ↔ ¬ mark <:+: cs := by
  rw [← isSome_cutAtFirst_iff, Option.not_isSome_iff_eq_none]

/-- The mark does not stand in what comes before its first place. -/
theorem not_isInfix_of_cutAtFirst (hne : mark ≠ [])
    (h : cutAtFirst mark cs = some (before, after)) : ¬ mark <:+: before := by
  induction cs generalizing before with
  | nil => simp [cutAtFirst, hne] at h
  | cons c cs ih =>
    rw [cutAtFirst] at h
    by_cases hstart : mark.isPrefixOf (c :: cs) = true
    · rw [if_pos hstart] at h
      obtain ⟨rfl, -⟩ := Prod.mk.inj (Option.some.inj h)
      rwa [List.infix_nil]
    · rw [if_neg hstart, Option.map_eq_some_iff] at h
      obtain ⟨⟨before', after'⟩, hcut, heq⟩ := h
      obtain ⟨rfl, rfl⟩ := Prod.mk.inj heq
      rw [List.infix_cons_iff]
      rintro (hbefore | hlater)
      · -- The mark would stand at the start of the whole text.
        have hwhole : c :: before' <+: c :: cs := by
          rw [eq_of_cutAtFirst hcut, List.append_assoc]
          exact List.prefix_append (c :: before') _
        exact hstart (List.isPrefixOf_iff_prefix.2 (hbefore.trans hwhole))
      · exact ih hcut hlater

/-- A text is cut at a mark if no mark stands in what comes before, not even with all but the last
character of the mark after it. -/
theorem cutAtFirst_of_not_isInfix (hne : mark ≠ []) (h : ¬ mark <:+: before ++ mark.dropLast)
    (after : List Char) : cutAtFirst mark (before ++ mark ++ after) = some (before, after) := by
  induction before with
  | nil =>
    obtain ⟨c, rest, rfl⟩ := List.exists_cons_of_ne_nil hne
    have hstart : (c :: rest).isPrefixOf (c :: (rest ++ after)) = true :=
      List.isPrefixOf_iff_prefix.2 (List.prefix_append (c :: rest) after)
    rw [List.nil_append, List.cons_append, cutAtFirst, if_pos hstart, ← List.cons_append,
      List.drop_left]
  | cons c before ih =>
    have hstart : ¬ mark.isPrefixOf (c :: (before ++ mark ++ after)) = true := by
      rw [List.isPrefixOf_iff_prefix]
      intro hprefix
      -- The mark would end before the end of the one that follows.
      have hshort : c :: before ++ mark.dropLast <+: c :: (before ++ mark ++ after) := by
        rw [List.cons_append, List.append_assoc]
        exact List.cons_prefix_cons.2 ⟨rfl, List.prefix_append_right_inj before |>.2
          ((List.dropLast_prefix mark).trans (List.prefix_append mark after))⟩
      have hlength : mark.length ≤ (c :: before ++ mark.dropLast).length := by
        simp only [List.length_append, List.length_cons, List.length_dropLast]
        omega
      exact h (List.prefix_of_prefix_length_le hprefix hshort hlength).isInfix
    have hlater : ¬ mark <:+: before ++ mark.dropLast := fun hpart => h (List.infix_cons hpart)
    rw [List.cons_append, List.cons_append, cutAtFirst, if_neg hstart, ih hlater, Option.map_some]

/-- A text is cut before a character that is not in the mark, or else after it. -/
theorem cutAtFirst_append_cons (hne : mark ≠ []) (hc : c ∉ mark) (xs ys : List Char) :
    cutAtFirst mark (xs ++ c :: ys) =
      ((cutAtFirst mark xs).map fun (before, after) => (before, after ++ c :: ys)).or
        ((cutAtFirst mark ys).map fun (before, after) => (xs ++ c :: before, after)) := by
  induction xs with
  | nil =>
    -- The mark does not start here, since it does not hold the character.
    have hstart : mark.isPrefixOf (c :: ys) = false := by
      rw [Bool.eq_false_iff, Ne, List.isPrefixOf_iff_prefix]
      intro h
      have hnil : mark <+: [] := (prefix_append_cons_iff hc).1 (show mark <+: [] ++ c :: ys from h)
      exact hne (List.prefix_nil.1 hnil)
    simp [cutAtFirst, hstart, hne]
  | cons d xs ih =>
    -- Whether the mark starts here is settled before the character comes.
    have hiff : mark.isPrefixOf (d :: (xs ++ c :: ys)) = mark.isPrefixOf (d :: xs) := by
      rw [Bool.eq_iff_iff, List.isPrefixOf_iff_prefix, List.isPrefixOf_iff_prefix]
      rw [← List.cons_append]
      exact prefix_append_cons_iff hc
    rw [List.cons_append, cutAtFirst, cutAtFirst, hiff]
    by_cases hstart : mark.isPrefixOf (d :: xs) = true
    · have hlength : mark.length ≤ (d :: xs).length :=
        (List.isPrefixOf_iff_prefix.1 hstart).length_le
      rw [if_pos hstart, if_pos hstart, ← List.cons_append,
        List.drop_append_of_le_length hlength]
      rfl
    · rw [if_neg hstart, if_neg hstart, ih]
      cases cutAtFirst mark xs <;> cases cutAtFirst mark ys <;> rfl

/-- A text is cut before characters that are not in the mark, or else after them. -/
theorem cutAtFirst_append (hne : mark ≠ []) (hu : ∀ c ∈ u, c ∉ mark) (hune : u ≠ [])
    (xs ys : List Char) :
    cutAtFirst mark (xs ++ u ++ ys) =
      ((cutAtFirst mark xs).map fun (before, after) => (before, after ++ u ++ ys)).or
        ((cutAtFirst mark ys).map fun (before, after) => (xs ++ u ++ before, after)) := by
  induction u generalizing xs with
  | nil => exact absurd rfl hune
  | cons c u ih =>
    obtain ⟨hc, hu⟩ := List.forall_mem_cons.1 hu
    by_cases hu' : u = []
    · rw [hu', List.append_assoc, List.singleton_append, cutAtFirst_append_cons hne hc]
      simp
    · have hnil : cutAtFirst mark [] = none := by simp [cutAtFirst, hne]
      have hblanks := ih hu hu' []
      rw [List.nil_append, hnil, Option.map_none, Option.none_or] at hblanks
      rw [List.append_assoc, List.cons_append, cutAtFirst_append_cons hne hc, hblanks]
      simp [Option.map_map, Function.comp_def]

/-- A list without the separator is one piece. -/
theorem pieces_of_not_mem {α : Type} [DecidableEq α] {separator : α} {xs : List α}
    (h : separator ∉ xs) : pieces separator xs = [xs] := by
  induction xs with
  | nil => rfl
  | cons x xs ih =>
    obtain ⟨hx, hxs⟩ := List.ne_and_not_mem_of_not_mem_cons h
    rw [pieces, if_neg (Ne.symm hx), ih hxs]

/-- The first piece goes up to the first separator. -/
theorem pieces_append_cons {α : Type} [DecidableEq α] {separator : α} {xs : List α}
    (h : separator ∉ xs) (ys : List α) :
    pieces separator (xs ++ separator :: ys) = xs :: pieces separator ys := by
  induction xs with
  | nil => rw [List.nil_append, pieces, if_pos rfl]
  | cons x xs ih =>
    obtain ⟨hx, hxs⟩ := List.ne_and_not_mem_of_not_mem_cons h
    rw [List.cons_append, pieces, if_neg (Ne.symm hx), ih hxs]

/-- A list with a separator in it has the pieces before the separator and those after it. -/
theorem pieces_append_separator {α : Type} [DecidableEq α] {separator : α} (xs ys : List α) :
    pieces separator (xs ++ separator :: ys) = pieces separator xs ++ pieces separator ys := by
  induction xs with
  | nil => exact pieces_append_cons List.not_mem_nil ys
  | cons x xs ih =>
    obtain ⟨first, later, hp⟩ := List.exists_cons_of_ne_nil (pieces_ne_nil separator xs)
    rw [List.cons_append, pieces, pieces, ih, hp]
    split <;> rfl

/-- What is in a piece is in the list. -/
theorem subset_of_mem_pieces {α : Type} [DecidableEq α] {separator : α} {xs piece : List α}
    (h : piece ∈ pieces separator xs) : piece ⊆ xs := by
  induction xs generalizing piece with
  | nil =>
    rw [pieces, List.mem_singleton] at h
    rw [h]
    exact List.nil_subset _
  | cons x xs ih =>
    obtain ⟨first, later, hp⟩ := List.exists_cons_of_ne_nil (pieces_ne_nil separator xs)
    rw [pieces, hp] at h
    rw [hp] at ih
    split at h
    · rcases List.mem_cons.1 h with rfl | h
      · exact List.nil_subset _
      · exact List.subset_cons_of_subset x (ih h)
    · rcases List.mem_cons.1 h with rfl | h
      · exact List.cons_subset_cons x (ih List.mem_cons_self)
      · exact List.subset_cons_of_subset x (ih (List.mem_cons_of_mem _ h))

/-- A list of lists that do not hold the separator is got back from their join by cutting at the
separator. -/
theorem pieces_intercalate {α : Type} [DecidableEq α] {separator : α} {ps : List (List α)}
    (hne : ps ≠ []) (h : ∀ p ∈ ps, separator ∉ p) :
    pieces separator ([separator].intercalate ps) = ps := by
  induction ps with
  | nil => exact absurd rfl hne
  | cons p ps ih =>
    obtain ⟨hp, hps⟩ := List.forall_mem_cons.1 h
    cases ps with
    | nil => rw [List.intercalate_singleton, pieces_of_not_mem hp]
    | cons q ps =>
      rw [List.intercalate_cons_cons, List.append_assoc, List.singleton_append,
        pieces_append_cons hp, ih (List.cons_ne_nil q ps) hps]

/-- Texts are got back from the text in which they stand with a character between them that none of
them holds. -/
theorem split_intercalate_of_not_mem {separator : Char} {mark : String} {texts : List String}
    (hmark : mark.toList = [separator]) (hne : texts ≠ [])
    (h : ∀ text ∈ texts, separator ∉ text.toList) :
    split separator (mark.intercalate texts) = texts := by
  have hpieces : pieces separator ([separator].intercalate (texts.map String.toList)) =
      texts.map String.toList :=
    pieces_intercalate (by simpa using hne) (List.forall_mem_map.2 h)
  rw [split, String.toList_intercalate, hmark, hpieces, List.map_map]
  have hid : String.ofList ∘ String.toList = id := funext fun _ => String.ofList_toList
  rw [hid, List.map_id]

/-- A text with a separator in it has the parts before the separator and those after it. -/
theorem split_append_separator {separator : Char} {mark : String}
    (hmark : mark.toList = [separator]) (x y : String) :
    split separator (x ++ mark ++ y) = split separator x ++ split separator y := by
  have hchars : (x ++ mark ++ y).toList = x.toList ++ separator :: y.toList := by simp [hmark]
  rw [split, hchars, pieces_append_separator, List.map_append, split, split]

/-- Texts with separators between them have the parts of each text, in order. -/
theorem split_intercalate {separator : Char} {mark : String} {texts : List String}
    (hmark : mark.toList = [separator]) (hne : texts ≠ []) :
    split separator (mark.intercalate texts) = texts.flatMap (split separator) := by
  induction texts with
  | nil => exact absurd rfl hne
  | cons text texts ih =>
    cases texts with
    | nil => simp
    | cons text' texts =>
      rw [String.intercalate_cons_cons, split_append_separator hmark, ih (List.cons_ne_nil _ _),
        ← List.flatMap_cons]

/-- Replacing a character by another one goes character by character. -/
theorem replaceChar_singleton (old new : Char) (cs : List Char) :
    replaceChar old [new] cs = cs.map fun c => if c = old then new else c := by
  induction cs with
  | nil => rfl
  | cons c cs ih =>
    rw [replaceChar] at ih ⊢
    rw [List.flatMap_cons, ih, List.map_cons]
    split <;> rfl

end Predictive.Text
