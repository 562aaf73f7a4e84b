/-!
# Cutting and joining

Cutting a list at every separator and a text at its first separator, and the inverse of the former.
Main statements: joining the pieces with the separator gives the list back
(`intercalate_pieces`), no piece holds the separator (`not_mem_of_mem_pieces`), and a cut at the
first separator loses nothing (`eq_of_cutAtFirst`).
-/

namespace Predictive.Text

/-- The parts of a list between its separators; a list with `n` separators has `n + 1` parts. -/
def pieces {α : Type} [DecidableEq α] (separator : α) : List α → List (List α)
  | [] => [[]]
  | x :: rest =>
    if x = separator then [] :: pieces separator rest
    else
      match pieces separator rest with
      | [] => [[x]]
      | piece :: more => (x :: piece) :: more

/-- The parts of a text between the separating characters. -/
def split (separator : Char) (text : String) : List String :=
  (pieces separator text.toList).map String.ofList

/-- What stands before and after the first place where the characters of `mark` stand. -/
def cutAtFirst (mark : List Char) : List Char → Option (List Char × List Char)
  | [] => if mark = [] then some ([], []) else none
  | c :: rest =>
    if mark.isPrefixOf (c :: rest) then some ([], (c :: rest).drop mark.length)
    else (cutAtFirst mark rest).map fun (before, after) => (c :: before, after)

/-- What stands before and after the first place where `mark` stands in the text. -/
def cut (mark text : String) : Option (String × String) :=
  (cutAtFirst mark.toList text.toList).map fun (before, after) =>
    (String.ofList before, String.ofList after)

/-- Whether `mark` stands somewhere in the text. -/
def holds (mark text : String) : Bool :=
  (cutAtFirst mark.toList text.toList).isSome

/-- Every occurrence of a character gives way to the characters `new`. -/
def replaceChar (old : Char) (new : List Char) (cs : List Char) : List Char :=
  cs.flatMap fun c => if c = old then new else [c]

/-- Every occurrence of a character of the text gives way to the text `new`. -/
def replace (old : Char) (new text : String) : String :=
  String.ofList (replaceChar old new.toList text.toList)

theorem pieces_ne_nil {α : Type} [DecidableEq α] (separator : α) (xs : List α) :
    pieces separator xs ≠ [] := by
  fun_cases pieces separator xs <;> simp

/-- No piece holds the separator. -/
theorem not_mem_of_mem_pieces {α : Type} [DecidableEq α] {separator : α} {xs piece : List α}
    (h : piece ∈ pieces separator xs) : separator ∉ piece := by
  fun_induction pieces separator xs generalizing piece <;> grind

/-- Joining the pieces with the separator gives the list back. -/
theorem intercalate_pieces {α : Type} [DecidableEq α] (separator : α) (xs : List α) :
    [separator].intercalate (pieces separator xs) = xs := by
  fun_induction pieces separator xs with
  | case1 => rfl
  | case2 rest ih =>
    obtain ⟨piece, more, hp⟩ := List.exists_cons_of_ne_nil (pieces_ne_nil separator rest)
    rw [hp] at ih ⊢
    simp [List.intercalate_cons_cons, ih]
  | case3 x rest _ hp => exact absurd hp (pieces_ne_nil separator rest)
  | case4 x rest _ piece more hp ih =>
    rw [hp] at ih
    cases more <;> simp_all [List.intercalate_cons_cons]

/-- A cut at the first mark loses nothing but the mark. -/
theorem eq_of_cutAtFirst {mark cs before after : List Char}
    (h : cutAtFirst mark cs = some (before, after)) : cs = before ++ mark ++ after := by
  fun_induction cutAtFirst mark cs generalizing before after with
  | case1 => simp_all
  | case2 => simp at h
  | case3 c rest hp =>
    obtain ⟨tail, ht⟩ := List.isPrefixOf_iff_prefix.1 hp
    simp only [Option.some.injEq, Prod.mk.injEq] at h
    rw [← h.1, ← h.2, ← ht]
    simp
  | case4 c rest _ ih =>
    simp only [Option.map_eq_some_iff] at h
    obtain ⟨⟨b, a⟩, hc, he⟩ := h
    simp only [Prod.mk.injEq] at he
    rw [← he.1, ← he.2, ih hc]
    simp

end Predictive.Text
