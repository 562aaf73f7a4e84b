import Predictive.Grammar.Layout
import Predictive.Proofs.BlankRuns
import Predictive.Proofs.Cuts

/-!
# What is left of the lines of a text

Each line of a text gives a physical line or, if it is blank or a comment, nothing: `plainLine`.
Main statements: what a line gives depends neither on the blanks around it (`plainLine_pad`) nor on
the kind of quotes in it (`plainLine_eq_of_replace_quote_eq`); two texts with blanks between them
give what each of them gives, with blanks between (`exists_plainLine_append_eq`); and what a line
gives is plain (`isPlain_of_plainLine`), which means that it is left as it is from then on
(`IsPlain.plainLine_eq`).
-/

namespace Predictive.Layout

open Text

/-- The line, without the blanks around it, starts with a comment mark. -/
def IsComment (line : String) : Prop :=
  ∃ mark ∈ commentMarks, mark.toList <+: (trim line).toList

instance (line : String) : Decidable (IsComment line) :=
  inferInstanceAs (Decidable (∃ mark ∈ commentMarks, mark.toList <+: (trim line).toList))

/-- What is left of a line of a text: nothing, if it is blank or a comment, and otherwise the line
without the blanks around it and with single quotes for double ones. -/
def plainLine (line : String) : Option String :=
  if hasContent (trim line) then some (replace '\x22' "'" (trim line)) else none

/-- A text that stays as it is in a line, wherever it stands in it. -/
structure IsInline (text : String) : Prop where
  /-- It has a character. -/
  ne_empty : text ≠ ""
  /-- There are no blanks around it. -/
  trimmed : Trimmed text.toList
  /-- It has no double quotes. -/
  not_mem_quote : '\x22' ∉ text.toList
  /-- It has no line ends. -/
  not_mem_newline : '\n' ∉ text.toList

/-- A line that is left as it is when the layout of a text is undone. -/
structure IsPlain (line : String) : Prop extends IsInline line where
  /-- It is no comment. -/
  no_commentMark : ∀ mark ∈ commentMarks, ¬ mark.toList <+: line.toList

/-- A single quote for a double one, and any other character for itself. -/
def unquoted (c : Char) : Char := if c = '\x22' then '\x27' else c

variable {line line' x y u v mark : String} {cs marks : List Char}

/-! ## Quotes -/

/-- A quote is no blank, of whatever kind it is. -/
theorem isBlank_unquoted (c : Char) : isBlank (unquoted c) = isBlank c := by
  rw [unquoted]
  split
  · rename_i hc
    rw [hc]
    rfl
  · rfl

/-- No double quote is left. -/
theorem not_mem_map_unquoted (cs : List Char) : '\x22' ∉ cs.map unquoted := by
  intro hmem
  obtain ⟨c, -, hc⟩ := List.mem_map.1 hmem
  rw [unquoted] at hc
  split at hc
  · exact absurd hc (by decide)
  · contradiction

/-- Characters without double quotes stay as they are. -/
theorem map_unquoted_eq_self (h : '\x22' ∉ cs) : cs.map unquoted = cs := by
  have hid : ∀ c ∈ cs, unquoted c = id c := by
    intro c hc
    refine if_neg fun hquote => h ?_
    rwa [hquote] at hc
  rw [List.map_congr_left hid, List.map_id]

/-- A character that is no single quote comes from itself only. -/
theorem mem_of_mem_map_unquoted {c : Char} (hc : c ≠ '\x27') (h : c ∈ cs.map unquoted) :
    c ∈ cs := by
  obtain ⟨d, hd, hunquoted⟩ := List.mem_map.1 h
  rw [unquoted] at hunquoted
  split at hunquoted
  · exact absurd hunquoted.symm hc
  · rwa [← hunquoted]

/-- Characters that are not quotes come from themselves only. -/
theorem eq_map_unquoted_iff (hdouble : '\x22' ∉ marks) (hsingle : '\x27' ∉ marks) :
    marks = cs.map unquoted ↔ marks = cs := by
  constructor
  · intro h
    -- A double quote would have become a single one, which is not there.
    have hcs : '\x22' ∉ cs := by
      intro hmem
      rw [h] at hsingle
      exact hsingle (List.mem_map_of_mem hmem)
    rw [h, map_unquoted_eq_self hcs]
  · rintro rfl
    rw [map_unquoted_eq_self hdouble]

/-- A text starts with a mark without quotes whatever kind of quotes is in the text. -/
theorem prefix_map_unquoted_iff (hdouble : '\x22' ∉ marks) (hsingle : '\x27' ∉ marks) :
    marks <+: cs.map unquoted ↔ marks <+: cs := by
  rw [List.prefix_map_iff]
  simp only [eq_map_unquoted_iff hdouble hsingle]
  simp

/-- A mark without quotes stands in a text whatever kind of quotes is in the text. -/
theorem infix_map_unquoted_iff (hdouble : '\x22' ∉ marks) (hsingle : '\x27' ∉ marks) :
    marks <:+: cs.map unquoted ↔ marks <:+: cs := by
  rw [List.infix_map_iff]
  simp only [eq_map_unquoted_iff hdouble hsingle]
  simp

/-- Quotes are no matter to trimming. -/
theorem trimChars_map_unquoted (cs : List Char) :
    trimChars (cs.map unquoted) = (trimChars cs).map unquoted := by
  have hcomp : isBlank ∘ unquoted = isBlank := funext isBlank_unquoted
  simp only [trimChars, List.dropWhile_map, ← List.map_reverse, hcomp]

/-- Replacing double quotes goes character by character. -/
theorem toList_replace_quote (line : String) :
    (replace '\x22' "'" line).toList = line.toList.map unquoted := by
  rw [replace, String.toList_ofList]
  exact replaceChar_singleton _ _ _

/-- Double quotes may be replaced before or after trimming. -/
theorem trim_replace_quote (line : String) :
    trim (replace '\x22' "'" line) = replace '\x22' "'" (trim line) := by
  rw [← String.toList_inj, trim, toList_replace_quote, toList_replace_quote, trim,
    String.toList_ofList, String.toList_ofList, trimChars_map_unquoted]

/-! ## Content -/

/-- A line has content exactly when it is not empty and starts with no comment mark. -/
theorem hasContent_iff :
    hasContent line = true ↔ line ≠ "" ∧ ∀ mark ∈ commentMarks, ¬ mark.toList <+: line.toList := by
  simp [hasContent, List.isPrefixOf_iff_prefix]

/-- Content is no matter of quotes. -/
theorem hasContent_replace_quote (line : String) :
    hasContent (replace '\x22' "'" line) = hasContent line := by
  have hmarks : ∀ mark ∈ commentMarks, '\x22' ∉ mark.toList ∧ '\x27' ∉ mark.toList := by decide
  rw [Bool.eq_iff_iff, hasContent_iff, hasContent_iff]
  refine and_congr ?_ (forall₂_congr fun mark hmark => not_congr ?_)
  · rw [Ne, Ne, ← String.toList_inj, ← String.toList_inj, toList_replace_quote]
    simp
  · rw [toList_replace_quote, prefix_map_unquoted_iff (hmarks mark hmark).1 (hmarks mark hmark).2]

/-- Whether a text starts with a comment mark does not depend on what follows it after blanks. -/
theorem commentMark_prefix_append_iff (hmark : mark ∈ commentMarks) (hu : Blanks u.toList)
    (hne : u ≠ "") (x y : String) :
    mark.toList <+: (x ++ u ++ y).toList ↔ mark.toList <+: x.toList := by
  have hmarks : ∀ mark ∈ commentMarks, NoBlanks mark.toList := by decide
  obtain ⟨c, rest, hcons⟩ := List.exists_cons_of_ne_nil (show u.toList ≠ [] by simpa using hne)
  have hc : c ∉ mark.toList := by
    intro hmem
    have hblank : isBlank c = true := hu c (by rw [hcons]; exact List.mem_cons_self)
    rw [hmarks mark hmark c hmem] at hblank
    cases hblank
  rw [String.toList_append, String.toList_append, hcons, List.append_assoc, List.cons_append]
  exact prefix_append_cons_iff hc

/-! ## Lines -/

/-- Nothing is left of a line exactly when it is blank or a comment. -/
theorem plainLine_eq_none_iff : plainLine line = none ↔ Blanks line.toList ∨ IsComment line := by
  have hempty : trim line = "" ↔ Blanks line.toList := by
    rw [← String.toList_inj, trim, String.toList_ofList, ← trimChars_eq_nil_iff]
    rfl
  rw [plainLine, ite_eq_right_iff]
  simp only [reduceCtorEq, imp_false, hasContent_iff, IsComment, not_and_or, not_forall, not_not]
  rw [hempty]
  simp

/-- What is left of a line with content. -/
theorem plainLine_eq_some (hblank : ¬ Blanks line.toList) (hcomment : ¬ IsComment line) :
    plainLine line = some (replace '\x22' "'" (trim line)) := by
  have hne : plainLine line ≠ none := by
    rw [Ne, plainLine_eq_none_iff]
    exact not_or.2 ⟨hblank, hcomment⟩
  rw [plainLine] at hne ⊢
  split at hne
  · rw [if_pos ‹_›]
  · exact absurd rfl hne

/-- Blanks around a line make no difference to what is left of it. -/
theorem plainLine_pad (hu : Blanks u.toList) (hv : Blanks v.toList) (line : String) :
    plainLine (u ++ line ++ v) = plainLine line := by
  have htrim : trim (u ++ line ++ v) = trim line := by
    rw [trim, String.toList_append, String.toList_append, trimChars_append_blanks hu hv, trim]
  rw [plainLine, htrim, plainLine]

/-- Blanks before a line make no difference to what is left of it. -/
theorem plainLine_blanks_append (hu : Blanks u.toList) (line : String) :
    plainLine (u ++ line) = plainLine line := by
  have h := plainLine_pad hu (show Blanks "".toList by decide) line
  rwa [String.append_empty] at h

/-- Blanks after a line make no difference to what is left of it. -/
theorem plainLine_append_blanks (hv : Blanks v.toList) (line : String) :
    plainLine (line ++ v) = plainLine line := by
  have h := plainLine_pad (show Blanks "".toList by decide) hv line
  rwa [String.empty_append] at h

/-- A mark without quotes that stands in what is left of a line stands in the line. -/
theorem isInfix_of_plainLine (hdouble : '\x22' ∉ marks) (hsingle : '\x27' ∉ marks)
    (h : plainLine line = some x) (hpart : marks <:+: x.toList) : marks <:+: line.toList := by
  rw [plainLine, Option.ite_none_right_eq_some] at h
  rw [← Option.some.inj h.2, toList_replace_quote, infix_map_unquoted_iff hdouble hsingle, trim,
    String.toList_ofList] at hpart
  exact hpart.trans (isInfix_trimChars _)

/-- The kind of quotes in a line makes no difference to what is left of it. -/
theorem plainLine_eq_of_replace_quote_eq
    (h : replace '\x22' "'" line = replace '\x22' "'" line') :
    plainLine line = plainLine line' := by
  have hplain : ∀ l, plainLine l =
      if hasContent (trim (replace '\x22' "'" l)) then some (trim (replace '\x22' "'" l))
      else none := by
    intro l
    rw [trim_replace_quote, hasContent_replace_quote, plainLine]
  rw [hplain line, h, hplain line']

/-- What is left of two texts with blanks between them is what is left of each, with blanks between,
if there is something left of each and no comment is made or unmade by the blanks. -/
theorem exists_plainLine_append_eq (hu : Blanks u.toList) (hne : u ≠ "")
    (hx : ¬ Blanks x.toList) (hy : ¬ Blanks y.toList) (hcomment : ¬ IsComment (x ++ u ++ y))
    (hycomment : ¬ IsComment y) :
    ∃ x' v y', plainLine x = some x' ∧ plainLine y = some y' ∧ Blanks v.toList ∧ v ≠ "" ∧
      plainLine (x ++ u ++ y) = some (x' ++ v ++ y') := by
  obtain ⟨v, hv, hvne, htrim⟩ := exists_trimChars_append_eq hu (by simpa using hne) hx hy
  have hv' : Blanks (String.ofList v).toList := by rwa [String.toList_ofList]
  have hvne' : String.ofList v ≠ "" := by simpa using hvne
  have htrim' : trim (x ++ u ++ y) = trim x ++ String.ofList v ++ trim y := by
    rw [trim, String.toList_append, String.toList_append, htrim, trim, trim, String.ofList_append,
      String.ofList_append]
  -- What follows a comment on its line belongs to the comment.
  have hxcomment : ¬ IsComment x := by
    rintro ⟨mark, hmark, hstart⟩
    refine hcomment ⟨mark, hmark, ?_⟩
    rwa [htrim', commentMark_prefix_append_iff hmark hv' hvne']
  have hwhole : ¬ Blanks (x ++ u ++ y).toList := by
    rw [String.toList_append, blanks_append_iff]
    exact fun h => hy h.2
  refine ⟨_, String.ofList v, _, plainLine_eq_some hx hxcomment, plainLine_eq_some hy hycomment,
    hv', hvne', ?_⟩
  have hquote : '\x22' ∉ v := fun hmem => absurd (hv _ hmem) (by decide)
  rw [plainLine_eq_some hwhole hcomment, htrim', Option.some.injEq, ← String.toList_inj]
  simp only [String.toList_append, toList_replace_quote, List.map_append, String.toList_ofList,
    map_unquoted_eq_self hquote]

/-! ## Plain lines -/

/-- What is left of a line is plain. -/
theorem isPlain_of_plainLine (hline : '\n' ∉ line.toList) (h : plainLine line = some x) :
    IsPlain x := by
  rw [plainLine, Option.ite_none_right_eq_some, ← hasContent_replace_quote, hasContent_iff] at h
  obtain ⟨⟨hne, hstart⟩, hx⟩ := h
  rw [← Option.some.inj hx]
  refine ⟨⟨hne, ?_, ?_, ?_⟩, hstart⟩
  · rw [← trim_replace_quote, trim, String.toList_ofList]
    exact trimmed_trimChars _
  · rw [toList_replace_quote]
    exact not_mem_map_unquoted _
  · rw [toList_replace_quote, trim, String.toList_ofList]
    exact fun hmem => hline
      ((isInfix_trimChars _).subset (mem_of_mem_map_unquoted (by decide) hmem))

/-- A plain line is left as it is. -/
theorem IsPlain.plainLine_eq (h : IsPlain line) : plainLine line = some line := by
  have htrim : trim line = line := by
    rw [trim, trimChars_of_trimmed h.trimmed, String.ofList_toList]
  rw [plainLine, htrim, if_pos (hasContent_iff.2 ⟨h.ne_empty, h.no_commentMark⟩), Option.some.injEq,
    ← String.toList_inj, toList_replace_quote, map_unquoted_eq_self h.not_mem_quote]

/-- Two inline texts are an inline text together with whatever stands between them, as long as that
has neither double quotes nor line ends. -/
theorem IsInline.append (hx : IsInline x) (hy : IsInline y) (hquote : '\x22' ∉ u.toList)
    (hnewline : '\n' ∉ u.toList) : IsInline (x ++ u ++ y) := by
  have hxne : x.toList ≠ [] := by simpa using hx.ne_empty
  have hyne : y.toList ≠ [] := by simpa using hy.ne_empty
  refine ⟨?_, ?_, ?_, ?_⟩
  · rw [Ne, ← String.toList_inj]
    simp [hxne]
  · rw [String.toList_append, String.toList_append]
    exact hx.trimmed.append hy.trimmed hxne hyne _
  · simp [hx.not_mem_quote, hy.not_mem_quote, hquote]
  · simp [hx.not_mem_newline, hy.not_mem_newline, hnewline]

/-- Inline texts are an inline text together with whatever stands between any two of them, as long
as that has neither double quotes nor line ends. -/
theorem isInline_intercalate {texts : List String} (hne : texts ≠ [])
    (h : ∀ text ∈ texts, IsInline text) (hquote : '\x22' ∉ u.toList)
    (hnewline : '\n' ∉ u.toList) : IsInline (u.intercalate texts) := by
  induction texts with
  | nil => exact absurd rfl hne
  | cons text texts ih =>
    obtain ⟨htext, htexts⟩ := List.forall_mem_cons.1 h
    cases texts with
    | nil => rwa [String.intercalate_singleton]
    | cons next texts =>
      rw [String.intercalate_cons_cons]
      exact htext.append (ih (List.cons_ne_nil next texts) htexts) hquote hnewline

/-- A plain line goes on with any inline text after a space. -/
theorem IsPlain.append (hx : IsPlain x) (hy : IsInline y) : IsPlain (x ++ " " ++ y) := by
  refine ⟨hx.toIsInline.append hy (by decide) (by decide), fun mark hmark => ?_⟩
  rw [commentMark_prefix_append_iff hmark (by decide) (by decide)]
  exact hx.no_commentMark mark hmark

/-- Plain lines with spaces between them are a plain line. -/
theorem isPlain_intercalate {lines : List String} (hne : lines ≠ [])
    (h : ∀ line ∈ lines, IsPlain line) : IsPlain (" ".intercalate lines) := by
  cases lines with
  | nil => exact absurd rfl hne
  | cons line lines =>
    obtain ⟨hline, hlines⟩ := List.forall_mem_cons.1 h
    cases lines with
    | nil => rwa [String.intercalate_singleton]
    | cons next lines =>
      rw [String.intercalate_cons_cons]
      exact hline.append (isInline_intercalate (List.cons_ne_nil next lines)
        (fun text htext => (hlines text htext).toIsInline) (by decide) (by decide))

end Predictive.Layout
