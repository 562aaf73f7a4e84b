import Mathlib.Data.List.Forall2
import Predictive.Analysis.Report
import Predictive.Proofs.Readers

/-!
# Listings of sets

A list of sets is shown with its symbols in quotes, and the symbols can have quotes, commas, braces
and brackets of their own. Main statement: none the less a listing tells the sets
(`listings_tell_sets`): two listings are the same text only when they list the same sets, and two
lines of a report only when they are about the same non-terminal too.

A listing can be read back, whatever follows it (`readList_renderCollections`). For a line of a
report that is not enough: the non-terminal before the listing can be any text, and so can look like
a part of one. But where a reader who keeps track of quotes is after a text tells where it was
before (`Spot.eq_of_scan_eq`), and it is outside quotes at both ends of a listing
(`Spot.scan_renderAll`).
-/

namespace Predictive

open Text

/-! ## Lists in brackets -/

/-- The characters of texts in braces. -/
theorem toList_braced (texts : List String) :
    (braced texts).toList =
      '\x7b' :: ([',', ' '].intercalate (texts.map String.toList) ++ ['\x7d']) := by
  simp [braced, String.toList_intercalate]

/-- The characters of texts in brackets. -/
theorem toList_bracketed (texts : List String) :
    (bracketed texts).toList =
      '[' :: ([',', ' '].intercalate (texts.map String.toList) ++ [']']) := by
  simp [bracketed, String.toList_intercalate]

/-- Texts in braces are read back if each of them is and none of them starts with a closing
brace. -/
theorem readList_braced {α : Type} {item : Reader α} {write : α → String}
    (hread : ∀ a rest, item ((write a).toList ++ rest) = some (a, rest))
    (hhead : ∀ a, ∃ c tail, (write a).toList = c :: tail ∧ c ≠ '\x7d') (as : List α)
    (rest : List Char) :
    readList item '\x7b' '\x7d' ((braced (as.map write)).toList ++ rest) = some (as, rest) := by
  rw [toList_braced, List.map_map, List.cons_append, List.append_assoc, List.singleton_append]
  exact readList_of_reads hread (by decide) hhead as rest

/-- Texts in brackets are read back if each of them is and none of them starts with a closing
bracket. -/
theorem readList_bracketed {α : Type} {item : Reader α} {write : α → String}
    (hread : ∀ a rest, item ((write a).toList ++ rest) = some (a, rest))
    (hhead : ∀ a, ∃ c tail, (write a).toList = c :: tail ∧ c ≠ ']') (as : List α)
    (rest : List Char) :
    readList item '[' ']' ((bracketed (as.map write)).toList ++ rest) = some (as, rest) := by
  rw [toList_bracketed, List.map_map, List.cons_append, List.append_assoc, List.singleton_append]
  exact readList_of_reads hread (by decide) hhead as rest

/-- A quoted text is read back, whatever follows it. -/
theorem readQuoted_quoted (text : String) (rest : List Char) :
    readQuoted ((quoted text).toList ++ rest) = some (text, rest) := by
  rw [quoted, String.toList_ofList, readQuoted_quoteChars, String.ofList_toList]

/-- A quoted text starts with a quote. -/
theorem exists_quoted_eq_cons (text : String) :
    ∃ c tail, (quoted text).toList = c :: tail ∧ (c = '\x27' ∨ c = '\x22') := by
  rw [quoted, String.toList_ofList]
  exact ⟨quoteFor text.toList, _, rfl, quoteFor_eq_or text.toList⟩

/-- Symbols that are shown in braces are read back, whatever follows them. -/
theorem readList_renderMembers (symbols : List Symbol) (rest : List Char) :
    readList readQuoted '\x7b' '\x7d' ((renderMembers symbols).toList ++ rest) =
      some (symbols, rest) := by
  refine readList_braced readQuoted_quoted (fun text => ?_) symbols rest
  obtain ⟨c, tail, htext, hc⟩ := exists_quoted_eq_cons text
  refine ⟨c, tail, htext, ?_⟩
  rcases hc with rfl | rfl <;> decide

/-- A listing shows the sorted members of the collections, each in braces. -/
theorem renderCollections_eq (collections : List (List Symbol)) :
    renderCollections collections =
      bracketed ((collections.map sortSymbols).map renderMembers) := by
  rw [List.map_map]
  rfl

/-- The sorted members of the collections are read off their listing, whatever follows it. -/
theorem readList_renderCollections (collections : List (List Symbol)) (rest : List Char) :
    readList (readList readQuoted '\x7b' '\x7d') '[' ']'
        ((renderCollections collections).toList ++ rest) =
      some (collections.map sortSymbols, rest) := by
  rw [renderCollections_eq]
  refine readList_bracketed readList_renderMembers (fun symbols => ?_) _ rest
  exact ⟨'\x7b', _, toList_braced _, by decide⟩

/-- Two listings are the same text exactly when they list the same sorted members. -/
theorem renderCollections_eq_iff {a b : List (List Symbol)} :
    renderCollections a = renderCollections b ↔ a.map sortSymbols = b.map sortSymbols := by
  constructor
  · intro h
    have ha := readList_renderCollections a []
    rw [h, readList_renderCollections] at ha
    simpa using ha.symm
  · intro h
    rw [renderCollections_eq, renderCollections_eq, h]

/-! ## Sorted members -/

/-- Sorting keeps the members and their repetitions. -/
theorem sortSymbols_perm (symbols : List Symbol) : (sortSymbols symbols).Perm symbols :=
  List.mergeSort_perm _ _

/-- Sorted members are in ascending order. -/
theorem pairwise_sortSymbols (symbols : List Symbol) : (sortSymbols symbols).Pairwise (· ≤ ·) := by
  have htrans : ∀ a b c : Symbol, decide (a ≤ b) = true → decide (b ≤ c) = true →
      decide (a ≤ c) = true := by
    intro a b c hab hbc
    exact decide_eq_true (String.le_trans (of_decide_eq_true hab) (of_decide_eq_true hbc))
  have htotal : ∀ a b : Symbol, (decide (a ≤ b) || decide (b ≤ a)) = true := by
    intro a b
    simpa using String.le_total a b
  exact (List.pairwise_mergeSort htrans htotal symbols).imp of_decide_eq_true

/-- Two collections have the same sorted members exactly when they have the same members with the
same repetitions. -/
theorem sortSymbols_eq_iff {x y : List Symbol} : sortSymbols x = sortSymbols y ↔ x.Perm y := by
  constructor
  · intro h
    exact (sortSymbols_perm x).symm.trans (h ▸ sortSymbols_perm y)
  · intro h
    refine List.Perm.eq_of_pairwise (fun a b _ _ => String.le_antisymm) (pairwise_sortSymbols x)
      (pairwise_sortSymbols y) ?_
    exact (sortSymbols_perm x).trans (h.trans (sortSymbols_perm y).symm)

/-- The members of sets are sorted. -/
theorem map_sortSymbols_toList (sets : List SymbolSet) :
    (sets.map SymbolSet.toList).map sortSymbols = sets.map SymbolSet.toList := by
  rw [List.map_map]
  refine List.map_congr_left fun set _ => ?_
  exact List.mergeSort_of_pairwise (set.ascending.imp fun h => decide_eq_true (Std.le_of_lt h))

/-- A list of sets is listed as their members are. -/
theorem renderAll_eq (sets : List SymbolSet) :
    SymbolSet.renderAll sets = renderCollections (sets.map SymbolSet.toList) := by
  rw [renderCollections_eq, map_sortSymbols_toList, List.map_map]
  rfl

/-- The members tell a set. -/
theorem SymbolSet.toList_injective : Function.Injective SymbolSet.toList := by
  intro a b h
  cases a
  cases b
  simpa using h

/-- Two lists of sets have the same listing exactly when they are the same. -/
theorem renderAll_eq_iff {sets sets' : List SymbolSet} :
    SymbolSet.renderAll sets = SymbolSet.renderAll sets' ↔ sets = sets' := by
  rw [renderAll_eq, renderAll_eq, renderCollections_eq_iff, map_sortSymbols_toList,
    map_sortSymbols_toList]
  exact SymbolSet.toList_injective.list_map.eq_iff

/-! ## Where a reader is -/

/-- Where a reader of a listing is, by the quotes that have been read. -/
inductive Spot where
  /-- Outside quotes. -/
  | outside
  /-- After a double quote, or a single one, that has not been closed. -/
  | inside (double : Bool)
  /-- Inside quotes and right after a backslash, which takes the next character. -/
  | escaped (double : Bool)
  deriving DecidableEq

namespace Spot

/-- The quote of either kind. -/
def mark (double : Bool) : Char := if double then '\x22' else '\x27'

/-- The characters of a listing that stand outside quotes. -/
def punctuation : List Char := ['[', ']', '\x7b', '\x7d', ',', ' ']

/-- Where the reader is after a character. Outside quotes only some characters are read. -/
def step : Spot → Char → Option Spot
  | .outside, c =>
    if c = mark true then some (.inside true)
    else if c = mark false then some (.inside false)
    else if c ∈ punctuation then some .outside
    else none
  | .inside double, c =>
    if c = '\\' then some (.escaped double)
    else if c = mark double then some .outside
    else some (.inside double)
  | .escaped double, _ => some (.inside double)

/-- Whether the next character is taken by a backslash. -/
def isEscaped : Spot → Bool
  | .escaped _ => true
  | _ => false

/-- Where the reader is after a text. -/
def scan (spot : Spot) (cs : List Char) : Option Spot := cs.foldlM step spot

/-- Readers at different spots who read the same character are at different spots after it: a quote
takes one spot to the other, and no other character takes a reader out of quotes or into them. -/
theorem eq_of_step_eq {a b a' b' : Spot} {c : Char} (h : a.isEscaped = b.isEscaped)
    (ha : a.step c = some a') (hb : b.step c = some b') :
    a'.isEscaped = b'.isEscaped ∧ (a' = b' → a = b) := by
  cases a <;> cases b <;> simp only [step, isEscaped, mark, punctuation] at * <;> grind

/-- Readers who are at the same spot after a text were at the same spot before it. -/
theorem eq_of_scan_eq {a b z : Spot} {cs : List Char} (h : a.isEscaped = b.isEscaped)
    (ha : a.scan cs = some z) (hb : b.scan cs = some z) : a = b := by
  induction cs generalizing a b with
  | nil => exact Option.some.inj (ha.trans hb.symm)
  | cons c cs ih =>
    rw [scan, List.foldlM_cons] at ha hb
    obtain ⟨a', ha', ha⟩ := Option.bind_eq_some_iff.1 ha
    obtain ⟨b', hb', hb⟩ := Option.bind_eq_some_iff.1 hb
    obtain ⟨hescaped, hstep⟩ := eq_of_step_eq h ha' hb'
    exact hstep (ih hescaped ha hb)

/-- A text is read after another from where the other is read. -/
theorem scan_append (spot : Spot) (cs ds : List Char) :
    spot.scan (cs ++ ds) = (spot.scan cs).bind (scan · ds) :=
  List.foldlM_append

theorem scan_cons (spot : Spot) (c : Char) (cs : List Char) :
    spot.scan (c :: cs) = (spot.step c).bind (scan · cs) :=
  List.foldlM_cons

/-! ## Listings are read outside quotes -/

/-- A reader stays inside quotes while there is neither a backslash nor the closing quote. -/
theorem scan_inside {double : Bool} {cs : List Char}
    (h : ∀ c ∈ cs, c ≠ '\\' ∧ c ≠ mark double) :
    (inside double).scan cs = some (.inside double) := by
  induction cs with
  | nil => rfl
  | cons c cs ih =>
    obtain ⟨⟨hslash, hmark⟩, hrest⟩ := List.forall_mem_cons.1 h
    rw [scan_cons, step, if_neg hslash, if_neg hmark]
    exact ih hrest

/-- Hexadecimal digits are neither backslashes nor quotes. -/
theorem scan_hexDigits (double : Bool) (width n : Nat) :
    (inside double).scan (hexDigits width n) = some (.inside double) := by
  have hdigit : ∀ double, ∀ digit < 16,
      hexDigit digit ≠ '\\' ∧ hexDigit digit ≠ mark double := by decide
  refine scan_inside fun c hc => ?_
  obtain ⟨digit, hlt, rfl⟩ := exists_eq_hexDigit_of_mem hc
  exact hdigit double digit hlt

/-- However a character is written, a reader inside quotes stays there. -/
theorem scan_escapeChar (double : Bool) (c : Char) :
    (inside double).scan (escapeChar (mark double) c) = some (.inside double) := by
  have hescape : ∀ (d : Char) (ds : List Char),
      (inside double).scan ('\\' :: d :: ds) = (inside double).scan ds := fun _ _ => rfl
  fun_cases escapeChar (mark double) c with
  | case1 | case2 | case3 | case4 => rfl
  | case5 hmark =>
    simp only [Bool.or_eq_true, decide_eq_true_eq, not_or] at hmark
    exact scan_inside (List.forall_mem_singleton.2 hmark.symm)
  | case6 | case7 | case8 => rw [hescape, scan_hexDigits]

/-- A quoted text is read from outside quotes to outside quotes. -/
theorem scan_quoted (text : String) : outside.scan (quoted text).toList = some .outside := by
  obtain ⟨double, hquote⟩ : ∃ double, quoteFor text.toList = mark double := by
    rcases quoteFor_eq_or text.toList with h | h
    · exact ⟨false, h⟩
    · exact ⟨true, h⟩
  have hopen : outside.step (mark double) = some (.inside double) := by
    cases double <;> rfl
  have hclose : (inside double).step (mark double) = some .outside := by
    cases double <;> rfl
  have hbody : ∀ cs : List Char,
      (inside double).scan (cs.flatMap (escapeChar (mark double))) = some (.inside double) := by
    intro cs
    induction cs with
    | nil => rfl
    | cons c cs ih => rw [List.flatMap_cons, scan_append, scan_escapeChar, Option.bind_some, ih]
  rw [quoted, String.toList_ofList, quoteChars, hquote, List.cons_append, scan_cons, hopen,
    Option.bind_some, scan_append, hbody, Option.bind_some, scan_cons, hclose]
  rfl

/-- So are texts with commas between them, if each of them is. -/
theorem scan_intercalate {lists : List (List Char)}
    (h : ∀ cs ∈ lists, outside.scan cs = some .outside) :
    outside.scan ([',', ' '].intercalate lists) = some .outside := by
  induction lists with
  | nil => rfl
  | cons cs lists ih =>
    obtain ⟨hcs, hlists⟩ := List.forall_mem_cons.1 h
    cases lists with
    | nil => rwa [List.intercalate_singleton]
    | cons ds lists =>
      rw [List.intercalate_cons_cons, List.append_assoc, scan_append, hcs, Option.bind_some,
        scan_append]
      exact ih hlists

/-- So are texts between other characters that stand outside quotes. -/
theorem scan_enclosed {opening close : Char} {cs : List Char}
    (hopening : outside.step opening = some .outside) (hclose : outside.step close = some .outside)
    (h : outside.scan cs = some .outside) :
    outside.scan (opening :: (cs ++ [close])) = some .outside := by
  rw [scan_cons, hopening, Option.bind_some, scan_append, h, Option.bind_some, scan_cons, hclose]
  rfl

/-- So are listings of sets. -/
theorem scan_renderAll (sets : List SymbolSet) :
    outside.scan (SymbolSet.renderAll sets).toList = some .outside := by
  have hset : ∀ set : SymbolSet, outside.scan set.render.toList = some .outside := by
    intro set
    rw [SymbolSet.render, renderMembers, toList_braced]
    refine scan_enclosed rfl rfl (scan_intercalate ?_)
    simp only [List.forall_mem_map]
    exact fun s _ => scan_quoted s
  rw [SymbolSet.renderAll, toList_bracketed]
  refine scan_enclosed rfl rfl (scan_intercalate ?_)
  simp only [List.forall_mem_map]
  exact fun set _ => hset set

/-- An equals sign is read inside quotes, and so is a space right after it. -/
theorem ne_outside_of_scan_equals {spot spot' : Spot} {cs : List Char}
    (h : spot.scan (cs ++ ['=', ' ']) = some spot') :
    spot'.isEscaped = false ∧ spot' ≠ .outside := by
  rw [scan_append] at h
  obtain ⟨before, -, h⟩ := Option.bind_eq_some_iff.1 h
  cases before with
  | outside => cases h
  | inside double | escaped double =>
    cases double <;> cases h <;> exact ⟨rfl, nofun⟩

end Spot

/-! ## Lines of a report -/

open Spot in
/-- No part of a listing that ends as the text before a listing does has a listing after it. -/
theorem eq_nil_of_renderAll {sets sets' : List SymbolSet} {part cs : List Char}
    (h : (SymbolSet.renderAll sets).toList = part ++ (SymbolSet.renderAll sets').toList)
    (hpart : part <:+ cs ++ ['=', ' ']) : part = [] := by
  cases part with
  | nil => rfl
  | cons c part =>
    rcases List.suffix_or_suffix_of_suffix hpart (List.suffix_append cs _) with hshort | hlong
    · -- A listing starts with a bracket.
      rw [SymbolSet.renderAll, toList_bracketed, List.cons_append, List.cons.injEq] at h
      have hmem : c ∈ ['=', ' '] := hshort.subset List.mem_cons_self
      rw [← h.1] at hmem
      exact absurd hmem (by decide)
    · -- Inside quotes before the other listing, its reader would be so after it.
      obtain ⟨before, hbefore⟩ := hlong
      have hscan := scan_renderAll sets
      rw [h, ← hbefore, scan_append] at hscan
      obtain ⟨spot, hspot, hrest⟩ := Option.bind_eq_some_iff.1 hscan
      obtain ⟨hescaped, hne⟩ := ne_outside_of_scan_equals hspot
      exact absurd (eq_of_scan_eq hescaped hrest (scan_renderAll sets')) hne

/-- A line of a report tells the non-terminal and its sets. -/
theorem SelectionReport.render_eq_iff {r r' : SelectionReport} : r.render = r'.render ↔ r = r' := by
  constructor
  · intro h
    have hlist : ∀ r : SelectionReport, r.render.toList =
        ("first_plus(".toList ++ r.nonTerminal.toList ++ [')', ' '] ++ ['=', ' ']) ++
          (SymbolSet.renderAll r.sets).toList := by
      intro r
      simp [render]
    have h' := congrArg String.toList h
    rw [hlist, hlist, List.append_eq_append_iff] at h'
    have hsame : "first_plus(".toList ++ r.nonTerminal.toList ++ [')', ' '] ++ ['=', ' '] =
        "first_plus(".toList ++ r'.nonTerminal.toList ++ [')', ' '] ++ ['=', ' '] ∧
        (SymbolSet.renderAll r.sets).toList = (SymbolSet.renderAll r'.sets).toList := by
      rcases h' with ⟨part, hbefore, hafter⟩ | ⟨part, hbefore, hafter⟩
      · obtain rfl := eq_nil_of_renderAll hafter (hbefore ▸ List.suffix_append _ part)
        exact ⟨by simpa using hbefore.symm, hafter⟩
      · obtain rfl := eq_nil_of_renderAll hafter (hbefore ▸ List.suffix_append _ part)
        exact ⟨by simpa using hbefore, hafter.symm⟩
    obtain ⟨hnonTerminal, hsets⟩ := hsame
    have hnames : r.nonTerminal = r'.nonTerminal :=
      String.toList_inj.1 (by simpa using hnonTerminal)
    have hlisted : r.sets = r'.sets := renderAll_eq_iff.1 (String.toList_inj.1 hsets)
    cases r
    cases r'
    exact congrArg₂ mk hnames hlisted
  · exact fun h => h ▸ rfl

/-- Lists are related place by place alike if their members are. -/
theorem forall₂_congr_of_mem {α β : Type} {R S : α → β → Prop} {a : List α} {b : List β}
    (h : ∀ x ∈ a, ∀ y ∈ b, (R x y ↔ S x y)) : List.Forall₂ R a b ↔ List.Forall₂ S a b := by
  simp only [List.forall₂_iff_get]
  refine and_congr_right fun _ => forall_congr' fun i => forall₂_congr fun hi hi' => ?_
  exact h _ (List.get_mem ..) _ (List.get_mem ..)

/-- What texts tell about the sets that they list. -/
structure ListingsTellSets : Prop where
  /-- Two lists of collections are listed alike exactly when they are of one length and have, place
  by place, the same sorted members. -/
  collections_iff : ∀ a b : List (List Symbol), renderCollections a = renderCollections b ↔
    List.Forall₂ (fun x y => sortSymbols x = sortSymbols y) a b
  /-- The sorted members of a collection are its members, in ascending order. -/
  sorted : ∀ x : List Symbol, (sortSymbols x).Perm x ∧ (sortSymbols x).Pairwise (· ≤ ·)
  /-- Without repetitions, that is when they have the same members place by place. -/
  distinct_iff : ∀ a b : List (List Symbol), (∀ x ∈ a, x.Nodup) → (∀ y ∈ b, y.Nodup) →
    (renderCollections a = renderCollections b ↔
      List.Forall₂ (fun x y => ∀ s, s ∈ x ↔ s ∈ y) a b)
  /-- Sets are listed as collections of their members in any order are. -/
  sets_eq : ∀ (a : List (List Symbol)) (sets : List SymbolSet),
    List.Forall₂ (fun x set => x.Perm set.toList) a sets →
      renderCollections a = SymbolSet.renderAll sets
  /-- Two lists of sets are listed alike exactly when they are the same. -/
  sets_iff : ∀ sets sets' : List SymbolSet,
    SymbolSet.renderAll sets = SymbolSet.renderAll sets' ↔ sets = sets'
  /-- Two lines of a report are the same text exactly when they are about the same non-terminal and
  the same sets. -/
  reports_iff : ∀ r r' : SelectionReport, r.render = r'.render ↔ r = r'

/-- Listings tell the sets that they list, whatever the symbols are, and lines of a report do so
too. -/
theorem listings_tell_sets : ListingsTellSets where
  collections_iff a b := by
    rw [renderCollections_eq_iff, ← List.forall₂_eq_eq_eq, List.forall₂_map_left_iff,
      List.forall₂_map_right_iff]
  sorted x := ⟨sortSymbols_perm x, pairwise_sortSymbols x⟩
  distinct_iff a b ha hb := by
    rw [renderCollections_eq_iff, ← List.forall₂_eq_eq_eq, List.forall₂_map_left_iff,
      List.forall₂_map_right_iff]
    refine forall₂_congr_of_mem fun x hx y hy => ?_
    rw [sortSymbols_eq_iff, List.perm_ext_iff_of_nodup (ha x hx) (hb y hy)]
  sets_eq a sets h := by
    rw [renderAll_eq, renderCollections_eq_iff, ← List.forall₂_eq_eq_eq,
      List.forall₂_map_left_iff, List.forall₂_map_right_iff, List.forall₂_map_right_iff]
    exact h.imp fun _ _ => sortSymbols_eq_iff.2
  sets_iff _ _ := renderAll_eq_iff
  reports_iff _ _ := SelectionReport.render_eq_iff

-- A symbol that reads like two symbols has other quotes.
example :
    SymbolSet.renderAll [⟨["a", "b"], by decide +kernel⟩] = "[\x7b'a', 'b'\x7d]" ∧
      SymbolSet.renderAll [⟨["a', 'b"], by decide +kernel⟩] = "[\x7b\x22a', 'b\x22\x7d]" := by
  decide +kernel

end Predictive
