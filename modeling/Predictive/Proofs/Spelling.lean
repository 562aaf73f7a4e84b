import Predictive.Proofs.Readers
import Predictive.Proofs.SkeletonOutline

/-!
# Spellings of skeletons

In a language, whatever a line of a skeleton tells stands in one of a few frames. A spelling lists
the frames, and it is clear if no line can start as two of them do. Main statements: what stands in
a frame of a clear spelling is read off the line (`Spelling.Clear.marksOf_around`), so that lines
tell the names of procedures, the lookaheads and the terminals that are written in them
(`Spelling.Clear.marksOf_header` and its like), and a line that starts in another way tells nothing
(`Spelling.marksOf_eq_nil`).
-/

namespace Predictive

open Text

namespace Text

/-- The word characters up to another character. -/
def readWord : Reader String :=
  fun cs => some (String.ofList (cs.takeWhile isWordCharacter), cs.dropWhile isWordCharacter)

/-- Makes something else of what is read. -/
def Reader.map {α β : Type} (f : α → β) (read : Reader α) : Reader β :=
  fun cs => (read cs).map fun (a, rest) => (f a, rest)

end Text

/-! ## Lines that have marks -/

/-- The fixed texts around something that a line tells. -/
structure Frame where
  start : String
  finish : String

/-- A text in its frame. -/
def Frame.around (f : Frame) (text : String) : String := f.start ++ text ++ f.finish

/-- A form of line: something that tells a mark stands in a frame. -/
structure LineForm where
  frame : Frame
  content : Reader Mark

/-- The mark of a line of a form. -/
def LineForm.mark? (f : LineForm) (line : String) : Option Mark :=
  match line.toList.dropPrefix? f.frame.start.toList with
  | none => none
  | some rest =>
    match f.content rest with
    | none => none
    | some (mark, after) => if after = f.frame.finish.toList then some mark else none

/-- How the lines that have marks are spelt in a language. The names of procedures start alike, and
the frame of a name takes in what they have in common. -/
structure Spelling where
  /-- What stands around the name of a procedure that starts. -/
  header : Frame
  /-- What stands around the lookahead of a branch that comes after another one, or does not. -/
  guard (chained : Bool) : Frame
  /-- What stands around a terminal that is expected. -/
  expect : Frame
  /-- What stands around the name of a procedure that is called. -/
  call : Frame
  /-- Reads a lookahead. -/
  readLookahead : Reader (List Symbol)
  /-- Reads a terminal. -/
  readTerminal : Reader Symbol

namespace Spelling

/-- The line with which a procedure starts. -/
def headerForm (k : Spelling) : LineForm :=
  ⟨k.header, readWord.map fun word => .header ("parse_" ++ word)⟩

/-- The line with which a branch starts. -/
def guardForm (k : Spelling) (chained : Bool) : LineForm :=
  ⟨k.guard chained, k.readLookahead.map .guard⟩

/-- The line on which a terminal is expected. -/
def expectForm (k : Spelling) : LineForm :=
  ⟨k.expect, k.readTerminal.map fun t => .step (.expect t)⟩

/-- The line on which a procedure is called. -/
def callForm (k : Spelling) : LineForm :=
  ⟨k.call, readWord.map fun word => .step (.call ("parse_" ++ word))⟩

/-- The forms of lines that have marks. -/
def forms (k : Spelling) : List LineForm :=
  [k.headerForm, k.guardForm false, k.guardForm true, k.expectForm, k.callForm]

/-- The mark of a line is that of the first form that it has. -/
def mark? (k : Spelling) (line : String) : Option Mark := k.forms.findSome? (·.mark? line)

end Spelling

/-- No text can start with both of these. -/
def Apart (x y : String) : Prop := ¬ x.toList <+: y.toList ∧ ¬ y.toList <+: x.toList

instance (x y : String) : Decidable (Apart x y) :=
  inferInstanceAs (Decidable (¬ x.toList <+: y.toList ∧ ¬ y.toList <+: x.toList))

/-- A line has at most one of the forms of a spelling, and names can be told from what comes after
them. -/
structure Spelling.Clear (k : Spelling) : Prop where
  /-- No line starts as two of the forms do. -/
  apart : k.forms.Pairwise fun f g => Apart f.frame.start g.frame.start
  /-- The frames hold no line ends. -/
  not_mem_newline : ∀ f ∈ k.forms, '\n' ∉ f.frame.start.toList ∧ '\n' ∉ f.frame.finish.toList
  /-- What comes after a name does not go on with it. -/
  name_ends : ∀ frame ∈ [k.header, k.call],
    ∀ c ∈ frame.finish.toList.head?, isWordCharacter c = false

variable {rest : List Char} {x y line : String} {f : LineForm} {written : String} {mark : Mark}
  {k : Spelling}

/-- A text with more after it starts with the text. -/
theorem toList_isPrefix_append (x y : String) : x.toList <+: (x ++ y).toList := by
  rw [String.toList_append]
  exact List.prefix_append _ _

theorem Apart.symm (h : Apart x y) : Apart y x := ⟨h.2, h.1⟩

/-- A line that starts with one of two texts that are apart does not start with the other. -/
theorem Apart.not_startsWith (h : Apart x y) (hx : x.toList <+: line.toList) :
    ¬ y.toList <+: line.toList := by
  intro hy
  rcases List.prefix_or_prefix_of_prefix hx hy with hxy | hyx
  · exact h.1 hxy
  · exact h.2 hyx

/-- A line that does not start as a form does has no mark of it. -/
theorem LineForm.mark?_eq_none (h : ¬ f.frame.start.toList <+: line.toList) :
    f.mark? line = none := by
  have hdrop : line.toList.dropPrefix? f.frame.start.toList = none := by
    cases hrest : line.toList.dropPrefix? f.frame.start.toList with
    | none => rfl
    | some rest =>
      obtain ⟨start, heq, hstart⟩ := List.dropPrefix?_eq_some_iff.1 hrest
      rw [eq_of_beq hstart] at heq
      exact absurd ⟨rest, heq.symm⟩ h
  rw [mark?, hdrop]

/-- A line of a form has what is read in it as its mark. -/
theorem LineForm.mark?_around
    (h : f.content (written.toList ++ f.frame.finish.toList) =
      some (mark, f.frame.finish.toList)) :
    f.mark? (f.frame.around written) = some mark := by
  rw [mark?, Frame.around, String.toList_append, String.toList_append, List.append_assoc,
    List.dropPrefix?_append_of_beq _ (beq_self_eq_true _)]
  simp [h]

namespace Text

/-- A word is read back up to a character that may not stand in it. -/
theorem readWord_append {word : String} (hword : ∀ c ∈ word.toList, isWordCharacter c = true)
    (hrest : ∀ c ∈ rest.head?, isWordCharacter c = false) :
    readWord (word.toList ++ rest) = some (word, rest) := by
  rw [readWord, List.takeWhile_append_of_pos hword, List.dropWhile_append_of_pos hword]
  cases rest with
  | nil => simp
  | cons c rest =>
    have hc := hrest c rfl
    rw [List.takeWhile_cons_of_neg (by simp [hc]), List.dropWhile_cons_of_neg (by simp [hc]),
      List.append_nil, String.ofList_toList]

/-- A word has no character in it that may not stand in words. -/
theorem not_mem_of_word {c : Char} (hc : isWordCharacter c = false) {word : List Char}
    (hword : ∀ d ∈ word, isWordCharacter d = true) : c ∉ word := by
  intro hmem
  rw [hword c hmem] at hc
  cases hc

/-- A line end may not stand in a word. -/
theorem isWordCharacter_newline : isWordCharacter '\n' = false := by decide +kernel

end Text

/-- What a procedure's name adds to the start that all names have. -/
def procedureWord (s : Symbol) : String :=
  String.ofList ((replaceChar '\x27' "_prime".toList s.toList).map
    fun c => if isWordCharacter c then c else '_')

/-- A procedure's name is put together. -/
theorem procedureName_eq (s : Symbol) : procedureName s = "parse_" ++ procedureWord s := rfl

/-- A procedure's name goes on with word characters. -/
theorem isWordCharacter_of_mem_procedureWord (s : Symbol) :
    ∀ c ∈ (procedureWord s).toList, isWordCharacter c = true := by
  intro c hc
  simp only [procedureWord, String.toList_ofList, List.mem_map] at hc
  obtain ⟨d, -, hd⟩ := hc
  rw [← hd]
  split
  next h => exact h
  next => decide +kernel

/-- A procedure's name has no character in it that may not stand in words. -/
theorem not_mem_procedureName {c : Char} (hc : isWordCharacter c = false) (s : Symbol) :
    c ∉ (procedureName s).toList := by
  have hstart : "parse_".toList.all isWordCharacter = true := by decide +kernel
  rw [procedureName_eq, String.toList_append, List.mem_append, not_or]
  exact ⟨not_mem_of_word hc (List.all_eq_true.1 hstart),
    not_mem_of_word hc (isWordCharacter_of_mem_procedureWord s)⟩

namespace Spelling

/-- A line that starts apart from all forms tells nothing. -/
theorem marksOf_eq_nil (start : String) (hapart : ∀ f ∈ k.forms, Apart start f.frame.start)
    (hline : start.toList <+: line.toList) (hnewline : '\n' ∉ line.toList) :
    marksOf k.mark? line = [] := by
  have hnone : k.mark? line = none :=
    List.findSome?_eq_none_iff.2 fun f hf => f.mark?_eq_none ((hapart f hf).not_startsWith hline)
  rw [marksOf_line hnewline, hnone]
  rfl

namespace Clear

/-- A line of a form tells what is read in it, since it has no other form. -/
theorem marksOf_around (h : k.Clear) (f : LineForm) (hf : f ∈ k.forms)
    (hnewline : '\n' ∉ written.toList)
    (hread : f.content (written.toList ++ f.frame.finish.toList) =
      some (mark, f.frame.finish.toList)) :
    marksOf k.mark? (f.frame.around written) = [mark] := by
  have hmark : k.mark? (f.frame.around written) = some mark := by
    obtain ⟨before, after, hforms⟩ := List.append_of_mem hf
    have hbefore : before.findSome? (·.mark? (f.frame.around written)) = none := by
      refine List.findSome?_eq_none_iff.2 fun g hg => g.mark?_eq_none ?_
      have hapart := h.apart
      rw [hforms] at hapart
      have hgf := (List.pairwise_append.1 hapart).2.2 g hg f List.mem_cons_self
      have hstart : f.frame.start.toList <+: (f.frame.around written).toList := by
        rw [Frame.around, String.append_assoc]
        exact toList_isPrefix_append _ _
      exact hgf.symm.not_startsWith hstart
    rw [mark?, hforms, List.findSome?_append, hbefore, Option.none_or, List.findSome?_cons,
      LineForm.mark?_around hread]
  have hsingle : '\n' ∉ (f.frame.around written).toList := by
    simp [Frame.around, h.not_mem_newline f hf, hnewline]
  rw [marksOf_line hsingle, hmark]
  rfl

/-- A line of a form that holds a procedure's name tells the name. -/
theorem marksOf_procedureWord (h : k.Clear) (f : LineForm) (content : String → Mark)
    (hf : f ∈ k.forms) (hframe : f.frame ∈ [k.header, k.call])
    (hcontent : f.content = readWord.map fun word => content ("parse_" ++ word)) (s : Symbol) :
    marksOf k.mark? (f.frame.around (procedureWord s)) = [content (procedureName s)] := by
  have hword := isWordCharacter_of_mem_procedureWord s
  have hread : f.content ((procedureWord s).toList ++ f.frame.finish.toList) =
      some (content (procedureName s), f.frame.finish.toList) := by
    simp only [hcontent, Reader.map, readWord_append hword (h.name_ends f.frame hframe),
      Option.map_some, procedureName_eq]
  exact h.marksOf_around f hf (not_mem_of_word isWordCharacter_newline hword) hread

/-- The line with which a procedure starts tells its name. -/
theorem marksOf_header (h : k.Clear) (s : Symbol) :
    marksOf k.mark? (k.header.around (procedureWord s)) = [.header (procedureName s)] :=
  h.marksOf_procedureWord k.headerForm .header (by simp [forms]) (by simp [headerForm]) rfl s

/-- The line with which a branch starts tells its lookahead. -/
theorem marksOf_guard (h : k.Clear) (chained : Bool) {lookahead : List Symbol}
    (hnewline : '\n' ∉ written.toList)
    (hlookahead : ∀ rest, k.readLookahead (written.toList ++ rest) = some (lookahead, rest)) :
    marksOf k.mark? ((k.guard chained).around written) = [.guard lookahead] := by
  have hform : k.guardForm chained ∈ k.forms := by cases chained <;> simp [forms]
  have hread : (k.guardForm chained).content
      (written.toList ++ (k.guard chained).finish.toList) =
        some (.guard lookahead, (k.guard chained).finish.toList) := by
    simp only [guardForm, Reader.map, hlookahead, Option.map_some]
  exact h.marksOf_around (k.guardForm chained) hform hnewline hread

/-- The line on which a terminal is expected tells the terminal. -/
theorem marksOf_expect (h : k.Clear) {t : Symbol} (hnewline : '\n' ∉ written.toList)
    (hterminal : ∀ rest, k.readTerminal (written.toList ++ rest) = some (t, rest)) :
    marksOf k.mark? (k.expect.around written) = [.step (.expect t)] := by
  have hread : k.expectForm.content (written.toList ++ k.expect.finish.toList) =
      some (.step (.expect t), k.expect.finish.toList) := by
    simp only [expectForm, Reader.map, hterminal, Option.map_some]
  exact h.marksOf_around k.expectForm (by simp [forms]) hnewline hread

/-- The line on which a procedure is called tells its name. -/
theorem marksOf_call (h : k.Clear) (s : Symbol) :
    marksOf k.mark? (k.call.around (procedureWord s)) = [.step (.call (procedureName s))] :=
  h.marksOf_procedureWord k.callForm (fun name => .step (.call name)) (by simp [forms])
    (by simp [callForm]) rfl s

end Clear

end Spelling

end Predictive
