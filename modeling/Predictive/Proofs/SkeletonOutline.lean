import Predictive.Proofs.Cuts
import Predictive.Skeleton.Dialect

/-!
# What the text of a skeleton tells

The outline of a procedure is what its text can tell: its name, and for each branch the lookahead in
order and the steps, of which a call names a procedure. Outlines are read off a text line by line: a
line marks a header, a guard, a step, or nothing. Main statements: the outlines of procedures are
read off their text, in every dialect whose lines can be told apart
(`Dialect.MarkedBy.readOutlines_text`), so that procedures with different outlines have different
texts (`Dialect.MarkedBy.map_outline_eq_of_text_eq`).
-/

namespace Predictive

open Text

/-- What a text tells of a step. -/
inductive StepOutline where
  /-- This terminal is expected. -/
  | expect (terminal : Symbol)
  /-- The procedure of this name is called. -/
  | call (name : String)
  deriving DecidableEq, Repr

/-- What a text tells of a branch: the symbols of its lookahead, in order, and its steps. -/
structure BranchOutline where
  lookahead : List Symbol
  steps : List StepOutline
  deriving DecidableEq, Repr

/-- What a text tells of a procedure. -/
structure Outline where
  name : String
  branches : List BranchOutline
  deriving DecidableEq, Repr

/-- The outline of a step. -/
def Step.outline : Step → StepOutline
  | .expect t => .expect t
  | .call s => .call (procedureName s)

/-- The outline of a branch; the lookahead is in ascending order. -/
def Branch.outline (b : Branch) : BranchOutline := ⟨b.lookahead.toList, b.steps.map Step.outline⟩

/-- The outline of a procedure. -/
def Procedure.outline (p : Procedure) : Outline := ⟨p.name, p.branches.map Branch.outline⟩

/-- The symbols fit that a procedure compares tokens with: the members of its lookahead sets, and
the terminals that it expects. -/
def Procedure.Compares (p : Procedure) (Fits : Symbol → Prop) : Prop :=
  ∀ b ∈ p.branches, (∀ s ∈ b.lookahead, Fits s) ∧ ∀ t, Step.expect t ∈ b.steps → Fits t

/-- What a line of the text of a skeleton tells. -/
inductive Mark where
  /-- A procedure of this name starts. -/
  | header (name : String)
  /-- A branch starts, with this lookahead. -/
  | guard (lookahead : List Symbol)
  /-- A step is made. -/
  | step (s : StepOutline)
  deriving DecidableEq, Repr

/-- The marks of a branch. -/
def BranchOutline.marks (b : BranchOutline) : List Mark := .guard b.lookahead :: b.steps.map .step

/-- The marks of a procedure. -/
def Outline.marks (o : Outline) : List Mark :=
  .header o.name :: o.branches.flatMap BranchOutline.marks

/-- The steps before the first guard or header, the branches before the first header, and the
procedures that marks tell of. -/
def gather : List Mark → List StepOutline × List BranchOutline × List Outline
  | [] => ([], [], [])
  | .step s :: rest => (s :: (gather rest).1, (gather rest).2)
  | .guard lookahead :: rest =>
    ([], ⟨lookahead, (gather rest).1⟩ :: (gather rest).2.1, (gather rest).2.2)
  | .header name :: rest => ([], [], ⟨name, (gather rest).2.1⟩ :: (gather rest).2.2)

/-- The marks of a text, of which each line may have one. -/
def marksOf (mark? : String → Option Mark) (text : String) : List Mark :=
  (split '\n' text).filterMap mark?

/-- The outlines of the procedures that a text tells of. -/
def readOutlines (mark? : String → Option Mark) (text : String) : List Outline :=
  (gather (marksOf mark? text)).2.2

/-- The lines of a dialect can be told apart by their marks, if the symbols that are written out in
them fit. -/
structure Dialect.MarkedBy (d : Dialect) (mark? : String → Option Mark) (Fits : Symbol → Prop) :
    Prop where
  /-- A blank line has no mark. -/
  blank : mark? "" = none
  /-- The first lines of a procedure tell its name. -/
  header : ∀ s, (d.header (procedureName s)).flatMap (marksOf mark?) = [.header (procedureName s)]
  /-- The first line of a branch tells its lookahead. -/
  guard : ∀ chained lookahead, (∀ s ∈ lookahead, Fits s) →
    marksOf mark? (d.indent ++ d.guard chained lookahead) = [.guard lookahead]
  /-- The lines of a step tell the terminal that is expected. -/
  expect : ∀ t, Fits t →
    ((d.expect t).map (d.indent ++ d.indent ++ ·)).flatMap (marksOf mark?) = [.step (.expect t)]
  /-- The lines of a step tell the name of the procedure that is called. -/
  call : ∀ s t, ((d.call (procedureName s) (procedureName t)).map
    (d.indent ++ d.indent ++ ·)).flatMap (marksOf mark?) = [.step (.call (procedureName t))]
  /-- The last lines of a branch tell nothing. -/
  close : (d.close.map (d.indent ++ ·)).flatMap (marksOf mark?) = []
  /-- The lines for a token that selects no branch tell nothing. -/
  failure : ∀ s, ((d.failure (procedureName s)).map (d.indent ++ ·)).flatMap (marksOf mark?) = []
  /-- The last lines of a procedure tell nothing. -/
  footer : d.footer.flatMap (marksOf mark?) = []

variable {mark? : String → Option Mark}

/-! ## From marks to outlines -/

/-- Steps come before the steps that are gathered after them. -/
theorem gather_steps (steps : List StepOutline) (rest : List Mark) :
    gather (steps.map .step ++ rest) = (steps ++ (gather rest).1, (gather rest).2) := by
  induction steps with
  | nil => rfl
  | cons s steps ih => rw [List.map_cons, List.cons_append, gather, ih, List.cons_append]

/-- Branches come before the branches that are gathered after them, if no step is gathered right
after them. -/
theorem gather_branches (branches : List BranchOutline) {rest : List Mark}
    (h : (gather rest).1 = []) :
    gather (branches.flatMap BranchOutline.marks ++ rest) =
      ([], branches ++ (gather rest).2.1, (gather rest).2.2) := by
  induction branches with
  | nil => rw [List.flatMap_nil, List.nil_append, List.nil_append, ← h]
  | cons b branches ih =>
    rw [List.flatMap_cons, BranchOutline.marks, List.append_assoc, List.cons_append, gather,
      gather_steps, ih, List.append_nil, List.cons_append]

/-- The outlines of procedures are gathered from their marks. -/
theorem gather_outlines (outlines : List Outline) :
    gather (outlines.flatMap Outline.marks) = ([], [], outlines) := by
  induction outlines with
  | nil => rfl
  | cons o outlines ih =>
    rw [List.flatMap_cons, Outline.marks, List.cons_append, gather,
      gather_branches o.branches (by rw [ih]), ih, List.append_nil]

/-! ## From lines to marks -/

/-- A line has its own mark. -/
theorem marksOf_line {line : String} (h : '\n' ∉ line.toList) :
    marksOf mark? line = (mark? line).toList := by
  rw [marksOf, split, pieces_of_not_mem h, List.map_singleton, String.ofList_toList]
  cases hmark : mark? line <;> simp [hmark]

/-- The marks of two texts with a line end between them are those of the one and then those of the
other. -/
theorem marksOf_append_newline (x y : String) :
    marksOf mark? (x ++ "\n" ++ y) = marksOf mark? x ++ marksOf mark? y := by
  rw [marksOf, split_append_separator rfl, List.filterMap_append, marksOf, marksOf]

/-- The marks of texts with line ends between them are those of the texts, in order. -/
theorem marksOf_intercalate (hblank : mark? "" = none) (texts : List String) :
    marksOf mark? ("\n".intercalate texts) = texts.flatMap (marksOf mark?) := by
  by_cases hne : texts = []
  · rw [hne, String.intercalate_nil, marksOf_line List.not_mem_nil, hblank]
    rfl
  · rw [marksOf, split_intercalate rfl hne, List.filterMap_flatMap]
    rfl

namespace Dialect.MarkedBy

variable {d : Dialect} {Fits : Symbol → Prop}

/-- The lines of a step tell its outline. -/
theorem flatMap_stepLines (h : d.MarkedBy mark? Fits) (s : Symbol) (step : Step)
    (hfits : ∀ t, step = .expect t → Fits t) :
    ((d.stepLines (procedureName s) step).map (d.indent ++ d.indent ++ ·)).flatMap
      (marksOf mark?) = [.step step.outline] := by
  cases step with
  | expect t => exact h.expect t (hfits t rfl)
  | call t => exact h.call s t

/-- The lines of steps tell their outlines. -/
theorem flatMap_flatMap_stepLines (h : d.MarkedBy mark? Fits) (s : Symbol) {steps : List Step}
    (hfits : ∀ t, Step.expect t ∈ steps → Fits t) :
    ((steps.flatMap (d.stepLines (procedureName s))).map (d.indent ++ d.indent ++ ·)).flatMap
      (marksOf mark?) = (steps.map Step.outline).map .step := by
  induction steps with
  | nil => rfl
  | cons step steps ih =>
    have hstep := h.flatMap_stepLines s step fun t ht => hfits t (ht ▸ List.mem_cons_self)
    rw [List.flatMap_cons, List.map_append, List.flatMap_append, hstep,
      ih fun t ht => hfits t (List.mem_cons_of_mem step ht)]
    rfl

/-- The lines of a branch tell its outline. -/
theorem flatMap_branchLines (h : d.MarkedBy mark? Fits) (s : Symbol) (chained : Bool) {b : Branch}
    (hlookahead : ∀ t ∈ b.lookahead, Fits t) (hsteps : ∀ t, Step.expect t ∈ b.steps → Fits t) :
    (d.branchLines (procedureName s) chained b).flatMap (marksOf mark?) = b.outline.marks := by
  rw [branchLines, List.flatMap_append, List.flatMap_append, h.close, List.append_nil,
    h.flatMap_flatMap_stepLines s hsteps, List.flatMap_singleton, h.guard chained _ hlookahead]
  rfl

/-- The lines of branches tell their outlines. -/
theorem flatMap_branchesLines (h : d.MarkedBy mark? Fits) (s : Symbol) {branches : List Branch}
    (hfits : ∀ b ∈ branches, (∀ t ∈ b.lookahead, Fits t) ∧ ∀ t, Step.expect t ∈ b.steps → Fits t) :
    (d.branchesLines (procedureName s) branches).flatMap (marksOf mark?) =
      branches.flatMap fun b => b.outline.marks := by
  -- All branches but the first one have the same guard.
  have hchained : ∀ b ∈ branches, ∀ chained,
      (d.branchLines (procedureName s) chained b).flatMap (marksOf mark?) = b.outline.marks :=
    fun b hb chained => h.flatMap_branchLines s chained (hfits b hb).1 (hfits b hb).2
  cases branches with
  | nil => rfl
  | cons b branches =>
    rw [branchesLines, List.flatMap_append, List.flatMap_assoc, hchained b List.mem_cons_self,
      List.flatMap_cons]
    exact congrArg _ (List.flatMap_congr fun b' hb' => hchained b' (List.mem_cons_of_mem b hb') _)

/-- The text of a procedure tells its outline. -/
theorem marksOf_procedureText (h : d.MarkedBy mark? Fits) {p : Procedure} (hp : p.Compares Fits) :
    marksOf mark? (d.procedureText p) = p.outline.marks := by
  have hend : marksOf mark? "" = [] := by rw [marksOf_line List.not_mem_nil, h.blank]; rfl
  have htext : d.procedureText p = "\n".intercalate (d.procedureLines p) ++ "\n" ++ "" := by
    rw [String.append_empty, procedureText]
  rw [htext, marksOf_append_newline, hend, List.append_nil, marksOf_intercalate h.blank,
    procedureLines, Procedure.name, List.flatMap_append, List.flatMap_append, List.flatMap_append,
    h.header, h.flatMap_branchesLines _ hp, h.failure, h.footer, List.append_nil, List.append_nil,
    Outline.marks, Procedure.outline, List.flatMap_map]
  rfl

/-- The outlines of procedures are read off their text. -/
theorem readOutlines_text (h : d.MarkedBy mark? Fits) {procedures : List Procedure}
    (hfits : ∀ p ∈ procedures, p.Compares Fits) :
    readOutlines mark? (d.text procedures) = procedures.map Procedure.outline := by
  have hmarks : marksOf mark? (d.text procedures) =
      (procedures.map Procedure.outline).flatMap Outline.marks := by
    rw [text, marksOf_intercalate h.blank, List.flatMap_map, List.flatMap_map]
    exact List.flatMap_congr fun p hp => h.marksOf_procedureText (hfits p hp)
  rw [readOutlines, hmarks, gather_outlines]

/-- Procedures with one text have the same outlines. -/
theorem map_outline_eq_of_text_eq (h : d.MarkedBy mark? Fits)
    {procedures procedures' : List Procedure}
    (hfits : ∀ p ∈ procedures, p.Compares Fits) (hfits' : ∀ p ∈ procedures', p.Compares Fits)
    (htext : d.text procedures = d.text procedures') :
    procedures.map Procedure.outline = procedures'.map Procedure.outline := by
  rw [← h.readOutlines_text hfits, htext, h.readOutlines_text hfits']

end Dialect.MarkedBy

end Predictive
