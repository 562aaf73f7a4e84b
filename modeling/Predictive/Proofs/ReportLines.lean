import Predictive.Proofs.FileEffects
import Predictive.Proofs.SkeletonText
import Predictive.Proofs.Verdict

/-!
# Two ways to the selection sets

The selection sets of all rules are shown by the report and by a query of all keys. The report makes
its entries first and shows them then, with a summary; the query takes the left-hand sides as keys
and makes each list of sets when it shows it. Main statement: the report shows what the query shows,
in the same colours, and one line more, which names the non-terminals whose lines are shown as bad
news (`run_report_run_selection`). The proof says line by line what the parts of a run show
(`Transcript.Shows`).
-/

namespace Predictive

open Text

namespace Transcript

variable {α β : Type} {a : α} {b : β} {x : Transcript α} {f : α → Transcript β}
  {lines later : List String}

/-- The text of lines, each with its end. -/
def textOfLines (lines : List String) : String := String.join (lines.map (· ++ "\n"))

/-- The text of lines before others. -/
theorem textOfLines_append (lines later : List String) :
    textOfLines (lines ++ later) = textOfLines lines ++ textOfLines later := by
  rw [textOfLines, List.map_append, String.join_append]
  rfl

/-- A part of a run succeeds and shows lines. -/
structure Shows (x : Transcript α) (a : α) (lines : List String) : Prop where
  /-- The part succeeds. -/
  outcome_eq : x.outcome = .ok a
  /-- It shows the lines. -/
  stdout_eq : stdout x.trace = textOfLines lines

namespace Shows

/-- Success shows nothing. -/
theorem pure (a : α) : Shows (Pure.pure a : Transcript α) a [] := ⟨rfl, rfl⟩

/-- A line that is announced is shown in its colour. -/
theorem announce (colored good : Bool) (text : String) :
    Shows (announce colored good text) () [paint colored good text] := ⟨rfl, rfl⟩

/-- An analysis shows nothing. -/
theorem analysis {x : Traced Event LeftRecursion α} (h : x.outcome = .ok a) :
    Shows (analysis x) a [] :=
  ⟨outcome_analysis_eq_ok_iff.2 h, stdout_map_event x.trace⟩

/-- What is quiet shows nothing. -/
theorem of_quiet (hquiet : Quiet x) (h : x.outcome = .ok a) : Shows x a [] :=
  ⟨h, hquiet.stdout_eq⟩

/-- One part shows its lines after the other. -/
theorem bind (hx : Shows x a lines) (hf : Shows (f a) b later) :
    Shows (x >>= f) b (lines ++ later) := by
  constructor
  · rw [Traced.outcome_bind, bind_eq_ok_iff]
    exact ⟨a, hx.outcome_eq, hf.outcome_eq⟩
  · rw [Traced.trace_bind_ok hx.outcome_eq, stdout_append, hx.stdout_eq, hf.stdout_eq,
      textOfLines_append]

/-- What is not asked for shows nothing. -/
theorem not_asked {demand : Bool} (h : demand = false) (x : Transcript Unit) :
    Shows (asked demand x) () [] := by
  rw [h]
  exact pure ()

/-- What is asked for shows its lines. -/
theorem asked {demand : Bool} {x : Transcript Unit} (h : demand = true) (hx : Shows x () lines) :
    Shows (asked demand x) () lines := by
  rw [h]
  exact hx

/-- What is done for each member of a list shows the lines of each of them. The lines may depend on
the members of another list that are in the same places. -/
theorem forM {action : α → Transcript Unit} {shown : β → List String} {l : List α} {bs : List β}
    (h : List.Forall₂ (fun a b => Shows (action a) () (shown b)) l bs) :
    Shows (l.forM action) () (bs.flatMap shown) := by
  induction h with
  | nil => exact pure ()
  | cons hab _ ih => exact hab.bind ih

/-- What shows nothing for each member of a list shows nothing. -/
theorem forM_of_nothing {action : α → Transcript Unit} {l : List α}
    (h : ∀ a ∈ l, Shows (action a) () []) : Shows (l.forM action) () [] := by
  have hnothing : (l.flatMap fun _ => ([] : List String)) = [] :=
    List.flatMap_eq_nil_iff.2 fun _ _ => rfl
  rw [← hnothing]
  exact forM (List.forall₂_same.2 h)

end Shows

/-- A colour does not break a line. -/
theorem not_mem_newline_paint {colored good : Bool} {text : String} (h : '\n' ∉ text.toList) :
    '\n' ∉ (paint colored good text).toList := by
  cases colored <;> cases good <;> simp [paint, green, red, reset, h]

end Transcript

open Transcript

/-! ## Entries and their lines -/

namespace SelectionReport

/-- The line that is shown for an entry of the report, in the colour of its verdict. -/
def line (colored : Bool) (entry : SelectionReport) : String :=
  paint colored entry.disjoint entry.render

/-- The summary of a report with these entries. -/
def summary (entries : List SelectionReport) : String :=
  if entries.all disjoint then "grammar is LL(1)"
  else "grammar is not LL(1): " ++ ", ".intercalate ((entries.filter (!·.disjoint)).map nonTerminal)

variable {entries : List SelectionReport} {entry : SelectionReport}

/-- A report of disjoint entries is summed up as good news. -/
theorem summary_of_all (h : entries.all disjoint = true) : summary entries = "grammar is LL(1)" :=
  if_pos h

/-- Any other report is summed up by the non-terminals of the entries that are not disjoint. -/
theorem summary_of_not_all (h : entries.all disjoint = false) :
    summary entries = "grammar is not LL(1): " ++
      ", ".intercalate ((entries.filter (!·.disjoint)).map nonTerminal) :=
  if_neg (Bool.eq_false_iff.1 h)

/-- The good summary is that of no other report. -/
theorem summary_eq_iff :
    summary entries = "grammar is LL(1)" ↔ entries.all disjoint = true := by
  refine ⟨fun h => ?_, summary_of_all⟩
  cases hall : entries.all disjoint with
  | true => rfl
  | false =>
    -- The summaries differ before any name comes.
    rw [summary_of_not_all hall] at h
    simpa using congrArg (fun text => text.toList.take 12) h

/-- The line of an entry is one line if the non-terminal does not break it. -/
theorem not_mem_newline_line (colored : Bool) (h : '\n' ∉ entry.nonTerminal.toList) :
    '\n' ∉ (entry.line colored).toList := by
  have hset : ∀ set : SymbolSet, '\n' ∉ set.render.toList := fun set =>
    not_mem_newline_braced (List.forall_mem_map.2 fun t _ => Python.not_mem_newline_quoted t)
  have hsets : '\n' ∉ (", ".intercalate (entry.sets.map SymbolSet.render)).toList :=
    not_mem_newline_listed (List.forall_mem_map.2 fun set _ => hset set)
  refine not_mem_newline_paint ?_
  simp only [render, SymbolSet.renderAll, bracketed, String.toList_append, List.mem_append, not_or]
  exact ⟨⟨⟨by decide, h⟩, by decide⟩, ⟨by decide, hsets⟩, by decide⟩

/-- The summary is one line if no non-terminal breaks it. -/
theorem not_mem_newline_summary (h : ∀ entry ∈ entries, '\n' ∉ entry.nonTerminal.toList) :
    '\n' ∉ (summary entries).toList := by
  cases hall : entries.all disjoint with
  | true =>
    rw [summary_of_all hall]
    decide
  | false =>
    have hnames : ∀ name ∈ (entries.filter (!·.disjoint)).map nonTerminal, '\n' ∉ name.toList :=
      List.forall_mem_map.2 fun entry hentry => h entry (List.mem_filter.1 hentry).1
    rw [summary_of_not_all hall, String.toList_append, List.mem_append, not_or]
    exact ⟨by decide, not_mem_newline_listed hnames⟩

end SelectionReport

/-! ## What the parts of a run show -/

variable {o : Options} {files : FileTree} {g : Grammar} {path : String} {colored : Bool}
  {content : Except FileError Bytes} {entries : List SelectionReport} {key : Symbol}
  {lines : List String}

namespace Plan

/-- The verdict shows the summary. -/
theorem shows_showVerdict (colored : Bool) (entries : List SelectionReport) :
    Shows (showVerdict colored entries) ()
      [paint colored (entries.all SelectionReport.disjoint) (SelectionReport.summary entries)] := by
  -- No entry fails exactly when all are disjoint.
  have hnil : entries.filter (!·.disjoint) = [] ↔ entries.all SelectionReport.disjoint = true := by
    simp
  cases hall : entries.all SelectionReport.disjoint with
  | true =>
    rw [showVerdict, hnil.2 hall, SelectionReport.summary_of_all hall]
    exact .announce ..
  | false =>
    rw [SelectionReport.summary_of_not_all hall, showVerdict]
    split
    next hfailed =>
      rw [hnil.1 hfailed] at hall
      cases hall
    next => exact .announce ..

/-- The report shows a line for each of its entries, and the summary. -/
theorem shows_showReport (h : g.report.outcome = .ok entries) :
    Shows (showReport colored g) ()
      (entries.map (·.line colored) ++ [paint colored (entries.all SelectionReport.disjoint)
        (SelectionReport.summary entries)]) := by
  have hentries : Shows (entries.forM fun entry => announce colored entry.disjoint entry.render) ()
      (entries.map (·.line colored)) := by
    rw [List.map_eq_flatMap]
    exact .forM (List.forall₂_same.2 fun entry _ => .announce ..)
  exact (Shows.analysis h).bind (hentries.bind (shows_showVerdict colored entries))

/-- The selection sets of a key are shown as those of an entry of the report are. -/
theorem shows_showSelection {sets : List SymbolSet} (h : (g.selectionSets key).outcome = .ok sets) :
    Shows (showSelection colored g key) () [SelectionReport.line colored ⟨key, sets⟩] :=
  (Shows.analysis h).bind (.announce ..)

/-- Where nothing but selection sets is asked for, no more is shown of a key. -/
theorem shows_showKey (hfirst : o.first = false) (hfollow : o.follow = false)
    (hchoices : o.choices = false)
    (h : Shows (asked o.selection (showSelection colored g key)) () lines) :
    Shows (showKey o colored g key) () lines := by
  rw [← List.append_nil lines]
  exact (Shows.not_asked hfirst _).bind
    ((Shows.not_asked hfollow _).bind (h.bind (.not_asked hchoices _)))

/-- Where no files are asked for, a plan on a grammar that is loaded shows the report and then the
keys. -/
theorem shows_ofOptions {terminal : Bool} {ofReport ofKeys : List String}
    (hload : (load path content).outcome = .ok g) (hskeleton : o.skeleton = false)
    (hprototypes : Given.text? o.prototypesPath = none)
    (hreport : Shows (asked o.report (showReport (o.color && terminal) g)) () ofReport)
    (hkeys : Shows ((o.keys g).forM (showKey o (o.color && terminal) g)) () ofKeys) :
    Shows (ofOptions o terminal path content) [] (ofReport ++ ofKeys) := by
  have hrequests : Shows (skeletonRequests o g) [] [] := by
    rw [skeletonRequests, hskeleton]
    exact .pure []
  have hnone : prototypeRequests o g = [] := by rw [prototypeRequests, hprototypes]
  have hend : Shows (do return (← skeletonRequests o g) ++ prototypeRequests o g) [] [] := by
    rw [hnone]
    exact hrequests.bind (.pure _)
  rw [← List.append_nil ofKeys]
  exact (Shows.of_quiet (quiet_load path content) hload).bind (hreport.bind (hkeys.bind hend))

end Plan

/-- A run whose plan asks for no files succeeds and shows the lines of the plan. -/
theorem runOptions_of_shows {terminal : Bool} (hpath : o.grammarPath = .value path)
    (h : Shows (Plan.ofOptions o terminal path (files.read (Path.normalize path))) [] lines) :
    (runOptions o terminal files).1.ending = .exit 0 ∧
      (runOptions o terminal files).1.stdout = textOfLines lines := by
  rw [← h.stdout_eq, runOptions, hpath]
  simp only [h.outcome_eq, Request.grantAll, Display.ending_ofTranscript,
    Display.stdout_ofTranscript, Traced.trace_pure, List.append_nil, and_true]
  rfl

/-! ## Runs -/

namespace Options

/-- Nothing is asked for but to read a grammar. -/
structure Idle (o : Options) : Prop where
  /-- No FIRST sets are to be shown. -/
  first : o.first = false
  /-- No FOLLOW sets are to be shown. -/
  follow : o.follow = false
  /-- No selection sets are to be shown. -/
  selection : o.selection = false
  /-- No report is to be shown. -/
  report : o.report = false
  /-- No selection sets are to be shown next to alternatives. -/
  choices : o.choices = false
  /-- No skeleton is to be written. -/
  skeleton : o.skeleton = false
  /-- No prototypes are to be written. -/
  prototypes : Given.text? o.prototypesPath = none

/-- The options with the report asked for. -/
def withReport (o : Options) : Options := { o with report := true }

/-- The options with the selection sets of all keys asked for. -/
def withSelection (o : Options) : Options := { o with key := some (.value "all"), selection := true }

/-- If only the report is asked for, a run shows it. -/
theorem Idle.runOptions_withReport (hidle : o.Idle) (terminal : Bool) (hload : o.Loads files g)
    (h : g.report.outcome = .ok entries) :
    (runOptions o.withReport terminal files).1.ending = .exit 0 ∧
      (runOptions o.withReport terminal files).1.stdout =
        textOfLines (entries.map (·.line (o.color && terminal)) ++
          [paint (o.color && terminal) (entries.all SelectionReport.disjoint)
            (SelectionReport.summary entries)]) := by
  obtain ⟨path, hpath, hload⟩ := Plan.loads_iff.1 hload
  -- Keys may be given, but nothing is asked about them.
  have hkeys : Shows ((o.withReport.keys g).forM
      (Plan.showKey o.withReport (o.color && terminal) g)) () [] := .forM_of_nothing fun key _ =>
    Plan.shows_showKey hidle.first hidle.follow hidle.choices (.not_asked hidle.selection _)
  rw [← List.append_nil (_ ++ _)]
  refine runOptions_of_shows (o := o.withReport) hpath ?_
  exact Plan.shows_ofOptions hload hidle.skeleton hidle.prototypes
    (.asked rfl (Plan.shows_showReport h)) hkeys

/-- If only the selection sets of all keys are asked for, a run shows the lines of the report. -/
theorem Idle.runOptions_withSelection (hidle : o.Idle) (terminal : Bool) (hload : o.Loads files g)
    (h : g.report.outcome = .ok entries) :
    (runOptions o.withSelection terminal files).1.ending = .exit 0 ∧
      (runOptions o.withSelection terminal files).1.stdout =
        textOfLines (entries.map (·.line (o.color && terminal))) := by
  obtain ⟨path, hpath, hload⟩ := Plan.loads_iff.1 hload
  -- The keys are the left-hand sides, a symbol with several rules as often as in the report.
  have hkeys : Shows ((o.withSelection.keys g).forM
      (Plan.showKey o.withSelection (o.color && terminal) g)) ()
      (entries.map (·.line (o.color && terminal))) := by
    rw [List.map_eq_flatMap]
    refine .forM (List.forall₂_map_left_iff.2 ((Grammar.outcome_report_eq_ok_iff.1 h).imp ?_))
    rintro r ⟨_, sets⟩ ⟨rfl, hsets⟩
    exact Plan.shows_showKey hidle.first hidle.follow hidle.choices
      (.asked rfl (Plan.shows_showSelection hsets))
  rw [← List.nil_append (List.map _ _)]
  refine runOptions_of_shows (o := o.withSelection) hpath ?_
  exact Plan.shows_ofOptions hload hidle.skeleton hidle.prototypes (.not_asked hidle.report _) hkeys

end Options

/-- In a grammar that is read from a file, no line ends stand in non-terminals. -/
theorem Options.Loads.not_mem_newline (hload : o.Loads files g) {r : Rule} (hr : r ∈ g.rules) :
    '\n' ∉ r.nonTerminal.toList := by
  obtain ⟨path, bytes, chars, -, -, -, hread⟩ := hload
  have hclean : g.Clean := Grammar.clean_of_reads ⟨g, hread, rfl⟩
  intro hmem
  exact absurd ((hclean.clean_of_mem r hr).nonTerminal_isWord.noBlanks _ hmem) (by decide)

/-- What two runs show of a grammar, of which the one makes the report and the other queries the
selection sets of all keys, with the entries of the report, its verdict and its summary. -/
structure SameLines (g : Grammar) (colored : Bool) (report selection : Display)
    (entries : List SelectionReport) (verdict : Bool) (summary : String) : Prop where
  /-- There is an entry for each rule, in order, with the selection sets of its non-terminal. -/
  forall₂_rules : List.Forall₂ (fun r entry => entry.nonTerminal = r.nonTerminal ∧
    (g.selectionSets r.nonTerminal).outcome = .ok entry.sets) g.rules entries
  /-- The verdict says whether the grammar is LL(1). -/
  isPredictive_eq : g.isPredictive.outcome = .ok verdict
  /-- The query shows a line for each entry, as good news if its sets are disjoint. -/
  selection_stdout : selection.stdout =
    textOfLines (entries.map fun entry => paint colored entry.disjoint entry.render)
  /-- The report shows the same text and then the summary, as good news if the grammar is LL(1). -/
  report_stdout : report.stdout = selection.stdout ++ textOfLines [paint colored verdict summary]
  /-- All these lines are single lines. -/
  not_mem_newline : ∀ line ∈ paint colored verdict summary ::
    entries.map fun entry => paint colored entry.disjoint entry.render, '\n' ∉ line.toList
  /-- The summary is the good one exactly when the grammar is LL(1). -/
  summary_eq_iff : summary = "grammar is LL(1)" ↔ verdict = true
  /-- Else it lists the non-terminals of the lines that were shown as bad news, in order. -/
  summary_of_false : verdict = false → summary = "grammar is not LL(1): " ++
    ", ".intercalate ((entries.filter (!·.disjoint)).map SelectionReport.nonTerminal)
  /-- Both runs succeed. -/
  endings : report.ending = .exit 0 ∧ selection.ending = .exit 0

/-- The report shows what a query of the selection sets of all keys shows, and its summary, on every
grammar that is read from a file and whose leading symbols form no cycle. -/
theorem run_report_run_selection {forReport forSelection : List String} (terminal : Bool)
    (hreport : Arguments.read forReport = .ok o.withReport)
    (hselection : Arguments.read forSelection = .ok o.withSelection) (hidle : o.Idle)
    (hload : o.Loads files g) (hacyclic : ¬ ∃ x, Relation.TransGen g.LeadsTo x x) :
    ∃ entries verdict summary, SameLines g (o.color && terminal) (run forReport terminal files).1
      (run forSelection terminal files).1 entries verdict summary := by
  obtain ⟨entries, hentries⟩ := Grammar.exists_report_eq_ok_iff.2 hacyclic
  have hrules := Grammar.outcome_report_eq_ok_iff.1 hentries
  have hnames : ∀ entry ∈ entries, '\n' ∉ entry.nonTerminal.toList := by
    intro entry hentry
    obtain ⟨r, hr, hname, -⟩ := exists_mem_of_forall₂ hrules.flip hentry
    rw [hname]
    exact hload.not_mem_newline hr
  obtain ⟨hexit, hstdout⟩ := hidle.runOptions_withReport terminal hload hentries
  obtain ⟨hexit', hstdout'⟩ := hidle.runOptions_withSelection terminal hload hentries
  refine ⟨entries, entries.all SelectionReport.disjoint, SelectionReport.summary entries, ?_⟩
  simp only [run, hreport, hselection]
  exact {
    forall₂_rules := hrules
    isPredictive_eq := Grammar.outcome_isPredictive_eq_ok_iff.2 ⟨entries, hentries, rfl⟩
    selection_stdout := hstdout'
    report_stdout := by rw [hstdout, hstdout', textOfLines_append]
    not_mem_newline := List.forall_mem_cons.2
      ⟨not_mem_newline_paint (SelectionReport.not_mem_newline_summary hnames),
        List.forall_mem_map.2 fun entry hentry =>
          SelectionReport.not_mem_newline_line _ (hnames entry hentry)⟩
    summary_eq_iff := SelectionReport.summary_eq_iff
    summary_of_false := SelectionReport.summary_of_not_all
    endings := ⟨hexit, hexit'⟩ }

/-- A grammar with two rules for a symbol whose name stands for all keys. -/
def overlappingAll : Grammar :=
  ⟨[⟨"all", [⟨"a", []⟩, ⟨"a", ["b"]⟩], "all ::= a | a b", List.cons_ne_nil _ _⟩,
    ⟨"S", [⟨"all", []⟩, ⟨"c", []⟩], "S ::= all | c", List.cons_ne_nil _ _⟩,
    ⟨"all", [⟨"d", []⟩], "all ::= d", List.cons_ne_nil _ _⟩]⟩

/-- The files with the text of that grammar. -/
def overlappingAllFiles : FileTree :=
  ⟨[(["w", "g"], Utf8.encode "all ::= a | a b\nS ::= all | c\nall ::= d\n")], [], ["w"], []⟩

/-- The two runs show the same lines of a grammar that is not LL(1), in colour. -/
theorem run_report_run_selection_overlappingAll :
    ∃ entries verdict summary, SameLines overlappingAll true
      (run ["--filename", "g", "--check_first_plus"] true overlappingAllFiles).1
      (run ["--filename", "g", "--key", "all", "--first_plus"] true overlappingAllFiles).1
      entries verdict summary := by
  have hload : ({ grammarPath := .value "g" } : Options).Loads overlappingAllFiles overlappingAll :=
    ⟨"g", _, _, rfl, rfl, rfl, by decide +kernel⟩
  have hacyclic : ¬ ∃ x, Relation.TransGen overlappingAll.LeadsTo x x := fun ⟨x, hxx⟩ =>
    Grammar.not_transGen_leadsTo_of_leftSides (by decide +kernel) x hxx
  exact run_report_run_selection true (by decide +kernel) (by decide +kernel)
    ⟨rfl, rfl, rfl, rfl, rfl, rfl, rfl⟩ hload hacyclic

-- A non-terminal with two rules is shown, and named, twice.
example :
    (run ["--filename", "g", "--check_first_plus"] false
      ⟨[(["w", "g"], Utf8.encode "S ::= a | a b\nS ::= c\n")], [], ["w"], []⟩).1.stdout =
        "first_plus(S) = [\x7b'a'\x7d, \x7b'a'\x7d]\n" ++
          "first_plus(S) = [\x7b'a'\x7d, \x7b'a'\x7d]\n" ++ "grammar is not LL(1): S, S\n" := by
  decide +kernel

end Predictive
