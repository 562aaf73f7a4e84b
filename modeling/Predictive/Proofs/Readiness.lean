import Predictive.CommandLine.Run
import Predictive.Proofs.Outcomes

/-!
# When a run is ready to write

A run first reads a grammar, shows what is asked for and generates a skeleton, and only then writes
files. Main statements: all this succeeds exactly when the grammar is read, every set that is to be
shown is there, and so is the skeleton if it is asked for (`outcome_ofOptions_read_eq_ok_iff`); and
reading shows nothing and fails for reasons that are told in words (`quiet_load`).
-/

namespace Predictive

open Text

namespace Options

/-- The symbols that are queried. -/
def keys (o : Options) (g : Grammar) : List Symbol :=
  ((Given.text? o.key).map (symbolsOfKey · g)).getD []

/-- The grammar is read from the grammar file. -/
def Loads (o : Options) (files : FileTree) (g : Grammar) : Prop :=
  ∃ path bytes chars, o.grammarPath = .value path ∧
    files.read (Path.normalize path) = .ok bytes ∧ Utf8.decode bytes = .ok chars ∧
      (Grammar.readText (String.ofList (unifyLineEnds chars))).outcome = .ok g

/-- Whatever is to be shown of a grammar is there. -/
structure Answers (o : Options) (g : Grammar) : Prop where
  /-- The LL(1) report is there if it is to be shown. -/
  report : o.report = true → ∃ reports, g.report.outcome = .ok reports
  /-- FIRST of all queried symbols is there if it is to be shown. -/
  first : o.first = true → ∀ key ∈ o.keys g, ∃ set, g.first key = .ok set
  /-- FOLLOW of all queried symbols is there if it is to be shown. -/
  follow : o.follow = true → ∀ key ∈ o.keys g, ∃ set, (g.follow key).outcome = .ok set
  /-- The selection sets of all queried symbols are there if they are to be shown. -/
  selection : o.selection = true →
    ∀ key ∈ o.keys g, ∃ sets, (g.selectionSets key).outcome = .ok sets
  /-- So are they if they are to be shown next to the alternatives. -/
  choices : o.choices = true → ∀ key ∈ o.keys g, ∃ pairs, (g.choices key).outcome = .ok pairs

/-- The text of the skeleton is there if it is asked for. -/
def Generates (o : Options) (g : Grammar) : Prop :=
  o.skeleton = true →
    ∃ target text, o.target = .value target ∧ (g.skeletonText target).outcome = .ok text

/-- The text of the skeleton is to be put into the file at a path. -/
def Saves (o : Options) (g : Grammar) (target : Target) (path text : String) : Prop :=
  o.skeleton = true ∧ o.target = .value target ∧ (g.skeletonText target).outcome = .ok text ∧
    Given.text? o.skeletonPath = some path

/-- Nothing is left to a run but to write files. -/
structure Ready (o : Options) (files : FileTree) (g : Grammar) : Prop where
  /-- The grammar is read. -/
  loads : o.Loads files g
  /-- What is to be shown is there. -/
  answers : o.Answers g
  /-- What is to be written is there. -/
  generates : o.Generates g

end Options

variable {ω ω' ε ε' α β : Type} {o : Options} {files : FileTree} {g : Grammar} {path : String}
  {content : Except FileError Bytes}

/-! ## Parts that succeed -/

/-- An outcome stays a success under another error. -/
theorem mapError_eq_ok_iff {x : Except ε α} {f : ε → ε'} {a : α} :
    x.mapError f = .ok a ↔ x = .ok a := by
  cases x <;> simp [Except.mapError]

/-- Two things that are done one after the other succeed exactly when both do. -/
theorem outcome_seq_eq_ok_iff {x y : Traced ω ε Unit} :
    (do x; y).outcome = .ok () ↔ x.outcome = .ok () ∧ y.outcome = .ok () := by
  rw [Traced.outcome_bind, bind_eq_ok_iff]
  exact ⟨fun ⟨_, hx, hy⟩ => ⟨hx, hy⟩, fun ⟨hx, hy⟩ => ⟨(), hx, hy⟩⟩

/-- What is done for each member of a list succeeds exactly when it does for each of them. -/
theorem outcome_forM_eq_ok_iff {f : α → Traced ω ε Unit} {l : List α} :
    (l.forM f).outcome = .ok () ↔ ∀ a ∈ l, (f a).outcome = .ok () := by
  induction l with
  | nil => simp
  | cons a l ih =>
    rw [List.forall_mem_cons, ← ih, ← outcome_seq_eq_ok_iff]
    rfl

namespace Transcript

/-- What is shown first stands before what is shown later. -/
theorem stdout_append (first later : List Entry) :
    stdout (first ++ later) = stdout first ++ stdout later := by
  rw [stdout, List.map_append, String.join_append]
  rfl

/-- What is noted for the log is not shown. -/
theorem stdout_map_event (events : List Event) : stdout (events.map .event) = "" := by
  induction events with
  | nil => rfl
  | cons e events ih =>
    rw [List.map_cons, ← List.singleton_append, stdout_append, ih]
    rfl

/-- Nothing is shown on the standard output, and whatever fails is told in words. -/
structure Quiet (x : Transcript α) : Prop where
  /-- Nothing is shown. -/
  stdout_eq : stdout x.trace = ""
  /-- A failure has words. -/
  exists_message : ∀ failure, x.outcome = .error failure → ∃ words, failure.message = .ok words

namespace Quiet

/-- Success is quiet. -/
theorem pure (a : α) : Quiet (Pure.pure a : Transcript α) :=
  ⟨rfl, fun _ h => nomatch h⟩

/-- A note in the log is quiet. -/
theorem note (e : Event) : Quiet (Traced.note (.event e) : Transcript Unit) :=
  ⟨rfl, fun _ h => nomatch h⟩

/-- Errors that have words stay so as failures. -/
theorem exists_message_of_mapError {error : ε → Failure} {x : Except ε α} {failure : Failure}
    (h : ∀ e, ∃ words, (error e).message = .ok words) (hx : x.mapError error = .error failure) :
    ∃ words, failure.message = .ok words := by
  cases x with
  | error e =>
    cases hx
    exact h e
  | ok a => cases hx

/-- What is noted in the log and fails in words is quiet. -/
theorem adapt {error : ε → Failure} {x : Traced Event ε α}
    (h : ∀ e, ∃ words, (error e).message = .ok words) : Quiet (x.adapt .event error) := by
  constructor
  · rw [Traced.trace_adapt, stdout_map_event]
  · intro failure hfailure
    rw [Traced.outcome_adapt] at hfailure
    exact exists_message_of_mapError h hfailure

/-- What fails in words is quiet. -/
theorem ofExcept {error : ε → Failure} {x : Except ε α}
    (h : ∀ e, ∃ words, (error e).message = .ok words) :
    Quiet (Traced.ofExcept (x.mapError error)) :=
  ⟨rfl, fun _ hfailure => exists_message_of_mapError h hfailure⟩

/-- Quiet parts make a quiet whole. -/
theorem bind {x : Transcript α} {f : α → Transcript β} (hx : Quiet x) (hf : ∀ a, Quiet (f a)) :
    Quiet (x >>= f) := by
  cases hout : x.outcome with
  | error failure =>
    constructor
    · rw [Traced.trace_bind_error hout, hx.stdout_eq]
    · intro failure' h
      rw [Traced.outcome_bind, hout] at h
      cases h
      exact hx.exists_message failure hout
  | ok a =>
    constructor
    · rw [Traced.trace_bind_ok hout, stdout_append, hx.stdout_eq, (hf a).stdout_eq]
      rfl
    · intro failure h
      rw [Traced.outcome_bind, hout] at h
      exact (hf a).exists_message failure h

end Quiet

/-- What is done on demand succeeds if it does when there is the demand. -/
theorem outcome_asked_eq_ok_iff {b : Bool} {x : Transcript Unit} :
    (asked b x).outcome = .ok () ↔ (b = true → x.outcome = .ok ()) := by
  cases b <;> simp [asked]

/-- A line is always shown. -/
theorem outcome_announce (colored good : Bool) (text : String) :
    (announce colored good text).outcome = .ok () := rfl

/-- An analysis succeeds as a part of a run as it does alone. -/
theorem outcome_analysis_eq_ok_iff {x : Traced Event LeftRecursion α} {a : α} :
    (analysis x).outcome = .ok a ↔ x.outcome = .ok a := by
  rw [analysis, Traced.outcome_adapt, mapError_eq_ok_iff]

/-- What shows an analysis succeeds where the analysis does. -/
theorem outcome_analysis_bind_eq_ok_iff {x : Traced Event LeftRecursion α}
    {f : α → Transcript Unit} (hf : ∀ a, (f a).outcome = .ok ()) :
    (analysis x >>= f).outcome = .ok () ↔ ∃ a, x.outcome = .ok a := by
  simp only [Traced.outcome_bind, bind_eq_ok_iff, outcome_analysis_eq_ok_iff, hf, and_true]

end Transcript

namespace Plan

open Transcript

/-! ## What is shown -/

/-- The verdict is always shown. -/
theorem outcome_showVerdict (colored : Bool) (reports : List SelectionReport) :
    (showVerdict colored reports).outcome = .ok () := by
  rw [showVerdict]
  split <;> rfl

/-- The report is shown where it is there. -/
theorem outcome_showReport_eq_ok_iff {colored : Bool} :
    (showReport colored g).outcome = .ok () ↔ ∃ reports, g.report.outcome = .ok reports := by
  refine outcome_analysis_bind_eq_ok_iff fun reports => ?_
  rw [Traced.outcome_bind, bind_eq_ok_iff]
  exact ⟨(), outcome_forM_eq_ok_iff.2 fun r _ => outcome_announce .., outcome_showVerdict ..⟩

/-- What is asked for about a key is shown where it is there. -/
theorem outcome_showKey_eq_ok_iff {colored : Bool} {key : Symbol} :
    (showKey o colored g key).outcome = .ok () ↔
      (o.first = true → ∃ set, g.first key = .ok set) ∧
        (o.follow = true → ∃ set, (g.follow key).outcome = .ok set) ∧
          (o.selection = true → ∃ sets, (g.selectionSets key).outcome = .ok sets) ∧
            (o.choices = true → ∃ pairs, (g.choices key).outcome = .ok pairs) := by
  rw [showKey, outcome_seq_eq_ok_iff, outcome_seq_eq_ok_iff, outcome_seq_eq_ok_iff]
  simp only [outcome_asked_eq_ok_iff]
  refine and_congr (imp_congr_right fun _ => ?_) (and_congr (imp_congr_right fun _ => ?_)
    (and_congr (imp_congr_right fun _ => ?_) (imp_congr_right fun _ => ?_)))
  · exact outcome_analysis_bind_eq_ok_iff fun set => rfl
  · exact outcome_analysis_bind_eq_ok_iff fun set => rfl
  · exact outcome_analysis_bind_eq_ok_iff fun sets => rfl
  · rw [showChoices, outcome_seq_eq_ok_iff, outcome_seq_eq_ok_iff, outcome_analysis_bind_eq_ok_iff]
    -- The lines before the pairs are always shown.
    · exact ⟨fun h => h.2.2, fun h => ⟨rfl, outcome_asked_eq_ok_iff.2 fun _ => rfl, h⟩⟩
    · exact fun pairs => outcome_forM_eq_ok_iff.2 fun _ _ => rfl

/-! ## The skeleton -/

/-- A flag's value is there where the flag is set to one. -/
theorem outcome_needed_eq_ok_iff {flag : Flag} {given : Given α} {a : α} :
    (needed flag given).outcome = .ok a ↔ given = .value a := by
  cases given <;> simp [needed, noValue]

/-- The requests for a skeleton that is asked for. -/
theorem outcome_skeletonRequests_of_asked (hasked : o.skeleton = true) {requests : List Request} :
    (skeletonRequests o g).outcome = .ok requests ↔
      ∃ target text, o.target = .value target ∧ (g.skeletonText target).outcome = .ok text ∧
        requests = ((Given.text? o.skeletonPath).map (Request.skeleton target · text)).toList := by
  rw [skeletonRequests, if_pos hasked]
  simp only [Traced.outcome_bind, Traced.outcome_adapt, bind_eq_ok_iff, mapError_eq_ok_iff,
    outcome_needed_eq_ok_iff]
  refine exists_congr fun target => ?_
  rw [exists_and_left]
  refine and_congr_right fun htarget => exists_congr fun text => and_congr_right fun htext => ?_
  cases Given.text? o.skeletonPath with
  | none => exact ⟨fun h => by cases h; rfl, fun h => by rw [h]; rfl⟩
  | some path => exact ⟨fun h => by cases h; rfl, fun h => by rw [h]; rfl⟩

/-- The requests for a skeleton are known exactly when its text is there, if it is asked for. -/
theorem exists_outcome_skeletonRequests_iff :
    (∃ requests, (skeletonRequests o g).outcome = .ok requests) ↔ o.Generates g := by
  rw [Options.Generates]
  cases hasked : o.skeleton with
  | false =>
    rw [skeletonRequests, hasked]
    exact ⟨fun _ h => absurd h Bool.false_ne_true, fun _ => ⟨[], rfl⟩⟩
  | true =>
    simp only [outcome_skeletonRequests_of_asked hasked, true_imp_iff]
    exact ⟨fun ⟨_, target, text, htarget, htext, _⟩ => ⟨target, text, htarget, htext⟩,
      fun ⟨target, text, htarget, htext⟩ => ⟨_, target, text, htarget, htext, rfl⟩⟩

/-- A skeleton that is to be put into a file is requested so. -/
theorem outcome_skeletonRequests_of_saves {target : Target} {text : String}
    (h : o.Saves g target path text) :
    (skeletonRequests o g).outcome = .ok [.skeleton target path text] := by
  obtain ⟨hasked, htarget, htext, hpath⟩ := h
  refine (outcome_skeletonRequests_of_asked hasked).2 ⟨target, text, htarget, htext, ?_⟩
  rw [hpath]
  rfl

/-- Nothing is requested for a skeleton that is not to be put into a file. -/
theorem requests_eq_nil_of_not_saves {requests : List Request}
    (h : (skeletonRequests o g).outcome = .ok requests)
    (hsaves : ∀ target path text, ¬ o.Saves g target path text) : requests = [] := by
  cases hasked : o.skeleton with
  | false =>
    rw [skeletonRequests, hasked] at h
    cases h
    rfl
  | true =>
    obtain ⟨target, text, htarget, htext, rfl⟩ := (outcome_skeletonRequests_of_asked hasked).1 h
    cases hpath : Given.text? o.skeletonPath with
    | none => rfl
    | some path => exact absurd ⟨hasked, htarget, htext, hpath⟩ (hsaves target path text)

/-! ## Grammars that are not read -/

/-- A grammar is loaded when there is content, it is a text, and the text is that of a grammar. -/
theorem outcome_load_eq_ok_iff :
    (load path content).outcome = .ok g ↔
      ∃ bytes chars, content = .ok bytes ∧ Utf8.decode bytes = .ok chars ∧
        (Grammar.readText (String.ofList (unifyLineEnds chars))).outcome = .ok g := by
  simp only [load, Traced.outcome_bind, Traced.outcome_ofExcept, Traced.outcome_note,
    Traced.outcome_adapt, Traced.outcome_pure, bind_eq_ok_iff, mapError_eq_ok_iff,
    Except.ok.injEq, exists_const, true_and, exists_eq_right, exists_and_left]

/-- Loading shows nothing, and fails for reasons that are told. -/
theorem quiet_load (path : String) (content : Except FileError Bytes) :
    Quiet (load path content) := by
  rw [load]
  refine .bind (.ofExcept fun e => ⟨_, rfl⟩) fun bytes => ?_
  refine .bind (.ofExcept fun e => ⟨_, rfl⟩) fun chars => ?_
  refine .bind (.note _) fun _ => ?_
  refine .bind (.adapt fun e => ⟨_, rfl⟩) fun g => ?_
  exact .bind (.note _) fun _ => .pure g

/-! ## Plans -/

/-- What is to be shown is there exactly when all parts that show it succeed. -/
theorem answers_iff (colored : Bool) :
    o.Answers g ↔
      (asked o.report (showReport colored g)).outcome = .ok () ∧
        ((o.keys g).forM (showKey o colored g)).outcome = .ok () := by
  simp only [outcome_asked_eq_ok_iff, outcome_showReport_eq_ok_iff, outcome_forM_eq_ok_iff,
    outcome_showKey_eq_ok_iff]
  exact ⟨fun h => ⟨h.report, fun key hkey => ⟨(h.first · key hkey), (h.follow · key hkey),
      (h.selection · key hkey), (h.choices · key hkey)⟩⟩,
    fun ⟨hreport, hkeys⟩ => ⟨hreport, fun ho key hkey => (hkeys key hkey).1 ho,
      fun ho key hkey => (hkeys key hkey).2.1 ho, fun ho key hkey => (hkeys key hkey).2.2.1 ho,
      fun ho key hkey => (hkeys key hkey).2.2.2 ho⟩⟩

/-- A plan succeeds exactly when a grammar is loaded and everything is there that is to be shown of
it or to be written. -/
theorem outcome_ofOptions_eq_ok_iff {terminal : Bool} {requests : List Request} :
    (ofOptions o terminal path content).outcome = .ok requests ↔
      ∃ g, (load path content).outcome = .ok g ∧ o.Answers g ∧
        ∃ first, (skeletonRequests o g).outcome = .ok first ∧
          first ++ prototypeRequests o g = requests := by
  rw [ofOptions, Traced.outcome_bind, bind_eq_ok_iff]
  refine exists_congr fun g => and_congr_right fun _ => ?_
  rw [answers_iff (o.color && terminal), and_assoc]
  simp only [Traced.outcome_bind, bind_eq_ok_iff, Traced.outcome_pure, Except.ok.injEq]
  exact ⟨fun ⟨_, hreport, _, hkeys, later⟩ => ⟨hreport, hkeys, later⟩,
    fun ⟨hreport, hkeys, later⟩ => ⟨(), hreport, (), hkeys, later⟩⟩

/-- A grammar is read exactly when a path is given and the grammar of its file is loaded. -/
theorem loads_iff :
    o.Loads files g ↔
      ∃ path, o.grammarPath = .value path ∧
        (load path (files.read (Path.normalize path))).outcome = .ok g := by
  simp only [Options.Loads, outcome_load_eq_ok_iff, exists_and_left]

/-- Where no grammar is loaded, a plan fails as loading did. -/
theorem outcome_ofOptions_of_load_eq_error (o : Options) (terminal : Bool) {failure : Failure}
    (h : (load path content).outcome = .error failure) :
    (ofOptions o terminal path content).outcome = .error failure := by
  rw [ofOptions, Traced.outcome_bind, h]
  rfl

/-- Where no grammar is loaded, a plan shows nothing. -/
theorem stdout_ofOptions_of_load_eq_error (o : Options) (terminal : Bool) {failure : Failure}
    (h : (load path content).outcome = .error failure) :
    stdout (ofOptions o terminal path content).trace = "" := by
  rw [ofOptions, Traced.trace_bind_error h, (quiet_load path content).stdout_eq]

/-- The plan of a run on files succeeds exactly when the run is ready to write. -/
theorem outcome_ofOptions_read_eq_ok_iff {terminal : Bool} {requests : List Request}
    (hpath : o.grammarPath = .value path) :
    (ofOptions o terminal path (files.read (Path.normalize path))).outcome = .ok requests ↔
      ∃ g, o.Ready files g ∧ ∃ first, (skeletonRequests o g).outcome = .ok first ∧
        first ++ prototypeRequests o g = requests := by
  rw [outcome_ofOptions_eq_ok_iff]
  constructor
  · rintro ⟨g, hload, hanswers, first, hfirst, hrequests⟩
    exact ⟨g, ⟨loads_iff.2 ⟨path, hpath, hload⟩, hanswers,
      exists_outcome_skeletonRequests_iff.1 ⟨first, hfirst⟩⟩, first, hfirst, hrequests⟩
  · rintro ⟨g, hready, first, hfirst, hrequests⟩
    obtain ⟨path', hpath', hload⟩ := loads_iff.1 hready.loads
    rw [hpath] at hpath'
    cases hpath'
    exact ⟨g, hload, hready.answers, first, hfirst, hrequests⟩

end Plan

end Predictive
