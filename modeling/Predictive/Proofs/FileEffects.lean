import Predictive.Proofs.Places
import Predictive.Proofs.Readiness

/-!
# What a run does to files

A run writes files only when nothing but writing is left to do, and then in two steps: it puts the
skeleton into a file, and makes a new file for the prototypes. Each step is a relation between the
files before and after it. Main statement: whatever the options and the files are, a run leaves the
files alone or does these steps, and its exit code says which (`runOptions_effects`).
-/

namespace Predictive

open Text

/-! ## The steps -/

/-- The step that puts the skeleton into a file, with whether the run goes on after it. -/
inductive SkeletonStep (o : Options) (g : Grammar) (files : FileTree) : FileTree → Bool → Prop where
  /-- There is nothing to put into a file. -/
  | idle (h : ∀ target path text, ¬ o.Saves g target path text) : SkeletonStep o g files files true
  /-- The whole text is in the file, whatever it held before. -/
  | saved {target : Target} {path text : String} {l : Location} (h : o.Saves g target path text)
      (hl : files.destination (Path.normalize path) = .ok l) :
      SkeletonStep o g files (files.put l (Utf8.encode text)) true
  /-- The path leads to no file, nor to a place for one, or it may not be written. -/
  | refused {target : Target} {path text : String} (h : o.Saves g target path text)
      (hl : ∀ l, files.destination (Path.normalize path) ≠ .ok l) :
      SkeletonStep o g files files false

/-- The step that makes a new file for the prototypes, with the exit code after it. -/
inductive PrototypesStep (o : Options) (g : Grammar) (files : FileTree) :
    FileTree → Nat → Prop where
  /-- No file is asked for. -/
  | idle (h : Given.text? o.prototypesPath = none) : PrototypesStep o g files files 0
  /-- Nothing was where the new file is, which holds the prototypes. -/
  | made {path : String} {l : Location} (h : Given.text? o.prototypesPath = some path)
      (hl : files.newDestination path = .ok l) (hvacant : files.IsVacant l) :
      PrototypesStep o g files (files.put l (Utf8.encode g.prototypes)) 0
  /-- Something is where the path leads, it leads nowhere, or no file may be made there. -/
  | refused {path : String} (h : Given.text? o.prototypesPath = some path)
      (hl : ∀ l, files.newDestination path ≠ .ok l) : PrototypesStep o g files files 1

/-- Both steps in order, with the exit code after them. -/
inductive Writes (o : Options) (g : Grammar) (files : FileTree) : FileTree → Nat → Prop where
  /-- The skeleton cannot be put into its file, and so the prototypes are left out. -/
  | refused {final : FileTree} (h : SkeletonStep o g files final false) : Writes o g files final 1
  /-- The second step follows the first. -/
  | followed {middle final : FileTree} {code : Nat} (first : SkeletonStep o g files middle true)
      (second : PrototypesStep o g middle final code) : Writes o g files final code

variable {o : Options} {files files' final : FileTree} {g : Grammar} {target : Target}
  {path text : String} {l : Location} {content : Bytes} {code : Nat} {done : Bool}

/-- The first step can be done, whatever the files are. -/
theorem exists_skeletonStep (o : Options) (g : Grammar) (files : FileTree) :
    ∃ final done, SkeletonStep o g files final done := by
  by_cases hsaves : ∃ target path text, o.Saves g target path text
  · obtain ⟨target, path, text, hsaves⟩ := hsaves
    by_cases hsome : ∃ l, files.destination (Path.normalize path) = .ok l
    · obtain ⟨l, hl⟩ := hsome
      exact ⟨_, _, .saved hsaves hl⟩
    · exact ⟨_, _, .refused hsaves fun l hl => hsome ⟨l, hl⟩⟩
  · exact ⟨_, _, .idle fun target path text h => hsaves ⟨target, path, text, h⟩⟩

/-- The second step can be done, whatever the files are. -/
theorem exists_prototypesStep (o : Options) (g : Grammar) (files : FileTree) :
    ∃ final code, PrototypesStep o g files final code := by
  cases hpath : Given.text? o.prototypesPath with
  | none => exact ⟨_, _, .idle hpath⟩
  | some path =>
    by_cases hsome : ∃ l, files.newDestination path = .ok l
    · obtain ⟨l, hl⟩ := hsome
      exact ⟨_, _, .made hpath hl (FileTree.isVacant_of_newDestination hl)⟩
    · exact ⟨_, _, .refused hpath fun l hl => hsome ⟨l, hl⟩⟩

/-- Both steps can be done, whatever the files are. -/
theorem exists_writes (o : Options) (g : Grammar) (files : FileTree) :
    ∃ final code, Writes o g files final code := by
  obtain ⟨middle, done, hfirst⟩ := exists_skeletonStep o g files
  cases done with
  | false => exact ⟨_, _, .refused hfirst⟩
  | true =>
    obtain ⟨final, code, hsecond⟩ := exists_prototypesStep o g middle
    exact ⟨_, _, .followed hfirst hsecond⟩

/-! ## Requests -/

namespace Request

variable {request : Request} {requests first later : List Request}

/-- A request for a skeleton is granted where a file can be written. -/
theorem grant_skeleton_eq_ok_iff :
    (skeleton target path text).grant files = .ok files' ↔
      ∃ l, files.destination (Path.normalize path) = .ok l ∧
        files' = files.put l (Utf8.encode text) := by
  rw [grant, FileTree.write_eq_ok_iff]

/-- A request for prototypes is granted where a file can be made. -/
theorem grant_prototypes_eq_ok_iff :
    (prototypes path text).grant files = .ok files' ↔
      ∃ l, files.newDestination path = .ok l ∧ files' = files.put l (Utf8.encode text) := by
  rw [grant, FileTree.create_eq_ok_iff]

/-- The files after requests, and how a run ends with them. -/
def settle (files : FileTree) (requests : List Request) : FileTree × Ending :=
  ((grantAll files requests).1, (Display.close (grantAll files requests).2.outcome).1)

/-- A request that is granted is followed by the others. -/
theorem settle_cons_of_ok (h : request.grant files = .ok files') :
    settle files (request :: later) = settle files' later := by
  rw [settle, grantAll, h]
  rfl

/-- A request that is not granted ends a run. -/
theorem settle_cons_of_not_ok (h : ∀ files', request.grant files ≠ .ok files') :
    settle files (request :: later) = (files, .exit 1) := by
  cases hgrant : request.grant files with
  | error e =>
    rw [settle, grantAll, hgrant]
    rfl
  | ok files' => exact absurd hgrant (h files')

/-- The requests for a skeleton do the first step. -/
theorem settle_of_skeletonStep (h : SkeletonStep o g files final done)
    (hfirst : (Plan.skeletonRequests o g).outcome = .ok first) :
    settle files (first ++ later) = if done then settle final later else (final, .exit 1) := by
  cases h with
  | idle h =>
    rw [Plan.requests_eq_nil_of_not_saves hfirst h]
    rfl
  | saved h hl =>
    rw [Plan.outcome_skeletonRequests_of_saves h] at hfirst
    cases hfirst
    exact settle_cons_of_ok (grant_skeleton_eq_ok_iff.2 ⟨_, hl, rfl⟩)
  | refused h hl =>
    rw [Plan.outcome_skeletonRequests_of_saves h] at hfirst
    cases hfirst
    refine settle_cons_of_not_ok fun files' hgrant => ?_
    obtain ⟨l, hl', -⟩ := grant_skeleton_eq_ok_iff.1 hgrant
    exact hl l hl'

/-- The requests for prototypes do the second step. -/
theorem settle_of_prototypesStep (h : PrototypesStep o g files final code) :
    settle files (Plan.prototypeRequests o g) = (final, .exit code) := by
  rw [Plan.prototypeRequests]
  cases h with
  | idle h =>
    rw [h]
    rfl
  | made h hl =>
    rw [h]
    exact settle_cons_of_ok (grant_prototypes_eq_ok_iff.2 ⟨_, hl, rfl⟩)
  | refused h hl =>
    rw [h]
    refine settle_cons_of_not_ok fun files' hgrant => ?_
    obtain ⟨l, hl', -⟩ := grant_prototypes_eq_ok_iff.1 hgrant
    exact hl l hl'

/-- All requests of a run do both steps. -/
theorem settle_of_writes (h : Writes o g files final code)
    (hfirst : (Plan.skeletonRequests o g).outcome = .ok first) :
    settle files (first ++ Plan.prototypeRequests o g) = (final, .exit code) := by
  cases h with
  | refused h => exact settle_of_skeletonStep h hfirst
  | followed h hlater =>
    rw [settle_of_skeletonStep h hfirst, if_pos rfl]
    exact settle_of_prototypesStep hlater

end Request

/-! ## Places after the steps -/

/-- There is one skeleton to save, in one file. -/
theorem Options.Saves.unique {target' : Target} {path' text' : String}
    (h : o.Saves g target path text) (h' : o.Saves g target' path' text') :
    path = path' ∧ text = text' := by
  obtain ⟨-, htarget, htext, hpath⟩ := h
  obtain ⟨-, htarget', htext', hpath'⟩ := h'
  rw [htarget] at htarget'
  cases htarget'
  rw [htext] at htext'
  rw [hpath] at hpath'
  exact ⟨Option.some.inj hpath', Except.ok.inj htext'⟩

/-- A run goes on only after the whole skeleton is in its file. -/
theorem SkeletonStep.exists_holds (h : SkeletonStep o g files final true)
    (hsaves : o.Saves g target path text) :
    ∃ l, files.destination (Path.normalize path) = .ok l ∧
      final = files.put l (Utf8.encode text) ∧
        final.Holds (Path.normalize path) l (Utf8.encode text) := by
  cases h with
  | idle h => exact absurd hsaves (h target path text)
  | saved h hl =>
    obtain ⟨rfl, rfl⟩ := h.unique hsaves
    exact ⟨_, hl, rfl, FileTree.holds_put hl _⟩

/-- The first step changes the file for the skeleton only. -/
theorem SkeletonStep.holds_of_ne (h : SkeletonStep o g files final done)
    (hne : final.content? l ≠ files.content? l) :
    ∃ target path text, o.Saves g target path text ∧
      final.Holds (Path.normalize path) l (Utf8.encode text) := by
  cases h with
  | idle | refused => exact absurd rfl hne
  | @saved target path text m h hm =>
    obtain rfl : l = m := FileTree.eq_of_content?_put_ne hne
    exact ⟨target, path, text, h, FileTree.holds_put hm _⟩

/-- The second step changes the file for the prototypes only. -/
theorem PrototypesStep.holds_of_ne (h : PrototypesStep o g files final code)
    (hne : final.content? l ≠ files.content? l) :
    ∃ path, Given.text? o.prototypesPath = some path ∧
      final.Holds path l (Utf8.encode g.prototypes) := by
  cases h with
  | idle | refused => exact absurd rfl hne
  | @made path m h hm =>
    obtain rfl : l = m := FileTree.eq_of_content?_put_ne hne
    exact ⟨path, h, FileTree.holds_put (FileTree.of_newDestination hm).2 _⟩

/-- A path that leads to a file still does so after the second step. -/
theorem PrototypesStep.holds_of_holds (h : PrototypesStep o g files final code)
    (hholds : files.Holds path l content) : final.Holds path l content := by
  cases h with
  | idle | refused => exact hholds
  | made h hm hvacant => exact hholds.put hvacant _

/-- Where no file can be made, the second step leaves all files alone. -/
theorem PrototypesStep.eq_of_newDestination_ne (h : PrototypesStep o g files final code)
    (hpath : Given.text? o.prototypesPath = some path)
    (hl : ∀ l, files.newDestination path ≠ .ok l) : final = files ∧ code = 1 := by
  cases h with
  | idle h =>
    rw [h] at hpath
    cases hpath
  | made h hm =>
    rw [h] at hpath
    cases hpath
    exact absurd hm (hl _)
  | refused => exact ⟨rfl, rfl⟩

/-- Prototypes that are asked for are in their file if the second step succeeds. -/
theorem PrototypesStep.exists_holds (h : PrototypesStep o g files final 0)
    (hpath : Given.text? o.prototypesPath = some path) :
    ∃ l, final.Holds path l (Utf8.encode g.prototypes) := by
  cases h with
  | idle h =>
    rw [h] at hpath
    cases hpath
  | made h hm =>
    rw [h] at hpath
    cases hpath
    exact ⟨_, FileTree.holds_put (FileTree.of_newDestination hm).2 _⟩

/-- The first step leaves the folders as they are. -/
theorem SkeletonStep.sameFolders (h : SkeletonStep o g files final done) :
    files.SameFolders final := by
  cases h with
  | idle | refused => exact .refl files
  | saved _ hl => exact FileTree.sameFolders_put hl _

/-- So does the second step. -/
theorem PrototypesStep.sameFolders (h : PrototypesStep o g files final code) :
    files.SameFolders final := by
  cases h with
  | idle | refused => exact .refl files
  | made _ hl => exact FileTree.sameFolders_put (FileTree.of_newDestination hl).2 _

/-- So do both steps. -/
theorem Writes.sameFolders (h : Writes o g files final code) : files.SameFolders final := by
  cases h with
  | refused h => exact h.sameFolders
  | followed hfirst hsecond => exact hfirst.sameFolders.trans hsecond.sameFolders

/-- Both steps change the files for the skeleton and for the prototypes only. -/
theorem Writes.holds_of_ne (h : Writes o g files final code)
    (hne : final.content? l ≠ files.content? l) :
    (∃ target path text, o.Saves g target path text ∧
        final.Holds (Path.normalize path) l (Utf8.encode text)) ∨
      ∃ path, Given.text? o.prototypesPath = some path ∧
        final.Holds path l (Utf8.encode g.prototypes) := by
  cases h with
  | refused h =>
    cases h
    exact absurd rfl hne
  | @followed middle _ _ hfirst hsecond =>
    by_cases hmiddle : final.content? l = middle.content? l
    · rw [hmiddle] at hne
      obtain ⟨target, path, text, hsaves, hholds⟩ := hfirst.holds_of_ne hne
      exact .inl ⟨target, path, text, hsaves, hsecond.holds_of_holds hholds⟩
    · exact .inr (hsecond.holds_of_ne hmiddle)

/-- The skeleton is in its file after both steps, unless no file can be written there. -/
theorem Writes.holds_of_saves (h : Writes o g files final code)
    (hsaves : o.Saves g target path text) :
    ((∀ l, files.destination (Path.normalize path) ≠ .ok l) ∧ final = files ∧ code = 1) ∨
      ∃ l, final.Holds (Path.normalize path) l (Utf8.encode text) := by
  cases h with
  | refused h =>
    cases h with
    | refused h hl =>
      obtain ⟨rfl, -⟩ := h.unique hsaves
      exact .inl ⟨hl, rfl, rfl⟩
  | followed hfirst hsecond =>
    obtain ⟨l, -, -, hholds⟩ := hfirst.exists_holds hsaves
    exact .inr ⟨l, hsecond.holds_of_holds hholds⟩

/-- If one path is given for both files, there is no second step. -/
theorem Writes.eq_put_of_shared (h : Writes o g files final code)
    (hsaves : o.Saves g target path text) (hpath : Given.text? o.prototypesPath = some path) :
    code = 1 ∧ ∀ l, files.destination (Path.normalize path) = .ok l →
      final = files.put l (Utf8.encode text) := by
  cases h with
  | refused h =>
    cases h with
    | refused h hl =>
      obtain ⟨rfl, -⟩ := h.unique hsaves
      exact ⟨rfl, fun l hl' => absurd hl' (hl l)⟩
  | followed hfirst hsecond =>
    obtain ⟨l, hl, rfl, -⟩ := hfirst.exists_holds hsaves
    -- The path that was just written by leads to no place for a new file.
    obtain ⟨rfl, hcode⟩ := hsecond.eq_of_newDestination_ne hpath
      (FileTree.newDestination_put_ne_ok hl (Utf8.encode text))
    refine ⟨hcode, fun l' hl' => ?_⟩
    rw [hl] at hl'
    cases hl'
    rfl

/-- Both steps end well exactly when each of them does. -/
theorem writes_zero_iff :
    Writes o g files final 0 ↔
      ∃ middle, SkeletonStep o g files middle true ∧ PrototypesStep o g middle final 0 := by
  constructor
  · intro h
    cases h with
    | followed hfirst hsecond => exact ⟨_, hfirst, hsecond⟩
  · rintro ⟨middle, hfirst, hsecond⟩
    exact .followed hfirst hsecond

/-! ## Runs -/

/-- A run ends as its outcome says. -/
theorem Display.ending_ofTranscript (verbose : Bool) (t : Transcript Unit) :
    (Display.ofTranscript verbose t).ending = (Display.close t.outcome).1 := rfl

/-- A run shows the lines among its entries. -/
theorem Display.stdout_ofTranscript (verbose : Bool) (t : Transcript Unit) :
    (Display.ofTranscript verbose t).stdout = Transcript.stdout t.trace := rfl

/-- A failure does not end in success. -/
theorem Display.close_error_ne (failure : Failure) :
    (Display.close (.error failure)).1 ≠ .exit 0 := by
  rw [Display.close]
  split <;> simp

/-- A run whose plan fails ends with the plan. -/
theorem runOptions_of_error {terminal : Bool} {failure : Failure}
    (hpath : o.grammarPath = .value path)
    (h : (Plan.ofOptions o terminal path (files.read (Path.normalize path))).outcome =
      .error failure) :
    (runOptions o terminal files).2 = files ∧
      (runOptions o terminal files).1.stdout = Transcript.stdout
        (Plan.ofOptions o terminal path (files.read (Path.normalize path))).trace ∧
      (runOptions o terminal files).1.ending = (Display.close (.error failure)).1 := by
  rw [runOptions, hpath]
  simp only [h, Display.ending_ofTranscript, Display.stdout_ofTranscript, and_self]

/-- A run whose plan succeeds ends with the plan's requests. -/
theorem runOptions_of_ok (terminal : Bool) {requests : List Request}
    (hpath : o.grammarPath = .value path)
    (h : (Plan.ofOptions o terminal path (files.read (Path.normalize path))).outcome =
      .ok requests) :
    ((runOptions o terminal files).2, (runOptions o terminal files).1.ending) =
      Request.settle files requests := by
  rw [runOptions, hpath]
  simp only [h, Display.ending_ofTranscript]
  rfl

/-- A run that reads no grammar ends at once. -/
theorem runOptions_of_not_loads (terminal : Bool) (h : ¬ ∃ g, o.Loads files g) :
    (runOptions o terminal files).2 = files ∧ (runOptions o terminal files).1.stdout = "" ∧
      ((runOptions o terminal files).1.ending = .exit 1 ∨
        o.grammarPath = .dashes ∧
          (runOptions o terminal files).1.ending = .aborted (.noValue .grammarPath)) := by
  cases hpath : o.grammarPath with
  | dashes =>
    rw [runOptions, hpath]
    exact ⟨rfl, rfl, .inr ⟨rfl, rfl⟩⟩
  | value path =>
    cases hload : (Plan.load path (files.read (Path.normalize path))).outcome with
    | ok g => exact absurd ⟨g, Plan.loads_iff.2 ⟨path, hpath, hload⟩⟩ h
    | error failure =>
      obtain ⟨words, hwords⟩ := (Plan.quiet_load _ _).exists_message failure hload
      obtain ⟨hfiles, hstdout, hending⟩ := runOptions_of_error hpath
        (Plan.outcome_ofOptions_of_load_eq_error o terminal hload)
      rw [Plan.stdout_ofOptions_of_load_eq_error o terminal hload] at hstdout
      rw [Display.close, hwords] at hending
      exact ⟨hfiles, hstdout, .inl hending⟩

/-- A run that is not ready to write writes nothing. -/
theorem runOptions_of_not_ready (terminal : Bool) (h : ¬ ∃ g, o.Ready files g) :
    (runOptions o terminal files).2 = files ∧
      (runOptions o terminal files).1.ending ≠ .exit 0 := by
  cases hpath : o.grammarPath with
  | dashes =>
    rw [runOptions, hpath]
    exact ⟨rfl, nofun⟩
  | value path =>
    cases hplan :
        (Plan.ofOptions o terminal path (files.read (Path.normalize path))).outcome with
    | error failure =>
      obtain ⟨hfiles, -, hending⟩ := runOptions_of_error hpath hplan
      rw [hending]
      exact ⟨hfiles, Display.close_error_ne failure⟩
    | ok requests =>
      obtain ⟨g, hready, -⟩ := (Plan.outcome_ofOptions_read_eq_ok_iff hpath).1 hplan
      exact absurd ⟨g, hready⟩ h

/-- A run that is ready to write does both steps. -/
theorem runOptions_of_ready (terminal : Bool) (hready : o.Ready files g)
    (h : Writes o g files final code) :
    (runOptions o terminal files).2 = final ∧
      (runOptions o terminal files).1.ending = .exit code := by
  obtain ⟨path, hpath, -⟩ := Plan.loads_iff.1 hready.loads
  obtain ⟨first, hfirst⟩ := Plan.exists_outcome_skeletonRequests_iff.2 hready.generates
  have hsettle := runOptions_of_ok terminal hpath
    ((Plan.outcome_ofOptions_read_eq_ok_iff hpath).2 ⟨g, hready, first, hfirst, rfl⟩)
  rw [Request.settle_of_writes h hfirst, Prod.mk.injEq] at hsettle
  exact hsettle

/-- A run that is ready to write writes, and its exit code tells how far it came. -/
theorem exists_writes_of_ready (terminal : Bool) (hready : o.Ready files g) :
    ∃ code, Writes o g files (runOptions o terminal files).2 code ∧
      (runOptions o terminal files).1.ending = .exit code := by
  obtain ⟨final, code, h⟩ := exists_writes o g files
  obtain ⟨hfinal, hending⟩ := runOptions_of_ready terminal hready h
  rw [hfinal]
  exact ⟨code, h, hending⟩

/-- A run succeeds exactly when it is ready to write and both steps end well. -/
theorem ending_eq_exit_zero_iff (o : Options) (terminal : Bool) (files : FileTree) :
    (runOptions o terminal files).1.ending = .exit 0 ↔
      ∃ g, o.Ready files g ∧ Writes o g files (runOptions o terminal files).2 0 := by
  constructor
  · intro hzero
    have hsome : ∃ g, o.Ready files g := by
      by_contra hnone
      exact (runOptions_of_not_ready terminal hnone).2 hzero
    obtain ⟨g, hready⟩ := hsome
    obtain ⟨code, h, hending⟩ := exists_writes_of_ready terminal hready
    rw [hzero] at hending
    cases hending
    exact ⟨g, hready, h⟩
  · rintro ⟨g, hready, h⟩
    exact (runOptions_of_ready terminal hready h).2

/-- What a run does to files, and how it ends. -/
structure Effects (o : Options) (files final : FileTree) (display : Display) : Prop where
  /-- If no grammar is read, the files stay as they are, nothing is shown, and the exit code is 1,
  or the run is cut off for want of a path. -/
  unread : (¬ ∃ g, o.Loads files g) → final = files ∧ display.stdout = "" ∧
    (display.ending = .exit 1 ∨
      o.grammarPath = .dashes ∧ display.ending = .aborted (.noValue .grammarPath))
  /-- If anything that is asked for cannot be shown or generated, the files stay as they are. -/
  unready : (¬ ∃ g, o.Ready files g) → final = files ∧ display.ending ≠ .exit 0
  /-- Otherwise both steps are done, and nothing but them. -/
  ready : ∀ g, o.Ready files g → ∃ code, Writes o g files final code ∧ display.ending = .exit code
  /-- Only the files change that the paths for the skeleton and for the prototypes lead to. -/
  frame : ∀ l, final.content? l ≠ files.content? l →
    (∃ path content, o.skeleton = true ∧ Given.text? o.skeletonPath = some path ∧
        final.Holds (Path.normalize path) l content) ∨
      ∃ path content, Given.text? o.prototypesPath = some path ∧ final.Holds path l content
  /-- No folder comes or goes. -/
  folders : files.SameFolders final
  /-- The file for the skeleton holds the whole text after the run, unless no file can be written
  there, in which case the run ends. -/
  saved : ∀ g target path text, o.Ready files g → o.Saves g target path text →
    ((∀ l, files.destination (Path.normalize path) ≠ .ok l) ∧ final = files ∧
        display.ending = .exit 1) ∨
      ∃ l, final.Holds (Path.normalize path) l (Utf8.encode text)
  /-- A file that is where the new one is to be made stays as it is. -/
  kept : ∀ g middle path l content, o.Ready files g → SkeletonStep o g files middle true →
    Given.text? o.prototypesPath = some path → middle.Holds path l content →
      final = middle ∧ display.ending = .exit 1
  /-- If one path is given for both files, the prototypes are left out. -/
  shared : ∀ g target path text, o.Ready files g → o.Saves g target path text →
    Given.text? o.prototypesPath = some path →
      display.ending = .exit 1 ∧
        ∀ l, files.destination (Path.normalize path) = .ok l →
          final = files.put l (Utf8.encode text)
  /-- The run succeeds exactly when all that is asked for was done. The verdict on the grammar does
  not matter: to be ready, it has to be there, whatever it is. -/
  exit_zero_iff : display.ending = .exit 0 ↔ ∃ g, o.Ready files g ∧
    ∃ middle, SkeletonStep o g files middle true ∧ PrototypesStep o g middle final 0
  /-- Then the prototypes are in their file, if they are asked for. -/
  made : ∀ g path, o.Ready files g → Given.text? o.prototypesPath = some path →
    display.ending = .exit 0 → ∃ l, final.Holds path l (Utf8.encode g.prototypes)

/-- What a run does to files and how it ends, for all options and files. -/
theorem runOptions_effects (o : Options) (terminal : Bool) (files : FileTree) :
    Effects o files (runOptions o terminal files).2 (runOptions o terminal files).1 := by
  constructor
  case unread => exact runOptions_of_not_loads terminal
  case unready => exact runOptions_of_not_ready terminal
  case ready => exact fun g => exists_writes_of_ready terminal
  case frame =>
    intro l hne
    by_cases hsome : ∃ g, o.Ready files g
    · obtain ⟨g, hready⟩ := hsome
      obtain ⟨code, h, -⟩ := exists_writes_of_ready terminal hready
      rcases h.holds_of_ne hne with ⟨target, path, text, hsaves, hholds⟩ | ⟨path, hpath, hholds⟩
      · exact .inl ⟨path, _, hsaves.1, hsaves.2.2.2, hholds⟩
      · exact .inr ⟨path, _, hpath, hholds⟩
    · rw [(runOptions_of_not_ready terminal hsome).1] at hne
      exact absurd rfl hne
  case folders =>
    by_cases hsome : ∃ g, o.Ready files g
    · obtain ⟨g, hready⟩ := hsome
      obtain ⟨code, h, -⟩ := exists_writes_of_ready terminal hready
      exact h.sameFolders
    · rw [(runOptions_of_not_ready terminal hsome).1]
      exact .refl files
  case saved =>
    intro g target path text hready hsaves
    obtain ⟨code, h, hending⟩ := exists_writes_of_ready terminal hready
    refine (h.holds_of_saves hsaves).imp_left ?_
    rintro ⟨hl, hfinal, rfl⟩
    exact ⟨hl, hfinal, hending⟩
  case kept =>
    intro g middle path l content hready hfirst hpath hholds
    obtain ⟨final, code, hsecond⟩ := exists_prototypesStep o g middle
    obtain ⟨hfinal, hending⟩ := runOptions_of_ready terminal hready (.followed hfirst hsecond)
    obtain ⟨rfl, rfl⟩ := hsecond.eq_of_newDestination_ne hpath fun m hm => by
      rw [FileTree.Holds, (FileTree.of_newDestination hm).1] at hholds
      cases hholds
    exact ⟨hfinal, hending⟩
  case shared =>
    intro g target path text hready hsaves hpath
    obtain ⟨code, h, hending⟩ := exists_writes_of_ready terminal hready
    obtain ⟨rfl, hfinal⟩ := h.eq_put_of_shared hsaves hpath
    exact ⟨hending, hfinal⟩
  case exit_zero_iff =>
    simp only [← writes_zero_iff]
    exact ending_eq_exit_zero_iff o terminal files
  case made =>
    intro g path hready hpath hzero
    obtain ⟨code, h, hending⟩ := exists_writes_of_ready terminal hready
    rw [hzero] at hending
    cases hending
    obtain ⟨middle, -, hsecond⟩ := writes_zero_iff.1 h
    exact hsecond.exists_holds hpath

-- The prototypes are refused a file that the skeleton was just put into.
example :
    let files : FileTree := ⟨[(["w", "g"], Utf8.encode "S ::= a\n")], [], ["w"], []⟩
    let (display, final) := runOptions
      { grammarPath := .value "g", skeleton := true, skeletonPath := some (.value "p"),
        prototypesPath := some (.value "./p") } false files
    display.ending = .exit 1 ∧ display.stderr = "error: [Errno 17] File exists: './p'\n" ∧
      final.files.map Prod.fst = [["w", "g"], ["w", "p"]] := by
  decide +kernel

-- A grammar that is not LL(1) is no reason to fail, nor are files outside of the working folder.
example :
    let (display, final) := runOptions
      { grammarPath := .value "/d/g", report := true, prototypesPath := some (.value "../e/p") }
      false ⟨[(["d", "g"], Utf8.encode "S ::= a | a b\n")], [["e"]], ["w"], []⟩
    display.ending = .exit 0 ∧
      final.read "/e/p" = .ok (Utf8.encode "// S ::= a | a b\nvoid parse_S();\n\n") := by
  decide +kernel

end Predictive
