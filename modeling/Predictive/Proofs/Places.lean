import Predictive.FileTree
import Predictive.Proofs.Cuts
import Predictive.Proofs.Outcomes

/-!
# Where paths lead

What is at the place that a path leads to, and what a path leads to after a file was written. Main
statements: a written file is found where its path leads (`holds_put`), a file is made only where
nothing is (`isVacant_of_newDestination`), the folders stay what they are (`sameFolders_put`), and no
file can be made by a path that another file was just written by, although the one path is used with
its idle steps and the other without them (`newDestination_put_ne_ok`).

Which way a step goes does not depend on the files (`step_cases`), so all that changes with a file
that is written is what is found at its location. Every step starts from a folder, so a file is made
in a folder only and makes no folder of a location that was none.
-/

namespace Predictive

open Text

/-- The location of the file at a place, or of the file that may be made there. -/
def Place.location? : Place → Option Location
  | .folder _ => none
  | .file l _ => some l
  | .vacant l => some l

namespace FileTree

/-- A path leads to a file with this content. -/
def Holds (t : FileTree) (path : String) (l : Location) (content : Bytes) : Prop :=
  t.locate path = .ok (.file l content)

variable {t t' : FileTree} {here there k l m : Location} {name : String} {steps : List String}
  {place : Place} {path : String} {content : Bytes}

/-! ## Files that are written -/

/-- A file is written at its destination. -/
theorem write_eq_ok_iff :
    t.write path content = .ok t' ↔ ∃ l, t.destination path = .ok l ∧ t' = t.put l content := by
  rw [write]
  cases t.destination path <;> simp [eq_comm]

/-- A file is made at its destination. -/
theorem create_eq_ok_iff :
    t.create path content = .ok t' ↔
      ∃ l, t.newDestination path = .ok l ∧ t' = t.put l content := by
  rw [create]
  cases t.newDestination path <;> simp [eq_comm]

/-- A file is written at the location of its place. -/
theorem location?_of_target (h : t.target place = .ok l) : place.location? = some l := by
  cases place with
  | folder => cases h
  | file | vacant =>
    simp only [target] at h
    split at h <;> cases h
    rfl

/-- The destination of a path is at the place that it leads to. -/
theorem exists_locate_of_destination (h : t.destination path = .ok l) :
    ∃ place, t.locate path = .ok place ∧ place.location? = some l := by
  obtain ⟨place, hlocate, htarget⟩ := bind_eq_ok_iff.1 h
  exact ⟨place, hlocate, location?_of_target htarget⟩

/-- Where a new file may be made, a path leads also if any file will do. -/
theorem locate_of_locateNew (h : t.locateNew path = .ok (.vacant l)) :
    t.locate path = .ok (.vacant l) := by
  rw [locateNew] at h
  split at h
  · cases h
  · obtain ⟨_, -, h⟩ := bind_eq_ok_iff.1 h
    cases h
  next hfault _ => rw [locate, hfault]; exact h

/-- A new file is made where nothing is, and where the path leads also if any file will do. -/
theorem of_newDestination (h : t.newDestination path = .ok l) :
    t.locate path = .ok (.vacant l) ∧ t.destination path = .ok l := by
  obtain ⟨place, hnew, htarget⟩ := bind_eq_ok_iff.1 h
  cases place with
  | folder | file => cases htarget
  | vacant m =>
    obtain rfl : m = l := Option.some.inj (location?_of_target htarget)
    have hlocate := locate_of_locateNew hnew
    refine ⟨hlocate, ?_⟩
    rw [destination, hlocate]
    exact htarget

/-- A location is a folder if it leads to the working folder, to a folder of the tree or to a
file. -/
theorem hasFolder_iff :
    t.hasFolder l = true ↔ (∃ k ∈ t.workingFolder :: t.folders, l <+: k) ∨
      ∃ k ∈ t.files.map Prod.fst, l <+: k ∧ l ≠ k := by
  simp [hasFolder]

/-- What is above a folder is a folder. -/
theorem hasFolder_of_isPrefix (hm : m <+: l) (hl : t.hasFolder l = true) :
    t.hasFolder m = true := by
  rcases hasFolder_iff.1 hl with ⟨k, hk, hlk⟩ | ⟨k, hk, hlk, hne⟩
  · exact hasFolder_iff.2 (.inl ⟨k, hk, hm.trans hlk⟩)
  · refine hasFolder_iff.2 (.inr ⟨k, hk, hm.trans hlk, ?_⟩)
    rintro rfl
    exact hne (hlk.eq_of_length_le hm.length_le)

/-- A path starts from a folder. -/
theorem hasFolder_origin (t : FileTree) (path : String) :
    t.hasFolder (t.origin path) = true := by
  rw [origin]
  split
  · exact hasFolder_iff.2 (.inl ⟨_, List.mem_cons_self, List.nil_prefix⟩)
  · exact hasFolder_iff.2 (.inl ⟨_, List.mem_cons_self, List.prefix_refl _⟩)

/-! ## Places -/

/-- Nothing is at a location, but the folder for it is there. -/
structure IsVacant (t : FileTree) (l : Location) : Prop where
  content?_eq : t.content? l = none
  hasFolder_eq : t.hasFolder l = false
  hasFolder_dropLast : t.hasFolder l.dropLast = true

/-- A place is as it is in a tree. -/
def IsPlace (t : FileTree) : Place → Prop
  | .folder l => t.hasFolder l = true
  | .file l content => t.content? l = some content
  | .vacant l => t.IsVacant l

/-- What is at a location is there if its folder is. -/
theorem isPlace_placeAt (h : t.hasFolder l.dropLast = true) : t.IsPlace (t.placeAt l) := by
  rw [placeAt]
  cases hcontent : t.content? l with
  | some content => exact hcontent
  | none =>
    cases hfolder : t.hasFolder l with
    | true => exact hfolder
    | false => exact ⟨hcontent, hfolder, h⟩

/-- A step leads to the folder that it starts from, to the one above it, or to what is at a location
in it. Which of them it is depends on the permissions only. -/
theorem step_cases (h : t.step here name = .ok place) :
    (∃ there, there <+: here ∧ place = .folder there ∧
      ∀ t' : FileTree, t'.denied = t.denied → t'.step here name = .ok (.folder there)) ∨
    place = t.placeAt (here ++ [name]) ∧
      ∀ t' : FileTree, t'.denied = t.denied →
        t'.step here name = .ok (t'.placeAt (here ++ [name])) := by
  have hdenies : ∀ t' : FileTree, t'.denied = t.denied →
      t'.denies .search here = t.denies .search here := by
    intro t' ht
    rw [denies, denies, ht]
  revert h
  fun_cases step t here name with
  | case1 hempty =>
    rintro ⟨⟩
    refine .inl ⟨here, List.prefix_refl here, rfl, fun t' _ => ?_⟩
    rw [step, if_pos hempty]
  | case2 | case5 => nofun
  | case3 hempty hdenied hdot =>
    rintro ⟨⟩
    refine .inl ⟨here, List.prefix_refl here, rfl, fun t' ht => ?_⟩
    rw [step, hdenies t' ht, if_neg hempty, if_neg hdenied, if_pos hdot]
  | case4 hempty hdenied hdot hup =>
    rintro ⟨⟩
    refine .inl ⟨here.dropLast, List.dropLast_prefix here, rfl, fun t' ht => ?_⟩
    rw [step, hdenies t' ht, if_neg hempty, if_neg hdenied, if_neg hdot, if_pos hup]
  | case6 hempty hdenied hdot hup hsize =>
    rintro ⟨⟩
    refine .inr ⟨rfl, fun t' ht => ?_⟩
    rw [step, hdenies t' ht, if_neg hempty, if_neg hdenied, if_neg hdot, if_neg hup, if_neg hsize]

/-- A step from a folder leads to a place as it is. -/
theorem isPlace_of_step (hhere : t.hasFolder here = true) (h : t.step here name = .ok place) :
    t.IsPlace place := by
  rcases step_cases h with ⟨there, hthere, rfl, -⟩ | ⟨rfl, -⟩
  · exact hasFolder_of_isPrefix hthere hhere
  · exact isPlace_placeAt (by rwa [List.dropLast_concat])

/-- Steps that lead somewhere start with one that leads to a folder, from where the others go on, or
are a single one. -/
theorem walk_cons_cases (h : t.walk here (name :: steps) = .ok place) :
    (∃ there, t.step here name = .ok (.folder there) ∧ t.walk there steps = .ok place) ∨
      steps = [] ∧ t.step here name = .ok place ∧ ∃ l, place.location? = some l := by
  rw [walk] at h
  split at h
  · cases h
  next there hstep => exact .inl ⟨there, hstep, h⟩
  next l content hstep =>
    split at h
    next hsteps =>
      cases h
      exact .inr ⟨hsteps, hstep, l, rfl⟩
    next => cases h
  next l hstep =>
    split at h
    next hsteps =>
      cases h
      exact .inr ⟨hsteps, hstep, l, rfl⟩
    next => cases h

/-- Steps from a folder lead to places as they are. -/
theorem isPlace_of_walk (hhere : t.hasFolder here = true) (h : t.walk here steps = .ok place) :
    t.IsPlace place := by
  induction steps generalizing here with
  | nil =>
    cases h
    exact hhere
  | cons name steps ih =>
    rcases walk_cons_cases h with ⟨there, hstep, hwalk⟩ | ⟨-, hstep, -⟩
    · exact ih (isPlace_of_step hhere hstep) hwalk
    · exact isPlace_of_step hhere hstep

/-- A path leads to places as they are. -/
theorem isPlace_of_locate (h : t.locate path = .ok place) : t.IsPlace place := by
  rw [locate] at h
  split at h
  · cases h
  · exact isPlace_of_walk (t.hasFolder_origin path) h

/-- A new file is made only where nothing is, and in a folder. -/
theorem isVacant_of_newDestination (h : t.newDestination path = .ok l) : t.IsVacant l :=
  isPlace_of_locate (of_newDestination h).1

/-- The destination of a path is vacant if no file is there. -/
theorem isVacant_of_destination (h : t.destination path = .ok l) (hl : t.content? l = none) :
    t.IsVacant l := by
  obtain ⟨place, hlocate, hplace⟩ := exists_locate_of_destination h
  have hthere := isPlace_of_locate hlocate
  cases place with
  | folder => cases hplace
  | file m content =>
    cases hplace
    rw [IsPlace, hl] at hthere
    cases hthere
  | vacant m =>
    cases hplace
    exact hthere

/-! ## After a file was written -/

/-- Writing a file changes no other. -/
theorem eq_of_content?_put_ne (h : (t.put m content).content? l ≠ t.content? l) : l = m := by
  by_contra hne
  exact h (content?_put_of_ne t hne content)

/-- The files are those of before and the one that was written. -/
theorem mem_locations_put_iff :
    m ∈ (t.put l content).files.map Prod.fst ↔ m ∈ t.files.map Prod.fst ∨ m = l := by
  by_cases hl : l ∈ t.files.map Prod.fst
  · rw [put, Table.keys_put_of_mem hl, or_iff_left_of_imp]
    exact fun hm => hm ▸ hl
  · rw [put, Table.keys_put_of_not_mem hl, List.mem_append, List.mem_singleton]

/-- Folders stay when a file is written. -/
theorem hasFolder_put (h : t.hasFolder m = true) (l : Location) (content : Bytes) :
    (t.put l content).hasFolder m = true := by
  refine hasFolder_iff.2 ((hasFolder_iff.1 h).imp id ?_)
  rintro ⟨k, hk, hm⟩
  exact ⟨k, mem_locations_put_iff.2 (.inl hk), hm⟩

/-- What is above a location, but not the location itself, is its folder or above that. -/
theorem isPrefix_dropLast (h : m <+: l) (hne : m ≠ l) : m <+: l.dropLast := by
  rcases List.eq_nil_or_concat l with rfl | ⟨k, name, rfl⟩
  · exact absurd (List.prefix_nil.1 h) hne
  · rw [List.concat_eq_append] at h hne ⊢
    rw [List.dropLast_concat]
    exact (List.prefix_concat_iff.1 h).resolve_left hne

/-- A file makes no folder if its own folder is there when it is new. -/
theorem hasFolder_put_eq (h : t.content? l = none → t.IsVacant l) (content : Bytes)
    (m : Location) : (t.put l content).hasFolder m = t.hasFolder m := by
  refine Bool.eq_iff_iff.2 ⟨fun hm => ?_, fun hm => hasFolder_put hm l content⟩
  rcases hasFolder_iff.1 hm with hfolder | ⟨k, hk, hmk, hne⟩
  · exact hasFolder_iff.2 (.inl hfolder)
  rcases mem_locations_put_iff.1 hk with hk | rfl
  · exact hasFolder_iff.2 (.inr ⟨k, hk, hmk, hne⟩)
  cases hcontent : t.content? k with
  | some old => exact hasFolder_iff.2 (.inr ⟨k, Table.mem_keys_of_get?_eq_some hcontent, hmk, hne⟩)
  | none => exact hasFolder_of_isPrefix (isPrefix_dropLast hmk hne) (h hcontent).hasFolder_dropLast

/-- The later tree has the folders, the working folder and the permissions of the earlier one. -/
structure SameFolders (earlier later : FileTree) : Prop where
  hasFolder_eq : ∀ l, later.hasFolder l = earlier.hasFolder l
  workingFolder_eq : later.workingFolder = earlier.workingFolder
  denied_eq : later.denied = earlier.denied

theorem SameFolders.refl (t : FileTree) : SameFolders t t := ⟨fun _ => rfl, rfl, rfl⟩

theorem SameFolders.trans {t'' : FileTree} (h : SameFolders t t') (h' : SameFolders t' t'') :
    SameFolders t t'' :=
  ⟨fun l => (h'.hasFolder_eq l).trans (h.hasFolder_eq l),
    h'.workingFolder_eq.trans h.workingFolder_eq, h'.denied_eq.trans h.denied_eq⟩

/-- A place is at its own location. -/
theorem location?_placeAt (h : (t.placeAt l).location? = some k) : k = l := by
  rw [placeAt] at h
  split at h
  · exact (Option.some.inj h).symm
  · split at h
    · cases h
    · exact (Option.some.inj h).symm

/-- A folder is at its own location, and no file is. -/
theorem placeAt_eq_folder_iff :
    t.placeAt l = .folder k ↔ k = l ∧ t.content? l = none ∧ t.hasFolder l = true := by
  rw [placeAt]
  cases t.content? l with
  | some content => simp
  | none => cases t.hasFolder l <;> simp [eq_comm]

/-- A step to a folder leads there after a file was written that is no folder. -/
theorem step_put_of_folder (hm : t.content? m = none → t.hasFolder m = false)
    (h : t.step here name = .ok (.folder there)) (content : Bytes) :
    (t.put m content).step here name = .ok (.folder there) := by
  rcases step_cases h with ⟨_, -, ⟨⟩, hstep⟩ | ⟨hplace, hstep⟩
  · exact hstep _ rfl
  · obtain ⟨rfl, hcontent, hfolder⟩ := placeAt_eq_folder_iff.1 hplace.symm
    have hne : here ++ [name] ≠ m := by
      rintro rfl
      rw [hm hcontent] at hfolder
      cases hfolder
    rw [hstep (t.put m content) rfl, placeAt_eq_folder_iff.2]
    exact ⟨rfl, (content?_put_of_ne t hne content).trans hcontent, hasFolder_put hfolder m content⟩

/-- A step to a file, or to a place for one, leads there if a file is there after another was
written. -/
theorem step_put_of_location (h : t.step here name = .ok place) (hplace : place.location? = some l)
    {old : Bytes} (hl : (t.put m content).content? l = some old) :
    (t.put m content).step here name = .ok (.file l old) := by
  rcases step_cases h with ⟨_, -, rfl, -⟩ | ⟨rfl, hstep⟩
  · cases hplace
  · obtain rfl := location?_placeAt hplace
    rw [hstep (t.put m content) rfl, placeAt, hl]

/-- Steps lead to the same place after a file was written that is no folder, if a file is there by
then. -/
theorem walk_put {old : Bytes} (h : t.walk here steps = .ok place)
    (hplace : place.location? = some l) (hm : t.content? m = none → t.hasFolder m = false)
    (hl : (t.put m content).content? l = some old) :
    (t.put m content).walk here steps = .ok (.file l old) := by
  induction steps generalizing here with
  | nil =>
    cases h
    cases hplace
  | cons name steps ih =>
    rcases walk_cons_cases h with ⟨there, hstep, hwalk⟩ | ⟨rfl, hstep, -⟩
    · rw [walk, step_put_of_folder hm hstep]
      exact ih hwalk
    · rw [walk, step_put_of_location hstep hplace hl]
      rfl

/-- A path leads to the same place after a file was written that is no folder, if a file is there by
then. -/
theorem holds_put_of_locate {old : Bytes} (h : t.locate path = .ok place)
    (hplace : place.location? = some l) (hm : t.content? m = none → t.hasFolder m = false)
    (hl : (t.put m content).content? l = some old) : (t.put m content).Holds path l old := by
  rw [Holds, locate]
  rw [locate] at h
  split at h
  · cases h
  · exact walk_put h hplace hm hl

/-- A path leads to the file that was written by it. -/
theorem holds_put (h : t.destination path = .ok l) (content : Bytes) :
    (t.put l content).Holds path l content := by
  obtain ⟨place, hlocate, hplace⟩ := exists_locate_of_destination h
  refine holds_put_of_locate hlocate hplace ?_ (content?_put_self t l content)
  exact fun hl => (isVacant_of_destination h hl).hasFolder_eq

/-- A path still leads to its file after another was made. -/
theorem Holds.put (h : t.Holds path l content) (hm : t.IsVacant m) (made : Bytes) :
    (t.put m made).Holds path l content := by
  have hl : t.content? l = some content := isPlace_of_locate h
  have hne : l ≠ m := by
    rintro rfl
    have hnone := hm.content?_eq
    rw [hl] at hnone
    cases hnone
  refine holds_put_of_locate h rfl (fun _ => hm.hasFolder_eq) ?_
  rw [content?_put_of_ne t hne, hl]

/-- The folders stay what they are when a file is written by a path. -/
theorem sameFolders_put (h : t.destination path = .ok l) (content : Bytes) :
    SameFolders t (t.put l content) :=
  ⟨hasFolder_put_eq (isVacant_of_destination h) content, rfl, rfl⟩

/-! ## Idle steps -/

/-- An idle step leads nowhere else, if it can be taken. -/
theorem step_of_isIdle (h : Path.isIdle name = true) :
    t.step here name = .ok (.folder here) ∨ t.step here name = .error .denied := by
  have hname : name = "" ∨ name = "." := by simpa [Path.isIdle] using h
  rcases hname with rfl | rfl
  · exact .inl rfl
  · rw [step, if_neg (by decide)]
    split
    · exact .inr rfl
    · exact .inl (if_pos rfl)

/-- Idle steps can be left out if they lead somewhere. -/
theorem walk_of_walk_append {lead : List String} (hlead : ∀ name ∈ lead, Path.isIdle name = true)
    (h : t.walk here (lead ++ steps) = .ok place) : t.walk here steps = .ok place := by
  induction lead with
  | nil => exact h
  | cons name lead ih =>
    obtain ⟨hname, hlead⟩ := List.forall_mem_cons.1 hlead
    refine ih hlead ?_
    rcases step_of_isIdle hname with hstep | hstep <;> rw [List.cons_append, walk, hstep] at h
    · exact h
    · cases h

/-- Steps do not lead to a vacant place after a file was written where they lead without the idle
ones among them. -/
theorem walk_put_ne_vacant (h : t.walk here (steps.filter (!Path.isIdle ·)) = .ok place)
    (hplace : place.location? = some l) (hl : t.content? l = none → t.hasFolder l = false)
    (content : Bytes) (m : Location) : (t.put l content).walk here steps ≠ .ok (.vacant m) := by
  induction steps generalizing here with
  | nil => nofun
  | cons name steps ih =>
    rw [walk]
    by_cases hidle : Path.isIdle name = true
    · rw [List.filter_cons_of_neg (by simp [hidle])] at h
      rcases step_of_isIdle hidle with hstep | hstep <;> rw [hstep]
      · exact ih h
      · nofun
    · rw [List.filter_cons_of_pos (by simp [hidle])] at h
      rcases walk_cons_cases h with ⟨there, hstep, hwalk⟩ | ⟨-, hstep, -⟩
      · rw [step_put_of_folder hl hstep]
        exact ih hwalk
      · -- The file that was written is met here, and no step leads on from it.
        rw [step_put_of_location hstep hplace (content?_put_self t l content)]
        dsimp only
        split <;> nofun

end FileTree

/-! ## Paths without idle steps -/

namespace Path

/-- The steps of a path that lead somewhere. -/
def properSteps (path : String) : List String := (steps path).filter (!isIdle ·)

variable {path step : String}

/-- No step holds a slash. -/
theorem not_mem_slash_of_mem_steps (h : step ∈ steps path) : '/' ∉ step.toList := by
  rw [steps, split, List.mem_map] at h
  obtain ⟨piece, hpiece, rfl⟩ := h
  rw [String.toList_ofList]
  exact not_mem_of_mem_pieces hpiece

/-- A step that leads somewhere starts with something other than a slash. -/
theorem exists_toList_eq_cons_of_mem_properSteps (h : step ∈ properSteps path) :
    ∃ c cs, step.toList = c :: cs ∧ c ≠ '/' := by
  obtain ⟨hstep, hproper⟩ := List.mem_filter.1 h
  have hne : step.toList ≠ [] := by
    rw [Ne, String.toList_eq_nil_iff]
    rintro rfl
    revert hproper
    decide
  obtain ⟨c, cs, hcs⟩ := List.exists_cons_of_ne_nil hne
  refine ⟨c, cs, hcs, ?_⟩
  rintro rfl
  exact not_mem_slash_of_mem_steps hstep (by rw [hcs]; exact List.mem_cons_self)

/-- A path starts with slashes only if it starts at the root. -/
theorem root_cases (path : String) :
    (isAbsolute path = false ∧ root path = "") ∨
      isAbsolute path = true ∧ (root path = "/" ∨ root path = "//") := by
  rw [isAbsolute, root]
  cases path.toList with
  | nil => exact .inl ⟨rfl, rfl⟩
  | cons c cs =>
    by_cases hc : c = '/'
    · right
      rw [List.takeWhile_cons_of_pos (by simpa using hc)]
      refine ⟨by simp [hc], ?_⟩
      split <;> simp_all
    · left
      rw [List.takeWhile_cons_of_neg (by simpa using hc)]
      exact ⟨by simp [hc], rfl⟩

/-- The text of a path without its idle steps, and of a path that has no other steps. -/
theorem normalize_eq (path : String) : normalize path =
    if root path ++ "/".intercalate (properSteps path) = "" then "."
    else root path ++ "/".intercalate (properSteps path) := rfl

/-- The text of proper steps starts with the first of them, and so with no slash. -/
theorem exists_head?_intercalate (h : properSteps path ≠ []) :
    ∃ c, ("/".intercalate (properSteps path)).toList.head? = some c ∧ c ≠ '/' := by
  obtain ⟨first, others, hsteps⟩ := List.exists_cons_of_ne_nil h
  obtain ⟨c, cs, hcs, hc⟩ := exists_toList_eq_cons_of_mem_properSteps
    (hsteps ▸ List.mem_cons_self : first ∈ properSteps path)
  refine ⟨c, ?_, hc⟩
  rw [hsteps]
  cases others <;> simp [String.toList_intercalate, hcs]

/-- A path with proper steps keeps them and its start. -/
theorem normalize_of_properSteps_ne_nil (h : properSteps path ≠ []) :
    normalize path = root path ++ "/".intercalate (properSteps path) := by
  obtain ⟨c, hhead, -⟩ := exists_head?_intercalate h
  rw [normalize_eq, if_neg]
  intro hempty
  rw [(String.append_eq_empty_iff.1 hempty).2] at hhead
  cases hhead

/-- A path starts at the root exactly when it does so without its idle steps. -/
theorem isAbsolute_normalize (path : String) : isAbsolute (normalize path) = isAbsolute path := by
  rcases root_cases path with ⟨hrelative, hroot⟩ | ⟨habsolute, hroot⟩
  · rw [hrelative]
    by_cases hsteps : properSteps path = []
    · rw [normalize_eq, hroot, hsteps]
      decide
    · obtain ⟨c, hhead, hc⟩ := exists_head?_intercalate hsteps
      rw [normalize_of_properSteps_ne_nil hsteps, hroot, String.empty_append, isAbsolute, hhead]
      simpa using hc
  · rw [habsolute, normalize_eq]
    rcases hroot with hroot | hroot <;> simp [hroot, isAbsolute]

/-- The slashes at the start of a path that starts at the root are idle steps before the others. -/
theorem exists_steps_root_append (path text : String) :
    ∃ lead, (∀ step ∈ lead, isIdle step = true) ∧
      steps (root path ++ text) = lead ++ steps text := by
  have hslash : ∀ before, steps (before ++ "/" ++ text) = steps before ++ steps text := fun before =>
    split_append_separator rfl before text
  rcases root_cases path with ⟨-, hroot⟩ | ⟨-, hroot | hroot⟩ <;> rw [hroot]
  · exact ⟨[], nofun, by rw [String.empty_append, List.nil_append]⟩
  · exact ⟨steps "", by decide, hslash ""⟩
  · exact ⟨steps "/", by decide, hslash "/"⟩

/-- Without its idle steps, a path has its proper steps and at most idle ones before them. -/
theorem exists_steps_normalize (path : String) :
    ∃ lead, (∀ step ∈ lead, isIdle step = true) ∧
      steps (normalize path) = lead ++ properSteps path := by
  by_cases hsteps : properSteps path = []
  · rw [normalize_eq, hsteps, String.intercalate_nil]
    split
    · exact ⟨["."], by decide, by decide⟩
    · obtain ⟨lead, hlead, h⟩ := exists_steps_root_append path ""
      refine ⟨lead ++ steps "", ?_, by rw [h, List.append_nil]⟩
      exact List.forall_mem_append.2 ⟨hlead, by decide⟩
  · have hslash : ∀ step ∈ properSteps path, '/' ∉ step.toList := fun step hstep =>
      not_mem_slash_of_mem_steps (List.mem_filter.1 hstep).1
    have hparts : steps ("/".intercalate (properSteps path)) = properSteps path :=
      split_intercalate_of_not_mem rfl hsteps hslash
    rw [normalize_of_properSteps_ne_nil hsteps]
    obtain ⟨lead, hlead, h⟩ := exists_steps_root_append path ("/".intercalate (properSteps path))
    exact ⟨lead, hlead, by rw [h, hparts]⟩

end Path

namespace FileTree

variable {t : FileTree} {l : Location} {place : Place} {path : String}

/-- Where a path leads without its idle steps, its proper steps lead. -/
theorem walk_of_locate_normalize (h : t.locate (Path.normalize path) = .ok place) :
    t.walk (t.origin path) (Path.properSteps path) = .ok place := by
  obtain ⟨lead, hlead, hsteps⟩ := Path.exists_steps_normalize path
  have horigin : t.origin (Path.normalize path) = t.origin path := by
    rw [origin, origin, Path.isAbsolute_normalize]
  rw [locate] at h
  split at h
  · cases h
  · rw [horigin, hsteps] at h
    exact walk_of_walk_append hlead h

/-- No file can be made by a path after a file was written by it, with idle steps in the path or
without. -/
theorem newDestination_put_ne_ok (h : t.destination (Path.normalize path) = .ok l)
    (content : Bytes) (m : Location) : (t.put l content).newDestination path ≠ .ok m := by
  obtain ⟨place, hlocate, hplace⟩ := exists_locate_of_destination h
  have hl := fun hl => (isVacant_of_destination h hl).hasFolder_eq
  intro hm
  have hvacant := (of_newDestination hm).1
  rw [locate] at hvacant
  split at hvacant
  · cases hvacant
  · exact walk_put_ne_vacant (walk_of_locate_normalize hlocate) hplace hl content m hvacant

end FileTree

end Predictive
