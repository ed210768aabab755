import StagedBuild.Proofs.SupportSurvival

/-!
# What a run changes by itself

A run whose tools change nothing still changes the disk in three ways.

* It makes the output directory with the directories that are missing above it.
  Each of them lies where a path on the way to the output directory leads
  (`get?_makeFolders`).
* It copies the support file.  A copy changes only the place that its destination
  leads to (`get?_copyFile`).
* It unlinks the copy.  An unlink takes only the entry away that the path names.

The last two are on the same path, and the copy does not move what that names
(`spot_copyFile`).  `stage_footprint_other` and `modelCheck_footprint` are about one
stage, and `run_get?` and `run_footprint` about the run, however it ends.
-/

namespace StagedBuild

namespace Disk

/-- Two disks that hold the same, seen from the same working directory. -/
structure SameAs (disk' disk : Disk) : Prop where
  /-- The same lies at every location. -/
  get?_eq : ∀ loc, disk'.get? loc = disk.get? loc
  /-- The working directory is the same. -/
  home_eq : disk'.home = disk.home

/-- What a path stands for when a file is put there: the entry that it names, and the
place for a file that it leads to. -/
inductive Target (disk : Disk) (p : Path) : Location → Prop where
  /-- The entry, which may be a link. -/
  | named {folder : Location} {name : Bytes}
      (spot : disk.spot p = .ok (.named folder name false)) : Target disk p (folder ++ [name])
  /-- The place behind all links. -/
  | resolved {found : Found} {loc : Location} (find : disk.find p true = .ok found)
      (ends : EndsAt loc found) : Target disk p loc

variable {disk disk' : Disk} {p : Path} {folder : Location} {name : Bytes} {slash : Bool}

theorem SameAs.refl (disk : Disk) : disk.SameAs disk := ⟨fun _ => rfl, rfl⟩

theorem SameAs.spot_eq (same : disk'.SameAs disk)
    (h : disk'.spot p = .ok (.named folder name slash)) :
    disk.spot p = .ok (.named folder name slash) := by
  have start : disk'.startOf p = disk.startOf p := by rw [startOf, startOf, same.home_eq]
  obtain ⟨valid, ne_here, ne_up, dirs, hdirs, hfolder, hslash⟩ := spot_eq_named_iff.mp h
  rw [folderAt_congr same.get?_eq, start] at hfolder
  exact spot_eq_named_iff.mpr ⟨valid, ne_here, ne_up, dirs, hdirs, hfolder, hslash⟩

/-! ## Directories that are made -/

/-- A path leads to the directory that was made at its name. -/
theorem stat_of_made (hspot : disk.spot p = .ok (.named folder name slash))
    (short : name.length ≤ nameLimit) (vacant : disk.get? (folder ++ [name]) = none) :
    (disk.insert (folder ++ [name]) .folder).stat p = .ok (folder ++ [name], .folder) := by
  have after := spot_insert .folder (.inl vacant) hspot
  obtain ⟨valid, ne_here, ne_up, _⟩ := spot_eq_named_iff.mp after
  obtain ⟨left, on⟩ := walk_of_spot after
  have get : (disk.insert (folder ++ [name]) .folder).get? (folder ++ [name]) = some .folder := by
    rw [get?_insert _ _ _ (by simp), if_pos rfl]
  have leads : (disk.insert (folder ++ [name]) .folder).Leads true left folder
      (name :: if slash then [Path.here] else []) (.entry (folder ++ [name]) .folder) := by
    refine .folder ⟨ne_here, ne_up, short⟩ get ?_
    cases slash with
    | false => exact .done left _
    | true => exact .here (.done left _)
  exact stat_eq_ok.mpr (find_eq_ok_iff.mpr ⟨valid, walk_eq_ok_iff.mp ((on true).trans leads.walk)⟩)

/-- A directory that was made on the way to another. -/
def MadeOnTheWay (disk : Disk) (p : Path) (loc : Location) : Prop :=
  ∃ above ∈ p.ancestors, disk.stat above = .ok (loc, .folder)

/-- What making a directory with all above it changes: a place that was vacant holds a
directory that is on the way. -/
theorem get?_makeFolders (p : Path) (disk : Disk) (loc : Location) :
    (makeFolders p disk).2.get? loc = disk.get? loc ∨
      disk.get? loc = none ∧ (makeFolders p disk).2.get? loc = some .folder ∧
        (makeFolders p disk).2.MadeOnTheWay p loc := by
  let keeps := fun after : Disk => ∀ loc, after.get? loc = disk.get? loc ∨
    disk.get? loc = none ∧ after.get? loc = some .folder ∧ after.MadeOnTheWay p loc
  suffices kept : Keeping keeps (makeFolders p) from kept disk (fun _ => .inl rfl) loc
  refine keeping_makeFirst fun above mem after held => ?_
  rcases makeFolder_cases above after with
    ⟨e, failed⟩ | ⟨folder, name, slash, hspot, short, vacant, made⟩
  · rw [failed]
    exact held
  rw [made]
  intro loc
  dsimp only
  rw [get?_insert _ _ _ (by simp)]
  by_cases new : loc = folder ++ [name]
  · subst new
    rw [if_pos rfl]
    refine .inr ⟨?_, rfl, above, mem, stat_of_made hspot short vacant⟩
    rcases held (folder ++ [name]) with same | ⟨none, _⟩
    · rw [← same, vacant]
    · exact none
  · rw [if_neg new]
    rcases held loc with same | ⟨none, folder, before, mem', found⟩
    · exact .inl same
    · -- The directory is still found, for the new one is not on its walk.
      have still := find_insert_other .folder (.inl vacant) (stat_eq_ok.mp found) nofun
      exact .inr ⟨none, folder, before, mem', stat_eq_ok.mpr still⟩

/-! ## Copying and unlinking -/

/-- A copy changes only the place that its destination leads to. -/
theorem get?_copyFile {source destination : Path}
    (copied : copyFile source destination disk = (.ok (), disk')) (loc : Location) :
    disk'.get? loc = disk.get? loc ∨ disk.Target destination loc := by
  obtain ⟨_, _, _, _, _, target, _, _, ⟨found, old, hfind, ends, rfl⟩ | ⟨kind, _, rfl⟩⟩ :=
    copied_cases copied
  · by_cases same : loc = target
    · subst same
      exact .inr (.resolved hfind ends)
    · have place := filePlace_of_endsAt hfind ends
      rw [get?_insert _ _ _ place.ne_root, get?_insert _ _ _ place.ne_root, if_neg same,
        if_neg same]
      exact .inl rfl
  · exact .inl rfl

/-- An unlink changes only the entry that the path names. -/
theorem get?_unlink (p : Path) (disk : Disk) (loc : Location) :
    (unlink p disk).2.get? loc = disk.get? loc ∨
      ∃ folder name, disk.spot p = .ok (.named folder name false) ∧ loc = folder ++ [name] := by
  rcases unlink_cases p disk with ⟨e, failed⟩ | ⟨folder, name, node, hspot, _, _, _, removed⟩
  · rw [failed]
    exact .inl rfl
  · rw [removed, get?_erase _ _ (by simp)]
    by_cases same : loc = folder ++ [name]
    · exact .inr ⟨folder, name, hspot, same⟩
    · rw [if_neg same]
      exact .inl rfl

end Disk

namespace Pipeline

variable {σ ε : Type}

/-- No tool that a run calls changes anything. -/
def ChangesNothing (pipeline : Pipeline σ ε) (request : Request) (tools₀ : σ) (disk₀ : Disk) :
    Prop :=
  ∀ {stage} (here : Reached pipeline request tools₀ disk₀ stage) {main? : Option String}
    {disk₁ disk₂ : Disk} {reply : Reply} {tools₂ : σ},
    pipeline.prepare request stage here.disk = (.ok main?, disk₁) →
    pipeline.tools.answer (pipeline.toolchain.callOf request stage main?) here.tools disk₁ =
      (reply, tools₂, disk₂) →
    disk₂.SameAs disk₁

/-- A run copies the support file, and the copy is put at a location. -/
def Copies (pipeline : Pipeline σ ε) (request : Request) (tools₀ : σ) (disk₀ : Disk)
    (loc : Location) : Prop :=
  ∃ (here : Reached pipeline request tools₀ disk₀ .modelCheck) (disk₁ : Disk),
    Disk.copyFile pipeline.toolchain.supportFile (Artifacts.ofRequest request).support here.disk =
      (.ok (), disk₁) ∧
    here.disk.Target (Artifacts.ofRequest request).support loc

variable {pipeline : Pipeline σ ε} {request : Request} {tools₀ : σ} {disk₀ : Disk}

/-! ## One stage -/

/-- Only the model check changes anything by itself. -/
theorem stage_footprint_other (quiet : pipeline.ChangesNothing request tools₀ disk₀)
    {stage : Stage} (other : stage ≠ .modelCheck)
    (here : Reached pipeline request tools₀ disk₀ stage) (loc : Location) :
    ((pipeline.stage request stage).run here.tools here.disk).disk.get? loc =
      here.disk.get? loc := by
  have unchanged := prepare_disk pipeline request other here.disk
  rcases stage_cases pipeline request stage here.tools here.disk with
    ⟨error, disk₁, unready, ran⟩ |
      ⟨main?, disk₁, reply, tools₂, disk₂, result, ready, answered, _, ran⟩
  · rw [ran, ← unchanged, unready]
  · have same := quiet here ready answered
    rw [ran, cleanUp_other request other, same.get?_eq, ← unchanged, ready]

/-- The model check changes only what its copy is put at. -/
theorem modelCheck_footprint (quiet : pipeline.ChangesNothing request tools₀ disk₀)
    (here : Reached pipeline request tools₀ disk₀ .modelCheck) (loc : Location) :
    ((pipeline.stage request .modelCheck).run here.tools here.disk).disk.get? loc =
        here.disk.get? loc ∨
      Copies pipeline request tools₀ disk₀ loc := by
  cases copy : Disk.copyFile pipeline.toolchain.supportFile (Artifacts.ofRequest request).support
    here.disk with
  | mk result disk₁ =>
    cases result with
    | error cause =>
      rw [modelCheck_disk_uncopied here.tools copy]
      exact .inl rfl
    | ok u =>
      cases answered : pipeline.tools.answer
        (pipeline.toolchain.modelCheckCall (Artifacts.ofRequest request)) here.tools disk₁ with
      | mk reply rest =>
        obtain ⟨tools₂, disk₂⟩ := rest
        have same := quiet here (prepare_modelCheck.mpr ⟨rfl, copy⟩) answered
        rw [modelCheck_disk copy answered]
        rcases Disk.get?_unlink (Artifacts.ofRequest request).support disk₂ loc with
          kept | ⟨folder, name, hspot, rfl⟩
        · rw [kept, same.get?_eq]
          rcases Disk.get?_copyFile copy loc with left | target
          · exact .inl left
          · exact .inr ⟨here, disk₁, copy, target⟩
        · -- The path names the entry that it named before the copy.
          obtain ⟨folder', name', before, after⟩ := Disk.spot_copyFile copy
          rw [same.spot_eq hspot] at after
          cases after
          exact .inr ⟨here, disk₁, copy, .named before⟩

/-! ## The run -/

/-- A run keeps all that making the output directory left, up to what its copy is put
at. -/
theorem run_get? (quiet : pipeline.ChangesNothing request tools₀ disk₀) (loc : Location) :
    ((pipeline.run request).run tools₀ disk₀).disk.get? loc =
        (Disk.makeFolders request.output disk₀).2.get? loc ∨
      Copies pipeline request tools₀ disk₀ loc := by
  refine run_keeps (fun disk => disk.get? loc =
    (Disk.makeFolders request.output disk₀).2.get? loc ∨ Copies pipeline request tools₀ disk₀ loc)
    (.inl rfl) ?_
  intro stage here held
  rcases held with same | put
  · by_cases checks : stage = .modelCheck
    · subst checks
      rcases modelCheck_footprint quiet here loc with kept | put
      · exact .inl (kept.trans same)
      · exact .inr put
    · exact .inl ((stage_footprint_other quiet checks here loc).trans same)
  · exact .inr put

/-- What a run changes whose tools change nothing, however it ends.  What was there is
still there, but for the entry of the support file and the place that it led to when
the copy was made.  What is new is a directory on the way to the output directory, or
one of these two.  A run without a model check, or one that does not come to it, makes
directories and nothing else. -/
theorem run_footprint (quiet : pipeline.ChangesNothing request tools₀ disk₀) :
    let made := (Disk.makeFolders request.output disk₀).2
    let after := ((pipeline.run request).run tools₀ disk₀).disk
    (∀ loc node, disk₀.get? loc = some node →
      after.get? loc = some node ∨ Copies pipeline request tools₀ disk₀ loc) ∧
    (∀ loc node, disk₀.get? loc = none → after.get? loc = some node →
      (node = .folder ∧ made.MadeOnTheWay request.output loc) ∨
        Copies pipeline request tools₀ disk₀ loc) ∧
    (request.choice.modelCheck = false ∨
        IsEmpty (Reached pipeline request tools₀ disk₀ .modelCheck) →
      ∀ loc, after.get? loc = disk₀.get? loc ∨
        (disk₀.get? loc = none ∧ after.get? loc = some .folder ∧
          made.MadeOnTheWay request.output loc)) := by
  intro made after
  refine ⟨?_, ?_, ?_⟩
  · intro loc node held
    rcases run_get? quiet loc with same | put
    · rcases Disk.get?_makeFolders request.output disk₀ loc with kept | ⟨vacant, _⟩
      · exact .inl ((same.trans kept).trans held)
      · rw [held] at vacant
        cases vacant
    · exact .inr put
  · intro loc node vacant new
    rcases run_get? quiet loc with same | put
    · rcases Disk.get?_makeFolders request.output disk₀ loc with kept | ⟨_, folder, onWay⟩
      · rw [(same.trans kept).trans vacant] at new
        cases new
      · rw [same.trans folder] at new
        cases new
        exact .inl ⟨rfl, onWay⟩
    · exact .inr put
  · intro unchecked loc
    rcases run_get? quiet loc with same | ⟨here, _⟩
    · rcases Disk.get?_makeFolders request.output disk₀ loc with kept | ⟨vacant, folder, onWay⟩
      · exact .inl (same.trans kept)
      · exact .inr ⟨vacant, same.trans folder, onWay⟩
    · rcases unchecked with unchosen | unreached
      · have planned : Stage.modelCheck ∈ request.choice.planned := by
          rw [← Request.planned, here.planned]
          exact List.mem_append_right _ (.head _)
        have chosen := StageChoice.mem_planned.mp planned
        rw [StageChoice.contains, unchosen] at chosen
        cases chosen
      · exact unreached.elim here

end Pipeline

/-! ## A copy through a link -/

namespace LinkedCopy

/-- A request for a model check. -/
def request : Request := ⟨Bytes.ofString "m.p", Bytes.ofString "out", "m", ⟨true, false, false⟩⟩

/-- A pipeline with tools that do nothing and end well. -/
def pipeline : Pipeline Unit Event where
  toolchain := Toolchain.ofRoot (Bytes.ofString "t")
  tools := ⟨fun _ tools disk => (.ended (ToolOutput.ofBytes true []), tools, disk)⟩
  observer := Observer.full

/-- The file that the link leads to. -/
def linked : Location := [Bytes.ofString "kept"]

/-- The link in the place of the copy. -/
def link : Location := [Bytes.ofString "out", Artifacts.supportName]

/-- A disk with the support file of the toolchain, and a link where it is copied to. -/
def disk : Disk :=
  Effect.applyAll ⟨[], []⟩
    [.write (Bytes.ofString "t/Runtime/SMRuntime.zing") (Bytes.ofString "new") false,
      .write (Bytes.ofString "kept") (Bytes.ofString "old") false,
      .link (Bytes.ofString "out/SMRuntime.zing") (Bytes.ofString "../kept")]

theorem changesNothing : pipeline.ChangesNothing request () disk := by
  intro stage here main? disk₁ disk₂ reply tools₂ _ answered
  cases answered
  exact Disk.SameAs.refl disk₁

/-- The file behind the link is replaced and the link is gone, so the run made its copy
there, and all else is as it was. -/
theorem linked_footprint :
    let after := ((pipeline.run request).run () disk).disk
    disk.get? linked = some (.file (Bytes.ofString "old") false) ∧
      after.get? linked = some (.file (Bytes.ofString "new") false) ∧ after.get? link = none ∧
      Pipeline.Copies pipeline request () disk linked ∧
      Pipeline.Copies pipeline request () disk link := by
  intro after
  have old : disk.get? linked = some (.file (Bytes.ofString "old") false) := by decide +kernel
  have entry : disk.get? link = some (.link (Bytes.ofString "../kept")) := by decide +kernel
  have new : after.get? linked = some (.file (Bytes.ofString "new") false) := by decide +kernel
  have gone : after.get? link = none := by decide +kernel
  obtain ⟨kept, _, _⟩ := Pipeline.run_footprint changesNothing
  refine ⟨old, new, gone, ?_, ?_⟩
  · refine (kept linked _ old).resolve_left fun same => ?_
    exact absurd (same.symm.trans new) (by decide)
  · refine (kept link _ entry).resolve_left fun same => ?_
    exact absurd (same.symm.trans gone) nofun

end LinkedCopy

end StagedBuild
