import Unbundle.Proofs.Report.Listed
/-
Whether a report holds together.

A report is put together from what a recovery has found, if there was one: the recovery may not have begun, it may have found
nothing, or it may have come to a failure on its way through the manifest. The modules that were found up to then are still
written, and that may fail as well.

`Looked` tells what the report on a file says before anything is written, case by case. Nothing but the written paths and the
failure changes afterwards, so that each part of `Consistent` is read off the cases.

Results:
- `looked_examine`: what a file's content comes to.
- `consistent_processFile`: whatever a turn came to, its report is consistent.
-/
namespace Unbundle

/-- there are six types if there are any -/
theorem Roles.length_types (roles : Roles) : roles.types.length = if roles.complete then 6 else 0 := by
  rw [Roles.types]
  split_ifs with hcomplete
  · have hfilled : ∀ role ∈ Role.all, (roles.get role).isSome := List.all_eq_true.1 hcomplete
    rw [List.length_filterMap_eq_countP, List.countP_eq_length.2 hfilled]
    rfl
  · rfl

namespace Processing

open Manifest

/-- an entry of a report tells of a runtime type -/
structure TellsType (m : Module) (id : TypeId) (note : TypeNote) : Prop where
  token : note.token = ((m.definitions[id]?).map TypeDef.token).getD 0
  name : m.definitionName id = .ok note.name

/-- an entry of a report tells of a module -/
structure TellsModule (note : ModuleNote) (info : AssemblyInfo) : Prop where
  fullName : note.fullName = info.fullName
  fileName : note.fileName = info.simpleName ++ info.extension
  size : note.size = info.data.length

theorem forall₂_tellsModule (infos : List AssemblyInfo) : List.Forall₂ TellsModule (infos.map AssemblyInfo.note) infos :=
  List.forall₂_map_left_iff.2 (List.forall₂_same.2 fun _ _ => ⟨rfl, rfl, rfl⟩)

section

variable (file : Path) (s : Settings)

/-- the report on a file with some content before anything is written, with the extraction that it tells of -/
inductive Looked : Except FileError Bytes → Extraction → FileReport → Prop
  | unread (cause : FileError) : Looked (.error cause) .empty { file, failure := some (.file cause) }
  | unloaded {bytes : Bytes} {cause : Module.LoadError} (h : Module.load file.name bytes = .error cause) :
      Looked (.ok bytes) .empty { file, failure := some (.load cause) }
  | undetected {bytes : Bytes} {m : Module} (hload : Module.load file.name bytes = .ok m)
      (h : Recovery.detect? s.resources m = .ok none) : Looked (.ok bytes) .empty { file }
  | detected {bytes : Bytes} {m : Module} {place : Located} {controller : TypeId} {roles : Roles} {x : Extraction}
      {types : List TypeNote} {modules : List ModuleNote} (hload : Module.load file.name bytes = .ok m)
      (h : Recovery.detect? s.resources m = .ok (some (place, controller)))
      (hroles : Matching.runStages m { controller := some controller } = .ok roles)
      (hx : Ends codec (m.content place.payload) (Xml.parse (m.content place.manifest)) x)
      (htypes : List.Forall₂ (TellsType m) roles.types types) (hmodules : List.Forall₂ TellsModule modules x.infos) :
      Looked (.ok bytes) x
        { file, detected := true, canRemoveTypes := roles.complete, types, modules, warnings := x.events,
          failure := x.error.map fun cause => .recovery (.extraction cause) }

end

variable {file : Path} {s : Settings} {content : Except FileError Bytes} {m : Module} {found : Finding} {x : Extraction}
  {report : FileReport}

theorem tellsType_of_typeNote {id : TypeId} {note : TypeNote} (h : typeNote m id = .ok note) : TellsType m id note := by
  obtain ⟨name, hname, hpure⟩ := bind_eq_ok_iff.1 h
  cases hpure
  exact ⟨rfl, hname⟩

theorem forall₂_tellsType {ids : List TypeId} {types : List TypeNote} (h : ids.mapM (typeNote m) = .ok types) :
    List.Forall₂ (TellsType m) ids types := by
  induction ids generalizing types with
  | nil =>
    cases h
    exact .nil
  | cons id rest ih =>
    rw [List.mapM_cons] at h
    obtain ⟨note, hnote, h⟩ := bind_eq_ok_iff.1 h
    obtain ⟨others, hrest, h⟩ := bind_eq_ok_iff.1 h
    cases h
    exact .cons (tellsType_of_typeNote hnote) (ih hrest)

/-- a module that was looked into: matching its types is not what failed, since such a failure ends the run -/
theorem looked_examineModule {bytes : Bytes} {notes : List LogNote} (hload : Module.load file.name bytes = .ok m)
    (h : examineModule file s m = (notes, .ok found)) :
    ∃ x, Looked file s (.ok bytes) x found.report ∧ found.infos = x.infos := by
  have hran := Recovery.ran_run codec s.resources m
  unfold examineModule at h
  generalize Recovery.start.run codec s.resources m = outcome at h hran
  cases hran with
  | untold _ => cases h
  | unmatched _ _ => cases h
  | nothing hdetect =>
    cases h
    exact ⟨.empty, .undetected hload hdetect, rfl⟩
  | @extracted place controller roles hdetect hroles =>
    have hends := ends_extract codec (m.content place.payload) (Xml.parse (m.content place.manifest))
    rw [← Recovery.extraction] at hends
    generalize Recovery.extraction codec m place = x at h hends
    -- a failure of the extraction does not end the run: it goes into the report, with the modules before it
    have hfailure : (x.error.map RecoveryError.extraction).map Failure.recovery =
        x.error.map fun cause => .recovery (.extraction cause) := Option.map_map ..
    dsimp only at h
    rw [hfailure] at h
    split at h
    · cases h
    split at h
    · cases h
    next report hreport =>
    cases h
    obtain ⟨types, htypes, hpure⟩ := bind_eq_ok_iff.1 hreport
    cases hpure
    exact ⟨x, .detected hload hdetect hroles hends (forall₂_tellsType htypes) (forall₂_tellsModule x.infos), rfl⟩

/-- what a file's content comes to, unless the run ends there -/
theorem looked_examine {notes : List LogNote} (h : examine file s content = (notes, .ok found)) :
    ∃ x, Looked file s content x found.report ∧ found.infos = x.infos := by
  rcases content with cause | bytes
  · simp only [examine] at h
    split_ifs at h
    · cases h
      exact ⟨.empty, .unread cause, rfl⟩
    · cases h
  rcases hload : Module.load file.name bytes with cause | m
  · simp only [examine, hload] at h
    split_ifs at h
    · cases h
      exact ⟨.empty, .unloaded hload, rfl⟩
    · cases h
  · simp only [examine, hload] at h
    exact looked_examineModule hload h

namespace Looked

theorem undetected_eq (h : Looked file s content x report) (hnot : report.detected = false) :
    report.canRemoveTypes = false ∧ report.types = [] ∧ report.modules = [] ∧ report.warnings = [] ∧ x.infos = [] := by
  cases h with
  | unread cause => exact ⟨rfl, rfl, rfl, rfl, rfl⟩
  | unloaded h => exact ⟨rfl, rfl, rfl, rfl, rfl⟩
  | undetected hload h => exact ⟨rfl, rfl, rfl, rfl, rfl⟩
  | detected => cases hnot

theorem length_types (h : Looked file s content x report) : report.types.length = if report.canRemoveTypes then 6 else 0 := by
  cases h with
  | unread cause => rfl
  | unloaded h => rfl
  | undetected hload h => rfl
  | @detected _ _ _ _ roles _ _ _ _ _ _ _ htypes _ => exact htypes.length_eq.symm.trans roles.length_types

theorem tells (h : Looked file s content x report) :
    List.Forall₂ TellsModule report.modules x.infos ∧ report.warnings = x.events := by
  cases h with
  | detected _ _ _ _ _ hmodules => exact ⟨hmodules, rfl⟩
  | unread | unloaded | undetected => exact ⟨.nil, rfl⟩

end Looked

/-! ## Turns -/

section

variable {σ : Type} (fs : FileSystem (StateM σ)) (s : Settings) (output : Option Path) (write : Bool) (file : Path)

/-- a step of a file's turn that raised a failure -/
inductive Raises (w : σ) : Failure → Prop
  | read {w₁ : σ} {cause : FileError} (h : (fs.read file).run.run w = (.error cause, w₁)) : Raises w (.file cause)
  | load {w₁ : σ} {bytes : Bytes} {cause : Module.LoadError} (hread : (fs.read file).run.run w = (.ok bytes, w₁))
      (h : Module.load file.name bytes = .error cause) : Raises w (.load cause)
  | recover {w₁ : σ} {bytes : Bytes} {m : Module} {cause : RecoveryError} (hread : (fs.read file).run.run w = (.ok bytes, w₁))
      (hload : Module.load file.name bytes = .ok m) (h : (Recovery.start.run codec s.resources m).2 = some cause) :
      Raises w (.recovery cause)
  | write {cause : FileError} (h : BreaksOff fs s output write file w cause) : Raises w (.file cause)

/-- a report agrees with itself and with the turn that it is about -/
structure Consistent (w : σ) (report : FileReport) : Prop where
  /-- where no bundle was found, nothing is told of one -/
  undetected : report.detected = false → report.canRemoveTypes = false ∧ report.types = [] ∧ report.modules = [] ∧
    report.warnings = [] ∧ report.written = []
  /-- all six types are listed, or none -/
  types : report.types.length = if report.canRemoveTypes then 6 else 0
  /-- the modules that are listed and the warnings are what the extraction has given, also one that failed on its way; each
  module has one path, if any has -/
  found : ∃ x before, Looked file s ((fs.read file).run.run w).1 x before ∧
    report = { before with written := report.written, failure := report.failure } ∧
    List.Forall₂ TellsModule report.modules x.infos ∧ report.warnings = x.events ∧
    (report.written = [] ∨
      List.Forall₂ (fun p info => Output.Choice (output.getD (defaultDirectory file s)) info.fileName p) report.written x.infos)
  unwritten : write = false → report.written = []
  /-- a failure is told exactly if a step raised one: the last one that did -/
  failure : ∀ f, report.failure = some f → Raises fs s output write file w f
  raised : ∀ f, Raises fs s output write file w f → report.failure ≠ none
  broken : ∀ cause, BreaksOff fs s output write file w cause → report.failure = some (.file cause)

end

variable {σ : Type} {fs : FileSystem (StateM σ)} {output : Option Path} {write : Bool} {w w' : σ} {notes : List LogNote}
  {f : Failure}

theorem TurnObstacle.of_raises (h : Raises fs s output write file w f) : TurnObstacle fs s output write file w f := by
  cases h with
  | read h => exact .look h (.read _)
  | load hread h => exact .look hread (.load h)
  | recover hread hload h => exact .look hread (.recovery hload h)
  | write h =>
    obtain ⟨content, w₁, w₂, hwrite, hread, hinfos, hrun⟩ := h
    exact .write hwrite hread hinfos hrun

/-- that a name cannot be told ends the run; every other obstacle is raised by a step of its own -/
theorem Raises.of_obstacle (h : TurnObstacle fs s output write file w f) (hcontained : f.isContained) :
    Raises fs s output write file w f := by
  cases h with
  | look hread h =>
    cases h with
    | read cause => exact .read hread
    | load h => exact .load hread h
    | recovery hload h => exact .recover hread hload h
    | naming _ _ _ => cases hcontained
  | write hwrite hread hinfos h => exact .write ⟨_, _, _, hwrite, hread, hinfos, h⟩

/-- a report is what was found, but for the written paths and the failure; there is one path for each module, or none -/
theorem finished_processFile (h : (processFile fs s output write file).run w = ((notes, .ok report), w')) :
    ∃ notes' found, examine file s ((fs.read file).run.run w).1 = (notes', .ok found) ∧
      report = { found.report with written := report.written, failure := report.failure } ∧
      (report.written = [] ∨ write = true ∧ List.Forall₂
        (fun p info => Output.Choice (output.getD (defaultDirectory file s)) info.fileName p) report.written found.infos) := by
  have hruns := runs_processFile fs s output write file w
  rw [h] at hruns
  cases hruns with
  | unwritten hread hlook hnothing =>
    rw [hread]
    exact ⟨_, _, hlook, rfl, .inl (FoundIn.of_examine hlook).written_eq⟩
  | written hread hlook hwrite hinfos hrun =>
    rw [(FoundIn.of_examine hlook).file_eq] at hrun
    rw [hread]
    exact ⟨_, _, hlook, rfl, .inr ⟨hwrite, Output.choices_of_writeModules hrun⟩⟩
  | brokenOff hread hlook hwrite hinfos hrun hcontained =>
    rw [hread]
    exact ⟨_, _, hlook, rfl, .inl (FoundIn.of_examine hlook).written_eq⟩

/-- **Reports are consistent.** Whatever a file's turn came to, with whatever failures at whatever points of it, and on any file
system at all: if it ended with a report, that report is consistent. -/
theorem consistent_processFile (fs : FileSystem (StateM σ)) (s : Settings) (output : Option Path) (write : Bool) (file : Path)
    (w w' : σ) (notes : List LogNote) (report : FileReport)
    (h : (processFile fs s output write file).run w = ((notes, .ok report), w')) :
    Consistent fs s output write file w report := by
  have hturned := turned_processFile fs s output write file w
  rw [h] at hturned
  obtain ⟨-, hfailure, hraised, hcontained⟩ := hturned
  obtain ⟨notes', found, hexamine, hreport, hwritten⟩ := finished_processFile h
  obtain ⟨x, hlooked, hinfos⟩ := looked_examine hexamine
  rw [hinfos] at hwritten
  obtain ⟨hmodules, hwarnings⟩ := hlooked.tells
  refine ⟨fun hnot => ?_, ?_, ⟨x, found.report, hlooked, hreport, ?_, ?_, ?_⟩, fun hno => ?_, fun f hf => ?_, fun f hf => ?_,
    fun cause hbreaks => ?_⟩
  · rw [hreport] at hnot
    obtain ⟨hremove, htypes, hnone, hquiet, hempty⟩ := hlooked.undetected_eq hnot
    have hunwritten : report.written = [] := by
      rcases hwritten with hnothing | ⟨-, hpaths⟩
      · exact hnothing
      · rw [hempty] at hpaths
        exact List.forall₂_nil_right_iff.1 hpaths
    rw [hreport]
    exact ⟨hremove, htypes, hnone, hquiet, hunwritten⟩
  · rw [hreport]
    exact hlooked.length_types
  · rw [hreport]
    exact hmodules
  · rw [hreport]
    exact hwarnings
  · exact hwritten.imp_right And.right
  · rcases hwritten with hnothing | ⟨hwrite, -⟩
    · exact hnothing
    · rw [hno] at hwrite
      cases hwrite
  · have hobstacle := hfailure f hf
    exact .of_obstacle hobstacle (hcontained f hobstacle)
  · exact hraised ⟨f, .of_raises hf⟩
  · exact (broken_processFile h hbreaks).2

/-- two modules and two paths in the report on a host of two modules, whose bundle was therefore found -/
theorem consistent_processFile_twoModules :
    ∃ notes report t', (processFile Tree.system {} (some (Path.ofText "out")) true (Path.ofText "a.exe")).run Sample.start =
        ((notes, .ok report), t') ∧ report.written = [Path.ofText "out/Alpha.dll", Path.ofText "out/Alpha_1.dll"] ∧
      report.modules.length = 2 ∧ report.detected = true := by
  obtain ⟨found, hexamine, -, -, hinfos⟩ := Sample.examine_host (show ({} : Settings).resources = _ from rfl)
  have hread : (Tree.system.read (Path.ofText "a.exe")).run.run Sample.start = (.ok Sample.host, Sample.start) := rfl
  have houtcome : (Sample.writing false).1 = .ok [Path.ofText "out/Alpha.dll", Path.ofText "out/Alpha_1.dll"] := by
    decide +kernel
  rcases hwriting : Sample.writing false with ⟨r, t'⟩
  rw [hwriting] at houtcome
  obtain rfl := houtcome
  obtain ⟨notes, hruns⟩ : ∃ notes, Runs Tree.system {} (some (Path.ofText "out")) true (Path.ofText "a.exe") Sample.start
      ((notes, .ok { found.report with written := [Path.ofText "out/Alpha.dll", Path.ofText "out/Alpha_1.dll"] }), t') :=
    ⟨_, .written hread hexamine rfl (by simp [hinfos]) (by rw [hinfos]; exact hwriting)⟩
  have hconsistent := consistent_processFile _ _ _ _ _ _ _ _ _ hruns.run_eq
  obtain ⟨x, before, -, -, hmodules, -, hpaths⟩ := hconsistent.found
  refine ⟨_, _, t', hruns.run_eq, rfl, ?_, ?_⟩
  · rw [hmodules.length_eq, ← (hpaths.resolve_left (by simp)).length_eq]
    rfl
  · by_contra hnot
    obtain ⟨-, -, -, -, hunwritten⟩ := hconsistent.undetected (by simpa using hnot)
    cases hunwritten

end Processing

end Unbundle
