import Unbundle.Proofs.Matching.Fitting
import Unbundle.Report.Process
/-
What stands in the way of looking into a file.

A file may not be readable, its content may be no module, the recovery may end early, and the names of the runtime types may not
be told. Each of these is an obstacle with a failure of its own. Whoever looks into a file notes the obstacle in the file's
report, unless it is one that escapes: such a failure ends the run.

Results:
- `ran_run`: what a run of the recovery comes to, case by case.
- `told_examine`: a file is reported on, with the obstacle that there was, if none escapes; otherwise one that escapes is told.
- `escapes_of_obstacle`: which obstacles escape.
-/
namespace Unbundle

/-- what a first run of the recovery comes to: a fault in a type ends it before a bundle is found or before all types are
matched, there is no bundle, or the modules and the events are those that the extraction gave -/
inductive Recovery.Ran (codec : Manifest.Codec) (names : ResourceNames) (m : Module) : Recovery × Option RecoveryError → Prop
  | untold {fault : TypeFault} (h : detect? names m = .error fault) : Ran codec names m (start, some (.matching (.fault fault)))
  | nothing (h : detect? names m = .ok none) : Ran codec names m (start, none)
  | unmatched {place : Located} {controller : TypeId} {fault : TypeFault} (h : detect? names m = .ok (some (place, controller)))
      (hstages : Matching.runStages m { controller := some controller } = .error (.fault fault)) :
      Ran codec names m ({ start with located := some place }, some (.matching (.fault fault)))
  | extracted {place : Located} {controller : TypeId} {roles : Roles} (h : detect? names m = .ok (some (place, controller)))
      (hstages : Matching.runStages m { controller := some controller } = .ok roles) :
      Ran codec names m (({ start with located := some place, roles } : Recovery).add (extraction codec m place),
        (extraction codec m place).error.map .extraction)

theorem Recovery.ran_run (codec : Manifest.Codec) (names : ResourceNames) (m : Module) :
    Ran codec names m (start.run codec names m) := by
  unfold run
  dsimp only
  split
  · next h => exact .untold h
  · next h => exact .nothing h
  · next place controller h =>
    split
    · next hstages =>
      obtain ⟨fault, rfl⟩ := Matching.exists_fault_of_runStages hstages
      exact .unmatched h hstages
    · next hstages => exact .extracted h hstages

end Unbundle

namespace Unbundle.Processing

variable {file : Path} {s : Settings} {content : Except FileError Bytes} {m : Module} {r : Recovery} {f : Failure}

/-- something stands in the way of looking into a file with some content -/
inductive Obstacle (file : Path) (s : Settings) : Except FileError Bytes → Failure → Prop
  | read (cause : FileError) : Obstacle file s (.error cause) (.file cause)
  | load {bytes : Bytes} {cause : Module.LoadError} (h : Module.load file.name bytes = .error cause) :
      Obstacle file s (.ok bytes) (.load cause)
  | recovery {bytes : Bytes} {m : Module} {cause : RecoveryError} (hm : Module.load file.name bytes = .ok m)
      (h : (Recovery.start.run codec s.resources m).2 = some cause) : Obstacle file s (.ok bytes) (.recovery cause)
  | naming {bytes : Bytes} {m : Module} {id : TypeId} {cause : TypeFault} (hm : Module.load file.name bytes = .ok m)
      (hid : id ∈ (Recovery.start.run codec s.resources m).1.bundleTypes) (h : m.definitionName id = .error cause) :
      Obstacle file s (.ok bytes) (.load (.fault cause))

/-- the modules that are recovered from a file with some content -/
def recovered (file : Path) (s : Settings) (content : Except FileError Bytes) : List AssemblyInfo :=
  match content with
  | .error _ => []
  | .ok bytes =>
    match Module.load file.name bytes with
    | .error _ => []
    | .ok m => (Recovery.start.run codec s.resources m).1.infos

/-- a failure that is not contained: it concerns more than one file, or nobody expected it -/
inductive Escapes : Failure → Prop
  /-- metadata that breaks off in a way that its reader does not report -/
  | defect (cause : Metadata.Defect) : Escapes (.load (.format (.defect cause)))
  /-- so does the metadata of a recovered module -/
  | payloadDefect (cause : Metadata.Defect) : Escapes (.recovery (.extraction (.format (.defect cause))))
  /-- types that are made of themselves -/
  | fault (cause : TypeFault) : Escapes (.load (.fault cause))
  | matchingFault (cause : TypeFault) : Escapes (.recovery (.matching (.fault cause)))
  /-- a manifest in an encoding that is not read -/
  | encoding {cause : Xml.DocumentError} (h : cause ≠ .malformed) : Escapes (.recovery (.extraction (.document cause)))
  /-- an offset of more digits than are read -/
  | overlong (cause : Manifest.Overlong) : Escapes (.recovery (.extraction (.offset cause)))
  /-- a path that no file can have -/
  | noPath (p : Path) : Escapes (.file ⟨.holdsZero, p⟩)

theorem Escapes.not_isContained (h : Escapes f) : f.isContained = false := by
  cases h with
  | encoding h =>
    rename_i cause
    cases cause with
    | malformed => exact absurd rfl h
    | _ => rfl
  | _ => rfl

/-- matching fails for a fault in a type only -/
theorem exists_fault_of_recovery {cause : Matching.MatchError}
    (h : (Recovery.start.run codec s.resources m).2 = some (.matching cause)) : ∃ fault, cause = .fault fault := by
  have hran := Recovery.ran_run codec s.resources m
  generalize Recovery.start.run codec s.resources m = outcome at h hran
  cases hran with
  | untold _ =>
    cases h
    exact ⟨_, rfl⟩
  | nothing _ => cases h
  | unmatched _ _ =>
    cases h
    exact ⟨_, rfl⟩
  | extracted _ _ =>
    obtain ⟨cause', -, hcause⟩ := Option.map_eq_some_iff.1 h
    cases hcause

/-- an obstacle that is not contained escapes -/
theorem escapes_of_obstacle (h : Obstacle file s content f) (hf : f.isContained = false) : Escapes f := by
  cases h with
  | read cause =>
    obtain ⟨fault, p⟩ := cause
    have : fault = .holdsZero := by simpa [Failure.isContained] using hf
    subst this
    exact .noPath p
  | load h =>
    rename_i cause
    clear h
    cases cause with
    | format cause =>
      cases cause with
      | defect cause => exact .defect cause
      | _ => cases hf
    | fault cause => exact .fault cause
  | recovery hm h =>
    rename_i cause
    cases cause with
    | matching cause =>
      obtain ⟨fault, rfl⟩ := exists_fault_of_recovery h
      exact .matchingFault fault
    | extraction cause =>
      cases cause with
      | document cause =>
        refine .encoding ?_
        rintro rfl
        cases hf
      | offset cause => exact .overlong cause
      | payload cause => cases hf
      | format cause =>
        cases cause with
        | defect cause => exact .payloadDefect cause
        | _ => cases hf
  | naming _ _ _ => exact .fault _

/-! ## Looking into a file -/

theorem mapM_typeNote_error {ids : List TypeId} {cause : TypeFault} (h : ids.mapM (typeNote m) = .error cause) :
    ∃ id ∈ ids, m.definitionName id = .error cause := by
  induction ids with
  | nil => cases h
  | cons id rest ih =>
    rw [List.mapM_cons] at h
    rcases bind_eq_error_iff.1 h with hfirst | ⟨note, -, hlater⟩
    · rcases bind_eq_error_iff.1 hfirst with hname | ⟨name, -, hpure⟩
      · exact ⟨id, List.mem_cons_self, hname⟩
      · cases hpure
    · rcases bind_eq_error_iff.1 hlater with hrest | ⟨notes, -, hpure⟩
      · obtain ⟨other, hother, hname⟩ := ih hrest
        exact ⟨other, List.mem_cons_of_mem id hother, hname⟩
      · cases hpure

theorem mapM_typeNote_ok {ids : List TypeId} {notes : List TypeNote} (h : ids.mapM (typeNote m) = .ok notes) :
    ∀ id ∈ ids, ∃ name, m.definitionName id = .ok name := by
  induction ids generalizing notes with
  | nil => simp
  | cons id rest ih =>
    rw [List.mapM_cons] at h
    obtain ⟨note, hfirst, hlater⟩ := bind_eq_ok_iff.1 h
    obtain ⟨name, hname, -⟩ := bind_eq_ok_iff.1 hfirst
    obtain ⟨others, hrest, -⟩ := bind_eq_ok_iff.1 hlater
    exact List.forall_mem_cons.2 ⟨⟨name, hname⟩, ih hrest⟩

theorem describe_eq_error {failure : Option Failure} {cause : TypeFault} (h : describe file m r failure = .error cause) :
    ∃ id ∈ r.bundleTypes, m.definitionName id = .error cause := by
  rcases bind_eq_error_iff.1 h with hnotes | ⟨notes, -, hpure⟩
  · exact mapM_typeNote_error hnotes
  · cases hpure

theorem describe_eq_ok {failure : Option Failure} {report : FileReport} (h : describe file m r failure = .ok report) :
    report.file = file ∧ report.failure = failure ∧ report.written = [] ∧
      ∀ id ∈ r.bundleTypes, ∃ name, m.definitionName id = .ok name := by
  obtain ⟨notes, hnotes, hpure⟩ := bind_eq_ok_iff.1 h
  cases hpure
  exact ⟨rfl, rfl, rfl, mapM_typeNote_ok hnotes⟩

/-- a finding is what was found in a file: the report tells of the obstacle, if there is one, and none escapes -/
structure FoundIn (file : Path) (s : Settings) (content : Except FileError Bytes) (found : Finding) : Prop where
  file_eq : found.report.file = file
  written_eq : found.report.written = []
  infos_eq : found.infos = recovered file s content
  failure_iff : ∀ f, found.report.failure = some f ↔ Obstacle file s content f
  contained : ∀ f, Obstacle file s content f → f.isContained

/-- the outcome of looking into a file: what was found, or an obstacle that escapes -/
def Told (file : Path) (s : Settings) (content : Except FileError Bytes) : Except Failure Finding → Prop
  | .ok found => FoundIn file s content found
  | .error f => Obstacle file s content f ∧ f.isContained = false

theorem recovered_of_load {bytes : Bytes} (hm : Module.load file.name bytes = .ok m) :
    recovered file s (.ok bytes) = (Recovery.start.run codec s.resources m).1.infos := by
  simp only [recovered, hm]

theorem told_examineModule {bytes : Bytes} (hm : Module.load file.name bytes = .ok m) :
    Told file s (.ok bytes) (examineModule file s m).2 := by
  have hobstacle : ∀ cause, (Recovery.start.run codec s.resources m).2 = some cause →
      Obstacle file s (.ok bytes) (.recovery cause) := fun cause h => .recovery hm h
  unfold examineModule
  dsimp only
  split
  · next f hf =>
    -- the recovery ends early, and not for a reason that concerns this file only
    obtain ⟨hsome, hescapes⟩ := Option.filter_eq_some_iff.1 hf
    obtain ⟨cause, hcause, rfl⟩ := Option.map_eq_some_iff.1 hsome
    exact ⟨hobstacle cause hcause, by simpa using hescapes⟩
  next hnone =>
  have hcontained : ∀ cause, (Recovery.start.run codec s.resources m).2 = some cause →
      (Failure.recovery cause).isContained := fun cause h => by
    have := Option.filter_eq_none_iff.1 hnone (.recovery cause) (by rw [h]; rfl)
    simpa using this
  split
  · next cause hcause =>
    obtain ⟨id, hid, hname⟩ := describe_eq_error hcause
    exact ⟨.naming hm hid hname, rfl⟩
  next report hreport =>
  obtain ⟨hfile, hfailure, hwritten, hnames⟩ := describe_eq_ok hreport
  -- the names are told, so that the recovery is the only obstacle that there can be
  have honly : ∀ f, Obstacle file s (.ok bytes) f → ∃ cause, f = .recovery cause ∧
      (Recovery.start.run codec s.resources m).2 = some cause := by
    intro f hf
    cases hf with
    | load h =>
      rw [hm] at h
      cases h
    | recovery hm' h =>
      rw [hm] at hm'
      cases hm'
      exact ⟨_, rfl, h⟩
    | naming hm' hid h =>
      rw [hm] at hm'
      cases hm'
      obtain ⟨name, hname⟩ := hnames _ hid
      rw [hname] at h
      cases h
  refine ⟨hfile, hwritten, (recovered_of_load hm).symm, fun f => ?_, fun f hf => ?_⟩
  · rw [hfailure, Option.map_eq_some_iff]
    refine ⟨fun ⟨cause, hcause, hf⟩ => hf ▸ hobstacle cause hcause, fun hf => ?_⟩
    obtain ⟨cause, rfl, hcause⟩ := honly f hf
    exact ⟨cause, hcause, rfl⟩
  · obtain ⟨cause, rfl, hcause⟩ := honly f hf
    exact hcontained cause hcause

/-- a failure that comes before there is a module is noted, unless it escapes -/
theorem told_settled (hobstacle : Obstacle file s content f) (honly : ∀ f', Obstacle file s content f' → f' = f)
    (hrecovered : recovered file s content = []) :
    Told file s content (if f.isContained then .ok (failedFinding file f) else .error f) := by
  split_ifs with hcontained
  · refine ⟨rfl, rfl, hrecovered.symm, fun f' => ⟨fun hf' => ?_, fun hf' => ?_⟩, fun f' hf' => ?_⟩
    · cases hf'
      exact hobstacle
    · rw [honly f' hf']
      rfl
    · rwa [honly f' hf']
  · exact ⟨hobstacle, by simpa using hcontained⟩

/-- whoever looks into a file finds what is in it, or comes across an obstacle that escapes -/
theorem told_examine (file : Path) (s : Settings) (content : Except FileError Bytes) :
    Told file s content (examine file s content).2 := by
  rcases content with cause | bytes
  · refine told_settled (.read cause) (fun f' hf' => ?_) rfl
    cases hf'
    rfl
  rcases hload : Module.load file.name bytes with cause | m
  · have hexamine : (examine file s (.ok bytes)).2 = if (Failure.load cause).isContained then
        .ok (failedFinding file (.load cause)) else .error (.load cause) := by
      simp only [examine, hload]
    rw [hexamine]
    refine told_settled (.load hload) (fun f' hf' => ?_) (by simp only [recovered, hload])
    cases hf' with
    | load h =>
      rw [hload] at h
      cases h
      rfl
    | recovery h _ =>
      rw [hload] at h
      cases h
    | naming h _ _ =>
      rw [hload] at h
      cases h
  · have hexamine : examine file s (.ok bytes) = examineModule file s m := by
      simp only [examine, hload]
    rw [hexamine]
    exact told_examineModule hload

theorem FoundIn.of_examine {notes : List LogNote} {found : Finding} (h : examine file s content = (notes, .ok found)) :
    FoundIn file s content found := by
  have htold := told_examine file s content
  rw [h] at htold
  exact htold

end Unbundle.Processing
