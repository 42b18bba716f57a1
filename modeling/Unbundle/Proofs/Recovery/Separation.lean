import Unbundle.Proofs.Matching.Fitting
import Unbundle.Proofs.Module.Naming
import Unbundle.Proofs.Module.NestingTable
import Unbundle.Proofs.Recovery.History
/-
Detection and extraction side by side.

A recovery reads the types of a module to match them and its two resources to extract modules. The one has no influence on what
the other gives: two modules with the same types are matched alike, whatever their resources hold, and two modules with the same
resources give the same modules and events, whatever their types. The two meet in two places only. Both resources and the
controller have to be there at all, and matching comes first: where it fails, for a type that is made of itself, nothing is
extracted any more.

Results:
- `controller?_bare`, `runStages_bare`, `sound_bare`: matching reads nothing of a module but its types.
- `embedded?_spec`, `locate?_of_bundles`: which resources are the two of a bundle.
- `run_of_bundles`: the one way in which a run depends on types and resources.
- `recovery_separates`: detection, extraction and the gate before both.
-/
namespace Unbundle

open Matching

namespace Module

/-- a module without its name and its resources: its types, and what its tokens stand for -/
def bare (m : Module) : Module := { m with name := "", resources := [] }

variable (m : Module)

theorem typeName_bare : m.bare.typeName = m.typeName := typeName_congr rfl

theorem isMethod_bare : m.bare.isMethod = m.isMethod := isMethod_congr rfl

/-- whether a module is sound is a matter of its types -/
theorem sound_bare : m.bare.Sound ↔ m.Sound := by
  have hnesting (id : TypeId) : m.bare.NestingEnds id ↔ m.NestingEnds id := by
    rw [nestingEnds_iff, nestingEnds_iff]
    rfl
  constructor
  · intro h
    exact ⟨fun id => (hnesting id).1 (h.nesting id), h.fields, h.returns, h.parameters⟩
  · intro h
    exact ⟨fun id => (hnesting id).2 (h.nesting id), h.fields, h.returns, h.parameters⟩

end Module

namespace Matching

variable (m : Module)

theorem isControllerAt_bare : isControllerAt m.bare = isControllerAt m := by
  funext id
  simp only [isControllerAt, isController, entryPoint?, fileNameMethod?, takesAssembly, mapsText, m.isMethod_bare]
  rfl

theorem controller?_bare : controller? m.bare = controller? m := by
  rw [controller?, isControllerAt_bare]
  rfl

theorem parserAndElement?_bare : parserAndElement? m.bare = parserAndElement? m := by
  funext f
  simp only [parserAndElement?, listElement?, takesNothing, m.isMethod_bare, m.typeName_bare]
  rfl

theorem providerMadeBy?_bare : providerMadeBy? m.bare = providerMadeBy? m := by
  funext manager face i
  simp only [providerMadeBy?, provider?, takesAssemblyAndText, m.isMethod_bare]
  rfl

theorem find_bare (r : Roles) (s : Stage) : s.find m.bare r = s.find m r := by
  cases s with
  | manager => rfl
  | parser =>
    simp only [Stage.find, parserAndElement?_bare]
    rfl
  | provider =>
    simp only [Stage.find, providerMadeBy?_bare, takesAssembly, m.isMethod_bare]
    rfl

theorem runStages_bare (r : Roles) : runStages m.bare r = runStages m r := by
  have hrun : Stage.run m.bare = Stage.run m := by
    funext r s
    simp only [Stage.run, find_bare]
  rw [runStages, runStages, hrun]

end Matching

namespace Module

/-! ## Resources -/

/-- the first resource with exactly the given name is embedded, and this is its content -/
def Embeds (m : Module) (name : String) (data : Bytes) : Prop :=
  ∃ resource, m.resource? name = some resource ∧ resource.kind = .embedded ∧ resource.data = data

/-- both resources of a bundle are embedded, and this is their content -/
def Bundles (m : Module) (names : ResourceNames) (payload manifest : Bytes) : Prop :=
  m.Embeds names.payload payload ∧ m.Embeds names.manifest manifest

variable {m : Module} {name : String} {names : ResourceNames}

/-- a name has a place among the embedded resources exactly if its first resource is embedded -/
theorem embedded?_spec (m : Module) (name : String) :
    (∃ place, m.embedded? name = some place ∧ m.Embeds name (m.content place)) ∨
      m.embedded? name = none ∧ ∀ data, ¬ m.Embeds name data := by
  cases hplace : m.resources.findIdx? (·.name = name) with
  | none =>
    refine .inr ⟨by simp [embedded?, hplace], ?_⟩
    rintro data ⟨resource, hresource, -⟩
    have hname := List.find?_some hresource
    rw [List.findIdx?_eq_none_iff] at hplace
    rw [hplace resource (List.mem_of_find?_eq_some hresource)] at hname
    cases hname
  | some place =>
    obtain ⟨hlt, hname, hfirst⟩ := List.findIdx?_eq_some_iff_getElem.1 hplace
    have hresource : m.resource? name = some m.resources[place] :=
      List.find?_eq_some_iff_getElem.2 ⟨hname, place, hlt, rfl, fun j hj => by simpa using hfirst j hj⟩
    by_cases hkind : m.resources[place].kind = .embedded
    · refine .inl ⟨place, by simp [embedded?, hplace, hlt, hkind], m.resources[place], hresource, hkind, ?_⟩
      simp [content, hlt]
    · refine .inr ⟨by simp [embedded?, hplace, hlt, hkind], ?_⟩
      rintro data ⟨resource, hother, hembedded, -⟩
      rw [hresource] at hother
      cases hother
      exact hkind hembedded

/-- a bundle has one payload and one manifest -/
theorem Embeds.unique {data data' : Bytes} (h : m.Embeds name data) (h' : m.Embeds name data') : data = data' := by
  obtain ⟨resource, hresource, -, rfl⟩ := h
  obtain ⟨resource', hresource', -, rfl⟩ := h'
  rw [hresource] at hresource'
  cases hresource'
  rfl

theorem locate?_of_bundles {payload manifest : Bytes} (h : m.Bundles names payload manifest) :
    ∃ place, m.locate? names.payload names.manifest = some place ∧ m.content place.payload = payload ∧
      m.content place.manifest = manifest := by
  rcases m.embedded?_spec names.payload with ⟨a, ha, hpayload⟩ | ⟨-, hno⟩
  · rcases m.embedded?_spec names.manifest with ⟨b, hb, hmanifest⟩ | ⟨-, hno⟩
    · exact ⟨⟨a, b⟩, by rw [locate?, ha, hb]; rfl, hpayload.unique h.1, hmanifest.unique h.2⟩
    · exact absurd h.2 (hno manifest)
  · exact absurd h.1 (hno payload)

theorem locate?_eq_none (h : (∀ data, ¬ m.Embeds names.payload data) ∨ ∀ data, ¬ m.Embeds names.manifest data) :
    m.locate? names.payload names.manifest = none := by
  rcases m.embedded?_spec names.payload with ⟨a, ha, hpayload⟩ | ⟨hnone, -⟩
  · rcases m.embedded?_spec names.manifest with ⟨b, hb, hmanifest⟩ | ⟨hnone, -⟩
    · rcases h with h | h
      · exact absurd hpayload (h _)
      · exact absurd hmanifest (h _)
    · rw [locate?, ha, hnone]
      rfl
  · rw [locate?, hnone]
    rfl

end Module

namespace Matching

/-- in a sound module the stages after the controller fail only for a token whose row has no answer -/
theorem rowFails_of_runStages {m : Module} (h : m.Sound) {c : TypeId} (hc : controller? m = .ok (some c)) {cause : MatchError}
    (hrun : runStages m { controller := some c } = .error cause) : ∃ fault, RowFails m fault ∧ cause = .fault fault := by
  obtain ⟨managing, -, hrun₁⟩ := run_manager_stage (m := m) (r := { controller := some c }) rfl rfl
  obtain ⟨parsing, -, hrun₂⟩ := run_parser_stage h
    (r := { controller := some c, manager := managing.map (·.1), streamProviderInterface := managing.map (·.2) }) rfl rfl
  obtain ⟨hanswered, hunanswered⟩ := run_provider_stage
    (r := ⟨some c, managing.map (·.1), managing.map (·.2), parsing.map (·.1), parsing.map (·.2), none⟩) h rfl <| by
      rintro _ ⟨⟩
      exact isController_of_controller? hc
  rw [runStages_ok hrun₁ hrun₂] at hrun
  by_cases hanswer : TokensAnswer m ⟨some c, managing.map (·.1), managing.map (·.2), parsing.map (·.1), parsing.map (·.2), none⟩
  · obtain ⟨found, -, hok⟩ := hanswered hanswer
    rw [hok] at hrun
    cases hrun
  · obtain ⟨fault, hfault, hfail⟩ := hunanswered hanswer
    rw [hfail] at hrun
    cases hrun
    exact ⟨fault, hfault, rfl⟩

end Matching

namespace Recovery

open Manifest

variable (codec : Codec) {names : ResourceNames} {m : Module} (r : Recovery) {payload manifest : Bytes}

/-! ## Runs -/

/-- a run on a module that has both resources: matching reads the types, extraction the content of the resources -/
theorem run_of_bundles (h : m.Bundles names payload manifest) : ∃ place, run codec names m r =
    match controller? m with
    | .error cause => (r.reset, some (.matching (.fault cause)))
    | .ok none => (r.reset, none)
    | .ok (some c) =>
      match runStages m { controller := some c } with
      | .error cause => ({ r.reset with located := some place }, some (.matching cause))
      | .ok roles =>
        let result := extract codec payload (Xml.parse manifest)
        (({ r.reset with located := some place, roles }).add result, result.error.map .extraction) := by
  obtain ⟨place, hplace, rfl, rfl⟩ := m.locate?_of_bundles h
  refine ⟨place, ?_⟩
  rw [run, detect?, hplace]
  simp only
  cases controller? m with
  | error cause => rfl
  | ok found =>
    cases found with
    | none => rfl
    | some c => rfl

/-- a module in which a controller is found, and then all stages run without failure -/
def Matches (m : Module) (c : TypeId) : Prop :=
  controller? m = .ok (some c) ∧ ∃ roles, runStages m { controller := some c } = .ok roles

/-- what a run on a module leaves that has both resources and whose matching does not fail, whatever roles it fills -/
theorem run_of_matches {c : TypeId} (h : m.Bundles names payload manifest) (hm : Matches m c) :
    (run codec names m r).1.infos = (extract codec payload (Xml.parse manifest)).infos ∧
      (run codec names m r).1.diagnostics = r.diagnostics.append (extract codec payload (Xml.parse manifest)).events ∧
      (run codec names m r).2 = (extract codec payload (Xml.parse manifest)).error.map .extraction := by
  obtain ⟨hc, roles, hroles⟩ := hm
  obtain ⟨place, hrun⟩ := run_of_bundles codec r h
  rw [hrun, hc]
  simp [hroles, add, reset, start]

/-- what a run on a module leaves that has both resources and a controller and whose matching fails -/
theorem run_of_not_matches {c : TypeId} {cause : MatchError} (h : m.Bundles names payload manifest)
    (hc : controller? m = .ok (some c)) (hfail : runStages m { controller := some c } = .error cause) :
    (run codec names m r).1.infos = [] ∧ (run codec names m r).1.diagnostics = r.diagnostics ∧
      (run codec names m r).2 = some (.matching cause) := by
  obtain ⟨place, hrun⟩ := run_of_bundles codec r h
  rw [hrun, hc]
  simp [hfail, reset, start]

/-- the roles that a run on a module gives that has both resources: those of matching, none if it fails -/
theorem roles_run_of_bundles (h : m.Bundles names payload manifest) :
    (run codec names m r).1.roles = match rolesOf m with | .ok roles => roles | .error _ => .empty := by
  obtain ⟨place, hrun⟩ := run_of_bundles codec r h
  rw [hrun, rolesOf]
  cases controller? m with
  | error cause => rfl
  | ok found =>
    cases found with
    | none => rfl
    | some c =>
      simp only
      cases runStages m { controller := some c } with
      | error cause => rfl
      | ok roles => rfl

theorem rolesOf_bare (m : Module) : rolesOf m.bare = rolesOf m := by
  rw [rolesOf, rolesOf, controller?_bare]
  simp only [runStages_bare]

/-- without both resources or without a controller a run finds nothing, whatever the codec would do -/
theorem run_of_nothing (h : (∀ data, ¬ m.Embeds names.payload data) ∨ (∀ data, ¬ m.Embeds names.manifest data) ∨
    controller? m = .ok none) : run codec names m r = (r.reset, none) := by
  cases hplace : m.locate? names.payload names.manifest with
  | none =>
    rw [run, detect?, hplace]
  | some place =>
    have hnone : controller? m = .ok none := by
      rcases h with h | h | h
      · rw [m.locate?_eq_none (.inl h)] at hplace
        cases hplace
      · rw [m.locate?_eq_none (.inr h)] at hplace
        cases hplace
      · exact h
    rw [run, detect?, hplace]
    simp only [hnone]
    rfl

/-- the names of the two resources of `twoEntries` -/
def twoNames : ResourceNames := ⟨"payload", "manifest"⟩

/-- the bundle of `twoEntries` beside a runtime in which no field leads from the controller to another type -/
def looseRuntime : Module :=
  { twoEntries with fields := twoEntries.fields.map fun f => { f with type := .core "String" } }

/-- the bundle of `twoEntries` beside a runtime in which a specification stands for itself -/
def stuckRuntime : Module :=
  { Matching.askingRuntime #[.error (.typeSpec 1)] with resources := twoEntries.resources }

theorem stuckRuntime_sound : stuckRuntime.Sound := by
  rw [← Module.sound_bare]
  exact (Module.sound_bare (Matching.askingRuntime #[.error (.typeSpec 1)])).2 (Matching.askingRuntime_sound _)

theorem bundles_of_resources {m : Module} {payload manifest : Bytes}
    (h : m.resources = [⟨"payload", .embedded, payload⟩, ⟨"manifest", .embedded, manifest⟩]) :
    m.Bundles twoNames payload manifest := by
  refine ⟨⟨⟨"payload", .embedded, payload⟩, ?_, rfl, rfl⟩, ⟨⟨"manifest", .embedded, manifest⟩, ?_, rfl, rfl⟩⟩
  · rw [Module.resource?, h]
    rfl
  · rw [Module.resource?, h]
    rfl

end Recovery

end Unbundle
