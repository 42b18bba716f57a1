import Unbundle.Proofs.Matching.Fitting
import Unbundle.Proofs.Matching.FirstHit
/-
Stages in any order, and again.

A schedule is any sequence of stages, run from a record in which the controller alone is known. A stage one of whose roles is
filled is skipped. The stages depend on each other only so far: the manager's reads the controller, the parser's the manager,
and the provider's the controller and what the manager's filled. So what a stage finds once it can find anything does not
depend on when it is run, and a schedule comes to a record that its order tells: the manager's roles are filled if its stage
was run at all, the others' if theirs was run at some time behind it.

Results:
- `writesOnce_of_runPending`: a step of a schedule keeps what is filled and fills the roles of its stage together.
- `runPending_of_find`: what a step comes to when the stage finds what a record has.
- `runSchedule_eq`, `runSchedule_eq_of_error`: the record that a schedule comes to, and when it fails.
- `runSchedule_agrees`: a schedule agrees with running every stage once in order of dependence. It fails only where that fails,
  for a token without an answer in the controller's constructor, and then exactly if it looks for the provider behind the manager.
-/
namespace Unbundle.Matching

open scoped List

variable {m : Module} {r r' known : Roles} {s : Stage}

/-! ## One step -/

/-- run a stage, unless one of its roles is filled -/
def Stage.runPending (m : Module) (r : Roles) (s : Stage) : Except MatchError Roles :=
  if s.roles.any fun role => (r.get role).isSome then .ok r else s.run m r

/-- a stage keeps what is filled, changes its own roles only, and fills all of them or none -/
structure WritesOnce (s : Stage) (r r' : Roles) : Prop where
  kept : ∀ role id, r.get role = some id → r'.get role = some id
  own : ∀ role, role ∉ s.roles → r'.get role = r.get role
  together : r' = r ∨ ∀ role ∈ s.roles, r.get role = none ∧ (r'.get role).isSome

theorem WritesOnce.refl (s : Stage) (r : Roles) : WritesOnce s r r :=
  ⟨fun _ _ h => h, fun _ _ => rfl, .inl rfl⟩

theorem get_foldl_set_of_not_mem {slots : List (Role × TypeId)} {role : Role} (h : role ∉ slots.map Prod.fst) :
    (slots.foldl (fun r slot => r.set slot.1 slot.2) r).get role = r.get role := by
  induction slots generalizing r with
  | nil => rfl
  | cons slot rest ih =>
    rw [List.map_cons, List.mem_cons, not_or] at h
    rw [List.foldl_cons, ih h.2, Roles.get_set, if_neg h.1]

theorem isSome_get_foldl_set {slots : List (Role × TypeId)} {role : Role} (h : role ∈ slots.map Prod.fst) :
    ((slots.foldl (fun r slot => r.set slot.1 slot.2) r).get role).isSome := by
  induction slots generalizing r with
  | nil => cases h
  | cons slot rest ih =>
    rw [List.foldl_cons]
    by_cases hrest : role ∈ rest.map Prod.fst
    · exact ih hrest
    · obtain rfl : role = slot.1 := by simpa [hrest] using h
      rw [get_foldl_set_of_not_mem hrest, Roles.get_set, if_pos rfl]
      rfl

/-- filling the roles of a stage, which are free -/
theorem writesOnce_foldl_set {ids : List TypeId} (hlength : ids.length = s.roles.length)
    (hfree : ∀ role ∈ s.roles, r.get role = none) :
    WritesOnce s r ((s.roles.zip ids).foldl (fun r slot => r.set slot.1 slot.2) r) := by
  have hroles : (s.roles.zip ids).map Prod.fst = s.roles := List.map_fst_zip (Nat.le_of_eq hlength.symm)
  have hown (role : Role) (hrole : role ∉ s.roles) :
      ((s.roles.zip ids).foldl (fun r slot => r.set slot.1 slot.2) r).get role = r.get role :=
    get_foldl_set_of_not_mem (by rwa [hroles])
  refine ⟨fun role id hid => ?_, hown, .inr fun role hrole => ⟨hfree role hrole, isSome_get_foldl_set (by rwa [hroles])⟩⟩
  have hrole : role ∉ s.roles := by
    intro hmem
    rw [hfree role hmem] at hid
    cases hid
  rw [hown role hrole, hid]

theorem length_of_find {ids : List TypeId} (h : s.find m r = .ok (some ids)) : ids.length = s.roles.length := by
  cases s with
  | manager =>
    obtain ⟨c, g, face, f, -, -, rfl⟩ := find_manager_some h
    rfl
  | parser =>
    obtain ⟨p, e, f, -, rfl⟩ := find_parser_some h
    rfl
  | provider =>
    obtain ⟨g, face, i, made, -, -, -, rfl⟩ := find_provider_some h
    rfl

theorem writesOnce_of_runPending (h : s.runPending m r = .ok r') : WritesOnce s r r' := by
  unfold Stage.runPending at h
  split_ifs at h with hfilled
  · cases h
    exact .refl s r
  · rcases run_eq_ok h with rfl | ⟨ids, hfind, hfill⟩
    · exact .refl s r'
    · obtain ⟨-, rfl⟩ := fill_eq_ok hfill
      refine writesOnce_foldl_set (length_of_find hfind) fun role hrole => ?_
      simpa using List.any_eq_false.1 (Bool.eq_false_iff.2 hfilled) role hrole

/-- the record with a stage's roles taken from another one -/
def adopt (r known : Roles) : Stage → Roles
  | .manager => { r with manager := known.manager, streamProviderInterface := known.streamProviderInterface }
  | .parser => { r with xmlParser := known.xmlParser, entryDescriptor := known.entryDescriptor }
  | .provider => { r with streamProvider := known.streamProvider }

theorem adopt_eq_self (h : ∀ role ∈ s.roles, r.get role = known.get role) : adopt r known s = r := by
  obtain ⟨c, g, face, p, e, made⟩ := r
  cases s <;> simp_all [Stage.roles, Roles.get, adopt]

/-- a stage whose roles are free fills them with what it finds, where that is something -/
theorem run_of_find_adopt (hfind : s.find m r = .ok (s.roles.mapM known.get))
    (hsome : ∀ role ∈ s.roles, (known.get role).isSome) (hfree : ∀ role ∈ s.roles, r.get role = none) :
    s.run m r = .ok (adopt r known s) := by
  obtain ⟨c, g, face, p, e, made⟩ := r
  obtain ⟨c', g', face', p', e', made'⟩ := known
  cases s with
  | manager =>
    obtain ⟨rfl, rfl⟩ : g = none ∧ face = none := by simpa [Stage.roles, Roles.get] using hfree
    obtain ⟨g', rfl⟩ := Option.isSome_iff_exists.1 (hsome .manager (by decide))
    obtain ⟨face', rfl⟩ := Option.isSome_iff_exists.1 (hsome .streamProviderInterface (by decide))
    exact run_of_find_some hfind rfl
  | parser =>
    obtain ⟨rfl, rfl⟩ : p = none ∧ e = none := by simpa [Stage.roles, Roles.get] using hfree
    obtain ⟨p', rfl⟩ := Option.isSome_iff_exists.1 (hsome .xmlParser (by decide))
    obtain ⟨e', rfl⟩ := Option.isSome_iff_exists.1 (hsome .entryDescriptor (by decide))
    exact run_of_find_some hfind rfl
  | provider =>
    obtain rfl : made = none := by simpa [Stage.roles, Roles.get] using hfree
    obtain ⟨made', rfl⟩ := Option.isSome_iff_exists.1 (hsome .streamProvider (by decide))
    exact run_of_find_some hfind rfl

/-- a step comes to what its stage finds, whether the stage was run before or not -/
theorem runPending_of_find (hfind : s.find m r = .ok (s.roles.mapM known.get))
    (htogether : (∀ role ∈ s.roles, known.get role = none) ∨ ∀ role ∈ s.roles, (known.get role).isSome)
    (hr : (∀ role ∈ s.roles, r.get role = none) ∨ ∀ role ∈ s.roles, r.get role = known.get role) :
    s.runPending m r = .ok (adopt r known s) := by
  rcases htogether with hnone | hsome
  · -- there is nothing to find
    have hsame (role : Role) (hrole : role ∈ s.roles) : r.get role = known.get role := by
      rcases hr with hfree | hsame
      · rw [hfree role hrole, hnone role hrole]
      · exact hsame role hrole
    have hnothing : s.find m r = .ok none := by
      rw [hfind]
      cases s <;> simp_all [Stage.roles]
    rw [Stage.runPending, run_of_find_none hnothing, ite_self, adopt_eq_self hsame]
  rcases hr with hfree | hsame
  · rw [Stage.runPending, if_neg (by simpa using hfree), run_of_find_adopt hfind hsome hfree]
  · -- its roles are filled already
    have hfilled : (s.roles.any fun role => (r.get role).isSome) = true := by
      obtain ⟨role, hrole⟩ := List.exists_mem_of_ne_nil s.roles (by cases s <;> decide)
      exact List.any_eq_true.2 ⟨role, hrole, by rw [hsame role hrole]; exact hsome role hrole⟩
    rw [Stage.runPending, if_pos hfilled, adopt_eq_self hsame]

/-! ## What the stages find -/

/-- what the stages find for a controller, whatever else a record has: manager and interface, parser and descriptor behind
them, and the provider, for which the search may fail -/
structure Findings (m : Module) (c : TypeId) where
  managing : Option (TypeId × TypeId)
  parsing : Option (TypeId × TypeId)
  making : Except TypeFault (Option TypeId)
  manager_finds : ∀ r : Roles, r.controller = some c →
    Stage.find m r .manager = .ok (managing.map fun found => [found.1, found.2])
  parser_finds : ∀ r : Roles, r.manager = managing.map (·.1) →
    Stage.find m r .parser = .ok (parsing.map fun found => [found.1, found.2])
  provider_finds : ∀ r : Roles, r.controller = some c → r.manager = managing.map (·.1) →
    r.streamProviderInterface = managing.map (·.2) → Stage.find m r .provider = making.map (Option.map ([·]))

/-- a stage that comes too early finds nothing -/
theorem find_of_manager_none (hs : s ≠ .manager) (hr : r.manager = none) : s.find m r = .ok none := by
  cases s with
  | manager => exact absurd rfl hs
  | parser => simp only [Stage.find, hr]
  | provider =>
    simp only [Stage.find, hr]
    cases r.controller <;> rfl

theorem exists_parsing (h : m.Sound) (manager : Option TypeId) :
    ∃ parsing : Option (TypeId × TypeId), ∀ r : Roles, r.manager = manager →
      Stage.find m r .parser = .ok (parsing.map fun found => [found.1, found.2]) := by
  cases manager with
  | none => exact ⟨none, fun r hr => find_of_manager_none (by decide) hr⟩
  | some g =>
    obtain ⟨parsing, hparsing⟩ := findSomeM?_ok (l := ((m.definitions[g]?).map m.fieldsOf).getD []) fun f _ =>
      parserAndElement?_ok h f
    refine ⟨parsing, fun r hr => ?_⟩
    simp only [Stage.find, hr, hparsing, ok_bind]
    rfl

theorem exists_making (m : Module) (c : TypeId) (manager face : Option TypeId) :
    ∃ making : Except TypeFault (Option TypeId), ∀ r : Roles, r.controller = some c → r.manager = manager →
      r.streamProviderInterface = face → Stage.find m r .provider = making.map (Option.map ([·])) := by
  -- the search reads three roles of a record and no other
  let start : Roles := { controller := some c, manager, streamProviderInterface := face }
  have hsame (r : Roles) (hc : r.controller = some c) (hm : r.manager = manager) (hf : r.streamProviderInterface = face) :
      Stage.find m r .provider = Stage.find m start .provider := by
    simp only [Stage.find, hc, hm, hf, start]
  cases hfind : Stage.find m start .provider with
  | error cause => exact ⟨.error cause, fun r hc hm hf => by rw [hsame r hc hm hf, hfind]; rfl⟩
  | ok found =>
    cases found with
    | none => exact ⟨.ok none, fun r hc hm hf => by rw [hsame r hc hm hf, hfind]; rfl⟩
    | some ids =>
      obtain ⟨_, _, _, made, -, -, -, rfl⟩ := find_provider_some hfind
      exact ⟨.ok (some made), fun r hc hm hf => by rw [hsame r hc hm hf, hfind]; rfl⟩

theorem exists_findings (h : m.Sound) (c : TypeId) : Nonempty (Findings m c) := by
  let managing := (((m.definitions[c]?).map m.fieldsOf).getD []).findSome? (managerAndInterface? m c)
  obtain ⟨parsing, hparser⟩ := exists_parsing h (managing.map (·.1))
  obtain ⟨making, hprovider⟩ := exists_making m c (managing.map (·.1)) (managing.map (·.2))
  refine ⟨⟨managing, parsing, making, fun r hc => ?_, hparser, hprovider⟩⟩
  simp only [Stage.find, hc]
  rfl

/-- the record of what is found -/
def Findings.record {c : TypeId} (f : Findings m c) (made : Option TypeId) : Roles where
  controller := some c
  manager := f.managing.map (·.1)
  streamProviderInterface := f.managing.map (·.2)
  xmlParser := f.parsing.map (·.1)
  entryDescriptor := f.parsing.map (·.2)
  streamProvider := made

/-- the roles of a stage are found together -/
theorem Findings.together {c : TypeId} (f : Findings m c) (made : Option TypeId) (s : Stage) :
    (∀ role ∈ s.roles, (f.record made).get role = none) ∨ ∀ role ∈ s.roles, ((f.record made).get role).isSome := by
  cases s with
  | manager => cases hm : f.managing <;> simp [Stage.roles, Findings.record, Roles.get, hm]
  | parser => cases hp : f.parsing <;> simp [Stage.roles, Findings.record, Roles.get, hp]
  | provider => cases made <;> simp [Stage.roles, Findings.record, Roles.get]

/-! ## Schedules -/

/-- run stages one after the other, from a record in which the controller alone is known -/
def runSchedule (m : Module) (c : TypeId) (stages : List Stage) : Except MatchError Roles :=
  stages.foldlM (Stage.runPending m) { controller := some c }

/-- what is filled when stages are through, of all that can be: manager and interface if their stage is among them, and the
others if their stage comes at some time behind that one -/
def afterStages (known : Roles) (stages : List Stage) : Roles where
  controller := known.controller
  manager := if .manager ∈ stages then known.manager else none
  streamProviderInterface := if .manager ∈ stages then known.streamProviderInterface else none
  xmlParser := if [.manager, .parser] <+ stages then known.xmlParser else none
  entryDescriptor := if [.manager, .parser] <+ stages then known.entryDescriptor else none
  streamProvider := if [.manager, .provider] <+ stages then known.streamProvider else none

/-- the roles of a stage are filled together -/
theorem roles_afterStages (known : Roles) (stages : List Stage) (s : Stage) :
    (∀ role ∈ s.roles, (afterStages known stages).get role = none) ∨
      ∀ role ∈ s.roles, (afterStages known stages).get role = known.get role := by
  cases s with
  | manager => by_cases hmem : Stage.manager ∈ stages <;> simp [Stage.roles, Roles.get, afterStages, hmem]
  | parser => by_cases hsub : [.manager, .parser] <+ stages <;> simp [Stage.roles, Roles.get, afterStages, hsub]
  | provider => by_cases hsub : [.manager, .provider] <+ stages <;> simp [Stage.roles, Roles.get, afterStages, hsub]

theorem pair_sublist_concat {a b s : Stage} {stages : List Stage} :
    [a, b] <+ stages ++ [s] ↔ [a, b] <+ stages ∨ (b = s ∧ a ∈ stages) := by
  constructor
  · intro h
    obtain ⟨front, back, hsplit, hfront, hback⟩ := List.sublist_append_iff.1 h
    rcases List.sublist_singleton.1 hback with rfl | rfl
    · rw [List.append_nil] at hsplit
      rw [hsplit]
      exact .inl hfront
    · obtain ⟨rfl, hb⟩ : front = [a] ∧ s = b := by
        cases front with
        | nil => cases hsplit
        | cons x front => cases front <;> simp_all
      exact .inr ⟨hb.symm, List.singleton_sublist.1 hfront⟩
  · rintro (h | ⟨rfl, h⟩)
    · exact h.trans (List.sublist_append_left _ _)
    · exact (List.singleton_sublist.2 h).append (List.Sublist.refl [b])

theorem afterStages_concat (known : Roles) (stages : List Stage) (s : Stage) :
    afterStages known (stages ++ [s]) =
      if s = .manager ∨ .manager ∈ stages then adopt (afterStages known stages) known s else afterStages known stages := by
  by_cases hmanager : Stage.manager ∈ stages
  · cases s <;> simp [afterStages, adopt, pair_sublist_concat, hmanager]
  · cases s <;> simp [afterStages, adopt, pair_sublist_concat, hmanager]

variable {c : TypeId} {made : Option TypeId} {stages : List Stage}

/-- a stage that can find something by now finds what the record of all that is found has -/
theorem find_afterStages (f : Findings m c) (hready : s = .manager ∨ .manager ∈ stages)
    (hmaking : s = .provider → f.making = .ok made) :
    s.find m (afterStages (f.record made) stages) = .ok (s.roles.mapM (f.record made).get) := by
  cases s with
  | manager =>
    rw [f.manager_finds _ rfl]
    cases hm : f.managing <;> simp [Stage.roles, Findings.record, Roles.get, hm]
  | parser =>
    have hmem : Stage.manager ∈ stages := by simpa using hready
    rw [f.parser_finds _ (if_pos hmem)]
    cases hp : f.parsing <;> simp [Stage.roles, Findings.record, Roles.get, hp]
  | provider =>
    have hmem : Stage.manager ∈ stages := by simpa using hready
    rw [f.provider_finds _ rfl (if_pos hmem) (if_pos hmem), hmaking rfl]
    cases made <;> simp [Stage.roles, Findings.record, Roles.get, Except.map]

theorem runPending_afterStages (f : Findings m c) (hmaking : s = .provider → .manager ∈ stages → f.making = .ok made) :
    s.runPending m (afterStages (f.record made) stages) = .ok (afterStages (f.record made) (stages ++ [s])) := by
  rw [afterStages_concat]
  split_ifs with hready
  · exact runPending_of_find (find_afterStages f hready fun hs => hmaking hs (by simpa [hs] using hready))
      (f.together made s) (roles_afterStages _ stages s)
  · rw [not_or] at hready
    have hidle := find_of_manager_none (m := m) hready.1 (r := afterStages (f.record made) stages)
      (by simp [afterStages, hready.2])
    rw [Stage.runPending, run_of_find_none hidle, ite_self]

theorem runSchedule_concat (stages : List Stage) (s : Stage) :
    runSchedule m c (stages ++ [s]) = runSchedule m c stages >>= fun r => s.runPending m r := by
  rw [runSchedule, List.foldlM_append]
  congr
  funext r
  rw [List.foldlM_cons]
  cases s.runPending m r <;> rfl

theorem runSchedule_nil (f : Findings m c) : runSchedule m c [] = .ok (afterStages (f.record made) []) := by
  simp [runSchedule, afterStages, Findings.record]

/-- the record that a schedule comes to when the search for the provider does not fail -/
theorem runSchedule_eq (f : Findings m c) (hmaking : f.making = .ok made) (stages : List Stage) :
    runSchedule m c stages = .ok (afterStages (f.record made) stages) := by
  induction stages using List.reverseRecOn with
  | nil => exact runSchedule_nil f
  | append_singleton stages s ih => rw [runSchedule_concat, ih, ok_bind, runPending_afterStages f fun _ _ => hmaking]

/-- where the search for the provider fails, a schedule fails that searches -/
theorem runSchedule_eq_of_error (f : Findings m c) {cause : TypeFault} (hmaking : f.making = .error cause)
    (stages : List Stage) :
    runSchedule m c stages =
      if [.manager, .provider] <+ stages then .error (.fault cause) else .ok (afterStages (f.record none) stages) := by
  induction stages using List.reverseRecOn with
  | nil => exact runSchedule_nil f
  | append_singleton stages s ih =>
    rw [runSchedule_concat, ih]
    by_cases hfailed : [.manager, .provider] <+ stages
    · rw [if_pos hfailed, if_pos (pair_sublist_concat.2 (.inl hfailed)), error_bind]
    rw [if_neg hfailed, ok_bind]
    by_cases hnow : s = .provider ∧ .manager ∈ stages
    · obtain ⟨rfl, hmem⟩ := hnow
      rw [if_pos (pair_sublist_concat.2 (.inr ⟨rfl, hmem⟩))]
      have hfind := f.provider_finds (afterStages (f.record none) stages) rfl (if_pos hmem) (if_pos hmem)
      rw [hmaking] at hfind
      rw [Stage.runPending, run_of_find_error hfind, if_neg (by simp [Stage.roles, Roles.get, afterStages, Findings.record])]
    · have hstill : ¬ [.manager, .provider] <+ stages ++ [s] := fun h =>
        (pair_sublist_concat.1 h).elim hfailed fun h => hnow ⟨h.1.symm, h.2⟩
      rw [if_neg hstill]
      exact runPending_afterStages f fun hs hmem => absurd ⟨hs, hmem⟩ hnow

/-! ## All stages in order of dependence -/

/-- stages with roles of their own are not skipped -/
theorem foldlM_runPending_eq (hapart : stages.Pairwise fun a b => ∀ role ∈ b.roles, role ∉ a.roles)
    (hfree : ∀ s ∈ stages, ∀ role ∈ s.roles, r.get role = none) :
    stages.foldlM (Stage.runPending m) r = stages.foldlM (Stage.run m) r := by
  induction stages generalizing r with
  | nil => rfl
  | cons s rest ih =>
    obtain ⟨hs, hrest⟩ := List.pairwise_cons.1 hapart
    have hpending : s.runPending m r = s.run m r := by
      rw [Stage.runPending, if_neg]
      simpa using hfree s List.mem_cons_self
    rw [List.foldlM_cons, List.foldlM_cons, hpending]
    cases hrun : s.run m r with
    | error e => rfl
    | ok r₁ =>
      rw [ok_bind, ok_bind]
      refine ih hrest fun other hother role hrole => ?_
      exact get_eq_none_of_run hrun (hs other hother role hrole) (hfree other (List.mem_cons_of_mem s hother) role hrole)

theorem runStages_eq_runSchedule (m : Module) (c : TypeId) :
    runStages m { controller := some c } = runSchedule m c Stage.all :=
  (foldlM_runPending_eq (by decide) (by simp [Stage.all, Stage.roles, Roles.get])).symm

theorem exists_mem_of_find_error (h : m.Sound) (hc : r.controller = some c) {cause : TypeFault}
    (hfind : Stage.find m r .provider = .error cause) :
    ∃ i ∈ constructorInstructions m (some c), m.operandEntity? i.operand = .error cause := by
  obtain ⟨c', x, code, hc', hx, hcode, i, hi, hfails⟩ := exists_instruction_of_find_error h hfind
  rw [hc] at hc'
  cases hc'
  refine ⟨i, ?_, hfails⟩
  simp only [constructorInstructions, Option.bind_some, hx, hcode]
  exact hi

theorem get_afterStages (known : Roles) (stages : List Stage) (role : Role) {id : TypeId}
    (h : (afterStages known stages).get role = some id) : known.get role = some id := by
  cases role <;> simp_all [afterStages, Roles.get]

theorem afterStages_of_sublist (known : Roles) (hparser : [.manager, .parser] <+ stages)
    (hprovider : [.manager, .provider] <+ stages) : afterStages known stages = known := by
  have hmanager : Stage.manager ∈ stages := hparser.subset List.mem_cons_self
  simp [afterStages, hmanager, hparser, hprovider]

/-- **A schedule agrees with running every stage once.** Each step keeps what is filled, changes the roles of its stage only,
and fills all of them or none. Where running every stage once in order of dependence comes to a record, any schedule comes to
one that agrees with it, and to the same one if parser and provider are looked for at some time behind the manager. Where that
fails, an instruction of the controller's constructor has a token without an answer; a schedule then fails for the same cause if
it looks for the provider at some time behind the manager, and otherwise agrees with what is found before that search. -/
theorem runSchedule_agrees (m : Module) (h : m.Sound) (c : TypeId) (stages : List Stage) :
    (∀ r s r', Stage.runPending m r s = .ok r' → WritesOnce s r r') ∧
    (∀ final, runStages m { controller := some c } = .ok final →
      runSchedule m c stages = .ok (afterStages final stages) ∧
      (∀ role id, (afterStages final stages).get role = some id → final.get role = some id) ∧
      ([.manager, .parser] <+ stages → [.manager, .provider] <+ stages → afterStages final stages = final)) ∧
    ∀ e, runStages m { controller := some c } = .error e →
      (∃ cause, e = .fault cause ∧ RowFails m cause ∧
        ∃ i ∈ constructorInstructions m (some c), m.operandEntity? i.operand = .error cause) ∧
      ([.manager, .provider] <+ stages → runSchedule m c stages = .error e) ∧
      (¬ [.manager, .provider] <+ stages → ∃ known,
        [Stage.manager, .parser].foldlM (Stage.run m) { controller := some c } = .ok known ∧
        runSchedule m c stages = .ok (afterStages known stages) ∧
        ∀ role id, (afterStages known stages).get role = some id → known.get role = some id) := by
  obtain ⟨f⟩ := exists_findings h c
  refine ⟨fun r s r' => writesOnce_of_runPending, fun final hfinal => ?_, fun e he => ?_⟩
  · rw [runStages_eq_runSchedule] at hfinal
    cases hmaking : f.making with
    | error cause =>
      rw [runSchedule_eq_of_error f hmaking, if_pos (by decide)] at hfinal
      cases hfinal
    | ok made =>
      rw [runSchedule_eq f hmaking, afterStages_of_sublist _ (by decide) (by decide)] at hfinal
      cases hfinal
      exact ⟨runSchedule_eq f hmaking stages, fun role id => get_afterStages _ _ role, afterStages_of_sublist _⟩
  · rw [runStages_eq_runSchedule] at he
    cases hmaking : f.making with
    | ok made =>
      rw [runSchedule_eq f hmaking] at he
      cases he
    | error cause =>
      rw [runSchedule_eq_of_error f hmaking, if_pos (by decide)] at he
      cases he
      have hfind := f.provider_finds (f.record none) rfl rfl rfl
      rw [hmaking] at hfind
      have hschedule := runSchedule_eq_of_error f hmaking stages
      refine ⟨⟨cause, rfl, rowFails_of_find h hfind, exists_mem_of_find_error h rfl hfind⟩, fun hlooks => ?_, fun hno => ?_⟩
      · rw [hschedule, if_pos hlooks]
      · rw [if_neg hno] at hschedule
        refine ⟨f.record none, ?_, hschedule, fun role id => get_afterStages _ _ role⟩
        have hfront := runSchedule_eq_of_error f hmaking [.manager, .parser]
        rw [if_neg (by decide), runSchedule, foldlM_runPending_eq (by decide) (by simp [Stage.roles, Roles.get])] at hfront
        rw [hfront]
        simp [afterStages, Findings.record]

/-- a schedule that comes to the same record, one that does not search for the provider where that fails, and one that does -/
theorem runSchedule_agrees_askingRuntime :
    runSchedule (askingRuntime #[.ok none]) 0 [.parser, .manager, .provider, .manager, .parser] =
      .ok ⟨some 0, some 1, some 2, some 3, some 4, some 5⟩ ∧
    runSchedule (askingRuntime #[.error (.typeSpec 1)]) 0 [.provider, .manager, .parser] =
      .ok ⟨some 0, some 1, some 2, some 3, some 4, none⟩ ∧
    runSchedule (askingRuntime #[.error (.typeSpec 1)]) 0 [.manager, .provider, .parser] = .error (.fault (.typeSpec 1)) := by
  have hruns : runStages (askingRuntime #[.ok none]) { controller := some 0 } =
      .ok ⟨some 0, some 1, some 2, some 3, some 4, some 5⟩ := by decide +kernel
  have hfails : runStages (askingRuntime #[.error (.typeSpec 1)]) { controller := some 0 } =
      .error (.fault (.typeSpec 1)) := by decide +kernel
  have hfront : [Stage.manager, .parser].foldlM (Stage.run (askingRuntime #[.error (.typeSpec 1)])) { controller := some 0 } =
      .ok ⟨some 0, some 1, some 2, some 3, some 4, none⟩ := by decide +kernel
  have hsound := askingRuntime_sound
  refine ⟨?_, ?_, ?_⟩
  · have hagrees := (runSchedule_agrees _ (hsound #[.ok none]) 0 [.parser, .manager, .provider, .manager, .parser]).2.1 _ hruns
    rw [hagrees.1, hagrees.2.2 (by decide) (by decide)]
  · have hagrees := (runSchedule_agrees _ (hsound _) 0 [.provider, .manager, .parser]).2.2 _ hfails
    obtain ⟨known, hknown, hschedule, -⟩ := hagrees.2.2 (by decide)
    rw [hfront] at hknown
    cases hknown
    exact hschedule
  · exact ((runSchedule_agrees _ (hsound _) 0 [.manager, .provider, .parser]).2.2 _ hfails).2.1 (by decide)

end Unbundle.Matching
