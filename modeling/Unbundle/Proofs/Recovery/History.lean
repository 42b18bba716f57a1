import Unbundle.Recovery
import Unbundle.Proofs.Manifest.Pulling
import Unbundle.Proofs.Matching.Reference
/-
Recoveries one after the other, on a module that changes in between.

A session is a module with the record of its recovery. In it the module is changed in any way, the events are cleared, or the
recovery is run, again and again. A ledger keeps much less: the module and the events, but nothing else of what earlier runs
found, so each of its runs is a first one.

Results:
- `run_eq`: a run gives what a first run gives, behind the events that were there.
- `ledger_run`: a session and its ledger make the same calls, with the same outcomes, in every history.
- `stopsAt_of_run`: what a run that the extraction ended leaves behind.
- `runs_forget`: both of these for all calls of all histories.
-/
namespace Unbundle.Recovery

open Manifest

/-! ## One run -/

section

variable {codec : Codec} {names : ResourceNames} {m : Module} {r : Recovery}

@[simp] theorem reset_start : reset start = start := rfl

theorem reset_eq (r : Recovery) :
    r.reset = { start.reset with diagnostics := r.diagnostics.append start.reset.diagnostics.events } := by
  simp [reset, start, Diagnostics.append, Diagnostics.empty]

/-- a run gives what a first run gives, behind the events that were there -/
theorem run_eq (codec : Codec) (names : ResourceNames) (m : Module) (r : Recovery) :
    run codec names m r =
      ({ (run codec names m start).1 with
          diagnostics := r.diagnostics.append (run codec names m start).1.diagnostics.events },
        (run codec names m start).2) := by
  simp only [run]
  cases detect? names m with
  | error cause => simp only [← reset_eq]
  | ok found =>
    cases found with
    | none => simp only [← reset_eq]
    | some found =>
      obtain ⟨place, controller⟩ := found
      simp only
      cases Matching.runStages m { controller := some controller } with
      | error cause => simp [reset, start, Diagnostics.append, Diagnostics.empty]
      | ok roles => simp [reset, start, add, Diagnostics.append, Diagnostics.empty]

end

/-! ## Runs that the extraction ends -/

/-- what the extraction of a document gave before a failure ended it: nothing if there is no document, and otherwise what the
children give that come before the first one to fail -/
inductive EndsAt (codec : Codec) (data : Bytes) :
    Except Xml.DocumentError Xml.Element → ExtractionError → List AssemblyInfo → List Event → Prop
  | document (cause : Xml.DocumentError) : EndsAt codec data (.error cause) (.document cause) [] []
  | child {root : Xml.Element} {front back : List Xml.Node} {child : Xml.Node} {cause : ExtractionError}
      {infos : List AssemblyInfo} {events : List Event} (hchildren : root.children = front ++ child :: back)
      (hfront : extractRoot codec data { root with children := front } = ⟨infos, events, none⟩)
      (hchild : Gives codec data child (.error cause)) : EndsAt codec data (.ok root) cause infos events

theorem endsAt_of_error {codec : Codec} {data : Bytes} {document : Except Xml.DocumentError Xml.Element}
    {cause : ExtractionError} (h : (extract codec data document).error = some cause) :
    EndsAt codec data document cause (extract codec data document).infos (extract codec data document).events := by
  cases document with
  | error cause' =>
    obtain rfl : ExtractionError.document cause' = cause := Option.some.inj h
    exact .document cause'
  | ok root =>
    simp only [extract] at h ⊢
    by_cases hname : Text.lower (Xml.localName root.name.expanded) = "manifest"
    · have hwhole (children : List Xml.Node) :
          extractRoot codec data { root with children } = fold codec data .empty children := extractRoot_of_name hname
      have hroot : extractRoot codec data root = fold codec data .empty root.children := hwhole root.children
      rw [hroot] at h ⊢
      obtain ⟨front, child, back, hchildren, hchild, hfront⟩ := error_fold_eq_some rfl h
      exact .child hchildren ((hwhole front).trans hfront) (gives_iff.2 hchild)
    · rw [extractRoot_of_other_name codec data hname] at h
      cases h

/-- what a run of the recovery leaves that the extraction ended: both resources and the roles are set, and modules and new
events are those of the entries before the failing one -/
def StopsAt (codec : Codec) (names : ResourceNames) (m : Module) (earlier : Diagnostics) (cause : ExtractionError)
    (r : Recovery) : Prop :=
  ∃ place controller events, detect? names m = .ok (some (place, controller)) ∧ r.located = some place ∧
    Matching.runStages m { controller := some controller } = .ok r.roles ∧
    r.diagnostics = earlier.append events ∧
    EndsAt codec (m.content place.payload) (Xml.parse (m.content place.manifest)) cause r.infos events

theorem stopsAt_of_run {codec : Codec} {names : ResourceNames} {m : Module} {r : Recovery} {cause : ExtractionError}
    (h : (run codec names m r).2 = some (.extraction cause)) :
    StopsAt codec names m r.diagnostics cause (run codec names m r).1 := by
  simp only [run] at h ⊢
  cases hdetect : detect? names m with
  | error cause' => simp [hdetect] at h
  | ok found =>
    cases found with
    | none => simp [hdetect] at h
    | some found =>
      obtain ⟨place, controller⟩ := found
      rw [hdetect] at h
      simp only at h ⊢
      cases hstages : Matching.runStages m { controller := some controller } with
      | error cause' => simp [hstages] at h
      | ok roles =>
        rw [hstages] at h
        have hfails : (extraction codec m place).error = some cause := by simpa using h
        exact ⟨place, controller, _, hdetect, rfl, hstages, rfl, endsAt_of_error hfails⟩

/-! ## Sessions -/

/-- what happens in a session -/
inductive Action where
  | change (f : Module → Module)
  | clear
  | recover

/-- a run in a session: the module as it was then, the events before, the record afterwards, and the failure that ended it -/
structure Call where
  module : Module
  earlier : Diagnostics
  recovery : Recovery
  error : Option RecoveryError

/-- a module with the record of its recovery, and the runs so far -/
structure Session where
  module : Module
  recovery : Recovery
  calls : List Call

namespace Session

/-- the session of a new resolver, whose sink may hold events already -/
def start (m : Module) (d : Diagnostics) : Session := ⟨m, { Recovery.start with diagnostics := d }, []⟩

/-- the session after a step -/
def step (codec : Codec) (names : ResourceNames) (s : Session) : Action → Session
  | .change f => { s with module := f s.module }
  | .clear => { s with recovery := { s.recovery with diagnostics := .empty } }
  | .recover =>
    let (recovery, error) := Recovery.run codec names s.module s.recovery
    { s with recovery, calls := s.calls ++ [⟨s.module, s.recovery.diagnostics, recovery, error⟩] }

/-- the session after some steps -/
def run (codec : Codec) (names : ResourceNames) (s : Session) (actions : List Action) : Session :=
  actions.foldl (step codec names) s

end Session

/-- a session without memory: the module, the events since they were cleared, and the runs so far -/
structure Ledger where
  module : Module
  events : Diagnostics
  calls : List Call

namespace Ledger

/-- the ledger after a step; a run starts with nothing, and its events go behind those that are there -/
def step (codec : Codec) (names : ResourceNames) (l : Ledger) : Action → Ledger
  | .change f => { l with module := f l.module }
  | .clear => { l with events := .empty }
  | .recover =>
    let (first, error) := Recovery.run codec names l.module Recovery.start
    let events := l.events.append first.diagnostics.events
    { l with events, calls := l.calls ++ [⟨l.module, l.events, { first with diagnostics := events }, error⟩] }

/-- the ledger after some steps -/
def run (codec : Codec) (names : ResourceNames) (l : Ledger) (actions : List Action) : Ledger :=
  actions.foldl (step codec names) l

end Ledger

/-- the ledger of a session: all that an earlier run found is forgotten, except its events -/
def Session.ledger (s : Session) : Ledger := ⟨s.module, s.recovery.diagnostics, s.calls⟩

section

variable (codec : Codec) (names : ResourceNames)

theorem ledger_step (s : Session) (a : Action) :
    (s.step codec names a).ledger = s.ledger.step codec names a := by
  cases a with
  | change f => rfl
  | clear => rfl
  | recover =>
    have hrun := run_eq codec names s.module s.recovery
    simp only [Session.step, Session.ledger, Ledger.step, hrun]

/-- a session and its ledger make the same calls in every history -/
theorem ledger_run (s : Session) (actions : List Action) :
    (s.run codec names actions).ledger = s.ledger.run codec names actions := by
  induction actions generalizing s with
  | nil => rfl
  | cons a rest ih =>
    have htail := ih (s.step codec names a)
    rw [ledger_step] at htail
    exact htail

/-- every call of a session is a run of the recovery from some record -/
theorem exists_run_of_mem_calls {s : Session} {actions : List Action} {c : Call}
    (hc : c ∈ (s.run codec names actions).calls) :
    c ∈ s.calls ∨ ∃ r : Recovery, r.diagnostics = c.earlier ∧ Recovery.run codec names c.module r = (c.recovery, c.error) := by
  induction actions generalizing s with
  | nil => exact .inl hc
  | cons a rest ih =>
    rcases ih (s := s.step codec names a) hc with hstep | hrun
    · cases a with
      | change f => exact .inl hstep
      | clear => exact .inl hstep
      | recover =>
        rcases List.mem_append.1 hstep with hold | hnew
        · exact .inl hold
        · obtain rfl := List.mem_singleton.1 hnew
          exact .inr ⟨s.recovery, rfl, rfl⟩
    · exact .inr hrun

/-- **A recovery forgets all earlier ones but their events.** Whatever is done to a module in between, and whether or not
earlier runs failed: the resources, roles and modules that a run leaves and the failure that ends it are those of a first run
on the module as it then is, and its events are those before it and then those of the first run. If the extraction ends it,
then the resources and roles are set and the modules are those before the failing entry. -/
theorem runs_forget (m : Module) (d : Diagnostics) (actions : List Action) :
    ((Session.start m d).run codec names actions).ledger = Ledger.run codec names ⟨m, d, []⟩ actions ∧
      ∀ c ∈ ((Session.start m d).run codec names actions).calls,
        c.recovery = { (Recovery.run codec names c.module Recovery.start).1 with
          diagnostics := c.earlier.append (Recovery.run codec names c.module Recovery.start).1.diagnostics.events } ∧
        c.error = (Recovery.run codec names c.module Recovery.start).2 ∧
        ∀ cause, c.error = some (.extraction cause) → StopsAt codec names c.module c.earlier cause c.recovery := by
  refine ⟨ledger_run codec names _ actions, fun c hc => ?_⟩
  rcases exists_run_of_mem_calls codec names hc with hold | ⟨r, hearlier, hrun⟩
  · cases hold
  · have heq := run_eq codec names c.module r
    rw [hrun, hearlier] at heq
    refine ⟨congrArg Prod.fst heq, congrArg Prod.snd heq, fun cause hcause => ?_⟩
    have hfails : (Recovery.run codec names c.module r).2 = some (.extraction cause) := by
      rw [hrun]
      exact hcause
    have hstops := stopsAt_of_run hfails
    rw [hrun, hearlier] at hstops
    exact hstops

end

/-- a codec that finds a module at the start of the payload only -/
def startCodec : Codec where
  inflate data offset _ _ := if offset = 0 then .ok data else .error (.invalid offset)
  identify _ := .ok ⟨"A", .dll⟩

/-- a bundle with two entries, at 0 and at 1 -/
def twoEntries : Module :=
  let manifest := "<manifest><assembly offset='0'/><assembly offset='1'/></manifest>"
  { Matching.askingRuntime #[.ok none] with
    resources := [⟨"payload", .embedded, [0x00]⟩, ⟨"manifest", .embedded, manifest.toList.map (UInt8.ofNat ·.toNat)⟩] }

/-- a session in which a run fails at its second entry and the next one finds no bundle any more -/
def failingSession : Session :=
  (Session.start twoEntries .empty).run startCodec ⟨"payload", "manifest"⟩
    [.recover, .change fun m => { m with resources := [] }, .recover]

theorem runs_forget_failingSession :
    failingSession.calls.map (fun c => (c.recovery.located, c.recovery.roles.complete, c.recovery.infos.length, c.error)) =
        [(some ⟨0, 1⟩, true, 1, some (.extraction (.payload (.invalid 1)))), (none, false, 0, none)] ∧
      ∃ c ∈ failingSession.calls, c.error = some (.extraction (.payload (.invalid 1))) ∧
        StopsAt startCodec ⟨"payload", "manifest"⟩ c.module c.earlier (.payload (.invalid 1)) c.recovery := by
  have hcalls : failingSession.calls.map
      (fun c => (c.recovery.located, c.recovery.roles.complete, c.recovery.infos.length, c.error)) =
        [(some ⟨0, 1⟩, true, 1, some (.extraction (.payload (.invalid 1)))), (none, false, 0, none)] := by decide +kernel
  obtain ⟨c, rest, hfirst, houtcome, -⟩ := List.map_eq_cons_iff.1 hcalls
  have hc : c ∈ failingSession.calls := by
    rw [hfirst]
    exact List.mem_cons_self
  have herror : c.error = some (.extraction (.payload (.invalid 1))) := by
    simp only [Prod.mk.injEq] at houtcome
    exact houtcome.2.2.2
  obtain ⟨-, hruns⟩ := runs_forget startCodec ⟨"payload", "manifest"⟩ twoEntries .empty
    [.recover, .change fun m => { m with resources := [] }, .recover]
  obtain ⟨-, -, hstops⟩ := hruns c hc
  exact ⟨hcalls, c, hc, herror, hstops _ herror⟩

end Unbundle.Recovery
