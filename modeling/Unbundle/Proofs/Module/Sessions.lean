import Unbundle.Proofs.Module.Consistent
/-
Answers do not depend on what was asked before.

References and tokens are asked for one after the other, in any order. What a row of the specification table describes is kept
once it is read, and so is a member that is known by name; what cannot be read is not kept, and read again. `ask` answers one
request from what is kept or from the rows, and keeps what it reads. An answer says what the request stands for and, if that is
kept, in which entry. An entry holds one object for good, but several entries may hold the same one: a specification that
describes a definition, or what another row specifies, is that very object.

Results:
- `ask_step`: one request is answered as the rows alone answer it, and what is kept stays.
- `session_answers_afresh`: so it is with all requests of a session. Requests for one row are answered from one entry, or get no
  answer each time; a module that is built answers tokens in the same way.
-/
namespace Unbundle

namespace Module

open Metadata Signature

variable {rows : Metadata} {m : Module}

/-! ## Requests -/

/-- what is asked for: a reference of a signature, or a token -/
inductive Request where
  | type (c : CodedType)
  | token (t : Nat)

/-- a row whose answers are kept -/
inductive Slot where
  | specification (row : Nat)
  | member (row : Nat)
  deriving DecidableEq

/-- the entry that holds an object, by its number among those of its kind -/
inductive Object where
  | specification (number : Nat)
  | member (number : Nat)
  deriving DecidableEq

/-- the specifications and the named members that were read, the latest first -/
structure Kept where
  specifications : Store
  members : List (Nat × MemberRef)

/-- nothing is kept yet -/
def Kept.empty : Kept := ⟨[], []⟩

/-- the entry of a row -/
def Kept.object? (kept : Kept) : Slot → Option Object
  | .specification row => (numberOf kept.specifications row).map .specification
  | .member row => (numberOf kept.members row).map .member

/-- what a request stands for, and the entry that holds it -/
structure Answer where
  entity : Option Entity
  object : Option Object

/-- the row whose answers are kept, if a reference is to one -/
def slotOf (c : CodedType) : Option Slot := if c.tag = 2 then some (.specification c.row) else none

/-- the row whose answers are kept, if a request is for one -/
def Request.slot? : Request → Option Slot
  | .type c => slotOf c
  | .token t =>
    match tagOf? (t / 0x1000000) with
    | some tag => slotOf ⟨tag, t % 0x1000000⟩
    | none => if t / 0x1000000 = Table.memberRef then some (.member (t % 0x1000000)) else none

/-- answering requests with what is kept -/
abbrev Asking := StateT Kept (Except TypeFault)

/-- the answer to a reference -/
def askType (rows : Metadata) (c : CodedType) : Asking Answer := fun kept => do
  let (found, store) ← typeOf rows (specification rows) c kept.specifications
  let kept := { kept with specifications := store }
  return (⟨found.map .type, (slotOf c).bind kept.object?⟩, kept)

/-- the answer to a token of the table of named members -/
def askMember (rows : Metadata) (number : Nat) : Asking Answer := fun kept =>
  match kept.members.lookup number with
  | some ref => .ok (⟨some (.member ref), kept.object? (.member number)⟩, kept)
  | none =>
    match rowAt? rows.memberRefs number with
    | none => .ok (⟨none, none⟩, kept)
    | some row => do
      let (ref, store) ← buildMemberRef rows number row kept.specifications
      let kept : Kept := ⟨store, (number, ref) :: kept.members⟩
      return (⟨some (.member ref), kept.object? (.member number)⟩, kept)

/-- the answer to a request; the tokens of other members are answered from a module -/
def ask (rows : Metadata) (m : Module) : Request → Asking Answer
  | .type c => askType rows c
  | .token t =>
    match tagOf? (t / 0x1000000) with
    | some tag => askType rows ⟨tag, t % 0x1000000⟩
    | none =>
      if t / 0x1000000 = Table.memberRef then askMember rows (t % 0x1000000)
      else do return ⟨← m.entity? t, none⟩

/-- the answers to some requests, one after the other -/
def session (rows : Metadata) (m : Module) (requests : List Request) : Asking (List Answer) := requests.mapM (ask rows m)

/-- what a request stands for, with nothing kept -/
def askAfresh (rows : Metadata) (m : Module) : Request → Except TypeFault (Option Entity)
  | .type c => typeAfresh rows c
  | .token t =>
    match tagOf? (t / 0x1000000) with
    | some tag => typeAfresh rows ⟨tag, t % 0x1000000⟩
    | none => if t / 0x1000000 = Table.memberRef then memberAfresh rows (t % 0x1000000) else m.entity? t

/-- what the rows say that the entry of a slot is -/
def slotAfresh (rows : Metadata) : Slot → Except TypeFault (Option Entity)
  | .specification row => typeAfresh rows ⟨2, row⟩
  | .member number => memberAfresh rows number

/-! ## What is kept -/

/-- what is kept is what the rows say -/
structure Coherent (rows : Metadata) (kept : Kept) : Prop where
  known : Known rows kept.specifications
  members : ∀ entry ∈ kept.members, memberAfresh rows entry.1 = .ok (some (.member entry.2))

/-- every entry stays that of its row -/
def Kept.Grows (kept kept' : Kept) : Prop := ∀ slot o, kept.object? slot = some o → kept'.object? slot = some o

variable {kept kept' : Kept} {slot : Slot} {r : Request}

theorem Kept.Grows.refl (kept : Kept) : kept.Grows kept := fun _ _ h => h

theorem Kept.Grows.trans {kept'' : Kept} (h : kept.Grows kept') (h' : kept'.Grows kept'') : kept.Grows kept'' :=
  fun slot o ho => h' slot o (h slot o ho)

theorem coherent_empty (rows : Metadata) : Coherent rows .empty := ⟨by simp [Kept.empty, Known], by simp [Kept.empty]⟩

theorem Kept.grows_of (hspecifications : ∀ row n, numberOf kept.specifications row = some n →
      numberOf kept'.specifications row = some n)
    (hmembers : ∀ number n, numberOf kept.members number = some n → numberOf kept'.members number = some n) :
    kept.Grows kept' := by
  intro slot o h
  cases slot with
  | specification row =>
    obtain ⟨n, hn, rfl⟩ := Option.map_eq_some_iff.1 h
    exact Option.map_eq_some_iff.2 ⟨n, hspecifications row n hn, rfl⟩
  | member number =>
    obtain ⟨n, hn, rfl⟩ := Option.map_eq_some_iff.1 h
    exact Option.map_eq_some_iff.2 ⟨n, hmembers number n hn, rfl⟩

/-- a request for a row is answered as the row says -/
theorem askAfresh_of_slot (h : r.slot? = some slot) : askAfresh rows m r = slotAfresh rows slot := by
  have hslotOf : ∀ c, slotOf c = some slot → typeAfresh rows c = slotAfresh rows slot := fun c hc => by
    obtain ⟨tag, row⟩ := c
    rw [slotOf, Option.ite_none_right_eq_some, Option.some_inj] at hc
    obtain ⟨rfl, rfl⟩ := hc
    rfl
  cases r with
  | type c => exact hslotOf c h
  | token t =>
    rw [askAfresh]
    rw [Request.slot?] at h
    cases htag : tagOf? (t / 0x1000000) with
    | some tag =>
      rw [htag] at h
      exact hslotOf _ h
    | none =>
      rw [htag] at h
      dsimp only at h ⊢
      rw [Option.ite_none_right_eq_some, Option.some_inj] at h
      obtain ⟨htable, rfl⟩ := h
      rw [if_pos htable]
      rfl

/-- only what the rows describe is kept -/
theorem Coherent.object?_eq_none (h : Coherent rows kept) (hslot : slotAfresh rows slot = .ok none) :
    kept.object? slot = none := by
  cases slot with
  | specification row =>
    rw [Kept.object?, Option.map_eq_none_iff, numberOf_eq_none]
    rcases hkept : kept.specifications.lookup row with _ | t
    · rfl
    · have hknown := h.known.lookup hkept
      rw [slotAfresh, typeAfresh, typeOf, hknown] at hslot
      cases hslot
  | member number =>
    rw [Kept.object?, Option.map_eq_none_iff, numberOf_eq_none]
    rcases hkept : kept.members.lookup number with _ | ref
    · rfl
    · obtain ⟨front, back, heq, -⟩ := List.lookup_eq_some_iff.1 hkept
      have hmember := h.members (number, ref) (by simp [heq])
      rw [slotAfresh, hmember] at hslot
      cases hslot

/-! ## Answering one request -/

/-- a request is answered as the rows alone answer it, and with what is kept for its row -/
structure Faithful (rows : Metadata) (m : Module) (kept : Kept) (r : Request) (a : Answer) : Prop where
  afresh : askAfresh rows m r = .ok a.entity
  object_eq : a.object = r.slot?.bind kept.object?
  object_eq_none : ∀ slot, r.slot? = some slot → (a.object = none ↔ a.entity = none)

/-- an answer stays what it is when more is kept -/
theorem Faithful.grows {a : Answer} (h : Faithful rows m kept r a) (hgrows : kept.Grows kept') (hkept' : Coherent rows kept') :
    Faithful rows m kept' r a := by
  refine ⟨h.afresh, ?_, h.object_eq_none⟩
  have hobject := h.object_eq
  cases hslot : r.slot? with
  | none => rwa [hslot] at hobject
  | some slot =>
    rw [hslot, Option.bind_some] at hobject
    rw [Option.bind_some]
    cases ho : a.object with
    | some o =>
      rw [ho, eq_comm] at hobject
      exact (hgrows slot o hobject).symm
    | none =>
      have hnone := (h.object_eq_none slot hslot).1 ho
      refine (hkept'.object?_eq_none ?_).symm
      rw [← askAfresh_of_slot hslot (m := m), h.afresh, hnone]

theorem askType_step (h : rows.Acyclic) (hkept : Coherent rows kept) (c : CodedType) (hslot : r.slot? = slotOf c)
    (hafresh : askAfresh rows m r = typeAfresh rows c) : ∃ a kept', askType rows c kept = .ok (a, kept') ∧
      Coherent rows kept' ∧ kept.Grows kept' ∧ Faithful rows m kept' r a := by
  obtain ⟨found, store, hrun, hknown, hfound⟩ := ComesTo.exists_ok
    (comesTo_typeOf (c := c) fun _ => comesTo_specification_of_acyclic h c.row) hkept.known
  have hkeeps := keepsObjects_typeOf (fun _ => keepsObjects_specification rows c.row) _ _ _ hrun
  have hkept' : Coherent rows { kept with specifications := store } := ⟨hknown, hkept.members⟩
  have hanswer : askAfresh rows m r = .ok (found.map .type) := by rw [hafresh, typeAfresh, hfound]; rfl
  refine ⟨_, _, by rw [askType, hrun]; rfl, hkept', Kept.grows_of hkeeps fun _ _ h => h, hanswer, ?_, fun slot hr => ?_⟩
  · rw [hslot]
  rw [← hslot, hr]
  cases found with
  | none => simpa using hkept'.object?_eq_none (askAfresh_of_slot hr ▸ hanswer)
  | some t =>
    rw [hslot, slotOf, Option.ite_none_right_eq_some, Option.some_inj] at hr
    obtain ⟨htag, rfl⟩ := hr
    rw [typeOf, htag] at hrun
    have hlookup := lookup_of_specification hrun
    simp [Kept.object?, numberOf_eq_none, hlookup]

theorem askMember_step (h : rows.Acyclic) (hkept : Coherent rows kept) (number : Nat) (hslot : r.slot? = some (.member number))
    (hafresh : askAfresh rows m r = memberAfresh rows number) : ∃ a kept', askMember rows number kept = .ok (a, kept') ∧
      Coherent rows kept' ∧ kept.Grows kept' ∧ Faithful rows m kept' r a := by
  cases hlookup : kept.members.lookup number with
  | some ref =>
    obtain ⟨front, back, heq, -⟩ := List.lookup_eq_some_iff.1 hlookup
    have hmember := hkept.members (number, ref) (by simp [heq])
    refine ⟨_, kept, by rw [askMember, hlookup], hkept, Kept.Grows.refl kept, hafresh.trans hmember, ?_, fun slot hr => ?_⟩
    · rw [hslot]
      rfl
    · simp [Kept.object?, numberOf_eq_none, hlookup]
  | none =>
    cases hrow : rowAt? rows.memberRefs number with
    | none =>
      have hmember : memberAfresh rows number = .ok none := by rw [memberAfresh, hrow]
      refine ⟨_, kept, by rw [askMember, hlookup, hrow], hkept, Kept.Grows.refl kept, hafresh.trans hmember, ?_,
        fun slot hr => by simp⟩
      rw [hslot]
      exact (hkept.object?_eq_none (show slotAfresh rows (.member number) = .ok none from hmember)).symm
    | some row =>
      obtain ⟨ref, store, hrun, hknown, href⟩ := ComesTo.exists_ok
        (comesTo_memberWith (comesTo_specification_of_acyclic h) number row) hkept.known
      have hkeeps := keepsObjects_memberWith (keepsObjects_specification rows) number row _ _ _ hrun
      have hmember : memberAfresh rows number = .ok (some (.member ref)) := by
        rw [memberAfresh, hrow]
        dsimp only
        rw [href]
        rfl
      have hask : askMember rows number kept = .ok (⟨some (.member ref), some (.member kept.members.length)⟩,
          ⟨store, (number, ref) :: kept.members⟩) := by
        rw [askMember, hlookup, hrow]
        dsimp only
        rw [buildMemberRef_eq, hrun]
        simp [Kept.object?, numberOf_cons_self]
      refine ⟨_, _, hask, ⟨hknown, List.forall_mem_cons.2 ⟨hmember, hkept.members⟩⟩, Kept.grows_of hkeeps fun other n hn => ?_,
        hafresh.trans hmember, ?_, fun slot hr => by simp⟩
      · have hne : number ≠ other := by
          rintro rfl
          rw [numberOf_eq_none.2 hlookup] at hn
          cases hn
        exact (numberOf_cons_of_ne ref hne).trans hn
      · simp [hslot, Kept.object?, numberOf_cons_self]

/-- a token of none of the tables whose rows are kept is always answered -/
theorem exists_entity? {t : Nat} (htag : tagOf? (t / 0x1000000) = none) (hmember : t / 0x1000000 ≠ Table.memberRef) :
    ∃ found, m.entity? t = .ok found := by
  have htypeSpec : t / 0x1000000 ≠ Table.typeSpec := fun heq => by
    rw [heq] at htag
    cases htag
  simp only [entity?, if_neg htypeSpec, if_neg hmember]
  split_ifs <;> exact ⟨_, rfl⟩

/-- one request is answered as the rows alone answer it, and everything kept stays -/
theorem ask_step (h : rows.Acyclic) (hkept : Coherent rows kept) (m : Module) (r : Request) :
    ∃ a kept', ask rows m r kept = .ok (a, kept') ∧ Coherent rows kept' ∧ kept.Grows kept' ∧ Faithful rows m kept' r a := by
  cases r with
  | type c => exact askType_step h hkept c rfl rfl
  | token t =>
    cases htag : tagOf? (t / 0x1000000) with
    | some tag =>
      have hask : ask rows m (.token t) = askType rows ⟨tag, t % 0x1000000⟩ := by rw [ask, htag]
      rw [hask]
      exact askType_step h hkept _ (by rw [Request.slot?, htag]) (by rw [askAfresh, htag])
    | none =>
      by_cases hmember : t / 0x1000000 = Table.memberRef
      · have hask : ask rows m (.token t) = askMember rows (t % 0x1000000) := by
          rw [ask, htag]
          exact if_pos hmember
        rw [hask]
        exact askMember_step h hkept _ (by rw [Request.slot?, htag]; exact if_pos hmember)
          (by rw [askAfresh, htag]; exact if_pos hmember)
      · obtain ⟨found, hfound⟩ := exists_entity? (m := m) htag hmember
        have hask : ask rows m (.token t) kept = .ok (⟨found, none⟩, kept) := by
          rw [ask, htag]
          dsimp only
          rw [if_neg hmember, hfound]
          rfl
        have hslot : (Request.token t).slot? = none := by
          rw [Request.slot?, htag]
          exact if_neg hmember
        refine ⟨_, kept, hask, hkept, Kept.Grows.refl kept, ?_, by rw [hslot]; rfl, by simp [hslot]⟩
        rw [askAfresh, htag]
        exact (if_neg hmember).trans hfound

/-- what is kept answers a whole session as each request alone -/
theorem session_run (h : rows.Acyclic) (hkept : Coherent rows kept) (m : Module) (requests : List Request) :
    ∃ answers kept', session rows m requests kept = .ok (answers, kept') ∧ Coherent rows kept' ∧ kept.Grows kept' ∧
      List.Forall₂ (Faithful rows m kept') requests answers := by
  induction requests generalizing kept with
  | nil => exact ⟨[], kept, rfl, hkept, Kept.Grows.refl kept, .nil⟩
  | cons r rest ih =>
    obtain ⟨a, kept₁, hask, hkept₁, hgrows₁, ha⟩ := ask_step h hkept m r
    obtain ⟨answers, kept', hrest, hkept', hgrows, hanswers⟩ := ih hkept₁
    refine ⟨a :: answers, kept', ?_, hkept', hgrows₁.trans hgrows, .cons (ha.grows hgrows hkept') hanswers⟩
    rw [session, List.mapM_cons]
    show (ask rows m r kept >>= fun p => _) = _
    rw [hask]
    show (session rows m rest kept₁ >>= fun p => _) = _
    rw [hrest]
    rfl

/-! ## Modules that are built -/

variable {contents : Contents} {name : String}

theorem tagOf?_cases {table tag : Nat} (h : tagOf? table = some tag) : table = Table.typeDef ∧ tag = 0 ∨
    table = Table.typeRef ∧ tag = 1 ∨ table = Table.typeSpec ∧ tag = 2 := by
  unfold tagOf? at h
  split at h
  · exact .inl ⟨rfl, (Option.some_inj.1 h).symm⟩
  · exact .inr (.inl ⟨rfl, (Option.some_inj.1 h).symm⟩)
  · exact .inr (.inr ⟨rfl, (Option.some_inj.1 h).symm⟩)
  · cases h

/-- a module that is built answers tokens as its rows do -/
theorem entity?_build (h : rows.Acyclic) (hm : build name rows contents = .ok m) (t : Nat) :
    m.entity? t = askAfresh rows m (.token t) := by
  obtain ⟨store, hknown, hsize, htypeRefs, htypeSpecs, hmemberRefs⟩ := tables_of_build hm
  rw [askAfresh]
  cases htag : tagOf? (t / 0x1000000) with
  | some tag =>
    obtain ⟨htable, rfl⟩ | ⟨htable, rfl⟩ | ⟨htable, rfl⟩ := tagOf?_cases htag
    · exact entity?_of_typeDef htable hsize
    · exact entity?_of_typeRef htable htypeRefs
    · exact entity?_of_typeSpec h hknown htable htypeSpecs
  | none =>
    dsimp only
    split_ifs with htable
    · exact entity?_of_memberRef h hknown htable hmemberRefs
    · rfl

/-- **Answers do not depend on what was asked before.** If no specification refers back to itself, every session of requests is
answered, each request as its rows answer it with nothing kept. Requests for one row of the specifications or of the named
members are answered from the same entry each time, or have no answer each time. A module that is built from the rows answers
tokens in the same way. -/
theorem session_answers_afresh (rows : Metadata) (h : rows.Acyclic) :
    (∀ (m : Module) (requests : List Request), ∃ answers kept, session rows m requests .empty = .ok (answers, kept) ∧
      List.Forall₂ (fun r a => askAfresh rows m r = .ok a.entity) requests answers ∧
      ∀ first ∈ requests.zip answers, ∀ second ∈ requests.zip answers, ∀ slot, first.1.slot? = some slot →
        (first.2.object = none ↔ first.2.entity = none) ∧
        (second.1.slot? = some slot → second.2.object = first.2.object ∧ second.2.entity = first.2.entity)) ∧
    ∀ name contents m, build name rows contents = .ok m → ∀ t, m.entity? t = askAfresh rows m (.token t) := by
  refine ⟨fun m requests => ?_, fun name contents m hm => entity?_build h hm⟩
  obtain ⟨answers, kept, hrun, -, -, hanswers⟩ := session_run h (coherent_empty rows) m requests
  refine ⟨answers, kept, hrun, hanswers.imp fun r a ha => ha.afresh, fun first hfirst second hsecond slot hslot => ?_⟩
  have hfirst := (List.forall₂_iff_zip.1 hanswers).2 hfirst
  have hsecond := (List.forall₂_iff_zip.1 hanswers).2 hsecond
  have hobject : first.2.object = kept.object? slot := by rw [hfirst.object_eq, hslot, Option.bind_some]
  refine ⟨hfirst.object_eq_none slot hslot, fun hsame => ⟨?_, ?_⟩⟩
  · rw [hsecond.object_eq, hsame, hobject, Option.bind_some]
  · have hentity := hsecond.afresh
    rw [askAfresh_of_slot hsame, ← askAfresh_of_slot hslot (m := m), hfirst.afresh] at hentity
    exact (Except.ok.inj hentity).symm

/-- a specification is asked for before and after the one that it mentions; one of the rows is not there -/
def chainedRequests : List Request :=
  [.type ⟨2, 2⟩, .token 0x1B000001, .token 0x0A000001, .type ⟨2, 9⟩, .type ⟨2, 2⟩, .token 0x0A000001]

theorem session_answers_afresh_chainedRows : chainedRows.Acyclic ∧ ∃ answers kept,
    session chainedRows .empty chainedRequests .empty = .ok (answers, kept) ∧
      List.Forall₂ (fun r a => askAfresh chainedRows .empty r = .ok a.entity) chainedRequests answers ∧
      answers.map (·.object) = [some (.specification 1), some (.specification 0), some (.member 0), none,
        some (.specification 1), some (.member 0)] ∧
      ∃ m, build "host" chainedRows ⟨fun _ => none, fun _ => []⟩ = .ok m ∧
        m.entity? 0x1B000001 = askAfresh chainedRows m (.token 0x1B000001) := by
  have hacyclic : chainedRows.Acyclic := acyclic_of_lt (by decide +kernel)
  obtain ⟨hsessions, hbuilt⟩ := session_answers_afresh chainedRows hacyclic
  obtain ⟨answers, kept, hrun, hanswers, -⟩ := hsessions .empty chainedRequests
  have hobjects : (session chainedRows .empty chainedRequests .empty).map (·.1.map (·.object)) =
      .ok [some (.specification 1), some (.specification 0), some (.member 0), none, some (.specification 1),
        some (.member 0)] := by
    decide +kernel
  rw [hrun] at hobjects
  obtain ⟨m, hm⟩ : ∃ m, build "host" chainedRows ⟨fun _ => none, fun _ => []⟩ = .ok m := ⟨_, rfl⟩
  exact ⟨hacyclic, answers, kept, hrun, hanswers, Except.ok.inj hobjects, m, hm, hbuilt _ _ m hm _⟩

end Module

end Unbundle
