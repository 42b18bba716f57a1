import Unbundle.Proofs.Matching.Fitting
import Unbundle.Proofs.Module.Building
import Unbundle.Proofs.Module.Tables
/-
The graph of a loaded module, as a whole.

A graph is consistent if each row of the type table has one definition, listed once and in row order, top-level or nested; if
whatever mentions a definition, at any depth of a type, mentions a listed one; and if members and the definitions that list them
know each other. What a token stands for has that token, unless it is a token of the table of specifications: such a token
stands for the type that its row specifies, and that may be a definition with a token of its own.

Results:
- `Linked.consistent`: a module that was built is consistent.
- `answered_entity?`: every token has an answer, and what the answers are.
- `registered_rolesOf`: matching gives roles to listed definitions only.
- `build_consistent`: all of this for every set of rows without circles of specifications.
-/
namespace Unbundle.Module

open Metadata Signature

variable {rows : Metadata} {m : Module} {id : TypeId}

/-! ## The definitions and their lists -/

/-- every definition that occurs in a type is one of the module -/
def Lists (m : Module) (t : TypeSig) : Prop := ∀ id ∈ t.definitions, id ∈ m.allTypes

/-- a module that is closed and agrees with itself and with the rows it is built from -/
structure Consistent (rows : Metadata) (m : Module) : Prop where
  /-- each row of the type table has a definition, and there are no others -/
  size_eq : m.definitions.size = rows.typeDefs.length
  definition : ∀ id row, rows.typeDefs[id]? = some row → ∃ t, m.definitions[id]? = some t ∧ t.space = row.space ∧
    t.name = row.name ∧ t.flags = row.flags ∧ t.token = Table.token Table.typeDef (id + 1)
  /-- each definition is listed once -/
  allTypes_perm : m.allTypes.Perm (List.range rows.typeDefs.length)
  topLevel_sorted : m.topLevel.Pairwise (· < ·)
  nested_sorted : m.nested.Pairwise (· < ·)
  mem_nested_iff : ∀ id, id ∈ m.nested ↔ ∃ outer, m.outer? id = some outer
  outer_mem : ∀ id outer, m.outer? id = some outer → outer ∈ m.allTypes
  fieldTypes : ∀ f ∈ m.fields, m.Lists f.type
  methodTypes : ∀ x ∈ m.methods, m.Lists x.returns ∧ ∀ t ∈ x.parameters, m.Lists t
  interfaces : ∀ t ∈ m.definitions, ∀ face ∈ t.interfaces, m.Lists face
  bases : ∀ t ∈ m.definitions, ∀ base ∈ t.base, m.Lists base
  fields : Owned m.definitions TypeDef.fields m.fields Field.owner
  methods : Owned m.definitions TypeDef.methods m.methods Method.owner

theorem mem_allTypes_iff {n : Nat} (h : m.allTypes.Perm (List.range n)) : id ∈ m.allTypes ↔ id < n := by
  rw [h.mem_iff, List.mem_range]

/-- listing the definitions lists each of them once -/
theorem allTypes_listTypes (m : Module) : m.listTypes.allTypes.Perm (List.range m.definitions.size) := by
  have h := List.filter_append_perm (m.isNested ·) (List.range m.definitions.size)
  exact List.perm_append_comm.trans h

theorem isNested_iff : m.isNested id ↔ ∃ outer, m.outer? id = some outer := Option.isSome_iff_exists

/-- a module that was built is consistent once its definitions are listed -/
theorem Linked.consistent (h : Linked rows m) : Consistent rows m.listTypes := by
  have hperm : m.listTypes.allTypes.Perm (List.range rows.typeDefs.length) := by
    rw [← h.size_eq]
    exact allTypes_listTypes m
  have hlists : ∀ t : TypeSig, t.Within rows.typeDefs.length → m.listTypes.Lists t := fun t ht id hid =>
    (mem_allTypes_iff hperm).2 (ht id hid)
  have hdescribes : ∀ t ∈ m.definitions, ∃ id, Describes rows id t := fun t ht => by
    obtain ⟨i, hi, hget⟩ := Array.getElem_of_mem ht
    exact ⟨i, h.describes i t (by rw [Array.getElem?_eq_getElem hi, hget])⟩
  exact {
    size_eq := h.size_eq
    definition := fun id row hrow => by
      have hlt : id < m.definitions.size := by
        rw [h.size_eq]
        exact (List.getElem?_eq_some_iff.1 hrow).1
      obtain ⟨⟨row', hrow', hspace, hname, hflags⟩, htoken, -⟩ := h.describes id _ (Array.getElem?_eq_getElem hlt)
      rw [hrow] at hrow'
      cases hrow'
      exact ⟨_, Array.getElem?_eq_getElem hlt, hspace, hname, hflags, htoken⟩
    allTypes_perm := hperm
    topLevel_sorted := List.pairwise_lt_range.filter _
    nested_sorted := List.pairwise_lt_range.filter _
    mem_nested_iff := fun id => by
      refine Iff.trans (b := id < m.definitions.size ∧ m.isNested id) (by simp [listTypes]) ?_
      rw [isNested_iff]
      refine ⟨fun hid => hid.2, fun hid => ⟨?_, hid⟩⟩
      obtain ⟨outer, houter⟩ := hid
      obtain ⟨t, ht, -⟩ := Option.bind_eq_some_iff.1 houter
      exact (Array.getElem?_eq_some_iff.1 ht).1
    outer_mem := fun id outer houter => by
      obtain ⟨t, ht, hto⟩ := Option.bind_eq_some_iff.1 houter
      exact (mem_allTypes_iff hperm).2 ((h.describes id t ht).outer outer hto)
    fieldTypes := fun f hf => hlists _ (h.fieldTypes f hf)
    methodTypes := fun x hx => ⟨hlists _ (h.methodTypes x hx).1, fun t ht => hlists _ ((h.methodTypes x hx).2 t ht)⟩
    interfaces := fun t ht face hface => by
      obtain ⟨id, hid⟩ := hdescribes t ht
      exact hlists _ (hid.interfaces face hface)
    bases := fun t ht base hbase => by
      obtain ⟨id, hid⟩ := hdescribes t ht
      exact hlists _ (hid.base base hbase)
    fields := h.fields
    methods := h.methods }

/-! ## Tokens -/

/-- the answer to a token: an entity that is part of the module and, specified types apart, has that token -/
def Answered (m : Module) (token : Nat) : Entity → Prop
  | .type sig => m.Lists sig ∧ (token / 0x1000000 ≠ Table.typeSpec →
      ∀ id, sig = .defined id → ∃ t, m.definitions[id]? = some t ∧ t.token = token)
  | .field place => ∃ f id t, m.fields[place]? = some f ∧ f.token = token ∧ f.owner = some id ∧ id ∈ m.allTypes ∧
      m.definitions[id]? = some t ∧ place ∈ t.fields
  | .method place => ∃ x id t, m.methods[place]? = some x ∧ x.token = token ∧ x.owner = some id ∧ id ∈ m.allTypes ∧
      m.definitions[id]? = some t ∧ place ∈ t.methods
  | .member ref => ref.token = token

theorem exists_of_lastPlace? {α : Type} {p : α → Bool} {pool : Array α} {place : Nat}
    (h : lastPlace? p pool = some place) : ∃ x, pool[place]? = some x ∧ p x := by
  have hp := List.find?_some h
  rwa [Option.any_eq_true] at hp

theorem row?_eq_some {α : Type} {pool : Array α} {row : Nat} {a : α} (h : row? pool row = some a) :
    0 < row ∧ pool[row - 1]? = some a := by
  unfold row? at h
  split_ifs at h with h0
  exact ⟨Nat.pos_of_ne_zero h0, h⟩

/-- what the rows of a module's references and specifications stand for is part of the module -/
structure Labelled (m : Module) : Prop where
  typeReferences : ∀ t ∈ m.typeReferences, ∃ space name, t = .named space name
  typeSpecs : ∀ (row : Nat) answer, m.typeSpecs[row]? = some answer →
    ∃ found, answer = .ok found ∧ ∀ t ∈ found, m.Lists t
  memberReferences : ∀ (row : Nat) answer, m.memberReferences[row]? = some answer →
    ∃ ref, answer = .ok ref ∧ ref.token = Table.token Table.memberRef (row + 1)

theorem token_eq {token table : Nat} (h : token / 0x1000000 = table) :
    Table.token table (token % 0x1000000) = token := by
  rw [Table.token, ← h]
  exact Nat.div_add_mod' token 0x1000000

/-- the member that a token stands for is listed by the definition that declares it -/
theorem Consistent.exists_lister (h : Consistent rows m) {α : Type} {listed : TypeDef → List Nat} {pool : Array α}
    {owner : α → Option TypeId} (howned : Owned m.definitions listed pool owner) {p : α → Bool} {place : Nat}
    (hplace : lastPlace? p pool = some place) : ∃ x id t, pool[place]? = some x ∧ p x ∧ owner x = some id ∧
      id ∈ m.allTypes ∧ m.definitions[id]? = some t ∧ place ∈ listed t := by
  obtain ⟨x, hx, hp⟩ := exists_of_lastPlace? hplace
  obtain ⟨id, t, howner, ht, hmem⟩ := howned.exists_lister place x hx
  refine ⟨x, id, t, hx, hp, howner, (mem_allTypes_iff h.allTypes_perm).2 ?_, ht, hmem⟩
  rw [← h.size_eq]
  exact (Array.getElem?_eq_some_iff.1 ht).1

theorem answered_definition (h : Consistent rows m) {token : Nat} (htable : token / 0x1000000 = Table.typeDef)
    (hrow : 0 < token % 0x1000000 ∧ token % 0x1000000 ≤ m.definitions.size) :
    Answered m token (.type (.defined (token % 0x1000000 - 1))) := by
  obtain ⟨hpos, hle⟩ := hrow
  have hlt : token % 0x1000000 - 1 < rows.typeDefs.length := by
    rw [← h.size_eq]
    exact Nat.sub_one_lt_of_le hpos hle
  refine ⟨fun id hid => ?_, fun _ id hid => ?_⟩
  · rw [TypeSig.definitions, List.mem_singleton] at hid
    rw [hid]
    exact (mem_allTypes_iff h.allTypes_perm).2 hlt
  · cases hid
    obtain ⟨t, ht, -, -, -, htoken⟩ := h.definition _ _ (List.getElem?_eq_getElem hlt)
    rw [Nat.sub_add_cancel hpos, token_eq htable] at htoken
    exact ⟨t, ht, htoken⟩

/-- every token has an answer, be it that it stands for nothing -/
theorem answered_entity? (h : Consistent rows m) (hl : Labelled m) (token : Nat) :
    ∃ found, m.entity? token = .ok found ∧ ∀ e ∈ found, Answered m token e := by
  unfold entity?
  dsimp only
  split_ifs with hmethod hfield htypeDef hrow htypeRef htypeSpec hmember
  · refine ⟨_, rfl, fun e he => ?_⟩
    obtain ⟨place, hplace, rfl⟩ := Option.map_eq_some_iff.1 he
    obtain ⟨x, id, t, hx, htoken, howner⟩ := h.exists_lister h.methods hplace
    exact ⟨x, id, t, hx, of_decide_eq_true htoken, howner⟩
  · refine ⟨_, rfl, fun e he => ?_⟩
    obtain ⟨place, hplace, rfl⟩ := Option.map_eq_some_iff.1 he
    obtain ⟨f, id, t, hf, htoken, howner⟩ := h.exists_lister h.fields hplace
    exact ⟨f, id, t, hf, of_decide_eq_true htoken, howner⟩
  · refine ⟨_, rfl, fun e he => ?_⟩
    cases he
    exact answered_definition h htypeDef hrow
  · exact ⟨_, rfl, by simp⟩
  · refine ⟨_, rfl, fun e he => ?_⟩
    obtain ⟨t, ht, rfl⟩ := Option.map_eq_some_iff.1 he
    obtain ⟨space, name, rfl⟩ := hl.typeReferences t (Array.mem_of_getElem? (row?_eq_some ht).2)
    exact ⟨by simp [Lists, TypeSig.definitions], by simp⟩
  · split
    · next sig hsig =>
      obtain ⟨found, hfound, hlists⟩ := hl.typeSpecs _ _ (row?_eq_some hsig).2
      cases hfound
      refine ⟨_, rfl, fun e he => ?_⟩
      obtain ⟨t, ht, rfl⟩ := Option.map_eq_some_iff.1 he
      exact ⟨hlists t ht, fun hother => absurd htypeSpec hother⟩
    · next cause hcause =>
      obtain ⟨found, hfound, -⟩ := hl.typeSpecs _ _ (row?_eq_some hcause).2
      cases hfound
    · exact ⟨_, rfl, by simp⟩
  · split
    · next ref href =>
      obtain ⟨hpos, hget⟩ := row?_eq_some href
      obtain ⟨ref', heq, htoken⟩ := hl.memberReferences _ _ hget
      cases heq
      refine ⟨_, rfl, fun e he => ?_⟩
      cases he
      rwa [Nat.sub_add_cancel hpos, token_eq hmember] at htoken
    · next cause hcause =>
      obtain ⟨ref, heq, -⟩ := hl.memberReferences _ _ (row?_eq_some hcause).2
      cases heq
    · exact ⟨_, rfl, by simp⟩
  · exact ⟨_, rfl, by simp⟩

/-! ## Matching -/

open Matching

/-- every type in a record of roles is a listed definition -/
def Registered (m : Module) (r : Roles) : Prop := ∀ role id, r.get role = some id → id ∈ m.allTypes

theorem Consistent.mem_allTypes (h : Consistent rows m) {t : TypeDef} (ht : m.definitions[id]? = some t) :
    id ∈ m.allTypes := by
  rw [mem_allTypes_iff h.allTypes_perm, ← h.size_eq]
  exact (Array.getElem?_eq_some_iff.1 ht).1

/-- a stage finds listed definitions only -/
theorem mem_allTypes_of_find (h : Consistent rows m) {r : Roles} {s : Stage} {ids : List TypeId}
    (hfind : s.find m r = .ok (some ids)) : ∀ id ∈ ids, id ∈ m.allTypes := by
  cases s with
  | manager =>
    obtain ⟨c, g, face, f, -, ⟨-, -, t, x, -, d, ht, -, -, -, hd, -⟩, rfl⟩ := find_manager_some hfind
    simp only [List.forall_mem_cons]
    exact ⟨h.mem_allTypes ht, h.mem_allTypes hd, by simp⟩
  | parser =>
    obtain ⟨p, e, f, ⟨-, t, x, only, element, ht, -, -, -, hfields, htype, -⟩, rfl⟩ := find_parser_some hfind
    -- the descriptor is known from the type of the parser's field only
    have hlists := h.fieldTypes only (mem_of_mem_fieldsOf (t := t) (by rw [hfields]; exact List.mem_singleton_self _))
    simp only [List.forall_mem_cons]
    refine ⟨h.mem_allTypes ht, hlists e ?_, by simp⟩
    rw [htype]
    simp [TypeSig.definitions, TypeSig.definitionsOfAll]
  | provider =>
    obtain ⟨g, face, i, made, -, -, ⟨-, -, -, -, t, -, -, -, -, ht, -⟩, rfl⟩ := find_provider_some hfind
    simp only [List.forall_mem_cons]
    exact ⟨h.mem_allTypes ht, by simp⟩

theorem registered_run (h : Consistent rows m) {r r' : Roles} {s : Stage} (hr : Registered m r)
    (hrun : s.run m r = .ok r') : Registered m r' := by
  rcases run_eq_ok hrun with rfl | ⟨ids, hfind, hfill⟩
  · exact hr
  obtain ⟨-, rfl⟩ := fill_eq_ok hfill
  intro role id hid
  rcases get_foldl_set hid with hold | hnew
  · exact hr role id hold
  · exact mem_allTypes_of_find h hfind id (List.of_mem_zip hnew).2

theorem registered_foldlM (h : Consistent rows m) (stages : List Stage) {r r' : Roles} (hr : Registered m r)
    (hrun : stages.foldlM (Stage.run m) r = .ok r') : Registered m r' := by
  induction stages generalizing r with
  | nil =>
    cases hrun
    exact hr
  | cons s rest ih =>
    rw [List.foldlM_cons] at hrun
    obtain ⟨r₁, hfirst, hrest⟩ := bind_eq_ok_iff.1 hrun
    exact ih (registered_run h hr hfirst) hrest

/-- matching a consistent module gives its own definitions roles, and nothing else -/
theorem registered_rolesOf (h : Consistent rows m) {r : Roles} (hr : rolesOf m = .ok r) : Registered m r := by
  unfold rolesOf at hr
  split at hr
  · cases hr
  · cases hr
    intro role id hid
    cases role <;> cases hid
  · next c hc =>
    refine registered_foldlM h Stage.all (fun role id hid => ?_) hr
    obtain ⟨t, ht, -⟩ := isController_of_controller? hc
    cases role <;> cases hid
    exact h.mem_allTypes ht

/-! ## Modules that are built -/

theorem exists_of_outcomes {α : Type} {n : Nat} {store : Store} {items : List (Resolving α)} {P : α → Prop} {place : Nat}
    {answer : Except TypeFault α} (hstore : StoreWithin n store) (h : (outcomes store items)[place]? = some answer)
    (hitems : ∀ item, items[place]? = some item → Answers n item P) : ∃ a, answer = .ok a ∧ P a := by
  simp only [outcomes, List.getElem?_toArray, List.getElem?_map] at h
  obtain ⟨item, hitem, rfl⟩ := Option.map_eq_some_iff.1 h
  obtain ⟨a, store', hrun, -, ha⟩ := hitems item hitem store hstore
  exact ⟨a, by rw [hrun]; rfl, ha⟩

theorem answers_buildMemberRef (h : rows.Acyclic) (number : Nat) (row : MemberRefRow) :
    Answers rows.typeDefs.length (buildMemberRef rows number row) fun ref =>
      ref.token = Table.token Table.memberRef number := by
  unfold buildMemberRef
  refine (answers_referenced h row.parent).bind fun parent _ => ?_
  dsimp only
  split
  · exact Answers.pure rfl
  split_ifs
  · exact Answers.pure rfl
  refine (answers_buildSignature h row.signature).bind fun found _ => ?_
  split
  · exact Answers.pure rfl
  · exact Answers.pure rfl

/-- what the rows of references and specifications stand for, looked up once the types are built -/
theorem labelled_outcomes (h : rows.Acyclic) {store : Store} (hstore : StoreWithin rows.typeDefs.length store)
    (hm : Consistent rows m) (htypeReferences : m.typeReferences = (rows.typeRefs.map fun r => .named r.space r.name).toArray)
    (htypeSpecs : m.typeSpecs =
      outcomes store ((List.range rows.typeSpecs.length).map fun place => specification rows (place + 1)))
    (hmemberReferences : m.memberReferences =
      outcomes store (rows.memberRefs.zipIdx.map fun entry => buildMemberRef rows (entry.2 + 1) entry.1)) :
    Labelled m where
  typeReferences t ht := by
    rw [htypeReferences, List.mem_toArray] at ht
    obtain ⟨r, -, rfl⟩ := List.mem_map.1 ht
    exact ⟨r.space, r.name, rfl⟩
  typeSpecs row answer hanswer := by
    rw [htypeSpecs] at hanswer
    obtain ⟨found, rfl, hfound⟩ := exists_of_outcomes hstore hanswer fun item hitem => by
      obtain ⟨place, -, rfl⟩ := List.mem_map.1 (List.mem_of_getElem? hitem)
      exact answers_specification h (place + 1)
    exact ⟨found, rfl, fun t ht id hid => (mem_allTypes_iff hm.allTypes_perm).2 (hfound t ht id hid)⟩
  memberReferences row answer hanswer := by
    rw [hmemberReferences] at hanswer
    refine exists_of_outcomes hstore hanswer fun item hitem => ?_
    obtain ⟨entry, hentry, rfl⟩ := Option.map_eq_some_iff.1 ((List.getElem?_map ..).symm.trans hitem)
    obtain ⟨r, -, rfl⟩ := Option.map_eq_some_iff.1 ((List.getElem?_zipIdx ..).symm.trans hentry)
    simpa using answers_buildMemberRef h (row + 1) r

/-- **Rows without circles of specifications make a closed and consistent module.** Each row of the type table has one
definition, listed once and in row order, among the nested ones exactly if it has a declaring type; whatever definition occurs
in a member, an interface or a base is a listed one; members and definitions know each other; every token has an answer, with
that token if it is no token of a specification; a specification's token is answered by what its row describes, read from the
rows alone; and matching gives roles to listed definitions only. -/
theorem build_consistent (name : String) (rows : Metadata) (contents : Contents) (h : rows.Acyclic) :
    ∃ m, build name rows contents = .ok m ∧ Consistent rows m ∧
      (∀ token, ∃ found, m.entity? token = .ok found ∧ ∀ e ∈ found, Answered m token e) ∧
      (∀ token, token / 0x1000000 = Table.typeSpec → ∃ found, specificationAfresh rows (token % 0x1000000) = .ok found ∧
        m.entity? token = .ok (found.map .type)) ∧
      ∀ r, rolesOf m = .ok r → ∀ role id, r.get role = some id → id ∈ m.allTypes := by
  obtain ⟨m, store, hbuild, hstore, hm⟩ := answers_buildTypes h contents name [] (by simp [StoreWithin])
  -- the tables that tokens lead to are filled in last, and change nothing about the definitions
  let filled : Module := {
    m with
    resources := rows.resources.map (buildResource contents)
    typeReferences := (rows.typeRefs.map fun r => TypeSig.named r.space r.name).toArray
    typeSpecs := outcomes store ((List.range rows.typeSpecs.length).map fun place => specification rows (place + 1))
    memberReferences := outcomes store (rows.memberRefs.zipIdx.map fun entry => buildMemberRef rows (entry.2 + 1) entry.1) }
  have hmodule : build name rows contents = .ok filled.listTypes := by
    simp only [build, hbuild]
    rfl
  have hfilled : Linked rows filled :=
    ⟨hm.size_eq, hm.describes, hm.fields, hm.methods, hm.fieldTypes, hm.methodTypes⟩
  have hconsistent := hfilled.consistent
  have hlabelled := labelled_outcomes h hstore hconsistent rfl rfl rfl
  refine ⟨filled.listTypes, hmodule, hconsistent, answered_entity? hconsistent hlabelled, fun token htable => ?_,
    fun r hr => registered_rolesOf hconsistent hr⟩
  obtain ⟨store', hknown, -, -, htypeSpecs, -⟩ := tables_of_build hmodule
  exact entity?_of_specification h hknown htable htypeSpecs

/-- an outer type with a field of the type it is generic over and a nested type whose method takes what a chain of two
specifications describes -/
def chainedRows : Metadata where
  typeRefs := [⟨"System.Collections.Generic", "List`1"⟩]
  typeDefs := [⟨0, "Outer", "App", none, [1, 9], []⟩, ⟨2, "Inner", "", some ⟨Table.typeSpec, 1⟩, [], [1]⟩]
  fields := [⟨1, "items", [0x06, 0x12, 0x0A]⟩]
  methods := [⟨0, 0x16, "Run", [0x00, 0x01, 0x01, 0x12, 0x0A]⟩]
  memberRefs := [⟨some ⟨Table.typeDef, 2⟩, ".ctor", [0x20, 0x00, 0x01]⟩]
  typeSpecs := [[0x15, 0x12, 0x05, 0x01, 0x12, 0x08], [0x1D, 0x12, 0x06]]
  nestings := [⟨2, 1⟩]

/-- a chain of two specifications is followed to its end: a member's type is an array of lists of the nested definition -/
theorem build_consistent_chainedRows : chainedRows.Acyclic ∧
    ∃ m, build "host" chainedRows ⟨fun _ => none, fun _ => []⟩ = .ok m ∧ Consistent chainedRows m ∧
      m.topLevel = [0] ∧ m.nested = [1] ∧ m.fields.map (·.type.definitions) = #[[1]] ∧
      m.entity? 0x04000001 = .ok (some (.field 0)) ∧ Answered m 0x04000001 (.field 0) ∧
      ∃ t, specificationAfresh chainedRows 2 = .ok (some t) ∧ t.definitions = [1] ∧
        m.entity? 0x1B000002 = .ok (some (.type t)) := by
  have hacyclic : chainedRows.Acyclic := acyclic_of_lt (by decide +kernel)
  obtain ⟨m, hm, hconsistent, htokens, hspecified, -⟩ :=
    build_consistent "host" chainedRows ⟨fun _ => none, fun _ => []⟩ hacyclic
  obtain ⟨m', hm', htopLevel, hnested, hfields, hfield⟩ : ∃ m', build "host" chainedRows ⟨fun _ => none, fun _ => []⟩ = .ok m' ∧
      m'.topLevel = [0] ∧ m'.nested = [1] ∧ m'.fields.map (·.type.definitions) = #[[1]] ∧
      m'.entity? 0x04000001 = .ok (some (.field 0)) := ⟨_, rfl, by decide +kernel, by decide +kernel, by decide +kernel, rfl⟩
  obtain rfl : m = m' := Except.ok.inj (hm.symm.trans hm')
  obtain ⟨found, hfound, hanswered⟩ := htokens 0x04000001
  obtain rfl : some (.field 0) = found := Except.ok.inj (hfield.symm.trans hfound)
  obtain ⟨t, ht, hdefinitions⟩ : ∃ t, specificationAfresh chainedRows 2 = .ok (some t) ∧ t.definitions = [1] :=
    ⟨_, rfl, by decide +kernel⟩
  obtain ⟨described, hdescribed, hspecification⟩ := hspecified 0x1B000002 rfl
  obtain rfl : some t = described := Except.ok.inj (ht.symm.trans hdescribed)
  exact ⟨hacyclic, m, hm, hconsistent, htopLevel, hnested, hfields, hfield, hanswered _ rfl, t, ht, hdefinitions,
    hspecification⟩

/-- one definition, and a specification that describes it -/
def aliasRows : Metadata where
  typeDefs := [⟨0, "A", "", none, [], []⟩]
  typeSpecs := [[0x12, 0x04]]

/-- a specification's token may stand for a definition, and that has another token -/
theorem exists_foreign_token : aliasRows.Acyclic ∧
    ∃ m t, build "host" aliasRows ⟨fun _ => none, fun _ => []⟩ = .ok m ∧
      m.entity? 0x1B000001 = .ok (some (.type (.defined 0))) ∧ m.definitions[0]? = some t ∧ t.token ≠ 0x1B000001 := by
  have hacyclic : aliasRows.Acyclic := acyclic_of_lt (by decide +kernel)
  exact ⟨hacyclic, _, _, rfl, rfl, rfl, by decide⟩

end Unbundle.Module
