import Unbundle.Proofs.Matching.Fitting
/-
One type in two roles.

A record in which every role is filled may name the same type twice. Five pairs of roles are kept apart, by the number of
fields, by the interface flag or by a test of identity. For each of the ten other pairs there is a module in which one type
plays both roles: a list may hold its own class, an interface may have fields and constructors, and a type may have a second
constructor.

Results:
- `get_ne_of_apart`: two roles that are kept apart are never played by one type.
- `nodup_types_of_separate`: what keeps the other pairs of roles apart.
- `rolesOf_sharedRuntime`, `apart_iff`: three runtimes in which one type plays several roles, so that no other pair is kept
  apart.
- `rolesOf_distinct`: when the six types of a complete record are all different.
-/
namespace Unbundle

namespace Role

theorem mem_all (role : Role) : role ∈ all := by
  cases role <;> decide

/-- the pairs of roles that are kept apart -/
def apartPairs : List (Role × Role) :=
  [(.controller, .manager), (.controller, .xmlParser), (.manager, .xmlParser), (.manager, .streamProvider),
    (.streamProviderInterface, .xmlParser)]

/-- two roles are kept apart, whichever comes first -/
def Apart (a b : Role) : Prop := (a, b) ∈ apartPairs ∨ (b, a) ∈ apartPairs

instance (a b : Role) : Decidable (a.Apart b) := inferInstanceAs (Decidable (_ ∨ _))

end Role

namespace Matching

variable {m : Module} {r : Roles}

/-! ## Roles that are kept apart -/

section

variable (hr : Fitting m r) {c g face p s : TypeId}

include hr

/-- a controller has two fields -/
theorem fields_of_controller (hc : r.controller = some c) :
    ∃ t, m.definitions[c]? = some t ∧ (m.fieldsOf t).length = 2 := by
  obtain ⟨t, ht, hshape⟩ := hr.controller c hc
  exact ⟨t, ht, hshape.fields⟩

/-- a manager has two fields and is not the controller -/
theorem fields_of_manager (hg : r.manager = some g) :
    r.controller ≠ some g ∧ ∃ t, m.definitions[g]? = some t ∧ (m.fieldsOf t).length = 2 := by
  obtain ⟨c, face, f, hc, -, -, hother, t, -, -, -, ht, hfields, -⟩ := hr.manager g hg
  refine ⟨fun hsame => ?_, t, ht, hfields⟩
  rw [hc] at hsame
  cases hsame
  exact hother rfl

/-- a parser has one field and is not an interface -/
theorem fields_of_xmlParser (hp : r.xmlParser = some p) :
    ∃ t, m.definitions[p]? = some t ∧ (m.fieldsOf t).length = 1 ∧ ¬ t.isInterface := by
  obtain ⟨e, f, -, -, t, -, only, -, ht, hclass, -, -, hfields, -⟩ := hr.xmlParser p hp
  exact ⟨t, ht, by rw [hfields]; rfl, hclass⟩

theorem isInterface_of_interface (hface : r.streamProviderInterface = some face) :
    ∃ t, m.definitions[face]? = some t ∧ t.isInterface := by
  obtain ⟨c, g, f, -, -, -, -, -, -, -, t, -, -, -, -, ht, hinterface⟩ := hr.streamProviderInterface face hface
  exact ⟨t, ht, hinterface⟩

/-- a stream provider is not the manager, and implements the interface only -/
theorem interfaces_of_provider (hs : r.streamProvider = some s) :
    r.manager ≠ some s ∧ ∃ face t, r.streamProviderInterface = some face ∧ m.definitions[s]? = some t ∧
      t.interfaces = [.defined face] := by
  obtain ⟨g, face, i, hg, hface, -, hother, -, -, t, -, -, -, -, ht, hinterfaces⟩ := hr.streamProvider s hs
  refine ⟨fun hsame => ?_, face, t, hface, ht, hinterfaces⟩
  rw [hg] at hsame
  cases hsame
  exact hother rfl

end

theorem get_ne_of_mem_apartPairs (hr : Fitting m r) {a b : Role} (h : (a, b) ∈ Role.apartPairs)
    (hfilled : (r.get a).isSome) : r.get a ≠ r.get b := by
  obtain ⟨id, ha⟩ := Option.isSome_iff_exists.1 hfilled
  intro hsame
  have hb : r.get b = some id := hsame.symm.trans ha
  -- one definition does not have two fields and one field
  have hcount {t t' : TypeDef} (ht : m.definitions[id]? = some t) (ht' : m.definitions[id]? = some t')
      (htwo : (m.fieldsOf t).length = 2) : (m.fieldsOf t').length ≠ 1 := by
    rw [ht] at ht'
    cases ht'
    omega
  simp only [Role.apartPairs, List.mem_cons, Prod.mk.injEq, List.not_mem_nil, or_false] at h
  rcases h with ⟨rfl, rfl⟩ | ⟨rfl, rfl⟩ | ⟨rfl, rfl⟩ | ⟨rfl, rfl⟩ | ⟨rfl, rfl⟩
  · exact (fields_of_manager hr hb).1 ha
  · obtain ⟨t, ht, htwo⟩ := fields_of_controller hr ha
    obtain ⟨t', ht', hone, -⟩ := fields_of_xmlParser hr hb
    exact hcount ht ht' htwo hone
  · obtain ⟨-, t, ht, htwo⟩ := fields_of_manager hr ha
    obtain ⟨t', ht', hone, -⟩ := fields_of_xmlParser hr hb
    exact hcount ht ht' htwo hone
  · exact (interfaces_of_provider hr hb).1 ha
  · obtain ⟨t, ht, hinterface⟩ := isInterface_of_interface hr ha
    obtain ⟨t', ht', -, hclass⟩ := fields_of_xmlParser hr hb
    rw [ht] at ht'
    cases ht'
    exact hclass hinterface

theorem isSome_get_of_complete (h : r.complete) (role : Role) : (r.get role).isSome :=
  List.all_eq_true.1 h role role.mem_all

/-- two roles that are kept apart are never played by one type -/
theorem get_ne_of_apart (hr : Fitting m r) (hcomplete : r.complete) {a b : Role} (h : a.Apart b) : r.get a ≠ r.get b := by
  rcases h with hab | hba
  · exact get_ne_of_mem_apartPairs hr hab (isSome_get_of_complete hcomplete a)
  · exact (get_ne_of_mem_apartPairs hr hba (isSome_get_of_complete hcomplete b)).symm

/-! ## Types of their own -/

/-- what keeps the other roles apart as well: controller, manager and stream provider are classes, neither the controller nor
the parser implements a single interface of the module, and the descriptor of entries plays no other role -/
structure Separate (m : Module) (r : Roles) : Prop where
  classes : ∀ role ∈ [Role.controller, .manager, .streamProvider], ∀ id t, r.get role = some id →
    m.definitions[id]? = some t → ¬ t.isInterface
  implementers : ∀ role ∈ [Role.controller, .xmlParser], ∀ id t face, r.get role = some id →
    m.definitions[id]? = some t → t.interfaces ≠ [.defined face]
  entry : ∀ role ≠ Role.entryDescriptor, r.get role ≠ r.entryDescriptor

/-- in a complete record of types that are separate each type plays one role -/
theorem pairwise_get_ne (hr : Fitting m r) (hcomplete : r.complete) (h : Separate m r) :
    Role.all.Pairwise fun a b => r.get a ≠ r.get b := by
  have hapart (a b : Role) (hab : (a, b) ∈ Role.apartPairs) : r.get a ≠ r.get b :=
    get_ne_of_apart hr hcomplete (.inl hab)
  have hinterface {role : Role} (hrole : role ∈ [Role.controller, .manager, .streamProvider]) :
      r.get role ≠ r.get .streamProviderInterface := by
    intro hsame
    obtain ⟨id, hid⟩ := Option.isSome_iff_exists.1 (isSome_get_of_complete hcomplete role)
    obtain ⟨t, ht, hflag⟩ := isInterface_of_interface hr (hsame.symm.trans hid)
    exact h.classes role hrole id t hid ht hflag
  have hprovider {role : Role} (hrole : role ∈ [Role.controller, .xmlParser]) : r.get role ≠ r.get .streamProvider := by
    intro hsame
    obtain ⟨id, hid⟩ := Option.isSome_iff_exists.1 (isSome_get_of_complete hcomplete role)
    obtain ⟨-, face, t, -, ht, hinterfaces⟩ := interfaces_of_provider hr (hsame.symm.trans hid)
    exact h.implementers role hrole id t face hid ht hinterfaces
  have hentry {role : Role} (hrole : role ≠ .entryDescriptor) : r.get role ≠ r.get .entryDescriptor := h.entry role hrole
  simp only [Role.all, List.pairwise_cons, List.forall_mem_cons, List.not_mem_nil, false_imp_iff, implies_true, and_true,
    List.Pairwise.nil]
  refine ⟨⟨?_, ?_, ?_, ?_, ?_⟩, ⟨?_, ?_, ?_, ?_⟩, ⟨?_, ?_, ?_⟩, ⟨?_, ?_⟩, ?_⟩
  · exact hapart .controller .manager (by decide)
  · exact hinterface (by decide)
  · exact hapart .controller .xmlParser (by decide)
  · exact hentry (by decide)
  · exact hprovider (by decide)
  · exact hinterface (by decide)
  · exact hapart .manager .xmlParser (by decide)
  · exact hentry (by decide)
  · exact hapart .manager .streamProvider (by decide)
  · exact hapart .streamProviderInterface .xmlParser (by decide)
  · exact hentry (by decide)
  · exact (hinterface (by decide)).symm
  · exact hentry (by decide)
  · exact hprovider (by decide)
  · exact (hentry (by decide)).symm

/-- the types of a complete record are different exactly when no two roles name the same one -/
theorem nodup_types_iff (hcomplete : r.complete) : r.types.Nodup ↔ ∀ a b : Role, a ≠ b → r.get a ≠ r.get b := by
  have hget (role : Role) : ∃ id, r.get role = some id :=
    Option.isSome_iff_exists.1 (isSome_get_of_complete hcomplete role)
  choose ids hids using hget
  have htypes : r.types = Role.all.map ids := by
    rw [Roles.types, if_pos hcomplete]
    simp only [Role.all, List.filterMap_cons, hids, List.filterMap_nil, List.map_cons, List.map_nil]
  rw [htypes, List.nodup_map_iff_inj_on (by decide)]
  constructor
  · intro hinjective a b hab hsame
    rw [hids, hids] at hsame
    exact hab (hinjective a a.mem_all b b.mem_all (Option.some.inj hsame))
  · intro hne a _ b _ hsame
    by_contra hab
    exact hne a b hab (by rw [hids, hids, hsame])

theorem nodup_types_of_separate (hr : Fitting m r) (hcomplete : r.complete) (h : Separate m r) : r.types.Nodup := by
  rw [nodup_types_iff hcomplete]
  intro a b hab
  have hsymm : Std.Symm fun a b : Role => r.get a ≠ r.get b := ⟨fun _ _ hne => hne.symm⟩
  exact (pairwise_get_ne hr hcomplete h).forall a.mem_all b.mem_all hab

/-! ## Roles that are not -/

/-- a runtime in which the given types are interface, entry descriptor and stream provider: the interface is flagged as one and
taken by the manager's constructor, the parser's list holds the descriptor, and the object that the controller's constructor
makes is the provider -/
def sharedRuntime (face entry made : TypeId) : Module :=
  let m := askingRuntime #[]
  let m := { m with
    fields := m.fields.modify 4 fun f =>
      { f with type := .generic (.named "System.Collections.Generic" "List`1") [.defined entry] }
    methods := (m.methods.modify 3 fun x =>
      { x with parameters := [.named "System.Reflection" "Assembly", .defined face] }).modify 5 fun x =>
      { x with owner := some made } }
  let m := m.modifyType 2 fun t => { t with flags := 0 }
  let m := m.modifyType 5 fun t => { t with interfaces := [] }
  let m := m.modifyType face fun t => { t with flags := 0x20 }
  m.modifyType made fun t => { t with interfaces := [.defined face] }

/-- the roles in a runtime with the given types -/
def sharedRoles (face entry made : TypeId) : Roles := ⟨some 0, some 1, some face, some 3, some entry, some made⟩

theorem rolesOf_sharedRuntime : ∀ x ∈ [(0, 0, 0), (1, 1, 5), (2, 3, 3)],
    rolesOf (sharedRuntime x.1 x.2.1 x.2.2) = .ok (sharedRoles x.1 x.2.1 x.2.2) := by
  decide +kernel

/-- between them three runtimes let one type play any two roles that are not kept apart -/
theorem exists_shared {a b : Role} (hab : a ≠ b) (h : ¬ a.Apart b) : ∃ x ∈ [(0, 0, 0), (1, 1, 5), (2, 3, 3)],
    (sharedRoles x.1 x.2.1 x.2.2).get a = (sharedRoles x.1 x.2.1 x.2.2).get b := by
  revert hab h
  cases a <;> cases b <;> decide

/-- there is a module with one type in two roles exactly when they are not kept apart -/
theorem apart_iff {a b : Role} (hab : a ≠ b) :
    a.Apart b ↔ ∀ m r, rolesOf m = .ok r → r.complete → r.get a ≠ r.get b := by
  constructor
  · intro h m r hroles hcomplete
    exact get_ne_of_apart (fitting_of_rolesOf hroles) hcomplete h
  · intro hall
    by_contra hno
    obtain ⟨x, hx, hsame⟩ := exists_shared hab hno
    exact hall _ _ (rolesOf_sharedRuntime x hx) rfl hsame

/-- **Five pairs of roles are kept apart, ten are not.** Whatever the module, a complete record names two different types for
each of five pairs of roles. Its six types are all different exactly when it does so for the ten other pairs. This is the case
when controller, manager and stream provider are classes, neither controller nor parser implements a single interface of the
module and the descriptor of entries plays no other role. -/
theorem rolesOf_distinct (m : Module) (r : Roles) (h : rolesOf m = .ok r) (hcomplete : r.complete) :
    (∀ a b : Role, a.Apart b → r.get a ≠ r.get b) ∧
      (r.types.Nodup ↔ ∀ a b : Role, a ≠ b → ¬ a.Apart b → r.get a ≠ r.get b) ∧
      (Separate m r → r.types.Nodup) := by
  have hr := fitting_of_rolesOf h
  refine ⟨fun a b => get_ne_of_apart hr hcomplete, ?_, nodup_types_of_separate hr hcomplete⟩
  rw [nodup_types_iff hcomplete]
  constructor
  · intro hall a b hab _
    exact hall a b hab
  · intro hall a b hab
    by_cases hapart : a.Apart b
    · exact get_ne_of_apart hr hcomplete hapart
    · exact hall a b hab hapart

theorem sharedRuntime_separate : Separate (sharedRuntime 2 4 5) (sharedRoles 2 4 5) where
  classes := by
    have hall : ∀ role ∈ [Role.controller, .manager, .streamProvider], ∀ id ∈ (sharedRoles 2 4 5).get role,
        ∀ t ∈ (sharedRuntime 2 4 5).definitions[id]?, ¬ t.isInterface := by decide
    exact fun role hrole id t hid ht => hall role hrole id hid t ht
  implementers := by
    have hall : ∀ role ∈ [Role.controller, .xmlParser], ∀ id ∈ (sharedRoles 2 4 5).get role,
        ∀ t ∈ (sharedRuntime 2 4 5).definitions[id]?, t.interfaces.length = 0 := by decide
    intro role hrole id t face hid ht hsingle
    have hlength := hall role hrole id hid t ht
    rw [hsingle] at hlength
    cases hlength
  entry role hrole := by
    revert hrole
    cases role <;> decide

/-- in a runtime as it is meant to be the six types are different; with a parser that holds a list of its own kind they are
not -/
theorem rolesOf_distinct_sharedRuntime :
    rolesOf (sharedRuntime 2 4 5) = .ok (sharedRoles 2 4 5) ∧ (sharedRoles 2 4 5).types.Nodup ∧
      rolesOf (sharedRuntime 2 3 5) = .ok (sharedRoles 2 3 5) ∧ ¬ (sharedRoles 2 3 5).types.Nodup := by
  have hroles : rolesOf (sharedRuntime 2 4 5) = .ok (sharedRoles 2 4 5) := by decide +kernel
  have hroles' : rolesOf (sharedRuntime 2 3 5) = .ok (sharedRoles 2 3 5) := by decide +kernel
  obtain ⟨-, -, hseparate⟩ := rolesOf_distinct _ _ hroles rfl
  obtain ⟨-, hiff, -⟩ := rolesOf_distinct _ _ hroles' rfl
  refine ⟨hroles, hseparate sharedRuntime_separate, hroles', fun hnodup => ?_⟩
  exact hiff.1 hnodup .xmlParser .entryDescriptor (by decide) (by decide) rfl

end Matching

end Unbundle
