import Unbundle.Proofs.Matching.Shapes
import Unbundle.Proofs.Module.Requests
/-
Nesting tables, and the types that they leave without a name.

Every row of the nesting table is taken as it stands: a definition is nested where the last row says that nests it. The rows may
nest a definition in itself, directly or through others. Following the declaring types of a definition comes to an end exactly
if it leads to no such circle, and the definition has a full name exactly then.

Results:
- `nestingEnds_iff`, `definitionName_failsIf`: a chain of declaring types ends, and a full name exists, exactly off the circles.
- `typeName_failsIf`: a type has a full name unless a definition in it leads to a circle.
- `isMethod_failsIf`: when comparing the signature of a method with texts gives an answer.
- `names_end_iff`: what the nesting table of a module that was built says about all of these.
-/
namespace Unbundle.Module

open Relation

variable {m : Module} {id : TypeId} {t : TypeSig}

/-! ## Chains of declaring types -/

/-- one definition is nested in another one -/
def NestedIn (m : Module) (a b : TypeId) : Prop := m.outer? a = some b

/-- following the declaring types of a definition comes back to one of them -/
def Encircled (m : Module) (id : TypeId) : Prop := LeadsToCircle m.NestedIn id

theorem Encircled.outer (h : m.Encircled id) : ∃ outer, m.outer? id = some outer ∧ m.Encircled outer := h.exists_step

theorem lt_size_of_outer? {outer : TypeId} (h : m.outer? id = some outer) : id < m.definitions.size := by
  obtain ⟨t, ht, -⟩ := Option.bind_eq_some_iff.1 h
  exact (Array.getElem?_eq_some_iff.1 ht).1

theorem NestedAlong.not_encircled {l : List TypeId} (h : m.NestedAlong id l) : ¬ m.Encircled id := by
  induction h with
  | outermost ho =>
    intro hcircle
    obtain ⟨outer, houter, -⟩ := hcircle.outer
    rw [ho] at houter
    cases houter
  | inside ho _ ih =>
    intro hcircle
    obtain ⟨outer, houter, hcircle⟩ := hcircle.outer
    rw [ho] at houter
    cases houter
    exact ih hcircle

/-- following the declaring types of a definition ends unless it comes back to one of them -/
theorem nestingEnds_iff : m.NestingEnds id ↔ ¬ m.Encircled id := by
  constructor
  · rintro ⟨l, hl⟩
    exact hl.not_encircled
  · intro h
    have hacc : Acc (flip m.NestedIn) id :=
      acc_of_not_leadsToCircle (Set.finite_lt_nat m.definitions.size) (fun a b hab => lt_size_of_outer? hab) h
    clear h
    -- from the outside in: the chain of a declaring type is there before those of the definitions in it
    induction hacc with
    | intro id _ ih =>
      cases ho : m.outer? id with
      | none => exact ⟨[id], .outermost ho⟩
      | some outer =>
        obtain ⟨l, hl⟩ := ih outer ho
        exact ⟨id :: l, .inside ho hl⟩

/-! ## Names -/

/-- the name of a definition in a circle is looked for without end -/
theorem Encircled.definitionNameWithin_error (h : m.Encircled id) (depth : Nat) :
    ∃ other, m.definitionNameWithin depth id = .error (.nesting other) := by
  induction depth generalizing id with
  | zero => exact ⟨id, rfl⟩
  | succ depth ih =>
    obtain ⟨outer, ho, houter⟩ := h.outer
    obtain ⟨t, ht, hto⟩ := Option.bind_eq_some_iff.1 ho
    obtain ⟨other, hother⟩ := ih houter
    exact ⟨other, by simp only [definitionNameWithin, ht, hto, hother]; rfl⟩

/-- a definition in a type leads to a circle -/
def Endless (m : Module) (t : TypeSig) : Prop := ∃ id ∈ t.definitions, m.Encircled id

/-- a computation fails because of a circle of declaring types if `circle` holds, and succeeds otherwise -/
def FailsIf (circle : Prop) {α : Type} (x : Except TypeFault α) : Prop :=
  circle ∧ (∃ id, x = .error (.nesting id)) ∨ ¬ circle ∧ ∃ a, x = .ok a

namespace FailsIf

variable {p q : Prop} {α β : Type} {x : Except TypeFault α}

theorem ok {a : α} (hp : ¬ p) : FailsIf p (.ok a : Except TypeFault α) := .inr ⟨hp, a, rfl⟩

theorem congr (h : FailsIf p x) (hpq : p ↔ q) : FailsIf q x := by
  rwa [← propext hpq]

theorem bind {f : α → Except TypeFault β} (h : FailsIf p x) (hf : ∀ a, x = .ok a → FailsIf q (f a)) :
    FailsIf (p ∨ q) (x >>= f) := by
  rcases h with ⟨hp, id, rfl⟩ | ⟨hp, a, rfl⟩
  · exact .inl ⟨.inl hp, id, rfl⟩
  · rcases hf a rfl with ⟨hq, hfail⟩ | ⟨hq, hok⟩
    · exact .inl ⟨.inr hq, hfail⟩
    · exact .inr ⟨by simp [hp, hq], hok⟩

/-- a step after which nothing fails -/
theorem map (h : FailsIf p x) (f : α → β) : FailsIf p (x >>= fun a => .ok (f a)) :=
  (h.bind fun _ _ => ok (p := False) not_false).congr (or_false p).to_iff

theorem ok_iff (h : FailsIf p x) : (∃ a, x = .ok a) ↔ ¬ p := by
  rcases h with ⟨hp, id, rfl⟩ | ⟨hp, hok⟩
  · simp [hp]
  · exact iff_of_true hok hp

end FailsIf

theorem definitionName_failsIf (id : TypeId) : FailsIf (m.Encircled id) (m.definitionName id) := by
  by_cases h : m.Encircled id
  · exact .inl ⟨h, h.definitionNameWithin_error _⟩
  · exact .inr ⟨h, definitionName_of_nestingEnds (nestingEnds_iff.2 h)⟩

theorem endless_defined : m.Endless (.defined id) ↔ m.Encircled id := by
  simp [Endless, TypeSig.definitions]

theorem endless_generic {element : TypeSig} {arguments : List TypeSig} :
    m.Endless (.generic element arguments) ↔ (∃ t ∈ arguments, m.Endless t) ∨ m.Endless element := by
  simp only [Endless, TypeSig.definitions, List.mem_append, TypeSig.mem_definitionsOfAll]
  constructor
  · rintro ⟨id, helement | ⟨t, ht, hid⟩, hcircle⟩
    · exact .inr ⟨id, helement, hcircle⟩
    · exact .inl ⟨t, ht, id, hid, hcircle⟩
  · rintro (⟨t, ht, id, hid, hcircle⟩ | ⟨id, helement, hcircle⟩)
    · exact ⟨id, .inr ⟨t, ht, hid⟩, hcircle⟩
    · exact ⟨id, .inl helement, hcircle⟩

mutual

/-- a type in which none is missing has a full name unless a definition in it leads to a circle -/
theorem typeName_failsIf : (t : TypeSig) → t.isWhole → FailsIf (m.Endless t) (m.typeName t)
  | .defined id, _ => by
    rw [typeName]
    exact (definitionName_failsIf id).congr endless_defined.symm
  | .named space name, _ => by
    rw [typeName]
    exact FailsIf.ok (by simp [Endless, TypeSig.definitions])
  | .param number ofMethod, _ => by
    rw [typeName]
    exact FailsIf.ok (by simp [Endless, TypeSig.definitions])
  | .generic element arguments, ht => by
    rw [TypeSig.isWhole, Bool.and_eq_true] at ht
    rw [typeName]
    refine FailsIf.congr ?_ endless_generic.symm
    refine (typeNames_failsIf arguments ht.2).bind fun inner _ => ?_
    exact (typeName_failsIf element ht.1).map _
  | .derived element suffix, ht => by
    rw [typeName]
    exact (typeName_failsIf element ht).map _
  | .absent, ht => by simp [TypeSig.isWhole] at ht

/-- so it is with the full names of some types -/
theorem typeNames_failsIf : (ts : List TypeSig) → TypeSig.areWhole ts →
    FailsIf (∃ t ∈ ts, m.Endless t) (m.typeNames ts)
  | [], _ => by
    rw [typeNames]
    exact FailsIf.ok (by simp)
  | t :: rest, hts => by
    rw [TypeSig.areWhole, Bool.and_eq_true] at hts
    rw [typeNames]
    refine FailsIf.congr ?_ (List.exists_mem_cons_iff ..).symm
    refine (typeName_failsIf t hts.1).bind fun name _ => ?_
    exact (typeNames_failsIf rest hts.2).map _

end

/-- comparing the signature of a method with texts goes on without end if the return type leads to a circle, or reads as the
text that it is compared with and a parameter leads to a circle -/
theorem isMethod_failsIf {x : Method} (hx : SignatureWhole x) (returns parameters : String) :
    FailsIf (m.Endless x.returns ∨ m.typeName x.returns = .ok returns ∧ ∃ t ∈ x.parameters, m.Endless t)
      (m.isMethod x returns parameters) := by
  have hpresent : x.returns.isPresent := by
    have hwhole := hx.1
    cases hreturns : x.returns <;> simp_all [TypeSig.isPresent, TypeSig.isWhole]
  simp only [isMethod, matchesSignature, Option.filter_some, hpresent, if_true]
  refine (typeName_failsIf x.returns hx.1).bind fun name hname => ?_
  by_cases hsame : name = returns
  · subst hsame
    rw [if_neg (not_not.2 rfl), hname]
    refine FailsIf.congr ?_ (and_iff_right rfl).symm
    exact (typeNames_failsIf x.parameters ((TypeSig.areWhole_iff _).2 hx.2)).map _
  · rw [if_pos hsame, hname]
    exact FailsIf.ok fun h => hsame (Except.ok.inj h.1)

end Unbundle.Module

namespace Unbundle

/-! ## The rows of the nesting table -/

/-- following the last rows that nest a definition comes back to a definition that it came from -/
def Metadata.NestsInCircle (rows : Metadata) (id : TypeId) : Prop :=
  LeadsToCircle (fun a b => rows.outerAmong rows.nestings a = some b) id

namespace Module

open Metadata Matching

variable {m : Module} {rows : Metadata} {id : TypeId}

theorem Shaped.encircled_iff (h : Shaped rows rows.nestings m) : m.Encircled id ↔ rows.NestsInCircle id := by
  have hsame : m.NestedIn = fun a b => rows.outerAmong rows.nestings a = some b := by
    funext a b
    rw [NestedIn, h.outer_eq]
  rw [Encircled, NestsInCircle, hsame]

/-- a module is sound if its nesting table makes no circle -/
theorem Shaped.sound (h : Shaped rows rows.nestings m) (hno : ∀ id, ¬ rows.NestsInCircle id) : m.Sound where
  nesting id := nestingEnds_iff.2 fun hcircle => hno id (h.encircled_iff.1 hcircle)
  fields f hf _ := h.fields f hf
  returns x hx _ := (h.methods x hx).1
  parameters x hx := (h.methods x hx).2

/-- building gives a module only with what `Built` says of it -/
theorem built_of_build {name : String} {contents : Contents} (h : build name rows contents = .ok m) : Built rows m := by
  rcases build_outcome name rows contents with ⟨-, row, hrow⟩ | ⟨-, m', hm', hbuilt⟩
  · rw [h] at hrow
    cases hrow
  · rw [h] at hm'
    cases hm'
    exact hbuilt

/-- **Names end exactly where the nesting table makes no circle.** In a module that was built each definition is nested where the
last row says that nests it in a definition. Its declaring types come to an end, and it has a full name, unless following those
rows comes back to a definition; then its name is looked for without end. A type has a full name if its definitions have one.
Comparing the signature of a method with texts goes on without end exactly if the return type mentions a definition without
name, or reads as its text and a parameter mentions one. If the table makes no circle, the module is sound: matching looks for a
controller with an answer, and no stage fails but for a token that names a specification made of itself. -/
theorem names_end_iff (name : String) (rows : Metadata) (contents : Contents) (m : Module)
    (h : build name rows contents = .ok m) :
    (∀ id, m.outer? id = rows.outerAmong rows.nestings id) ∧
    (∀ id, (m.NestingEnds id ↔ ¬ rows.NestsInCircle id) ∧
      ((∃ text, m.definitionName id = .ok text) ↔ ¬ rows.NestsInCircle id) ∧
      (rows.NestsInCircle id → ∀ depth, ∃ other, m.definitionNameWithin depth id = .error (.nesting other))) ∧
    (∀ t : TypeSig, t.isWhole → ((∃ text, m.typeName t = .ok text) ↔ ∀ id ∈ t.definitions, ¬ rows.NestsInCircle id)) ∧
    (∀ x ∈ m.methods, ∀ returns parameters, (∃ b, m.isMethod x returns parameters = .ok b) ↔
      (∀ id ∈ x.returns.definitions, ¬ rows.NestsInCircle id) ∧
      (m.typeName x.returns = .ok returns → ∀ t ∈ x.parameters, ∀ id ∈ t.definitions, ¬ rows.NestsInCircle id)) ∧
    ((∀ id, ¬ rows.NestsInCircle id) → m.Sound ∧ (∃ found, controller? m = .ok found) ∧
      ∀ (r : Roles) (s : Stage) cause, s.find m r = .error cause → ∃ row, cause = .typeSpec row) := by
  have hbuilt := built_of_build h
  have hcircle : ∀ id, m.Encircled id ↔ rows.NestsInCircle id := fun id => hbuilt.shaped.encircled_iff
  have hendless : ∀ t : TypeSig, ¬ m.Endless t ↔ ∀ id ∈ t.definitions, ¬ rows.NestsInCircle id := by
    intro t
    simp only [Endless, hcircle, not_exists, not_and]
  refine ⟨hbuilt.shaped.outer_eq, fun id => ⟨?_, ?_, fun hid => ?_⟩, fun t ht => ?_, fun x hx returns parameters => ?_,
    fun hno => ?_⟩
  · rw [nestingEnds_iff, hcircle]
  · rw [(definitionName_failsIf id).ok_iff, hcircle]
  · exact ((hcircle id).2 hid).definitionNameWithin_error
  · rw [(typeName_failsIf t ht).ok_iff, hendless]
  · rw [(isMethod_failsIf (hbuilt.shaped.methods x hx) returns parameters).ok_iff, not_or, hendless, not_and]
    simp only [not_exists, not_and, hendless]
  · have hsound := hbuilt.shaped.sound hno
    obtain ⟨found, hfound, -⟩ := controller?_spec hsound
    refine ⟨hsound, ⟨found, hfound⟩, fun r s cause hfind => ?_⟩
    rcases rowFails_of_find hsound hfind with hspec | hmember
    · exact hbuilt.typeSpecs cause hspec
    · exact hbuilt.memberReferences cause hmember

/-- two definitions, the second one nested as some rows say; its method takes itself -/
def pairedRows (nestings : List NestingRow) : Metadata where
  typeDefs := [⟨0, "Outer", "App", none, [], []⟩, ⟨2, "Inner", "", none, [], [1]⟩]
  methods := [⟨0, 0x16, "Run", [0x00, 0x01, 0x01, 0x12, 0x08]⟩]
  nestings

theorem outerAmong_pairedRows (nestings : List NestingRow) {id : Nat} (hid : 2 ≤ id) :
    (pairedRows nestings).outerAmong nestings id = none := by
  have hno : nestings.filter (fun row => decide ((pairedRows nestings).Nests id row)) = [] := by
    rw [List.filter_eq_nil_iff]
    intro row _ hrow
    obtain ⟨hinner, hle, -⟩ := of_decide_eq_true hrow
    have hlength : (pairedRows nestings).typeDefs.length = 2 := rfl
    omega
  rw [outerAmong, hno]
  rfl

/-- a definition that a row nests in itself has no name, unless a later row nests it elsewhere -/
theorem names_end_iff_pairedRows :
    (∃ m x, build "host" (pairedRows [⟨2, 2⟩]) ⟨fun _ => none, fun _ => []⟩ = .ok m ∧ x ∈ m.methods ∧
      (pairedRows [⟨2, 2⟩]).NestsInCircle 1 ∧ ¬ m.NestingEnds 1 ∧ (¬ ∃ text, m.definitionName 1 = .ok text) ∧
      (∃ b, m.isMethod x "System.Int32" "()" = .ok b) ∧ ¬ ∃ b, m.isMethod x "System.Void" "()" = .ok b) ∧
    ∃ m, build "host" (pairedRows [⟨2, 2⟩, ⟨2, 1⟩]) ⟨fun _ => none, fun _ => []⟩ = .ok m ∧ m.Sound ∧
      m.definitionName 1 = .ok "App.Outer/Inner" := by
  constructor
  · obtain ⟨m, x, hm, hmethods, hreturns, hparameters⟩ :
        ∃ m x, build "host" (pairedRows [⟨2, 2⟩]) ⟨fun _ => none, fun _ => []⟩ = .ok m ∧ m.methods = #[x] ∧
          x.returns = .named "System" "Void" ∧ x.parameters = [.defined 1] := ⟨_, _, rfl, rfl, rfl, rfl⟩
    have hx : x ∈ m.methods := by simp [hmethods]
    have hcircle : (pairedRows [⟨2, 2⟩]).NestsInCircle 1 := ⟨1, .refl, .single (by decide)⟩
    obtain ⟨-, hnames, -, hreads, -⟩ := names_end_iff _ _ _ m hm
    refine ⟨m, x, hm, hx, hcircle, fun hends => (hnames 1).1.1 hends hcircle, fun hname => (hnames 1).2.1.1 hname hcircle,
      (hreads x hx _ _).2 ⟨?_, fun hvoid => ?_⟩, fun hb => ?_⟩
    · simp [hreturns, TypeSig.definitions]
    · rw [hreturns, typeName] at hvoid
      exact absurd hvoid (by decide)
    · have hvoid : m.typeName x.returns = .ok "System.Void" := by
        rw [hreturns, typeName]
        decide
      refine ((hreads x hx _ _).1 hb).2 hvoid (.defined 1) (by simp [hparameters]) 1 ?_ hcircle
      simp [TypeSig.definitions]
  · obtain ⟨m, hm, hname⟩ : ∃ m, build "host" (pairedRows [⟨2, 2⟩, ⟨2, 1⟩]) ⟨fun _ => none, fun _ => []⟩ = .ok m ∧
        m.definitionName 1 = .ok "App.Outer/Inner" := ⟨_, rfl, by decide +kernel⟩
    have hstep : ∀ a b, (pairedRows [⟨2, 2⟩, ⟨2, 1⟩]).outerAmong [⟨2, 2⟩, ⟨2, 1⟩] a = some b → a = 1 ∧ b = 0 := by
      rintro (_ | _ | a) b h
      · cases h
      · cases h
        exact ⟨rfl, rfl⟩
      · rw [outerAmong_pairedRows _ (by omega)] at h
        cases h
    have hno : ∀ id, ¬ (pairedRows [⟨2, 2⟩, ⟨2, 1⟩]).NestsInCircle id := by
      intro id hcircle
      obtain ⟨b, hb, hcircle⟩ := hcircle.exists_step
      obtain ⟨c, hc, -⟩ := hcircle.exists_step
      obtain ⟨-, rfl⟩ := hstep _ _ hb
      obtain ⟨h, -⟩ := hstep _ _ hc
      cases h
    exact ⟨m, hm, ((names_end_iff _ _ _ m hm).2.2.2.2 hno).1, hname⟩

end Module

end Unbundle
