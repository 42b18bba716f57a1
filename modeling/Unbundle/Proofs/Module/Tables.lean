import Unbundle.Proofs.Module.Remembering
/-
What the tokens of a module that was built stand for.

The tables of references and specifications are read once the types are built, and tokens lead to what was read then. Without
circles of specifications that is what the rows say by themselves, however much the store holds.

Results:
- `tables_of_build`: the tables of a module that was built, by its rows.
- `entity?_of_typeDef`, `entity?_of_typeRef`, `entity?_of_typeSpec`, `entity?_of_memberRef`: tokens of each table stand for what
  their row says.
-/
namespace Unbundle.Module

open Metadata Signature

variable {rows : Metadata} {m : Module} {contents : Contents} {name : String} {t : Nat}

/-! ## What the rows say -/

/-- what a reference stands for, with nothing kept -/
def typeAfresh (rows : Metadata) (c : CodedType) : Except TypeFault (Option Entity) := do
  return (← typeOf rows (specificationAfresh rows) c).map .type

/-- the named member of a row, with nothing kept -/
def memberAfresh (rows : Metadata) (number : Nat) : Except TypeFault (Option Entity) :=
  match rowAt? rows.memberRefs number with
  | none => .ok none
  | some row => do return some (.member (← memberWith rows (specificationAfresh rows) number row))

/-! ## Rows of tables made from tables -/

/-- the row of a table that is made of another one place by place -/
theorem rowAt?_of_getElem? {α β : Type} {l : List α} {made : List β} (g : Nat → α → β)
    (h : ∀ place, made[place]? = l[place]?.map (g place)) (number : Nat) :
    rowAt? made number = (rowAt? l number).map (g (number - 1)) := by
  rw [rowAt?, rowAt?]
  split_ifs
  · rfl
  · exact h (number - 1)

theorem rowAt?_map {α β : Type} (f : α → β) (l : List α) (number : Nat) : rowAt? (l.map f) number = (rowAt? l number).map f :=
  rowAt?_of_getElem? (fun _ => f) (fun _ => List.getElem?_map ..) number

theorem rowAt?_range {α : Type} (l : List α) (number : Nat) :
    rowAt? (List.range l.length) number = (rowAt? l number).map fun _ => number - 1 := by
  refine rowAt?_of_getElem? (fun place _ => place) (fun place => ?_) number
  by_cases hlt : place < l.length
  · rw [List.getElem?_range hlt, List.getElem?_eq_getElem hlt]
    rfl
  · rw [List.getElem?_eq_none (by simpa using hlt), List.getElem?_eq_none (by simpa using hlt)]
    rfl

theorem rowAt?_zipIdx {α : Type} (l : List α) (number : Nat) :
    rowAt? l.zipIdx number = (rowAt? l number).map fun a => (a, number - 1) :=
  rowAt?_of_getElem? (fun place a => (a, place)) (fun place => by rw [List.getElem?_zipIdx, Nat.zero_add]) number

/-- the outcome for a row of a table, each of whose rows is read with the store -/
theorem row?_outcomes {α : Type} {store : Store} (items : List (Resolving α)) (number : Nat) :
    row? (outcomes store items) number = (rowAt? items number).map fun item => (item store).map (·.1) := by
  rw [← rowAt?_map, rowAt?, row?, outcomes, List.getElem?_toArray]

/-! ## Tokens -/

/-- the tables of a module that its tokens lead to -/
theorem tables_of_build (hm : build name rows contents = .ok m) : ∃ store, Known rows store ∧
    m.definitions.size = rows.typeDefs.length ∧
    m.typeReferences = (rows.typeRefs.map fun r => TypeSig.named r.space r.name).toArray ∧
    m.typeSpecs = outcomes store ((List.range rows.typeSpecs.length).map fun place => specification rows (place + 1)) ∧
    m.memberReferences = outcomes store (rows.memberRefs.zipIdx.map fun (row, place) => buildMemberRef rows (place + 1) row) := by
  obtain ⟨⟨m₀, store⟩, hrun, hm⟩ := bind_eq_ok_iff.1 hm
  cases hm
  rcases comesTo_buildTypes name rows contents [] (by simp [Known]) with
    ⟨m₁, store₁, hrun₁, hknown, hshaped, -⟩ | ⟨row, hfailed, -⟩
  · rw [hrun] at hrun₁
    cases hrun₁
    exact ⟨store, hknown, hshaped.size_eq, rfl, rfl, rfl⟩
  · rw [hrun] at hfailed
    cases hfailed

theorem entity?_of_typeDef (ht : t / 0x1000000 = Table.typeDef) (hsize : m.definitions.size = rows.typeDefs.length) :
    m.entity? t = typeAfresh rows ⟨0, t % 0x1000000⟩ := by
  have hentity : m.entity? t = .ok (if 0 < t % 0x1000000 ∧ t % 0x1000000 ≤ m.definitions.size then
      some (.type (.defined (t % 0x1000000 - 1))) else none) := by
    simp only [entity?, ht]
    rfl
  rw [hentity, hsize]
  cases hrow : rowAt? rows.typeDefs (t % 0x1000000) with
  | some row =>
    rw [if_pos (le_of_rowAt? hrow), typeAfresh, typeOf]
    dsimp only
    rw [hrow]
    rfl
  | none =>
    have hnot : ¬ (0 < t % 0x1000000 ∧ t % 0x1000000 ≤ rows.typeDefs.length) := fun hin => by
      obtain ⟨row, hsome⟩ := rowAt?_isSome_iff.2 hin
      rw [hrow] at hsome
      cases hsome
    rw [if_neg hnot, typeAfresh, typeOf]
    dsimp only
    rw [hrow]
    rfl

theorem entity?_of_typeRef (ht : t / 0x1000000 = Table.typeRef)
    (htypeRefs : m.typeReferences = (rows.typeRefs.map fun r => TypeSig.named r.space r.name).toArray) :
    m.entity? t = typeAfresh rows ⟨1, t % 0x1000000⟩ := by
  have hentity : m.entity? t = .ok ((row? m.typeReferences (t % 0x1000000)).map .type) := by
    simp only [entity?, ht]
    rfl
  rw [hentity, htypeRefs, row?, List.getElem?_toArray, ← rowAt?, rowAt?_map]
  rfl

theorem entity?_of_typeSpec (h : rows.Acyclic) {store : Store} (hknown : Known rows store) (ht : t / 0x1000000 = Table.typeSpec)
    (htypeSpecs : m.typeSpecs =
      outcomes store ((List.range rows.typeSpecs.length).map fun place => specification rows (place + 1))) :
    m.entity? t = typeAfresh rows ⟨2, t % 0x1000000⟩ := by
  have hentity : m.entity? t =
      ((row? m.typeSpecs (t % 0x1000000)).map fun answer => answer.map (·.map .type)).getD (.ok none) := by
    simp only [entity?, ht]
    rcases row? m.typeSpecs (t % 0x1000000) with _ | _ | _ <;> rfl
  rw [hentity, htypeSpecs, row?_outcomes, rowAt?_map, rowAt?_range, Option.map_map]
  cases hrow : rowAt? rows.typeSpecs (t % 0x1000000) with
  | none =>
    rw [typeAfresh, typeOf]
    dsimp only
    rw [specificationAfresh_of_none hrow]
    rfl
  | some blob =>
    obtain ⟨found, store', hrun, -, hfound⟩ :=
      ComesTo.exists_ok (comesTo_specification_of_acyclic h (t % 0x1000000)) hknown
    have hnumber : t % 0x1000000 - 1 + 1 = t % 0x1000000 := Nat.sub_add_cancel (le_of_rowAt? hrow).1
    simp only [Option.map_some, Function.comp_apply, hnumber, hrun, typeAfresh, typeOf, hfound]
    rfl

/-- a specification's token has an answer: the type that its row describes -/
theorem entity?_of_specification (h : rows.Acyclic) {store : Store} (hknown : Known rows store)
    (ht : t / 0x1000000 = Table.typeSpec) (htypeSpecs : m.typeSpecs =
      outcomes store ((List.range rows.typeSpecs.length).map fun place => specification rows (place + 1))) :
    ∃ found, specificationAfresh rows (t % 0x1000000) = .ok found ∧ m.entity? t = .ok (found.map .type) := by
  obtain ⟨found, -, -, -, hfound⟩ := ComesTo.exists_ok (comesTo_specification_of_acyclic h (t % 0x1000000)) hknown
  refine ⟨found, hfound, ?_⟩
  rw [entity?_of_typeSpec h hknown ht htypeSpecs, typeAfresh, typeOf, hfound]
  rfl

theorem entity?_of_memberRef (h : rows.Acyclic) {store : Store} (hknown : Known rows store) (ht : t / 0x1000000 = Table.memberRef)
    (hmemberRefs : m.memberReferences =
      outcomes store (rows.memberRefs.zipIdx.map fun (row, place) => buildMemberRef rows (place + 1) row)) :
    m.entity? t = memberAfresh rows (t % 0x1000000) := by
  have hentity : m.entity? t =
      ((row? m.memberReferences (t % 0x1000000)).map fun answer => answer.map (some <| .member ·)).getD (.ok none) := by
    simp only [entity?, ht]
    rcases row? m.memberReferences (t % 0x1000000) with _ | _ | _ <;> rfl
  rw [hentity, hmemberRefs, row?_outcomes, rowAt?_map, rowAt?_zipIdx, Option.map_map]
  cases hrow : rowAt? rows.memberRefs (t % 0x1000000) with
  | none =>
    rw [memberAfresh, hrow]
    rfl
  | some row =>
    obtain ⟨ref, store', hrun, -, href⟩ :=
      ComesTo.exists_ok (comesTo_memberWith (comesTo_specification_of_acyclic h) (t % 0x1000000) row) hknown
    have hnumber : t % 0x1000000 - 1 + 1 = t % 0x1000000 := Nat.sub_add_cancel (le_of_rowAt? hrow).1
    simp only [Option.map_some, Function.comp_apply, hnumber, buildMemberRef_eq, hrun, memberAfresh, hrow, href]
    rfl

end Unbundle.Module
