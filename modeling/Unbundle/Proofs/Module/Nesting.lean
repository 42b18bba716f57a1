import Mathlib
import Unbundle.Module.Names
/-
Chains of declaring types.

`m.NestedAlong id l` says that `l` lists the definition `id`, the type it is nested in, the type that one is nested in, and so
on up to a type that is nested in none. A definition has such a chain exactly when following its declaring types comes to an
end, and then it has only one.

Results:
- `NestedAlong.nodup`: no definition occurs twice in a chain.
- `NestedAlong.length_le`: a chain is no longer than the module has definitions, one place for a number without definition
  apart. This is why the bound that full names are computed with is never reached.
- `definitionName_of_nestingEnds`: a definition whose chain ends has a full name.
-/
namespace Unbundle.Module

variable {m : Module} {id : TypeId} {l : List TypeId}

/-- the type that a definition is nested in -/
def outer? (m : Module) (id : TypeId) : Option TypeId := (m.definitions[id]?).bind (·.outer)

/-- `l` is the chain of declaring types of a definition, from the definition itself outwards -/
inductive NestedAlong (m : Module) : TypeId → List TypeId → Prop
  | outermost {id : TypeId} (h : m.outer? id = none) : NestedAlong m id [id]
  | inside {id outer : TypeId} {l : List TypeId} (h : m.outer? id = some outer) (hl : NestedAlong m outer l) :
    NestedAlong m id (id :: l)

/-- following the declaring types of a definition comes to an end -/
def NestingEnds (m : Module) (id : TypeId) : Prop := ∃ l, m.NestedAlong id l

namespace NestedAlong

theorem unique {l' : List TypeId} (h : m.NestedAlong id l) (h' : m.NestedAlong id l') : l = l' := by
  induction h generalizing l' with
  | outermost ho =>
    cases h' with
    | outermost => rfl
    | inside ho' => rw [ho] at ho'; cases ho'
  | inside ho _ ih =>
    cases h' with
    | outermost ho' => rw [ho] at ho'; cases ho'
    | inside ho' hl' =>
      rw [ho] at ho'
      cases ho'
      rw [ih hl']

/-- each member of a chain has the rest of the chain for its own -/
theorem of_mem {x : TypeId} (h : m.NestedAlong id l) (hx : x ∈ l) : ∃ l', l' <:+ l ∧ m.NestedAlong x l' := by
  induction h with
  | outermost ho =>
    rw [List.mem_singleton] at hx
    subst hx
    exact ⟨_, List.suffix_refl _, .outermost ho⟩
  | inside ho hl ih =>
    rcases List.mem_cons.1 hx with rfl | hx
    · exact ⟨_, List.suffix_refl _, .inside ho hl⟩
    · obtain ⟨l', hsuffix, hl'⟩ := ih hx
      exact ⟨l', hsuffix.trans (List.suffix_cons _ _), hl'⟩

/-- no definition is nested in itself, however far out -/
theorem nodup (h : m.NestedAlong id l) : l.Nodup := by
  induction h with
  | outermost => simp
  | @inside id outer l ho hl ih =>
    refine List.nodup_cons.2 ⟨fun hmem => ?_, ih⟩
    -- the chain that starts at a second occurrence would be shorter than the one that starts at the first
    obtain ⟨l', hsuffix, hl'⟩ := hl.of_mem hmem
    have heq : l' = id :: l := hl'.unique (.inside ho hl)
    have hle := hsuffix.length_le
    rw [heq, List.length_cons] at hle
    omega

theorem lt_size_of_mem_dropLast {x : TypeId} (h : m.NestedAlong id l) (hx : x ∈ l.dropLast) :
    x < m.definitions.size := by
  induction h with
  | outermost => simp at hx
  | @inside id outer l ho hl ih =>
    have hne : l ≠ [] := by cases hl <;> simp
    rw [List.dropLast_cons_of_ne_nil hne] at hx
    rcases List.mem_cons.1 hx with rfl | hx
    · by_contra hlt
      simp [outer?, Array.getElem?_eq_none (Nat.le_of_not_lt hlt)] at ho
    · exact ih hx

/-- a chain is no longer than there are definitions, its outermost member apart -/
theorem length_le (h : m.NestedAlong id l) : l.length ≤ m.definitions.size + 1 := by
  have hnodup : l.dropLast.Nodup := h.nodup.sublist (List.dropLast_sublist l)
  have hsub : l.dropLast ⊆ List.range m.definitions.size := fun x hx =>
    List.mem_range.2 (h.lt_size_of_mem_dropLast hx)
  have hle := (hnodup.subperm hsub).length_le
  rw [List.length_dropLast, List.length_range] at hle
  omega

/-- a bound as long as the chain is enough to compute a full name -/
theorem definitionNameWithin_ok {depth : Nat} (h : m.NestedAlong id l) (hd : l.length ≤ depth) :
    ∃ name, m.definitionNameWithin depth id = .ok name := by
  induction h generalizing depth with
  | @outermost id ho =>
    obtain ⟨depth, rfl⟩ : ∃ d, depth = d + 1 := ⟨depth - 1, by simp at hd; omega⟩
    cases ht : m.definitions[id]? with
    | none => exact ⟨"", by simp only [definitionNameWithin, ht]⟩
    | some t =>
      have hto : t.outer = none := by simpa [outer?, ht] using ho
      exact ⟨TypeSig.qualified t.space t.name, by simp only [definitionNameWithin, ht, hto]⟩
  | @inside id outer l ho hl ih =>
    obtain ⟨depth, rfl⟩ : ∃ d, depth = d + 1 := ⟨depth - 1, by simp at hd; omega⟩
    obtain ⟨name, hname⟩ := ih (Nat.le_of_succ_le_succ hd)
    cases ht : m.definitions[id]? with
    | none => simp [outer?, ht] at ho
    | some t =>
      have hto : t.outer = some outer := by simpa [outer?, ht] using ho
      exact ⟨name ++ "/" ++ t.name, by simp only [definitionNameWithin, ht, hto, hname]; rfl⟩

end NestedAlong

/-- a definition whose chain of declaring types ends has a full name -/
theorem definitionName_of_nestingEnds (h : m.NestingEnds id) : ∃ name, m.definitionName id = .ok name := by
  obtain ⟨l, hl⟩ := h
  exact hl.definitionNameWithin_ok hl.length_le

end Unbundle.Module
