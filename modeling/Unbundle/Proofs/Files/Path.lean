import Mathlib
import Unbundle.Files.Path
/-
Paths and their components.

A component holds no slash, whatever text it was taken from. So the last component of a path that a text writes holds none, and
neither do the stem and the suffix that it splits into: a name that is made of them is one component again.

Results:
- `not_mem_of_mem_components`: no component holds a slash.
- `ofText_of_not_mem`: a text without a slash is a path of one component.
- `named_child`, `named_child_of_ne`: what is seen from a directory has a name without a slash.
-/
namespace Unbundle

namespace Path

theorem not_mem_of_mem_pieces {cs piece : List Char} (h : piece ∈ pieces cs) : '/' ∉ piece := by
  induction cs generalizing piece with
  | nil => simp_all [pieces]
  | cons c rest ih =>
    rw [pieces] at h
    split_ifs at h with hc
    · rcases List.mem_cons.1 h with rfl | hrest
      · simp
      · exact ih hrest
    · split at h
      · rw [List.mem_singleton.1 h]
        simpa using Ne.symm hc
      · next first others hpieces =>
        rw [hpieces] at ih
        rcases List.mem_cons.1 h with rfl | hrest
        · exact List.not_mem_cons_of_ne_of_not_mem (Ne.symm hc) (ih List.mem_cons_self)
        · exact ih (List.mem_cons_of_mem first hrest)

theorem not_mem_of_mem_components {text part : String} (h : part ∈ components text) : '/' ∉ part.toList := by
  obtain ⟨piece, hpiece, rfl⟩ := List.mem_map.1 h
  rw [String.toList_ofList]
  exact not_mem_of_mem_pieces (List.mem_of_mem_filter hpiece)

/-- a character other than a slash is in one of the pieces -/
theorem exists_mem_pieces {cs : List Char} {c : Char} (h : c ∈ cs) (hc : c ≠ '/') : ∃ piece ∈ pieces cs, c ∈ piece := by
  induction cs with
  | nil => simp at h
  | cons d rest ih =>
    rw [pieces]
    split_ifs with hd
    · have hrest : c ∈ rest := (List.mem_cons.1 h).resolve_left (hd ▸ hc)
      obtain ⟨piece, hpiece, hmem⟩ := ih hrest
      exact ⟨piece, List.mem_cons_of_mem _ hpiece, hmem⟩
    · split
      · next hpieces =>
        rcases List.mem_cons.1 h with rfl | hrest
        · exact ⟨[c], by simp⟩
        · obtain ⟨piece, hpiece, -⟩ := ih hrest
          simp [hpieces] at hpiece
      · next first others hpieces =>
        rcases List.mem_cons.1 h with rfl | hrest
        · exact ⟨c :: first, by simp⟩
        · obtain ⟨piece, hpiece, hmem⟩ := ih hrest
          rw [hpieces] at hpiece
          rcases List.mem_cons.1 hpiece with rfl | hothers
          · exact ⟨d :: piece, by simp, List.mem_cons_of_mem d hmem⟩
          · exact ⟨piece, List.mem_cons_of_mem _ hothers, hmem⟩

theorem pieces_of_not_mem {cs : List Char} (h : '/' ∉ cs) : pieces cs = [cs] := by
  induction cs with
  | nil => rfl
  | cons c rest ih =>
    rw [pieces, if_neg (List.ne_of_not_mem_cons h).symm, ih (List.not_mem_of_not_mem_cons h)]

/-- a text without a slash that is neither empty nor a dot is a path of one component -/
theorem ofText_of_not_mem {text : String} (h : '/' ∉ text.toList) (hempty : text.toList ≠ []) (hdot : text.toList ≠ ['.']) :
    ofText text = ⟨.here, [text]⟩ := by
  have hstart : text.toList.takeWhile (· = '/') = [] := by
    rw [List.takeWhile_eq_nil_iff]
    intro hlength
    have hhead : text.toList[0] ≠ '/' := fun heq => h (heq ▸ List.getElem_mem hlength)
    simpa using hhead
  rw [ofText, hstart, components, pieces_of_not_mem h]
  simp [hempty, hdot, PathStart.ofSlashes]

/-- the last component of the path holds no slash, as is so of every path that a text writes -/
def Named (p : Path) : Prop := '/' ∉ p.name.toList

theorem name_mem_parts (p : Path) (h : p.parts ≠ []) : p.name ∈ p.parts := by
  rw [name, List.getLast?_eq_some_getLast h]
  exact List.getLast_mem h

theorem named_of_forall {p : Path} (h : ∀ part ∈ p.parts, '/' ∉ part.toList) : p.Named := by
  by_cases hparts : p.parts = []
  · simp [Named, name, hparts]
  · exact h _ (name_mem_parts p hparts)

theorem named_ofText (text : String) : (ofText text).Named :=
  named_of_forall fun _ hpart => not_mem_of_mem_components hpart

theorem named_child_of_ne {directory : Path} {text : String} (h : components text ≠ []) : (directory.child text).Named := by
  have hparts : (directory.child text).parts = (if (ofText text).absolute then [] else directory.parts) ++ components text := by
    rw [child, join]
    split_ifs <;> rfl
  have hname : (directory.child text).name = (ofText text).name := by
    rw [name, hparts, List.getLast?_append_of_ne_nil _ h]
    rfl
  rw [Named, hname]
  exact named_ofText text

theorem named_child {directory : Path} (h : directory.Named) (text : String) : (directory.child text).Named := by
  by_cases hcomponents : components text = []
  · rw [child, join]
    split_ifs
    · exact named_ofText text
    · rw [Named, name, ofText, hcomponents, List.append_nil]
      exact h
  · exact named_child_of_ne hcomponents

theorem subset_of_splitName {name : String} {c : Char}
    (h : c ∈ (splitName name).1.toList ∨ c ∈ (splitName name).2.toList) : c ∈ name.toList ∨ c = '.' := by
  unfold splitName at h
  dsimp only at h
  split_ifs at h with hsplit
  · exact .inl (by simpa using h)
  · simp only [String.toList_ofList, List.mem_cons] at h
    rcases h with hfront | rfl | htail
    · exact .inl (List.mem_of_mem_take hfront)
    · exact .inr rfl
    · rw [List.mem_reverse] at htail
      exact .inl (List.mem_reverse.1 ((List.takeWhile_sublist _).mem htail))

end Path

end Unbundle
