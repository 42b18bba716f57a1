import Mathlib
/-
Circles in a relation.

An entry leads to a circle if steps of the relation lead from it to an entry that leads back to itself. What follows the relation
step by step comes to no end there; from an entry that leads to no circle it does, if only finitely many entries have a step.

Results:
- `LeadsToCircle.exists_step`: an entry that leads to a circle has a next entry that does.
- `leadsToCircle_of_pairwise`: a row of entries, each leading to the later ones, that names one of them twice leads to a circle.
- `acc_of_not_leadsToCircle`: steps that lead to no circle come to an end.
-/
namespace Unbundle

open Relation

variable {α : Type} {R : α → α → Prop} {a b : α}

/-- steps lead from an entry to one that leads back to itself -/
def LeadsToCircle (R : α → α → Prop) (a : α) : Prop := ∃ b, ReflTransGen R a b ∧ TransGen R b b

theorem LeadsToCircle.exists_step (h : LeadsToCircle R a) : ∃ b, R a b ∧ LeadsToCircle R b := by
  obtain ⟨c, hac, hcc⟩ := h
  rcases hac.cases_head with rfl | ⟨b, hab, hbc⟩
  · -- the entry itself leads back to itself, and so does the next one on that way
    obtain ⟨b, hab, hba⟩ := TransGen.head'_iff.1 hcc
    exact ⟨b, hab, a, hba, hcc⟩
  · exact ⟨b, hab, c, hbc, hcc⟩

/-- a row of entries that can be reached, each leading to the later ones, names one of them twice only on a circle -/
theorem leadsToCircle_of_pairwise {l : List α} (hl : l.Pairwise (TransGen R)) (hreach : ∀ b ∈ l, ReflTransGen R a b)
    (htwice : ¬ l.Nodup) : LeadsToCircle R a := by
  by_contra hno
  apply htwice
  refine hl.imp_of_mem fun {b c} hb _ hbc => ?_
  rintro rfl
  exact hno ⟨b, hreach b hb, hbc⟩

/-- steps that lead to no circle come to an end, if only finitely many entries have a step -/
theorem acc_of_not_leadsToCircle {s : Set α} (hs : s.Finite) (hR : ∀ a b, R a b → a ∈ s) (h : ¬ LeadsToCircle R a) :
    Acc (flip R) a := by
  by_contra hacc
  rw [acc_iff_isEmpty_descending_chain, not_isEmpty_iff] at hacc
  obtain ⟨f, rfl, hstep⟩ := hacc
  have hto (i k : ℕ) : ReflTransGen R (f i) (f (i + k)) := by
    induction k with
    | zero => exact .refl
    | succ k ih => exact ih.tail (hstep (i + k))
  -- a way without an end comes to one of finitely many entries twice
  have := hs.to_subtype
  obtain ⟨i, j, hne, hsame⟩ := Finite.exists_ne_map_eq_of_infinite fun n => (⟨f n, hR _ _ (hstep n)⟩ : s)
  have hsame : f i = f j := congrArg Subtype.val hsame
  have hcircle {i j : ℕ} (hlt : i < j) (hsame : f i = f j) : LeadsToCircle R (f 0) := by
    have hback : ReflTransGen R (f (i + 1)) (f i) := by
      have := hto (i + 1) (j - (i + 1))
      rwa [Nat.add_sub_cancel' hlt, ← hsame] at this
    have hreach := hto 0 i
    rw [Nat.zero_add] at hreach
    exact ⟨f i, hreach, TransGen.head' (hstep i) hback⟩
  rcases Nat.lt_or_gt_of_ne hne with hlt | hlt
  · exact h (hcircle hlt hsame)
  · exact h (hcircle hlt hsame.symm)

end Unbundle
