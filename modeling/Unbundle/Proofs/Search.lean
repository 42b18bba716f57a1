import Unbundle.Module.Basic
import Unbundle.Proofs.Outcome
/-
Searches through a list that may fail.

`Finds p l found` says what a search through `l` for an entry with an answer comes to, without saying how it is done: `found`
is an answer of the first entry that has one, or nothing when no entry has one. `p a b` reads "`b` is an answer of `a`".

Results:
- `Finds.unique`: when an entry has one answer at most, a search comes to one thing only.
- `finds_findSome?`, `finds_of_findSomeM?`, `finds_of_findM?`: the searches of the library come to that.
- `findSomeM?_eq_ok_iff`, `findSomeM?_eq_error_iff`: a search fails exactly when it reaches an entry on which its test fails;
  what stands behind the first answer is not tested.
- `findSome?_eq`, `findSomeM?_eq`, `rel_find?`, `agree_findM?`: searches through related lists come to the same.
-/
namespace Unbundle

variable {α β ε : Type}

/-- what a search comes to: an answer of the first entry that has one, or nothing when no entry has one -/
def Finds (p : α → β → Prop) (l : List α) : Option β → Prop
  | some b => ∃ front a back, l = front ++ a :: back ∧ p a b ∧ ∀ x ∈ front, ∀ y, ¬ p x y
  | none => ∀ x ∈ l, ∀ y, ¬ p x y

namespace Finds

variable {p : α → β → Prop} {l : List α} {a : α}

theorem nil : Finds p [] none := fun _ hx => absurd hx List.not_mem_nil

theorem head {b : β} (h : p a b) : Finds p (a :: l) (some b) :=
  ⟨[], a, l, rfl, h, fun _ hx => absurd hx List.not_mem_nil⟩

theorem tail {found : Option β} (ha : ∀ b, ¬ p a b) (h : Finds p l found) : Finds p (a :: l) found := by
  cases found with
  | none =>
    intro x hx
    rcases List.mem_cons.1 hx with rfl | hx
    · exact ha
    · exact h x hx
  | some b =>
    obtain ⟨front, c, back, rfl, hc, hfront⟩ := h
    refine ⟨a :: front, c, back, rfl, hc, fun x hx => ?_⟩
    rcases List.mem_cons.1 hx with rfl | hx
    · exact ha
    · exact hfront x hx

theorem exists_answer {b : β} (h : Finds p l (some b)) : ∃ a ∈ l, p a b := by
  obtain ⟨front, a, back, rfl, ha, _⟩ := h
  exact ⟨a, by simp, ha⟩

/-- a search comes to something -/
theorem exists_found (p : α → β → Prop) (l : List α) : ∃ found, Finds p l found := by
  induction l with
  | nil => exact ⟨none, nil⟩
  | cons a l ih =>
    by_cases ha : ∃ b, p a b
    · obtain ⟨b, hb⟩ := ha
      exact ⟨some b, head hb⟩
    · obtain ⟨found, h⟩ := ih
      exact ⟨found, tail (fun b hb => ha ⟨b, hb⟩) h⟩

/-- a search that finds something has not found nothing -/
theorem not_none {b : β} (h : Finds p l (some b)) : ¬ Finds p l none := by
  intro hn
  obtain ⟨a, ha, hb⟩ := h.exists_answer
  exact hn a ha b hb

/-- a search comes to one thing only, if each entry has one answer at most -/
theorem unique (hp : ∀ a b c, p a b → p a c → b = c) {found other : Option β} (h : Finds p l found)
    (ho : Finds p l other) : found = other := by
  cases found with
  | none =>
    cases other with
    | none => rfl
    | some c => exact absurd h ho.not_none
  | some b =>
    cases other with
    | none => exact absurd ho h.not_none
    | some c =>
      obtain ⟨front, a, back, rfl, hb, hfront⟩ := h
      obtain ⟨front', a', back', heq, hc, hfront'⟩ := ho
      -- neither of the two entries stands in front of the other
      rcases List.append_eq_append_iff.1 heq with ⟨more, rfl, hmore⟩ | ⟨more, rfl, hmore⟩
      · cases more with
        | nil =>
          obtain ⟨rfl, -⟩ := List.cons.inj hmore
          rw [hp a b c hb hc]
        | cons x more =>
          obtain ⟨rfl, -⟩ := List.cons.inj hmore
          exact absurd hb (hfront' a (by simp) b)
      · cases more with
        | nil =>
          obtain ⟨rfl, -⟩ := List.cons.inj hmore
          rw [hp a' b c hb hc]
        | cons x more =>
          obtain ⟨rfl, -⟩ := List.cons.inj hmore
          exact absurd hc (hfront a' (by simp) c)

end Finds

/-! ## The searches of the library -/

theorem finds_findSome? {f : α → Option β} {p : α → β → Prop} (l : List α) (hf : ∀ a b, f a = some b ↔ p a b) :
    Finds p l (l.findSome? f) := by
  induction l with
  | nil => exact Finds.nil
  | cons a l ih =>
    cases ha : f a with
    | none =>
      rw [List.findSome?_cons_of_isNone (by simp [ha])]
      refine ih.tail fun b hb => ?_
      rw [← hf, ha] at hb
      cases hb
    | some b =>
      rw [List.findSome?_cons, ha]
      exact Finds.head ((hf a b).1 ha)

theorem findSomeM?_cons_some {f : α → Except ε (Option β)} {a : α} {l : List α} {b : β} (h : f a = .ok (some b)) :
    (a :: l).findSomeM? f = .ok (some b) := by
  rw [List.findSomeM?_cons, h]
  rfl

theorem findSomeM?_cons_none {f : α → Except ε (Option β)} {a : α} {l : List α} (h : f a = .ok none) :
    (a :: l).findSomeM? f = l.findSomeM? f := by
  rw [List.findSomeM?_cons, h]
  rfl

theorem findSomeM?_cons_error {f : α → Except ε (Option β)} {a : α} {l : List α} {e : ε} (h : f a = .error e) :
    (a :: l).findSomeM? f = .error e := by
  rw [List.findSomeM?_cons, h]
  rfl

/-- a search that does not fail comes to what its test calls an answer -/
theorem finds_of_findSomeM? {f : α → Except ε (Option β)} {p : α → β → Prop} {l : List α} {found : Option β}
    (hf : ∀ a ∈ l, ∀ b, f a = .ok (some b) ↔ p a b) (h : l.findSomeM? f = .ok found) : Finds p l found := by
  induction l with
  | nil =>
    cases h
    exact Finds.nil
  | cons a l ih =>
    have htail : ∀ x ∈ l, ∀ b, f x = .ok (some b) ↔ p x b := fun x hx => hf x (List.mem_cons_of_mem a hx)
    cases ha : f a with
    | error e => rw [findSomeM?_cons_error ha] at h; cases h
    | ok o =>
      cases o with
      | some b =>
        rw [findSomeM?_cons_some ha] at h
        cases h
        exact Finds.head ((hf a List.mem_cons_self b).1 ha)
      | none =>
        rw [findSomeM?_cons_none ha] at h
        refine (ih htail h).tail fun b hb => ?_
        rw [← hf a List.mem_cons_self, ha] at hb
        cases hb

/-- a search fails exactly at an entry on which its test fails and in front of which there is no answer -/
theorem findSomeM?_eq_error_iff {f : α → Except ε (Option β)} {l : List α} {e : ε} :
    l.findSomeM? f = .error e ↔
      ∃ front a back, l = front ++ a :: back ∧ f a = .error e ∧ ∀ x ∈ front, f x = .ok none := by
  induction l with
  | nil =>
    constructor
    · intro h
      cases h
    · rintro ⟨front, a, back, h, -⟩
      simp at h
  | cons c l ih =>
    constructor
    · intro h
      cases hc : f c with
      | error e' =>
        rw [findSomeM?_cons_error hc] at h
        cases h
        exact ⟨[], c, l, rfl, hc, by simp⟩
      | ok o =>
        cases o with
        | some b =>
          rw [findSomeM?_cons_some hc] at h
          cases h
        | none =>
          rw [findSomeM?_cons_none hc] at h
          obtain ⟨front, a, back, rfl, ha, hfront⟩ := ih.1 h
          exact ⟨c :: front, a, back, rfl, ha, by simpa [hc] using hfront⟩
    · rintro ⟨front, a, back, heq, ha, hfront⟩
      cases front with
      | nil =>
        obtain ⟨rfl, rfl⟩ := List.cons.inj heq
        exact findSomeM?_cons_error ha
      | cons x front =>
        obtain ⟨rfl, rfl⟩ := List.cons.inj heq
        rw [findSomeM?_cons_none (hfront c List.mem_cons_self)]
        exact ih.2 ⟨front, a, back, rfl, ha, fun y hy => hfront y (List.mem_cons_of_mem c hy)⟩

/-- a search succeeds exactly when its test succeeds on every entry that has no answer in front of it -/
theorem findSomeM?_eq_ok_iff {f : α → Except ε (Option β)} {l : List α} :
    (∃ found, l.findSomeM? f = .ok found) ↔
      ∀ front a back, l = front ++ a :: back → (∀ x ∈ front, ∀ b, f x ≠ .ok (some b)) → ∃ o, f a = .ok o := by
  constructor
  · rintro ⟨found, h⟩ front
    induction front generalizing l with
    | nil =>
      rintro a back rfl -
      cases ha : f a with
      | ok o => exact ⟨o, rfl⟩
      | error e =>
        rw [List.nil_append, findSomeM?_cons_error ha] at h
        cases h
    | cons x front ih =>
      rintro a back rfl hfront
      refine ih ?_ a back rfl fun y hy => hfront y (List.mem_cons_of_mem x hy)
      cases hx : f x with
      | error e =>
        rw [List.cons_append, findSomeM?_cons_error hx] at h
        cases h
      | ok o =>
        cases o with
        | some b => exact absurd hx (hfront x List.mem_cons_self b)
        | none => rwa [List.cons_append, findSomeM?_cons_none hx] at h
  · intro h
    cases hl : l.findSomeM? f with
    | ok found => exact ⟨found, rfl⟩
    | error e =>
      obtain ⟨front, a, back, heq, ha, hfront⟩ := findSomeM?_eq_error_iff.1 hl
      obtain ⟨o, ho⟩ := h front a back heq fun x hx b hb => by rw [hfront x hx] at hb; cases hb
      rw [ho] at ha
      cases ha

/-- a search whose test never fails does not fail -/
theorem findSomeM?_ok {f : α → Except ε (Option β)} {l : List α} (hf : ∀ a ∈ l, ∃ o, f a = .ok o) :
    ∃ found, l.findSomeM? f = .ok found :=
  findSomeM?_eq_ok_iff.2 fun front a back heq _ => hf a (by simp [heq])

/-- a search for an entry is a search for an answer: the entry itself, if it passes the test -/
theorem findM?_eq_findSomeM? (f : α → Except ε Bool) (l : List α) :
    l.findM? f = l.findSomeM? fun a => (f a).map fun b => if b then some a else none := by
  induction l with
  | nil => rfl
  | cons a l ih =>
    cases ha : f a with
    | error e =>
      rw [findSomeM?_cons_error (e := e) (by rw [ha]; rfl)]
      simp only [List.findM?, ha]
      rfl
    | ok b =>
      cases b with
      | true =>
        rw [findSomeM?_cons_some (b := a) (by rw [ha]; rfl)]
        simp only [List.findM?, ha]
        rfl
      | false =>
        rw [findSomeM?_cons_none (by rw [ha]; rfl), ← ih]
        simp only [List.findM?, ha]
        rfl

/-- a search for an entry that does not fail comes to the first entry that passes the test -/
theorem finds_of_findM? {f : α → Except ε Bool} {p : α → Prop} {l : List α} {found : Option α}
    (hf : ∀ a ∈ l, f a = .ok true ↔ p a) (h : l.findM? f = .ok found) :
    Finds (fun a b => b = a ∧ p a) l found := by
  rw [findM?_eq_findSomeM?] at h
  refine finds_of_findSomeM? (fun a ha b => ?_) h
  rw [← hf a ha]
  cases hfa : f a with
  | error e => simp [Except.map]
  | ok passes => cases passes <;> simp [Except.map, eq_comm]

/-- a search for an entry whose test never fails does not fail -/
theorem findM?_ok {f : α → Except ε Bool} {l : List α} (hf : ∀ a ∈ l, ∃ b, f a = .ok b) :
    ∃ found, l.findM? f = .ok found := by
  rw [findM?_eq_findSomeM?]
  refine findSomeM?_ok fun a ha => ?_
  obtain ⟨b, hb⟩ := hf a ha
  exact ⟨if b then some a else none, by rw [hb]; rfl⟩

/-! ## Searches through related lists -/

variable {γ : Type} {R : α → γ → Prop} {l : List α} {k : List γ}

theorem rel_find? {f : α → Bool} {g : γ → Bool} (h : List.Forall₂ R l k) (hf : ∀ a c, R a c → f a = g c) :
    Option.Rel R (l.find? f) (k.find? g) := by
  induction h with
  | nil => exact .none
  | @cons a c l k hac _ ih =>
    have hsame := hf a c hac
    cases hg : g c with
    | true =>
      rw [List.find?_cons_of_pos (hsame.trans hg), List.find?_cons_of_pos hg]
      exact .some hac
    | false =>
      rw [List.find?_cons_of_neg (by simp [hsame, hg]), List.find?_cons_of_neg (by simp [hg])]
      exact ih

theorem findSome?_eq {f : α → Option β} {g : γ → Option β} (h : List.Forall₂ R l k) (hf : ∀ a c, R a c → f a = g c) :
    l.findSome? f = k.findSome? g := by
  induction h with
  | nil => rfl
  | cons hac _ ih => rw [List.findSome?_cons, List.findSome?_cons, hf _ _ hac, ih]

theorem findSomeM?_eq {f : α → Except ε (Option β)} {g : γ → Except ε (Option β)} (h : List.Forall₂ R l k)
    (hf : ∀ a c, R a c → f a = g c) : l.findSomeM? f = k.findSomeM? g := by
  induction h with
  | nil => rfl
  | cons hac _ ih => rw [List.findSomeM?_cons, List.findSomeM?_cons, hf _ _ hac, ih]

/-- searches for an entry whose tests come to the same find related entries -/
theorem agree_findM? {f : α → Except ε Bool} {g : γ → Except ε Bool} (h : List.Forall₂ R l k)
    (hf : ∀ a c, R a c → f a = g c) : Agree (Option.Rel R) (l.findM? f) (k.findM? g) := by
  induction h with
  | nil => exact .ok .none
  | @cons a c l k hac _ ih =>
    simp only [List.findM?, hf a c hac]
    cases g c with
    | error e => exact .error e
    | ok b =>
      cases b with
      | true => exact .ok (.some hac)
      | false => exact ih

end Unbundle
