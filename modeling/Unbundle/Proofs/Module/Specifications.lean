import Mathlib
import Unbundle.Module.Resolution
/-
Types that are put together from rows, and the type specifications that refer to each other.

Building a module asks for the types of rows again and again, and keeps those of the specification table in a store. `Answers`
says of such a computation that it has an answer, and one with some property, whatever was read before it; in all of this no
type mentions a definition beyond the table of definitions. Each step of the building has a lemma of this form.

Only one thing can keep a type from being found: specifications that refer to each other in a circle. `rows.Acyclic` says that
there is none. A chain of references is then no longer than the table, since no row occurs in it twice.

Results:
- `Signature.Form.within_resolve`: a signature's type mentions nothing but what its references stand for.
- `Acyclic.depth_le`: a chain of references is no longer than the table of specifications.
- `answers_readWith`, `answers_specification`, `answers_referenced`: without circles every blob, row and reference is read with
  an answer whose definitions are in the table.
-/
namespace Unbundle

/-! ## The definitions in a type -/

mutual

/-- the definitions that occur in a type, at any depth -/
def TypeSig.definitions : TypeSig → List TypeId
  | .defined id => [id]
  | .generic element arguments => element.definitions ++ TypeSig.definitionsOfAll arguments
  | .derived element _ => element.definitions
  | .named _ _ | .param _ _ | .absent => []

/-- the definitions that occur in some types -/
def TypeSig.definitionsOfAll : List TypeSig → List TypeId
  | [] => []
  | t :: rest => t.definitions ++ TypeSig.definitionsOfAll rest

end

theorem TypeSig.mem_definitionsOfAll {id : TypeId} {ts : List TypeSig} :
    id ∈ TypeSig.definitionsOfAll ts ↔ ∃ t ∈ ts, id ∈ t.definitions := by
  induction ts with
  | nil => simp [TypeSig.definitionsOfAll]
  | cons t rest ih => simp [TypeSig.definitionsOfAll, ih]

/-- only definitions below `n` occur in a type -/
def TypeSig.Within (n : Nat) (t : TypeSig) : Prop := ∀ id ∈ t.definitions, id < n

theorem TypeSig.within_named (n : Nat) (space name : String) : (TypeSig.named space name).Within n := by
  intro id hid
  simp [TypeSig.definitions] at hid

namespace Signature

theorem within_unresolved (n : Nat) (c : CodedType) : c.unresolved.Within n := TypeSig.within_named n _ _

variable {n : Nat} {answer : CodedType → Option TypeSig}

theorem within_getD (hanswer : ∀ c t, answer c = some t → t.Within n) (c : CodedType) :
    ((answer c).getD c.unresolved).Within n := by
  cases hc : answer c with
  | none => exact within_unresolved n c
  | some t => exact hanswer c t hc

mutual

/-- in the type that a form describes only those definitions occur that occur in the answers to its references -/
theorem Form.within_resolve (hanswer : ∀ c t, answer c = some t → t.Within n) :
    (form : Form) → (form.resolve answer).Within n
  | .core name => TypeSig.within_named n _ _
  | .reference c => within_getD hanswer c
  | .generic c arguments => by
    intro id hid
    rw [Form.resolve, TypeSig.definitions] at hid
    rcases List.mem_append.1 hid with helement | hargument
    · exact within_getD hanswer c id helement
    · obtain ⟨t, ht, hid⟩ := TypeSig.mem_definitionsOfAll.1 hargument
      exact Form.within_resolveAll hanswer arguments t ht id hid
  | .derived element suffix => by
    intro id hid
    rw [Form.resolve, TypeSig.definitions] at hid
    exact Form.within_resolve hanswer element id hid
  | .param number ofMethod => by
    intro id hid
    simp [Form.resolve, TypeSig.definitions] at hid
  | .function => TypeSig.within_named n _ _

/-- so it is in the types that some forms describe -/
theorem Form.within_resolveAll (hanswer : ∀ c t, answer c = some t → t.Within n) :
    (forms : List Form) → ∀ t ∈ Form.resolveAll answer forms, t.Within n
  | [], t, ht => by simp [Form.resolveAll] at ht
  | form :: rest, t, ht => by
    rw [Form.resolveAll] at ht
    rcases List.mem_cons.1 ht with rfl | hrest
    · exact Form.within_resolve hanswer form
    · exact Form.within_resolveAll hanswer rest t hrest

end

end Signature

namespace Metadata

open Signature

/-! ## Computations that have an answer -/

/-- the types in a store mention no other definitions than those below `n` -/
def StoreWithin (n : Nat) (store : Store) : Prop := ∀ entry ∈ store, entry.2.Within n

/-- a computation has an answer with the property `P`, whatever was read before it -/
def Answers (n : Nat) {α : Type} (x : Resolving α) (P : α → Prop) : Prop :=
  ∀ store, StoreWithin n store → ∃ a store', x store = .ok (a, store') ∧ StoreWithin n store' ∧ P a

namespace Answers

variable {n : Nat} {α β : Type} {x : Resolving α} {P : α → Prop} {Q : β → Prop}

theorem pure {a : α} (h : P a) : Answers n (Pure.pure a) P := fun store hstore => ⟨a, store, rfl, hstore, h⟩

theorem bind {f : α → Resolving β} (h : Answers n x P) (hf : ∀ a, P a → Answers n (f a) Q) : Answers n (x >>= f) Q := by
  intro store hstore
  obtain ⟨a, store₁, hx, hstore₁, ha⟩ := h store hstore
  obtain ⟨b, store₂, hb, hstore₂, hq⟩ := hf a ha store₁ hstore₁
  refine ⟨b, store₂, ?_, hstore₂, hq⟩
  show (x store >>= fun r => f r.1 r.2) = _
  rw [hx]
  exact hb

theorem get : Answers n (MonadState.get : Resolving Store) (StoreWithin n) :=
  fun store hstore => ⟨store, store, rfl, hstore, hstore⟩

theorem remember {row : Nat} {t : TypeSig} (h : t.Within n) :
    Answers n (modify ((row, t) :: ·) : Resolving Unit) fun _ => True :=
  fun store hstore => ⟨(), (row, t) :: store, rfl, List.forall_mem_cons.2 ⟨h, hstore⟩, trivial⟩

/-- what every step of a fold keeps the whole fold keeps -/
theorem foldlM {f : α → β → Resolving α} {l : List β} {a : α} (hf : ∀ a, P a → ∀ b ∈ l, Answers n (f a b) P) (ha : P a) :
    Answers n (l.foldlM f a) P := by
  induction l generalizing a with
  | nil => exact pure ha
  | cons b rest ih =>
    rw [List.foldlM_cons]
    refine (hf a ha b List.mem_cons_self).bind fun a' ha' => ?_
    exact ih (fun a ha c hc => hf a ha c (List.mem_cons_of_mem b hc)) ha'

theorem mapM {f : α → Resolving β} {l : List α} (hf : ∀ a ∈ l, Answers n (f a) Q) :
    Answers n (l.mapM f) fun bs => ∀ b ∈ bs, Q b := by
  induction l with
  | nil => exact pure (by simp)
  | cons a rest ih =>
    rw [List.mapM_cons]
    refine (hf a List.mem_cons_self).bind fun b hb => ?_
    refine (ih fun c hc => hf c (List.mem_cons_of_mem a hc)).bind fun bs hbs => ?_
    exact pure (List.forall_mem_cons.2 ⟨hb, hbs⟩)

end Answers

/-! ## Rows -/

theorem rowAt?_eq_some {α : Type} {rows : List α} {row : Nat} {a : α} (h : rowAt? rows row = some a) :
    0 < row ∧ rows[row - 1]? = some a := by
  unfold rowAt? at h
  split_ifs at h with h0
  exact ⟨Nat.pos_of_ne_zero h0, h⟩

theorem le_of_rowAt? {α : Type} {rows : List α} {row : Nat} {a : α} (h : rowAt? rows row = some a) :
    0 < row ∧ row ≤ rows.length := by
  obtain ⟨hpos, hrow⟩ := rowAt?_eq_some h
  obtain ⟨hlt, -⟩ := List.getElem?_eq_some_iff.1 hrow
  omega

/-! ## Circles of specifications -/

variable {rows : Metadata}

/-- the signature of one type specification mentions another one, by the rows of both -/
def Refers (rows : Metadata) (a b : Nat) : Prop :=
  ∃ blob, rowAt? rows.typeSpecs a = some blob ∧ ⟨2, b⟩ ∈ (Signature.read Reader.type blob).2

/-- no type specification refers back to itself, directly or through others -/
def Acyclic (rows : Metadata) : Prop := ∀ a, ¬ Relation.TransGen rows.Refers a a

/-- references lead from a specification through `depth` rows -/
inductive Descends (rows : Metadata) : (depth row : Nat) → Prop
  | here (row : Nat) : Descends rows 0 row
  | step {depth a b : Nat} (h : rows.Refers a b) (hb : Descends rows depth b) : Descends rows (depth + 1) a

/-- the rows of a chain of references: each of them refers to all that come later -/
theorem Descends.exists_chain {depth row : Nat} (h : Descends rows depth row) :
    ∃ l : List Nat, l.length = depth ∧ l.Pairwise (Relation.TransGen rows.Refers) ∧
      (∀ a ∈ l, Relation.ReflTransGen rows.Refers row a) ∧ ∀ a ∈ l, 0 < a ∧ a ≤ rows.typeSpecs.length := by
  induction h with
  | here row => exact ⟨[], rfl, List.Pairwise.nil, by simp, by simp⟩
  | @step depth a b hab _ ih =>
    obtain ⟨l, hlength, hpairwise, hreach, hrange⟩ := ih
    obtain ⟨blob, hblob, -⟩ := id hab
    refine ⟨a :: l, by rw [List.length_cons, hlength], List.pairwise_cons.2 ⟨fun c hc => ?_, hpairwise⟩, ?_, ?_⟩
    · exact Relation.TransGen.head' hab (hreach c hc)
    · exact List.forall_mem_cons.2 ⟨.refl, fun c hc => (hreach c hc).head hab⟩
    · exact List.forall_mem_cons.2 ⟨le_of_rowAt? hblob, hrange⟩

/-- without circles a chain of references is no longer than the table -/
theorem Acyclic.depth_le {depth row : Nat} (h : rows.Acyclic) (hd : Descends rows depth row) :
    depth ≤ rows.typeSpecs.length := by
  obtain ⟨l, rfl, hpairwise, -, hrange⟩ := hd.exists_chain
  have hnodup : l.Nodup := hpairwise.imp fun {a b} hab => by
    rintro rfl
    exact h a hab
  have hsub : l ⊆ List.range' 1 rows.typeSpecs.length := fun a ha => by
    have hr := hrange a ha
    exact List.mem_range'_1.2 ⟨hr.1, by omega⟩
  simpa using (hnodup.subperm hsub).length_le

/-- specifications that mention none but earlier ones make no circle -/
theorem acyclic_of_lt (h : ∀ entry ∈ rows.typeSpecs.zipIdx 1, ∀ c ∈ (Signature.read Reader.type entry.1).2,
    c.tag = 2 → c.row < entry.2) : rows.Acyclic := by
  have hstep : ∀ {a b}, rows.Refers a b → b < a := by
    rintro a b ⟨blob, hblob, hb⟩
    obtain ⟨hpos, hrow⟩ := rowAt?_eq_some hblob
    exact h (blob, a) (List.mk_mem_zipIdx_iff_le_and_getElem?_sub.2 ⟨hpos, hrow⟩) ⟨2, b⟩ hb rfl
  intro a ha
  have hlt : ∀ {a b}, Relation.TransGen rows.Refers a b → b < a := by
    intro a b hab
    induction hab with
    | single hab => exact hstep hab
    | tail _ hbc ih => exact (hstep hbc).trans ih
  exact absurd (hlt ha) (lt_irrefl a)

/-! ## Reading -/

/-- a reference has an answer if that is so of the specification that it may mean -/
theorem answers_typeOf {specification : Nat → Resolving (Option TypeSig)} {c : CodedType}
    (h : c.tag = 2 → Answers rows.typeDefs.length (specification c.row) fun t => ∀ s ∈ t, s.Within rows.typeDefs.length) :
    Answers rows.typeDefs.length (typeOf rows specification c) fun t => ∀ s ∈ t, s.Within rows.typeDefs.length := by
  unfold typeOf
  split
  · refine Answers.pure fun s hs => ?_
    obtain ⟨row, hrow, rfl⟩ := Option.map_eq_some_iff.1 hs
    intro id hid
    rw [TypeSig.definitions, List.mem_singleton] at hid
    obtain ⟨hpos, hle⟩ := le_of_rowAt? hrow
    rw [hid]
    exact Nat.sub_one_lt_of_le hpos hle
  · refine Answers.pure fun s hs => ?_
    obtain ⟨row, -, rfl⟩ := Option.map_eq_some_iff.1 hs
    exact TypeSig.within_named _ _ _
  · next htag => exact h htag
  · exact Answers.pure (by simp)

/-- a blob is read with answers to all of its references if that is so of the specifications among them -/
theorem answers_readWith {α : Type} {specification : Nat → Resolving (Option TypeSig)} (reader : Reader α) {blob : Bytes}
    (h : ∀ row, ⟨2, row⟩ ∈ (Signature.read reader blob).2 →
      Answers rows.typeDefs.length (specification row) fun t => ∀ s ∈ t, s.Within rows.typeDefs.length) :
    Answers rows.typeDefs.length (readWith rows specification reader blob) fun r =>
      r.1 = (Signature.read reader blob).1 ∧ ∀ c t, r.2 c = some t → t.Within rows.typeDefs.length := by
  unfold readWith
  refine Answers.bind (P := fun answers : List (CodedType × Option TypeSig) =>
    ∀ a ∈ answers, ∀ s ∈ a.2, s.Within rows.typeDefs.length) ?_ fun answers hanswers => ?_
  · refine Answers.mapM fun c hc => ?_
    refine (answers_typeOf fun htag => ?_).bind fun t ht => Answers.pure ht
    obtain ⟨tag, row⟩ := c
    obtain rfl : tag = 2 := htag
    exact h row hc
  · refine Answers.pure ⟨rfl, fun c t ht => ?_⟩
    have hlookup := Option.join_eq_some_iff.1 ht
    obtain ⟨front, back, heq, -⟩ := List.lookup_eq_some_iff.1 hlookup
    exact hanswers (c, some t) (by simp [heq]) t rfl

theorem answers_describe {specification : Nat → Resolving (Option TypeSig)} {blob : Bytes}
    (h : ∀ row, ⟨2, row⟩ ∈ (Signature.read Reader.type blob).2 →
      Answers rows.typeDefs.length (specification row) fun t => ∀ s ∈ t, s.Within rows.typeDefs.length) :
    Answers rows.typeDefs.length (describe rows specification blob) fun t => ∀ s ∈ t, s.Within rows.typeDefs.length := by
  unfold describe
  refine (answers_readWith Reader.type h).bind fun ⟨result, answer⟩ hr => ?_
  cases result with
  | ok form =>
    refine Answers.pure fun s hs => ?_
    cases hs
    exact Form.within_resolve hr.2 form
  | error cause => exact Answers.pure (by simp)

theorem answers_specificationWithin {depth row : Nat} (h : ¬ Descends rows depth row) :
    Answers rows.typeDefs.length (specificationWithin rows depth row) fun t => ∀ s ∈ t, s.Within rows.typeDefs.length := by
  induction depth generalizing row with
  | zero => exact absurd (.here row) h
  | succ depth ih =>
    rw [specificationWithin]
    refine Answers.get.bind fun store hstore => ?_
    split
    · next t ht =>
      obtain ⟨front, back, heq, -⟩ := List.lookup_eq_some_iff.1 ht
      refine Answers.pure fun s hs => ?_
      cases hs
      exact hstore (row, t) (by simp [heq])
    split
    · exact Answers.pure (by simp)
    next blob hblob =>
    have hreferences : ∀ b, ⟨2, b⟩ ∈ (Signature.read Reader.type blob).2 → ¬ Descends rows depth b :=
      fun b hb hd => h (.step ⟨blob, hblob, hb⟩ hd)
    refine (answers_describe fun b hb => ih (hreferences b hb)).bind fun found hfound => ?_
    split
    · exact Answers.pure (by simp)
    next t =>
    refine (Answers.remember (hfound t rfl)).bind fun _ _ => Answers.pure fun s hs => ?_
    cases hs
    exact hfound t rfl

/-- without circles the type of every specification row is found, if there is one -/
theorem answers_specification (h : rows.Acyclic) (row : Nat) :
    Answers rows.typeDefs.length (specification rows row) fun t => ∀ s ∈ t, s.Within rows.typeDefs.length :=
  answers_specificationWithin fun hd => absurd (h.depth_le hd) (Nat.not_succ_le_self _)

/-- without circles every reference in a table is looked up with an answer -/
theorem answers_referenced (h : rows.Acyclic) (r : Option Reference) :
    Answers rows.typeDefs.length (referenced rows r) fun t => ∀ s ∈ t, s.Within rows.typeDefs.length := by
  unfold referenced
  split
  · exact Answers.pure (by simp)
  · split
    · exact Answers.pure (by simp)
    · exact answers_typeOf fun _ => answers_specification h _

end Metadata

end Unbundle
