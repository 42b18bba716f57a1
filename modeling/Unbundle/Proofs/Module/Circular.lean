import Unbundle.Proofs.Module.Requests
/-
Specifications that refer to each other in a circle.

Looking up a type specification reads its signature and looks up the specifications that it mentions. It is kept in the store
once it has been read, so that nothing stops a lookup from coming back to a row that is still being read.

`specificationGuarded` is the lookup with an account of the rows that are being read: it stops when it comes to one of them.
It ends by itself, since it never reads one of the finitely many rows while that row is being read already. It serves as the
measure of the lookup without a guard, whose number of nested lookups is bounded from outside.

Results:
- `comesTo_specificationGuarded`: a guarded lookup that stops has come back to a row from which it came.
- `Reached.known`: looking up references one after the other fills the store with what is read afresh.
- `load_outcome`: the three ways in which loading a file ends.
- `resolution_ends_iff`: a reference is resolved exactly if it enters no circle, and a module is built exactly if building it
  looks up no reference into a circle.
-/
namespace Unbundle.Metadata

open Relation Signature

variable {rows : Metadata} {row : Nat}

/-! ## A lookup that notices where it comes back -/

/-- the rows of the specification table that are not being read -/
def restingRows (m : Metadata) (reading : List Nat) : Finset Nat :=
  (Finset.Icc 1 m.typeSpecs.length).filter fun row => row ∉ reading

theorem card_restingRows_lt {m : Metadata} {reading : List Nat} {blob : Bytes} (hrow : row ∉ reading)
    (hblob : rowAt? m.typeSpecs row = some blob) :
    (m.restingRows (row :: reading)).card < (m.restingRows reading).card := by
  apply Finset.card_lt_card
  rw [Finset.ssubset_iff_of_subset fun a ha => ?_]
  · refine ⟨row, ?_, by simp [restingRows]⟩
    simpa [restingRows, hrow, Nat.succ_le_iff] using le_of_rowAt? hblob
  · simp only [restingRows, Finset.mem_filter, List.mem_cons, not_or] at ha ⊢
    exact ⟨ha.1, ha.2.2⟩

/-- the type specification of a row, from the store if it was read before, while the rows of `reading` are being read -/
def specificationGuarded (m : Metadata) (reading : List Nat) (row : Nat) : Resolving (Option TypeSig) := do
  match (← get).lookup row with
  | some t => return some t
  | none =>
    if _hrow : row ∈ reading then throw (.typeSpec row)
    else
      match _hblob : rowAt? m.typeSpecs row with
      | none => return none
      | some blob =>
        match ← describe m (fun b => specificationGuarded m (row :: reading) b) blob with
        | none => return none
        | some t =>
          modify ((row, t) :: ·)
          return some t
termination_by (m.restingRows reading).card
decreasing_by exact card_restingRows_lt _hrow _hblob

/-- a guarded lookup gives what is read afresh, or has come back to a row that it came from -/
theorem comesTo_specificationGuarded {reading : List Nat} (hreading : ∀ a ∈ reading, TransGen rows.Refers a row) :
    ComesTo rows (fun b => ReflTransGen rows.Refers row b ∧ TransGen rows.Refers b b)
      (specificationGuarded rows reading row) (specificationAfresh rows row = .ok ·) := by
  -- the recursion is on the rows that are not being read; the hypothesis on `reading` is what makes a return a circle
  induction h : (rows.restingRows reading).card using Nat.strong_induction_on generalizing reading row with
  | _ n ih =>
  subst h
  rw [specificationGuarded]
  refine ComesTo.get.bind fun store hstore => ?_
  split
  · next t ht => exact ComesTo.pure (hstore.lookup ht)
  split
  · next hrow => exact ComesTo.throw ⟨.refl, hreading row hrow⟩
  next hrow =>
  split
  · next hnone => exact ComesTo.pure (specificationAfresh_of_none hnone)
  next blob hblob =>
  refine comesTo_kept hblob fun b hab => ?_
  have hreading' : ∀ a ∈ row :: reading, TransGen rows.Refers a b :=
    List.forall_mem_cons.2 ⟨.single hab, fun a ha => (hreading a ha).tail hab⟩
  refine (ih _ (card_restingRows_lt hrow hblob) hreading' rfl).imp (fun c hc => ?_) fun _ h => h
  exact ⟨hc.1.head hab, hc.2⟩

/-! ## Lookups one after the other -/

/-- the stores that are left by resolving references one after the other -/
inductive Reached (rows : Metadata) : Store → Prop
  | start : Reached rows []
  | next {store store' : Store} {c : CodedType} {found : Option TypeSig} (h : Reached rows store)
    (hc : typeOf rows (specification rows) c store = .ok (found, store')) : Reached rows store'

variable {store : Store} {c : CodedType}

/-- a reference is resolved as it is read afresh, or enters a circle -/
theorem comesTo_resolution (rows : Metadata) (c : CodedType) :
    ComesTo rows (fun _ => rows.EntersCircle c) (typeOf rows (specification rows) c)
      (typeOf rows (specificationAfresh rows) c = .ok ·) :=
  comesTo_typeOf fun htag => (comesTo_specification rows c.row).imp (fun _ h => ⟨htag, h⟩) fun _ h => h

theorem Reached.known (h : Reached rows store) : Known rows store := by
  induction h with
  | start => simp [Known]
  | next _ hc ih =>
    rcases comesTo_resolution rows _ _ ih with ⟨found, store', hrun, hstore', -⟩ | ⟨row, hrun, -⟩
    · rw [hc] at hrun
      cases hrun
      exact hstore'
    · rw [hc] at hrun
      cases hrun

/-- a guarded lookup of a reference gives what is read afresh, or has come back to a row that it came from -/
theorem comesTo_guarded (rows : Metadata) (c : CodedType) :
    ComesTo rows (fun row => rows.EntersCircle c ∧ TransGen rows.Refers row row)
      (typeOf rows (specificationGuarded rows []) c) (typeOf rows (specificationAfresh rows) c = .ok ·) := by
  refine comesTo_typeOf fun htag => (comesTo_specificationGuarded (by simp)).imp (fun row hrow => ?_) fun _ h => h
  exact ⟨⟨htag, row, hrow⟩, hrow.2⟩

/-- what follows the lookups afresh fails for a reference into a circle -/
theorem ComesTo.error_of_entersCircle {failure : Nat → Prop} {x : Resolving (Option TypeSig)}
    (h : ComesTo rows failure x (typeOf rows (specificationAfresh rows) c = .ok ·)) (hstore : Known rows store)
    (hc : rows.EntersCircle c) : ∃ row, x store = .error (.typeSpec row) ∧ failure row := by
  rcases h store hstore with ⟨found, store', -, -, hfound⟩ | hfail
  · exact absurd hc (typeOf_specificationAfresh_ok_iff.1 ⟨found, hfound⟩)
  · exact hfail

/-- what fails only for references into circles gives any other reference the answer that lookups afresh give -/
theorem ComesTo.ok_of_not_entersCircle {failure : Nat → Prop} {x : Resolving (Option TypeSig)} {found : Option TypeSig}
    (h : ComesTo rows failure x (typeOf rows (specificationAfresh rows) c = .ok ·)) (hstore : Known rows store)
    (hfailure : ∀ row, failure row → rows.EntersCircle c) (hfound : typeOf rows (specificationAfresh rows) c = .ok found) :
    ∃ store', x store = .ok (found, store') := by
  rcases h store hstore with ⟨found', store', hrun, -, hfound'⟩ | ⟨row, -, hrow⟩
  · rw [hfound] at hfound'
    cases hfound'
    exact ⟨store', hrun⟩
  · exact absurd (hfailure row hrow) (typeOf_specificationAfresh_ok_iff.1 ⟨found, hfound⟩)

end Unbundle.Metadata

namespace Unbundle.Module

open Relation Metadata Signature

/-! ## Loading -/

/-- building the module in a file follows some reference into a circle -/
def LoadsCircle (file : Bytes) : Prop :=
  ∃ o, Opened.ofFile file = .ok o ∧ o.metadata.typeDefect? = none ∧ o.metadata.AsksForCircle

/-- the metadata in a file breaks off: before it can be opened, or where the rows of its types should stand -/
def BreaksOff (file : Bytes) : Prop :=
  ∃ cause, Opened.ofFile file = .error (.defect cause) ∨
    ∃ o, Opened.ofFile file = .ok o ∧ o.metadata.typeDefect? = some cause

/-- loading a file ends in one of three ways: at a circle, where the metadata breaks off, or with a module or a refusal -/
theorem load_outcome (name : String) (file : Bytes) :
    (LoadsCircle file ∧ ¬ BreaksOff file ∧ ∃ row, load name file = .error (.fault (.typeSpec row))) ∨
    (¬ LoadsCircle file ∧ BreaksOff file ∧ ∃ cause, load name file = .error (.format (.defect cause))) ∨
    ¬ LoadsCircle file ∧ ¬ BreaksOff file ∧
      ((∃ m, load name file = .ok m) ∨
        ∃ cause, load name file = .error (.format cause) ∧ ∀ defect, cause ≠ .defect defect) := by
  cases ho : Opened.ofFile file with
  | error cause =>
    have hcircle : ¬ LoadsCircle file := by simp [LoadsCircle, ho]
    have hload : load name file = .error (.format cause) := by simp only [load, ho]
    by_cases hcause : ∃ defect, cause = .defect defect
    · obtain ⟨defect, rfl⟩ := hcause
      exact .inr (.inl ⟨hcircle, ⟨defect, .inl ho⟩, defect, hload⟩)
    · rw [not_exists] at hcause
      refine .inr (.inr ⟨hcircle, ?_, .inr ⟨cause, hload, hcause⟩⟩)
      simpa [BreaksOff, ho] using hcause
  | ok o =>
    cases hdefect : o.metadata.typeDefect? with
    | some defect =>
      refine .inr (.inl ⟨by simp [LoadsCircle, ho, hdefect], ⟨defect, .inr ⟨o, ho, hdefect⟩⟩, defect, ?_⟩)
      simp only [load, ho, ofOpened, hdefect]
    | none =>
      have hbreaks : ¬ BreaksOff file := by simp [BreaksOff, ho, hdefect]
      have hcircle : LoadsCircle file ↔ o.metadata.AsksForCircle := by simp [LoadsCircle, ho, hdefect]
      rw [hcircle]
      rcases build_outcome name o.metadata { body := bodyAt o.image, resource := fun offset => o.resourceAt offset } with
        ⟨hasks, row, hrow⟩ | ⟨hno, m, hm, -⟩
      · exact .inl ⟨hasks, hbreaks, row, by simp only [load, ho, ofOpened, hdefect, hrow]⟩
      · exact .inr (.inr ⟨hno, hbreaks, .inl ⟨m, by simp only [load, ho, ofOpened, hdefect, hm]⟩⟩)

/-- **Resolving a type ends exactly where no circle of specifications is entered.** Whatever references were resolved before, a
reference that enters no circle has an answer, be it that it stands for no type; the answer is what the reference stands for when
nothing is kept, and no lookup comes back to a row that is still being read. A reference into a circle is followed through any
number of rows, and a lookup that notices it comes back to a row that it came from. So a set of rows makes a module exactly if
no reference that building looks up enters a circle; and a file whose metadata does not break off is loaded or refused exactly
then. -/
theorem resolution_ends_iff (name : String) (rows : Metadata) (contents : Contents) (file : Bytes) :
    (∀ store c, Reached rows store →
      (¬ rows.EntersCircle c → ∃ found, typeOf rows (specificationAfresh rows) c = .ok found ∧
        (∃ store', typeOf rows (specification rows) c store = .ok (found, store') ∧ Reached rows store') ∧
        ∃ store', typeOf rows (specificationGuarded rows []) c store = .ok (found, store')) ∧
      (rows.EntersCircle c →
        (∀ depth, ∃ row, typeOf rows (specificationWithin rows depth) c store = .error (.typeSpec row)) ∧
        ∃ row, typeOf rows (specificationGuarded rows []) c store = .error (.typeSpec row) ∧
          TransGen rows.Refers row row)) ∧
    (((∃ row, build name rows contents = .error (.typeSpec row)) ↔ rows.AsksForCircle) ∧
      (¬ rows.AsksForCircle → ∃ m, build name rows contents = .ok m)) ∧
    ((∃ row, load name file = .error (.fault (.typeSpec row))) ↔ LoadsCircle file) ∧
    ((∃ cause, load name file = .error (.format (.defect cause))) ↔ BreaksOff file) ∧
    (¬ LoadsCircle file → ¬ BreaksOff file → (∃ m, load name file = .ok m) ∨
      ∃ cause, load name file = .error (.format cause) ∧ ∀ defect, cause ≠ .defect defect) := by
  refine ⟨fun store c hreached => ⟨fun hno => ?_, fun hcircle => ⟨fun depth => ?_, ?_⟩⟩, ?_, ?_⟩
  · obtain ⟨found, hfound⟩ := typeOf_specificationAfresh_ok_iff.2 hno
    obtain ⟨store', hrun⟩ := (comesTo_resolution rows c).ok_of_not_entersCircle hreached.known (fun _ h => h) hfound
    refine ⟨found, hfound, ⟨store', hrun, .next hreached hrun⟩, ?_⟩
    exact (comesTo_guarded rows c).ok_of_not_entersCircle hreached.known (fun _ h => h.1) hfound
  · obtain ⟨row, hrow, -⟩ := (comesTo_typeOf fun _ => comesTo_specificationWithin rows depth c.row).error_of_entersCircle
      hreached.known hcircle
    exact ⟨row, hrow⟩
  · obtain ⟨row, hrow, -, hback⟩ := (comesTo_guarded rows c).error_of_entersCircle hreached.known hcircle
    exact ⟨row, hrow, hback⟩
  · rcases build_outcome name rows contents with ⟨hcircle, hfail⟩ | ⟨hno, m, hm, -⟩
    · exact ⟨iff_of_true hfail hcircle, fun hno => absurd hcircle hno⟩
    · simp [hm, hno]
  · rcases load_outcome name file with ⟨hcircle, hbreaks, row, hload⟩ | ⟨hcircle, hbreaks, defect, hload⟩ |
      ⟨hcircle, hbreaks, ⟨m, hload⟩ | ⟨cause, hload, hother⟩⟩
    · simp [hload, hcircle, hbreaks]
    · simp [hload, hcircle, hbreaks]
    · simp [hload, hcircle, hbreaks]
    · simpa [hload, hcircle, hbreaks] using hother

/-- one definition whose base is a specification that stands for itself, beside a specification of arrays of the definition -/
def loopedRows : Metadata where
  typeDefs := [⟨0, "Node", "App", some ⟨Table.typeSpec, 1⟩, [], []⟩]
  typeSpecs := [[0x12, 0x06], [0x1D, 0x12, 0x04]]

/-- beside a specification that stands for itself others are resolved, and only what refers to it has no answer -/
theorem resolution_ends_iff_loopedRows : Reached loopedRows [] ∧
    (¬ loopedRows.EntersCircle ⟨2, 2⟩ ∧ ∃ store', typeOf loopedRows (specification loopedRows) ⟨2, 2⟩ [] =
      .ok (some (.derived (.defined 0) "[]"), store') ∧ Reached loopedRows store') ∧
    (loopedRows.EntersCircle ⟨2, 1⟩ ∧ ∃ row, typeOf loopedRows (specification loopedRows) ⟨2, 1⟩ [] = .error (.typeSpec row)) ∧
    (∃ row, build "host" loopedRows ⟨fun _ => none, fun _ => []⟩ = .error (.typeSpec row)) ∧
    ¬ LoadsCircle [] ∧ ¬ BreaksOff [] ∧
      ∃ cause, load "host" [] = .error (.format cause) ∧ ∀ defect, cause ≠ .defect defect := by
  have hself : loopedRows.Refers 1 1 := ⟨[0x12, 0x06], rfl, by decide⟩
  have hcircle : loopedRows.EntersCircle ⟨2, 1⟩ := ⟨rfl, 1, .refl, .single hself⟩
  have hno : ¬ loopedRows.EntersCircle ⟨2, 2⟩ := by
    rintro ⟨-, h⟩
    obtain ⟨b, ⟨blob, hblob, hb⟩, -⟩ := h.exists_step
    cases hblob
    have hreferences : (Signature.read Reader.type [0x1D, 0x12, 0x04]).2 = [⟨0, 1⟩] := by decide
    rw [hreferences] at hb
    simp at hb
  have hasks : loopedRows.AsksForCircle := ⟨⟨2, 1⟩, .base List.mem_cons_self ⟨_, rfl, rfl, rfl⟩, hcircle⟩
  have hempty : ¬ LoadsCircle [] := by
    rintro ⟨o, ho, -⟩
    cases ho
  have hwhole : ¬ BreaksOff [] := by
    rintro ⟨cause, ho | ⟨o, ho, -⟩⟩
    · cases ho
    · cases ho
  obtain ⟨hresolves, ⟨hbuilds, -⟩, -, -, hloads⟩ := resolution_ends_iff "host" loopedRows ⟨fun _ => none, fun _ => []⟩ []
  obtain ⟨found, hfound, ⟨store', hrun, hnext⟩, -⟩ := (hresolves [] ⟨2, 2⟩ .start).1 hno
  obtain rfl : some (.derived (.defined 0) "[]") = found := Except.ok.inj (Eq.trans (by rfl) hfound)
  obtain ⟨row, hrow⟩ := ((hresolves [] ⟨2, 1⟩ .start).2 hcircle).1 (loopedRows.typeSpecs.length + 1)
  refine ⟨.start, ⟨hno, store', hrun, hnext⟩, ⟨hcircle, row, hrow⟩, hbuilds.2 hasks, hempty, hwhole, ?_⟩
  exact (hloads hempty hwhole).resolve_left (by rintro ⟨m, hm⟩; cases hm)

end Unbundle.Module
