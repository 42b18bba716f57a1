import Mathlib
import Unbundle.Manifest.Extraction
/-
Extraction as a fold over the children of the root.

`Gives` tells case by case what one child gives, and `Extraction.record` what that adds to the modules and events so far: a
failure ends the extraction, and after it nothing is added.

Results:
- `gives_iff`: every child gives exactly one thing, the one that the program computes.
- `drain_eq_fold`: visiting all children is recording what they give from left to right.
- `error_fold_eq_some`: an extraction that fails has given what the children before the failing one give.
- `length_fold`: as long as nothing fails each element has given one module or one event.
- `ends_extract`: an extraction ends with what the entries give that stand before the first failing one.
-/
namespace Unbundle.Manifest

variable {codec : Codec} {data : Bytes}

/-! ## What a child gives -/

/-- a child of the root that is an assembly, with the offset that its attribute gives -/
def ListsAt (child : Xml.Node) (offset : Int) : Prop :=
  ∃ e, child.element? = some e ∧ Text.lower (Xml.localName e.name.expanded) = "assembly" ∧
    offsetOf (e.attribute? "offset") = .ok offset

/-- what a child of the root gives: nothing, an event, a module, or a failure -/
inductive Gives (codec : Codec) (data : Bytes) (child : Xml.Node) : Except ExtractionError Yield → Prop
  | noElement (h : child.element? = none) : Gives codec data child (.ok .nothing)
  | noAssembly {e : Xml.Element} (h : child.element? = some e)
      (hname : Text.lower (Xml.localName e.name.expanded) ≠ "assembly") :
      Gives codec data child (.ok (.event (.unknownElement (Xml.localName e.name.expanded))))
  | noOffset {e : Xml.Element} {offset : Int} (h : child.element? = some e)
      (hname : Text.lower (Xml.localName e.name.expanded) = "assembly")
      (hoffset : offsetOf (e.attribute? "offset") = .ok offset) (hnegative : offset < 0) :
      Gives codec data child (.ok (.event (.missingOffset (Xml.localName e.name.expanded))))
  | overlong {e : Xml.Element} {cause : Overlong} (h : child.element? = some e)
      (hname : Text.lower (Xml.localName e.name.expanded) = "assembly")
      (hoffset : offsetOf (e.attribute? "offset") = .error cause) : Gives codec data child (.error (.offset cause))
  | noPayload {offset : Int} {cause : Flate.PayloadError} (h : ListsAt child offset) (hoffset : 0 ≤ offset)
      (hinflate : codec.inflate data offset (data.length - offset) true = .error cause) :
      Gives codec data child (.error (.payload cause))
  | noIdentity {offset : Int} {payload : Bytes} {cause : FormatError} (h : ListsAt child offset) (hoffset : 0 ≤ offset)
      (hinflate : codec.inflate data offset (data.length - offset) true = .ok payload)
      (hidentify : codec.identify payload = .error cause) : Gives codec data child (.error (.format cause))
  | module {offset : Int} {payload : Bytes} {identity : Identity} (h : ListsAt child offset) (hoffset : 0 ≤ offset)
      (hinflate : codec.inflate data offset (data.length - offset) true = .ok payload)
      (hidentify : codec.identify payload = .ok identity) :
      Gives codec data child (.ok (.module ⟨identity.fullName, identity.kind.extension, payload⟩))

/-- an element with another name -/
theorem yieldOf_of_other {child : Xml.Node} {e : Xml.Element} (h : child.element? = some e)
    (hname : Text.lower (Xml.localName e.name.expanded) ≠ "assembly") :
    yieldOf codec data child = .ok (.event (.unknownElement (Xml.localName e.name.expanded))) := by
  simp only [yieldOf, h, entry, hname, entryName, ne_eq, not_false_eq_true, if_true]

/-- an assembly whose offset is not read -/
theorem yieldOf_of_overlong {child : Xml.Node} {e : Xml.Element} {cause : Overlong} (h : child.element? = some e)
    (hname : Text.lower (Xml.localName e.name.expanded) = "assembly")
    (hoffset : offsetOf (e.attribute? "offset") = .error cause) : yieldOf codec data child = .error (.offset cause) := by
  simp only [yieldOf, h, entry, hname, entryName, ne_eq, not_true_eq_false, if_false, offsetName, hoffset]

/-- an assembly gives what its offset leads to, if that is one -/
theorem yieldOf_of_offset {child : Xml.Node} {e : Xml.Element} {offset : Int} (h : child.element? = some e)
    (hname : Text.lower (Xml.localName e.name.expanded) = "assembly")
    (hoffset : offsetOf (e.attribute? "offset") = .ok offset) : yieldOf codec data child =
      if offset < 0 then .ok (.event (.missingOffset (Xml.localName e.name.expanded)))
      else (moduleAt codec data offset).map .module := by
  simp only [yieldOf, h, entry, hname, entryName, ne_eq, not_true_eq_false, if_false, offsetName, hoffset]

theorem yieldOf_of_listsAt {child : Xml.Node} {offset : Int} (h : ListsAt child offset) (hoffset : 0 ≤ offset) :
    yieldOf codec data child = (moduleAt codec data offset).map .module := by
  obtain ⟨e, helement, hname, he⟩ := h
  rw [yieldOf_of_offset helement hname he, if_neg (Int.not_lt.2 hoffset)]

theorem gives_yieldOf (codec : Codec) (data : Bytes) (child : Xml.Node) :
    Gives codec data child (yieldOf codec data child) := by
  cases helement : child.element? with
  | none =>
    rw [yieldOf, helement]
    exact .noElement helement
  | some e =>
    by_cases hname : Text.lower (Xml.localName e.name.expanded) = "assembly"
    · rcases hoffset : offsetOf (e.attribute? "offset") with cause | offset
      · rw [yieldOf_of_overlong helement hname hoffset]
        exact .overlong helement hname hoffset
      by_cases hnegative : offset < 0
      · rw [yieldOf_of_offset helement hname hoffset, if_pos hnegative]
        exact .noOffset helement hname hoffset hnegative
      · have hlists : ListsAt child offset := ⟨e, helement, hname, hoffset⟩
        have hnonneg := Int.not_lt.1 hnegative
        rw [yieldOf_of_listsAt hlists hnonneg, moduleAt]
        cases hinflate : codec.inflate data offset (data.length - offset) true with
        | error cause => exact .noPayload hlists hnonneg hinflate
        | ok payload =>
          simp only
          cases hidentify : codec.identify payload with
          | error cause => exact .noIdentity hlists hnonneg hinflate hidentify
          | ok identity => exact .module hlists hnonneg hinflate hidentify
    · rw [yieldOf_of_other helement hname]
      exact .noAssembly helement hname

theorem yieldOf_of_gives {child : Xml.Node} {r : Except ExtractionError Yield} (h : Gives codec data child r) :
    yieldOf codec data child = r := by
  cases h with
  | noElement h => simp only [yieldOf, h]
  | noAssembly h hname => exact yieldOf_of_other h hname
  | noOffset h hname hoffset hnegative => rw [yieldOf_of_offset h hname hoffset, if_pos hnegative]
  | overlong h hname hoffset => exact yieldOf_of_overlong h hname hoffset
  | noPayload h hoffset hinflate =>
    simp only [yieldOf_of_listsAt h hoffset, moduleAt, hinflate]
    rfl
  | noIdentity h hoffset hinflate hidentify =>
    simp only [yieldOf_of_listsAt h hoffset, moduleAt, hinflate, hidentify]
    rfl
  | module h hoffset hinflate hidentify =>
    simp only [yieldOf_of_listsAt h hoffset, moduleAt, hinflate, hidentify]
    rfl

/-- a child gives exactly what the program computes for it -/
theorem gives_iff {child : Xml.Node} {r : Except ExtractionError Yield} :
    Gives codec data child r ↔ yieldOf codec data child = r := by
  constructor
  · exact yieldOf_of_gives
  · rintro rfl
    exact gives_yieldOf codec data child

/-! ## Recording what children give -/

namespace Extraction

/-- an extraction that has given nothing yet -/
def empty : Extraction := ⟨[], [], none⟩

/-- the extraction after a further child, which it is past when it has failed -/
def record (x : Extraction) (given : Except ExtractionError Yield) : Extraction :=
  match x.error, given with
  | some _, _ => x
  | none, .error cause => { x with error := some cause }
  | none, .ok .nothing => x
  | none, .ok (.event e) => { x with events := x.events ++ [e] }
  | none, .ok (.module i) => { x with infos := x.infos ++ [i] }

/-- what one extraction gave and then another one, unless the first has failed -/
def before (x y : Extraction) : Extraction :=
  match x.error with
  | some _ => x
  | none => ⟨x.infos ++ y.infos, x.events ++ y.events, y.error⟩

variable {x : Extraction}

theorem record_of_error {cause : ExtractionError} (h : x.error = some cause) (given : Except ExtractionError Yield) :
    x.record given = x := by
  simp only [record, h]

theorem foldl_record_of_error {cause : ExtractionError} (h : x.error = some cause)
    (given : List (Except ExtractionError Yield)) : given.foldl record x = x := by
  induction given with
  | nil => rfl
  | cons g rest ih => rw [List.foldl_cons, record_of_error h, ih]

/-- a child that does not fail leaves an extraction without failure -/
theorem error_record_ok (h : x.error = none) (y : Yield) : (x.record (.ok y)).error = none := by
  cases y <;> simp only [record, h]

theorem length_record_module (h : x.error = none) (i : AssemblyInfo) :
    (x.record (.ok (.module i))).infos.length = x.infos.length + 1 := by
  simp only [record, h, List.length_append, List.length_singleton]

theorem error_record_error (h : x.error = none) (cause : ExtractionError) :
    x.record (.error cause) = { x with error := some cause } := by
  simp only [record, h]

end Extraction

/-- the extraction after some further children -/
def fold (codec : Codec) (data : Bytes) (x : Extraction) (children : List Xml.Node) : Extraction :=
  (children.map (yieldOf codec data)).foldl Extraction.record x

section

variable {x : Extraction}

theorem fold_cons (child : Xml.Node) (rest : List Xml.Node) :
    fold codec data x (child :: rest) = fold codec data (x.record (yieldOf codec data child)) rest := rfl

theorem fold_of_error {cause : ExtractionError} (h : x.error = some cause) (children : List Xml.Node) :
    fold codec data x children = x := Extraction.foldl_record_of_error h _

/-- visiting all children adds to an extraction what recording them one by one adds -/
theorem before_drain (codec : Codec) (data : Bytes) (h : x.error = none) (children : List Xml.Node) :
    x.before (drain codec data children) = fold codec data x children := by
  induction children generalizing x with
  | nil =>
    obtain ⟨infos, events, error⟩ := x
    cases h
    simp [Extraction.before, drain, fold]
  | cons child rest ih =>
    rw [fold_cons, drain]
    cases hgiven : yieldOf codec data child with
    | error cause =>
      rw [Extraction.error_record_error h, fold_of_error rfl]
      simp [Extraction.before, h]
    | ok y =>
      rw [← ih (Extraction.error_record_ok h y)]
      cases y <;> simp [Extraction.before, Extraction.record, h]

/-- visiting all children is recording what they give from left to right -/
theorem drain_eq_fold (codec : Codec) (data : Bytes) (children : List Xml.Node) :
    drain codec data children = fold codec data .empty children := by
  have h := before_drain (x := .empty) codec data rfl children
  simpa [Extraction.before, Extraction.empty] using h

/-- an extraction that has failed came to a child that fails, with what the children in front of it give -/
theorem error_fold_eq_some {cause : ExtractionError} {children : List Xml.Node} (hx : x.error = none)
    (h : (fold codec data x children).error = some cause) :
    ∃ front child back, children = front ++ child :: back ∧ yieldOf codec data child = .error cause ∧
      fold codec data x front = { fold codec data x children with error := none } := by
  induction children generalizing x with
  | nil =>
    rw [fold, List.map_nil, List.foldl_nil, hx] at h
    cases h
  | cons child rest ih =>
    rw [fold_cons] at h ⊢
    cases hgiven : yieldOf codec data child with
    | error cause' =>
      rw [hgiven] at h
      rw [Extraction.error_record_error hx, fold_of_error rfl] at h ⊢
      cases h
      refine ⟨[], child, rest, rfl, hgiven, ?_⟩
      obtain ⟨infos, events, error⟩ := x
      cases hx
      rfl
    | ok y =>
      rw [hgiven] at h
      obtain ⟨front, c, back, rfl, hc, hfront⟩ := ih (Extraction.error_record_ok hx y) h
      refine ⟨child :: front, c, back, rfl, hc, ?_⟩
      rw [fold_cons, hgiven, hfront]

/-- as long as nothing fails each element gives one module or one event, and nothing else gives any -/
theorem length_fold {children : List Xml.Node} (hx : x.error = none) (h : (fold codec data x children).error = none) :
    (fold codec data x children).infos.length + (fold codec data x children).events.length =
      x.infos.length + x.events.length + children.countP (·.element?.isSome) := by
  induction children generalizing x with
  | nil => rfl
  | cons child rest ih =>
    rw [fold_cons] at h ⊢
    cases hgiven : yieldOf codec data child with
    | error cause =>
      rw [hgiven, Extraction.error_record_error hx, fold_of_error rfl] at h
      cases h
    | ok y =>
      rw [hgiven] at h
      rw [ih (Extraction.error_record_ok hx y) h, List.countP_cons]
      have hgives := gives_iff.2 hgiven
      cases hgives with
      | noElement helement => simp [Extraction.record, hx, helement]
      | noAssembly helement => simp [Extraction.record, hx, helement]; omega
      | noOffset helement => simp [Extraction.record, hx, helement]; omega
      | module hlists =>
        obtain ⟨e, helement, -⟩ := hlists
        simp [Extraction.record, hx, helement]
        omega

end

/-! ## How an extraction ends -/

/-- the module that was given, if one was -/
def Yield.module? : Yield → Option AssemblyInfo
  | .module i => some i
  | _ => none

/-- the event that was given, if one was -/
def Yield.event? : Yield → Option Event
  | .event e => some e
  | _ => none

/-- what some children give, none of which fails -/
def AllGive (codec : Codec) (data : Bytes) (children : List Xml.Node) (given : List Yield) : Prop :=
  List.Forall₂ (fun child y => Gives codec data child (.ok y)) children given

/-- what an extraction has given when it ends -/
inductive Ends (codec : Codec) (data : Bytes) : Except Xml.DocumentError Xml.Element → Extraction → Prop
  | malformed (cause : Xml.DocumentError) : Ends codec data (.error cause) ⟨[], [], some (.document cause)⟩
  | other {root : Xml.Element} (h : Text.lower (Xml.localName root.name.expanded) ≠ "manifest") :
      Ends codec data (.ok root) ⟨[], [.missingManifest (Xml.localName root.name.expanded)], none⟩
  | whole {root : Xml.Element} {given : List Yield} (hname : Text.lower (Xml.localName root.name.expanded) = "manifest")
      (h : AllGive codec data root.children given) :
      Ends codec data (.ok root) ⟨given.filterMap Yield.module?, given.filterMap Yield.event?, none⟩
  | cut {root : Xml.Element} {front back : List Xml.Node} {child : Xml.Node} {given : List Yield} {cause : ExtractionError}
      (hname : Text.lower (Xml.localName root.name.expanded) = "manifest") (heq : root.children = front ++ child :: back)
      (h : AllGive codec data front given) (hfails : Gives codec data child (.error cause)) :
      Ends codec data (.ok root) ⟨given.filterMap Yield.module?, given.filterMap Yield.event?, some cause⟩

/-- all children give something, or those in front of one that fails do -/
theorem drain_cases (codec : Codec) (data : Bytes) (children : List Xml.Node) :
    (∃ given, AllGive codec data children given ∧
      drain codec data children = ⟨given.filterMap Yield.module?, given.filterMap Yield.event?, none⟩) ∨
    ∃ front child back given cause, children = front ++ child :: back ∧ AllGive codec data front given ∧
      Gives codec data child (.error cause) ∧
      drain codec data children = ⟨given.filterMap Yield.module?, given.filterMap Yield.event?, some cause⟩ := by
  induction children with
  | nil => exact .inl ⟨[], .nil, rfl⟩
  | cons child rest ih =>
    rcases hchild : yieldOf codec data child with cause | y
    · refine .inr ⟨[], child, rest, [], cause, rfl, .nil, gives_iff.2 hchild, ?_⟩
      rw [drain, hchild]
      rfl
    have hgives : Gives codec data child (.ok y) := gives_iff.2 hchild
    have hdrain : drain codec data (child :: rest) =
        ⟨[y].filterMap Yield.module? ++ (drain codec data rest).infos,
          [y].filterMap Yield.event? ++ (drain codec data rest).events, (drain codec data rest).error⟩ := by
      rw [drain, hchild]
      cases y <;> rfl
    rcases ih with ⟨given, hgiven, hrest⟩ | ⟨front, other, back, given, cause, rfl, hgiven, hfails, hrest⟩
    · refine .inl ⟨y :: given, .cons hgives hgiven, ?_⟩
      rw [hdrain, hrest, ← List.filterMap_append, ← List.filterMap_append]
      rfl
    · refine .inr ⟨child :: front, other, back, y :: given, cause, rfl, .cons hgives hgiven, hfails, ?_⟩
      rw [hdrain, hrest, ← List.filterMap_append, ← List.filterMap_append]
      rfl

/-- an extraction ends with what the entries give that stand before the first failing one -/
theorem ends_extract (codec : Codec) (data : Bytes) (document : Except Xml.DocumentError Xml.Element) :
    Ends codec data document (extract codec data document) := by
  rcases document with cause | root
  · exact .malformed cause
  by_cases hname : Text.lower (Xml.localName root.name.expanded) = "manifest"
  · have hroot : extract codec data (.ok root) = drain codec data root.children := by
      rw [extract, extractRoot, hname]
      rfl
    rw [hroot]
    rcases drain_cases codec data root.children with ⟨given, hgiven, hdrain⟩ |
      ⟨front, child, back, given, cause, heq, hgiven, hfails, hdrain⟩
    · rw [hdrain]
      exact .whole hname hgiven
    · rw [hdrain]
      exact .cut hname heq hgiven hfails
  · have hroot : extract codec data (.ok root) =
        ⟨[], [.missingManifest (Xml.localName root.name.expanded)], none⟩ := by
      simp only [extract, extractRoot, rootName, ne_eq, hname, not_false_eq_true, if_true]
    rw [hroot]
    exact .other hname

end Unbundle.Manifest
