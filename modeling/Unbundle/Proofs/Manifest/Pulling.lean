import Unbundle.Proofs.Manifest.Fold
import Unbundle.Proofs.Manifest.Numerals
/-
Extraction on demand: one module at a time.

An iteration has not looked at its root yet, stands in front of some children, or is over. `Iteration.next` asks for one more
module: it goes on to the next child that gives one, and records the events on the way. Asking an iteration that is over
changes nothing.

Results:
- `iterate_next_fold`: asked for as many modules as the children up to some child give, an iteration stands right behind that
  child, whatever comes after it.
- `iterate_next_over`: asked for more modules than there are, it is over and has given what the whole extraction gives.
- `gives_overlong_iff`: the children that fail for their offset.
- `extraction_in_order`: the reference that extraction agrees with, whole and on demand.
-/
namespace Unbundle.Manifest

/-! ## Iterations -/

/-- where an iteration stands -/
inductive Cursor where
  /-- nothing has been looked at -/
  | fresh (root : Xml.Element)
  /-- these children of the root are left over -/
  | within (rest : List Xml.Node)
  | over

/-- an iteration: where it stands and what it has given -/
structure Iteration where
  cursor : Cursor
  given : Extraction

namespace Iteration

/-- the iteration over a root from its start -/
def start (root : Xml.Element) : Iteration := ⟨.fresh root, .empty⟩

/-- an iteration asked for a module when some children are left over -/
def resume (codec : Codec) (data : Bytes) (given : Extraction) (rest : List Xml.Node) : Iteration :=
  match pull codec data rest with
  | (events, .finished) => ⟨.over, { given with events := given.events ++ events }⟩
  | (events, .failed cause) => ⟨.over, { given with events := given.events ++ events, error := some cause }⟩
  | (events, .module i rest) =>
    ⟨.within rest, { given with events := given.events ++ events, infos := given.infos ++ [i] }⟩

/-- an iteration asked for one more module -/
def next (codec : Codec) (data : Bytes) (t : Iteration) : Iteration :=
  match t.cursor with
  | .fresh root =>
    let name := Xml.localName root.name.expanded
    if Text.lower name ≠ rootName then
      ⟨.over, { t.given with events := t.given.events ++ [.missingManifest name] }⟩
    else resume codec data t.given root.children
  | .within rest => resume codec data t.given rest
  | .over => t

/-- the iteration over a root after it was asked for `count` modules -/
def asked (codec : Codec) (data : Bytes) (root : Xml.Element) (count : Nat) : Iteration :=
  (next codec data)^[count] (start root)

end Iteration

section

variable {codec : Codec} {data : Bytes} {x : Extraction}

open Iteration

/-! ## One step -/

theorem resume_nil : resume codec data x [] = ⟨.over, x⟩ := by
  simp [resume, pull]

/-- a child that gives a module ends the step, and one that fails ends the iteration; any other child is recorded on the way -/
theorem resume_cons (hx : x.error = none) (child : Xml.Node) (rest : List Xml.Node) :
    resume codec data x (child :: rest) =
      match yieldOf codec data child with
      | .ok (.module i) => ⟨.within rest, x.record (.ok (.module i))⟩
      | .ok y => resume codec data (x.record (.ok y)) rest
      | .error cause => ⟨.over, x.record (.error cause)⟩ := by
  cases hgiven : yieldOf codec data child with
  | error cause => simp [resume, pull, hgiven, Extraction.record, hx]
  | ok y =>
    cases y with
    | nothing => simp only [resume, pull, hgiven, Extraction.record, hx]
    | module i => simp [resume, pull, hgiven, Extraction.record, hx]
    | event e =>
      simp only [resume, pull, hgiven, Extraction.record, hx]
      cases pull codec data rest with
      | mk events reached => cases reached <;> simp

/-! ## Many steps -/

theorem iterate_next_of_over (count : Nat) : (next codec data)^[count] ⟨.over, x⟩ = ⟨.over, x⟩ := by
  induction count with
  | zero => rfl
  | succ count ih =>
    rw [Function.iterate_succ_apply]
    exact ih

/-- recording children takes no module away -/
theorem length_infos_le_fold (codec : Codec) (data : Bytes) (x : Extraction) (children : List Xml.Node) :
    x.infos.length ≤ (fold codec data x children).infos.length := by
  induction children generalizing x with
  | nil => exact Nat.le_refl _
  | cons child rest ih =>
    rw [fold_cons]
    refine Nat.le_trans ?_ (ih _)
    unfold Extraction.record
    split <;> simp

/-- asked for the modules that the children up to `child` give, an iteration stands right behind `child` -/
theorem iterate_next_fold {count : Nat} {front rest : List Xml.Node} {child : Xml.Node} {i : AssemblyInfo} (hx : x.error = none)
    (hfront : (fold codec data x front).error = none)
    (hcount : (fold codec data x front).infos.length = x.infos.length + count)
    (hchild : yieldOf codec data child = .ok (.module i)) :
    (next codec data)^[count] (resume codec data x (front ++ child :: rest)) =
      ⟨.within rest, (fold codec data x front).record (.ok (.module i))⟩ := by
  induction front generalizing x count with
  | nil =>
    obtain rfl : count = 0 := by
      have : (fold codec data x []).infos.length = x.infos.length := rfl
      omega
    rw [List.nil_append, resume_cons hx, hchild]
    rfl
  | cons c front ih =>
    rw [fold_cons] at hfront hcount ⊢
    rw [List.cons_append, resume_cons hx]
    cases hgiven : yieldOf codec data c with
    | error cause =>
      rw [hgiven, Extraction.error_record_error hx, fold_of_error rfl] at hfront
      cases hfront
    | ok y =>
      rw [hgiven] at hfront hcount
      have hnone := Extraction.error_record_ok hx y
      cases y with
      | nothing => exact ih hnone hfront (by simpa [Extraction.record, hx] using hcount)
      | event e => exact ih hnone hfront (by simpa [Extraction.record, hx] using hcount)
      | module j =>
        -- this module takes one of the steps
        have hlength := Extraction.length_record_module hx j
        have hle := length_infos_le_fold codec data (x.record (.ok (.module j))) front
        obtain ⟨k, rfl⟩ : ∃ k, count = k + 1 := ⟨count - 1, by omega⟩
        have hk : (fold codec data (x.record (.ok (.module j))) front).infos.length =
            (x.record (.ok (.module j))).infos.length + k := by omega
        rw [Function.iterate_succ_apply]
        exact ih hnone hfront hk

/-- asked for more modules than the children give, an iteration is over -/
theorem iterate_next_over {count : Nat} {children : List Xml.Node} (hx : x.error = none)
    (hcount : (fold codec data x children).infos.length ≤ x.infos.length + count) :
    (next codec data)^[count] (resume codec data x children) = ⟨.over, fold codec data x children⟩ := by
  induction children generalizing x count with
  | nil => rw [resume_nil, iterate_next_of_over]; rfl
  | cons c rest ih =>
    rw [fold_cons] at hcount ⊢
    rw [resume_cons hx]
    cases hgiven : yieldOf codec data c with
    | error cause =>
      rw [iterate_next_of_over, Extraction.error_record_error hx, fold_of_error rfl]
    | ok y =>
      rw [hgiven] at hcount
      have hnone := Extraction.error_record_ok hx y
      cases y with
      | nothing => exact ih hnone (by simpa [Extraction.record, hx] using hcount)
      | event e => exact ih hnone (by simpa [Extraction.record, hx] using hcount)
      | module j =>
        have hlength := Extraction.length_record_module hx j
        have hle := length_infos_le_fold codec data (x.record (.ok (.module j))) rest
        obtain ⟨k, rfl⟩ : ∃ k, count = k + 1 := ⟨count - 1, by omega⟩
        have hk : (fold codec data (x.record (.ok (.module j))) rest).infos.length ≤
            (x.record (.ok (.module j))).infos.length + k := by omega
        rw [Function.iterate_succ_apply]
        exact ih hnone hk

/-- the child that gives a certain one of the modules -/
theorem exists_child_of_lt {count : Nat} {children : List Xml.Node} (hx : x.error = none) (hlow : x.infos.length ≤ count)
    (hhigh : count < (fold codec data x children).infos.length) :
    ∃ front child rest i, children = front ++ child :: rest ∧ yieldOf codec data child = .ok (.module i) ∧
      (fold codec data x front).error = none ∧ (fold codec data x front).infos.length = count := by
  induction children generalizing x with
  | nil =>
    have : (fold codec data x []).infos.length = x.infos.length := rfl
    omega
  | cons c rest ih =>
    rw [fold_cons] at hhigh
    cases hgiven : yieldOf codec data c with
    | error cause =>
      rw [hgiven, Extraction.error_record_error hx, fold_of_error rfl] at hhigh
      exact absurd hhigh (Nat.not_lt.2 hlow)
    | ok y =>
      rw [hgiven] at hhigh
      have hnone := Extraction.error_record_ok hx y
      by_cases hmodule : ∃ i, y = .module i ∧ x.infos.length = count
      · obtain ⟨i, rfl, hlength⟩ := hmodule
        exact ⟨[], c, rest, i, rfl, hgiven, hx, hlength⟩
      · have hlow' : (x.record (.ok y)).infos.length ≤ count := by
          cases y with
          | nothing => simpa [Extraction.record, hx] using hlow
          | event e => simpa [Extraction.record, hx] using hlow
          | module i =>
            have hne : x.infos.length ≠ count := fun heq => hmodule ⟨i, rfl, heq⟩
            simp only [Extraction.record, hx, List.length_append, List.length_singleton]
            omega
        obtain ⟨front, child, back, i, rfl, hchild, hfront, hlength⟩ := ih hnone hlow' hhigh
        refine ⟨c :: front, child, back, i, rfl, hchild, ?_, ?_⟩
        · rw [fold_cons, hgiven]
          exact hfront
        · rw [fold_cons, hgiven]
          exact hlength

end

/-! ## Whole roots -/

section

variable {codec : Codec} {data : Bytes} {root : Xml.Element}

open Iteration

theorem extractRoot_of_name (h : Text.lower (Xml.localName root.name.expanded) = "manifest") :
    extractRoot codec data root = fold codec data .empty root.children := by
  simp only [extractRoot, rootName, h, ne_eq, not_true_eq_false, if_false, drain_eq_fold]

theorem extractRoot_of_other_name (codec : Codec) (data : Bytes)
    (h : Text.lower (Xml.localName root.name.expanded) ≠ "manifest") :
    extractRoot codec data root = ⟨[], [.missingManifest (Xml.localName root.name.expanded)], none⟩ := by
  simp only [extractRoot, rootName, h, ne_eq, not_false_eq_true, if_true]

theorem asked_of_name (root : Xml.Element) (h : Text.lower (Xml.localName root.name.expanded) = "manifest") (count : Nat) :
    asked codec data root (count + 1) = (next codec data)^[count] (resume codec data .empty root.children) := by
  rw [asked, Function.iterate_succ_apply]
  simp only [next, start, rootName, h, ne_eq, not_true_eq_false, if_false]

theorem asked_of_other_name (h : Text.lower (Xml.localName root.name.expanded) ≠ "manifest") (count : Nat) :
    asked codec data root (count + 1) = ⟨.over, extractRoot codec data root⟩ := by
  have hnext : next codec data (start root) = ⟨.over, extractRoot codec data root⟩ := by
    rw [extractRoot_of_other_name codec data h]
    simp only [next, start, rootName, h, ne_eq, not_false_eq_true, if_true]
    rfl
  rw [asked, Function.iterate_succ_apply, hnext, iterate_next_of_over]

theorem forall₂_gives_iff {children : List Xml.Node} {given : List (Except ExtractionError Yield)} :
    List.Forall₂ (Gives codec data) children given ↔ given = children.map (yieldOf codec data) := by
  induction children generalizing given with
  | nil => rw [List.forall₂_nil_left_iff, List.map_nil]
  | cons child rest ih =>
    rw [List.forall₂_cons_left_iff, List.map_cons]
    constructor
    · rintro ⟨g, gs, hg, hgs, rfl⟩
      rw [gives_iff.1 hg, ih.1 hgs]
    · rintro rfl
      exact ⟨_, _, gives_iff.2 rfl, ih.2 rfl, rfl⟩

/-- an assembly fails for its offset if that is the numeral of a number with too many digits -/
theorem gives_overlong_iff {child : Xml.Node} {cause : Overlong} : Gives codec data child (.error (.offset cause)) ↔
    ∃ e text n, child.element? = some e ∧ Text.lower (Xml.localName e.name.expanded) = "assembly" ∧
      e.attribute? "offset" = some text ∧ Numeral text n ∧ digitLimit < text.toList.countP isDigit ∧
      cause = ⟨text.toList.countP isDigit⟩ := by
  constructor
  · rintro (_ | _ | _ | ⟨h, hname, hoffset⟩)
    obtain ⟨text, n, htext, hn, hlong, hcause⟩ := offsetOf_eq_error_iff.1 hoffset
    exact ⟨_, text, n, h, hname, htext, hn, hlong, hcause⟩
  · rintro ⟨e, text, n, h, hname, htext, hn, hlong, hcause⟩
    exact .overlong h hname (offsetOf_eq_error_iff.2 ⟨text, n, htext, hn, hlong, hcause⟩)

/-- what the extraction of a root comes to, whole and on demand -/
structure ExtractsInOrder (codec : Codec) (data : Bytes) (root : Xml.Element) : Prop where
  /-- a root of another name is one event -/
  other : Text.lower (Xml.localName root.name.expanded) ≠ "manifest" →
    extractRoot codec data root = ⟨[], [.missingManifest (Xml.localName root.name.expanded)], none⟩
  /-- each child of a manifest gives one thing only, and these are recorded from left to right -/
  manifest : Text.lower (Xml.localName root.name.expanded) = "manifest" →
    ∃ given, List.Forall₂ (Gives codec data) root.children given ∧
      (∀ given', List.Forall₂ (Gives codec data) root.children given' → given' = given) ∧
      extractRoot codec data root = given.foldl Extraction.record .empty
  /-- a child fails for its offset exactly if that is a numeral of more digits than are read -/
  overlong : ∀ child cause, Gives codec data child (.error (.offset cause)) ↔
    ∃ e text n, child.element? = some e ∧ Text.lower (Xml.localName e.name.expanded) = "assembly" ∧
      e.attribute? "offset" = some text ∧ Numeral text n ∧ 4300 < text.toList.countP isDigit ∧
      cause = ⟨text.toList.countP isDigit⟩
  /-- after a failure there is what the children before the failing one give -/
  failure : ∀ cause, (extractRoot codec data root).error = some cause →
    ∃ front child back, root.children = front ++ child :: back ∧ Gives codec data child (.error cause) ∧
      extractRoot codec data { root with children := front } = { extractRoot codec data root with error := none }
  /-- without failure each element of a manifest gives a module or an event -/
  count : Text.lower (Xml.localName root.name.expanded) = "manifest" → (extractRoot codec data root).error = none →
    (extractRoot codec data root).infos.length + (extractRoot codec data root).events.length =
      root.children.countP (·.element?.isSome)
  /-- as long as no module is asked for nothing is looked at -/
  unasked : asked codec data root 0 = ⟨.fresh root, .empty⟩
  /-- asked for some of the modules, an iteration stands right behind the child that gives the last of them; what comes after
  that child makes no difference -/
  partway : ∀ count < (extractRoot codec data root).infos.length,
    ∃ front child rest i, root.children = front ++ child :: rest ∧ Gives codec data child (.ok (.module i)) ∧
      (extractRoot codec data { root with children := front }).error = none ∧
      (extractRoot codec data { root with children := front }).infos.length = count ∧
      ∀ rest', asked codec data { root with children := front ++ child :: rest' } (count + 1) =
        ⟨.within rest', ⟨(extractRoot codec data { root with children := front }).infos ++ [i],
          (extractRoot codec data { root with children := front }).events, none⟩⟩
  /-- asked for more modules than there are, it is over and has given what the whole extraction gives -/
  exhausted : ∀ count, (extractRoot codec data root).infos.length < count →
    asked codec data root count = ⟨.over, extractRoot codec data root⟩

/-- **Extraction goes from left to right, up to the first failure, and no further than it is asked to.** Nothing is assumed of
decompression and identification, except that they are functions. Besides their failures there is one of another kind: an offset
of more than 4300 digits is not passed over as one that does not fit, but ends the extraction. -/
theorem extraction_in_order (codec : Codec) (data : Bytes) (root : Xml.Element) : ExtractsInOrder codec data root := by
  by_cases hname : Text.lower (Xml.localName root.name.expanded) = "manifest"
  · have hwhole (children : List Xml.Node) :
        extractRoot codec data { root with children } = fold codec data .empty children := extractRoot_of_name hname
    have hroot : extractRoot codec data root = fold codec data .empty root.children := extractRoot_of_name hname
    refine ⟨fun h => absurd hname h, fun _ => ?_, fun _ _ => gives_overlong_iff, fun cause hfails => ?_, fun _ hnone => ?_, rfl,
      fun count hcount => ?_, fun count hcount => ?_⟩
    · refine ⟨root.children.map (yieldOf codec data), forall₂_gives_iff.2 rfl, fun given' h => forall₂_gives_iff.1 h, ?_⟩
      rw [hroot, fold]
    · rw [hroot] at hfails
      obtain ⟨front, child, back, heq, hchild, hfront⟩ := error_fold_eq_some rfl hfails
      refine ⟨front, child, back, heq, gives_iff.2 hchild, ?_⟩
      rw [hwhole, hfront, hroot]
    · rw [hroot] at hnone ⊢
      have hlength := length_fold rfl hnone
      rw [hlength]
      exact Nat.zero_add _
    · rw [hroot] at hcount
      obtain ⟨front, child, rest, i, heq, hchild, hnone, hlength⟩ :=
        exists_child_of_lt (x := .empty) rfl (Nat.zero_le count) hcount
      refine ⟨front, child, rest, i, heq, gives_iff.2 hchild, ?_, ?_, fun rest' => ?_⟩
      · rw [hwhole, hnone]
      · rw [hwhole, hlength]
      · have hcounted : (fold codec data .empty front).infos.length = Extraction.empty.infos.length + count := by
          rw [hlength]
          exact (Nat.zero_add count).symm
        have hasked : (next codec data)^[count] (resume codec data .empty (front ++ child :: rest')) =
            ⟨.within rest', (fold codec data .empty front).record (.ok (.module i))⟩ :=
          iterate_next_fold rfl hnone hcounted hchild
        rw [asked_of_name { root with children := front ++ child :: rest' } hname, hasked, hwhole]
        simp only [Extraction.record, hnone]
    · rw [hroot] at hcount ⊢
      obtain ⟨k, rfl⟩ : ∃ k, count = k + 1 := ⟨count - 1, by omega⟩
      have hk : (fold codec data .empty root.children).infos.length ≤ Extraction.empty.infos.length + k := by
        have : Extraction.empty.infos.length = 0 := rfl
        omega
      rw [asked_of_name root hname, iterate_next_over rfl hk]
  · have hroot := extractRoot_of_other_name codec data hname
    refine ⟨fun _ => hroot, fun h => absurd h hname, fun _ _ => gives_overlong_iff, fun cause hfails => ?_,
      fun h => absurd h hname, rfl, fun count hcount => ?_, fun count hcount => ?_⟩
    · rw [hroot] at hfails
      cases hfails
    · rw [hroot] at hcount
      exact absurd hcount (Nat.not_lt_zero count)
    · obtain ⟨k, rfl⟩ : ∃ k, count = k + 1 := ⟨count - 1, by omega⟩
      exact asked_of_other_name hname k

end

/-! ## An offset that is too long -/

/-- a number of some digits, all of them ones -/
def ones (count : Nat) : String := String.ofList (List.replicate count '1')

theorem offsetOf_ones {count : Nat} (h : digitLimit < count) : offsetOf (some (ones count)) = .error ⟨count⟩ := by
  have hones : ∀ c ∈ List.replicate count '1', c = '1' := fun c hc => List.eq_of_mem_replicate hc
  have hne : List.replicate count '1' ≠ [] := fun hnil => by
    rw [List.replicate_eq_nil_iff] at hnil
    exact absurd h (hnil ▸ Nat.not_lt_zero _)
  have hnumeral : Numeral (ones count) (1 * Nat.ofDigitChars 10 (List.replicate count '1') 0) := by
    refine ⟨[], [], List.replicate count '1', [], 1, by simp [ones], by simp, .unsigned, hne, fun c hc => ?_, rfl⟩
    rw [hones c hc]
    decide
  have hcount : (ones count).toList.countP isDigit = count := by
    rw [ones, String.toList_ofList, List.countP_eq_length.2 fun c hc => hones c hc ▸ rfl, List.length_replicate]
  exact offsetOf_eq_error_iff.2 ⟨_, _, rfl, hnumeral, hcount.symm ▸ h, by rw [hcount]⟩

/-- a manifest with one entry -/
def singleRoot (offset : String) : Xml.Element :=
  ⟨⟨none, "manifest"⟩, [], [.element ⟨none, "assembly"⟩ [⟨⟨none, "offset"⟩, offset⟩] []]⟩

/-- an offset of 5000 digits is not one event more but the end of the extraction -/
theorem extraction_in_order_overlong :
    extractRoot ⟨Flate.inflate, fun _ => .error .notAnImage⟩ [] (singleRoot (ones 5000)) = ⟨[], [], some (.offset ⟨5000⟩)⟩ := by
  have hgives : Gives ⟨Flate.inflate, fun _ => .error .notAnImage⟩ []
      (.element ⟨none, "assembly"⟩ [⟨⟨none, "offset"⟩, ones 5000⟩] []) (.error (.offset ⟨5000⟩)) :=
    .overlong rfl (by decide +kernel) (offsetOf_ones (by decide))
  obtain ⟨given, -, hunique, hextract⟩ := (extraction_in_order ⟨Flate.inflate, fun _ => .error .notAnImage⟩ []
    (singleRoot (ones 5000))).manifest (by decide +kernel)
  rw [hextract, ← hunique _ (.cons hgives .nil)]
  rfl

end Unbundle.Manifest
