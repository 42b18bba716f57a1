import Unbundle.Proofs.Manifest.Pulling
/-
A manifest may be presented in many ways.

Its elements may be put into any namespaces and their names be written with large or small letters. Comments, instructions and
texts may stand between the entries. Elements may have further attributes, and entries may have content. `Restyles` is one such
change, and a manifest is presented otherwise by any number of them. None of them touches what an extraction looks at, which is
of each entry its local name, whatever the case, and its offset.

The argument: a change keeps the entries alike one by one (`Alike`), entries that are alike give the same but for the names in
events, and so an iteration over the one manifest goes step by step with an iteration over the other. That the whole extraction
comes to the same is the case of an iteration that is asked until it is over.

Results:
- `localName_expanded`: the namespace is stripped from a name, whatever characters it is made of.
- `sameYield_entry`: entries that are alike give the same module, the same failure, or an event of one kind.
- `similar_next`: iterations that have given the same still have when both are asked for one more module.
- `extraction_of_restyled`: a manifest gives the same however it is presented.
-/
namespace Unbundle.Xml

variable {a b c : String}

/-- the namespace is stripped from a name, whatever characters it is made of, as long as the local part has no closing brace -/
theorem localName_expanded {n : Name} (h : '\x7d' ∉ n.localPart.toList) : localName n.expanded = n.localPart := by
  have hall : ∀ c ∈ n.localPart.toList.reverse, decide (c ≠ '\x7d') = true := by
    intro c hc
    refine decide_eq_true ?_
    rintro rfl
    exact h (List.mem_reverse.1 hc)
  obtain ⟨space, localPart⟩ := n
  cases space with
  | none =>
    have htake : localPart.toList.reverse.takeWhile (· ≠ '\x7d') = localPart.toList.reverse := List.takeWhile_eq_self_iff.2 hall
    rw [localName, Name.expanded, htake, List.reverse_reverse, String.ofList_toList]
  | some uri =>
    have hsplit : ("\x7b" ++ uri ++ "\x7d" ++ localPart).toList.reverse =
        localPart.toList.reverse ++ '\x7d' :: ("\x7b" ++ uri).toList.reverse := by
      simp
    rw [localName, Name.expanded, hsplit, List.takeWhile_append_of_pos hall, List.takeWhile_cons_of_neg (by simp),
      List.append_nil, List.reverse_reverse, String.ofList_toList]

/-- two texts have the same letters, each of them large or small; only letters of ASCII have two forms here -/
def SameLetters (a b : String) : Prop := a.toList.map Char.toLower = b.toList.map Char.toLower

theorem SameLetters.trans (h : SameLetters a b) (h' : SameLetters b c) : SameLetters a c := Eq.trans h h'

theorem toLower_of_wide {d : Char} (h : ¬ d.toNat < 0x80) : d.toLower = d := by
  have hnot : ¬ (d.val ≥ 'A'.val ∧ d.val ≤ 'Z'.val) := by
    rintro ⟨-, hhigh⟩
    have : d.toNat ≤ 90 := hhigh
    omega
  rw [Char.toLower, dif_neg hnot]

theorem toLower_cases (d : Char) : d.toLower = d ∨ (65 ≤ d.toNat ∧ d.toNat ≤ 90 ∧ d.toLower.toNat = d.toNat + 32) := by
  by_cases h : d.val ≥ 'A'.val ∧ d.val ≤ 'Z'.val
  · refine .inr ⟨h.1, h.2, ?_⟩
    have hhigh : d.toNat ≤ 90 := h.2
    rw [Char.toLower, dif_pos h]
    show (d.val + 32).toNat = d.toNat + 32
    rw [UInt32.toNat_add]
    have : d.val.toNat = d.toNat := rfl
    have h32 : (32 : UInt32).toNat = 32 := rfl
    omega
  · exact .inl (by rw [Char.toLower, dif_neg h])

theorem lowerChar_toLower (d : Char) : Text.lowerChar d.toLower = Text.lowerChar d := by
  by_cases hascii : d.toNat < 0x80
  · rcases toLower_cases d with heq | ⟨hlow, hhigh, hsmall⟩
    · rw [heq]
    · have hfixed : d.toLower.toLower = d.toLower := by
        rcases toLower_cases d.toLower with heq | ⟨-, hle, -⟩
        · exact heq
        · omega
      rw [Text.lowerChar, if_pos (by omega), Text.lowerChar, if_pos hascii, hfixed]
  · rw [toLower_of_wide hascii]

/-- texts with the same letters are one in lower case -/
theorem SameLetters.lower_eq (h : SameLetters a b) : Text.lower a = Text.lower b := by
  have hlower (s : String) : Text.lower s = String.ofList ((s.toList.map Char.toLower).flatMap Text.lowerChar) := by
    rw [Text.lower, List.flatMap_map]
    exact congrArg String.ofList (congrArg (s.toList.flatMap ·) (funext fun d => (lowerChar_toLower d).symm))
  rw [hlower, hlower, h]

/-- no letter is a closing brace in another case -/
theorem SameLetters.not_mem (h : SameLetters a b) (ha : '\x7d' ∉ a.toList) : '\x7d' ∉ b.toList := by
  intro hb
  have hmem : '\x7d' ∈ a.toList.map Char.toLower := by
    rw [h]
    exact List.mem_map.2 ⟨_, hb, rfl⟩
  obtain ⟨d, hd, hlower⟩ := List.mem_map.1 hmem
  rcases toLower_cases d with heq | ⟨-, hhigh, hsmall⟩
  · rw [heq] at hlower
    exact ha (hlower ▸ hd)
  · rw [hlower] at hsmall
    have : Char.toNat '\x7d' = 125 := rfl
    omega

end Unbundle.Xml

namespace Unbundle.Manifest

open Xml

/-! ## Other presentations -/

/-- one change in how a manifest is presented: the name of the root or of an entry gets another namespace or other cases, or an
entry a further attribute or another content; what stands between the entries is put in or taken out; whatever the root's own
attributes are -/
inductive Restyles : Element → Element → Prop
  | root {name name' : Name} {attributes attributes' : List Attribute} {children : List Node}
      (h : SameLetters name.localPart name'.localPart) : Restyles ⟨name, attributes, children⟩ ⟨name', attributes', children⟩
  | entry {root name name' : Name} {attributes given : List Attribute} {front back content : List Node}
      (h : SameLetters name.localPart name'.localPart) :
      Restyles ⟨root, attributes, front ++ .element name given content :: back⟩
        ⟨root, attributes, front ++ .element name' given content :: back⟩
  | adorn {root name : Name} {attributes before after : List Attribute} {front back content : List Node} {added : Attribute}
      (h : added.name ≠ ⟨none, "offset"⟩) :
      Restyles ⟨root, attributes, front ++ .element name (before ++ after) content :: back⟩
        ⟨root, attributes, front ++ .element name (before ++ added :: after) content :: back⟩
  | content {root name : Name} {attributes given : List Attribute} {front back content content' : List Node} :
      Restyles ⟨root, attributes, front ++ .element name given content :: back⟩
        ⟨root, attributes, front ++ .element name given content' :: back⟩
  | putIn {root : Name} {attributes : List Attribute} {front back : List Node} {node : Node} (h : node.element? = none) :
      Restyles ⟨root, attributes, front ++ back⟩ ⟨root, attributes, front ++ node :: back⟩
  | takeOut {root : Name} {attributes : List Attribute} {front back : List Node} {node : Node} (h : node.element? = none) :
      Restyles ⟨root, attributes, front ++ node :: back⟩ ⟨root, attributes, front ++ back⟩

/-- the elements among some nodes -/
def elements (nodes : List Node) : List Element := nodes.filterMap Node.element?

/-- the local names of a manifest and its entries have no closing brace -/
def Plain (root : Element) : Prop := ∀ e ∈ root :: elements root.children, '\x7d' ∉ e.name.localPart.toList

/-- two entries are alike: they have the same name, whatever the case, and the same offset -/
structure Alike (e e' : Element) : Prop where
  letters : SameLetters e.name.localPart e'.name.localPart
  plain : '\x7d' ∉ e.name.localPart.toList
  offset : e.attribute? "offset" = e'.attribute? "offset"

/-- two manifests are alike: so are their entries, one by one -/
structure AlikeRoots (root root' : Element) : Prop where
  letters : SameLetters root.name.localPart root'.name.localPart
  plain : '\x7d' ∉ root.name.localPart.toList
  entries : List.Forall₂ Alike (elements root.children) (elements root'.children)

theorem Alike.refl {e : Element} (h : '\x7d' ∉ e.name.localPart.toList) : Alike e e := ⟨rfl, h, rfl⟩

theorem Alike.trans {e e' e'' : Element} (h : Alike e e') (h' : Alike e' e'') : Alike e e'' :=
  ⟨h.letters.trans h'.letters, h.plain, h.offset.trans h'.offset⟩

theorem forall₂_alike_trans {es es' es'' : List Element} (h : List.Forall₂ Alike es es') (h' : List.Forall₂ Alike es' es'') :
    List.Forall₂ Alike es es'' := by
  induction h generalizing es'' with
  | nil => exact h'
  | cons hhead _ ih =>
    obtain ⟨e, rest, hhead', hrest', rfl⟩ := List.forall₂_cons_left_iff.1 h'
    exact .cons (hhead.trans hhead') (ih hrest')

theorem elements_append (front back : List Node) : elements (front ++ back) = elements front ++ elements back :=
  List.filterMap_append ..

theorem elements_cons_of_none {node : Node} (h : node.element? = none) (back : List Node) :
    elements (node :: back) = elements back := List.filterMap_cons_none h

variable {root root' root'' : Element}

theorem AlikeRoots.refl (h : Plain root) : AlikeRoots root root :=
  ⟨rfl, h root List.mem_cons_self, List.forall₂_same.2 fun e he => .refl (h e (List.mem_cons_of_mem root he))⟩

theorem AlikeRoots.trans (h : AlikeRoots root root') (h' : AlikeRoots root' root'') : AlikeRoots root root'' :=
  ⟨h.letters.trans h'.letters, h.plain, forall₂_alike_trans h.entries h'.entries⟩

theorem AlikeRoots.right_plain (h : AlikeRoots root root') : Plain root' := by
  refine List.forall_mem_cons.2 ⟨h.letters.not_mem h.plain, fun e he => ?_⟩
  obtain ⟨i, hi, rfl⟩ := List.getElem_of_mem he
  have halike := h.entries.get (h.entries.length_eq ▸ hi) hi
  exact halike.letters.not_mem halike.plain

/-- attributes of other names change nothing about an offset -/
theorem attribute?_added {name : Name} {before after : List Attribute} {content content' : List Node} {added : Attribute}
    (h : added.name ≠ ⟨none, "offset"⟩) :
    Element.attribute? ⟨name, before ++ added :: after, content⟩ "offset" =
      Element.attribute? ⟨name, before ++ after, content'⟩ "offset" := by
  rw [Element.attribute?, Element.attribute?, List.find?_append, List.find?_append,
    List.find?_cons_of_neg (by simpa using h)]

/-- entries stay alike where one of them is changed into one that is alike -/
theorem alikeRoots_of_entry {root : Name} {attributes : List Attribute} {front back : List Node} {node node' : Node}
    {e e' : Element} (hplain : Plain ⟨root, attributes, front ++ node :: back⟩) (hnode : node.element? = some e)
    (hnode' : node'.element? = some e') (h : '\x7d' ∉ e.name.localPart.toList → Alike e e') :
    AlikeRoots ⟨root, attributes, front ++ node :: back⟩ ⟨root, attributes, front ++ node' :: back⟩ := by
  have hcons : elements (node :: back) = e :: elements back := List.filterMap_cons_some hnode
  have hcons' : elements (node' :: back) = e' :: elements back := List.filterMap_cons_some hnode'
  have hentries : ∀ x ∈ elements front ++ e :: elements back, '\x7d' ∉ x.name.localPart.toList := by
    intro x hx
    refine hplain x (List.mem_cons_of_mem _ ?_)
    rwa [elements_append, hcons]
  refine ⟨rfl, hplain _ List.mem_cons_self, ?_⟩
  rw [elements_append, elements_append, hcons, hcons']
  refine List.rel_append (List.forall₂_same.2 fun x hx => .refl (hentries x (List.mem_append_left _ hx))) (.cons ?_ ?_)
  · exact h (hentries e (by simp))
  · exact List.forall₂_same.2 fun x hx => .refl (hentries x (by simp [hx]))

/-- one change keeps a manifest alike -/
theorem alikeRoots_of_restyles (hplain : Plain root) (h : Restyles root root') : AlikeRoots root root' := by
  have hsame {name : Name} {attributes : List Attribute} {children children' : List Node}
      (hplain : Plain ⟨name, attributes, children⟩) (heq : elements children = elements children') :
      AlikeRoots ⟨name, attributes, children⟩ ⟨name, attributes, children'⟩ :=
    ⟨rfl, hplain _ List.mem_cons_self, heq ▸ (AlikeRoots.refl hplain).entries⟩
  cases h with
  | root h => exact ⟨h, hplain _ List.mem_cons_self, (AlikeRoots.refl hplain).entries⟩
  | entry h => exact alikeRoots_of_entry hplain rfl rfl fun he => ⟨h, he, rfl⟩
  | adorn h => exact alikeRoots_of_entry hplain rfl rfl fun he => ⟨rfl, he, (attribute?_added h).symm⟩
  | content => exact alikeRoots_of_entry hplain rfl rfl fun he => ⟨rfl, he, rfl⟩
  | putIn h => exact hsame hplain (by rw [elements_append, elements_append, elements_cons_of_none h])
  | takeOut h => exact hsame hplain (by rw [elements_append, elements_append, elements_cons_of_none h])

/-- so do any number of changes -/
theorem alikeRoots_of_restyled (hplain : Plain root) (h : Relation.ReflTransGen Restyles root root') :
    AlikeRoots root root' := by
  induction h with
  | refl => exact .refl hplain
  | tail _ hstep ih => exact ih.trans (alikeRoots_of_restyles ih.right_plain hstep)

/-! ## What entries that are alike give -/

/-- two elements give the same: one failure, one module, or an event of one kind that tells the element's own local name -/
inductive SameYield (e e' : Element) : Except ExtractionError Yield → Except ExtractionError Yield → Prop
  | error (cause : ExtractionError) : SameYield e e' (.error cause) (.error cause)
  | module (i : AssemblyInfo) : SameYield e e' (.ok (.module i)) (.ok (.module i))
  | event {v v' : Event} (hkind : v'.kind = v.kind) (hname : v.element = some e.name.localPart)
      (hname' : v'.element = some e'.name.localPart) : SameYield e e' (.ok (.event v)) (.ok (.event v'))

variable {codec : Codec} {data : Bytes} {x x' : Extraction} {e e' : Element}

theorem sameYield_entry (codec : Codec) (data : Bytes) (h : Alike e e') :
    SameYield e e' (entry codec data e) (entry codec data e') := by
  have hname : localName e.name.expanded = e.name.localPart := localName_expanded h.plain
  have hname' : localName e'.name.expanded = e'.name.localPart := localName_expanded (h.letters.not_mem h.plain)
  rw [entry, entry, hname, hname', ← h.letters.lower_eq, offsetName, ← h.offset]
  split_ifs with hother
  · exact .event rfl rfl rfl
  rcases offsetOf (e.attribute? "offset") with cause | offset
  · exact .error (.offset cause)
  dsimp only
  split_ifs with hnegative
  · exact .event rfl rfl rfl
  · rcases moduleAt codec data offset with cause | i
    · exact .error cause
    · exact .module i

/-! ## Iterations over manifests that are alike -/

/-- two extractions have given the same modules and events of the same kinds, and failed for the same reason if they failed -/
structure Similar (x x' : Extraction) : Prop where
  infos : x'.infos = x.infos
  kinds : x'.events.map (·.kind) = x.events.map (·.kind)
  error : x'.error = x.error

theorem Similar.record (h : Similar x x') {g g' : Except ExtractionError Yield} (hg : SameYield e e' g g') :
    Similar (x.record g) (x'.record g') := by
  unfold Extraction.record
  rw [h.error]
  cases herror : x.error with
  | some cause => exact h
  | none =>
    cases hg with
    | error cause => exact ⟨h.infos, h.kinds, rfl⟩
    | module i => exact ⟨by rw [h.infos], h.kinds, rfl⟩
    | event hkind _ _ => exact ⟨h.infos, by simp [h.kinds, hkind], rfl⟩

open Iteration

/-- two iterations stand before the same entries -/
inductive SimilarPlace : Cursor → Cursor → Prop
  | fresh {root root' : Element} (h : AlikeRoots root root') : SimilarPlace (.fresh root) (.fresh root')
  | within {rest rest' : List Node} (h : List.Forall₂ Alike (elements rest) (elements rest')) :
      SimilarPlace (.within rest) (.within rest')
  | ended : SimilarPlace .over .over

/-- two iterations have given the same and stand before the same entries; one that has failed is over -/
structure SimilarIteration (t t' : Iteration) : Prop where
  place : SimilarPlace t.cursor t'.cursor
  given : Similar t.given t'.given
  ended : t.given.error ≠ none → t.cursor = .over

/-- what is no element is passed by -/
theorem resume_skip {front : List Node} (hx : x.error = none) (h : ∀ node ∈ front, node.element? = none) (rest : List Node) :
    resume codec data x (front ++ rest) = resume codec data x rest := by
  induction front with
  | nil => rfl
  | cons node front ih =>
    obtain ⟨hnode, hfront⟩ := List.forall_mem_cons.1 h
    have hnothing : yieldOf codec data node = .ok .nothing := by rw [yieldOf, hnode]
    have hrecord : x.record (.ok .nothing) = x := by simp only [Extraction.record, hx]
    rw [List.cons_append, resume_cons hx, hnothing]
    dsimp only
    rw [hrecord, ih hfront]

/-- iterations in front of the same entries go as far as the same module, or the same failure -/
theorem similar_resume {nodes nodes' : List Node} (h : List.Forall₂ Alike (elements nodes) (elements nodes'))
    (hx : x.error = none) (hsimilar : Similar x x') :
    SimilarIteration (resume codec data x nodes) (resume codec data x' nodes') := by
  -- the induction is on the entries and not on the nodes, of which there may be more on one side
  have hx' : x'.error = none := hsimilar.error.trans hx
  generalize hes : elements nodes = es at h
  generalize hes' : elements nodes' = es' at h
  induction h generalizing nodes nodes' x x' with
  | nil =>
    have hnodes := List.filterMap_eq_nil_iff.1 hes
    have hnodes' := List.filterMap_eq_nil_iff.1 hes'
    rw [← List.append_nil nodes, ← List.append_nil nodes', resume_skip hx hnodes, resume_skip hx' hnodes', resume_nil, resume_nil]
    exact ⟨.ended, hsimilar, fun _ => rfl⟩
  | @cons e e' rest rest' halike hrest ih =>
    obtain ⟨front, node, back, rfl, hfront, hnode, hback⟩ := List.filterMap_eq_cons_iff.1 hes
    obtain ⟨front', node', back', rfl, hfront', hnode', hback'⟩ := List.filterMap_eq_cons_iff.1 hes'
    have hgives : yieldOf codec data node = entry codec data e := by rw [yieldOf, hnode]
    have hgives' : yieldOf codec data node' = entry codec data e' := by rw [yieldOf, hnode']
    rw [resume_skip hx hfront, resume_skip hx' hfront', resume_cons hx, resume_cons hx', hgives, hgives']
    have hyield := sameYield_entry codec data halike
    have hrecord := hsimilar.record hyield
    generalize entry codec data e = g at hyield hrecord ⊢
    generalize entry codec data e' = g' at hyield hrecord ⊢
    cases hyield with
    | error cause => exact ⟨.ended, hrecord, fun _ => rfl⟩
    | module i =>
      have hbacks : List.Forall₂ Alike (elements back) (elements back') := by
        rwa [elements, elements, hback, hback']
      exact ⟨.within hbacks, hrecord, fun hfailed => absurd (Extraction.error_record_ok hx _) hfailed⟩
    | event _ _ _ =>
      exact ih (Extraction.error_record_ok hx _) hrecord (Extraction.error_record_ok hx' _) hback hback'

/-- iterations that have given the same still have when both are asked for one more module -/
theorem similar_next {t t' : Iteration} (h : SimilarIteration t t') :
    SimilarIteration (next codec data t) (next codec data t') := by
  obtain ⟨cursor, x⟩ := t
  obtain ⟨cursor', x'⟩ := t'
  obtain ⟨hplace, hgiven, hended⟩ := h
  -- an iteration that is not over has not failed, as `resume_skip` and `resume_cons` need it
  have hgoes (hcursor : cursor ≠ .over) : x.error = none := by
    by_contra hfailed
    exact hcursor (hended hfailed)
  cases hplace with
  | ended => exact ⟨.ended, hgiven, fun _ => rfl⟩
  | within hrest => exact similar_resume hrest (hgoes (by simp)) hgiven
  | @fresh root root' hroots =>
    have hname : localName root.name.expanded = root.name.localPart := localName_expanded hroots.plain
    have hname' : localName root'.name.expanded = root'.name.localPart :=
      localName_expanded (hroots.letters.not_mem hroots.plain)
    dsimp only [next]
    rw [hname, hname', ← hroots.letters.lower_eq]
    split_ifs with hother
    · exact ⟨.ended, ⟨hgiven.infos, by simp [hgiven.kinds, Event.missingManifest], hgiven.error⟩, fun _ => rfl⟩
    · exact similar_resume hroots.entries (hgoes (by simp)) hgiven

/-- so they do when they are asked for any number of modules -/
theorem similar_asked (h : AlikeRoots root root') (count : Nat) :
    SimilarIteration (asked codec data root count) (asked codec data root' count) := by
  induction count with
  | zero => exact ⟨.fresh h, ⟨rfl, rfl, rfl⟩, fun hfailed => absurd rfl hfailed⟩
  | succ count ih =>
    rw [asked, asked, Function.iterate_succ_apply', Function.iterate_succ_apply']
    exact similar_next ih

/-- an iteration that is asked for more modules than there are has given what the extraction gives -/
theorem asked_of_lt {count : Nat} (h : (extractRoot codec data root).infos.length < count) :
    asked codec data root count = ⟨.over, extractRoot codec data root⟩ := by
  obtain ⟨k, rfl⟩ : ∃ k, count = k + 1 := ⟨count - 1, by omega⟩
  by_cases hname : Text.lower (localName root.name.expanded) = "manifest"
  · have hroot : extractRoot codec data root = fold codec data .empty root.children := extractRoot_of_name hname
    rw [hroot] at h ⊢
    have hk : (fold codec data .empty root.children).infos.length ≤ Extraction.empty.infos.length + k := by
      have : Extraction.empty.infos.length = 0 := rfl
      omega
    rw [asked_of_name root hname, iterate_next_over rfl hk]
  · exact asked_of_other_name hname k

theorem similar_extractRoot (h : AlikeRoots root root') :
    Similar (extractRoot codec data root) (extractRoot codec data root') := by
  obtain ⟨count, hcount⟩ : ∃ count, (extractRoot codec data root).infos.length < count ∧
      (extractRoot codec data root').infos.length < count := by
    refine ⟨(extractRoot codec data root).infos.length + (extractRoot codec data root').infos.length + 1, ?_⟩
    omega
  have hasked : SimilarIteration (asked codec data root count) (asked codec data root' count) := similar_asked h count
  simpa only [asked_of_lt hcount.1, asked_of_lt hcount.2] using hasked.given

/-! ## Where an extraction ends and what its events tell -/

/-- the failure of an entry, if it fails -/
def failure? (codec : Codec) (data : Bytes) (e : Element) : Option ExtractionError :=
  match entry codec data e with
  | .error cause => some cause
  | .ok _ => none

/-- the failures of all entries, one by one -/
def failures (codec : Codec) (data : Bytes) (root : Element) : List (Option ExtractionError) :=
  (elements root.children).map (failure? codec data)

theorem SameYield.failure?_eq (h : SameYield e e' (entry codec data e) (entry codec data e')) :
    failure? codec data e' = failure? codec data e := by
  unfold failure?
  generalize entry codec data e = g at h
  generalize entry codec data e' = g' at h
  cases h <;> rfl

theorem SameYield.name_eq {g g' : Except ExtractionError Yield} (h : SameYield e e' g g') {v : Event}
    (hg : g = .ok (.event v)) : v.element = some e.name.localPart := by
  cases h with
  | event _ hname _ =>
    cases hg
    exact hname
  | error | module => cases hg

theorem failures_eq (h : AlikeRoots root root') : failures codec data root' = failures codec data root := by
  unfold failures
  generalize elements root.children = es, elements root'.children = es', h.entries = hentries
  induction hentries with
  | nil => rfl
  | cons halike _ ih => rw [List.map_cons, List.map_cons, ih, (sameYield_entry codec data halike).failure?_eq]

/-- an extraction fails as the first of the entries that fails -/
theorem error_fold (hx : x.error = none) (children : List Node) :
    (fold codec data x children).error = ((elements children).map (failure? codec data)).findSome? id := by
  induction children generalizing x with
  | nil => exact hx
  | cons child rest ih =>
    rw [fold_cons]
    cases helement : child.element? with
    | none =>
      have hgiven : yieldOf codec data child = .ok .nothing := by rw [yieldOf, helement]
      rw [elements_cons_of_none helement, hgiven, ih (Extraction.error_record_ok hx _)]
    | some e =>
      have hcons : elements (child :: rest) = e :: elements rest := List.filterMap_cons_some helement
      have hgiven : yieldOf codec data child = entry codec data e := by rw [yieldOf, helement]
      rw [hcons, hgiven, List.map_cons, List.findSome?_cons, failure?]
      cases entry codec data e with
      | error cause =>
        rw [Extraction.error_record_error hx, fold_of_error rfl]
        rfl
      | ok y => exact ih (Extraction.error_record_ok hx y)

/-- every event was recorded for a child that gives it -/
theorem mem_events_fold {v : Event} {children : List Node} (h : v ∈ (fold codec data x children).events) :
    v ∈ x.events ∨ ∃ child ∈ children, yieldOf codec data child = .ok (.event v) := by
  induction children generalizing x with
  | nil => exact .inl h
  | cons child rest ih =>
    rw [fold_cons] at h
    rcases ih h with hx | ⟨other, hother, hv⟩
    · unfold Extraction.record at hx
      split at hx
      · exact .inl hx
      · exact .inl hx
      · exact .inl hx
      · next v' _ hgiven =>
        rcases List.mem_append.1 hx with hx | hv
        · exact .inl hx
        · rw [List.mem_singleton.1 hv]
          exact .inr ⟨child, List.mem_cons_self, hgiven⟩
      · exact .inl hx
    · exact .inr ⟨other, List.mem_cons_of_mem child hother, hv⟩

/-- an event of an extraction tells the local name of the root or of an entry, as it is written there -/
theorem name_of_mem_events (hplain : Plain root) {v : Event} (h : v ∈ (extractRoot codec data root).events) :
    v = .missingManifest root.name.localPart ∨
      ∃ e ∈ elements root.children, entry codec data e = .ok (.event v) ∧ v.element = some e.name.localPart := by
  by_cases hname : Text.lower (localName root.name.expanded) = "manifest"
  · rw [extractRoot_of_name hname] at h
    rcases mem_events_fold h with hempty | ⟨child, hchild, hv⟩
    · cases hempty
    · obtain ⟨e, helement⟩ : ∃ e, child.element? = some e := by
        rcases helement : child.element? with _ | e
        · have hnothing : yieldOf codec data child = .ok .nothing := by rw [yieldOf, helement]
          cases hnothing.symm.trans hv
        · exact ⟨e, rfl⟩
      have he : e ∈ elements root.children := List.mem_filterMap.2 ⟨child, hchild, helement⟩
      have hentry : yieldOf codec data child = entry codec data e := by rw [yieldOf, helement]
      have hgives : entry codec data e = .ok (.event v) := hentry.symm.trans hv
      have hself : SameYield e e (entry codec data e) (entry codec data e) :=
        sameYield_entry codec data (Alike.refl (hplain e (List.mem_cons_of_mem root he)))
      exact .inr ⟨e, he, hgives, hself.name_eq hgives⟩
  · rw [extractRoot_of_other_name codec data hname] at h
    rw [List.mem_singleton.1 h, localName_expanded (hplain root List.mem_cons_self)]
    exact .inl rfl

/-- **A manifest gives the same however it is presented.** After any number of changes in its presentation, the same modules come
out in the same order, with events of the same kinds in the same order, and if an entry fails, the entry with the same number
does, for the same reason. That holds of the whole extraction and of every part of it, when it is asked for one module at a time.
An event tells the local name as it is written in the manifest that was read. -/
theorem extraction_of_restyled (codec : Codec) (data : Bytes) (root root' : Element) (hplain : Plain root)
    (h : Relation.ReflTransGen Restyles root root') :
    Similar (extractRoot codec data root) (extractRoot codec data root') ∧
    (∀ count, Similar (asked codec data root count).given (asked codec data root' count).given) ∧
    failures codec data root' = failures codec data root ∧
    (Text.lower root'.name.localPart = "manifest" →
      (extractRoot codec data root').error = (failures codec data root').findSome? id) ∧
    ∀ v ∈ (extractRoot codec data root').events, v = .missingManifest root'.name.localPart ∨
      ∃ e ∈ elements root'.children, entry codec data e = .ok (.event v) ∧ v.element = some e.name.localPart := by
  have halike := alikeRoots_of_restyled hplain h
  have hplain' := halike.right_plain
  refine ⟨similar_extractRoot halike, fun count => (similar_asked halike count).given, failures_eq halike, fun hname => ?_,
    fun v hv => name_of_mem_events hplain' hv⟩
  rw [← localName_expanded (hplain' root' List.mem_cons_self)] at hname
  rw [extractRoot_of_name hname, error_fold rfl, failures]

/-! ## A manifest presented otherwise -/

namespace Presented

/-- every module is the whole blob, and named by its octets -/
def wholeCodec : Codec := ⟨fun data _ _ _ => .ok data, fun payload => .ok ⟨Text.octets payload, .dll⟩⟩

/-- one entry, and a child that is none -/
def bare : Element :=
  ⟨⟨none, "manifest"⟩, [], [.element ⟨none, "assembly"⟩ [⟨⟨none, "offset"⟩, "0"⟩] [], .element ⟨none, "note"⟩ [] []]⟩

/-- the same in a namespace with braces, with a comment, another offset that is no offset, and content -/
def dressed : Element :=
  ⟨⟨some "urn:\x7ba\x7db", "MANIFEST"⟩, [], [.comment "offset", .element ⟨some "\x7d\x7b", "Assembly"⟩
    [⟨⟨some "urn:x", "offset"⟩, "9"⟩, ⟨⟨none, "offset"⟩, "0"⟩] [.element ⟨none, "assembly"⟩ [⟨⟨none, "offset"⟩, "0"⟩] []],
    .element ⟨none, "note"⟩ [] []]⟩

theorem plain_bare : Plain bare := by
  unfold Plain
  decide

theorem dressed_of_bare : Relation.ReflTransGen Restyles bare dressed := by
  let manifest : Name := ⟨some "urn:\x7ba\x7db", "MANIFEST"⟩
  let assembly : Name := ⟨some "\x7d\x7b", "Assembly"⟩
  let offset : Attribute := ⟨⟨none, "offset"⟩, "0"⟩
  let added : Attribute := ⟨⟨some "urn:x", "offset"⟩, "9"⟩
  let back : List Node := [.element ⟨none, "note"⟩ [] []]
  let inner : List Node := [.element ⟨none, "assembly"⟩ [offset] []]
  have hroot : Restyles bare ⟨manifest, [], .element ⟨none, "assembly"⟩ [offset] [] :: back⟩ := .root (by
    unfold SameLetters
    decide)
  have hentry : Restyles ⟨manifest, [], [] ++ .element ⟨none, "assembly"⟩ [offset] [] :: back⟩
      ⟨manifest, [], [] ++ .element assembly [offset] [] :: back⟩ := .entry (by
    unfold SameLetters
    decide)
  have hadorn : Restyles ⟨manifest, [], [] ++ .element assembly ([] ++ [offset]) [] :: back⟩
      ⟨manifest, [], [] ++ .element assembly ([] ++ added :: [offset]) [] :: back⟩ := .adorn (by decide)
  have hcontent : Restyles ⟨manifest, [], [] ++ .element assembly [added, offset] [] :: back⟩
      ⟨manifest, [], [] ++ .element assembly [added, offset] inner :: back⟩ := .content
  have hcomment : Restyles ⟨manifest, [], [] ++ .element assembly [added, offset] inner :: back⟩
      ⟨manifest, [], [] ++ .comment "offset" :: .element assembly [added, offset] inner :: back⟩ := .putIn rfl
  exact .tail (.tail (.tail (.tail (.tail .refl hroot) hentry) hadorn) hcontent) hcomment

end Presented

theorem extraction_of_restyled_braces :
    Plain Presented.bare ∧ Relation.ReflTransGen Restyles Presented.bare Presented.dressed ∧
      (extractRoot Presented.wholeCodec [0x41] Presented.dressed).infos = [⟨"41", ".dll", [0x41]⟩] ∧
      (extractRoot Presented.wholeCodec [0x41] Presented.dressed).events.map (·.kind) = [(Event.unknownElement "note").kind] := by
  obtain ⟨hsimilar, -⟩ :=
    extraction_of_restyled Presented.wholeCodec [0x41] _ _ Presented.plain_bare Presented.dressed_of_bare
  refine ⟨Presented.plain_bare, Presented.dressed_of_bare, ?_, ?_⟩
  · rw [hsimilar.infos]
    decide +kernel
  · rw [hsimilar.kinds]
    decide +kernel

end Unbundle.Manifest
