import Unbundle.Proofs.Flate.Stored
import Unbundle.Proofs.Manifest.Fold
import Unbundle.Proofs.Manifest.Offsets
/-
A bundle gives back what was put into it, wherever it lies in the blob and however the manifest lists it.

A payload is stored at an offset when a complete stream of it starts there; what stands in front of the stream and behind it is
left open, so that streams may lie in any order and overlap. A manifest may list stored payloads in any order, and any of them
several times or not at all.

Results:
- `yieldOf_of_listed`: an element that writes the offset of a stored payload gives the payload's module.
- `extract_round_trip`: a manifest that lists stored payloads gives their modules in document order and no event.
-/
namespace Unbundle.Manifest

/-! ## Bundles -/

/-- a complete stream of the payload starts at this offset of the blob, and the offset can be listed -/
structure Stored (Stream : Bytes → Bytes → Prop) (data : Bytes) (offset : Nat) (payload : Bytes) : Prop where
  inRange : offset ≤ 2 ^ 31 - 1
  stream : ∃ before stream after, data = before ++ stream ++ after ∧ before.length = offset ∧ Stream payload stream

/-- the element is an assembly that writes this offset, with no more digits than are read -/
def Lists (e : Xml.Element) (offset : Nat) : Prop :=
  Text.lower (Xml.localName e.name.expanded) = "assembly" ∧
    ∃ text, e.attribute? "offset" = some text ∧ Writes text offset ∧ text.toList.countP isDigit ≤ digitLimit

/-- the plain decimal text of an offset is never too long -/
theorem lists_of_decimal {e : Xml.Element} {offset : Nat} (hname : Text.lower (Xml.localName e.name.expanded) = "assembly")
    (htext : e.attribute? "offset" = some (Text.decimal offset)) (hoffset : offset ≤ 2 ^ 31 - 1) : Lists e offset := by
  refine ⟨hname, _, htext, writes_decimal offset, List.countP_le_length.trans ?_⟩
  have hlength : (Nat.toDigits 10 offset).length ≤ 10 :=
    (Nat.length_toDigits_le_iff (by decide) (by decide)).2 (lt_of_le_of_lt hoffset (by decide))
  rw [Text.decimal, String.toList_ofList]
  exact hlength.trans (by decide)

/-- the module that identification makes of a payload -/
def IsModuleOf (codec : Codec) (payload : Bytes) (info : AssemblyInfo) : Prop :=
  info.data = payload ∧
    ∃ identity, codec.identify payload = .ok identity ∧ info.fullName = identity.fullName ∧
      info.extension = identity.kind.extension

/-- streams are decompressed wherever they stand in a buffer and whatever follows them -/
def Decompresses (codec : Codec) (Stream : Bytes → Bytes → Prop) : Prop :=
  ∀ before payload stream after, Stream payload stream →
    codec.inflate (before ++ stream ++ after) before.length (stream ++ after).length true = .ok payload

section

variable {codec : Codec} {Stream : Bytes → Bytes → Prop} {data : Bytes}

/-! ## One element -/

theorem inflate_of_stored (hcodec : Decompresses codec Stream) {offset : Nat} {payload : Bytes}
    (h : Stored Stream data offset payload) :
    codec.inflate data offset (data.length - offset) true = .ok payload := by
  obtain ⟨before, stream, after, rfl, rfl, hstream⟩ := h.stream
  have hcount : ((before ++ stream ++ after).length : Int) - before.length = (stream ++ after).length := by
    simp only [List.length_append]
    omega
  rw [hcount]
  exact hcodec before payload stream after hstream

theorem listsAt_of_lists {child : Xml.Node} {e : Xml.Element} {offset : Nat} (hchild : child.element? = some e)
    (he : Lists e offset) (hoffset : offset ≤ 2 ^ 31 - 1) : ListsAt child offset := by
  obtain ⟨hname, text, htext, hwrites, hcount⟩ := he
  refine ⟨e, hchild, hname, ?_⟩
  rw [htext]
  exact offsetOf_of_writes hwrites hcount hoffset

/-- an element that writes the offset of a stored payload gives the payload's module -/
theorem yieldOf_of_listed (hcodec : Decompresses codec Stream) {child : Xml.Node} {e : Xml.Element} {offset : Nat}
    {payload : Bytes} (hchild : child.element? = some e) (he : Lists e offset) (hstored : Stored Stream data offset payload)
    (hidentify : ∃ identity, codec.identify payload = .ok identity) :
    ∃ info, yieldOf codec data child = .ok (.module info) ∧ IsModuleOf codec payload info := by
  obtain ⟨identity, hidentity⟩ := hidentify
  have hlists := listsAt_of_lists hchild he hstored.inRange
  have hgives := Gives.module hlists (Int.natCast_nonneg offset) (inflate_of_stored hcodec hstored) hidentity
  exact ⟨_, gives_iff.1 hgives, rfl, identity, hidentity, rfl, rfl⟩

/-! ## All elements -/

theorem drain_of_listed (hcodec : Decompresses codec Stream) {children : List Xml.Node} {listed : List (Nat × Bytes)}
    (hlisted : List.Forall₂ (fun e entry => Lists e entry.1) (children.filterMap Xml.Node.element?) listed)
    (hstored : ∀ entry ∈ listed, Stored Stream data entry.1 entry.2)
    (hidentify : ∀ entry ∈ listed, ∃ identity, codec.identify entry.2 = .ok identity) :
    ∃ infos, drain codec data children = ⟨infos, [], none⟩ ∧
      List.Forall₂ (fun info entry => IsModuleOf codec entry.2 info) infos listed := by
  induction children generalizing listed with
  | nil =>
    cases hlisted
    exact ⟨[], rfl, .nil⟩
  | cons child rest ih =>
    cases hchild : child.element? with
    | none =>
      rw [List.filterMap_cons_none hchild] at hlisted
      obtain ⟨infos, hdrain, hinfos⟩ := ih hlisted hstored hidentify
      refine ⟨infos, ?_, hinfos⟩
      rw [drain, yieldOf, hchild]
      exact hdrain
    | some e =>
      rw [List.filterMap_cons_some hchild, List.forall₂_cons_left_iff] at hlisted
      obtain ⟨entry, later, hentry, hlater, rfl⟩ := hlisted
      obtain ⟨infos, hdrain, hinfos⟩ := ih hlater (fun x hx => hstored x (List.mem_cons_of_mem _ hx))
        fun x hx => hidentify x (List.mem_cons_of_mem _ hx)
      obtain ⟨info, hyield, hinfo⟩ := yieldOf_of_listed hcodec hchild hentry (hstored entry (List.mem_cons_self ..))
        (hidentify entry (List.mem_cons_self ..))
      refine ⟨info :: infos, ?_, .cons hinfo hinfos⟩
      rw [drain, hyield]
      simp only [hdrain]

/-- **Round trip.** `stored` holds the payloads of a blob with their offsets; every element of the manifest lists one of them.
Then each element gives the module of the payload at its offset, in document order, and nothing is recorded. -/
theorem extract_round_trip (codec : Codec) (Stream : Bytes → Bytes → Prop) (data : Bytes) (stored : List (Nat × Bytes))
    (root : Xml.Element) (listed : List (Nat × Bytes)) (hcodec : Decompresses codec Stream)
    (hidentify : ∀ entry ∈ stored, ∃ identity, codec.identify entry.2 = .ok identity)
    (hstored : ∀ entry ∈ stored, Stored Stream data entry.1 entry.2)
    (hroot : Text.lower (Xml.localName root.name.expanded) = "manifest") (hsubset : listed ⊆ stored)
    (hlisted : List.Forall₂ (fun e entry => Lists e entry.1) (root.children.filterMap Xml.Node.element?) listed) :
    ∃ infos, extract codec data (.ok root) = ⟨infos, [], none⟩ ∧
      List.Forall₂ (fun info entry => IsModuleOf codec entry.2 info) infos listed := by
  obtain ⟨infos, hdrain, hinfos⟩ := drain_of_listed hcodec hlisted (fun entry h => hstored entry (hsubset h))
    fun entry h => hidentify entry (hsubset h)
  refine ⟨infos, ?_, hinfos⟩
  simp only [extract, extractRoot, hroot, rootName, ne_eq, not_true_eq_false, if_false, hdrain]

end

/-- the program's own decompression, with a reader that names a module by its octets -/
def plainCodec : Codec :=
  ⟨Flate.inflate, fun payload => if payload = [] then .error .notAnImage else .ok ⟨Text.octets payload, .dll⟩⟩

/-- two payloads, the later one listed first and twice -/
def plainBlob : Bytes :=
  [0xEE] ++ Flate.storedStream [0x42, 0x43] ++ ([0xAA, 0xBB] ++ Flate.storedStream [0x41] ++ [0xCC])

def plainRoot : Xml.Element :=
  let listing (name offset : String) : Xml.Node := .element ⟨none, name⟩ [⟨⟨none, "offset"⟩, offset⟩] []
  ⟨⟨some "urn:bundle", "Manifest"⟩, [],
    [.comment " two of three ", listing "assembly" "10", .text "\n", listing "ASSEMBLY" " 001", listing "Assembly" "10"]⟩

theorem eq_of_isModuleOf_plainCodec {payload : Bytes} {info : AssemblyInfo} (hne : payload ≠ [])
    (h : IsModuleOf plainCodec payload info) : info = ⟨Text.octets payload, ".dll", payload⟩ := by
  obtain ⟨name, extension, data⟩ := info
  obtain ⟨hdata, identity, hidentity, hname, hextension⟩ := h
  simp only [plainCodec, hne, if_false, Except.ok.injEq] at hidentity
  subst hidentity
  simp only at hdata hname hextension
  rw [hdata, hname, hextension]
  rfl

theorem extract_round_trip_plain :
    extract plainCodec plainBlob (.ok plainRoot) =
      ⟨[⟨"41", ".dll", [0x41]⟩, ⟨"4243", ".dll", [0x42, 0x43]⟩, ⟨"41", ".dll", [0x41]⟩], [], none⟩ := by
  let Stream (payload stream : Bytes) : Prop := ∀ after, Flate.decompress true (stream ++ after) = .ok payload
  have hcodec : Decompresses plainCodec Stream := fun before _ _ after h => Flate.inflate_of_decompress h before after
  have hfirst : Stored Stream plainBlob 1 [0x42, 0x43] :=
    ⟨by decide, [0xEE], _, _, rfl, rfl, Flate.decompress_storedStream (by decide)⟩
  have hsecond : Stored Stream plainBlob 10 [0x41] :=
    ⟨by decide, [0xEE] ++ Flate.storedStream [0x42, 0x43] ++ [0xAA, 0xBB], Flate.storedStream [0x41], [0xCC], by decide, rfl,
      Flate.decompress_storedStream (by decide)⟩
  have hlisted : List.Forall₂ (fun e entry => Lists e entry.1) (plainRoot.children.filterMap Xml.Node.element?)
      [(10, ([0x41] : Bytes)), (1, [0x42, 0x43]), (10, [0x41])] := by
    refine .cons (lists_of_decimal (by decide +kernel) rfl (by decide)) (.cons ⟨by decide +kernel, " 001", rfl, ?_, by decide⟩
      (.cons (lists_of_decimal (by decide +kernel) rfl (by decide)) .nil))
    exact ⟨[' '], 2, [], by decide +kernel, by simp [Text.isLayout], by simp⟩
  obtain ⟨infos, hextract, hinfos⟩ := extract_round_trip plainCodec Stream plainBlob [(1, [0x42, 0x43]), (10, [0x41])]
    plainRoot _ hcodec (by simp [plainCodec]) (by simp [hfirst, hsecond]) (by decide +kernel) (by decide) hlisted
  rw [hextract]
  rcases hinfos with _ | ⟨h₁, _ | ⟨h₂, _ | ⟨h₃, _ | _⟩⟩⟩
  rw [eq_of_isModuleOf_plainCodec (by decide) h₁, eq_of_isModuleOf_plainCodec (by decide) h₂,
    eq_of_isModuleOf_plainCodec (by decide) h₃]
  have hone : Text.octets [0x41] = "41" := by decide +kernel
  have htwo : Text.octets [0x42, 0x43] = "4243" := by decide +kernel
  rw [hone, htwo]

end Unbundle.Manifest
