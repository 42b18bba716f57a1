import Unbundle.Module.Build
import Unbundle.Proofs.Bytes
import Unbundle.Proofs.Outcome
/-
Embedded resources, and where they are cut short.

A resource is stored in an image as 32 bits that tell its length and, at the next address, its octets. Both are read as far as
the section around their address reaches, each by itself. Where either ends early, fewer octets come back and nothing says so: a
resource whose content ends before its length is loaded as what there is of it.

`Image.reach?` tells the octets that can be read at an address at most, `Image.Stores` that a resource is there in full, and
`Image.CutsShort` that its length or its content ends early.

Results:
- `Image.read?_eq`: a reading gives the front of what can be read.
- `Opened.resourceAt_of_stores`: a resource that is there in full is loaded in full.
- `Opened.resourceAt_whole_iff`: what is loaded is nothing or a resource in full exactly if it is not cut short.
- `Module.embedded_whole_iff`: the same of every embedded resource of a module that is loaded.
-/
namespace Unbundle

/-! ## Reading -/

/-- the octets at an address inside a section, up to the end of its content -/
def Section.reach (s : Section) (a : Alignment) (file : Bytes) (address : Nat) : Bytes :=
  let start := address - a.address s.virtualAddress + Alignment.pointer s.rawPointer
  file.slice start (s.rawPointer + s.rawSize - start)

theorem Section.content_some (s : Section) (a : Alignment) (file : Bytes) (address count : Nat) :
    s.content a file address (some count) = (s.reach a file address).take count := by
  simp only [content, reach, Bytes.slice, Option.getD_some, List.take_take]
  congr 1
  omega

namespace Image

/-- the octets that can be read at an address at most -/
def reach? (i : Image) (address : Nat) : Option Bytes :=
  match i.sectionAt? address with
  | some s => some (s.reach i.alignment i.file address)
  | none =>
    if address < i.headers.length then some (i.headers.drop address)
    else if address < i.file.length then some (i.file.drop address)
    else none

/-- a reading gives the front of what can be read -/
theorem read?_eq (i : Image) (address : Nat) {count : Nat} (h : count ≠ 0) :
    i.read? address count = (i.reach? address).map (·.take count) := by
  rw [read?, octetsAt?, reach?]
  cases i.sectionAt? address with
  | some s =>
    dsimp only
    rw [s.content_some, Option.map_some]
  | none =>
    dsimp only
    rw [if_neg h, if_neg h]
    split_ifs <;> rfl

/-- some octets stand at an address, all of them -/
def Holds (i : Image) (address : Nat) (octets : Bytes) : Prop := ∃ reached, i.reach? address = some reached ∧ octets <+: reached

/-- a resource is there in full: 32 bits tell its length, and behind them stand its octets -/
structure Stores (i : Image) (address : Nat) (data : Bytes) : Prop where
  fits : data.length < 2 ^ 32
  length : i.Holds address (Bytes.ofNat 4 data.length)
  content : i.Holds (address + 4) data

/-- a length and some content stand at an address, but the length ends before it has 32 bits or the content before it has as many
octets as the length tells -/
def CutsShort (i : Image) (address : Nat) : Prop :=
  ∃ field content, i.reach? address = some field ∧ i.reach? (address + 4) = some content ∧ content ≠ [] ∧
    Bytes.toNat (field.take 4) ≠ 0 ∧ (field.length < 4 ∨ content.length < Bytes.toNat (field.take 4))

/-- a section starts where it is found or in front of that -/
theorem address_le_of_findSection {a : Alignment} {fileSize address : Nat} {sections : List Section} {s : Section}
    (h : findSection a fileSize address sections = some s) : a.address s.virtualAddress ≤ address := by
  induction sections with
  | nil => cases h
  | cons first rest ih =>
    rw [findSection] at h
    split_ifs at h with hinside
    · cases h
      exact hinside.1
    · exact ih h

/-- what can be read further up in the same section is what is left of what can be read -/
theorem reach?_add {i : Image} {address count : Nat} {s : Section} (h : i.sectionAt? address = some s)
    (hadd : i.sectionAt? (address + count) = some s) : i.reach? (address + count) = (i.reach? address).map (·.drop count) := by
  have hle := address_le_of_findSection h
  simp only [reach?, h, hadd, Option.map_some, Section.reach, Bytes.slice, List.drop_take, List.drop_drop, Option.some.injEq]
  congr 1
  · omega
  · congr 1
    omega

/-- in one section the octets of a resource stand right behind its length -/
theorem Stores.holds_append {i : Image} {address : Nat} {data : Bytes} {s : Section} (h : i.Stores address data)
    (hfield : i.sectionAt? address = some s) (hcontent : i.sectionAt? (address + 4) = some s) :
    i.Holds address (Bytes.ofNat 4 data.length ++ data) := by
  obtain ⟨reached, hreached, hlength⟩ := h.length
  obtain ⟨behind, hbehind, hdata⟩ := h.content
  rw [reach?_add hfield hcontent, hreached, Option.map_some, Option.some.injEq] at hbehind
  obtain ⟨rest, rfl⟩ := hlength
  rw [List.drop_left' (Bytes.length_ofNat _ _)] at hbehind
  subst hbehind
  exact ⟨_, hreached, (List.prefix_append_right_inj _).2 hdata⟩

/-- octets in front that write a number tell this number -/
theorem toNat_take_of_prefix {n : Nat} {field : Bytes} (hn : n < 2 ^ 32) (h : Bytes.ofNat 4 n <+: field) :
    4 ≤ field.length ∧ Bytes.toNat (field.take 4) = n := by
  have hlength : (Bytes.ofNat 4 n).length = 4 := Bytes.length_ofNat _ _
  have htake : field.take 4 = Bytes.ofNat 4 n := by
    have hfront := List.prefix_iff_eq_take.1 h
    rw [hlength] at hfront
    exact hfront.symm
  refine ⟨hlength ▸ h.length_le, ?_⟩
  rw [htake, Bytes.toNat_ofNat _ _ (by omega)]

end Image

/-! ## Resources -/

namespace Opened

variable {o : Opened} {offset : Nat} {field content data : Bytes}

theorem resourceAt_of_unreached (h : o.image.reach? (o.resources + offset) = none) : o.resourceAt offset = [] := by
  simp only [resourceAt, o.image.read?_eq _ (show 4 ≠ 0 by decide), h, Option.map_none]

theorem resourceAt_of_field (h : o.image.reach? (o.resources + offset) = some field) :
    o.resourceAt offset = ((o.image.reach? (o.resources + offset + 4)).getD []).take (Bytes.toNat (field.take 4)) := by
  simp only [resourceAt, o.image.read?_eq _ (show 4 ≠ 0 by decide), h, Option.map_some]
  split_ifs with hzero
  · rw [hzero, List.take_zero]
  · rw [o.image.read?_eq _ hzero]
    cases o.image.reach? (o.resources + offset + 4) with
    | none => rw [Option.map_none, Option.getD_none, List.take_nil]
    | some content => rfl

/-- a resource that is there in full is loaded in full -/
theorem resourceAt_of_stores (h : o.image.Stores (o.resources + offset) data) : o.resourceAt offset = data := by
  obtain ⟨field, hfield, hlength⟩ := h.length
  obtain ⟨content, hcontent, hdata⟩ := h.content
  obtain ⟨-, htold⟩ := Image.toNat_take_of_prefix h.fits hlength
  rw [resourceAt_of_field hfield, hcontent, Option.getD_some, htold]
  exact (List.prefix_iff_eq_take.1 hdata).symm

/-- what is loaded is nothing or a resource in full exactly if it is not cut short -/
theorem resourceAt_whole_iff (o : Opened) (offset : Nat) :
    (o.resourceAt offset = [] ∨ o.image.Stores (o.resources + offset) (o.resourceAt offset)) ↔
      ¬ o.image.CutsShort (o.resources + offset) := by
  constructor
  · rintro hwhole ⟨field, content, hfield, hcontent, hne, hzero, hcut⟩
    have hdata : o.resourceAt offset = content.take (Bytes.toNat (field.take 4)) := by
      rw [resourceAt_of_field hfield, hcontent, Option.getD_some]
    rcases hwhole with hempty | hstores
    · rw [hdata, List.take_eq_nil_iff] at hempty
      rcases hempty with h | h
      · exact hzero h
      · exact hne h
    · obtain ⟨field', hfield', hlength⟩ := hstores.length
      cases hfield.symm.trans hfield'
      obtain ⟨hfour, htold⟩ := Image.toNat_take_of_prefix hstores.fits hlength
      have hsize := congrArg List.length hdata
      rw [List.length_take] at hsize
      omega
  · intro hcut
    cases hfield : o.image.reach? (o.resources + offset) with
    | none => exact .inl (resourceAt_of_unreached hfield)
    | some field =>
      cases hcontent : o.image.reach? (o.resources + offset + 4) with
      | none =>
        left
        rw [resourceAt_of_field hfield, hcontent, Option.getD_none, List.take_nil]
      | some content =>
        have hdata : o.resourceAt offset = content.take (Bytes.toNat (field.take 4)) := by
          rw [resourceAt_of_field hfield, hcontent, Option.getD_some]
        by_cases hempty : content = [] ∨ Bytes.toNat (field.take 4) = 0
        · left
          rw [hdata, List.take_eq_nil_iff]
          exact hempty.symm
        · obtain ⟨hne, hzero⟩ := not_or.1 hempty
          have hlong : ¬ (field.length < 4 ∨ content.length < Bytes.toNat (field.take 4)) := fun h =>
            hcut ⟨field, content, hfield, hcontent, hne, hzero, h⟩
          have hfour : (field.take 4).length = 4 := by
            rw [List.length_take]
            omega
          have hfits : Bytes.toNat (field.take 4) < 2 ^ 32 := by
            have hlt := Bytes.toNat_lt_two_pow (field.take 4)
            rwa [hfour] at hlt
          have hsize : (content.take (Bytes.toNat (field.take 4))).length = Bytes.toNat (field.take 4) := by
            rw [List.length_take]
            omega
          right
          rw [hdata]
          refine ⟨by rwa [hsize], ⟨field, hfield, ?_⟩, ⟨content, hcontent, List.take_prefix _ _⟩⟩
          have hwritten := Bytes.ofNat_toNat (field.take 4)
          rw [hfour] at hwritten
          rw [hsize, hwritten]
          exact List.take_prefix _ _

end Opened

namespace Module

/-- the resources of a module are those of its rows, in order -/
theorem resources_of_ofOpened {name : String} {o : Opened} {m : Module} (h : ofOpened name o = .ok m) :
    m.resources = o.metadata.resources.map
      (buildResource { body := bodyAt o.image, resource := fun offset => o.resourceAt offset }) := by
  rw [ofOpened] at h
  split at h
  · cases h
  · split at h
    · cases h
    · next m' hbuild =>
      cases h
      obtain ⟨⟨types, store⟩, -, hm⟩ := bind_eq_ok_iff.1 hbuild
      cases hm
      rfl

/-- **Embedded resources are loaded whole, or not at all, unless they are cut short.** Each row of a resource that is inside the
image becomes an embedded resource of the module. If the resource is there in full, its data is what is there; and its data is
nothing or such a resource exactly if neither its length nor its content ends early. In one section it is then what stands right
behind the length. -/
theorem embedded_whole_iff {name : String} {o : Opened} {m : Module} (h : ofOpened name o = .ok m) {k : Nat}
    {row : Metadata.ResourceRow} (hrow : o.metadata.resources[k]? = some row) (hinside : row.implementation = 0) :
    ∃ r, m.resources[k]? = some r ∧ r.name = row.name ∧ r.kind = .embedded ∧
      (∀ data, o.image.Stores (o.resources + row.offset) data → r.data = data) ∧
      ((r.data = [] ∨ o.image.Stores (o.resources + row.offset) r.data) ↔
        ¬ o.image.CutsShort (o.resources + row.offset)) ∧
      ∀ s, o.image.sectionAt? (o.resources + row.offset) = some s → o.image.sectionAt? (o.resources + row.offset + 4) = some s →
        ¬ o.image.CutsShort (o.resources + row.offset) →
        r.data = [] ∨ o.image.Holds (o.resources + row.offset) (Bytes.ofNat 4 r.data.length ++ r.data) := by
  refine ⟨⟨row.name, .embedded, o.resourceAt row.offset⟩, ?_, rfl, rfl, ?_, ?_, ?_⟩
  · rw [resources_of_ofOpened h, List.getElem?_map, hrow, Option.map_some, buildResource, if_pos hinside]
  · intro data hdata
    exact Opened.resourceAt_of_stores hdata
  · exact o.resourceAt_whole_iff row.offset
  · intro s hfield hcontent hcut
    rcases (o.resourceAt_whole_iff row.offset).2 hcut with hempty | hstores
    · exact .inl hempty
    · exact .inr (hstores.holds_append hfield hcontent)

/-- two octets in full, and a resource of nine octets two of which are left where the section ends -/
def endingImage : Opened where
  image := ⟨[2, 0, 0, 0, 0xAA, 0xBB, 9, 0, 0, 0, 0xCC, 0xDD, 0xEE], [], [⟨12, 100, 12, 0⟩], ⟨0, 0⟩, 0, 0, 0, 0⟩
  metadata := { resources := [⟨0, "whole", 0, none⟩, ⟨6, "cut", 0, none⟩] }
  resources := 100

/-- the resource that is there in full is loaded in full; of the other one a part is loaded, although it is stored nowhere -/
theorem embedded_whole_iff_endingImage :
    ∃ m, ofOpened "host" endingImage = .ok m ∧
      (endingImage.metadata.resources[0]? = some ⟨0, "whole", 0, none⟩ ∧ endingImage.image.Stores 100 [0xAA, 0xBB] ∧
        ∃ r, m.resources[0]? = some r ∧ r.data = [0xAA, 0xBB]) ∧
      endingImage.metadata.resources[1]? = some ⟨6, "cut", 0, none⟩ ∧ endingImage.image.CutsShort 106 ∧
        ∃ r, m.resources[1]? = some r ∧ r.data = [0xCC, 0xDD] ∧ ¬ endingImage.image.Stores 106 r.data := by
  obtain ⟨m, hm, hresources⟩ : ∃ m, ofOpened "host" endingImage = .ok m ∧
      m.resources = [⟨"whole", .embedded, [0xAA, 0xBB]⟩, ⟨"cut", .embedded, [0xCC, 0xDD]⟩] := ⟨_, rfl, rfl⟩
  have hstores : endingImage.image.Stores 100 [0xAA, 0xBB] := ⟨by decide, ⟨_, rfl, by decide⟩, ⟨_, rfl, by decide⟩⟩
  have hcuts : endingImage.image.CutsShort 106 := ⟨_, _, rfl, rfl, by decide, by decide, by decide⟩
  refine ⟨m, hm, ⟨rfl, hstores, ?_⟩, rfl, hcuts, ?_⟩
  · obtain ⟨r, hr, -, -, hfull, -⟩ := embedded_whole_iff hm (k := 0) rfl rfl
    exact ⟨r, hr, hfull _ hstores⟩
  · obtain ⟨r, hr, -, -, -, hiff, -⟩ := embedded_whole_iff hm (k := 1) rfl rfl
    have hdata : r.data = [0xCC, 0xDD] := by
      rw [hresources] at hr
      cases hr
      rfl
    exact ⟨r, hr, hdata, fun hstored => hiff.1 (.inr hstored) hcuts⟩

end Module

end Unbundle
