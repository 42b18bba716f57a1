import Unbundle.Image.Basic
/-
Reading the headers of an image.

The headers start with an old program header that tells where the signature of the image stands. Behind the signature come
the file header, the optional header with the directories, and the section table. Fields of an optional header that ends
early count as zero.
-/
namespace Unbundle.Image

/-- the number in the `width` octets at `offset`, octets behind the end of the file counting as zero -/
def numberAt (file : Bytes) (offset width : Nat) : Nat := Bytes.toNat (file.slice offset width)

/-- the octets of a section header -/
def sectionHeaderSize : Nat := 40

/-- how many things may be wrong with a section header before the section table ends there -/
def toleratedFaults : Nat := 3

/-- sections behind this number are not looked at -/
def maxSections : Nat := 2048

/-- sizes and addresses beyond this limit are suspicious -/
def suspicious : Nat := 0x10000000

/-- the section that a section header describes -/
def sectionOf (header : Bytes) : Section :=
  { virtualSize := numberAt header 8 4, virtualAddress := numberAt header 12 4, rawSize := numberAt header 16 4,
    rawPointer := numberAt header 20 4 }

/-- the number of things wrong with a section -/
def faults (a : Alignment) (fileSize : Nat) (s : Section) : Nat :=
  [decide (fileSize < s.rawSize + s.rawPointer), decide (fileSize < Alignment.pointer s.rawPointer),
    decide (suspicious < s.virtualSize), decide (suspicious < a.address s.virtualAddress),
    decide (a.file ≠ 0 ∧ s.rawPointer % a.file ≠ 0)].count true

/-- at most `count` sections from a section table; nothing when a header is cut off. The table ends early at a header of
zeros, at the end of the file, and at a section with too many faults. -/
def sectionTable (a : Alignment) (fileSize : Nat) : (count : Nat) → Bytes → Option (List Section)
  | 0, _ => some []
  | count + 1, table =>
    let header := table.take sectionHeaderSize
    if header.all (· = 0) ∧ (header = [] ∨ header.length = sectionHeaderSize) then some []
    else if header.length < sectionHeaderSize then none
    else
      let s := sectionOf header
      if toleratedFaults ≤ faults a fileSize s then some []
      else (sectionTable a fileSize count (table.drop sectionHeaderSize)).map (s :: ·)

/-- the headers proper: they end at the content of the first section, if that lies behind the section table -/
def headersEnd (tableEnd : Nat) (sections : List Section) : Nat :=
  let starts := (sections.filter (0 < ·.rawPointer)).map fun s => Alignment.pointer s.rawPointer
  match starts.min? with
  | some lowest => if lowest < tableEnd then tableEnd else lowest
  | none => tableEnd

/-- whether the optional header is of the wide kind, if it is there at all -/
def wideHeader? (file : Bytes) (start : Nat) : Option Bool :=
  let available := file.length - start
  if available < 69 then none
  else if numberAt file start 2 ≠ 0x20B then some false
  else if available < 73 then none
  else some true

/-- the image whose file this is -/
def parse (file : Bytes) : Option Image := do
  guard (64 ≤ file.length)
  guard (numberAt file 0 2 = 0x5A4D)
  let signature := numberAt file 0x3C 4
  guard (signature + 4 ≤ file.length ∧ numberAt file signature 4 = 0x4550)
  let fileHeader := signature + 4
  guard (fileHeader + 20 ≤ file.length)
  let count := numberAt file (fileHeader + 2) 2
  let optional := fileHeader + 20
  let wide ← wideHeader? file optional
  let table := optional + numberAt file (fileHeader + 16) 2
  let alignment : Alignment := ⟨numberAt file (optional + 32) 4, numberAt file (optional + 36) 4⟩
  let sections ← sectionTable alignment file.length (min count maxSections) (file.drop table)
  let tableEnd := if sections = [] then table else table + sectionHeaderSize * count
  let directory := optional + (if wide then 112 else 96) + 14 * 8
  return {
    file
    headers := file.take (headersEnd tableEnd sections)
    sections := sections.mergeSort fun s t => s.virtualAddress ≤ t.virtualAddress
    alignment
    characteristics := numberAt file (fileHeader + 18) 2
    subsystem := numberAt file (optional + 68) 2
    runtimeHeader := numberAt file directory 4
    runtimeHeaderSize := numberAt file (directory + 4) 4 }

end Unbundle.Image
