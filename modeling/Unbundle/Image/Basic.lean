import Unbundle.Bytes
/-
Executable images: a file whose sections are laid out at addresses of their own.

`Image.from?` gives the octets of the file that stand at an address and behind it, as far as the section around the address
reaches; `Image.read?` gives at most a number of them. An address outside every section counts as a place in the headers, or
else as a place in the file.
-/
namespace Unbundle

/-- the two alignments that an image declares -/
structure Alignment where
  /-- of sections in memory -/
  memory : Nat
  /-- of their content in the file -/
  file : Nat
  deriving DecidableEq, Repr

namespace Alignment

/-- sectors of a file have this size -/
def sector : Nat := 0x200

/-- the place in the file where a section's content starts: a multiple of the sector size -/
def pointer (p : Nat) : Nat := p / sector * sector

/-- the address where a section starts: a multiple of the section alignment, or of the file alignment when sections are packed
closer than pages -/
def address (a : Alignment) (va : Nat) : Nat :=
  let unit := if a.memory < 0x1000 then a.file else a.memory
  if unit = 0 then va else va / unit * unit

end Alignment

/-- a section of an image -/
structure Section where
  virtualSize : Nat
  virtualAddress : Nat
  rawSize : Nat
  rawPointer : Nat
  deriving DecidableEq, Repr

/-- an image: its file, its headers, its sections by address, and what the headers tell -/
structure Image where
  file : Bytes
  headers : Bytes
  sections : List Section
  alignment : Alignment
  characteristics : Nat
  subsystem : Nat
  /-- the address of the runtime header, 0 if there is none -/
  runtimeHeader : Nat
  /-- the number of its octets -/
  runtimeHeaderSize : Nat
  deriving DecidableEq, Repr

namespace Section

/-- how far a section reaches in memory: a raw size that the file cannot hold does not count -/
def extent (s : Section) (fileSize : Nat) : Nat :=
  if (fileSize : Int) - Alignment.pointer s.rawPointer < s.rawSize then s.virtualSize else max s.rawSize s.virtualSize

/-- the address behind a section, which ends where the next one starts if that one starts inside it -/
def limit (s : Section) (a : Alignment) (fileSize : Nat) (next : Option Nat) : Nat :=
  let stop := a.address s.virtualAddress + s.extent fileSize
  match next with
  | some n => if s.virtualAddress < n ∧ n < stop then n else stop
  | none => stop

/-- the octets at an address inside a section, cut at the end of its content and after `count` octets -/
def content (s : Section) (a : Alignment) (file : Bytes) (address : Nat) (count : Option Nat) : Bytes :=
  let start := address - a.address s.virtualAddress + Alignment.pointer s.rawPointer
  let stop := min (start + count.getD s.rawSize) (s.rawPointer + s.rawSize)
  file.slice start (stop - start)

end Section

namespace Image

/-- the first of some sections in address order that holds an address -/
def findSection (a : Alignment) (fileSize address : Nat) : List Section → Option Section
  | [] => none
  | s :: rest =>
    let next := rest.head?.map (·.virtualAddress)
    if a.address s.virtualAddress ≤ address ∧ address < s.limit a fileSize next then some s
    else findSection a fileSize address rest

/-- the section that holds an address -/
def sectionAt? (i : Image) (address : Nat) : Option Section :=
  findSection i.alignment i.file.length address i.sections

/-- the octets at an address, cut after `count` octets if a count is given; nothing where the image has no octets. Outside of
sections a count of zero does not cut. -/
def octetsAt? (i : Image) (address : Nat) (count : Option Nat) : Option Bytes :=
  let cut (bs : Bytes) : Bytes := match count with
    | some n => if n = 0 then bs else bs.take n
    | none => bs
  match i.sectionAt? address with
  | some s => some (s.content i.alignment i.file address count)
  | none =>
    if address < i.headers.length then some (cut (i.headers.drop address))
    else if address < i.file.length then some (cut (i.file.drop address))
    else none

/-- the octets at an address, as far as its section reaches -/
def from? (i : Image) (address : Nat) : Option Bytes := i.octetsAt? address none

/-- at most `count` octets at an address -/
def read? (i : Image) (address count : Nat) : Option Bytes := i.octetsAt? address (some count)

end Image

end Unbundle
