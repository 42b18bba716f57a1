import Unbundle.Bytes
/-
The columns of the metadata tables.

A table is known by its number. Its rows all have the same columns, and how wide a column is depends on the whole metadata: an
index is two octets wide as long as everything that it may point to can be counted with that, and four octets otherwise.
-/
namespace Unbundle.Metadata

/-- a choice of tables that an index may point into; its lowest `bits` bits tell which -/
structure Choice where
  bits : Nat
  tables : List Nat
  deriving DecidableEq, Repr

/-- a column of a table -/
inductive Column where
  | number (width : Nat)
  /-- a place in the heap of texts -/
  | text
  /-- a place in the heap of unique identifiers -/
  | guid
  /-- a place in the heap of octet strings -/
  | blob
  /-- a row of one table -/
  | row (table : Nat)
  /-- a row of one of several tables -/
  | choice (of : Choice)
  deriving DecidableEq, Repr

namespace Choice

def typeDefOrRef : Choice := ⟨2, [0x02, 0x01, 0x1B]⟩
def hasConstant : Choice := ⟨2, [0x04, 0x08, 0x17]⟩
def hasCustomAttribute : Choice := ⟨5, [0x06, 0x04, 0x01, 0x02, 0x08, 0x09, 0x0A, 0x00, 0x0E, 0x17, 0x14, 0x11, 0x1A, 0x1B,
  0x20, 0x23, 0x26, 0x27, 0x28, 0x2A, 0x2C, 0x2B]⟩
def hasFieldMarshal : Choice := ⟨1, [0x04, 0x08]⟩
def hasDeclSecurity : Choice := ⟨2, [0x02, 0x06, 0x20]⟩
def memberRefParent : Choice := ⟨3, [0x02, 0x01, 0x1A, 0x06, 0x1B]⟩
def hasSemantics : Choice := ⟨1, [0x14, 0x17]⟩
def methodDefOrRef : Choice := ⟨1, [0x06, 0x0A]⟩
def memberForwarded : Choice := ⟨1, [0x04, 0x06]⟩
def implementation : Choice := ⟨2, [0x26, 0x23, 0x27]⟩
def customAttributeType : Choice := ⟨3, [0x06, 0x0A]⟩
def resolutionScope : Choice := ⟨2, [0x00, 0x1A, 0x23, 0x01]⟩
def typeOrMethodDef : Choice := ⟨1, [0x02, 0x06]⟩

end Choice

open Column Choice in
/-- the columns of a table, if there is a table of that number -/
def columns? (table : Nat) : Option (List Column) :=
  match table with
  | 0x00 => some [number 2, text, guid, guid, guid]
  | 0x01 => some [choice resolutionScope, text, text]
  | 0x02 => some [number 4, text, text, choice typeDefOrRef, row 0x04, row 0x06]
  | 0x03 => some [row 0x04]
  | 0x04 => some [number 2, text, blob]
  | 0x05 => some [row 0x06]
  | 0x06 => some [number 4, number 2, number 2, text, blob, row 0x08]
  | 0x07 => some [row 0x08]
  | 0x08 => some [number 2, number 2, text]
  | 0x09 => some [row 0x02, choice typeDefOrRef]
  | 0x0A => some [choice memberRefParent, text, blob]
  | 0x0B => some [number 1, number 1, choice hasConstant, blob]
  | 0x0C => some [choice hasCustomAttribute, choice customAttributeType, blob]
  | 0x0D => some [choice hasFieldMarshal, blob]
  | 0x0E => some [number 2, choice hasDeclSecurity, blob]
  | 0x0F => some [number 2, number 4, row 0x02]
  | 0x10 => some [number 4, row 0x04]
  | 0x11 => some [blob]
  | 0x12 => some [row 0x02, row 0x14]
  | 0x13 => some [row 0x14]
  | 0x14 => some [number 2, text, choice typeDefOrRef]
  | 0x15 => some [row 0x02, row 0x17]
  | 0x16 => some [row 0x17]
  | 0x17 => some [number 2, text, blob]
  | 0x18 => some [number 2, row 0x06, choice hasSemantics]
  | 0x19 => some [row 0x02, choice methodDefOrRef, choice methodDefOrRef]
  | 0x1A => some [text]
  | 0x1B => some [blob]
  | 0x1C => some [number 2, choice memberForwarded, text, row 0x1A]
  | 0x1D => some [number 4, row 0x04]
  | 0x1E => some [number 4, number 4]
  | 0x1F => some [number 4]
  | 0x20 => some [number 4, number 2, number 2, number 2, number 2, number 4, blob, text, text]
  | 0x21 => some [number 4]
  | 0x22 => some [number 4, number 4, number 4]
  | 0x23 => some [number 2, number 2, number 2, number 2, number 4, blob, text, text, blob]
  | 0x24 => some [number 4, row 0x23]
  | 0x25 => some [number 4, number 4, number 4, row 0x23]
  | 0x26 => some [number 4, text, blob]
  | 0x27 => some [number 4, number 4, text, text, choice implementation]
  | 0x28 => some [number 4, number 4, text, choice implementation]
  | 0x29 => some [row 0x02, row 0x02]
  | 0x2A => some [number 2, number 2, choice typeOrMethodDef, text]
  | 0x2B => some [choice methodDefOrRef, blob]
  | 0x2C => some [row 0x2A, choice typeDefOrRef]
  | _ => none

/-- what the widths of columns depend on -/
structure Sizes where
  wideTexts : Bool
  wideGuids : Bool
  wideBlobs : Bool
  /-- the number of rows of each table -/
  rows : Nat → Nat

namespace Sizes

/-- the width of an index that must be able to count up to `limit` and keep `bits` bits to itself -/
def indexWidth (bits limit : Nat) : Nat := if limit < 1 <<< (16 - bits) then 2 else 4

/-- the width of a column in octets -/
def width (s : Sizes) : Column → Nat
  | .number width => width
  | .text => if s.wideTexts then 4 else 2
  | .guid => if s.wideGuids then 4 else 2
  | .blob => if s.wideBlobs then 4 else 2
  | .row table => indexWidth 0 (s.rows table)
  | .choice c => indexWidth c.bits ((c.tables.map s.rows).foldl max 0)

end Sizes

end Unbundle.Metadata
