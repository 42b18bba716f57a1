import Unbundle.Metadata.Defect
import Unbundle.Metadata.Schema
/-
The tables of a metadata stream.

The stream starts with a header that tells which tables there are, how many rows each has, and how wide the places in heaps
are. The rows follow, table by table. A stream that is too short for its header has no tables.

A table may be larger than what is there. One with more rows than the stream has octets counts as empty. One that only reaches
over the end of the stream keeps its number of rows, but they are hollow: none of their columns is there.
-/
namespace Unbundle.Metadata

/-- the numbers in the columns of a row -/
abbrev Row := List Nat

/-- the rows of a table -/
inductive TableRows where
  | whole (rows : List Row)
  /-- so many rows, of which no octets are there -/
  | hollow (count : Nat)
  deriving DecidableEq, Repr

/-- the rows of the tables, by table number -/
structure Tables where
  entries : List (Nat × TableRows)
  deriving DecidableEq, Repr

namespace Tables

/-- the rows of a table that are there -/
def rows (t : Tables) (table : Nat) : List Row :=
  match t.entries.lookup table with
  | some (.whole rows) => rows
  | _ => []

/-- the number of a table's hollow rows -/
def hollows (t : Tables) (table : Nat) : Nat :=
  match t.entries.lookup table with
  | some (.hollow count) => count
  | _ => 0

/-- the number of a table's rows -/
def size (t : Tables) (table : Nat) : Nat := (t.rows table).length + t.hollows table

/-- whether there is a table of this number, be it without rows -/
def has (t : Tables) (table : Nat) : Bool := (t.entries.lookup table).isSome

/-- the row in some octets -/
def row (widths : List Nat) (octets : Bytes) : Row :=
  match widths with
  | [] => []
  | w :: rest => Bytes.toNat (octets.take w) :: row rest (octets.drop w)

/-- the rows at the front of some octets -/
def readRows (widths : List Nat) : (count : Nat) → Bytes → List Row
  | 0, _ => []
  | count + 1, octets => row widths octets :: readRows widths count (octets.drop widths.sum)

/-- the octets of the header in front of the row counts -/
def headerSize : Nat := 24

/-- the numbers of the tables whose bits are set -/
def present (mask : Nat) : List Nat := (List.range 64).filter fun i => mask.testBit i

/-- table numbers that are kept free -/
def reserved : List Nat := [62, 63]

/-- the rows of some tables, the first of them at the front of the octets; a table of more than `limit` rows is empty -/
def readTables (sizes : Sizes) (limit : Nat) : List (Nat × Nat) → Bytes → List (Nat × TableRows)
  | [], _ => []
  | (table, count) :: rest, octets =>
    match columns? table with
    | none => readTables sizes limit rest octets
    | some columns =>
      let widths := columns.map sizes.width
      let need := widths.sum * count
      if limit < count then (table, .whole []) :: readTables sizes limit rest octets
      else
        let found := if octets.length < need then .hollow count else .whole (readRows widths count octets)
        (table, found) :: readTables sizes limit rest (octets.drop need)

/-- the row counts of some tables, one after the other in the octets, as far as they are there -/
def counts : List Nat → Bytes → List (Nat × Option Nat)
  | [], _ => []
  | table :: rest, octets =>
    (table, (octets.split? 4).map fun (count, _) => Bytes.toNat count) :: counts rest (octets.drop 4)

/-- what keeps tables with some row counts from being read -/
def defect? (counts : List (Nat × Option Nat)) : Option Defect :=
  if counts.any fun (table, count) => (columns? table).isSome && count.isNone then some .noCount
  else if counts.any fun (table, _) => reserved.contains table then some .reservedTable
  else none

/-- the tables of a stream -/
def parse (stream : Bytes) : Except Defect Tables :=
  if stream.length < headerSize then .ok ⟨[]⟩
  else
    let flags := Bytes.toNat (stream.slice 6 1)
    let tables := present (Bytes.toNat (stream.slice 8 8))
    let octets := stream.drop headerSize
    let counted := counts tables octets
    match defect? counted with
    | some d => .error d
    | none =>
      let known := counted.filterMap fun (table, count) => count.map (table, ·)
      let sizes : Sizes := {
        wideTexts := flags.testBit 0, wideGuids := flags.testBit 1, wideBlobs := flags.testBit 2
        rows := fun table => (known.lookup table).getD 0 }
      let start := 4 * tables.length + (if flags.testBit 6 then 4 else 0)
      .ok ⟨readTables sizes stream.length known (octets.drop start)⟩

end Tables

end Unbundle.Metadata
