import Unbundle.Metadata.Heap
import Unbundle.Metadata.Tables
/-
The rows that a module is built from, with their texts and octet strings looked up.

Rows count from 1. Hollow rows have no content: no texts, no octets, no references. The fields and the methods of a type are
runs of rows: a run starts where the type's row says and ends where the run of the next type starts, or with the table.
-/
namespace Unbundle.Metadata

/-- a reference to a row of a table -/
structure Reference where
  table : Nat
  row : Nat
  deriving DecidableEq, Repr

structure TypeRefRow where
  space : String
  name : String
  deriving DecidableEq, Repr

structure TypeDefRow where
  flags : Nat
  name : String
  space : String
  base : Option Reference
  fields : List Nat
  methods : List Nat
  deriving DecidableEq, Repr

structure FieldRow where
  flags : Nat
  name : String
  signature : Bytes
  deriving DecidableEq, Repr

structure MethodRow where
  address : Nat
  flags : Nat
  name : String
  signature : Bytes
  deriving DecidableEq, Repr

structure InterfaceRow where
  type : Nat
  interface : Option Reference
  deriving DecidableEq, Repr

structure MemberRefRow where
  parent : Option Reference
  name : String
  signature : Bytes
  deriving DecidableEq, Repr

structure ResourceRow where
  offset : Nat
  name : String
  implementation : Nat
  /-- what the implementation stands for, if it is another file or assembly -/
  source : Option Reference
  deriving DecidableEq, Repr

structure NestingRow where
  inner : Nat
  outer : Nat
  deriving DecidableEq, Repr

structure AssemblyRow where
  /-- absent in a hollow row -/
  version : Option (Nat × Nat × Nat × Nat)
  flags : Nat
  publicKey : Bytes
  name : String
  culture : String
  deriving DecidableEq, Repr

end Metadata

open Metadata in
/-- the rows of a module's metadata -/
structure Metadata where
  moduleNames : List String := []
  typeRefs : List TypeRefRow := []
  typeDefs : List TypeDefRow := []
  fields : List FieldRow := []
  methods : List MethodRow := []
  interfaces : List InterfaceRow := []
  memberRefs : List MemberRefRow := []
  typeSpecs : List Bytes := []
  assemblies : List AssemblyRow := []
  resources : List ResourceRow := []
  nestings : List NestingRow := []
  /-- the tables whose rows are hollow -/
  hollow : List Nat := []
  deriving DecidableEq, Repr

namespace Metadata

/-- the row that a choice of tables and a number stand for -/
def reference? (c : Choice) (tables : Tables) (n : Nat) : Option Reference := do
  let table ← c.tables[n % (1 <<< c.bits)]?
  guard (tables.has table)
  return ⟨table, n >>> c.bits⟩

/-- the rows from `start` to the start of the next run, or to the end of a table of `count` rows -/
def run (start : Nat) (next : Option Nat) (count : Nat) : List Nat :=
  let stop := min (next.getD (count + 1)) (count + 1)
  List.range' start (stop - start)

/-- the types of a table, each with the rows that belong to it -/
def typeDefRows (h : Heaps) (tables : Tables) : List Row → List TypeDefRow
  | [] => []
  | row :: rest =>
    match row with
    | [flags, name, space, base, field, method] =>
      let next := rest.head?
      { flags, name := h.text name, space := h.text space, base := reference? .typeDefOrRef tables base
        fields := run field (next.bind (·[4]?)) (tables.size 0x04)
        methods := run method (next.bind (·[5]?)) (tables.size 0x06) } :: typeDefRows h tables rest
    | _ => typeDefRows h tables rest

/-- what some rows of a table say, and a blank for each hollow row -/
def entriesOf {α : Type} (t : Tables) (table : Nat) (blank : α) (read : Row → Option α) : List α :=
  (t.rows table).filterMap read ++ List.replicate (t.hollows table) blank

/-- the rows of a module in its tables and heaps -/
def ofTables (h : Heaps) (t : Tables) : Metadata where
  moduleNames := entriesOf t 0x00 "" fun
    | _ :: name :: _ => some (h.text name)
    | _ => none
  typeRefs := entriesOf t 0x01 ⟨"", ""⟩ fun
    | [_, name, space] => some ⟨h.text space, h.text name⟩
    | _ => none
  typeDefs := typeDefRows h t (t.rows 0x02)
  fields := entriesOf t 0x04 ⟨0, "", []⟩ fun
    | [flags, name, signature] => some ⟨flags, h.text name, h.blob signature⟩
    | _ => none
  methods := entriesOf t 0x06 ⟨0, 0, "", []⟩ fun
    | [address, _, flags, name, signature, _] => some ⟨address, flags, h.text name, h.blob signature⟩
    | _ => none
  interfaces := entriesOf t 0x09 ⟨0, none⟩ fun
    | [type, interface] => some ⟨type, reference? .typeDefOrRef t interface⟩
    | _ => none
  memberRefs := entriesOf t 0x0A ⟨none, "", []⟩ fun
    | [parent, name, signature] => some ⟨reference? .memberRefParent t parent, h.text name, h.blob signature⟩
    | _ => none
  typeSpecs := entriesOf t 0x1B [] fun
    | [signature] => some (h.blob signature)
    | _ => none
  assemblies := entriesOf t 0x20 ⟨none, 0, [], "", ""⟩ fun
    | [_, a, b, c, d, flags, key, name, culture] =>
      some ⟨some (a, b, c, d), flags, h.blob key, h.text name, h.text culture⟩
    | _ => none
  resources := (t.rows 0x28).filterMap fun
    | [offset, _, name, implementation] => some ⟨offset, h.text name, implementation, reference? .implementation t implementation⟩
    | _ => none
  nestings := entriesOf t 0x29 ⟨0, 0⟩ fun
    | [inner, outer] => some ⟨inner, outer⟩
    | _ => none
  hollow := (t.entries.map (·.1)).filter fun table => t.hollows table ≠ 0

/-- whether the runs of a type name a row of some hollow rows -/
def namesHollow (rows : Nat) (members : List Nat) : Bool := members.any fun row => 0 < row && row ≤ rows

/-- the first table of members whose rows a type needs, but which are hollow -/
def memberDefect? (m : Metadata) (t : TypeDefRow) : Option Defect :=
  if m.hollow.contains 0x04 && namesHollow m.fields.length t.fields then some (.noRows 0x04)
  else if m.hollow.contains 0x06 && namesHollow m.methods.length t.methods then some (.noRows 0x06)
  else none

/-- why no types can be built from some rows: the types themselves or their members are hollow -/
def typeDefect? (m : Metadata) : Option Defect :=
  if m.hollow.contains 0x02 then some (.noRows 0x02) else m.typeDefs.findSome? m.memberDefect?

end Metadata

end Unbundle
