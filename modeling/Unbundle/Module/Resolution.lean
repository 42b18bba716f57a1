import Unbundle.Metadata.Rows
import Unbundle.Module.Basic
import Unbundle.Signature.Reader
/-
What the references in signatures and tables stand for.

A reference to a definition or to a type known by name is answered from its row. A reference to a type specification is
answered by reading the specification's own signature, whose references are looked up in turn. A specification that reaches
itself has no answer: a chain of references longer than the table has rows must come back to one of them.

`specification` keeps what it has read in a store, so that no row is read twice; `specificationAfresh` is the same without
the store.
-/
namespace Unbundle.Metadata

open Signature

/-- an entry of a table whose rows count from 1 -/
def rowAt? {α : Type} (rows : List α) (row : Nat) : Option α := if row = 0 then none else rows[row - 1]?

section

variable {μ : Type → Type} [Monad μ]

/-- what a reference in a signature stands for, when `specification` answers the rows of the type specification table -/
def typeOf (m : Metadata) (specification : Nat → μ (Option TypeSig)) (c : CodedType) : μ (Option TypeSig) :=
  match c.tag with
  | 0 => pure ((rowAt? m.typeDefs c.row).map fun _ => .defined (c.row - 1))
  | 1 => pure ((rowAt? m.typeRefs c.row).map fun r => .named r.space r.name)
  | 2 => specification c.row
  | _ => pure none

/-- a blob read from its start, and the answers to the references in it, which are looked up in reading order -/
def readWith {α : Type} (m : Metadata) (specification : Nat → μ (Option TypeSig)) (reader : Reader α) (blob : Bytes) :
    μ (Except ReadError α × (CodedType → Option TypeSig)) := do
  let (result, references) := Signature.read reader blob
  let answers ← references.mapM fun c => do return (c, ← typeOf m specification c)
  return (result, fun c => (answers.lookup c).join)

/-- the type that a specification's signature describes, if it can be read -/
def describe (m : Metadata) (specification : Nat → μ (Option TypeSig)) (blob : Bytes) : μ (Option TypeSig) := do
  let (result, answer) ← readWith m specification Reader.type blob
  match result with
  | .ok form => return some (form.resolve answer)
  | .error _ => return none

end

/-- the type specification of a row, references nested at most `depth` levels deep -/
def specificationAfreshWithin (m : Metadata) : (depth row : Nat) → Except TypeFault (Option TypeSig)
  | 0, row => .error (.typeSpec row)
  | depth + 1, row =>
    match rowAt? m.typeSpecs row with
    | none => .ok none
    | some blob => describe m (specificationAfreshWithin m depth) blob

/-- the type specification of a row -/
def specificationAfresh (m : Metadata) (row : Nat) : Except TypeFault (Option TypeSig) :=
  specificationAfreshWithin m (m.typeSpecs.length + 1) row

/-- specifications already read, the latest first -/
abbrev Store := List (Nat × TypeSig)

/-- a computation that may read specifications -/
abbrev Resolving := StateT Store (Except TypeFault)

/-- the type specification of a row, from the store if it was read before, references nested at most `depth` levels deep -/
def specificationWithin (m : Metadata) : (depth row : Nat) → Resolving (Option TypeSig)
  | 0, row => throw (.typeSpec row)
  | depth + 1, row => do
    match (← get).lookup row with
    | some t => return some t
    | none =>
      match rowAt? m.typeSpecs row with
      | none => return none
      | some blob =>
        match ← describe m (specificationWithin m depth) blob with
        | none => return none
        | some t =>
          modify ((row, t) :: ·)
          return some t

/-- the type specification of a row, from the store if it was read before -/
def specification (m : Metadata) (row : Nat) : Resolving (Option TypeSig) :=
  specificationWithin m (m.typeSpecs.length + 1) row

/-- the tag under which signatures refer to a table -/
def tagOf? (table : Nat) : Option Nat :=
  match table with
  | 0x02 => some 0
  | 0x01 => some 1
  | 0x1B => some 2
  | _ => none

/-- what a reference in a table stands for, if it stands for a type -/
def referenced (m : Metadata) (r : Option Reference) : Resolving (Option TypeSig) :=
  match r with
  | none => return none
  | some r =>
    match tagOf? r.table with
    | none => return none
    | some tag => typeOf m (specification m) ⟨tag, r.row⟩

end Unbundle.Metadata
