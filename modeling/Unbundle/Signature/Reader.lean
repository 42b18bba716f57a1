import Unbundle.Bytes
import Unbundle.Text.Digits
import Unbundle.Signature.Form
/-
Reading signature blobs.

A reader moves a cursor over a blob. It either gives a value or fails with a cause; in both cases the cursor stays where the
reading stopped, and it remembers, in order, every type reference met on the way. The references met do not depend on what
they stand for, so a blob is read first and its references are looked up afterwards.

A type may nest to any depth, but every level costs an octet: `type` bounds the depth by the number of octets left.
-/
namespace Unbundle.Signature

/-- why a blob cannot be read -/
inductive ReadError where
  | unexpectedEnd
  | badLead (lead : UInt8)
  | badGenericKind (kind : UInt8)
  | unsupportedElement (element : UInt8)
  | notAField (convention : UInt8)
  deriving DecidableEq, Repr

/-- the wording of a cause -/
def ReadError.message : ReadError → String
  | .unexpectedEnd => "unexpected end of signature"
  | .badLead lead => "bad compressed integer lead byte " ++ Text.hexByte lead
  | .badGenericKind kind => "bad generic instance kind " ++ Text.hexByte kind
  | .unsupportedElement element => "unsupported element type " ++ Text.hexByte element
  | .notAField convention => "not a field signature (" ++ Text.hexByte convention ++ ")"

/-- the octets still to be read, how many were read, and the references met so far, the latest first -/
structure Cursor where
  rest : Bytes
  position : Nat
  met : List CodedType
  deriving Repr

/-- a cursor at the start of a blob -/
def Cursor.start (blob : Bytes) : Cursor := ⟨blob, 0, []⟩

/-- the references met, in reading order -/
def Cursor.references (c : Cursor) : List CodedType := c.met.reverse

/-- a reading step -/
abbrev Reader := EStateM ReadError Cursor

namespace Reader

/-- a reader that fails where it stands -/
def fail {α : Type} (e : ReadError) : Reader α := fun c => .error e c

/-- the next octet -/
def byte : Reader UInt8 := fun c =>
  match c.rest with
  | [] => .error .unexpectedEnd c
  | b :: rest => .ok b { c with rest, position := c.position + 1 }

/-- the next octet, left in place -/
def peek : Reader UInt8 := fun c =>
  match c.rest with
  | [] => .error .unexpectedEnd c
  | b :: _ => .ok b c

/-- a compressed number with the number of bits that its width holds -/
def packed : Reader (Nat × Nat) := do
  let b0 ← byte
  if b0 < 0x80 then return (b0.toNat, 7)
  if b0 < 0xC0 then
    let b1 ← byte
    return (256 * (b0.toNat % 64) + b1.toNat, 14)
  if b0 < 0xE0 then
    let b1 ← byte
    let b2 ← byte
    let b3 ← byte
    return (16777216 * (b0.toNat % 32) + 65536 * b1.toNat + 256 * b2.toNat + b3.toNat, 29)
  fail (.badLead b0)

/-- a compressed unsigned number of one, two or four octets -/
def number : Reader Nat := do return (← packed).1

/-- a compressed signed number: the sign stands in the lowest bit -/
def integer : Reader Int := do
  let (raw, bits) ← packed
  return if raw % 2 = 1 then ((raw / 2 : Nat) : Int) - (1 <<< (bits - 1) : Nat) else (raw / 2 : Nat)

/-- a type reference, which the cursor remembers -/
def typeReference : Reader CodedType := do
  let target := CodedType.ofNat (← number)
  modify fun c => { c with met := target :: c.met }
  return target

/-- run a reader `count` times -/
def many {α : Type} (item : Reader α) : (count : Nat) → Reader (List α)
  | 0 => return []
  | count + 1 => do
    let x ← item
    let xs ← many item count
    return x :: xs

/-- the two element codes of a custom modifier: required and optional -/
def isModifier (b : UInt8) : Bool := b = 0x1F || b = 0x20

/-- pass over at most `bound` custom modifiers -/
def modifiersWithin : (bound : Nat) → Reader Unit
  | 0 => return
  | bound + 1 => do
    match (← get).rest with
    | [] => return
    | b :: _ =>
      if isModifier b then
        let _ ← byte
        let _ ← number
        modifiersWithin bound

/-- pass over the custom modifiers that stand next, none of them looked up -/
def modifiers : Reader Unit := fun c => modifiersWithin c.rest.length c

/-- the octet that separates the fixed parameters from the variable ones -/
def sentinel : UInt8 := 0x41

/-- pass over separators -/
def sentinels : Reader Unit := modify fun c =>
  let count := (c.rest.takeWhile (· = sentinel)).length
  { c with rest := c.rest.drop count, position := c.position + count }

/-- the core type that an element code stands for -/
def coreName? (element : UInt8) : Option String :=
  match element with
  | 0x01 => some "Void"
  | 0x02 => some "Boolean"
  | 0x03 => some "Char"
  | 0x04 => some "SByte"
  | 0x05 => some "Byte"
  | 0x06 => some "Int16"
  | 0x07 => some "UInt16"
  | 0x08 => some "Int32"
  | 0x09 => some "UInt32"
  | 0x0A => some "Int64"
  | 0x0B => some "UInt64"
  | 0x0C => some "Single"
  | 0x0D => some "Double"
  | 0x0E => some "String"
  | 0x16 => some "TypedReference"
  | 0x18 => some "IntPtr"
  | 0x19 => some "UIntPtr"
  | 0x1C => some "Object"
  | _ => none

/-- a method signature whose types `item` reads: calling convention, generic count if the convention asks for it, parameter
count, return type, parameters -/
def methodOf (item : Reader Form) : Reader MethodForm := do
  let convention ← byte
  let genericCount ← if convention.toNat / 16 % 2 = 1 then number else pure 0
  let count ← number
  let returns ← item
  let parameters ← many (do sentinels; item) count
  return { returns, parameters, hasThis := convention.toNat / 32 % 2 = 1, genericCount }

/-- what follows the element code of a type, `item` reading the types inside it -/
def elementOf (item : Reader Form) (element : UInt8) : Reader Form :=
  match element with
  | 0x0F => return .derived (← item) "*"
  | 0x10 => return .derived (← item) "&"
  | 0x11 | 0x12 => return .reference (← typeReference)
  | 0x13 => return .param (← number) false
  | 0x14 => do
    let inner ← item
    let rank ← number
    let sizes ← number
    let _ ← many number sizes
    let bounds ← number
    let _ ← many integer bounds
    return .derived inner (TypeSig.arraySuffix rank)
  | 0x15 => do
    let kind ← byte
    if kind ≠ 0x11 ∧ kind ≠ 0x12 then fail (.badGenericKind kind)
    let target ← typeReference
    let count ← number
    return .generic target (← many item count)
  | 0x1B => do
    let _ ← methodOf item
    return .function
  | 0x1D => return .derived (← item) "[]"
  | 0x1E => return .param (← number) true
  | 0x45 => item
  | _ => fail (.unsupportedElement element)

/-- a type nested at most `depth` levels deep -/
def typeWithin : (depth : Nat) → Reader Form
  | 0 => fail .unexpectedEnd
  | depth + 1 => do
    modifiers
    let element ← byte
    match coreName? element with
    | some name => return .core name
    | none => elementOf (typeWithin depth) element

/-- a type with the custom modifiers in front of it -/
def type : Reader Form := fun c => typeWithin c.rest.length c

/-- a method signature -/
def method : Reader MethodForm := methodOf type

/-- a field signature: its convention octet and the field's type -/
def field : Reader Form := do
  let convention ← byte
  if convention.toNat % 16 ≠ 6 then fail (.notAField convention)
  type

end Reader

/-- what reading a blob from its start gives: the value or the cause, and the references met, in reading order -/
def read {α : Type} (reader : Reader α) (blob : Bytes) : Except ReadError α × List CodedType :=
  match reader (.start blob) with
  | .ok value c => (.ok value, c.references)
  | .error e c => (.error e, c.references)

end Unbundle.Signature
