import Mathlib
import Unbundle.Signature.Reader
/-
The grammar of signature blobs.

A `Spelling` is a type the way a blob writes it down: with the custom modifiers and pinned markers in it, the sizes and lower
bounds of its arrays, the whole signatures of the functions it points to, and the width of every number. It stands for the type
that `Spelling.type` gives, in which the markings have left no trace, and `Spelling.octets` writes it. A `MethodSpelling` is a
method signature in the same way, with the separators that stand in front of its parameters.

Numbers carry the proof that they fit the width they are written in, and the arguments of a generic type are counted by such a
number, so that every spelling can be written.
-/
namespace Unbundle.Signature

/-! ## Numbers -/

/-- how many octets a number takes: one, two or four -/
inductive Width where
  | one
  | two
  | four
  deriving DecidableEq, Repr

/-- how many bits of the number these octets hold -/
def Width.bits : Width → Nat
  | .one => 7
  | .two => 14
  | .four => 29

/-- how far integers reach to either side of 0 when one of the bits is the sign -/
def Width.half (w : Width) : Nat := 2 ^ (w.bits - 1)

theorem Width.two_pow_bits (w : Width) : 2 ^ w.bits = 2 * w.half := by
  cases w <;> rfl

/-- a number and the width it is written in -/
structure Packed where
  width : Width
  value : Nat
  fits : value < 2 ^ width.bits

/-- the highest bits of the first octet tell the width, the rest of the octets the number, the highest digit first -/
def Packed.octets (n : Packed) : Bytes :=
  match n.width with
  | .one => [UInt8.ofNat n.value]
  | .two => [UInt8.ofNat (0x80 + n.value / 256), UInt8.ofNat (n.value % 256)]
  | .four =>
    [UInt8.ofNat (0xC0 + n.value / 16777216), UInt8.ofNat (n.value / 65536 % 256), UInt8.ofNat (n.value / 256 % 256),
      UInt8.ofNat (n.value % 256)]

/-- an integer and the width it is written in, one of whose bits is the sign -/
structure SignedPacked where
  width : Width
  value : Int
  fits : -width.half ≤ value ∧ value < width.half

/-- the two's complement of the integer, its sign moved from the highest bit to the lowest -/
def SignedPacked.turned (z : SignedPacked) : Nat :=
  if z.value < 0 then 2 * (z.value + z.width.half).toNat + 1 else 2 * z.value.toNat

theorem SignedPacked.turned_lt (z : SignedPacked) : z.turned < 2 ^ z.width.bits := by
  have hfits := z.fits
  have htwice := z.width.two_pow_bits
  unfold turned
  split_ifs with hnegative <;> omega

/-- the number that an integer is written as -/
def SignedPacked.number (z : SignedPacked) : Packed := ⟨z.width, z.turned, z.turned_lt⟩

/-- a reference to a row of one of the four tables that a tag can name -/
structure PackedType where
  width : Width
  target : CodedType
  tag : target.tag < 4
  fits : target.toNat < 2 ^ width.bits

/-- the number that a reference is written as -/
def PackedType.number (t : PackedType) : Packed := ⟨t.width, t.target.toNat, t.fits⟩

/-- some things with their number in front, and the width that number is written in -/
structure Counted (α : Type) where
  width : Width
  items : List α
  fits : items.length < 2 ^ width.bits

/-- how many things there are -/
def Counted.count {α : Type} (l : Counted α) : Packed := ⟨l.width, l.items.length, l.fits⟩

/-! ## Parts of types -/

/-- whether a reference says that it leads to a value type; readers do not tell the two apart -/
inductive ReferenceKind where
  | valueType
  | classType
  deriving DecidableEq, Repr

def ReferenceKind.code : ReferenceKind → UInt8
  | .valueType => 0x11
  | .classType => 0x12

/-- the types that are another type with a mark behind it -/
inductive Mark where
  | pointer
  | byReference
  /-- an array of one dimension that counts from 0 -/
  | vector
  deriving DecidableEq, Repr

def Mark.code : Mark → UInt8
  | .pointer => 0x0F
  | .byReference => 0x10
  | .vector => 0x1D

def Mark.suffix : Mark → String
  | .pointer => "*"
  | .byReference => "&"
  | .vector => "[]"

/-- a custom modifier and the number of its type -/
structure Modifier where
  required : Bool
  number : Packed

def Modifier.octets (x : Modifier) : Bytes := (if x.required then 0x1F else 0x20) :: x.number.octets

/-- the shape of an array: its rank, and the sizes and lower bounds that are told -/
structure ArrayShape where
  rank : Packed
  sizes : Counted Packed
  lower : Counted SignedPacked

def ArrayShape.octets (a : ArrayShape) : Bytes :=
  a.rank.octets ++ (a.sizes.count.octets ++ (a.sizes.items.flatMap Packed.octets ++
    (a.lower.count.octets ++ a.lower.items.flatMap fun z => z.number.octets)))

/-- what stands in front of the types of a method signature -/
structure MethodHead where
  convention : UInt8
  /-- written only when the convention says that the method is generic -/
  genericCount : Packed
  /-- how many parameters there are -/
  count : Packed

namespace MethodHead

/-- the convention says that the method is generic -/
def isGeneric (h : MethodHead) : Bool := h.convention.toNat / 16 % 2 = 1

/-- the convention says that the method is called on an object -/
def hasThis (h : MethodHead) : Bool := h.convention.toNat / 32 % 2 = 1

def octets (h : MethodHead) : Bytes :=
  h.convention :: ((if h.isGeneric then h.genericCount.octets else []) ++ h.count.octets)

/-- a method signature with this head: `gaps` tells how many separators stand in front of each parameter -/
def octetsWith (h : MethodHead) (returns : Bytes) (gaps : Fin h.count.value → Nat)
    (parameters : Fin h.count.value → Bytes) : Bytes :=
  h.octets ++ (returns ++
    (List.finRange h.count.value).flatMap fun i => List.replicate (gaps i) Reader.sentinel ++ parameters i)

end MethodHead

/-! ## Types and method signatures -/

/-- a type the way a blob writes it down -/
inductive Spelling where
  /-- a type of the core library, by its element code -/
  | core (element : UInt8) (name : String) (known : Reader.coreName? element = some name)
  | reference (kind : ReferenceKind) (target : PackedType)
  | derived (mark : Mark) (inner : Spelling)
  | array (inner : Spelling) (shape : ArrayShape)
  | param (number : Packed) (ofMethod : Bool)
  | generic (kind : ReferenceKind) (target : PackedType) (count : Packed) (arguments : Fin count.value → Spelling)
  /-- a pointer to a function -/
  | function (head : MethodHead) (returns : Spelling) (gaps : Fin head.count.value → Nat)
    (parameters : Fin head.count.value → Spelling)
  | pinned (inner : Spelling)
  | modified (modifier : Modifier) (inner : Spelling)

namespace Spelling

/-- the octets of a type -/
def octets : Spelling → Bytes
  | .core element _ _ => [element]
  | .reference kind target => kind.code :: target.number.octets
  | .derived mark inner => mark.code :: inner.octets
  | .array inner shape => 0x14 :: (inner.octets ++ shape.octets)
  | .param number ofMethod => (if ofMethod then 0x1E else 0x13) :: number.octets
  | .generic kind target count arguments =>
    0x15 :: kind.code :: (target.number.octets ++ (count.octets ++
      (List.finRange count.value).flatMap fun i => (arguments i).octets))
  | .function head returns gaps parameters =>
    0x1B :: head.octetsWith returns.octets gaps fun i => (parameters i).octets
  | .pinned inner => 0x45 :: inner.octets
  | .modified modifier inner => modifier.octets ++ inner.octets

/-- the references in a type that are looked up, in reading order: those of its custom modifiers are not -/
def references : Spelling → List CodedType
  | .core _ _ _ | .param _ _ => []
  | .reference _ target => [target.target]
  | .derived _ inner | .array inner _ | .pinned inner | .modified _ inner => inner.references
  | .generic _ target count arguments =>
    target.target :: (List.finRange count.value).flatMap fun i => (arguments i).references
  | .function head returns _ parameters =>
    returns.references ++ (List.finRange head.count.value).flatMap fun i => (parameters i).references

/-- the form of a type -/
def form : Spelling → Form
  | .core _ name _ => .core name
  | .reference _ target => .reference target.target
  | .derived mark inner => .derived inner.form mark.suffix
  | .array inner shape => .derived inner.form (TypeSig.arraySuffix shape.rank.value)
  | .param number ofMethod => .param number.value ofMethod
  | .generic _ target count arguments =>
    .generic target.target ((List.finRange count.value).map fun i => (arguments i).form)
  | .function _ _ _ _ => .function
  | .pinned inner | .modified _ inner => inner.form

/-- the type that a spelling stands for, when `answer` tells what its references stand for -/
def type (answer : CodedType → Option TypeSig) : Spelling → TypeSig
  | .core _ name _ => .named "System" name
  | .reference _ target => (answer target.target).getD target.target.unresolved
  | .derived mark inner => .derived (inner.type answer) mark.suffix
  | .array inner shape => .derived (inner.type answer) (TypeSig.arraySuffix shape.rank.value)
  | .param number ofMethod => .param number.value ofMethod
  | .generic _ target count arguments =>
    .generic ((answer target.target).getD target.target.unresolved)
      ((List.finRange count.value).map fun i => (arguments i).type answer)
  | .function _ _ _ _ => .named "" "method"
  | .pinned inner | .modified _ inner => inner.type answer

/-- looking up the references of a type's form gives the type -/
theorem resolve_form (answer : CodedType → Option TypeSig) (s : Spelling) : s.form.resolve answer = s.type answer := by
  induction s with
  | core | param | function | reference => rfl
  | derived mark inner ih => rw [form, Form.resolve, type, ih]
  | array inner shape ih => rw [form, Form.resolve, type, ih]
  | generic kind target count arguments ih =>
    rw [form, Form.resolve, type, Form.resolveAll_eq_map, List.map_map]
    simp only [Function.comp_def, ih]
  | pinned inner ih => exact ih
  | modified modifier inner ih => exact ih

end Spelling

/-- a method signature the way a blob writes it down -/
structure MethodSpelling where
  head : MethodHead
  returns : Spelling
  /-- how many separators stand in front of each parameter -/
  gaps : Fin head.count.value → Nat
  parameters : Fin head.count.value → Spelling

namespace MethodSpelling

def octets (x : MethodSpelling) : Bytes := x.head.octetsWith x.returns.octets x.gaps fun i => (x.parameters i).octets

/-- the references in a method signature that are looked up, in reading order -/
def references (x : MethodSpelling) : List CodedType :=
  x.returns.references ++ (List.finRange x.head.count.value).flatMap fun i => (x.parameters i).references

/-- the form of a method signature -/
def form (x : MethodSpelling) : MethodForm where
  returns := x.returns.form
  parameters := (List.finRange x.head.count.value).map fun i => (x.parameters i).form
  hasThis := x.head.hasThis
  genericCount := if x.head.isGeneric then x.head.genericCount.value else 0

end MethodSpelling

end Unbundle.Signature
