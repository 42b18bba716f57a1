import Unbundle.Module.TypeSig
/-
What a signature says, before its references are looked up.

A signature blob names types by a table tag and a row number. `Form` is the type described by a blob with these references
left in place; `Form.resolve` puts a type in the place of each reference, given what every reference stands for. Pinned
markers and custom modifiers leave no trace in a form.
-/
namespace Unbundle.Signature

/-- a reference to a row of one of the type tables; the tag tells which table -/
structure CodedType where
  tag : Nat
  row : Nat
  deriving DecidableEq, Repr, Inhabited

/-- the number in which tag and row are packed, taken apart -/
def CodedType.ofNat (n : Nat) : CodedType := ⟨n % 4, n / 4⟩

/-- tag and row packed into one number -/
def CodedType.toNat (t : CodedType) : Nat := 4 * t.row + t.tag

/-- the type put in the place of a reference that leads nowhere -/
def CodedType.unresolved (t : CodedType) : TypeSig :=
  .named "" ("<unresolved " ++ toString t.tag ++ ":" ++ toString t.row ++ ">")

/-- a type as a signature describes it -/
inductive Form where
  /-- a type of the core library with an element code of its own -/
  | core (name : String)
  | reference (target : CodedType)
  | generic (target : CodedType) (arguments : List Form)
  | derived (element : Form) (suffix : String)
  | param (number : Nat) (ofMethod : Bool)
  /-- a pointer to a function, whatever the function's own signature -/
  | function
  deriving Repr, Inhabited

mutual

/-- the type that a form describes when `answer` tells what each reference stands for -/
def Form.resolve (answer : CodedType → Option TypeSig) : Form → TypeSig
  | .core name => TypeSig.core name
  | .reference t => (answer t).getD t.unresolved
  | .generic t arguments => .generic ((answer t).getD t.unresolved) (Form.resolveAll answer arguments)
  | .derived element suffix => .derived (Form.resolve answer element) suffix
  | .param number ofMethod => .param number ofMethod
  | .function => .named "" "method"

/-- the types that some forms describe, in order -/
def Form.resolveAll (answer : CodedType → Option TypeSig) : List Form → List TypeSig
  | [] => []
  | form :: rest => Form.resolve answer form :: Form.resolveAll answer rest

end

theorem Form.resolveAll_eq_map (answer : CodedType → Option TypeSig) (forms : List Form) :
    Form.resolveAll answer forms = forms.map (Form.resolve answer) := by
  induction forms with
  | nil => rfl
  | cons form rest ih => simp [Form.resolveAll, ih]

/-- a method signature -/
structure MethodForm where
  returns : Form
  parameters : List Form
  hasThis : Bool
  genericCount : Nat
  deriving Repr, Inhabited

end Unbundle.Signature
