/-
Types as they occur in the members of a module.

A type is one of the module's own definitions, a type known by name only (defined elsewhere, or primitive), a closed generic
type, a pointer, by-reference or array type, or a generic parameter. A member made by hand may lack a type: `absent` stands in
its place. Definitions are held by number, so that a definition has
an identity apart from its name: two occurrences are the same type exactly when the numbers agree.
-/
namespace Unbundle

/-- the place of a type definition in its module, counted from 0 -/
abbrev TypeId := Nat

/-- a type as a member, a signature or an instruction names it -/
inductive TypeSig where
  /-- a definition of the module itself -/
  | defined (id : TypeId)
  /-- a type known by namespace and name -/
  | named (space name : String)
  /-- a generic type with its arguments -/
  | generic (element : TypeSig) (arguments : List TypeSig)
  /-- a type built from another one: `*`, `&`, `[]`, `[,]` and so on -/
  | derived (element : TypeSig) (suffix : String)
  /-- a parameter of the enclosing generic type or method -/
  | param (number : Nat) (ofMethod : Bool)
  /-- no type at all -/
  | absent
  deriving Repr, Inhabited

namespace TypeSig

/-- whether there is a type -/
def isPresent : TypeSig → Bool
  | .absent => false
  | _ => true

/-- the definition that a type is, if it is one -/
def definition? : TypeSig → Option TypeId
  | .defined id => some id
  | _ => none

/-- a type of the core library -/
def core (name : String) : TypeSig := .named "System" name

/-- the bracket suffix of an array of the given rank -/
def arraySuffix (rank : Nat) : String := String.ofList ('[' :: (List.replicate (rank - 1) ',' ++ [']']))

/-- namespace and name joined by a dot, the name alone outside any namespace -/
def qualified (space name : String) : String := if space = "" then name else space ++ "." ++ name

end TypeSig

end Unbundle
