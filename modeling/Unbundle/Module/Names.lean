import Unbundle.Module.Basic
import Unbundle.Text.Digits
/-
Full names of types and methods.

The name of a nested type is the name of the type around it, a slash and its own name; outside of any type the namespace
stands in front. A type nested in itself has no name, an absent type has none, and neither has anything that mentions them.

`matchesSignature` compares a method's signature with texts: the return type's name, and the parameters' names between
parentheses, joined by commas.
-/
namespace Unbundle

namespace Module

/-- the name of a definition nested at most `depth` levels deep -/
def definitionNameWithin (m : Module) : (depth : Nat) → TypeId → Except TypeFault String
  | 0, id => .error (.nesting id)
  | depth + 1, id =>
    match m.definitions[id]? with
    | none => .ok ""
    | some t =>
      match t.outer with
      | none => .ok (TypeSig.qualified t.space t.name)
      | some outer => return (← definitionNameWithin m depth outer) ++ "/" ++ t.name

/-- the full name of a definition: a chain of declaring types longer than the number of definitions comes back to itself -/
def definitionName (m : Module) (id : TypeId) : Except TypeFault String :=
  m.definitionNameWithin (m.definitions.size + 1) id

mutual

/-- the full name of a type -/
def typeName (m : Module) : TypeSig → Except TypeFault String
  | .defined id => m.definitionName id
  | .named space name => .ok (TypeSig.qualified space name)
  | .generic element arguments => do
    let inner ← typeNames m arguments
    let outer ← typeName m element
    return outer ++ "<" ++ ",".intercalate inner ++ ">"
  | .derived element suffix => return (← typeName m element) ++ suffix
  | .param number ofMethod => .ok ((if ofMethod then "!!" else "!") ++ Text.decimal number)
  | .absent => .error .absent

/-- the full names of some types, in order -/
def typeNames (m : Module) : List TypeSig → Except TypeFault (List String)
  | [] => .ok []
  | t :: rest => do
    let name ← typeName m t
    return name :: (← typeNames m rest)

end

/-- the names of parameters as one text: `(A,B)` -/
def parameterText (names : List String) : String := "(" ++ ",".intercalate names ++ ")"

/-- the full name of a method: return type, declaring type, name and parameters -/
def methodName (m : Module) (x : Method) : Except TypeFault String := do
  let owner ← match x.owner with
    | none => pure ""
    | some id => m.definitionName id
  let inner ← m.typeNames x.parameters
  let returns ← m.typeName x.returns
  return returns ++ " " ++ owner ++ "::" ++ x.name ++ parameterText inner

/-- whether a signature reads as the two texts: `returns` for the return type and `parameters` in the form `(A,B)` -/
def matchesSignature (m : Module) (returnType : Option TypeSig) (parameterTypes : List TypeSig)
    (returns parameters : String) : Except TypeFault Bool :=
  match returnType with
  | none => .ok false
  | some t => do
    if (← m.typeName t) ≠ returns then return false
    return parameterText (← m.typeNames parameterTypes) = parameters

/-- whether a method's signature reads as the two texts; without return type it reads as nothing -/
def isMethod (m : Module) (x : Method) (returns parameters : String) : Except TypeFault Bool :=
  m.matchesSignature (some x.returns |>.filter TypeSig.isPresent) x.parameters returns parameters

end Module

end Unbundle
