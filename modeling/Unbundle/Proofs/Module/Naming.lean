import Unbundle.Module.Names
/-
What full names are made from.

The full name of a type is put together from the definitions of its module alone: two modules with the same definitions give the
same names, whatever else they hold, and compare a method's signature with texts in the same way. Lemmas are equations between
the functions of the two modules, so that they rewrite wherever one of the functions is used.

Results:
- `definitionName_congr`, `typeName_congr`, `isMethod_congr`: names and comparisons in two modules with the same definitions.
-/
namespace Unbundle.Module

variable {m m' : Module}

theorem definitionNameWithin_congr (h : m.definitions = m'.definitions) (depth : Nat) (id : TypeId) :
    m.definitionNameWithin depth id = m'.definitionNameWithin depth id := by
  induction depth generalizing id with
  | zero => rfl
  | succ depth ih => simp only [definitionNameWithin, h, ih]

theorem definitionName_congr (h : m.definitions = m'.definitions) : m.definitionName = m'.definitionName := by
  funext id
  rw [definitionName, definitionName, h, definitionNameWithin_congr h]

mutual

theorem typeName_eq (h : m.definitions = m'.definitions) : (t : TypeSig) → m.typeName t = m'.typeName t
  | .defined id => by rw [typeName, typeName, definitionName_congr h]
  | .named space name => by rw [typeName, typeName]
  | .generic element arguments => by rw [typeName, typeName, typeNames_eq h arguments, typeName_eq h element]
  | .derived element suffix => by rw [typeName, typeName, typeName_eq h element]
  | .param number ofMethod => by rw [typeName, typeName]
  | .absent => by rw [typeName, typeName]

theorem typeNames_eq (h : m.definitions = m'.definitions) : (ts : List TypeSig) → m.typeNames ts = m'.typeNames ts
  | [] => by rw [typeNames, typeNames]
  | t :: rest => by rw [typeNames, typeNames, typeName_eq h t, typeNames_eq h rest]

end

theorem typeName_congr (h : m.definitions = m'.definitions) : m.typeName = m'.typeName := funext (typeName_eq h)

theorem typeNames_congr (h : m.definitions = m'.definitions) : m.typeNames = m'.typeNames := funext (typeNames_eq h)

theorem isMethod_congr (h : m.definitions = m'.definitions) : m.isMethod = m'.isMethod := by
  funext x returns parameters
  simp only [isMethod, matchesSignature, typeName_congr h, typeNames_congr h]

end Unbundle.Module
