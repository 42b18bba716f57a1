/-
Names of elements and attributes with their namespaces.

The expanded form of a name puts the namespace in braces in front of the local part. `localName` cuts an expanded name down to
its local part: what follows the last closing brace, for a namespace may hold braces itself.
-/
namespace Unbundle.Xml

/-- a name: its namespace, if it is in one, and its local part -/
structure Name where
  space : Option String
  localPart : String
  deriving DecidableEq, Repr

/-- the name as one text -/
def Name.expanded (n : Name) : String :=
  match n.space with
  | none => n.localPart
  | some uri => "\x7b" ++ uri ++ "\x7d" ++ n.localPart

/-- the part of an expanded name after its namespace -/
def localName (expanded : String) : String :=
  String.ofList (expanded.toList.reverse.takeWhile (· ≠ '\x7d')).reverse

end Unbundle.Xml
