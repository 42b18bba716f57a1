import Unbundle.Xml.Name
/-
Parsed documents.

A document is its root element; what stands before and after the root is gone. Attributes hold their values as the
application sees them, with references replaced and blanks normalised.
-/
namespace Unbundle.Xml

/-- an attribute of an element -/
structure Attribute where
  name : Name
  value : String
  deriving DecidableEq, Repr

/-- a piece of an element's content -/
inductive Node where
  | element (name : Name) (attributes : List Attribute) (children : List Node)
  | text (content : String)
  | comment (content : String)
  | instruction (content : String)
  deriving Repr, Inhabited

/-- an element -/
structure Element where
  name : Name
  attributes : List Attribute
  children : List Node
  deriving Repr

/-- the element that a node is, if it is one -/
def Node.element? : Node → Option Element
  | .element name attributes children => some ⟨name, attributes, children⟩
  | _ => none

/-- the value of the attribute that has the given local name and is in no namespace -/
def Element.attribute? (e : Element) (localPart : String) : Option String :=
  (e.attributes.find? fun a => a.name = ⟨none, localPart⟩).map (·.value)

/-- why octets are no document -/
inductive DocumentError where
  | malformed
  /-- the declared encoding is not known -/
  | unknownEncoding
  /-- the declared encoding is known but does not give one character to each octet -/
  | unsupportedEncoding
  /-- the declared encoding, whose name was written so, is the one that has no characters at all -/
  | emptyEncoding (name : String)
  /-- the declared encoding, whose name was written so, is the one of domain names, which takes no odd octets -/
  | domainEncoding (name : String)
  /-- the declared encoding is the one of domain names in ASCII, which takes no octets outside of ASCII -/
  | asciiDomainEncoding
  deriving DecidableEq, Repr

end Unbundle.Xml
