import Unbundle.Xml.Charset
import Unbundle.Xml.Doctype
/-
Documents.

`parse` reads the octets of a document: the declaration at its front, which may name the encoding; the prolog with the document
type; the root element; and comments and processing instructions behind it. An element is read with the elements around it
on a stack. The text of an entity takes part in this as content of its own, in which every element that starts also ends.
-/
namespace Unbundle.Xml

/-! ## The declaration -/

/-- what a document declares about itself -/
structure Declaration where
  encoding : Option String
  standalone : Bool
  deriving Repr

namespace Scan

/-- a sign in a version number or an encoding name -/
def isDeclarationChar (c : Char) : Bool := c.isAlphanum || c = '.' || c = '-' || c = '_'

/-- a name, an equals sign and a value between quotation marks -/
def pseudoAttribute (name : String) : Scan String := do
  expect name
  spaces
  expect "="
  spaces
  let value ← literal
  check (value.all isDeclarationChar)
  return String.ofList value

/-- the rest of a declaration after its opening: version, then encoding and standalone if they are there -/
def declaration : Scan Declaration := do
  spaces1
  let _ ← pseudoAttribute "version"
  let blank (cs : List Char) : Bool := (cs.head?.map isSpace).getD false
  let afterVersion := blank (← get)
  spaces
  let mut encoding := none
  let mut separated := afterVersion
  if separated && (← sees "encoding") then
    let value ← pseudoAttribute "encoding"
    check ((value.toList.head?.map Char.isAlpha).getD false)
    encoding := some value
    separated := blank (← get)
    spaces
  let mut standalone := false
  if separated && (← sees "standalone") then
    let value ← pseudoAttribute "standalone"
    check (value = "yes" || value = "no")
    standalone := value = "yes"
    spaces
  expect "?>"
  return { encoding, standalone }

/-- the declaration of a document, if it has one -/
def declaration? : Scan (Option Declaration) := do
  if ← accept "<?xml" then
    match ← peek with
    | some c =>
      if isSpace c || c = '?' then return some (← declaration)
      modify ("<?xml".toList ++ ·)
      return none
    | none => stop
  return none

end Scan

/-! ## Namespaces -/

/-- what the qualifiers in use stand for, the latest first; the empty qualifier is the default namespace -/
abbrev Scope := List (String × String)

/-- the namespace of the qualifier `xml` -/
def xmlSpace : String := "http://www.w3.org/XML/1998/namespace"

/-- the namespace of the qualifier `xmlns` -/
def xmlnsSpace : String := "http://www.w3.org/2000/xmlns/"

/-- the scope at the root -/
def Scope.root : Scope := [("xml", xmlSpace)]

/-- the qualifier that an attribute binds, if it is a namespace declaration -/
def binds? (n : QName) : Option String :=
  if n.qualifier = none ∧ n.localPart = "xmlns" then some ""
  else if n.qualifier = some "xmlns" then some n.localPart
  else none

/-- whether a qualifier may stand for a namespace -/
def mayBind (qualifier uri : String) : Bool :=
  !(uri = "" && qualifier ≠ "") && qualifier ≠ "xmlns" && uri ≠ xmlnsSpace && ((qualifier = "xml") = (uri = xmlSpace))
    && !uri.toList.contains '\x7d'

/-- the expanded name of an element or attribute; a name without qualifier is in the namespace `unqualified` -/
def expand? (scope : Scope) (unqualified : Option String) (n : QName) : Option Name :=
  match n.qualifier with
  | none => some ⟨unqualified, n.localPart⟩
  | some q =>
    match scope.lookup q with
    | some uri => some ⟨some uri, n.localPart⟩
    | none => none

/-- the namespace of element names without qualifier -/
def Scope.default (scope : Scope) : Option String :=
  match scope.lookup "" with
  | some uri => if uri = "" then none else some uri
  | none => none

/-! ## Elements -/

/-- a start tag as written: the name, the attributes with their values as written, and whether the element ends at once -/
structure StartTag where
  name : QName
  attributes : List (QName × List Char)
  isEmpty : Bool
  deriving Repr

namespace Scan

/-- the attributes of a start tag and its end -/
def attributesWithin : (bound : Nat) → (seen : List (QName × List Char)) → Scan (List (QName × List Char) × Bool)
  | 0, _ => stop
  | bound + 1, seen => do
    let before := (← get).length
    spaces
    if ← accept ">" then return (seen.reverse, false)
    if ← accept "/>" then return (seen.reverse, true)
    check ((← get).length < before)
    let name ← qName
    spaces
    expect "="
    spaces
    let value ← literal
    attributesWithin bound ((name, value) :: seen)

/-- a start tag after its opening -/
def startTag : Scan StartTag := do
  let name ← qName
  let (attributes, isEmpty) ← attributesWithin (← get).length []
  return { name, attributes, isEmpty }

/-- an end tag after its opening -/
def endTag : Scan QName := do
  let name ← qName
  spaces
  expect ">"
  return name

end Scan

/-- an element that has started: its name as written and expanded, its attributes, the namespaces in it, and its children so
far, the latest first -/
structure Frame where
  written : QName
  name : Name
  attributes : List Attribute
  scope : Scope
  children : List Node

namespace Frame

/-- the finished element -/
def element (f : Frame) : Element := ⟨f.name, f.attributes, f.children.reverse⟩

/-- with one more child -/
def add (f : Frame) (child : Node) : Frame := { f with children := child :: f.children }

/-- the finished element as a child -/
def node (f : Frame) : Node := .element f.name f.attributes f.children.reverse

end Frame

/-- whether a list has no entry twice -/
def distinct {α : Type} [BEq α] : List α → Bool
  | [] => true
  | x :: rest => !rest.contains x && distinct rest

/-- the values of the attributes of a tag as the application sees them, defaults included -/
def valuesOf (d : Doctype) (rule : NameRule) (t : StartTag) : Option (List (QName × String)) := do
  let rules := d.rulesOf t.name.text
  guard (distinct (t.attributes.map (·.1)))
  let given ← t.attributes.mapM fun (name, raw) => do
    let isText := ((rules.find? (·.name = name)).map (·.isText)).getD true
    return (name, String.ofList (← d.attributeValue rule isText raw))
  let missing := rules.filterMap fun r =>
    if given.any (·.1 = r.name) then none else r.fallback.map fun value => (r.name, String.ofList value)
  return given ++ missing

/-- the element that a tag starts inside a scope -/
def start? (d : Doctype) (rule : NameRule) (scope : Scope) (t : StartTag) : Option Frame := do
  let values ← valuesOf d rule t
  let bound := values.filterMap fun (name, uri) => (binds? name).map (·, uri)
  guard (bound.all fun (qualifier, uri) => mayBind qualifier uri)
  let inner : Scope := bound ++ scope
  let name ← expand? inner inner.default t.name
  let attributes ← (values.filter fun (name, _) => (binds? name).isNone).mapM fun (name, value) => do
    return (⟨← expand? inner none name, value⟩ : Attribute)
  guard (distinct (attributes.map (·.name)))
  return ⟨t.name, name, attributes, inner, []⟩

/-- what may follow in content: the innermost element's part of it and, if an end tag closes more than was opened, that tag's
name and the text after it -/
abbrev Content := Frame × Option (QName × List Char)

/-- content inside the element `top`, itself inside the elements of `stack`; `expand` gives the nodes of an entity -/
def contentWith (d : Doctype) (rule : NameRule) (expand : Scope → String → Option (List Node)) :
    (bound : Nat) → (stack : List Frame) → (top : Frame) → List Char → Option Content
  | 0, stack, top, text => if stack.isEmpty && text.isEmpty then some (top, none) else none
  | bound + 1, stack, top, text =>
    match text with
    | [] => if stack.isEmpty then some (top, none) else none
    | '<' :: '!' :: '-' :: '-' :: rest => do
      let (c, rest) ← Scan.comment rule rest
      contentWith d rule expand bound stack (top.add (.comment c)) rest
    | '<' :: '!' :: rest => do
      let (_, rest) ← Scan.expect "[CDATA[" rule rest
      let (c, rest) ← Scan.upTo "]]>" rule rest
      contentWith d rule expand bound stack (top.add (.text (String.ofList c))) rest
    | '<' :: '?' :: rest => do
      let (c, rest) ← Scan.instruction rule rest
      contentWith d rule expand bound stack (top.add (.instruction c)) rest
    | '<' :: '/' :: rest => do
      let (name, rest) ← Scan.endTag rule rest
      match stack with
      | [] => return (top, some (name, rest))
      | under :: stack =>
        guard (name = top.written)
        contentWith d rule expand bound stack (under.add top.node) rest
    | '<' :: rest => do
      let (tag, rest) ← Scan.startTag rule rest
      let frame ← start? d rule top.scope tag
      if tag.isEmpty then contentWith d rule expand bound stack (top.add frame.node) rest
      else contentWith d rule expand bound (top :: stack) frame rest
    | '&' :: rest => do
      let (r, rest) ← Scan.reference rule rest
      match r with
      | .char c => contentWith d rule expand bound stack (top.add (.text (String.singleton c))) rest
      | .entity name =>
        match predefined? name with
        | some c => contentWith d rule expand bound stack (top.add (.text (String.singleton c))) rest
        | none =>
          let nodes ← expand top.scope name
          contentWith d rule expand bound stack { top with children := nodes.reverse ++ top.children } rest
    | ']' :: ']' :: '>' :: _ => none
    | c :: rest => contentWith d rule expand bound stack (top.add (.text (String.singleton c))) rest

/-- an element of no name, to hold the nodes of an entity -/
def Frame.holder (scope : Scope) : Frame := ⟨⟨none, ""⟩, ⟨none, ""⟩, [], scope, []⟩

/-- the nodes of an entity, entities nested at most `depth` deep -/
def entityNodes (d : Doctype) : (depth : Nat) → Scope → String → Option (List Node)
  | 0, _, _ => none
  | depth + 1, scope, name =>
    match d.entities.lookup name with
    | some (.internal text) =>
      match contentWith d .plain (entityNodes d depth) text.length [] (.holder scope) text with
      | some (frame, none) => some frame.children.reverse
      | _ => none
    | _ => none

/-! ## Whole documents -/

namespace Scan

/-- comments, processing instructions and blanks -/
def miscWithin : (bound : Nat) → Scan Unit
  | 0 => return
  | bound + 1 => do
    spaces
    if ← accept "<!--" then
      let _ ← comment
      miscWithin bound
    else if ← sees "<?" then
      expect "<?"
      let _ ← instruction
      miscWithin bound

/-- comments, processing instructions and blanks -/
def misc : Scan Unit := do miscWithin (← get).length

/-- the root element after the prolog -/
def rootElement (d : Doctype) : Scan Element := do
  expect "<"
  let tag ← startTag
  match start? d (← read) .root tag with
  | none => stop
  | some frame =>
    if tag.isEmpty then return frame.element
    let text ← get
    match contentWith d (← read) (entityNodes d d.entities.length) text.length [] frame text with
    | some (frame, some (name, rest)) =>
      check (name = frame.written)
      set rest
      return frame.element
    | _ => stop

/-- what follows the declaration of a document -/
def document (standalone : Bool) : Scan Element := do
  misc
  let d ← if ← accept "<!DOCTYPE" then doctype standalone else pure (.absent standalone)
  misc
  let root ← rootElement d
  misc
  check (← get).isEmpty
  return root

end Scan

/-- the characters with every line end made a line feed -/
def normalizeLines : List Char → List Char
  | [] => []
  | '\r' :: '\n' :: rest => '\n' :: normalizeLines rest
  | '\r' :: rest => '\n' :: normalizeLines rest
  | c :: rest => c :: normalizeLines rest

/-- the root element of a text that follows a declaration -/
def parseText (rule : NameRule) (standalone : Bool) (text : List Char) : Except DocumentError Element :=
  if text.all isDocumentChar then
    match Scan.document standalone rule (normalizeLines text) with
    | some (root, _) => .ok root
    | none => .error .malformed
  else .error .malformed

/-- an optional result, without which the document is malformed -/
def orMalformed {α : Type} : Option α → Except DocumentError α
  | some x => .ok x
  | none => .error .malformed

/-- the root element of a document read in octets -/
def parseOctets (octets : Bytes) : Except DocumentError Element := do
  let front := octets.map fun b => Char.ofNat b.toNat
  let (declaration, rest) ← orMalformed (Scan.declaration? .plain front)
  let set ← match declaration.bind (·.encoding) with
    | some name => Charset.declared name
    | none => pure .utf8
  let text ← orMalformed (set.decode? (octets.drop (octets.length - rest.length)))
  let rule := if (declaration.bind (·.encoding)).any Charset.isLatinName then NameRule.withSigns else .plain
  parseText rule ((declaration.map (·.standalone)).getD false) text

/-- the root element of a document read in 16-bit units; what the declaration says comes before units that are no character -/
def parseUnits (bigEndian : Bool) (octets : Bytes) : Except DocumentError Element := do
  let (text, whole) := Charset.ofUnitOctets bigEndian octets
  let (declaration, rest) ← orMalformed (Scan.declaration? .withSigns text)
  let standalone := (declaration.map (·.standalone)).getD false
  let set ← match declaration.bind (·.encoding) with
    | some name => Charset.redeclared bigEndian name
    | none => pure (.utf16 bigEndian)
  match set with
  | .utf16 _ =>
    if !whole then throw .malformed
    parseText .withSigns standalone rest
  | set =>
    let later := octets.drop (2 * (text.length - rest.length))
    parseText .plain standalone (← orMalformed (set.decode? later))

/-- the root element of a document -/
def parse (octets : Bytes) : Except DocumentError Element :=
  match Charset.detect octets with
  | (.utf16 bigEndian, rest) => parseUnits bigEndian rest
  | (_, rest) => parseOctets rest

end Unbundle.Xml
