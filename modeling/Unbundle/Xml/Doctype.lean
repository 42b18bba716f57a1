import Unbundle.Xml.Scan
/-
The document type declaration: the entities and the attribute defaults that its internal subset declares.

Of several declarations of one entity, or of a default for one attribute of one element, the first counts. A reference to a
parameter entity is passed over, and what is declared after it counts only in a document that declares itself to stand alone;
declarations that do not count are read, and their values are not looked into.
Element and notation declarations are checked and have no effect.
-/
namespace Unbundle.Xml

/-- what a general entity stands for -/
inductive Entity where
  | internal (text : List Char)
  /-- kept outside of the document -/
  | external
  deriving Repr

/-- a declared attribute: whether its values are kept as they are or cut into tokens, and the default -/
structure AttributeRule where
  element : String
  name : QName
  isText : Bool
  fallback : Option (List Char)
  deriving Repr

/-- what a document type declares -/
structure Doctype where
  entities : List (String × Entity)
  rules : List AttributeRule
  /-- declarations still count -/
  active : Bool
  /-- there are declarations elsewhere that are not read -/
  partly : Bool
  standalone : Bool
  deriving Repr

/-- a document without document type -/
def Doctype.absent (standalone : Bool) : Doctype := ⟨[], [], true, false, standalone⟩

namespace Doctype

/-- with one more entity -/
def addEntity (d : Doctype) (name : String) (e : Entity) : Doctype :=
  if d.active then { d with entities := d.entities ++ [(name, e)] } else d

/-- with one more attribute rule; a second default for the same attribute does not count -/
def addRule (d : Doctype) (r : AttributeRule) : Doctype :=
  let repeated := r.fallback.isSome && d.rules.any fun o => o.element = r.element && o.name = r.name
  if d.active && !repeated then { d with rules := d.rules ++ [r] } else d

/-- after a reference to a parameter entity -/
def passParameter (d : Doctype) : Doctype := { d with active := d.standalone, partly := true }

/-- whether an entity that is not known may be declared elsewhere -/
def mayLack (d : Doctype) : Bool := d.partly && !d.standalone

/-- the rules for the attributes of an element -/
def rulesOf (d : Doctype) (element : String) : List AttributeRule := d.rules.filter (·.element = element)

end Doctype

/-! ## Attribute values -/

/-- a value with its references replaced and its blanks made spaces; `expand` gives the value of an entity -/
def valueWith (rule : NameRule) (expand : String → Option (List Char)) : (bound : Nat) → List Char → Option (List Char)
  | 0, _ => some []
  | _, [] => some []
  | bound + 1, '&' :: rest =>
    match Scan.reference rule rest with
    | none => none
    | some (.char c, rest) => (valueWith rule expand bound rest).map (c :: ·)
    | some (.entity entity, rest) =>
      match predefined? entity with
      | some c => (valueWith rule expand bound rest).map (c :: ·)
      | none => do
        let text ← expand entity
        return text ++ (← valueWith rule expand bound rest)
  | _, '<' :: _ => none
  | bound + 1, c :: rest => (valueWith rule expand bound rest).map ((if isSpace c then ' ' else c) :: ·)

/-- the value of an entity inside an attribute value, entities nested at most `depth` deep; an entity that may be declared
elsewhere is left out -/
def Doctype.entityValue (d : Doctype) : (depth : Nat) → String → Option (List Char)
  | depth, name =>
    match d.entities.lookup name with
    | none => if d.mayLack then some [] else none
    | some .external => none
    | some (.internal text) =>
      match depth with
      | 0 => none
      | depth + 1 => valueWith .plain (d.entityValue depth) text.length text

/-- single spaces between the tokens of a value and none around them -/
def tokenized : List Char → List Char
  | [] => []
  | c :: rest =>
    let later := tokenized rest
    if c = ' ' ∧ (later = [] ∨ later.head? = some ' ') then later else c :: later

/-- the value of an attribute as the application sees it -/
def Doctype.attributeValue (d : Doctype) (rule : NameRule) (isText : Bool) (raw : List Char) : Option (List Char) := do
  let value ← valueWith rule (d.entityValue d.entities.length) raw.length raw
  return if isText then value else (tokenized value).dropWhile (· = ' ')

/-! ## Declarations -/

namespace Scan

/-- a character of a public identifier -/
def isPublicChar (c : Char) : Bool :=
  c.isAlphanum || " \n\r-'()+,./:=?;!*#@$_%".toList.contains c

/-- a public identifier between quotation marks -/
def publicLiteral : Scan Unit := do
  check ((← literal).all isPublicChar)

/-- the identifier of something kept outside of the document, if one stands here; a notation may lack the second literal -/
def externalId (lone : Bool) : Scan Bool := do
  if ← accept "SYSTEM" then
    spaces1
    let _ ← literal
    return true
  if ← accept "PUBLIC" then
    spaces1
    publicLiteral
    let before := (← get).length
    spaces
    let blank := (← get).length < before
    match ← peek with
    | some '"' | some '\'' =>
      check blank
      let _ ← literal
      return true
    | _ =>
      check lone
      return true
  return false

/-- the text of an entity: numeric references replaced, others kept, none to parameter entities -/
def entityText (rule : NameRule) : (bound : Nat) → List Char → Option (List Char)
  | 0, _ => some []
  | _, [] => some []
  | bound + 1, '&' :: rest =>
    match Scan.reference rule rest with
    | none => none
    | some (.char c, rest) => (entityText rule bound rest).map (c :: ·)
    | some (.entity entity, rest) => (entityText rule bound rest).map fun later => '&' :: entity.toList ++ ';' :: later
  | _, '%' :: _ => none
  | bound + 1, c :: rest => (entityText rule bound rest).map (c :: ·)

/-- an entity declaration after its opening -/
def entityDeclaration (d : Doctype) : Scan Doctype := do
  spaces1
  let parameter ← accept "%"
  if parameter then spaces1
  let entity ← name
  spaces1
  if ← externalId false then
    let before := (← get).length
    spaces
    let blank := (← get).length < before
    if ← accept "NDATA" then
      check (blank && !parameter)
      spaces1
      let _ ← name
      spaces
    expect ">"
    return if parameter then d else d.addEntity entity .external
  let raw ← literal
  spaces
  expect ">"
  if !d.active then return d
  match entityText (← read) raw.length raw with
  | none => stop
  | some text => return if parameter then d else d.addEntity entity (.internal text)

/-- items between parentheses, separated by bars -/
def choiceWithin (item : Scan String) : (bound : Nat) → Scan Unit
  | 0 => stop
  | bound + 1 => do
    spaces
    let _ ← item
    spaces
    if ← accept "|" then choiceWithin item bound else expect ")"

/-- the type of an attribute: whether it is text -/
def attributeType : Scan Bool := do
  if ← accept "(" then
    choiceWithin nameToken (← get).length
    return false
  let keyword ← name
  if keyword = "NOTATION" then
    spaces1
    expect "("
    choiceWithin name (← get).length
    return false
  check (["CDATA", "ID", "IDREF", "IDREFS", "ENTITY", "ENTITIES", "NMTOKEN", "NMTOKENS"].contains keyword)
  return keyword = "CDATA"

/-- the default of an attribute, if it has one -/
def attributeDefault (d : Doctype) (isText : Bool) : Scan (Option (List Char)) := do
  if ← accept "#REQUIRED" then return none
  if ← accept "#IMPLIED" then return none
  if ← accept "#FIXED" then spaces1
  let raw ← literal
  if !d.active then return none
  match d.attributeValue (← read) isText raw with
  | some value => return some value
  | none => stop

/-- the attributes of an attribute list declaration -/
def attributeRules (element : String) : (bound : Nat) → Doctype → Scan Doctype
  | 0, _ => stop
  | bound + 1, d => do
    let before := (← get).length
    spaces
    if ← accept ">" then return d
    check ((← get).length < before)
    let name ← declaredName
    spaces1
    let isText ← attributeType
    spaces1
    let fallback ← attributeDefault d isText
    attributeRules element bound (d.addRule { element, name, isText, fallback })

/-- an attribute list declaration after its opening -/
def attributeListDeclaration (d : Doctype) : Scan Doctype := do
  spaces1
  let element ← declaredName
  attributeRules element.text (← get).length d

/-- an optional mark of repetition -/
def repetition : Scan Unit := do
  let marks ← run fun c => c = '?' || c = '*' || c = '+'
  check (marks.length ≤ 1)

/-- the items of a group up to its closing parenthesis, all separated by the same sign -/
def itemsOf (item : Scan Unit) : (bound : Nat) → (separator : Option Char) → Scan Unit
  | 0, _ => stop
  | bound + 1, separator => do
    spaces
    item
    spaces
    if ← accept ")" then return
    match ← peek with
    | some c =>
      check ((c = ',' || c = '|') && (separator.isNone || separator = some c))
      modify (·.drop 1)
      itemsOf item bound (some c)
    | none => stop

/-- a group of a content model after its opening parenthesis; groups nest at most `depth` deep -/
def groupWithin : (depth : Nat) → Scan Unit
  | 0 => stop
  | depth + 1 => do
    let item : Scan Unit := do
      if ← accept "(" then groupWithin depth
      else
        let _ ← declaredName
      repetition
    itemsOf item (← get).length none

/-- names of a mixed content model, each after a bar -/
def mixedWithin : (bound : Nat) → (any : Bool) → Scan Unit
  | 0, _ => stop
  | bound + 1, any => do
    spaces
    if ← accept ")" then
      let starred ← accept "*"
      check (starred || !any)
    else
      expect "|"
      spaces
      let _ ← declaredName
      mixedWithin bound true

/-- an element declaration after its opening -/
def elementDeclaration : Scan Unit := do
  spaces1
  let _ ← declaredName
  spaces1
  if ← accept "(" then
    let here ← get
    spaces
    if ← accept "#PCDATA" then mixedWithin here.length false
    else
      set here
      groupWithin here.length
      repetition
  else
    let keyword ← name
    check (keyword = "EMPTY" || keyword = "ANY")
  spaces
  expect ">"

/-- a notation declaration after its opening -/
def notationDeclaration : Scan Unit := do
  spaces1
  let _ ← name
  spaces1
  check (← externalId true)
  spaces
  expect ">"

/-- the declarations of an internal subset after its opening bracket -/
def subsetWithin : (bound : Nat) → Doctype → Scan Doctype
  | 0, _ => stop
  | bound + 1, d => do
    spaces
    if ← accept "]" then return d
    if ← accept "%" then
      let _ ← name
      expect ";"
      subsetWithin bound d.passParameter
    else if ← accept "<!--" then
      let _ ← comment
      subsetWithin bound d
    else if ← accept "<?" then
      let _ ← instruction
      subsetWithin bound d
    else if ← accept "<!ENTITY" then
      subsetWithin bound (← entityDeclaration d)
    else if ← accept "<!ATTLIST" then
      subsetWithin bound (← attributeListDeclaration d)
    else if ← accept "<!ELEMENT" then
      elementDeclaration
      subsetWithin bound d
    else
      expect "<!NOTATION"
      notationDeclaration
      subsetWithin bound d

/-- a document type declaration after its opening -/
def doctype (standalone : Bool) : Scan Doctype := do
  spaces1
  let _ ← declaredName
  let before := (← get).length
  spaces
  let blank := (← get).length < before
  let isPartly ← externalId false
  check (blank || !isPartly)
  spaces
  let start : Doctype := { Doctype.absent standalone with partly := isPartly }
  let d ← if ← accept "[" then subsetWithin (← get).length start else pure start
  spaces
  expect ">"
  return d

end Scan

end Unbundle.Xml
