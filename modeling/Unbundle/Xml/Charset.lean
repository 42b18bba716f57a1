import Unbundle.Bytes
import Unbundle.Text.Utf8
import Unbundle.Xml.CharsetTables
import Unbundle.Xml.Tree
/-
From the octets of a document to its characters.

A document is read in 16-bit units or in octets, as its first octets tell: a byte order mark, or a zero octet next to the first
character. A document in octets is UTF-8 unless its declaration names another set of one octet per character. Such a
declaration counts in 16-bit units, too: what follows it is then read in octets.
-/
namespace Unbundle.Xml

/-- how the octets of a document give characters -/
inductive Charset where
  | utf8
  | utf16 (bigEndian : Bool)
  /-- one octet per character: ASCII and an upper half, in which some octets may be no character -/
  | octets (upper : Array (Option Char))

namespace Charset

/-- the characters that 16-bit units start with, and whether there is nothing else among the units -/
def ofUnits : List Nat → List Char × Bool
  | [] => ([], true)
  | u :: rest =>
    if 0xD800 ≤ u ∧ u < 0xDC00 then
      match rest with
      | [] => ([], false)
      | v :: rest =>
        let (later, whole) := ofUnits rest
        (Char.ofNat (0x10000 + 1024 * (u - 0xD800) + v % 1024) :: later, whole)
    else if 0xDC00 ≤ u ∧ u < 0xE000 then ([], false)
    else
      let (later, whole) := ofUnits rest
      (Char.ofNat u :: later, whole)

/-- the 16-bit units in octets, and whether no octet is left over -/
def units (bigEndian : Bool) : Bytes → List Nat × Bool
  | [] => ([], true)
  | [_] => ([], false)
  | a :: b :: rest =>
    let (later, whole) := units bigEndian rest
    ((if bigEndian then 256 * a.toNat + b.toNat else 256 * b.toNat + a.toNat) :: later, whole)

/-- the characters that octets start with when they are read in 16-bit units, and whether there is nothing else in them -/
def ofUnitOctets (bigEndian : Bool) (bs : Bytes) : List Char × Bool :=
  let (us, even) := units bigEndian bs
  let (cs, whole) := ofUnits us
  (cs, even && whole)

/-- the character of an octet in a set with the given upper half -/
def ofOctet (upper : Array (Option Char)) (b : UInt8) : Option Char :=
  if b < 0x80 then some (Char.ofNat b.toNat) else (upper[b.toNat - 128]?).join

/-- the characters of some octets, if all of them are characters -/
def decode? (set : Charset) (bs : Bytes) : Option (List Char) :=
  match set with
  | .utf8 => (Utf8.decode? bs).map String.toList
  | .utf16 bigEndian =>
    let (cs, whole) := ofUnitOctets bigEndian bs
    if whole then some cs else none
  | .octets upper => bs.mapM (ofOctet upper)

/-- the value of a hexadecimal digit -/
def digitValue (c : Char) : Nat := if c ≤ '9' then c.toNat - 48 else c.toNat - 55

/-- an upper half written in groups of four digits -/
def unpack : List Char → List (Option Char)
  | a :: b :: c :: d :: rest =>
    let n := 4096 * digitValue a + 256 * digitValue b + 16 * digitValue c + digitValue d
    (if n = 0xFFFD then none else some (Char.ofNat n)) :: unpack rest
  | _ => []

/-- the set without upper half -/
def ascii : Charset := .octets #[]

/-- the set whose upper half is that of the first 256 code points -/
def latin : Charset := .octets ((List.range 128).map fun i => some (Char.ofNat (128 + i))).toArray

/-- the label of an encoding's name: lower case, with one underscore for each run of signs -/
def label (name : String) : String :=
  let marked := name.toList.map fun c => if c.isAlphanum || c = '.' then c.toLower else '_'
  String.ofList (marked.foldr (fun c rest => if c = '_' ∧ (rest = [] ∨ rest.head? = some '_') then rest else c :: rest) [])

/-- a label with underscores for its full stops -/
def plainLabel (l : String) : String := String.ofList (l.toList.map fun c => if c = '.' then '_' else c)

/-- whether a label is in a list, as it is or with underscores for its full stops -/
def isLabel (labels : List String) (l : String) : Bool :=
  labels.contains l || (labels.contains (plainLabel l) && !firmLabels.contains (plainLabel l))

/-- the set of one octet per character that an encoding's name stands for -/
def ofName (name : String) : Except DocumentError Charset :=
  let l := label name
  if isLabel asciiLabels l then .ok ascii
  else if isLabel latinLabels l then .ok latin
  else if isLabel foreignLabels l then .error .malformed
  else if isLabel wideLabels l then .error .unsupportedEncoding
  else if l = "undefined" then .error (.emptyEncoding name)
  else if l = "idna" then .error (.domainEncoding name)
  else if l = "punycode" then .error .asciiDomainEncoding
  else match tables.find? fun t => isLabel t.labels l with
    | some t => .ok (.octets (unpack t.upper.toList).toArray)
    | none => .error .unknownEncoding

/-- two names that differ in the case of ASCII letters at most -/
def sameName (a b : String) : Bool := a.toList.map Char.toLower = b.toList.map Char.toLower

/-- the proper name of Latin-1 -/
def isLatinName (name : String) : Bool := sameName name "iso-8859-1"

/-- the set of a document read in octets whose declaration names an encoding -/
def declared (name : String) : Except DocumentError Charset :=
  if sameName name "utf-8" then .ok .utf8
  else if isLatinName name then .ok latin
  else if sameName name "us-ascii" then .ok ascii
  else if sameName name "utf-16" || sameName name "utf-16le" || sameName name "utf-16be" then .error .malformed
  else ofName name

/-- the set that a document read in 16-bit units goes on in after a declaration that names an encoding: the same units, or one
octet per character if the name is none of those that every reader knows -/
def redeclared (bigEndian : Bool) (name : String) : Except DocumentError Charset :=
  if sameName name "utf-16" || sameName name (if bigEndian then "utf-16be" else "utf-16le") then .ok (.utf16 bigEndian)
  else if ["utf-8", "iso-8859-1", "us-ascii", "utf-16le", "utf-16be"].any (sameName name) then .error .malformed
  else ofName name

/-- the set that the first octets of a document tell, and the octets after a byte order mark -/
def detect : Bytes → Charset × Bytes
  | 0xFE :: 0xFF :: rest => (.utf16 true, rest)
  | 0xFF :: 0xFE :: rest => (.utf16 false, rest)
  | 0xEF :: 0xBB :: 0xBF :: rest => (.utf8, rest)
  | 0 :: rest => (.utf16 true, 0 :: rest)
  | a :: 0 :: rest => (.utf16 false, a :: 0 :: rest)
  | bs => (.utf8, bs)

end Charset

end Unbundle.Xml
