import Unbundle.Text.Blank
import Unbundle.Text.Digits
import Unbundle.Identity.Sha1
/-
Display names of assemblies.

A display name reads `Name, Version=a.b.c.d, Culture=…, PublicKeyToken=…`, with `neutral` in the place of a missing culture and
`null` in the place of a missing token. `simpleName` takes the name back out of it: what stands before the first comma,
without the blanks around it.
-/
namespace Unbundle

/-- what identifies an assembly -/
structure AssemblyName where
  name : String
  /-- absent when nothing says what the version is -/
  version : Option (Int × Int × Int × Int)
  culture : Option String
  token : Option Bytes
  deriving DecidableEq, Repr

namespace AssemblyName

/-- the four numbers of a version, joined by dots; an absent version has a word for each number -/
def versionText : Option (Int × Int × Int × Int) → String
  | some (a, b, c, d) =>
    Text.decimalInt a ++ "." ++ Text.decimalInt b ++ "." ++ Text.decimalInt c ++ "." ++ Text.decimalInt d
  | none => "None.None.None.None"

/-- the culture's text; no culture and an empty one are the neutral culture -/
def cultureText (culture : Option String) : String :=
  match culture with
  | none => "neutral"
  | some c => if c = "" then "neutral" else c

/-- the token's text; no token and an empty one count as none -/
def tokenText (token : Option Bytes) : String :=
  match token with
  | none => "null"
  | some [] => "null"
  | some bs => Text.octets bs

/-- the display name -/
def display (n : AssemblyName) : String :=
  n.name ++ ", Version=" ++ versionText n.version ++ ", Culture=" ++ cultureText n.culture
    ++ ", PublicKeyToken=" ++ tokenText n.token

end AssemblyName

/-- the name at the front of a display name -/
def simpleName (fullName : String) : String :=
  Text.trim (String.ofList (fullName.toList.takeWhile (· ≠ ',')))

/-- the eight octets that stand for a public key: a key of eight octets is its own token, of any other the digest's last
eight octets stand in reverse order -/
def publicKeyToken (key : Bytes) : Bytes :=
  if key.length = 8 then key else ((Sha1.digest key).drop 12).reverse

theorem length_publicKeyToken (key : Bytes) : (publicKeyToken key).length = 8 := by
  unfold publicKeyToken
  split
  · assumption
  · simp [Sha1.length_digest]

/-- the token of an assembly's public key, if it has a key and the key is marked as one or is a token itself -/
def keyToken? (marked : Bool) (key : Bytes) : Option Bytes :=
  if key ≠ [] ∧ (marked ∨ key.length = 8) then some (publicKeyToken key) else none

end Unbundle
