import Unbundle.Identity.OfFile
import Unbundle.Proofs.Text
/-
What a display name tells.

A display name is four fields between commas. The version, the token and the words for what is missing hold no comma, so that a
name and a culture without commas can be told from the text; the name alone can be told as far as its own first comma. What is
missing and what it counts as have the same text, and nothing else has.

Results:
- `simpleName_eq_iff`: what the simple name of a text is.
- `simpleName_display`: a display name and the name in it have the same simple name.
- `display_eq_iff`: display names without stray commas are the same exactly if they name the same assembly.
- `tokenText_keyToken?`: the token of a key is missing or has eight octets.
- `display_faithful`: all of this, and the token that an assembly row is displayed with.
-/
namespace Unbundle

/-! ## Simple names -/

/-- the part of a text in front of its first comma, without the blanks around it -/
def IsSimpleName (text simple : String) : Prop :=
  ∃ front back rest, text.toList = front ++ simple.toList ++ back ++ rest ∧ ',' ∉ front ++ simple.toList ++ back ∧
    (∀ c ∈ rest.head?, c = ',') ∧ (∀ c ∈ front ++ back, Text.isBlank c) ∧
    (∀ c ∈ simple.toList.head?, Text.isBlank c = false) ∧ ∀ c ∈ simple.toList.getLast?, Text.isBlank c = false

/-- a text is cut at its first comma -/
theorem takeWhile_ne_comma {part rest : List Char} (hpart : ',' ∉ part) (hrest : ∀ c ∈ rest.head?, c = ',') :
    (part ++ rest).takeWhile (· ≠ ',') = part := by
  have hall : ∀ c ∈ part, decide (c ≠ ',') = true := by
    intro c hc
    rw [decide_eq_true_iff]
    rintro rfl
    exact hpart hc
  rw [List.takeWhile_append_of_pos hall]
  cases rest with
  | nil => rw [List.takeWhile_nil, List.append_nil]
  | cons c rest =>
    obtain rfl := hrest c rfl
    rw [List.takeWhile_cons_of_neg (by decide), List.append_nil]

theorem exists_comma_rest (text : List Char) :
    ∃ rest, text = text.takeWhile (· ≠ ',') ++ rest ∧ ',' ∉ text.takeWhile (· ≠ ',') ∧ ∀ c ∈ rest.head?, c = ',' := by
  refine ⟨text.dropWhile (· ≠ ','), List.takeWhile_append_dropWhile.symm, ?_, ?_⟩
  · intro h
    have hcomma := List.mem_takeWhile_imp h
    simp at hcomma
  · intro c hc
    have hstart := List.head?_dropWhile_not (fun c => decide (c ≠ ',')) text
    rw [Option.mem_def.1 hc] at hstart
    simpa using hstart

theorem simpleName_eq_iff {text simple : String} : simpleName text = simple ↔ IsSimpleName text simple := by
  have htrim : simpleName text = simple ↔
      Text.trimEnds Text.isBlank (text.toList.takeWhile (· ≠ ',')) = simple.toList := by
    rw [simpleName, Text.trim, String.toList_ofList, ← String.toList_inj, String.toList_ofList]
  rw [htrim, Text.trimEnds_eq_iff]
  constructor
  · rintro ⟨front, back, hpart, hblank, hhead, hlast⟩
    obtain ⟨rest, htext, hcomma, hrest⟩ := exists_comma_rest text.toList
    rw [hpart] at htext hcomma
    exact ⟨front, back, rest, htext, hcomma, hrest, hblank, hhead, hlast⟩
  · rintro ⟨front, back, rest, htext, hcomma, hrest, hblank, hhead, hlast⟩
    refine ⟨front, back, ?_, hblank, hhead, hlast⟩
    rw [htext, takeWhile_ne_comma hcomma hrest]

namespace AssemblyName

/-! ## The fields of a display name -/

/-- what stands behind the name -/
def details (n : AssemblyName) : String :=
  " Version=" ++ versionText n.version ++ ", Culture=" ++ cultureText n.culture ++ ", PublicKeyToken=" ++ tokenText n.token

theorem display_toList (n : AssemblyName) : n.display.toList = n.name.toList ++ ',' :: n.details.toList := by
  simp [display, details, String.toList_append]

theorem details_toList (n : AssemblyName) : n.details.toList = (" Version=".toList ++ (versionText n.version).toList) ++
    ',' :: ((" Culture=".toList ++ (cultureText n.culture).toList) ++
      ',' :: (" PublicKeyToken=".toList ++ (tokenText n.token).toList)) := by
  simp [details, String.toList_append]

/-- a display name and the name in it have the same simple name -/
theorem simpleName_display (n : AssemblyName) : simpleName n.display = simpleName n.name := by
  have hcut : n.display.toList.takeWhile (· ≠ ',') = n.name.toList.takeWhile (· ≠ ',') := by
    obtain ⟨rest, hname, hcomma, hrest⟩ := exists_comma_rest n.name.toList
    have hdisplay : n.display.toList =
        n.name.toList.takeWhile (· ≠ ',') ++ (rest ++ ',' :: n.details.toList) := by
      rw [n.display_toList, ← List.append_assoc, ← hname]
    rw [hdisplay, takeWhile_ne_comma hcomma]
    intro c hc
    cases rest with
    | nil => exact (Option.some.inj hc).symm
    | cons first rest => exact hrest c hc
  rw [simpleName, simpleName, hcut]

theorem not_mem_versionText (version : Option (Int × Int × Int × Int)) : ',' ∉ (versionText version).toList := by
  have hpart (z : Int) : ',' ∉ (Text.decimalInt z).toList := Text.not_mem_decimalInt (by decide) (by decide)
  cases version with
  | none => decide
  | some v =>
    obtain ⟨a, b, c, d⟩ := v
    simp [versionText, String.toList_append, hpart]

/-- the four numbers of a version are told by their text -/
theorem versionText_injective {v v' : Option (Int × Int × Int × Int)} (h : versionText v = versionText v') : v = v' := by
  have hdot (z : Int) : '.' ∉ (Text.decimalInt z).toList := Text.not_mem_decimalInt (by decide) (by decide)
  have htext (a b c d : Int) : (versionText (some (a, b, c, d))).toList = (Text.decimalInt a).toList ++
      '.' :: ((Text.decimalInt b).toList ++ '.' :: ((Text.decimalInt c).toList ++ '.' :: (Text.decimalInt d).toList)) := by
    simp [versionText, String.toList_append]
  -- an absent version is told by letters, a version by digits and signs
  have hletter (a b c d : Int) : 'N' ∉ (versionText (some (a, b, c, d))).toList := by
    have hpart (z : Int) : 'N' ∉ (Text.decimalInt z).toList := Text.not_mem_decimalInt (by decide) (by decide)
    simp [versionText, String.toList_append, hpart]
  have habsent : 'N' ∈ (versionText none).toList := by decide
  match v, v', h with
  | none, none, _ => rfl
  | none, some (a, b, c, d), h => exact absurd (h ▸ habsent) (hletter a b c d)
  | some (a, b, c, d), none, h => exact absurd (h ▸ habsent) (hletter a b c d)
  | some (a, b, c, d), some (a', b', c', d'), h =>
    have hlists := congrArg String.toList h
    rw [htext, htext, Text.append_cons_inj (hdot a) (hdot a'), Text.append_cons_inj (hdot b) (hdot b'),
      Text.append_cons_inj (hdot c) (hdot c'), String.toList_inj, String.toList_inj, String.toList_inj,
      String.toList_inj] at hlists
    obtain ⟨ha, hb, hc, hd⟩ := hlists
    rw [Text.decimalInt_injective ha, Text.decimalInt_injective hb, Text.decimalInt_injective hc,
      Text.decimalInt_injective hd]

/-- no culture, an empty one and the one of this name -/
def IsNeutral (culture : Option String) : Prop := culture ∈ [none, some "", some "neutral"]

instance (culture : Option String) : Decidable (IsNeutral culture) := inferInstanceAs (Decidable (_ ∈ _))

/-- cultures that count as one -/
def SameCulture (c c' : Option String) : Prop := c = c' ∨ IsNeutral c ∧ IsNeutral c'

instance (c c' : Option String) : Decidable (SameCulture c c') := inferInstanceAs (Decidable (_ ∨ _))

theorem cultureText_eq_neutral {culture : Option String} : cultureText culture = "neutral" ↔ IsNeutral culture := by
  cases culture with
  | none => simp [cultureText, IsNeutral]
  | some c =>
    simp only [cultureText, IsNeutral, List.mem_cons, List.not_mem_nil, or_false, reduceCtorEq, false_or, Option.some.injEq]
    split_ifs with h <;> simp [h]

theorem cultureText_of_not_neutral {culture : Option String} (h : ¬ IsNeutral culture) :
    some (cultureText culture) = culture := by
  cases culture with
  | none => exact absurd (List.mem_cons_self ..) h
  | some c =>
    have hne : c ≠ "" := by
      rintro rfl
      exact h (by simp [IsNeutral])
    rw [cultureText, if_neg hne]

theorem cultureText_eq_iff {c c' : Option String} : cultureText c = cultureText c' ↔ SameCulture c c' := by
  constructor
  · intro h
    by_cases hc : IsNeutral c
    · exact .inr ⟨hc, cultureText_eq_neutral.1 (h.symm.trans (cultureText_eq_neutral.2 hc))⟩
    · have hc' : ¬ IsNeutral c' := fun hc' => hc (cultureText_eq_neutral.1 (h.trans (cultureText_eq_neutral.2 hc')))
      left
      rw [← cultureText_of_not_neutral hc, ← cultureText_of_not_neutral hc', h]
  · rintro (rfl | ⟨hc, hc'⟩)
    · rfl
    · rw [cultureText_eq_neutral.2 hc, cultureText_eq_neutral.2 hc']

/-- tokens that count as one: no token and an empty one do -/
def SameToken (t t' : Option Bytes) : Prop := t = t' ∨ t ∈ [none, some []] ∧ t' ∈ [none, some []]

instance (t t' : Option Bytes) : Decidable (SameToken t t') := inferInstanceAs (Decidable (_ ∨ _))

/-- the digits of a token are no letter `n` -/
theorem octets_ne_null (bs : Bytes) : Text.octets bs ≠ "null" := by
  intro h
  have hletter : 'n' ∈ (Text.octets bs).toList := by
    rw [h]
    decide
  exact absurd (Text.isHexDigit_of_mem_octets hletter) (by decide)

theorem tokenText_eq_iff {t t' : Option Bytes} : tokenText t = tokenText t' ↔ SameToken t t' := by
  rcases t with _ | _ | ⟨b, bs⟩ <;> rcases t' with _ | _ | ⟨b', bs'⟩
  case some.cons.some.cons =>
    simp only [tokenText, SameToken]
    constructor
    · intro h
      rw [Text.octets_injective h]
      exact .inl rfl
    · rintro (h | h)
      · rw [Option.some.inj h]
      · simp at h
  all_goals simp [tokenText, SameToken, octets_ne_null, (octets_ne_null _).symm]

/-- neither name nor culture holds a comma -/
def CommaFree (n : AssemblyName) : Prop := ',' ∉ n.name.toList ∧ ∀ c ∈ n.culture, ',' ∉ c.toList

instance (n : AssemblyName) : Decidable n.CommaFree := inferInstanceAs (Decidable (_ ∧ ∀ c ∈ n.culture, ',' ∉ c.toList))

theorem CommaFree.not_mem_cultureText {n : AssemblyName} (h : n.CommaFree) : ',' ∉ (cultureText n.culture).toList := by
  by_cases hneutral : IsNeutral n.culture
  · rw [cultureText_eq_neutral.2 hneutral]
    decide
  · exact h.2 _ (cultureText_of_not_neutral hneutral).symm

/-- display names without stray commas are the same exactly if their fields are -/
theorem display_eq_iff {n n' : AssemblyName} (h : n.CommaFree) (h' : n'.CommaFree) :
    n.display = n'.display ↔
      n.name = n'.name ∧ n.version = n'.version ∧ SameCulture n.culture n'.culture ∧ SameToken n.token n'.token := by
  have hversion (v : Option (Int × Int × Int × Int)) : ',' ∉ " Version=".toList ++ (versionText v).toList := by
    rw [List.mem_append, not_or]
    exact ⟨by decide, not_mem_versionText v⟩
  have hculture {n : AssemblyName} (h : n.CommaFree) : ',' ∉ " Culture=".toList ++ (cultureText n.culture).toList := by
    rw [List.mem_append, not_or]
    exact ⟨by decide, h.not_mem_cultureText⟩
  rw [← String.toList_inj, display_toList, display_toList, Text.append_cons_inj h.1 h'.1, details_toList, details_toList,
    Text.append_cons_inj (hversion _) (hversion _), Text.append_cons_inj (hculture h) (hculture h'), List.append_cancel_left_eq,
    List.append_cancel_left_eq, List.append_cancel_left_eq, String.toList_inj, String.toList_inj, String.toList_inj,
    String.toList_inj, cultureText_eq_iff, tokenText_eq_iff]
  constructor
  · rintro ⟨hname, hv, hrest⟩
    exact ⟨hname, versionText_injective hv, hrest⟩
  · rintro ⟨hname, hv, hrest⟩
    exact ⟨hname, congrArg versionText hv, hrest⟩

end AssemblyName

/-! ## Tokens of keys -/

/-- the text of a token of eight octets -/
def IsTokenText (text : String) : Prop := text.length = 16 ∧ ∀ c ∈ text.toList, Text.IsHexDigit c

theorem isTokenText_octets {token : Bytes} (h : token.length = 8) : IsTokenText (Text.octets token) := by
  refine ⟨?_, fun c hc => Text.isHexDigit_of_mem_octets hc⟩
  rw [Text.length_octets, h]

/-- the token of a key is missing if there is no key, or one that is neither marked nor a token itself, and has eight octets
otherwise -/
theorem tokenText_keyToken? (marked : Bool) (key : Bytes) :
    (AssemblyName.tokenText (keyToken? marked key) = "null" ∧ (key = [] ∨ marked = false ∧ key.length ≠ 8)) ∨
    (AssemblyName.tokenText (keyToken? marked key) = Text.octets (publicKeyToken key) ∧
      IsTokenText (Text.octets (publicKeyToken key))) := by
  have hlength := length_publicKeyToken key
  rw [keyToken?]
  split_ifs with h
  · right
    refine ⟨?_, isTokenText_octets hlength⟩
    rcases hkey : publicKeyToken key with _ | ⟨b, bs⟩
    · rw [hkey] at hlength
      cases hlength
    · rfl
  · refine .inl ⟨rfl, ?_⟩
    by_cases hkey : key = []
    · exact .inl hkey
    · have hneither := not_or.1 fun hor => h ⟨hkey, hor⟩
      exact .inr ⟨Bool.eq_false_iff.2 hneither.1, hneither.2⟩

/-- what can be told from display names -/
structure DisplayFaithful : Prop where
  /-- the simple name is the part of the name in front of its first comma, trimmed -/
  simpleName_iff : ∀ (n : AssemblyName) (simple : String), simpleName n.display = simple ↔ IsSimpleName n.name simple
  /-- that is the whole name if it has no comma and no blanks around it -/
  simpleName_eq : ∀ n : AssemblyName, ',' ∉ n.name.toList → (∀ c ∈ n.name.toList.head?, Text.isBlank c = false) →
    (∀ c ∈ n.name.toList.getLast?, Text.isBlank c = false) → simpleName n.display = n.name
  /-- display names without stray commas are the same exactly if their fields are -/
  display_iff : ∀ n n' : AssemblyName, n.CommaFree → n'.CommaFree → (n.display = n'.display ↔
    n.name = n'.name ∧ n.version = n'.version ∧ AssemblyName.SameCulture n.culture n'.culture ∧
      AssemblyName.SameToken n.token n'.token)
  /-- an image with an assembly row is displayed with the row's fields, and with sixteen digits or none for the token -/
  fullName : ∀ (o : Opened) (row : Metadata.AssemblyRow) (rows : List Metadata.AssemblyRow),
    o.metadata.assemblies = row :: rows → ∃ identity token, Identity.ofOpened o = .ok identity ∧
      identity.fullName = row.name ++ ", Version=" ++ AssemblyName.versionText (Identity.assemblyName row).version ++
        ", Culture=" ++ AssemblyName.cultureText (some row.culture) ++ ", PublicKeyToken=" ++ token ∧
      (token = "null" ∧ (row.publicKey = [] ∨ Identity.isKeyMarked row.flags = false ∧ row.publicKey.length ≠ 8) ∨
        IsTokenText token)

/-- an image with nothing in it but an assembly row, whose key is marked and too short to be a token -/
def keyedImage : Opened where
  image := ⟨[], [], [], ⟨0, 0⟩, 0x2000, 3, 0, 0⟩
  metadata := { assemblies := [⟨some (1, 0, 0, 0), 1, [0x00, 0x24], "Host", "neutral"⟩] }
  resources := 0

end Unbundle
