import Unbundle.Proofs.Manifest.Offsets
import Unbundle.Proofs.Text
/-
Which texts are offsets.

`Numeral` is the grammar: blanks, a sign or none, digits, blanks. The reader goes through a text once and takes these parts as it
meets them; a text is an offset exactly if it is the numeral of a number that fits in 32 bits, and a numeral of too many digits
is not read at all.

The same can be had in two steps, a test of the grammar and behind it a lenient reader, as there are many: one that takes the
blanks and digits of other scripts too and marks between digits, and that refuses what is no number to it and what has too many
digits. A `Script` is the alphabet of such a reader. The second step only has a say in how long a numeral may be: what passes the
test is refused by every one of them for its length, or read to the number that the grammar gives it.

Results:
- `decimal?_eq_some_iff`: a number is read from a text exactly if the text is its numeral.
- `offsetOf_eq_error_iff`: the texts that are not read are the numerals of too many digits.
- `Script.read_of_numeral`: every lenient reader reads a numeral, unless it has too many digits.
- `offset_grammar`: the grammar of offsets, and that reading in two steps comes to the same.
-/
namespace Unbundle.Manifest

/-! ## The grammar -/

/-- the text writes a number: blanks, a sign or none, digits, and blanks again -/
def Numeral (text : String) (n : Int) : Prop :=
  ∃ front sign digits back factor, text.toList = front ++ sign ++ digits ++ back ∧
    (∀ c ∈ front ++ back, c ∈ [' ', '\t', '\n', '\x0b', '\x0c', '\r']) ∧ SignOf sign factor ∧
    digits ≠ [] ∧ (∀ c ∈ digits, '0' ≤ c ∧ c ≤ '9') ∧ n = factor * Nat.ofDigitChars 10 digits 0

variable {text : String} {n : Int}

theorem isLayout_iff (c : Char) : Text.isLayout c ↔ c ∈ [' ', '\t', '\n', '\x0b', '\x0c', '\r'] := by
  have htoNat (d : Char) : c = d ↔ c.toNat = d.toNat := Char.toNat_inj.symm
  simp only [Text.isLayout, List.mem_cons, List.not_mem_nil, or_false, Bool.or_eq_true, Bool.and_eq_true, decide_eq_true_eq,
    htoNat]
  simp
  omega

theorem isDigit_iff (c : Char) : isDigit c ↔ '0' ≤ c ∧ c ≤ '9' := by
  simp only [isDigit, Bool.and_eq_true, decide_eq_true_eq]

theorem exists_sign (cs : List Char) : ∃ sign, SignOf sign (splitSign cs).1 ∧ cs = sign ++ (splitSign cs).2 := by
  unfold splitSign
  split
  · exact ⟨_, .plus, rfl⟩
  · exact ⟨_, .minus, rfl⟩
  · exact ⟨_, .unsigned, rfl⟩

/-- a number is read from a text exactly if the text is its numeral -/
theorem decimal?_eq_some_iff : decimal? text.toList = some n ↔ Numeral text n := by
  constructor
  · intro h
    obtain ⟨sign, hsign, hbody⟩ := exists_sign (text.toList.dropWhile Text.isLayout)
    rw [decimal?] at h
    dsimp only at h
    split_ifs at h with hparts
    obtain ⟨hne, hblank⟩ := hparts
    generalize splitSign (text.toList.dropWhile Text.isLayout) = parts at *
    obtain ⟨factor, body⟩ := parts
    refine ⟨text.toList.takeWhile Text.isLayout, sign, body.takeWhile isDigit, body.dropWhile isDigit, factor, ?_, ?_, hsign,
      hne, fun c hc => (isDigit_iff c).1 (List.mem_takeWhile_imp hc), ?_⟩
    · rw [List.append_assoc, List.append_assoc, List.takeWhile_append_dropWhile, ← hbody, List.takeWhile_append_dropWhile]
    · intro c hc
      refine (isLayout_iff c).1 ?_
      rcases List.mem_append.1 hc with hfront | hback
      · exact List.mem_takeWhile_imp hfront
      · exact List.all_eq_true.1 hblank c hback
    · rw [← digitsValue_eq]
      exact (Option.some.inj h).symm
  · rintro ⟨front, sign, digits, back, factor, htext, hblank, hsign, hne, hdigits, rfl⟩
    have hlayout : ∀ c ∈ front ++ back, Text.isLayout c := fun c hc => (isLayout_iff c).2 (hblank c hc)
    rw [htext, ← digitsValue_eq]
    exact decimal?_of_digits (fun c hc => hlayout c (List.mem_append_left back hc)) hsign
      (fun c hc => (isDigit_iff c).2 (hdigits c hc)) hne fun c hc => hlayout c (List.mem_append_right front hc)

theorem inRange_iff : inRange n ↔ -2 ^ 31 ≤ n ∧ n ≤ 2 ^ 31 - 1 := by
  simp only [inRange, Bool.and_eq_true, decide_eq_true_eq]
  omega

/-- all digits of a numeral stand together, so that counting those of the text counts these -/
theorem countP_of_numeral {front sign digits back : List Char} {factor : Int}
    (hblank : ∀ c ∈ front ++ back, c ∈ [' ', '\t', '\n', '\x0b', '\x0c', '\r']) (hsign : SignOf sign factor)
    (hdigits : ∀ c ∈ digits, isDigit c) : (front ++ sign ++ digits ++ back).countP isDigit = digits.length := by
  have hnone : ∀ c ∈ front ++ back, ¬ isDigit c := fun c hc hdigit => by
    have hlayout := (isLayout_iff c).2 (hblank c hc)
    rw [not_isLayout_of_isDigit hdigit] at hlayout
    cases hlayout
  have hfront : front.countP isDigit = 0 := List.countP_eq_zero.2 fun c hc => hnone c (List.mem_append_left back hc)
  have hback : back.countP isDigit = 0 := List.countP_eq_zero.2 fun c hc => hnone c (List.mem_append_right front hc)
  have hnosign : sign.countP isDigit = 0 := by
    cases hsign <;> rfl
  rw [List.countP_append, List.countP_append, List.countP_append, hfront, hback, hnosign, List.countP_eq_length.2 hdigits]
  omega

theorem decimal?_eq_none (h : ∀ n, ¬ Numeral text n) : decimal? text.toList = none :=
  Option.eq_none_iff_forall_ne_some.2 fun n hn => h n (decimal?_eq_some_iff.1 hn)

/-- the texts that are not read are the numerals of too many digits -/
theorem offsetOf_eq_error_iff {value : Option String} {cause : Overlong} : offsetOf value = .error cause ↔
    ∃ text n, value = some text ∧ Numeral text n ∧ digitLimit < text.toList.countP isDigit ∧
      cause = ⟨text.toList.countP isDigit⟩ := by
  constructor
  · intro h
    cases value with
    | none => cases h
    | some text =>
      by_cases hnumeral : ∃ n, Numeral text n
      · obtain ⟨n, hn⟩ := hnumeral
        have hread := decimal?_eq_some_iff.2 hn
        by_cases hlong : digitLimit < text.toList.countP isDigit
        · rw [offsetOf_of_overlong hread hlong] at h
          exact ⟨text, n, rfl, hn, hlong, (Except.error.inj h).symm⟩
        · rw [offsetOf_of_decimal? hread (Nat.not_lt.1 hlong)] at h
          cases h
      · rw [offsetOf_of_none (decimal?_eq_none (not_exists.1 hnumeral))] at h
        cases h
  · rintro ⟨text, n, rfl, hn, hlong, rfl⟩
    exact offsetOf_of_overlong (decimal?_eq_some_iff.2 hn) hlong

/-- what is read fits in 32 bits -/
theorem inRange_of_offsetOf {value : Option String} (h : offsetOf value = .ok n) : inRange n := by
  cases value with
  | none =>
    cases h
    rfl
  | some text =>
    simp only [offsetOf] at h
    split at h
    · cases h
      rfl
    · split_ifs at h with hlong hrange
      · cases h
        exact hrange
      · cases h
        rfl

/-- the text is a number in decimal, with any zeros in front of its digits and any blanks around -/
def WritesSigned (text : String) (n : Int) : Prop :=
  ∃ front zeros back, text.toList = front ++ (if n < 0 then ['-'] else []) ++
      (List.replicate zeros '0' ++ (Text.decimal n.natAbs).toList) ++ back ∧
    ∀ c ∈ front ++ back, c ∈ [' ', '\t', '\n', '\x0b', '\x0c', '\r']

theorem numeral_of_writesSigned (h : WritesSigned text n) : Numeral text n := by
  obtain ⟨front, zeros, back, htext, hblank⟩ := h
  have hne : List.replicate zeros '0' ++ (Text.decimal n.natAbs).toList ≠ [] := by
    rw [Text.decimal, String.toList_ofList]
    exact List.append_ne_nil_of_right_ne_nil _ Nat.toDigits_ne_nil
  have hvalue : Nat.ofDigitChars 10 (List.replicate zeros '0' ++ (Text.decimal n.natAbs).toList) 0 = n.natAbs := by
    rw [← digitsValue_eq, digitsValue_decimal]
  refine ⟨front, _, _, back, if n < 0 then -1 else 1, htext, hblank, ?_, hne, fun c hc => (isDigit_iff c).1 (isDigit_of_mem hc),
    ?_⟩
  · split_ifs
    · exact .minus
    · exact .unsigned
  · rw [hvalue]
    split_ifs <;> omega

/-! ## Lenient readers -/

/-- the alphabet of a lenient reader: its blanks and its digits, among which are those of the grammar -/
structure Script where
  isBlank : Char → Bool
  digit? : Char → Option Nat
  isBlank_of_isLayout : ∀ c, Text.isLayout c → isBlank c
  digit?_of_isDigit : ∀ c, isDigit c → digit? c = some (c.toNat - 48)
  not_isBlank : ∀ c, isDigit c ∨ c = '+' ∨ c = '-' → isBlank c = false

/-- why a lenient reader refuses a text -/
inductive NumeralFault where
  | malformed
  | tooLong (cause : Overlong)
  deriving DecidableEq, Repr

namespace Script

/-- digits that may have single marks between them; behind a mark one is needed -/
def digits (s : Script) : (needed : Bool) → List Char → Option (List Nat)
  | needed, [] => if needed then none else some []
  | needed, c :: rest =>
    match s.digit? c with
    | some d => (s.digits false rest).map (d :: ·)
    | none => if c = '_' ∧ needed = false then s.digits true rest else none

/-- the number that a text is to a lenient reader -/
def read (s : Script) (text : String) : Except NumeralFault Int :=
  let (sign, body) := splitSign (Text.trimEnds s.isBlank text.toList)
  match s.digits true body with
  | none => .error .malformed
  | some ds =>
    if digitLimit < ds.length then .error (.tooLong ⟨ds.length⟩)
    else .ok (sign * (ds.foldl (fun n d => 10 * n + d) 0 : Nat))

end Script

instance (text : String) : Decidable (∃ n, Numeral text n) :=
  decidable_of_iff (decimal? text.toList).isSome <| by
    rw [Option.isSome_iff_exists]
    exact exists_congr fun _ => decimal?_eq_some_iff

/-- the offset of an attribute value in two steps: what passes the test of the grammar is read leniently -/
def Script.offsetOf (s : Script) : Option String → Except NumeralFault Int
  | none => .ok (-1)
  | some text =>
    if ∃ n, Numeral text n then (s.read text).map fun n => if inRange n then n else -1 else .ok (-1)

namespace Script

variable (s : Script)

theorem digits_of_isDigit {ds : List Char} (h : ∀ c ∈ ds, isDigit c) {needed : Bool} (hne : needed = true → ds ≠ []) :
    s.digits needed ds = some (ds.map fun c => c.toNat - 48) := by
  induction ds generalizing needed with
  | nil =>
    have hfree : needed = false := by simpa using hne
    rw [digits, hfree]
    rfl
  | cons d rest ih =>
    obtain ⟨hd, hrest⟩ := List.forall_mem_cons.1 h
    rw [digits, s.digit?_of_isDigit d hd]
    dsimp only
    rw [ih hrest (by simp)]
    rfl

/-- every lenient reader reads a numeral, unless it has too many digits -/
theorem read_of_numeral (h : Numeral text n) :
    s.read text = if digitLimit < text.toList.countP isDigit then .error (.tooLong ⟨text.toList.countP isDigit⟩) else .ok n := by
  obtain ⟨front, sign, digits, back, factor, htext, hblank, hsign, hne, hdigits, rfl⟩ := h
  have hlayout : ∀ c ∈ front ++ back, s.isBlank c := fun c hc => s.isBlank_of_isLayout c ((isLayout_iff c).2 (hblank c hc))
  have hdigit : ∀ c ∈ digits, isDigit c := fun c hc => (isDigit_iff c).2 (hdigits c hc)
  have hcount : text.toList.countP isDigit = digits.length := by
    rw [htext]
    exact countP_of_numeral hblank hsign hdigit
  have htrim : Text.trimEnds s.isBlank text.toList = sign ++ digits := by
    rw [htext, List.append_assoc front]
    refine Text.trimEnds_of_ends (fun c hc => hlayout c (List.mem_append_left back hc))
      (fun c hc => hlayout c (List.mem_append_right front hc)) (List.append_ne_nil_of_right_ne_nil sign hne) ?_ ?_
    · cases hsign with
      | unsigned => exact s.not_isBlank _ (.inl (hdigit _ (List.head_mem hne)))
      | plus => exact s.not_isBlank _ (.inr (.inl rfl))
      | minus => exact s.not_isBlank _ (.inr (.inr rfl))
    · rw [List.getLast_append_of_right_ne_nil sign digits hne]
      exact s.not_isBlank _ (.inl (hdigit _ (List.getLast_mem hne)))
  obtain ⟨d, rest, rfl⟩ := List.exists_cons_of_ne_nil hne
  rw [read, htrim, splitSign_of_isDigit hsign (hdigit d List.mem_cons_self)]
  dsimp only
  rw [s.digits_of_isDigit hdigit (by simp)]
  dsimp only
  rw [List.length_map, List.foldl_map, ← digitsValue_eq, hcount]
  rfl

/-- reading in two steps comes to the same as reading once -/
theorem offsetOf_eq (value : Option String) : s.offsetOf value = (Manifest.offsetOf value).mapError .tooLong := by
  cases value with
  | none => rfl
  | some text =>
    rw [offsetOf]
    split_ifs with htest
    · obtain ⟨n, hn⟩ := htest
      have hread := decimal?_eq_some_iff.2 hn
      rw [s.read_of_numeral hn]
      split_ifs with hlong
      · rw [offsetOf_of_overlong hread hlong]
        rfl
      · rw [offsetOf_of_decimal? hread (Nat.not_lt.1 hlong)]
        rfl
    · rw [offsetOf_of_none (decimal?_eq_none (not_exists.1 htest))]
      rfl

end Script

/-- offsets are read by their grammar, and it makes no difference whether that is done at once or in two steps -/
structure ReadsGrammar (s : Script) : Prop where
  /-- the numeral of a number that fits in 32 bits is read as that number -/
  fits : ∀ text n, Numeral text n → text.toList.countP isDigit ≤ 4300 → -2 ^ 31 ≤ n → n ≤ 2 ^ 31 - 1 →
    offsetOf (some text) = .ok n
  /-- what is no numeral, or that of a number that does not fit, is read as -1 -/
  refuses : ∀ text, (∀ n, Numeral text n → text.toList.countP isDigit ≤ 4300 ∧ (n < -2 ^ 31 ∨ 2 ^ 31 - 1 < n)) →
    offsetOf (some text) = .ok (-1)
  absent : offsetOf none = .ok (-1)
  /-- reading does not fail as long as there are no more digits than that -/
  total : ∀ value : Option String, (∀ text ∈ value, text.toList.countP isDigit ≤ 4300) → ∃ n, offsetOf value = .ok n
  /-- what is read fits in 32 bits -/
  inRange : ∀ value n, offsetOf value = .ok n → -2 ^ 31 ≤ n ∧ n ≤ 2 ^ 31 - 1
  /-- a number that fits is read from its decimal text, with any zeros in front and any blanks around -/
  written : ∀ text n, WritesSigned text n → text.toList.countP isDigit ≤ 4300 → -2 ^ 31 ≤ n → n ≤ 2 ^ 31 - 1 →
    offsetOf (some text) = .ok n
  /-- a text that is not read is the numeral of a number with more digits -/
  overlong : ∀ value cause, offsetOf value = .error cause ↔ ∃ text n, value = some text ∧ Numeral text n ∧
    4300 < text.toList.countP isDigit ∧ cause = ⟨text.toList.countP isDigit⟩
  /-- a test of the grammar with a lenient reader behind it gives the same, also where it fails -/
  twoSteps : ∀ value, s.offsetOf value = (offsetOf value).mapError .tooLong

/-- **The grammar of offsets.** A numeral of a number that fits in 32 bits is read as that number, and every other text, or none
at all, as -1; only a numeral of more than 4300 digits is not read at all. Reading in two steps, with any lenient reader as the
second one, comes to the same. -/
theorem offset_grammar (s : Script) : ReadsGrammar s := by
  have hfits : ∀ text n, Numeral text n → text.toList.countP isDigit ≤ 4300 → -2 ^ 31 ≤ n → n ≤ 2 ^ 31 - 1 →
      offsetOf (some text) = .ok n := fun text n hn hcount hlow hhigh => by
    rw [offsetOf_of_decimal? (decimal?_eq_some_iff.2 hn) hcount, if_pos (inRange_iff.2 ⟨hlow, hhigh⟩)]
  refine ⟨hfits, fun text hother => ?_, rfl, fun value hcount => ?_, fun value n h => inRange_iff.1 (inRange_of_offsetOf h),
    fun text n hn => hfits text n (numeral_of_writesSigned hn), fun value cause => offsetOf_eq_error_iff, s.offsetOf_eq⟩
  · by_cases hnumeral : ∃ n, Numeral text n
    · obtain ⟨n, hn⟩ := hnumeral
      obtain ⟨hcount, houtside⟩ := hother n hn
      have hnot : ¬ Unbundle.Manifest.inRange n := fun hrange => by
        obtain ⟨hlow, hhigh⟩ := inRange_iff.1 hrange
        omega
      rw [offsetOf_of_decimal? (decimal?_eq_some_iff.2 hn) hcount, if_neg hnot]
    · exact offsetOf_of_none (decimal?_eq_none (not_exists.1 hnumeral))
  · rcases hoffset : offsetOf value with cause | n
    · obtain ⟨text, n, rfl, -, hlong, -⟩ := offsetOf_eq_error_iff.1 hoffset
      exact absurd (hcount text rfl) (Nat.not_le.2 hlong)
    · exact ⟨n, rfl⟩

/-- the value of a digit of the grammar, or of an Arabic one -/
def twofoldDigit? (c : Char) : Option Nat :=
  if isDigit c then some (c.toNat - 48)
  else if 0x660 ≤ c.toNat ∧ c.toNat ≤ 0x669 then some (c.toNat - 0x660)
  else none

theorem isBlank_of_layout (c : Char) (h : Text.isLayout c) : Text.isBlank c := by
  simp only [Text.isBlank, h, Bool.true_or]

theorem twofoldDigit?_of_isDigit (c : Char) (h : isDigit c) : twofoldDigit? c = some (c.toNat - 48) := if_pos h

theorem not_isBlank_of_numeral (c : Char) (h : isDigit c ∨ c = '+' ∨ c = '-') : Text.isBlank c = false := by
  have hcode : 0x21 ≤ c.toNat ∧ c.toNat ≤ 0x39 := by
    rcases h with h | rfl | rfl
    · obtain ⟨hlow, hhigh⟩ := (isDigit_iff c).1 h
      have hlow' : 48 ≤ c.toNat := hlow
      have hhigh' : c.toNat ≤ 57 := hhigh
      omega
    · decide
    · decide
  have hspace : c ≠ ' ' := by
    rintro rfl
    exact absurd hcode.1 (by decide)
  simp [Text.isBlank, Text.isLayout, hspace]
  omega

/-- a script of two kinds of digits, with all the blanks that trimming knows -/
def Script.twofold : Script :=
  ⟨Text.isBlank, twofoldDigit?, isBlank_of_layout, twofoldDigit?_of_isDigit, not_isBlank_of_numeral⟩

/-- a negative number with zeros and blanks around is read, by both ways; a text that only the lenient reader takes is not -/
theorem offset_grammar_twofold :
    Numeral " -007\n" (-7) ∧ offsetOf (some " -007\n") = .ok (-7) ∧ Script.twofold.offsetOf (some " -007\n") = .ok (-7) ∧
      Script.twofold.read "1_\u0660" = .ok 10 ∧ Script.twofold.offsetOf (some "1_\u0660") = .ok (-1) ∧
      offsetOf (some "2147483648") = .ok (-1) := by
  have hgrammar := offset_grammar .twofold
  have hwrites : WritesSigned " -007\n" (-7) := ⟨[' '], 2, ['\n'], by decide +kernel, by simp⟩
  have hseven : offsetOf (some " -007\n") = .ok (-7) :=
    hgrammar.written " -007\n" (-7) hwrites (by decide +kernel) (by decide) (by decide)
  refine ⟨numeral_of_writesSigned hwrites, hseven, ?_, by decide +kernel, by decide +kernel,
    hgrammar.refuses _ fun n hn => ⟨by decide +kernel, ?_⟩⟩
  · rw [hgrammar.twoSteps, hseven]
    rfl
  · have hsame := (decimal?_eq_some_iff.2 hn).symm.trans
      (by decide +kernel : decimal? "2147483648".toList = some 2147483648)
    obtain rfl := Option.some.inj hsame
    exact .inr (by decide)

end Unbundle.Manifest
