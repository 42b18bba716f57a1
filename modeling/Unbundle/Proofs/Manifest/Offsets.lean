import Mathlib
import Unbundle.Manifest.Offset
import Unbundle.Text.Digits
/-
Offsets written in decimal are read back.

`Writes text n` holds of the decimal text of a number, also with zeros in front of its digits and blanks around.

Results:
- `digitsValue_decimal`: the digits of a number denote it.
- `decimal?_of_writes`: a number is read from any text that writes it.
- `offsetOf_of_decimal?`, `offsetOf_of_overlong`: a number is an offset if it fits, unless it has too many digits.
- `offsetOf_of_writes`: an offset is read from any text that writes it, as long as it fits.
-/
namespace Unbundle.Manifest

/-- the text is a number in decimal, with any zeros in front of its digits and any blanks around -/
def Writes (text : String) (n : Nat) : Prop :=
  ∃ front zeros back, text.toList = front ++ (List.replicate zeros '0' ++ (Text.decimal n).toList) ++ back ∧
    (∀ c ∈ front, Text.isLayout c) ∧ ∀ c ∈ back, Text.isLayout c

theorem writes_decimal (n : Nat) : Writes (Text.decimal n) n :=
  ⟨[], 0, [], by simp, by simp, by simp⟩

/-! ## Digits -/

theorem isDigit_eq (c : Char) : isDigit c = c.isDigit := by
  simp only [isDigit, Char.isDigit, Char.le_def]

/-- a digit is no blank -/
theorem not_isLayout_of_isDigit {c : Char} (h : isDigit c) : Text.isLayout c = false := by
  simp only [isDigit, Bool.and_eq_true, decide_eq_true_eq, Char.le_def, UInt32.le_iff_toNat_le] at h
  have hlow : 48 ≤ c.toNat := h.1
  have hne : c ≠ ' ' := by
    rintro rfl
    exact absurd hlow (by decide)
  simp only [Text.isLayout, hne, decide_false, Bool.false_or, Bool.and_eq_false_iff, decide_eq_false_iff_not]
  omega

/-- a sign or none, and the factor that it stands for -/
inductive SignOf : List Char → Int → Prop
  | unsigned : SignOf [] 1
  | plus : SignOf ['+'] 1
  | minus : SignOf ['-'] (-1)

/-- a sign in front of a digit is taken off, and the digit is none itself -/
theorem splitSign_of_isDigit {sign rest : List Char} {factor : Int} {c : Char} (hsign : SignOf sign factor) (h : isDigit c) :
    splitSign (sign ++ c :: rest) = (factor, c :: rest) := by
  have hplus : c ≠ '+' := by
    rintro rfl
    exact absurd h (by decide)
  have hminus : c ≠ '-' := by
    rintro rfl
    exact absurd h (by decide)
  cases hsign with
  | plus => rfl
  | minus => rfl
  | unsigned =>
    rw [List.nil_append]
    unfold splitSign
    split
    · next heq => exact absurd (List.cons.inj heq).1 hplus
    · next heq => exact absurd (List.cons.inj heq).1 hminus
    · rfl

/-- a sign is no blank, and neither is the digit behind it -/
theorem dropWhile_of_isDigit {sign rest : List Char} {factor : Int} {c : Char} (hsign : SignOf sign factor) (h : isDigit c) :
    (sign ++ c :: rest).dropWhile Text.isLayout = sign ++ c :: rest := by
  cases hsign with
  | plus => rfl
  | minus => rfl
  | unsigned => exact List.dropWhile_cons_of_neg (by simp [not_isLayout_of_isDigit h])

theorem digitsValue_eq (cs : List Char) : digitsValue cs = Nat.ofDigitChars 10 cs 0 := by
  rw [Nat.ofDigitChars_eq_foldl]
  rfl

/-- zeros in front of the digits of a number change nothing -/
theorem digitsValue_decimal (zeros n : Nat) :
    digitsValue (List.replicate zeros '0' ++ (Text.decimal n).toList) = n := by
  rw [digitsValue_eq, Nat.ofDigitChars_append, Nat.ofDigitChars_replicate_zero, Nat.mul_zero, Text.decimal,
    String.toList_ofList, Nat.ofDigitChars_toDigits (by decide) (by decide)]

theorem isDigit_of_mem {zeros n : Nat} {c : Char} (h : c ∈ List.replicate zeros '0' ++ (Text.decimal n).toList) :
    isDigit c := by
  rcases List.mem_append.1 h with hzero | hdigit
  · obtain ⟨-, rfl⟩ := List.mem_replicate.1 hzero
    decide
  · rw [Text.decimal, String.toList_ofList] at hdigit
    rw [isDigit_eq]
    exact Nat.isDigit_of_mem_toDigits (by decide) (by decide) hdigit

/-! ## Reading -/

/-- a number between blanks is read, with a sign or without one -/
theorem decimal?_of_digits {front sign digits back : List Char} {factor : Int} (hfront : ∀ c ∈ front, Text.isLayout c)
    (hsign : SignOf sign factor) (hdigits : ∀ c ∈ digits, isDigit c) (hne : digits ≠ [])
    (hback : ∀ c ∈ back, Text.isLayout c) :
    decimal? (front ++ sign ++ digits ++ back) = some (factor * digitsValue digits) := by
  obtain ⟨d, ds, rfl⟩ := List.exists_cons_of_ne_nil hne
  have hd : isDigit d := hdigits d (List.mem_cons_self ..)
  have hskip : (front ++ sign ++ (d :: ds) ++ back).dropWhile Text.isLayout = sign ++ d :: (ds ++ back) := by
    rw [List.append_assoc, List.append_assoc, List.dropWhile_append_of_pos hfront, List.cons_append,
      dropWhile_of_isDigit hsign hd]
  have hback' : ∀ c ∈ back, ¬ isDigit c := by
    intro c hc hdigit
    have := not_isLayout_of_isDigit hdigit
    rw [hback c hc] at this
    cases this
  have htake : (d :: ds ++ back).takeWhile isDigit = d :: ds := by
    rw [List.takeWhile_append_of_pos hdigits]
    cases back with
    | nil => simp
    | cons c rest =>
      rw [List.takeWhile_cons_of_neg (hback' c (List.mem_cons_self ..)), List.append_nil]
  have hdrop : (d :: ds ++ back).dropWhile isDigit = back := by
    rw [List.dropWhile_append_of_pos hdigits]
    cases back with
    | nil => rfl
    | cons c rest => rw [List.dropWhile_cons_of_neg (hback' c (List.mem_cons_self ..))]
  have hall : back.all Text.isLayout := List.all_eq_true.2 hback
  rw [decimal?, hskip, splitSign_of_isDigit hsign hd]
  simp only [← List.cons_append, htake, hdrop, hall]
  simp

theorem decimal?_of_writes {text : String} {n : Nat} (h : Writes text n) : decimal? text.toList = some (n : Int) := by
  obtain ⟨front, zeros, back, htext, hfront, hback⟩ := h
  have hne : List.replicate zeros '0' ++ (Text.decimal n).toList ≠ [] := by
    rw [Text.decimal, String.toList_ofList]
    intro hnil
    exact Nat.toDigits_ne_nil (List.append_eq_nil_iff.1 hnil).2
  have hread := decimal?_of_digits hfront .unsigned (fun c hc => isDigit_of_mem hc) hne hback
  rwa [List.append_nil, ← htext, digitsValue_decimal, one_mul] at hread

section

variable {text : String} {n : Int}

theorem offsetOf_of_none (h : decimal? text.toList = none) : offsetOf (some text) = .ok (-1) := by
  simp only [offsetOf, h]

theorem offsetOf_of_decimal? (h : decimal? text.toList = some n) (hcount : text.toList.countP isDigit ≤ digitLimit) :
    offsetOf (some text) = .ok (if inRange n then n else -1) := by
  simp only [offsetOf, h, if_neg (Nat.not_lt.2 hcount)]

theorem offsetOf_of_overlong (h : decimal? text.toList = some n) (hlong : digitLimit < text.toList.countP isDigit) :
    offsetOf (some text) = .error ⟨text.toList.countP isDigit⟩ := by
  simp only [offsetOf, h, if_pos hlong]

end

theorem offsetOf_of_writes {text : String} {n : Nat} (h : Writes text n) (hcount : text.toList.countP isDigit ≤ digitLimit)
    (hn : n ≤ 2 ^ 31 - 1) : offsetOf (some text) = .ok (n : Int) := by
  have hrange : inRange (n : Int) := by
    simp only [inRange, Bool.and_eq_true, decide_eq_true_eq]
    omega
  rw [offsetOf_of_decimal? (decimal?_of_writes h) hcount, if_pos hrange]

end Unbundle.Manifest
