import Mathlib
import Unbundle.Text.Blank
import Unbundle.Text.Digits
/-
Texts: what trimming leaves, where a text is cut, and which texts numbers and octets are.

Numbers and octets are read off their texts again: decimal and hexadecimal texts are different for different values, and hold
no mark that separates them from what stands around.

Results:
- `trimEnds_eq_iff`: trimming leaves the part between two ends to be removed that neither starts nor ends with such a part.
- `append_cons_inj`: a text is cut at the first mark in one way.
- `decimalInt_injective`, `octets_injective`: integers and octets have texts of their own.
-/
namespace Unbundle.Text

/-! ## Trimming and cutting -/

section

variable {α : Type} {p : α → Bool} {xs front middle back : List α}

theorem trimEnds_of_ends (hfront : ∀ c ∈ front, p c) (hback : ∀ c ∈ back, p c)
    (hne : middle ≠ []) (hhead : p (middle.head hne) = false) (hlast : p (middle.getLast hne) = false) :
    trimEnds p (front ++ middle ++ back) = middle := by
  have hstop {cs rest : List α} (hcs : cs ≠ []) (h : p (cs.head hcs) = false) : (cs ++ rest).dropWhile p = cs ++ rest := by
    obtain ⟨c, more, rfl⟩ := List.exists_cons_of_ne_nil hcs
    exact List.dropWhile_cons_of_neg (by simpa using h)
  have hrest : (middle.reverse).dropWhile p = middle.reverse := by
    have hreverse : middle.reverse ≠ [] := by simpa using hne
    have : (middle.reverse ++ []).dropWhile p = middle.reverse ++ [] := hstop hreverse (by rwa [List.head_reverse])
    rwa [List.append_nil] at this
  rw [trimEnds, List.append_assoc, List.dropWhile_append_of_pos hfront, hstop hne hhead, List.reverse_append,
    List.dropWhile_append_of_pos (by simpa using hback), hrest, List.reverse_reverse]

theorem trimEnds_of_forall (h : ∀ c ∈ xs, p c) : trimEnds p xs = [] := by
  have hall : xs.dropWhile p = [] := List.dropWhile_eq_nil_iff.2 h
  rw [trimEnds, hall]
  rfl

/-- what is left stands between two ends that are removed -/
theorem exists_ends_of_trimEnds (p : α → Bool) (xs : List α) :
    ∃ front back, xs = front ++ trimEnds p xs ++ back ∧ (∀ c ∈ front ++ back, p c) ∧
      (∀ c ∈ (trimEnds p xs).head?, p c = false) ∧ ∀ c ∈ (trimEnds p xs).getLast?, p c = false := by
  generalize hrest : xs.dropWhile p = rest
  have hxs : xs = xs.takeWhile p ++ rest := by rw [← hrest, List.takeWhile_append_dropWhile]
  have htrim : trimEnds p xs = (rest.reverse.dropWhile p).reverse := by rw [trimEnds, hrest]
  have hsplit : rest = trimEnds p xs ++ (rest.reverse.takeWhile p).reverse := by
    rw [htrim, ← List.reverse_append, List.takeWhile_append_dropWhile, List.reverse_reverse]
  refine ⟨xs.takeWhile p, (rest.reverse.takeWhile p).reverse, ?_, ?_, ?_, ?_⟩
  · rw [List.append_assoc, ← hsplit, ← hxs]
  · intro c hc
    rcases List.mem_append.1 hc with hfront | hback
    · exact List.mem_takeWhile_imp hfront
    · exact List.mem_takeWhile_imp (List.mem_reverse.1 hback)
  · intro c hc
    -- the part that is left starts where the rest starts
    have hhead : c ∈ rest.head? := by
      rw [hsplit, List.head?_append, Option.mem_def.1 hc]
      rfl
    have hstart := List.head?_dropWhile_not p xs
    rw [hrest, Option.mem_def.1 hhead] at hstart
    simpa using hstart
  · intro c hc
    rw [htrim, List.getLast?_reverse] at hc
    have hstart := List.head?_dropWhile_not p rest.reverse
    rw [Option.mem_def.1 hc] at hstart
    simpa using hstart

/-- trimming leaves the part between two ends to be removed that neither starts nor ends with what is to be removed -/
theorem trimEnds_eq_iff : trimEnds p xs = middle ↔ ∃ front back, xs = front ++ middle ++ back ∧ (∀ c ∈ front ++ back, p c) ∧
    (∀ c ∈ middle.head?, p c = false) ∧ ∀ c ∈ middle.getLast?, p c = false := by
  constructor
  · rintro rfl
    exact exists_ends_of_trimEnds p xs
  · rintro ⟨front, back, rfl, hends, hhead, hlast⟩
    by_cases hne : middle = []
    · subst hne
      rw [List.append_nil]
      exact trimEnds_of_forall hends
    · refine trimEnds_of_ends (fun c hc => hends c (List.mem_append_left back hc))
        (fun c hc => hends c (List.mem_append_right front hc)) hne ?_ ?_
      · exact hhead _ (List.head?_eq_some_head hne)
      · exact hlast _ (List.getLast?_eq_some_getLast hne)

end

/-- a text is cut at the first mark in one way -/
theorem append_cons_inj {α : Type} {mark : α} {x x' y y' : List α} (hx : mark ∉ x) (hx' : mark ∉ x') :
    x ++ mark :: y = x' ++ mark :: y' ↔ x = x' ∧ y = y' := by
  constructor
  · intro h
    rcases List.append_eq_append_iff.1 h with ⟨more, rfl, hmore⟩ | ⟨more, rfl, hmore⟩
    · cases more with
      | nil => simpa using hmore
      | cons c more =>
        cases hmore
        exact absurd (List.mem_append_right x List.mem_cons_self) hx'
    · cases more with
      | nil => simpa using hmore.symm
      | cons c more =>
        cases hmore
        exact absurd (List.mem_append_right x' List.mem_cons_self) hx
  · rintro ⟨rfl, rfl⟩
    rfl

/-! ## Decimal texts -/

theorem decimal_injective {m n : Nat} (h : decimal m = decimal n) : m = n := by
  have hdigits : Nat.toDigits 10 m = Nat.toDigits 10 n := by
    have hlists := congrArg String.toList h
    rwa [decimal, decimal, String.toList_ofList, String.toList_ofList] at hlists
  calc
    m = Nat.ofDigitChars 10 (Nat.toDigits 10 m) 0 := (Nat.ofDigitChars_toDigits (by decide) (by decide)).symm
    _ = Nat.ofDigitChars 10 (Nat.toDigits 10 n) 0 := by rw [hdigits]
    _ = n := Nat.ofDigitChars_toDigits (by decide) (by decide)

theorem isDigit_of_mem_decimal {n : Nat} {c : Char} (h : c ∈ (decimal n).toList) : c.isDigit := by
  rw [decimal, String.toList_ofList] at h
  exact Nat.isDigit_of_mem_toDigits (by decide) (by decide) h

/-- an integer's text holds digits and a minus sign at most -/
theorem isDigit_of_mem_decimalInt {z : Int} {c : Char} (h : c ∈ (decimalInt z).toList) : c = '-' ∨ c.isDigit := by
  rw [decimalInt] at h
  split_ifs at h
  · rw [String.toList_append] at h
    rcases List.mem_append.1 h with hsign | hdigit
    · exact .inl (List.mem_singleton.1 hsign)
    · exact .inr (isDigit_of_mem_decimal hdigit)
  · exact .inr (isDigit_of_mem_decimal h)

theorem not_mem_decimalInt {z : Int} {c : Char} (hsign : c ≠ '-') (hdigit : c.isDigit = false) :
    c ∉ (decimalInt z).toList := by
  intro h
  rcases isDigit_of_mem_decimalInt h with rfl | hc
  · exact hsign rfl
  · rw [hdigit] at hc
    cases hc

theorem decimal_ne_minus_append (m n : Nat) : decimal m ≠ "-" ++ decimal n := by
  intro h
  have hsign : '-' ∈ (decimal m).toList := by
    rw [h, String.toList_append]
    exact List.mem_append_left _ List.mem_cons_self
  exact absurd (isDigit_of_mem_decimal hsign) (by decide)

theorem decimalInt_injective {y z : Int} (h : decimalInt y = decimalInt z) : y = z := by
  rw [decimalInt, decimalInt] at h
  split_ifs at h with hy hz hz
  · have habs := decimal_injective ((String.append_right_inj _).1 h)
    omega
  · exact absurd h.symm (decimal_ne_minus_append _ _)
  · exact absurd h (decimal_ne_minus_append _ _)
  · have habs := decimal_injective h
    omega

/-! ## Hexadecimal texts -/

/-- a lower-case hexadecimal digit -/
def IsHexDigit (c : Char) : Prop := '0' ≤ c ∧ c ≤ '9' ∨ 'a' ≤ c ∧ c ≤ 'f'

instance (c : Char) : Decidable (IsHexDigit c) := inferInstanceAs (Decidable (_ ∨ _))

theorem isHexDigit_digitChar {n : Nat} (h : n < 16) : IsHexDigit (Nat.digitChar n) :=
  (by decide : ∀ i : Fin 16, IsHexDigit (Nat.digitChar i)) ⟨n, h⟩

theorem digitChar_injective {m n : Nat} (hm : m < 16) (hn : n < 16) (h : Nat.digitChar m = Nat.digitChar n) : m = n := by
  have hfin : ∀ i j : Fin 16, Nat.digitChar i = Nat.digitChar j → i = j := by decide
  exact congrArg Fin.val (hfin ⟨m, hm⟩ ⟨n, hn⟩ h)

theorem octetDigits_injective {a b : UInt8} (h : octetDigits a = octetDigits b) : a = b := by
  have ha := a.toNat_lt
  have hb := b.toNat_lt
  simp only [octetDigits, List.cons.injEq, and_true] at h
  have hhigh := digitChar_injective (by omega) (by omega) h.1
  have hlow := digitChar_injective (by omega) (by omega) h.2
  exact UInt8.toNat_inj.1 (by omega)

theorem flatMap_octetDigits_injective {as bs : Bytes} (h : as.flatMap octetDigits = bs.flatMap octetDigits) : as = bs := by
  induction as generalizing bs with
  | nil =>
    cases bs with
    | nil => rfl
    | cons b bs => simp [octetDigits] at h
  | cons a as ih =>
    cases bs with
    | nil => simp [octetDigits] at h
    | cons b bs =>
      rw [List.flatMap_cons, List.flatMap_cons] at h
      obtain ⟨hfirst, hrest⟩ := List.append_inj h rfl
      rw [octetDigits_injective hfirst, ih hrest]

theorem octets_injective {as bs : Bytes} (h : octets as = octets bs) : as = bs :=
  flatMap_octetDigits_injective (String.ofList_injective h)

theorem length_octets (bs : Bytes) : (octets bs).length = 2 * bs.length := by
  rw [octets, String.length_ofList]
  induction bs with
  | nil => rfl
  | cons b bs ih =>
    rw [List.flatMap_cons, List.length_append, ih, List.length_cons]
    simp only [octetDigits, List.length_cons, List.length_nil]
    omega

theorem isHexDigit_of_mem_octets {bs : Bytes} {c : Char} (h : c ∈ (octets bs).toList) : IsHexDigit c := by
  rw [octets, String.toList_ofList] at h
  obtain ⟨b, -, hc⟩ := List.mem_flatMap.1 h
  have hb := b.toNat_lt
  rcases List.mem_cons.1 hc with rfl | hc
  · exact isHexDigit_digitChar (by omega)
  · rw [List.mem_singleton.1 hc]
    exact isHexDigit_digitChar (by omega)

end Unbundle.Text
