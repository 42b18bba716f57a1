import Unbundle.Proofs.Module.Familiar
import Unbundle.Proofs.Outcome
/-
What a signature that reads as a text has for parameters.

Signatures are compared with the names of the parameters joined by commas, so the comparison sees the text and not the names:
one parameter whose name has a comma in it reads as two. Different lists of names make one text in two ways only. No name at
all reads as one empty name does, and otherwise, where the lists first differ, the name in one of them goes on with a comma
behind the name in the other.

Brackets keep most names apart. A generic type has commas between its arguments and an array between its dimensions, but these
stand in brackets. Where no comma stands outside of brackets, the text tells how many parameters there are and what they are.

Results:
- `splitOn_intercalate`: the text tells the pieces between its commas, and nothing else.
- `eq_or_blurred`: the two ways in which different names make one text.
- `not_blurred_of_closed`: names without commas outside of brackets are not among them.
- `Module.closed_of_typeNames`: the names of all types are such names if the names they are made of are.
- `Module.reads_as`: what comparing the signature of a method or of a member reference with a text tells about it.
-/
namespace Unbundle

/-! ## Names joined by commas -/

/-- what stands between the commas when names are joined; no name at all reads as one empty name does -/
def pieces : List String → List (List Char)
  | [] => [[]]
  | names => names.flatMap (·.toList.splitOn ',')

theorem splitOn_intercalate (names : List String) : (",".intercalate names).toList.splitOn ',' = pieces names := by
  induction names with
  | nil => rfl
  | cons a rest ih =>
    cases rest with
    | nil =>
      rw [String.intercalate_singleton]
      exact (List.flatMap_singleton (fun n : String => n.toList.splitOn ',') a).symm
    | cons b rest =>
      rw [toList_intercalate_cons, splitOn_append_cons, ih]
      rfl

theorem intercalate_eq_iff_pieces {names others : List String} :
    ",".intercalate names = ",".intercalate others ↔ pieces names = pieces others := by
  constructor
  · intro h
    rw [← splitOn_intercalate, h, splitOn_intercalate]
  · intro h
    have hjoin (l : List Char) : [','].intercalate (l.splitOn ',') = l := List.intercalate_splitOn ','
    apply String.toList_inj.1
    rw [← hjoin (",".intercalate names).toList, splitOn_intercalate, h, ← splitOn_intercalate, hjoin]

theorem parameterText_eq_iff {names others : List String} :
    Module.parameterText names = Module.parameterText others ↔ pieces names = pieces others := by
  rw [← intercalate_eq_iff_pieces]
  constructor
  · intro h
    have hchars := congrArg String.toList h
    simp only [Module.parameterText, String.toList_append] at hchars
    exact String.toList_inj.1 (List.append_cancel_left (List.append_cancel_right hchars))
  · intro h
    rw [Module.parameterText, h, Module.parameterText]

/-- the text of the names behind the first one -/
def behindFirst : List String → List Char
  | [] => []
  | names => ',' :: (",".intercalate names).toList

theorem toList_intercalate_eq (a : String) (rest : List String) :
    (",".intercalate (a :: rest)).toList = a.toList ++ behindFirst rest := by
  cases rest with
  | nil => rw [String.intercalate_singleton, behindFirst, List.append_nil]
  | cons b rest => exact toList_intercalate_cons a b rest

/-- how the second list may make the text of the first: one empty name in place of none, or, where they first differ, a name
that goes on with a comma behind the name in the first -/
inductive Blurred : List String → List String → Prop
  | empty : Blurred [] [""]
  | comma (front : List String) (a b : String) (rest rest' : List String) :
    Blurred (front ++ a :: rest) (front ++ (a ++ "," ++ b) :: rest')

theorem Blurred.cons {names others : List String} (h : Blurred names others) (hnames : names ≠ []) (a : String) :
    Blurred (a :: names) (a :: others) := by
  cases h with
  | empty => exact absurd rfl hnames
  | comma front b c rest rest' => exact .comma (a :: front) b c rest rest'

/-- where a text goes on with a comma, the name does -/
theorem exists_name_of_append {a b : String} {rest : List String} {x : Char} {between tail : List Char}
    (hname : b.toList = a.toList ++ x :: between) (htail : behindFirst rest = x :: between ++ tail) :
    ∃ c, b = a ++ "," ++ c := by
  cases rest with
  | nil => cases htail
  | cons d rest =>
    obtain ⟨rfl, -⟩ := List.cons.inj htail
    refine ⟨String.ofList between, String.toList_inj.1 ?_⟩
    rw [hname, String.toList_append, String.toList_append, String.toList_ofList (l := between), List.append_assoc]
    rfl

/-- two names at the front of one text are the same, or one of them goes on with a comma behind the other -/
theorem first_of_intercalate_eq {a b : String} {names others : List String}
    (h : ",".intercalate (a :: names) = ",".intercalate (b :: others)) :
    (a = b ∧ behindFirst names = behindFirst others) ∨ (∃ c, b = a ++ "," ++ c) ∨ ∃ c, a = b ++ "," ++ c := by
  have hchars := congrArg String.toList h
  rw [toList_intercalate_eq, toList_intercalate_eq] at hchars
  rcases List.append_eq_append_iff.1 hchars with ⟨between, hname, htail⟩ | ⟨between, hname, htail⟩
  · cases between with
    | nil =>
      rw [List.append_nil] at hname
      exact .inl ⟨(String.toList_inj.1 hname).symm, htail⟩
    | cons x between => exact .inr (.inl (exists_name_of_append hname htail))
  · cases between with
    | nil =>
      rw [List.append_nil] at hname
      exact .inl ⟨String.toList_inj.1 hname, htail.symm⟩
    | cons x between => exact .inr (.inr (exists_name_of_append hname htail))

/-- a list of names that makes the empty text -/
theorem eq_nil_or_eq_empty {names : List String} (h : ",".intercalate names = "") : names = [] ∨ names = [""] := by
  cases names with
  | nil => exact .inl rfl
  | cons a rest =>
    have hchars := congrArg String.toList h
    rw [toList_intercalate_eq] at hchars
    obtain ⟨ha, hrest⟩ := List.append_eq_nil_iff.1 hchars
    cases rest with
    | nil =>
      obtain rfl := String.toList_eq_nil_iff.1 ha
      exact .inr rfl
    | cons b rest => cases hrest

/-- lists of names that make one text are the same, or blurred -/
theorem eq_or_blurred {names others : List String} (h : ",".intercalate names = ",".intercalate others) :
    names = others ∨ Blurred names others ∨ Blurred others names := by
  induction names generalizing others with
  | nil =>
    rcases eq_nil_or_eq_empty h.symm with rfl | rfl
    · exact .inl rfl
    · exact .inr (.inl .empty)
  | cons a names ih =>
    cases others with
    | nil =>
      rcases eq_nil_or_eq_empty h with hnil | hempty
      · cases hnil
      · rw [hempty]
        exact .inr (.inr .empty)
    | cons b others =>
      rcases first_of_intercalate_eq h with ⟨rfl, htail⟩ | ⟨c, rfl⟩ | ⟨c, rfl⟩
      · -- the first names agree, so the lists differ further behind if they do
        cases names with
        | nil =>
          cases others with
          | nil => exact .inl rfl
          | cons c others => cases htail
        | cons d names =>
          cases others with
          | nil => cases htail
          | cons c others =>
            have hrest := String.toList_inj.1 (List.cons.inj htail).2
            rcases ih hrest with heq | hblurred | hblurred
            · exact .inl (by rw [heq])
            · exact .inr (.inl (hblurred.cons (List.cons_ne_nil _ _) a))
            · exact .inr (.inr (hblurred.cons (List.cons_ne_nil _ _) a))
      · exact .inr (.inl (.comma [] a c names others))
      · exact .inr (.inr (.comma [] b c others names))

/-! ## Names that stay whole -/

/-- how many brackets are open behind a character; none may close that is not open, and no comma stand outside of all -/
def openAfter (depth : Nat) (c : Char) : Option Nat :=
  if c = '<' ∨ c = '[' then some (depth + 1)
  else if c = '>' ∨ c = ']' then
    match depth with
    | 0 => none
    | depth + 1 => some depth
  else if c = ',' ∧ depth = 0 then none
  else some depth

/-- how many brackets are open behind a text -/
def openBehind (depth : Nat) (text : List Char) : Option Nat := text.foldlM openAfter depth

/-- every bracket is closed again, and every comma stands in brackets -/
def Closed (name : String) : Prop := openBehind 0 name.toList = some 0

instance (name : String) : Decidable (Closed name) := inferInstanceAs (Decidable (_ = _))

theorem openBehind_append (depth : Nat) (l l' : List Char) :
    openBehind depth (l ++ l') = (openBehind depth l).bind (openBehind · l') := List.foldlM_append

theorem openAfter_succ {depth behind : Nat} {c : Char} (h : openAfter depth c = some behind) :
    openAfter (depth + 1) c = some (behind + 1) := by
  unfold openAfter at h ⊢
  by_cases hopen : c = '<' ∨ c = '['
  · rw [if_pos hopen] at h ⊢
    cases h
    rfl
  rw [if_neg hopen] at h ⊢
  by_cases hclose : c = '>' ∨ c = ']'
  · rw [if_pos hclose] at h ⊢
    cases depth with
    | zero => cases h
    | succ depth =>
      cases h
      rfl
  rw [if_neg hclose] at h ⊢
  by_cases hcomma : c = ',' ∧ depth = 0
  · rw [if_pos hcomma] at h
    cases h
  · rw [if_neg hcomma] at h
    cases h
    exact if_neg (by omega)

/-- inside of another pair of brackets a text reads the same -/
theorem openBehind_succ {depth behind : Nat} {l : List Char} (h : openBehind depth l = some behind) :
    openBehind (depth + 1) l = some (behind + 1) := by
  induction l generalizing depth with
  | nil =>
    cases h
    rfl
  | cons c rest ih =>
    obtain ⟨next, hnext, hrest⟩ := Option.bind_eq_some_iff.1 h
    exact Option.bind_eq_some_iff.2 ⟨next + 1, openAfter_succ hnext, ih hrest⟩

namespace Closed

variable {a b : String}

theorem append (ha : Closed a) (hb : Closed b) : Closed (a ++ b) := by
  rw [Closed, String.toList_append, openBehind_append, ha]
  exact hb

/-- brackets around a text that is closed inside of them -/
theorem of_inside (element : Closed a) (hinside : openBehind 1 b.toList = some 1) : Closed (a ++ "<" ++ b ++ ">") := by
  simp only [Closed, String.toList_append]
  rw [openBehind_append, openBehind_append, openBehind_append, element]
  show ((openBehind 1 b.toList).bind fun depth => openBehind depth ['>']) = some 0
  rw [hinside]
  rfl

/-- closed names joined by commas are closed inside of brackets -/
theorem intercalate {names : List String} (h : ∀ n ∈ names, Closed n) :
    openBehind 1 (",".intercalate names).toList = some 1 := by
  induction names with
  | nil => rfl
  | cons a rest ih =>
    have ha := openBehind_succ (h a List.mem_cons_self)
    rw [toList_intercalate_eq, openBehind_append, ha, Option.bind_some]
    cases rest with
    | nil => rfl
    | cons b rest => exact ih fun n hn => h n (List.mem_cons_of_mem _ hn)

/-- a closed name does not go on with a comma -/
theorem not_continued (ha : Closed a) : ¬ Closed (a ++ "," ++ b) := by
  rw [Closed, String.toList_append, String.toList_append, List.append_assoc, openBehind_append, ha]
  intro h
  cases h

theorem of_plain (h : ∀ c ∈ a.toList, c ∉ ['<', '[', '>', ']', ',']) : Closed a := by
  unfold Closed
  generalize a.toList = l at h
  induction l with
  | nil => rfl
  | cons c rest ih =>
    have hc := h c List.mem_cons_self
    simp only [List.mem_cons, List.not_mem_nil, or_false, not_or] at hc
    obtain ⟨h1, h2, h3, h4, h5⟩ := hc
    have hstep : openAfter 0 c = some 0 := by simp [openAfter, h1, h2, h3, h4, h5]
    exact Option.bind_eq_some_iff.2 ⟨0, hstep, ih fun d hd => h d (List.mem_cons_of_mem _ hd)⟩

end Closed

/-- closed names do not make one text in different ways, an empty name apart -/
theorem eq_of_intercalate_eq {names others : List String} (hnames : ∀ n ∈ names, Closed n) (hothers : ∀ n ∈ others, Closed n)
    (hnames' : names ≠ [""]) (hothers' : others ≠ [""]) (h : ",".intercalate names = ",".intercalate others) :
    names = others := by
  have hblurred {names others : List String} (hnames : ∀ n ∈ names, Closed n) (hothers : ∀ n ∈ others, Closed n)
      (hothers' : others ≠ [""]) : ¬ Blurred names others := by
    rintro (_ | ⟨front, a, b, rest, rest'⟩)
    · exact hothers' rfl
    · exact (hnames a (by simp)).not_continued (hothers (a ++ "," ++ b) (by simp))
  rcases eq_or_blurred h with heq | hb | hb
  · exact heq
  · exact absurd hb (hblurred hnames hothers hothers')
  · exact absurd hb (hblurred hothers hnames hnames')

/-! ## How many names a text has at most -/

theorem pieces_eq_flatMap {names : List String} (h : names ≠ []) : pieces names = names.flatMap (·.toList.splitOn ',') := by
  cases names with
  | nil => exact absurd rfl h
  | cons a rest => rfl

theorem length_le_flatMap_splitOn (names : List String) : names.length ≤ (names.flatMap (·.toList.splitOn ',')).length := by
  induction names with
  | nil => exact Nat.le_refl _
  | cons a rest ih =>
    have ha := List.length_pos_iff.2 (List.splitOn_ne_nil ',' a.toList)
    rw [List.flatMap_cons, List.length_append, List.length_cons]
    omega

/-- names without commas are the pieces of their text -/
theorem pieces_of_not_mem {names : List String} (h : names ≠ []) (hplain : ∀ n ∈ names, ',' ∉ n.toList) :
    pieces names = names.map String.toList := by
  rw [← splitOn_intercalate, String.toList_intercalate]
  refine List.splitOn_intercalate ',' (fun l hl => ?_) (by simpa using h)
  obtain ⟨n, hn, rfl⟩ := List.mem_map.1 hl
  exact hplain n hn

/-- names with a comma in one of them are fewer than the pieces of their text -/
theorem length_lt_pieces (front : List String) (a b : String) (rest : List String) :
    (front ++ (a ++ "," ++ b) :: rest).length < (pieces (front ++ (a ++ "," ++ b) :: rest)).length := by
  have hsplit : (a ++ "," ++ b).toList.splitOn ',' = a.toList.splitOn ',' ++ b.toList.splitOn ',' := by
    rw [String.toList_append, String.toList_append, List.append_assoc]
    exact splitOn_append_cons _ _
  have hfront := length_le_flatMap_splitOn front
  have hrest := length_le_flatMap_splitOn rest
  have ha := List.length_pos_iff.2 (List.splitOn_ne_nil ',' a.toList)
  have hb := List.length_pos_iff.2 (List.splitOn_ne_nil ',' b.toList)
  rw [pieces_eq_flatMap (by simp), List.flatMap_append, List.flatMap_cons, hsplit]
  simp only [List.length_append, List.length_cons]
  omega

/-- what makes the text of names without commas is these names, or fewer -/
theorem eq_or_length_lt {names others : List String} (hothers : others ≠ []) (hempty : others ≠ [""])
    (hplain : ∀ n ∈ others, ',' ∉ n.toList) (h : pieces names = pieces others) :
    names ≠ [] ∧ (names = others ∨ names.length < others.length) := by
  have hpieces := pieces_of_not_mem hothers hplain
  rcases eq_or_blurred (intercalate_eq_iff_pieces.2 h) with rfl | hblurred | hblurred
  · exact ⟨hothers, .inl rfl⟩
  · -- a name among the others would have a comma
    rcases hblurred with _ | ⟨front, a, b, rest, rest'⟩
    · exact absurd rfl hempty
    · exact absurd (by simp) (hplain (a ++ "," ++ b) (by simp))
  · rcases hblurred with _ | ⟨front, a, b, rest, rest'⟩
    · exact absurd rfl hothers
    · have hlength := length_lt_pieces front a b rest'
      rw [h, hpieces, List.length_map] at hlength
      exact ⟨by simp, .inr hlength⟩

/-! ## Names of types -/

mutual

/-- the names that a type brings with it are closed -/
def TypeSig.Tidy : TypeSig → Prop
  | .named space name => Closed space ∧ Closed name
  | .generic element arguments => element.Tidy ∧ TypeSig.AllTidy arguments
  | .derived element suffix => element.Tidy ∧ Closed suffix
  | .defined _ | .param _ _ | .absent => True

/-- the names that some types bring with them are closed -/
def TypeSig.AllTidy : List TypeSig → Prop
  | [] => True
  | t :: rest => t.Tidy ∧ TypeSig.AllTidy rest

end

theorem closed_decimal (n : Nat) : Closed (Text.decimal n) := by
  refine Closed.of_plain fun c hc => ?_
  rw [Text.decimal, String.toList_ofList] at hc
  have hdigit := Nat.isDigit_of_mem_toDigits (by decide) (by decide) hc
  simp only [List.mem_cons, List.not_mem_nil, or_false, not_or]
  refine ⟨?_, ?_, ?_, ?_, ?_⟩ <;> (rintro rfl; exact absurd hdigit (by decide))

theorem closed_qualified {space name : String} (hspace : Closed space) (hname : Closed name) :
    Closed (TypeSig.qualified space name) := by
  unfold TypeSig.qualified
  split
  · exact hname
  · exact (hspace.append (by decide)).append hname

namespace Module

variable {m : Module}

/-- the names of the definitions are closed, and those of the spaces they are in -/
def Tidy (m : Module) : Prop := ∀ t ∈ m.definitions, Closed t.space ∧ Closed t.name

theorem closed_of_definitionNameWithin (hm : m.Tidy) {depth : Nat} {id : TypeId} {name : String}
    (h : m.definitionNameWithin depth id = .ok name) : Closed name := by
  induction depth generalizing id name with
  | zero => cases h
  | succ depth ih =>
    rw [definitionNameWithin] at h
    cases hid : m.definitions[id]? with
    | none =>
      rw [hid] at h
      cases h
      decide
    | some t =>
      obtain ⟨hspace, hname⟩ := hm t (Array.mem_of_getElem? hid)
      rw [hid] at h
      cases houter : t.outer with
      | none =>
        simp only [houter] at h
        cases h
        exact closed_qualified hspace hname
      | some outer =>
        simp only [houter] at h
        obtain ⟨front, hfront, h⟩ := bind_eq_ok_iff.1 h
        cases h
        exact ((ih hfront).append (by decide)).append hname

mutual

/-- a type made of closed names has a closed name -/
theorem closed_of_typeName (hm : m.Tidy) : (t : TypeSig) → t.Tidy → ∀ {name}, m.typeName t = .ok name → Closed name
  | .defined id, _, name, h => by
    rw [typeName] at h
    exact closed_of_definitionNameWithin hm h
  | .named space own, ht, name, h => by
    rw [typeName] at h
    cases h
    exact closed_qualified ht.1 ht.2
  | .generic element arguments, ht, name, h => by
    rw [typeName] at h
    obtain ⟨inner, hinner, h⟩ := bind_eq_ok_iff.1 h
    obtain ⟨outer, houter, h⟩ := bind_eq_ok_iff.1 h
    cases h
    have hlist := Closed.intercalate (closed_of_typeNames hm arguments ht.2 hinner)
    exact (closed_of_typeName hm element ht.1 houter).of_inside hlist
  | .derived element suffix, ht, name, h => by
    rw [typeName] at h
    obtain ⟨front, hfront, h⟩ := bind_eq_ok_iff.1 h
    cases h
    exact (closed_of_typeName hm element ht.1 hfront).append ht.2
  | .param number ofMethod, _, name, h => by
    rw [typeName] at h
    cases h
    refine Closed.append ?_ (closed_decimal number)
    cases ofMethod <;> decide
  | .absent, _, name, h => by
    rw [typeName] at h
    cases h

/-- types made of closed names have closed names -/
theorem closed_of_typeNames (hm : m.Tidy) :
    (ts : List TypeSig) → TypeSig.AllTidy ts → ∀ {names}, m.typeNames ts = .ok names → ∀ n ∈ names, Closed n
  | [], _, names, h => by
    rw [typeNames] at h
    cases h
    exact fun n hn => nomatch hn
  | t :: rest, hts, names, h => by
    rw [typeNames] at h
    obtain ⟨name, hname, h⟩ := bind_eq_ok_iff.1 h
    obtain ⟨others, hothers, h⟩ := bind_eq_ok_iff.1 h
    cases h
    exact List.forall_mem_cons.2 ⟨closed_of_typeName hm t hts.1 hname, closed_of_typeNames hm rest hts.2 hothers⟩

end

/-! ## Signatures -/

/-- a method of the module, or a member known by name -/
inductive Callable where
  | method (x : Method)
  | reference (r : MemberRef)

namespace Callable

/-- the return type, if there is one -/
def returns : Callable → Option TypeSig
  | .method x => some x.returns |>.filter TypeSig.isPresent
  | .reference r => r.returns

def parameters : Callable → List TypeSig
  | .method x => x.parameters
  | .reference r => r.parameters

end Callable

/-- whether the signature of a method or of a member reference reads as the two texts -/
def reads (m : Module) (c : Callable) (returns parameters : String) : Except TypeFault Bool :=
  match c with
  | .method x => m.isMethod x returns parameters
  | .reference r => m.matchesSignature r.returns r.parameters returns parameters

variable {c : Callable} {t : TypeSig} {ret : String} {names : List String}

theorem length_of_typeNames {ts : List TypeSig} (h : m.typeNames ts = .ok names) : names.length = ts.length := by
  induction ts generalizing names with
  | nil =>
    rw [typeNames] at h
    cases h
    rfl
  | cons t rest ih =>
    rw [typeNames] at h
    obtain ⟨name, -, h⟩ := bind_eq_ok_iff.1 h
    obtain ⟨others, hothers, h⟩ := bind_eq_ok_iff.1 h
    cases h
    rw [List.length_cons, ih hothers, List.length_cons]

theorem reads_eq (hreturns : c.returns = some t) (hret : m.typeName t = .ok ret) (hnames : m.typeNames c.parameters = .ok names)
    (returns parameters : String) :
    m.reads c returns parameters = .ok (decide (ret = returns ∧ parameterText names = parameters)) := by
  have hsignature : m.reads c returns parameters = m.matchesSignature c.returns c.parameters returns parameters := by
    cases c <;> rfl
  rw [hsignature, hreturns, matchesSignature, hret, hnames]
  by_cases hr : ret = returns
  · simp [hr]
  · simp [hr]

/-- **What a signature that reads as a text tells about its parameters.** Comparing a method or a member reference that has a
return type, and whose names exist, with the name of a return type and the names of some parameters gives an answer. It is yes
exactly when the return type has that name and the names of the parameters have the same pieces between commas. The names are
then the same, in number and order, except that no name and one empty name read alike, and that where they first differ, one may
go on with a comma behind the other. Where every comma stands in brackets and neither list is one empty name, the answer is yes
exactly when the return type and the names are the same. What reads as no parameters has none, or one with an empty name; what
reads as some names without commas has these parameters, or fewer, but not none. -/
theorem reads_as (hreturns : c.returns = some t) (hret : m.typeName t = .ok ret) (hnames : m.typeNames c.parameters = .ok names)
    (returns : String) (others : List String) :
    ∃ b, m.reads c returns (parameterText others) = .ok b ∧
      (b = true ↔ ret = returns ∧ pieces names = pieces others) ∧
      names.length = c.parameters.length ∧
      (b = true → names = others ∨ Blurred names others ∨ Blurred others names) ∧
      ((∀ n ∈ names, Closed n) → (∀ n ∈ others, Closed n) → names ≠ [""] → others ≠ [""] →
        (b = true ↔ ret = returns ∧ names = others)) ∧
      (b = true → others = [] → names = [] ∨ names = [""]) ∧
      (b = true → others ≠ [] → others ≠ [""] → (∀ n ∈ others, ',' ∉ n.toList) →
        names ≠ [] ∧ (names = others ∨ names.length < others.length)) := by
  refine ⟨_, reads_eq hreturns hret hnames _ _, ?_⟩
  rw [decide_eq_true_iff, parameterText_eq_iff]
  refine ⟨Iff.rfl, length_of_typeNames hnames, fun h => eq_or_blurred (intercalate_eq_iff_pieces.2 h.2),
    fun hc hc' he he' => ?_, ?_, ?_⟩
  · constructor
    · exact fun h => ⟨h.1, eq_of_intercalate_eq hc hc' he he' (intercalate_eq_iff_pieces.2 h.2)⟩
    · rintro ⟨hr, rfl⟩
      exact ⟨hr, rfl⟩
  · rintro ⟨-, h⟩ rfl
    exact eq_nil_or_eq_empty (intercalate_eq_iff_pieces.2 h)
  · exact fun h ho he hplain => eq_or_length_lt ho he hplain h.2

/-- `void (Assembly)`, the type being called `Assembly,System.String` -/
def commaMethod : Method where
  name := "Load"
  returns := .named "System" "Void"
  parameters := [.named "System.Reflection" "Assembly,System.String"]
  flags := 6
  code := none
  owner := none
  token := 0x06000001

/-- a method whose one parameter has a comma in its name reads as a method with two parameters -/
theorem commaMethod_reads_as_two :
    Module.empty.typeNames commaMethod.parameters = .ok ["System.Reflection.Assembly,System.String"] ∧
      ["System.Reflection.Assembly,System.String"] ≠ ["System.Reflection.Assembly", "System.String"] ∧
      Module.empty.reads (.method commaMethod) "System.Void" (parameterText ["System.Reflection.Assembly", "System.String"])
        = .ok true := ⟨rfl, by decide, rfl⟩

/-- `void (Dictionary<string,string>, int)` -/
def dictionaryReference : MemberRef where
  name := "Fill"
  parent := some (.named "App" "Store")
  returns := some (.named "System" "Void")
  parameters := [.generic (.named "App" "Dictionary`2") [.core "String", .core "String"], .core "Int32"]
  token := 0x0A000001

def dictionaryNames : List String := ["App.Dictionary`2<System.String,System.String>", "System.Int32"]

theorem reads_as_dictionaryReference :
    Module.empty.reads (.reference dictionaryReference) "System.Void" (parameterText dictionaryNames) = .ok true ∧
      Module.empty.reads (.reference dictionaryReference) "System.Void" (parameterText ["App.Dictionary`2", "System.Int32"])
        = .ok false := by
  have hreturns : (Callable.reference dictionaryReference).returns = some (.named "System" "Void") := rfl
  have hret : Module.empty.typeName (.named "System" "Void") = .ok "System.Void" := rfl
  have hnames : Module.empty.typeNames dictionaryReference.parameters = .ok dictionaryNames := rfl
  constructor
  · obtain ⟨b, hb, hiff, -⟩ := reads_as hreturns hret hnames "System.Void" dictionaryNames
    rw [hb, hiff.2 ⟨rfl, rfl⟩]
  · obtain ⟨b, hb, -, -, -, hiff, -⟩ := reads_as hreturns hret hnames "System.Void" ["App.Dictionary`2", "System.Int32"]
    have hsame := hiff (by decide) (by decide) (by decide) (by decide)
    cases b with
    | false => exact hb
    | true => exact absurd (hsame.1 rfl).2 (by decide)

end Module

end Unbundle
