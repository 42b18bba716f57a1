import Mathlib
import Unbundle.Module.Names
/-
Which names a text can mention.

Signatures are compared as texts, and such a text is put together from the names of several types. A familiar text mentions
nothing but the names of some types that every module knows from outside. A strange name is one that no familiar text can
mention, wherever in the text it stands and whatever stands around it: it has a character that no familiar text has, or it is
the whole of a part between commas and not one of the familiar names.

Results:
- `not_familiar_of_mem`: a text put together from names of which one is strange is not familiar.
- `Alike.eq_iff`, `intercalate_eq_iff`: replacing strange names by strange names does not change the comparison with a familiar
  text.
-/
namespace Unbundle

/-- the names that signatures are compared with -/
def familiarNames : List String :=
  ["System.Void", "System.String", "System.Reflection.Assembly", "System.Collections.Generic.List`1"]

/-- the characters that the name of a generic or derived type cannot do without -/
def markChars : List Char := ['<', '*', '&', '[']

/-- a text of familiar names joined by commas -/
structure Familiar (text : String) : Prop where
  marks : ∀ c ∈ text.toList, c ∉ markChars
  parts : ∀ part ∈ text.toList.splitOn ',', part = [] ∨ String.ofList part ∈ familiarNames

/-- the name of a definition that cannot be taken for another type's: not empty, without a comma, and not familiar -/
structure Ordinary (name : String) : Prop where
  nonempty : name ≠ ""
  comma : ',' ∉ name.toList
  unfamiliar : name ∉ familiarNames

/-- a name that no familiar text mentions -/
def Strange (name : String) : Prop := (∃ c ∈ name.toList, c ∈ markChars) ∨ Ordinary name

theorem strange_append_right {b : String} (h : ∃ c ∈ b.toList, c ∈ markChars) (a : String) : Strange (a ++ b) := by
  obtain ⟨c, hc, hmark⟩ := h
  exact .inl ⟨c, by rw [String.toList_append]; exact List.mem_append_right _ hc, hmark⟩

/-! ## Names in a text -/

theorem toList_intercalate_cons (a b : String) (rest : List String) :
    (",".intercalate (a :: b :: rest)).toList = a.toList ++ ',' :: (",".intercalate (b :: rest)).toList := by
  rw [String.intercalate_cons_cons, String.toList_append, String.toList_append, List.append_assoc]
  rfl

/-- the characters of a name stand in every text that mentions it -/
theorem mem_toList_intercalate {s : String} {names : List String} (hs : s ∈ names) {c : Char} (hc : c ∈ s.toList) :
    c ∈ (",".intercalate names).toList := by
  induction names with
  | nil => cases hs
  | cons a rest ih =>
    cases rest with
    | nil =>
      obtain rfl := List.mem_singleton.1 hs
      rwa [String.intercalate_singleton]
    | cons b rest =>
      rw [toList_intercalate_cons]
      rcases List.mem_cons.1 hs with rfl | hrest
      · exact List.mem_append_left _ hc
      · exact List.mem_append_right _ (List.mem_cons_of_mem _ (ih hrest))

theorem splitOn_of_not_mem {l : List Char} (h : ',' ∉ l) : l.splitOn ',' = [l] := by
  refine List.splitOnP_eq_singleton fun c hc => ?_
  rw [beq_eq_false_iff_ne]
  rintro rfl
  exact h hc

theorem splitOn_append_cons (l rest : List Char) :
    (l ++ ',' :: rest).splitOn ',' = l.splitOn ',' ++ rest.splitOn ',' :=
  List.splitOnP_append_cons l rest (beq_self_eq_true ',')

/-- a name without comma is a part of every text that mentions it -/
theorem mem_splitOn_intercalate {s : String} {names : List String} (hs : s ∈ names) (hcomma : ',' ∉ s.toList) :
    s.toList ∈ (",".intercalate names).toList.splitOn ',' := by
  induction names with
  | nil => cases hs
  | cons a rest ih =>
    cases rest with
    | nil =>
      obtain rfl := List.mem_singleton.1 hs
      rw [String.intercalate_singleton, splitOn_of_not_mem hcomma]
      exact List.mem_singleton_self _
    | cons b rest =>
      rw [toList_intercalate_cons, splitOn_append_cons]
      rcases List.mem_cons.1 hs with rfl | hrest
      · rw [splitOn_of_not_mem hcomma]
        exact List.mem_append_left _ (List.mem_singleton_self _)
      · exact List.mem_append_right _ (ih hrest)

theorem not_mem_of_familiarName : ∀ n ∈ familiarNames, ∀ c ∈ n.toList, c ∉ ',' :: markChars := by
  simp [familiarNames, markChars]

theorem not_mark_of_mem {names : List String} (h : ∀ n ∈ names, n ∈ familiarNames) {c : Char}
    (hc : c ∈ (",".intercalate names).toList) : c ∉ markChars := by
  induction names with
  | nil => cases hc
  | cons a rest ih =>
    have ha : ∀ c ∈ a.toList, c ∉ markChars := fun c hc hmark =>
      not_mem_of_familiarName a (h a List.mem_cons_self) c hc (List.mem_cons_of_mem _ hmark)
    cases rest with
    | nil =>
      rw [String.intercalate_singleton] at hc
      exact ha c hc
    | cons b rest =>
      rw [toList_intercalate_cons] at hc
      rcases List.mem_append.1 hc with hname | htail
      · exact ha c hname
      · rcases List.mem_cons.1 htail with rfl | hlater
        · decide
        · exact ih (fun n hn => h n (List.mem_cons_of_mem _ hn)) hlater

/-- familiar names joined by commas are a familiar text -/
theorem familiar_intercalate {names : List String} (h : ∀ n ∈ names, n ∈ familiarNames) :
    Familiar (",".intercalate names) where
  marks c hc := not_mark_of_mem h hc
  parts part hpart := by
    rw [String.toList_intercalate] at hpart
    by_cases hnames : names = []
    · subst hnames
      exact .inl (List.mem_singleton.1 hpart)
    · have hsplit : ([','].intercalate (names.map String.toList)).splitOn ',' = names.map String.toList := by
        refine List.splitOn_intercalate ',' (fun l hl => ?_) (by simpa using hnames)
        obtain ⟨n, hn, rfl⟩ := List.mem_map.1 hl
        exact fun hcomma => not_mem_of_familiarName n (h n hn) ',' hcomma List.mem_cons_self
      have hmem : part ∈ names.map String.toList := by
        rw [← hsplit]
        exact hpart
      obtain ⟨n, hn, rfl⟩ := List.mem_map.1 hmem
      right
      rw [String.ofList_toList]
      exact h n hn

theorem familiar_of_mem {name : String} (h : name ∈ familiarNames) : Familiar name := by
  have hsingle := familiar_intercalate fun n (hn : n ∈ [name]) => by
    obtain rfl := List.mem_singleton.1 hn
    exact h
  rwa [String.intercalate_singleton] at hsingle

/-- a text put together from names of which one is strange is not familiar -/
theorem not_familiar_of_mem {s : String} {names : List String} (hs : s ∈ names) (hstrange : Strange s) :
    ¬ Familiar (",".intercalate names) := by
  intro hfamiliar
  rcases hstrange with ⟨c, hc, hmark⟩ | hordinary
  · exact hfamiliar.marks c (mem_toList_intercalate hs hc) hmark
  · rcases hfamiliar.parts _ (mem_splitOn_intercalate hs hordinary.comma) with hempty | hname
    · exact hordinary.nonempty (String.toList_eq_nil_iff.1 hempty)
    · rw [String.ofList_toList] at hname
      exact hordinary.unfamiliar hname

/-! ## Names in place of each other -/

/-- names that no familiar text tells from each other -/
def Alike (a b : String) : Prop := a = b ∨ (Strange a ∧ Strange b)

theorem intercalate_eq_iff {as bs : List String} (h : List.Forall₂ Alike as bs) {text : String} (htext : Familiar text) :
    ",".intercalate as = text ↔ ",".intercalate bs = text := by
  by_cases hsame : as = bs
  · rw [hsame]
  -- where the lists differ both have a strange name
  have hstrange : (∃ a ∈ as, Strange a) ∧ ∃ b ∈ bs, Strange b := by
    induction h with
    | nil => exact absurd rfl hsame
    | @cons a b as bs hab hrest ih =>
      rcases hab with rfl | ⟨ha, hb⟩
      · obtain ⟨⟨c, hc, hcs⟩, d, hd, hds⟩ := ih fun heq => hsame (by rw [heq])
        exact ⟨⟨c, List.mem_cons_of_mem _ hc, hcs⟩, d, List.mem_cons_of_mem _ hd, hds⟩
      · exact ⟨⟨a, List.mem_cons_self, ha⟩, b, List.mem_cons_self, hb⟩
  obtain ⟨⟨a, ha, has⟩, b, hb, hbs⟩ := hstrange
  constructor
  · rintro rfl
    exact absurd htext (not_familiar_of_mem ha has)
  · rintro rfl
    exact absurd htext (not_familiar_of_mem hb hbs)

theorem Alike.eq_iff {a b : String} (h : Alike a b) {text : String} (htext : Familiar text) : a = text ↔ b = text := by
  have hsingle := intercalate_eq_iff (List.Forall₂.cons h List.Forall₂.nil) htext
  rwa [String.intercalate_singleton, String.intercalate_singleton] at hsingle

end Unbundle
