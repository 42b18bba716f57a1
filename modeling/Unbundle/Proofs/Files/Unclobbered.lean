import Unbundle.Proofs.Files.Writing
/-
Writing without leave to replace files takes no file away.

At its turn each module goes where its file name leads, if nothing is there, or to the numbered name with the least number that
leads to nothing. The tree changes with each module, so that what a later module finds depends on those before it: `Placed`
follows the trees from turn to turn.

The numbers are tried by the names that are in the directory. That comes to the same as looking at the paths: a smaller number
makes no longer name, so that the paths of all smaller numbers lead somewhere if the path with the least free number does.

Results:
- `exists_candidate`: the search for a number whose path leads to nothing ends.
- `goesTo_of_freePath`: the path that is chosen for a module is the first one where nothing is.
- `placed_of_writeEach`: so it is at every turn of a run.
- `writeModules_unclobbered`: no file is changed, and each module is found where it went.
-/
namespace Unbundle

namespace Output

/-! ## Numbers -/

variable {taken : List String} {stem suffix : String} {j k : Nat}

theorem one_le_freeNumber (taken : List String) (stem suffix : String) : 1 ≤ freeNumber taken stem suffix := by
  rw [freeNumber]
  rcases hfind : (List.range' 1 (taken.length + 1)).find? fun n => !taken.contains (numbered stem suffix n) with _ | n
  · exact le_rfl
  · exact (List.mem_range'_1.1 (List.mem_of_find?_eq_some hfind)).1

/-- the names with smaller numbers are taken -/
theorem mem_of_lt_freeNumber (hj : 1 ≤ j) (hlt : j < freeNumber taken stem suffix) : numbered stem suffix j ∈ taken := by
  rw [freeNumber] at hlt
  rcases hfind : (List.range' 1 (taken.length + 1)).find? fun n => !taken.contains (numbered stem suffix n) with _ | n
  · rw [hfind] at hlt
    exact absurd hlt (Nat.not_lt.2 hj)
  · rw [hfind] at hlt
    have hbefore := (List.find?_range'_eq_some.1 hfind).2.2 j hj hlt
    simpa using hbefore

theorem utf8Len_of_isDigit {digits : List Char} (h : ∀ c ∈ digits, c.isDigit) : String.utf8Len digits = digits.length := by
  induction digits with
  | nil => rfl
  | cons c rest ih =>
    have hc : c.utf8Size = 1 := by
      have hdigit := h c List.mem_cons_self
      rw [Char.isDigit_iff_toNat] at hdigit
      exact Char.utf8Size_eq_one_iff.2 (UInt32.le_iff_toNat_le.2 (hdigit.2.trans (by decide)))
    rw [String.utf8Len, ih fun d hd => h d (List.mem_cons_of_mem c hd), hc]
    rfl

theorem utf8ByteSize_decimal (n : Nat) : (Text.decimal n).utf8ByteSize = (Nat.toDigits 10 n).length := by
  rw [Text.decimal, String.utf8ByteSize_ofList,
    utf8Len_of_isDigit fun c hc => Nat.isDigit_of_mem_toDigits (by decide) (by decide) hc]

/-- a smaller number makes no longer name -/
theorem utf8ByteSize_numbered_le (hle : j ≤ k) :
    (numbered stem suffix j).utf8ByteSize ≤ (numbered stem suffix k).utf8ByteSize := by
  have hdigits : (Nat.toDigits 10 j).length ≤ (Nat.toDigits 10 k).length := by
    rw [Nat.length_toDigits_le_iff (by decide) Nat.length_toDigits_pos]
    exact hle.trans_lt ((Nat.length_toDigits_le_iff (by decide) Nat.length_toDigits_pos).1 le_rfl)
  simp only [numbered, String.utf8ByteSize_append, utf8ByteSize_decimal]
  omega

/-! ## Candidates -/

/-- the path that is tried with a number for a name in a directory -/
def candidate (directory : Path) (name : String) (n : Nat) : Path :=
  directory.child (numbered (directory.child name).stem (directory.child name).suffix n)

variable {directory : Path} {name : String}

/-- a candidate has one component more than the directory -/
theorem candidate_eq (h : directory.Named) (name : String) (n : Nat) : candidate directory name n =
    { directory with
      parts := directory.parts ++ [numbered (directory.child name).stem (directory.child name).suffix n] } := by
  rw [candidate, Path.child, ofText_numbered (Path.named_child h name), Path.join]
  rfl

theorem zero_mem_numbered (h : Char.ofNat 0 ∈ (numbered stem suffix j).toList) :
    Char.ofNat 0 ∈ (numbered stem suffix k).toList := by
  have hdigits : Char.ofNat 0 ∉ Nat.toDigits 10 j := fun hmem =>
    absurd (Nat.isDigit_of_mem_toDigits (by decide) (by decide) hmem) (by decide)
  simp only [numbered, Text.decimal, String.toList_append, String.toList_ofList, List.mem_append] at h ⊢
  rcases h with ((hstem | hline) | hnumber) | hsuffix
  · exact .inl (.inl (.inl hstem))
  · exact .inl (.inl (.inr hline))
  · exact absurd hnumber hdigits
  · exact .inr hsuffix

end Output

namespace Path

theorem utf8ByteSize_intercalate_le {last last' : String} (h : last.utf8ByteSize ≤ last'.utf8ByteSize) (parts : List String) :
    ("/".intercalate (parts ++ [last])).utf8ByteSize ≤ ("/".intercalate (parts ++ [last'])).utf8ByteSize := by
  induction parts with
  | nil => simpa using h
  | cons part rest ih =>
    cases rest with
    | nil =>
      simp only [List.cons_append, List.nil_append, String.intercalate_cons_cons, String.utf8ByteSize_append] at ih ⊢
      omega
    | cons next more =>
      simp only [List.cons_append, String.intercalate_cons_cons, String.utf8ByteSize_append] at ih ⊢
      omega

/-- a path whose last component is no longer is no longer -/
theorem utf8ByteSize_toText_le {last last' : String} (h : last.utf8ByteSize ≤ last'.utf8ByteSize) (p : Path) :
    (toText { p with parts := p.parts ++ [last] }).utf8ByteSize ≤
      (toText { p with parts := p.parts ++ [last'] }).utf8ByteSize := by
  have htext (last : String) :
      toText { p with parts := p.parts ++ [last] } = p.start.text ++ "/".intercalate (p.parts ++ [last]) := by
    rw [toText, if_neg (by simp)]
  rw [htext, htext, String.utf8ByteSize_append, String.utf8ByteSize_append]
  have hparts := utf8ByteSize_intercalate_le h p.parts
  omega

end Path

namespace Tree

open Output

variable {t t' t₁ : Tree} {directory p : Path} {out q start : Place} {name last last' : String} {j k : Nat}

/-- where components lead to some place, a last component that is no longer leads to a place beside it -/
theorem walk_concat {parts : List String} (hdots : last ≠ "..") (hdots' : last' ≠ "..")
    (hle : last'.utf8ByteSize ≤ last.utf8ByteSize)
    (h : t.walk start (parts ++ [last]) = .ok q) : t.walk start (parts ++ [last']) = .ok (q.dropLast ++ [last']) := by
  induction parts generalizing start with
  | nil =>
    rw [List.nil_append, walk] at h ⊢
    split_ifs at h with hlong
    rw [if_neg (by omega)]
    cases h
    simp [hdots']
  | cons part rest ih =>
    rw [List.cons_append, walk] at h ⊢
    split_ifs at h ⊢ with hlong hup
    all_goals
      obtain ⟨first, more, hrest⟩ : ∃ first more, rest ++ [last] = first :: more := List.exists_cons_of_ne_nil (by simp)
      obtain ⟨first', more', hrest'⟩ : ∃ first more, rest ++ [last'] = first :: more := List.exists_cons_of_ne_nil (by simp)
      rw [hrest] at h ih
      rw [hrest'] at ih ⊢
      dsimp only at h ⊢
      split at h
      · exact ih h
      · cases h
      · cases h

/-- where a path leads to some place, a last component that is no longer leads to a place beside it -/
theorem place_concat (hdots : last ≠ "..") (hdots' : last' ≠ "..") (hle : last'.utf8ByteSize ≤ last.utf8ByteSize)
    (hzero : Char.ofNat 0 ∈ last'.toList → Char.ofNat 0 ∈ last.toList)
    (h : t.place { p with parts := p.parts ++ [last] } = .ok q) :
    t.place { p with parts := p.parts ++ [last'] } = .ok (q.dropLast ++ [last']) := by
  obtain ⟨hheld, hlong, hwalk⟩ := place_eq_ok h
  have hheld' : ¬ Path.holdsZero { p with parts := p.parts ++ [last'] } := by
    intro hsome
    refine hheld ?_
    simp only [Path.holdsZero, List.any_append, List.any_cons, List.any_nil, Bool.or_false, Bool.or_eq_true,
      List.contains_iff_mem] at hsome ⊢
    exact hsome.imp_right hzero
  have hlong' : ¬ pathLimit < (Path.toText { p with parts := p.parts ++ [last'] }).utf8ByteSize := fun hlt =>
    hlong (hlt.trans_le (Path.utf8ByteSize_toText_le hle p))
  rw [place, if_neg hheld', if_neg hlong']
  exact walk_concat hdots hdots' hle hwalk

/-- if the path with a number leads somewhere, those with the smaller numbers do -/
theorem place_candidate_of_le (hdirectory : directory.Named) (hle : j ≤ k) (h : t.place (candidate directory name k) = .ok q) :
    t.place (candidate directory name j) =
      .ok (q.dropLast ++ [numbered (directory.child name).stem (directory.child name).suffix j]) := by
  rw [candidate_eq hdirectory] at h ⊢
  exact place_concat (numbered_ne_dots _ _ _) (numbered_ne_dots _ _ _) (utf8ByteSize_numbered_le hle) zero_mem_numbered h

/-- the path with a number leads to a place in the directory's own -/
theorem place_candidate (hdirectory : directory.Named) (h : t.place (candidate directory name k) = .ok q) :
    q = Place.followPath t.working directory ++ [numbered (directory.child name).stem (directory.child name).suffix k] := by
  rw [candidate_eq hdirectory] at h
  rw [place_eq_follow h, Place.followPath, Place.follow, List.foldl_append, List.foldl_cons, List.foldl_nil,
    if_neg (numbered_ne_dots _ _ _)]
  rfl

/-! ## Existing entries -/

/-- what a tree holds at a place other than the root is one of its entries -/
theorem mem_entries {e : TreeEntry} (hroot : q ≠ []) (h : t.entry? q = some e) : q ∈ t.entries.map (·.1) := by
  rw [entry?_of_ne_root hroot] at h
  obtain ⟨front, back, heq, -⟩ := List.lookup_eq_some_iff.1 h
  simp [heq]

/-- the search for a free number ends: some number, not above the number of entries in the tree by more than one, leads to
nothing -/
theorem exists_candidate (t : Tree) (hdirectory : directory.Named) (name : String) :
    ∃ k, 1 ≤ k ∧ k ≤ t.entries.length + 1 ∧ ∀ kind, t.kind? (candidate directory name k) ≠ .ok (some kind) := by
  by_contra hall
  push Not at hall
  -- otherwise each of these numbers would have an entry of its own
  let child (k : Nat) : Place :=
    Place.followPath t.working directory ++ [numbered (directory.child name).stem (directory.child name).suffix k]
  have hentries : (List.range' 1 (t.entries.length + 1)).map child ⊆ t.entries.map (·.1) := by
    intro place hplace
    obtain ⟨k, hk, rfl⟩ := List.mem_map.1 hplace
    obtain ⟨kind, hkind⟩ := hall k (List.mem_range'_1.1 hk).1 (by have := (List.mem_range'_1.1 hk).2; omega)
    obtain ⟨q, hq, hsome⟩ := place_of_kind? hkind
    obtain ⟨e, he⟩ := Option.ne_none_iff_exists'.1 hsome
    obtain rfl : q = child k := place_candidate hdirectory hq
    exact mem_entries (by simp [child]) he
  have hnodup : ((List.range' 1 (t.entries.length + 1)).map child).Nodup :=
    (List.nodup_range' 1).map fun j k heq => numbered_injective _ _ (List.singleton_inj.1 (List.append_cancel_left heq))
  have hle := (hnodup.subperm hentries).length_le
  simp at hle

/-! ## One turn -/

/-- where a module goes at its turn: where its name leads if nothing is there, or where the least number leads to nothing -/
inductive GoesTo (t : Tree) (directory : Path) (name : String) : Path → Prop
  | own (hfree : t.kind? (directory.child name) = .ok none) : GoesTo t directory name (directory.child name)
  | numbered {kind : FileKind} {k : Nat} (htaken : t.kind? (directory.child name) = .ok (some kind)) (hk : 1 ≤ k)
      (hfree : t.kind? (candidate directory name k) = .ok none)
      (hleast : ∀ j, 1 ≤ j → j < k → ∃ kind, t.kind? (candidate directory name j) = .ok (some kind)) :
      GoesTo t directory name (candidate directory name k)

theorem GoesTo.kind?_eq (h : GoesTo t directory name p) : t.kind? p = .ok none := by
  cases h with
  | own hfree => exact hfree
  | numbered htaken hk hfree hleast => exact hfree

theorem eq_of_below? {place : Place} {names : List String} (h : below? start place = some names) : place = start ++ names := by
  unfold below? at h
  split_ifs at h with hprefix
  obtain ⟨rest, rfl⟩ := List.isPrefixOf_iff_prefix.1 hprefix
  rw [List.drop_left] at h
  rw [Option.some_inj.1 h]

/-- a name that is listed in a directory is there -/
theorem entry?_of_mem_names (hplace : t.place directory = .ok out) (h : name ∈ t.names directory) :
    t.entry? (out ++ [name]) ≠ none := by
  rw [names, List.mem_filterMap] at h
  obtain ⟨⟨listed, e⟩, hlisted, hname⟩ := h
  rw [entriesBelow, hplace] at hlisted
  dsimp only at hlisted
  split_ifs at hlisted
  · simp at hlisted
  obtain ⟨⟨place, e'⟩, hentry, hfound⟩ := List.mem_filterMap.1 hlisted
  obtain ⟨names, hbelow, hnames⟩ := Option.map_eq_some_iff.1 hfound
  cases hnames
  have hplaceEq : place = out ++ [name] := by
    split at hname
    · next heq =>
      cases hname
      cases heq
      exact eq_of_below? hbelow
    · cases hname
  rw [entry?_of_ne_root (by simp)]
  intro hnone
  have hnot := List.lookup_eq_none_iff.1 hnone _ hentry
  simp [hplaceEq] at hnot

/-- the path that is chosen for a module is the first one where nothing is, if it leads somewhere -/
theorem goesTo_of_freePath (hdirectory : directory.Named) (hplace : t.place directory = .ok out)
    (hout : t.entry? out = some .directory) {r : Except FileError Path}
    (h : (freePath system directory name false).run.run t = (r, t₁)) :
    t₁ = t ∧ ∀ p q, r = .ok p → t.place p = .ok q → GoesTo t directory name p := by
  obtain ⟨r', hrun, hchosen⟩ := freePath_cases directory name t
  rw [h] at hrun
  cases hrun
  refine ⟨rfl, fun p q hp hq => ?_⟩
  rcases hchosen p hp with ⟨hfree, rfl⟩ | ⟨kind, htaken, rfl⟩
  · exact .own hfree
  have hnamed : (directory.child name).Named := Path.named_child hdirectory name
  have hself := place_child_numbered hplace hnamed hq
  refine .numbered htaken (one_le_freeNumber _ _ _) ?_ fun j hj hlt => ?_
  · refine kind?_of_none hq ?_
    rw [hself]
    by_contra hsome
    obtain ⟨e, he⟩ := Option.ne_none_iff_exists'.1 hsome
    exact numbered_freeNumber_not_mem _ _ _ (mem_names hplace hout he)
  · have hplaced := place_candidate_of_le hdirectory hlt.le hq
    rw [hself, List.dropLast_concat] at hplaced
    exact kind?_eq_some hplaced (entry?_of_mem_names hplace (mem_of_lt_freeNumber hj hlt))

/-! ## All turns -/

/-- modules are written one after the other, each where it goes by the tree at its turn -/
inductive Placed (directory : Path) : Tree → List AssemblyInfo → List Path → Tree → Prop
  | nil (t : Tree) : Placed directory t [] [] t
  | cons {t t₁ t' : Tree} {info : AssemblyInfo} {infos : List AssemblyInfo} {p : Path} {paths : List Path}
      (hgoes : GoesTo t directory info.fileName p) (hwrite : t.write p info.data = .ok t₁)
      (hrest : Placed directory t₁ infos paths t') : Placed directory t (info :: infos) (p :: paths) t'

variable {infos : List AssemblyInfo} {paths written : List Path} {c data : Bytes} {kind : FileKind}

theorem placed_of_writeEach (hdirectory : directory.Named) (hplace : t.place directory = .ok out)
    (hout : t.entry? out = some .directory)
    (h : (writeEach system directory false infos).run.run t = (.ok written, t')) : Placed directory t infos written t' := by
  induction infos generalizing t written with
  | nil =>
    cases h
    exact .nil _
  | cons info rest ih =>
    rw [writeEach] at h
    rcases hfree : (freePath system directory info.fileName false).run.run t with ⟨cause | p, t₁⟩
    · rw [run_bind_error hfree] at h
      cases h
    rw [run_bind_ok hfree] at h
    obtain ⟨rfl, hgoes⟩ := goesTo_of_freePath hdirectory hplace hout hfree
    rcases hwrite : t₁.write p info.data with cause | t₂
    · rw [run_bind_error (run_write_error hwrite)] at h
      cases h
    rw [run_bind_ok (run_write_ok hwrite)] at h
    obtain ⟨q, hq, -, -, -, hgrows⟩ := eq_put_of_write hwrite
    rcases hlater : (writeEach system directory false rest).run.run t₂ with ⟨cause | others, t₃⟩
    · rw [run_bind_error hlater] at h
      cases h
    rw [run_bind_ok hlater] at h
    cases h
    exact .cons (hgoes p q rfl hq) hwrite (ih (hgrows.place_eq hplace) (hgrows.directory out hout) hlater)

/-- a file is written where nothing is: what other files hold stays as it is -/
theorem content?_of_write (hfree : t.kind? p = .ok none) (hwrite : t.write p data = .ok t₁) (hc : t.content? q = some c) :
    t₁.content? q = some c := by
  obtain ⟨place, hplace, -, -, rfl, -⟩ := eq_put_of_write hwrite
  have hne : q ≠ place := by
    rintro rfl
    rw [content?_of_none (kind?_eq_none hfree hplace)] at hc
    cases hc
  rwa [content?, entry?_put_of_ne hne]

/-- a file that is written is where the path leads from then on -/
theorem content?_of_write_self (hwrite : t.write p data = .ok t₁) : ∃ q, t₁.place p = .ok q ∧ t₁.content? q = some data := by
  obtain ⟨q, hq, hroot, -, rfl, hgrows⟩ := eq_put_of_write hwrite
  exact ⟨q, hgrows.place_eq hq, content?_eq_some.2 (entry?_put_self hroot)⟩

theorem read_of_content? (hplace : t.place p = .ok q) (hc : t.content? q = some c) : t.read p = .ok c := by
  rw [read, hplace]
  dsimp only
  rw [content?_eq_some.1 hc]

namespace Placed

theorem grows (h : Placed directory t infos paths t') : Grows t t' := by
  induction h with
  | nil t => exact Grows.refl t
  | cons hgoes hwrite _ ih =>
    obtain ⟨_, _, _, _, _, hgrows⟩ := eq_put_of_write hwrite
    exact hgrows.trans ih

/-- what the files held that were there before stays as it was -/
theorem content (h : Placed directory t infos paths t') (hc : t.content? q = some c) : t'.content? q = some c := by
  induction h with
  | nil t => exact hc
  | cons hgoes hwrite _ ih => exact ih (content?_of_write hgoes.kind?_eq hwrite hc)

/-- nothing was where a module went -/
theorem not_exists (h : Placed directory t infos paths t') (hp : p ∈ paths) : t.kind? p ≠ .ok (some kind) := by
  induction h generalizing kind with
  | nil t => simp at hp
  | cons hgoes hwrite _ ih =>
    intro hthere
    rcases List.mem_cons.1 hp with rfl | hrest
    · rw [hgoes.kind?_eq] at hthere
      cases hthere
    · obtain ⟨_, _, _, _, _, hgrows⟩ := eq_put_of_write hwrite
      obtain ⟨kind', hkind'⟩ := hgrows.kind?_eq_some hthere
      exact ih hrest hkind'

/-- no two modules went to one path: what the first one left the second one would have found -/
theorem nodup (h : Placed directory t infos paths t') : paths.Nodup := by
  induction h with
  | nil t => exact .nil
  | cons hgoes hwrite hrest ih =>
    obtain ⟨q, hq, hcontent⟩ := content?_of_write_self hwrite
    obtain ⟨kind, hkind⟩ := kind?_eq_some hq (by rw [content?_eq_some.1 hcontent]; simp)
    exact List.nodup_cons.2 ⟨fun hmem => hrest.not_exists hmem hkind, ih⟩

/-- each module is found where it went -/
theorem read (h : Placed directory t infos paths t') : List.Forall₂ (fun p info => t'.read p = .ok info.data) paths infos := by
  induction h with
  | nil t => exact .nil
  | cons hgoes hwrite hrest ih =>
    obtain ⟨q, hq, hcontent⟩ := content?_of_write_self hwrite
    exact .cons (read_of_content? (hrest.grows.place_eq hq) (hrest.content hcontent)) ih

end Placed

/-! ## Whole runs -/

/-- what was in a file before is in it after any run, also after one that fails -/
theorem content?_of_writeModules (hdirectory : directory.Named) {r : Except FileError (List Path)}
    (h : (writeModules system infos directory false).run.run t = (r, t')) (hc : t.content? q = some c) :
    t'.content? q = some c := by
  obtain ⟨⟨entries, done, rest, hkept, -⟩, -⟩ :=
    writes_writeModules (fun info _ => Path.named_child hdirectory info.fileName) h
  have hlast : t'.lastAt q entries = none := by
    refine lastAt_eq_none fun entry hentry hq => ?_
    have hfresh := hkept.fresh rfl entry hentry q hq
    rw [hfresh] at hc
    cases hc
  rw [hkept.content, hlast, Option.none_or, hc]

theorem placed_of_writeModules (hdirectory : directory.Named)
    (h : (writeModules system infos directory false).run.run t = (.ok written, t')) :
    ∃ t₁, (system.makeDirectories directory).run.run t = (.ok (), t₁) ∧ Grows t t₁ ∧ Placed directory t₁ infos written t' := by
  rw [writeModules] at h
  have hmakes := makes_makeDirectories directory t
  rcases hmake : (system.makeDirectories directory).run.run t with ⟨cause | done, t₁⟩
  · rw [run_bind_error hmake] at h
    cases h
  rw [run_bind_ok hmake] at h
  rw [hmake] at hmakes
  obtain ⟨out, hplace, hout⟩ := hmakes.directory rfl
  exact ⟨t₁, rfl, hmakes.grows, placed_of_writeEach hdirectory hplace hout h⟩

/-- **Writing takes no file away.** Without leave to replace files, every file holds after a run what it held before, also where
the run fails. After a success the paths are different ones, nothing was at any of them before, each holds the content of its
module, and each module went to its own name if nothing was there at its turn, or else to the name with the least number that
led to nothing. There always is such a number, and it exceeds the number of entries in the tree by one at most. -/
theorem writeModules_unclobbered (infos : List AssemblyInfo) (directory : Path) (hdirectory : directory.Named) (t t' : Tree)
    (r : Except FileError (List Path)) (h : (writeModules system infos directory false).run.run t = (r, t')) :
    (∀ q c, t.content? q = some c → t'.content? q = some c) ∧
    (∀ written, r = .ok written →
      written.Nodup ∧ (∀ p ∈ written, ∀ kind, t.kind? p ≠ .ok (some kind)) ∧
      List.Forall₂ (fun p info => t'.read p = .ok info.data) written infos ∧
      ∃ t₁, (system.makeDirectories directory).run.run t = (.ok (), t₁) ∧ Placed directory t₁ infos written t') ∧
    ∀ (turn : Tree) (name : String), ∃ k, 1 ≤ k ∧ k ≤ turn.entries.length + 1 ∧
      ∀ kind, turn.kind? (candidate directory name k) ≠ .ok (some kind) := by
  refine ⟨fun q c hc => content?_of_writeModules hdirectory h hc, fun written hwritten => ?_, fun turn name =>
    exists_candidate turn hdirectory name⟩
  subst hwritten
  obtain ⟨t₁, hmake, hgrows, hplaced⟩ := placed_of_writeModules hdirectory h
  refine ⟨hplaced.nodup, fun p hp kind hthere => ?_, hplaced.read, t₁, hmake, hplaced⟩
  obtain ⟨kind', hkind'⟩ := hgrows.kind?_eq_some hthere
  exact hplaced.not_exists hp hkind'

/-- a module whose file is there already, one that is named like the first with a number, and the first one again -/
theorem writeModules_unclobbered_chain :
    let named (name : String) (octet : UInt8) : AssemblyInfo :=
      ⟨name ++ ", Version=1.0.0.0, Culture=neutral, PublicKeyToken=null", ".dll", [octet]⟩
    let t : Tree := ⟨[(["out"], .directory), (["out", "Foo.dll"], .file [1])], []⟩
    ∃ t', (writeModules system [named "Foo" 2, named "Foo_1" 3, named "Foo" 4] (Path.ofText "out") false).run.run t =
        (.ok [Path.ofText "out/Foo_1.dll", Path.ofText "out/Foo_1_1.dll", Path.ofText "out/Foo_2.dll"], t') ∧
      t'.content? ["out", "Foo.dll"] = some [1] ∧ t'.read (Path.ofText "out/Foo_2.dll") = .ok [4] := by
  intro named t
  rcases hrun : (writeModules system [named "Foo" 2, named "Foo_1" 3, named "Foo" 4] (Path.ofText "out") false).run.run t
    with ⟨r, t'⟩
  obtain ⟨hkept, hwritten, -⟩ := writeModules_unclobbered _ (Path.ofText "out") (Path.named_ofText _) t t' r hrun
  have hr : ((writeModules system [named "Foo" 2, named "Foo_1" 3, named "Foo" 4] (Path.ofText "out") false).run.run t).1 =
      .ok [Path.ofText "out/Foo_1.dll", Path.ofText "out/Foo_1_1.dll", Path.ofText "out/Foo_2.dll"] := by decide +kernel
  rw [hrun] at hr
  dsimp only at hr
  subst hr
  obtain ⟨-, -, hread, -⟩ := hwritten _ rfl
  simp only [List.forall₂_cons] at hread
  exact ⟨t', rfl, hkept _ _ (by decide +kernel), hread.2.2.1⟩

end Tree

end Unbundle
