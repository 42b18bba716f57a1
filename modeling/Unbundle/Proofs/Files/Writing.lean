import Unbundle.Files.Output
import Unbundle.Proofs.Files.Path
import Unbundle.Proofs.Files.Tree
import Unbundle.Proofs.Text
/-
Writing modules into a directory of a tree.

For each module a path is chosen, and the module's content is written there. Unless files may be replaced, nothing stands where
the path leads: it is the path of the module's own name, or that of the name with the least number that is free in the
directory.

`Kept` tells what some writes leave behind: at each place there is what was written there last, and without leave to replace
files no two writes were to one place. It holds of one write, and it is handed on from the parts of a run to the whole of it.

Results:
- `numbered_freeNumber_not_mem`: there is always a free number.
- `freePath_run`: without leave to replace files a path is chosen that leads to nothing yet.
- `paths_of_writeModules`: with leave to replace files each module goes to the path of its own name.
- `Kept.append`: what two runs leave behind, one after the other.
- `writes_writeModules`: the modules are written in order, all of them or those before a failure.
-/
namespace Unbundle

/-- what a sequence of writes leaves at a place: the content that was written there last -/
def Tree.lastAt (t : Tree) (q : Place) : List (Path × Bytes) → Option Bytes
  | [] => none
  | entry :: rest => (t.lastAt q rest).or (if t.place entry.1 = .ok q then some entry.2 else none)

namespace Output

theorem numbered_injective (stem suffix : String) : Function.Injective (numbered stem suffix) := by
  intro m n h
  have hlist : (Text.decimal m).toList = (Text.decimal n).toList := by
    have := congrArg String.toList h
    simpa [numbered] using this
  exact Text.decimal_injective (String.toList_inj.1 hlist)

/-- the least free number gives a name that is not taken: among more names than are taken one is free -/
theorem numbered_freeNumber_not_mem (taken : List String) (stem suffix : String) :
    numbered stem suffix (freeNumber taken stem suffix) ∉ taken := by
  rcases hfind : (List.range' 1 (taken.length + 1)).find? fun n => !taken.contains (numbered stem suffix n) with _ | n
  · -- all of the numbers would be taken, and they are more than the names
    have hall : (List.range' 1 (taken.length + 1)).map (numbered stem suffix) ⊆ taken := by
      intro name hname
      obtain ⟨n, hn, rfl⟩ := List.mem_map.1 hname
      simpa using List.find?_eq_none.1 hfind n hn
    have hnodup : ((List.range' 1 (taken.length + 1)).map (numbered stem suffix)).Nodup :=
      (List.nodup_range' 1).map (numbered_injective stem suffix)
    have hle := (hnodup.subperm hall).length_le
    simp at hle
  · rw [freeNumber, hfind]
    simpa using List.find?_some hfind

/-- the paths that may be chosen for a name in a directory: the name's own path, or one with a number in its last component -/
inductive Choice (directory : Path) (name : String) : Path → Prop
  | own : Choice directory name (directory.child name)
  | numbered (n : Nat) :
      Choice directory name (directory.child (numbered (directory.child name).stem (directory.child name).suffix n))

theorem numbered_ne_dots (stem suffix : String) (n : Nat) : numbered stem suffix n ≠ ".." := by
  intro heq
  have hmem : '_' ∈ (numbered stem suffix n).toList := by simp [numbered]
  rw [heq] at hmem
  simp at hmem

/-- a numbered name is one component -/
theorem ofText_numbered {p : Path} (hp : p.Named) (n : Nat) :
    Path.ofText (numbered p.stem p.suffix n) = ⟨.here, [numbered p.stem p.suffix n]⟩ := by
  have hstem : '/' ∉ p.stem.toList := fun h => (Path.subset_of_splitName (.inl h)).elim hp (by decide)
  have hsuffix : '/' ∉ p.suffix.toList := fun h => (Path.subset_of_splitName (.inr h)).elim hp (by decide)
  have hdigits : '/' ∉ Nat.toDigits 10 n := fun h => absurd (Nat.isDigit_of_mem_toDigits (by decide) (by decide) h) (by decide)
  refine Path.ofText_of_not_mem ?_ ?_ ?_
  · simp [numbered, Text.decimal, hstem, hsuffix, hdigits]
  · simp [numbered]
  · intro h
    have hmem : '_' ∈ (numbered p.stem p.suffix n).toList := by simp [numbered]
    rw [h] at hmem
    simp at hmem

section

variable {σ : Type} {fs : FileSystem (StateM σ)} {directory : Path} {infos : List AssemblyInfo} {w w' : σ} {paths : List Path}

/-- where files may be replaced each module goes to the path of its own name -/
theorem paths_of_writeEach (h : (writeEach fs directory true infos).run.run w = (.ok paths, w')) :
    paths = infos.map fun info => directory.child info.fileName := by
  induction infos generalizing w paths with
  | nil =>
    cases h
    rfl
  | cons info rest ih =>
    have hfree : (freePath fs directory info.fileName true).run.run w = (.ok (directory.child info.fileName), w) := rfl
    rw [writeEach, run_bind_ok hfree] at h
    rcases hwrite : (fs.write (directory.child info.fileName) info.data).run.run w with ⟨cause | done, w₁⟩
    · rw [run_bind_error hwrite] at h
      cases h
    rw [run_bind_ok hwrite] at h
    rcases hrest : (writeEach fs directory true rest).run.run w₁ with ⟨cause | others, w₂⟩
    · rw [run_bind_error hrest] at h
      cases h
    · rw [run_bind_ok hrest] at h
      cases h
      rw [ih hrest, List.map_cons]

theorem paths_of_writeModules (h : (writeModules fs infos directory true).run.run w = (.ok paths, w')) :
    paths = infos.map fun info => directory.child info.fileName := by
  rw [writeModules] at h
  rcases hmake : (fs.makeDirectories directory).run.run w with ⟨cause | made, w₁⟩
  · rw [run_bind_error hmake] at h
    cases h
  · rw [run_bind_ok hmake] at h
    exact paths_of_writeEach h

end

end Output

namespace Tree

variable {t t' t₁ t₂ : Tree} {p directory : Path} {q out : Place} {overwrite : Bool} {content : Bytes}
  {entries later : List (Path × Bytes)}

/-- the names in a directory are those at which something stands -/
theorem mem_names (hplace : t.place directory = .ok out) (hout : t.entry? out = some .directory) {name : String} {e : TreeEntry}
    (h : t.entry? (out ++ [name]) = some e) : name ∈ t.names directory := by
  have hentry : (out ++ [name], e) ∈ t.entries := by
    rw [entry?_of_ne_root (by simp)] at h
    obtain ⟨front, back, heq, -⟩ := List.lookup_eq_some_iff.1 h
    simp [heq]
  have hbelow : ([name], e) ∈ t.entriesBelow directory := by
    rw [entriesBelow, hplace]
    simp only [hout, ne_eq, not_true_eq_false, if_false, List.mem_filterMap]
    exact ⟨_, hentry, by simp [below?]⟩
  rw [names, List.mem_filterMap]
  exact ⟨_, hbelow, rfl⟩

/-- the place of what is seen from a directory is found from the directory's own place -/
theorem place_child (hplace : t.place directory = .ok out) {text : String} (h : t.place (directory.child text) = .ok q) :
    q = out.followPath (Path.ofText text) := by
  rw [place_eq_follow h, Path.child, Place.followPath_join, ← place_eq_follow hplace]

/-- a name with a number leads to a direct child of the directory -/
theorem place_child_numbered (hplace : t.place directory = .ok out) {named : Path} (hnamed : named.Named) {n : Nat}
    (h : t.place (directory.child (Output.numbered named.stem named.suffix n)) = .ok q) :
    q = out ++ [Output.numbered named.stem named.suffix n] := by
  have hdots : Output.numbered named.stem named.suffix n ≠ ".." := Output.numbered_ne_dots _ _ _
  rw [place_child hplace h, Output.ofText_numbered hnamed, Place.followPath, Place.follow]
  simp [Path.absolute, hdots]

/-- choosing a path without leave to replace files: the name's own path if nothing is there, or the path with the number that is
free by the names in the directory -/
theorem freePath_cases (directory : Path) (name : String) (t : Tree) :
    ∃ r, (Output.freePath system directory name false).run.run t = (r, t) ∧ ∀ p, r = .ok p →
      (t.kind? (directory.child name) = .ok none ∧ directory.child name = p) ∨
      ∃ kind, t.kind? (directory.child name) = .ok (some kind) ∧
        directory.child (Output.numbered (directory.child name).stem (directory.child name).suffix
          (Output.freeNumber (t.names directory) (directory.child name).stem (directory.child name).suffix)) = p := by
  unfold Output.freePath
  dsimp only
  rw [if_neg Bool.false_ne_true]
  have hkind := run_kind (directory.child name) t
  rcases hlook : t.kind? (directory.child name) with fault | kind
  · rw [hlook] at hkind
    exact ⟨_, run_bind_error hkind, by simp⟩
  rw [hlook] at hkind
  rw [run_bind_ok hkind]
  cases kind with
  | none =>
    refine ⟨_, rfl, fun p hp => ?_⟩
    cases hp
    exact .inl ⟨rfl, rfl⟩
  | some kind =>
    have hnames : (liftM (system.names directory) : FileAction (StateM Tree) (List String)).run.run t =
        (.ok (t.names directory), t) := rfl
    rw [if_neg (by simp), run_bind_ok hnames]
    generalize hfree : directory.child (Output.numbered (directory.child name).stem (directory.child name).suffix
      (Output.freeNumber (t.names directory) (directory.child name).stem (directory.child name).suffix)) = free
    have hlast : (discard (system.kind? free) : FileAction (StateM Tree) Unit).run.run t =
        ((t.kind? free).map fun _ => (), t) := run_discard (run_kind free t)
    rcases hcheck : t.kind? free with fault | found
    · rw [hcheck] at hlast
      exact ⟨.error fault, run_bind_error hlast, by simp⟩
    rw [hcheck] at hlast
    exact ⟨.ok free, run_bind_ok hlast, fun p hp => .inr ⟨kind, rfl, Except.ok.inj hp⟩⟩

/-- choosing a path for a name looks at the tree only; unless files may be replaced, nothing stands where the path leads -/
theorem freePath_run (directory : Path) (name : String) (overwrite : Bool) (t : Tree) :
    ∃ r, (Output.freePath system directory name overwrite).run.run t = (r, t) ∧ ∀ p, r = .ok p →
      Output.Choice directory name p ∧ (overwrite = false → ∀ out, t.place directory = .ok out →
        t.entry? out = some .directory → (directory.child name).Named → ∀ q, t.place p = .ok q → t.entry? q = none) := by
  cases overwrite with
  | true =>
    unfold Output.freePath
    dsimp only
    rw [if_pos rfl]
    refine ⟨_, rfl, fun p hp => ?_⟩
    cases hp
    exact ⟨.own, by simp⟩
  | false =>
    obtain ⟨r, hrun, hchosen⟩ := freePath_cases directory name t
    refine ⟨r, hrun, fun p hp => ?_⟩
    rcases hchosen p hp with ⟨hfree, rfl⟩ | ⟨kind, -, rfl⟩
    · exact ⟨.own, fun _ _ _ _ _ q hq => kind?_eq_none hfree hq⟩
    refine ⟨.numbered _, fun _ out hplace hout hnamed q hq => ?_⟩
    -- the number is chosen by the names that are taken, and they are all that stand in the directory
    rw [place_child_numbered hplace hnamed hq]
    by_contra hsome
    obtain ⟨e, he⟩ := Option.ne_none_iff_exists'.1 hsome
    exact Output.numbered_freeNumber_not_mem _ _ _ (mem_names hplace hout he)

/-! ## What writing leaves behind -/

/-- what a sequence of writes leaves behind: each path holds what was written there last, and without leave to replace files
every path led to a place of its own where no file was -/
structure Kept (overwrite : Bool) (t : Tree) (entries : List (Path × Bytes)) (t' : Tree) : Prop where
  grows : Grows t t'
  place : ∀ entry ∈ entries, ∃ q, t'.place entry.1 = .ok q
  content : ∀ q, t'.content? q = (t'.lastAt q entries).or (t.content? q)
  apart : overwrite = false → entries.Pairwise fun a b => t'.place a.1 ≠ t'.place b.1
  fresh : overwrite = false → ∀ entry ∈ entries, ∀ q, t'.place entry.1 = .ok q → t.content? q = none

theorem lastAt_append (t : Tree) (q : Place) (entries later : List (Path × Bytes)) :
    t.lastAt q (entries ++ later) = (t.lastAt q later).or (t.lastAt q entries) := by
  induction entries with
  | nil => simp [lastAt]
  | cons entry rest ih => rw [List.cons_append, lastAt, ih, lastAt, Option.or_assoc]

theorem lastAt_eq_none (h : ∀ entry ∈ entries, t.place entry.1 ≠ .ok q) : t.lastAt q entries = none := by
  induction entries with
  | nil => rfl
  | cons entry rest ih =>
    rw [lastAt, ih fun e he => h e (List.mem_cons_of_mem entry he), if_neg (h entry List.mem_cons_self), Option.or_none]

theorem lastAt_isSome {entry : Path × Bytes} (hmem : entry ∈ entries) (hplace : t.place entry.1 = .ok q) :
    (t.lastAt q entries).isSome := by
  induction entries with
  | nil => simp at hmem
  | cons head rest ih =>
    rw [lastAt, Option.isSome_or]
    rcases List.mem_cons.1 hmem with rfl | hrest
    · simp [hplace]
    · simp [ih hrest]

/-- where the paths are told by a tree that has grown nothing is told otherwise -/
theorem Grows.lastAt_eq (h : Grows t t') (hplace : ∀ entry ∈ entries, ∃ q, t.place entry.1 = .ok q) (q : Place) :
    t'.lastAt q entries = t.lastAt q entries := by
  induction entries with
  | nil => rfl
  | cons entry rest ih =>
    obtain ⟨place, hentry⟩ := hplace entry List.mem_cons_self
    rw [lastAt, lastAt, ih fun e he => hplace e (List.mem_cons_of_mem entry he), h.place_eq hentry, hentry]

namespace Kept

/-- no file is written -/
theorem of_makes {outcome : Except FileError Unit × Tree} (h : Makes p t outcome) : Kept overwrite t [] outcome.2 :=
  ⟨h.grows, by simp, fun q => by rw [h.content]; rfl, fun _ => .nil, by simp⟩

theorem refl (overwrite : Bool) (t : Tree) : Kept overwrite t [] t :=
  ⟨Grows.refl t, by simp, fun _ => rfl, fun _ => .nil, by simp⟩

/-- one file is written -/
theorem write (h : t.write p content = .ok t') (hfree : overwrite = false → ∀ q, t.place p = .ok q → t.entry? q = none) :
    Kept overwrite t [(p, content)] t' := by
  obtain ⟨place, hplace, hroot, -, rfl, hgrows⟩ := eq_put_of_write h
  have hplace' := hgrows.place_eq hplace
  refine ⟨hgrows, by simp [hplace'], fun q => ?_, fun _ => List.pairwise_singleton _ _, fun hno entry hentry q hq => ?_⟩
  · rw [lastAt, lastAt, Option.none_or, hplace']
    by_cases hq : place = q
    · subst hq
      rw [if_pos rfl, content?, entry?_put_self hroot]
      rfl
    · rw [if_neg (by simpa using hq), content?, content?, entry?_put_of_ne (Ne.symm hq)]
      rfl
  · rw [List.mem_singleton.1 hentry, hplace'] at hq
    cases hq
    exact content?_of_none (hfree hno _ hplace)

/-- the writes of two parts of a run, one after the other -/
theorem append (h : Kept overwrite t entries t₁) (h' : Kept overwrite t₁ later t₂) :
    Kept overwrite t (entries ++ later) t₂ where
  grows := h.grows.trans h'.grows
  place entry hentry := by
    rcases List.mem_append.1 hentry with hfirst | hlater
    · obtain ⟨q, hq⟩ := h.place entry hfirst
      exact ⟨q, h'.grows.place_eq hq⟩
    · exact h'.place entry hlater
  content q := by
    rw [lastAt_append, h'.content, h.content, Option.or_assoc, h'.grows.lastAt_eq h.place]
  apart hno := by
    refine List.pairwise_append.2 ⟨?_, h'.apart hno, fun a ha b hb heq => ?_⟩
    · refine (List.Pairwise.and_mem.1 (h.apart hno)).imp fun {a b} hab => ?_
      obtain ⟨qa, ha⟩ := h.place a hab.1
      obtain ⟨qb, hb⟩ := h.place b hab.2.1
      have hne := hab.2.2
      rw [ha, hb] at hne
      rwa [h'.grows.place_eq ha, h'.grows.place_eq hb]
    · -- what the first part wrote the second part found there
      obtain ⟨q, hq⟩ := h.place a ha
      have hthere := h'.fresh hno b hb q (heq ▸ h'.grows.place_eq hq)
      have hsome := lastAt_isSome ha hq
      rw [h.content] at hthere
      simp [Option.or_eq_none_iff.1 hthere] at hsome
  fresh hno entry hentry q hq := by
    rcases List.mem_append.1 hentry with hfirst | hlater
    · obtain ⟨place, hplace⟩ := h.place entry hfirst
      rw [h'.grows.place_eq hplace] at hq
      cases hq
      exact h.fresh hno entry hfirst _ hplace
    · exact h.grows.file q (h'.fresh hno entry hlater q hq)

end Kept

/-- the writes that are done for modules in a directory -/
def WritesFor (directory : Path) (entries : List (Path × Bytes)) (infos : List AssemblyInfo) : Prop :=
  List.Forall₂ (fun entry info => Output.Choice directory info.fileName entry.1 ∧ entry.2 = info.data) entries infos

/-- what comes of writing modules: the first of them are written, all of them after a success -/
def Writes (overwrite : Bool) (directory : Path) (infos : List AssemblyInfo) (t : Tree)
    (outcome : Except FileError (List Path) × Tree) : Prop :=
  ∃ entries done rest, Kept overwrite t entries outcome.2 ∧ infos = done ++ rest ∧ WritesFor directory entries done ∧
    ∀ written, outcome.1 = .ok written → rest = [] ∧ written = entries.map (·.1)

/-- writing ends before anything is written -/
theorem Writes.failed {infos : List AssemblyInfo} {cause : FileError} (h : Kept overwrite t [] t') :
    Writes overwrite directory infos t (.error cause, t') :=
  ⟨[], [], infos, h, rfl, .nil, by simp⟩

/-- one more module is written before the others -/
theorem Writes.cons {info : AssemblyInfo} {infos : List AssemblyInfo} {outcome : Except FileError (List Path) × Tree}
    (hchoice : Output.Choice directory info.fileName p) (hkept : Kept overwrite t [(p, info.data)] t₁)
    (h : Writes overwrite directory infos t₁ outcome) :
    Writes overwrite directory (info :: infos) t (outcome.1.map (p :: ·), outcome.2) := by
  obtain ⟨entries, done, rest, hrest, rfl, hfor, hall⟩ := h
  refine ⟨(p, info.data) :: entries, info :: done, rest, hkept.append hrest, rfl, .cons ⟨hchoice, rfl⟩ hfor, ?_⟩
  intro written hwritten
  rcases hresult : outcome.1 with cause | others
  · rw [hresult] at hwritten
    cases hwritten
  · rw [hresult] at hwritten
    cases hwritten
    obtain ⟨hnil, rfl⟩ := hall others hresult
    exact ⟨hnil, rfl⟩

/-- modules are written one after the other into a directory that is there -/
theorem writes_writeEach {infos : List AssemblyInfo} (hplace : t.place directory = .ok out)
    (hout : t.entry? out = some .directory) (hnamed : ∀ info ∈ infos, (directory.child info.fileName).Named) :
    Writes overwrite directory infos t ((Output.writeEach system directory overwrite infos).run.run t) := by
  induction infos generalizing t with
  | nil => exact ⟨[], [], [], Kept.refl overwrite t, rfl, .nil, fun written hwritten => ⟨rfl, (Except.ok.inj hwritten).symm⟩⟩
  | cons info rest ih =>
    rw [Output.writeEach]
    obtain ⟨r, hfree, hchosen⟩ := freePath_run directory info.fileName overwrite t
    rcases r with cause | target
    · rw [run_bind_error hfree]
      exact Writes.failed (Kept.refl overwrite t)
    obtain ⟨hchoice, hfresh⟩ := hchosen target rfl
    rw [run_bind_ok hfree]
    rcases hwrite : t.write target info.data with cause | t₁
    · rw [run_bind_error (run_write_error hwrite)]
      exact Writes.failed (Kept.refl overwrite t)
    have hkept : Kept overwrite t [(target, info.data)] t₁ := Kept.write hwrite fun hno =>
      hfresh hno out hplace hout (hnamed info List.mem_cons_self)
    have hrest := ih (hkept.grows.place_eq hplace) (hkept.grows.directory out hout)
      fun i hi => hnamed i (List.mem_cons_of_mem info hi)
    rw [run_bind_ok (run_write_ok hwrite)]
    rcases hlater : (Output.writeEach system directory overwrite rest).run.run t₁ with ⟨cause | others, t₂⟩
    · rw [run_bind_error hlater]
      rw [hlater] at hrest
      exact Writes.cons hchoice hkept hrest
    · rw [run_bind_ok hlater]
      rw [hlater] at hrest
      exact Writes.cons hchoice hkept hrest

/-- modules are written into a directory that is made for them; where that fails no file is changed -/
theorem writes_writeModules {infos : List AssemblyInfo} (hnamed : ∀ info ∈ infos, (directory.child info.fileName).Named)
    {r : Except FileError (List Path)} (h : (Output.writeModules system infos directory overwrite).run.run t = (r, t')) :
    Writes overwrite directory infos t (r, t') ∧ ((∀ q, t'.content? q = t.content? q) ∨
      ∃ out, t'.place directory = .ok out ∧ entry? t' out = some .directory) := by
  rw [Output.writeModules] at h
  have hmakes := makes_makeDirectories directory t
  rcases hmake : (system.makeDirectories directory).run.run t with ⟨cause | done, t₁⟩
  · rw [hmake] at hmakes
    rw [run_bind_error hmake] at h
    cases h
    exact ⟨Writes.failed (Kept.of_makes hmakes), .inl hmakes.content⟩
  rw [hmake] at hmakes
  rw [run_bind_ok hmake] at h
  obtain ⟨out, hplace, hout⟩ := hmakes.directory rfl
  have hwrites : Writes overwrite directory infos t₁ _ := writes_writeEach hplace hout hnamed
  obtain ⟨entries, done, rest, hkept, hinfos, hfor, hall⟩ := hwrites
  rw [h] at hkept hall
  refine ⟨⟨entries, done, rest, (Kept.of_makes hmakes).append hkept, hinfos, hfor, hall⟩, .inr ⟨out, ?_, ?_⟩⟩
  · exact hkept.grows.place_eq hplace
  · exact hkept.grows.directory out hout

end Tree

end Unbundle
