import Mathlib
import Unbundle.Files.Tree
/-
How a tree of files changes.

Nothing that is done to a tree takes anything out of it: a directory stays a directory, and a file stays a file, be it with
another content. `Grows` says so. A path that leads to a place goes on leading there, so that the places of paths may be told by
the tree at the end of a run.

Where a path leads can be told without the tree, if it leads anywhere: `Place.follow` takes its components one by one, and two
dots take away the one before them.

Results:
- `place_eq_follow`: the place of a path is where its components lead.
- `Grows.place_eq`: in a tree that has grown a path leads where it led before.
- `eq_put_of_write`: a file that is written changes what stands at its place, and nothing else.
- `makes_makeDirectories`: making directories changes no file, and if it succeeds there is a directory.
-/
namespace Unbundle

/-! ## Places -/

/-- the place that components lead to from another one: two dots lead one directory up, and not beyond the root -/
def Place.follow (start : Place) (parts : List String) : Place :=
  parts.foldl (fun place part => if part = ".." then place.dropLast else place ++ [part]) start

/-- the place that a path leads to from a directory -/
def Place.followPath (start : Place) (p : Path) : Place := Place.follow (if p.absolute then [] else start) p.parts

/-- a path that is seen from a directory leads on from the directory's place -/
theorem Place.followPath_join (start : Place) (directory p : Path) :
    Place.followPath start (directory.join p) = Place.followPath (Place.followPath start directory) p := by
  rw [Path.join]
  split_ifs with hp
  · simp only [followPath, hp, if_true]
  · have habsolute : Path.absolute { directory with parts := directory.parts ++ p.parts } = directory.absolute := rfl
    simp only [followPath, hp, habsolute, Bool.false_eq_true, if_false]
    exact List.foldl_append

/-! ## Actions -/

section

variable {σ α β : Type} {w w₁ : σ} {x : FileAction (StateM σ) α} {f : α → FileAction (StateM σ) β}
  {handler : FileError → FileAction (StateM σ) α} {a : α} {cause : FileError}

theorem run_bind_ok (h : x.run.run w = (.ok a, w₁)) : (x >>= f).run.run w = (f a).run.run w₁ := by
  simp only [ExceptT.run_bind, StateT.run_bind, h]
  rfl

theorem run_bind_error (h : x.run.run w = (.error cause, w₁)) : (x >>= f).run.run w = (.error cause, w₁) := by
  simp only [ExceptT.run_bind, StateT.run_bind, h]
  rfl

theorem run_tryCatch_ok (h : x.run.run w = (.ok a, w₁)) : (tryCatch x handler).run.run w = (.ok a, w₁) := by
  simp only [ExceptT.run_tryCatch, StateT.run_bind, h]
  rfl

theorem run_tryCatch_error (h : x.run.run w = (.error cause, w₁)) :
    (tryCatch x handler).run.run w = (handler cause).run.run w₁ := by
  simp only [ExceptT.run_tryCatch, StateT.run_bind, h]
  rfl

theorem run_discard {r : Except FileError α} (h : x.run.run w = (r, w₁)) :
    (discard x : FileAction (StateM σ) Unit).run.run w = (r.map fun _ => (), w₁) := by
  show (x >>= fun _ => pure ()).run.run w = _
  rcases r with cause | a
  · exact run_bind_error h
  · exact run_bind_ok h

end

namespace Tree

variable {t t' t₁ t₂ : Tree} {p : Path} {q place : Place} {e : TreeEntry} {content : Bytes}

@[simp] theorem entry?_root (t : Tree) : t.entry? [] = some .directory := if_pos rfl

theorem entry?_of_ne_root (h : place ≠ []) : t.entry? place = t.entries.lookup place := if_neg h

/-- the content of the file at a place, if there is a file -/
def content? (t : Tree) (place : Place) : Option Bytes :=
  match t.entry? place with
  | some (.file content) => some content
  | _ => none

theorem content?_eq_some : t.content? place = some content ↔ t.entry? place = some (.file content) := by
  unfold content?
  split <;> simp_all

theorem content?_of_directory (h : t.entry? place = some .directory) : t.content? place = none := by
  rw [content?, h]

theorem content?_of_none (h : t.entry? place = none) : t.content? place = none := by
  rw [content?, h]

theorem entry?_put_self (h : place ≠ []) : entry? (t.put place e) place = some e := by
  rw [entry?_of_ne_root h, put, List.lookup_cons_self]

theorem entry?_put_of_ne (h : q ≠ place) : entry? (t.put place e) q = t.entry? q := by
  rcases eq_or_ne q [] with rfl | hroot
  · rw [entry?_root, entry?_root]
  have hlookup : ∀ entries : List (Place × TreeEntry), (entries.filter (·.1 ≠ place)).lookup q = entries.lookup q := by
    intro entries
    induction entries with
    | nil => rfl
    | cons entry rest ih =>
      obtain ⟨key, value⟩ := entry
      by_cases hkey : key = place
      · subst hkey
        rw [List.filter_cons_of_neg (by simp), ih, List.lookup_cons, beq_false_of_ne h]
      · rw [List.filter_cons_of_pos (by simpa using hkey), List.lookup_cons, List.lookup_cons, ih]
  rw [entry?_of_ne_root hroot, entry?_of_ne_root hroot, put, List.lookup_cons, beq_false_of_ne h, hlookup]

/-! ## Growing -/

/-- nothing was taken out of a tree: directories are directories still, and files are files -/
structure Grows (t t' : Tree) : Prop where
  working : t'.working = t.working
  directory : ∀ q, t.entry? q = some .directory → entry? t' q = some .directory
  file : ∀ q, t'.content? q = none → t.content? q = none

theorem Grows.refl (t : Tree) : Grows t t := ⟨rfl, fun _ => id, fun _ => id⟩

theorem Grows.trans (h : Grows t t₁) (h' : Grows t₁ t₂) : Grows t t₂ :=
  ⟨h'.working.trans h.working, fun q hq => h'.directory q (h.directory q hq), fun q hq => h.file q (h'.file q hq)⟩

/-- what is put where nothing stood, or a file in the place of another one, takes nothing away -/
theorem grows_put (h : t.entry? place = none ∨ (∃ old new, t.entry? place = some (.file old) ∧ e = .file new)) :
    Grows t (t.put place e) where
  working := rfl
  directory q hq := by
    rw [entry?_put_of_ne, hq]
    rintro rfl
    rcases h with h | ⟨old, new, h, -⟩ <;> simp [h] at hq
  file q hq := by
    by_cases hplace : q = place
    · subst hplace
      rcases h with h | ⟨old, new, hold, rfl⟩
      · exact content?_of_none h
      · have hroot : q ≠ [] := by
          rintro rfl
          simp at hold
        simp [content?, entry?_put_self hroot] at hq
    · rwa [content?, entry?_put_of_ne hplace] at hq

theorem walk_eq_follow {start : Place} {parts : List String} (h : t.walk start parts = .ok q) :
    q = Place.follow start parts := by
  induction parts generalizing start with
  | nil =>
    cases h
    rfl
  | cons part rest ih =>
    rw [walk] at h
    split_ifs at h with hlong hdots
    all_goals
      dsimp only at h
      split at h
      · cases h
        simp [Place.follow, hdots]
      · split at h
        · rw [ih h, Place.follow, Place.follow, List.foldl_cons]
          simp [hdots]
        · cases h
        · cases h

theorem place_eq_ok (h : t.place p = .ok q) : ¬ p.holdsZero ∧ ¬ pathLimit < p.toText.utf8ByteSize ∧
    t.walk (if p.absolute then [] else t.working) p.parts = .ok q := by
  unfold place at h
  split at h
  · cases h
  next hzero =>
  split at h
  · cases h
  · next hlong => exact ⟨hzero, hlong, h⟩

/-- the place of a path is where its components lead -/
theorem place_eq_follow (h : t.place p = .ok q) : q = Place.followPath t.working p := by
  obtain ⟨-, -, hwalk⟩ := place_eq_ok h
  exact walk_eq_follow hwalk

/-- in a tree that has grown components lead where they led before -/
theorem Grows.walk_eq (h : Grows t t') {start : Place} {parts : List String} (hwalk : t.walk start parts = .ok q) :
    t'.walk start parts = .ok q := by
  induction parts generalizing start with
  | nil => exact hwalk
  | cons part rest ih =>
    rw [walk] at hwalk ⊢
    split_ifs at hwalk ⊢ with hlong hdots
    all_goals
      dsimp only at hwalk ⊢
      cases rest with
      | nil => exact hwalk
      | cons next more =>
        dsimp only at hwalk ⊢
        split at hwalk
        · next hdirectory =>
          rw [h.directory _ hdirectory]
          exact ih hwalk
        · cases hwalk
        · cases hwalk

/-- in a tree that has grown a path leads where it led before -/
theorem Grows.place_eq (h : Grows t t') (hplace : t.place p = .ok q) : t'.place p = .ok q := by
  obtain ⟨hzero, hlong, hwalk⟩ := place_eq_ok hplace
  rw [place, if_neg hzero, if_neg hlong, h.working]
  exact h.walk_eq hwalk

/-! ## Operations on a tree -/

/-- a file that is written changes what stands at its place, and nothing else -/
theorem eq_put_of_write (h : t.write p content = .ok t') : ∃ q, t.place p = .ok q ∧ q ≠ [] ∧
    t.entry? q ≠ some .directory ∧ t' = t.put q (.file content) ∧ Grows t t' := by
  unfold write at h
  split at h
  · cases h
  next q hq =>
  have hroot : ∀ e, t.entry? q = e → e ≠ some .directory → q ≠ [] := by
    rintro e rfl he rfl
    exact he rfl
  refine ⟨q, hq, ?_⟩
  split at h
  · cases h
  · next old hold =>
    cases h
    exact ⟨hroot _ hold (by simp), by simp [hold], rfl, grows_put (.inr ⟨old, content, hold, rfl⟩)⟩
  · next hnone =>
    split at h
    · cases h
      exact ⟨hroot _ hnone (by simp), by simp [hnone], rfl, grows_put (.inl hnone)⟩
    · cases h
    · cases h

/-- a directory that is made stands where nothing stood, and nothing else is changed -/
theorem eq_put_of_makeDirectory (h : t.makeDirectory p = .ok t') : ∃ q, t.place p = .ok q ∧ t.entry? q = none ∧ q ≠ [] ∧
    t' = t.put q .directory ∧ Grows t t' := by
  unfold makeDirectory at h
  split at h
  · cases h
  next q hq =>
  split at h
  · cases h
  next hnone =>
  have hroot : q ≠ [] := by
    rintro rfl
    simp at hnone
  split at h
  · cases h
    exact ⟨q, hq, hnone, hroot, rfl, grows_put (.inl hnone)⟩
  · cases h
  · cases h

theorem kind?_eq_none (h : t.kind? p = .ok none) (hplace : t.place p = .ok q) : t.entry? q = none := by
  rw [kind?, hplace] at h
  dsimp only at h
  split at h
  · cases h
  · cases h
  · next hnone => exact hnone

theorem kind?_of_none (hplace : t.place p = .ok q) (hq : t.entry? q = none) : t.kind? p = .ok none := by
  rw [kind?, hplace]
  dsimp only
  rw [hq]

theorem kind?_eq_some (hplace : t.place p = .ok q) (hq : t.entry? q ≠ none) : ∃ kind, t.kind? p = .ok (some kind) := by
  rw [kind?, hplace]
  dsimp only
  split
  · exact ⟨_, rfl⟩
  · exact ⟨_, rfl⟩
  · next hnone => exact absurd hnone hq

theorem place_of_kind? {kind : FileKind} (h : t.kind? p = .ok (some kind)) : ∃ q, t.place p = .ok q ∧ t.entry? q ≠ none := by
  unfold kind? at h
  split at h
  · cases h
  · cases h
  next q hq =>
  refine ⟨q, hq, fun hnone => ?_⟩
  rw [hnone] at h
  cases h

/-- what is at a path in a tree is there when the tree has grown -/
theorem Grows.kind?_eq_some (h : Grows t t') {kind : FileKind} (hkind : t.kind? p = .ok (some kind)) :
    ∃ kind', t'.kind? p = .ok (some kind') := by
  obtain ⟨q, hq, hsome⟩ := place_of_kind? hkind
  refine Tree.kind?_eq_some (h.place_eq hq) fun hnone => ?_
  obtain ⟨e, he⟩ := Option.ne_none_iff_exists'.1 hsome
  cases e with
  | directory => simp [h.directory q he] at hnone
  | file content =>
    have hgone := h.file q (content?_of_none hnone)
    rw [content?_eq_some.2 he] at hgone
    cases hgone

theorem kind?_eq_directory (h : t.kind? p = .ok (some .directory)) :
    ∃ q, t.place p = .ok q ∧ t.entry? q = some .directory := by
  unfold kind? at h
  split at h
  · cases h
  · cases h
  next q hq =>
  split at h
  · next hdirectory => exact ⟨q, hq, hdirectory⟩
  · cases h
  · cases h

/-! ## Operations as actions -/

section

variable {cause : FileError}

theorem run_commit_ok {change : Tree → Except FileError Tree} (h : change t = .ok t') :
    (commit change).run.run t = (.ok (), t') := by
  dsimp only [commit, ExceptT.run, ExceptT.mk, StateT.run]
  rw [h]

theorem run_commit_error {change : Tree → Except FileError Tree} (h : change t = .error cause) :
    (commit change).run.run t = (.error cause, t) := by
  dsimp only [commit, ExceptT.run, ExceptT.mk, StateT.run]
  rw [h]

theorem run_kind (p : Path) (t : Tree) : (system.kind? p).run.run t = (t.kind? p, t) := rfl

theorem run_read (p : Path) (t : Tree) : (system.read p).run.run t = (t.read p, t) := rfl

theorem run_write_ok (h : t.write p content = .ok t') : (system.write p content).run.run t = (.ok (), t') := run_commit_ok h

theorem run_write_error (h : t.write p content = .error cause) :
    (system.write p content).run.run t = (.error cause, t) := run_commit_error h

theorem run_makeDirectory_ok (h : t.makeDirectory p = .ok t') : (system.makeDirectory p).run.run t = (.ok (), t') :=
  run_commit_ok h

theorem run_makeDirectory_error (h : t.makeDirectory p = .error cause) :
    (system.makeDirectory p).run.run t = (.error cause, t) := run_commit_error h

end

/-! ## Making directories -/

theorem content?_makeDirectory (h : t.makeDirectory p = .ok t') : t'.content? q = t.content? q := by
  obtain ⟨place, -, hnone, hroot, rfl, -⟩ := eq_put_of_makeDirectory h
  by_cases hq : q = place
  · subst hq
    rw [content?_of_none hnone, content?_of_directory (entry?_put_self hroot)]
  · rw [content?, content?, entry?_put_of_ne hq]

/-- what comes of making a directory: no file is changed, and after a success there is a directory -/
structure Makes (p : Path) (t : Tree) (outcome : Except FileError Unit × Tree) : Prop where
  grows : Grows t outcome.2
  content : ∀ q, outcome.2.content? q = t.content? q
  directory : outcome.1 = .ok () → ∃ q, outcome.2.place p = .ok q ∧ entry? outcome.2 q = some .directory

theorem Makes.failed (p : Path) (t : Tree) (cause : FileError) : Makes p t (.error cause, t) :=
  ⟨Grows.refl t, fun _ => rfl, by simp⟩

/-- what is made from a tree that was made is made from the first one -/
theorem Makes.after {outcome : Except FileError Unit × Tree} (h : Makes p t₁ outcome) (hgrows : Grows t t₁)
    (hcontent : ∀ q, t₁.content? q = t.content? q) : Makes p t outcome :=
  ⟨hgrows.trans h.grows, fun q => (h.content q).trans (hcontent q), h.directory⟩

theorem makes_settle (p : Path) (cause : FileError) (t : Tree) : Makes p t ((system.settle p cause).run.run t) := by
  unfold FileSystem.settle
  split_ifs with hnotFound
  · exact Makes.failed p t cause
  dsimp only
  have hkind := run_kind p t
  rcases hlook : t.kind? p with fault | kind
  · rw [hlook] at hkind
    rw [run_bind_error hkind]
    exact Makes.failed p t fault
  · rw [hlook] at hkind
    rw [run_bind_ok hkind]
    split_ifs with hdirectory
    · exact ⟨Grows.refl t, fun _ => rfl, fun _ => kind?_eq_directory (hdirectory ▸ hlook)⟩
    · exact Makes.failed p t cause

/-- a directory is made, or what is done about the fault is done to the same tree -/
theorem makes_tryCatch {handler : FileError → FileAction (StateM Tree) Unit}
    (h : ∀ cause, Makes p t ((handler cause).run.run t)) :
    Makes p t ((tryCatch (system.makeDirectory p) handler).run.run t) := by
  rcases hmake : t.makeDirectory p with cause | t₁
  · rw [run_tryCatch_error (run_makeDirectory_error hmake)]
    exact h cause
  · rw [run_tryCatch_ok (run_makeDirectory_ok hmake)]
    obtain ⟨q, hq, -, hroot, rfl, hgrows⟩ := eq_put_of_makeDirectory hmake
    exact ⟨hgrows, fun q => content?_makeDirectory hmake, fun _ => ⟨q, hgrows.place_eq hq, entry?_put_self hroot⟩⟩

theorem makes_makeDirectoriesWithin (depth : Nat) (p : Path) (t : Tree) :
    Makes p t ((system.makeDirectoriesWithin depth p).run.run t) := by
  induction depth generalizing p t with
  | zero => exact makes_tryCatch fun cause => makes_settle p cause t
  | succ depth ih =>
    refine makes_tryCatch fun cause => ?_
    split_ifs with hsettle
    · exact makes_settle p cause t
    have hparent := ih p.parent t
    rcases hrun : (system.makeDirectoriesWithin depth p.parent).run.run t with ⟨fault | done, t₁⟩
    · rw [run_bind_error hrun]
      rw [hrun] at hparent
      exact ⟨hparent.grows, hparent.content, by simp⟩
    · rw [run_bind_ok hrun]
      rw [hrun] at hparent
      exact (makes_tryCatch fun cause => makes_settle p cause t₁).after hparent.grows hparent.content

/-- making a directory and those around it changes no file, and after a success there is a directory -/
theorem makes_makeDirectories (p : Path) (t : Tree) : Makes p t ((system.makeDirectories p).run.run t) :=
  makes_makeDirectoriesWithin _ p t

end Tree

end Unbundle
