import Unbundle.Proofs.Files.Writing
/-
What was written.

Nothing in a file system tells afterwards what was written to it. `recording` puts a list beside the files, to which a path is
added as soon as something came of writing to it: the write succeeded, or it failed and the files are not what they were. The
list changes nothing about the files: an action that does not write does the same with it and without it (`quietly`), and so does
the writing of modules, which only adds paths to the list.

A disk may refuse at any time. `Backs` says of a file system no more than that what succeeds is done to a tree of files, and that
what fails leaves the tree alone, except for a write that breaks off: then the file is there, whatever it holds. It answers
whatever it likes.

Results:
- `quietly_makeDirectories`, `quietly_freePath`: no path is listed before there is something to write.
- `noted_writeModules`: the listed paths are those of the first modules, in order, and of all of them after a success.
- `Accounts.writeModules`: the files that were created or changed are those to which the listed paths lead.
- `recorded_writeModules`: both of one run.
-/
namespace Unbundle

variable {σ α β : Type}

namespace FileSystem

/-- an action with a list beside the files that is left alone -/
def aside (x : StateM σ α) : StateM (σ × List Path) α := fun (w, listed) => ((x.run w).1, ((x.run w).2, listed))

/-- an action that may fail, with a list beside the files that is left alone -/
def quietly (x : FileAction (StateM σ) α) : FileAction (StateM (σ × List Path)) α := ExceptT.mk (aside x.run)

/-- an action after which a path is listed, unless it failed and left the files as they were -/
def noting (view : σ → Tree) (p : Path) (x : FileAction (StateM σ) α) : FileAction (StateM (σ × List Path)) α :=
  ExceptT.mk fun (w, listed) =>
    let (r, w₁) := x.run.run w
    (r, (w₁, if r.isOk ∨ view w₁ ≠ view w then listed ++ [p] else listed))

/-- a file system with a list of the paths to which something was written -/
def recording (fs : FileSystem (StateM σ)) (view : σ → Tree) : FileSystem (StateM (σ × List Path)) where
  kind? p := quietly (fs.kind? p)
  read p := quietly (fs.read p)
  write p content := noting view p (fs.write p content)
  touch p := noting view p (fs.touch p)
  makeDirectory p := quietly (fs.makeDirectory p)
  names p := aside (fs.names p)
  directoriesBelow p := aside (fs.directoriesBelow p)

variable {fs : FileSystem (StateM σ)} {view : σ → Tree} {w w₁ : σ} {listed : List Path} {x : FileAction (StateM σ) α}
  {r : Except FileError α} {p : Path}

/-! ## Actions that write nothing -/

theorem run_quietly (x : FileAction (StateM σ) α) (w : σ) (listed : List Path) :
    (quietly x).run.run (w, listed) = ((x.run.run w).1, ((x.run.run w).2, listed)) := rfl

theorem run_quietly_of (h : x.run.run w = (r, w₁)) : (quietly x).run.run (w, listed) = (r, (w₁, listed)) := by
  rw [run_quietly, h]

theorem run_noting (h : x.run.run w = (r, w₁)) : (noting view p x).run.run (w, listed) =
    (r, (w₁, if r.isOk ∨ view w₁ ≠ view w then listed ++ [p] else listed)) := by
  obtain ⟨rfl, rfl⟩ := Prod.mk.inj h.symm
  rfl

/-- what succeeds is listed -/
theorem run_noting_ok {a : α} (h : x.run.run w = (.ok a, w₁)) :
    (noting view p x).run.run (w, listed) = (.ok a, (w₁, listed ++ [p])) := by
  rw [run_noting h, if_pos (.inl rfl)]

/-- what fails is listed if it has changed the files -/
theorem run_noting_error {cause : FileError} (h : x.run.run w = (.error cause, w₁)) :
    (noting view p x).run.run (w, listed) = (.error cause, (w₁, listed ++ if view w₁ = view w then [] else [p])) := by
  rw [run_noting h]
  split_ifs with hlisted hsame
  · exact absurd hsame (hlisted.resolve_left (by simp [Except.isOk, Except.toBool]))
  · rfl
  · rw [List.append_nil]
  · next hchanged => exact absurd (.inr hchanged) hlisted

theorem quietly_bind (x : FileAction (StateM σ) α) (f : α → FileAction (StateM σ) β) :
    quietly (x >>= f) = quietly x >>= fun a => quietly (f a) := by
  refine ExceptT.ext (funext fun (w, listed) => ?_)
  show (quietly (x >>= f)).run.run (w, listed) = (quietly x >>= fun a => quietly (f a)).run.run (w, listed)
  rcases hx : x.run.run w with ⟨cause | a, w₁⟩
  · rw [run_bind_error (run_quietly_of hx), run_quietly, run_bind_error hx]
  · rw [run_bind_ok (run_quietly_of hx), run_quietly, run_quietly, run_bind_ok hx]

theorem quietly_tryCatch (x : FileAction (StateM σ) α) (handler : FileError → FileAction (StateM σ) α) :
    quietly (tryCatch x handler) = tryCatch (quietly x) fun cause => quietly (handler cause) := by
  refine ExceptT.ext (funext fun (w, listed) => ?_)
  show (quietly (tryCatch x handler)).run.run (w, listed) =
    (tryCatch (quietly x) fun cause => quietly (handler cause)).run.run (w, listed)
  rcases hx : x.run.run w with ⟨cause | a, w₁⟩
  · rw [run_tryCatch_error (run_quietly_of hx), run_quietly, run_quietly, run_tryCatch_error hx]
  · rw [run_tryCatch_ok (run_quietly_of hx), run_quietly, run_tryCatch_ok hx]

theorem quietly_settle (p : Path) (cause : FileError) : (fs.recording view).settle p cause = quietly (fs.settle p cause) := by
  unfold settle
  split_ifs with hnotFound
  · rfl
  · rw [quietly_bind]
    refine congrArg (quietly (fs.kind? p) >>= ·) (funext fun kind => ?_)
    split_ifs <;> rfl

theorem quietly_makeDirectoriesWithin (depth : Nat) (p : Path) :
    (fs.recording view).makeDirectoriesWithin depth p = quietly (fs.makeDirectoriesWithin depth p) := by
  induction depth generalizing p with
  | zero =>
    rw [makeDirectoriesWithin, makeDirectoriesWithin, quietly_tryCatch]
    exact congrArg (tryCatch (quietly (fs.makeDirectory p)) ·) (funext (quietly_settle p))
  | succ depth ih =>
    rw [makeDirectoriesWithin, makeDirectoriesWithin, quietly_tryCatch]
    refine congrArg (tryCatch (quietly (fs.makeDirectory p)) ·) (funext fun cause => ?_)
    split_ifs
    · exact quietly_settle p cause
    · rw [ih, quietly_bind]
      refine congrArg (quietly (fs.makeDirectoriesWithin depth p.parent) >>= ·) (funext fun _ => ?_)
      rw [quietly_tryCatch]
      exact congrArg (tryCatch (quietly (fs.makeDirectory p)) ·) (funext (quietly_settle p))

/-- making directories lists nothing -/
theorem quietly_makeDirectories (p : Path) : (fs.recording view).makeDirectories p = quietly (fs.makeDirectories p) :=
  quietly_makeDirectoriesWithin _ p

/-- neither does choosing a path -/
theorem quietly_freePath (directory : Path) (name : String) (overwrite : Bool) :
    Output.freePath (fs.recording view) directory name overwrite = quietly (Output.freePath fs directory name overwrite) := by
  unfold Output.freePath
  dsimp only
  split_ifs with hoverwrite
  · rfl
  rw [quietly_bind]
  refine congrArg (quietly (fs.kind? (directory.child name)) >>= ·) (funext fun kind => ?_)
  split_ifs
  · rfl
  · rw [quietly_bind]
    refine congrArg (quietly (liftM (fs.names directory)) >>= ·) (funext fun taken => ?_)
    rw [quietly_bind]
    exact congrArg (· >>= _) (quietly_bind _ fun _ => pure ()).symm

end FileSystem

/-! ## Listed paths -/

namespace Output

open FileSystem

variable {fs : FileSystem (StateM σ)} {view : σ → Tree} {w w₁ : σ} {directory p : Path} {name : String} {overwrite : Bool}
  {infos : List AssemblyInfo} {paths : List Path} {r : Except FileError (List Path)}

/-- whatever is answered, the path that is chosen for a name is one that may be chosen -/
theorem choice_of_freePath (h : (freePath fs directory name overwrite).run.run w = (.ok p, w₁)) : Choice directory name p := by
  unfold freePath at h
  dsimp only at h
  split_ifs at h
  · cases h
    exact .own
  rcases hkind : (fs.kind? (directory.child name)).run.run w with ⟨cause | kind, w₂⟩
  · rw [run_bind_error hkind] at h
    cases h
  rw [run_bind_ok hkind] at h
  split_ifs at h
  · cases h
    exact .own
  rcases hnames : (fs.names directory).run w₂ with ⟨taken, w₃⟩
  have hlift : (liftM (fs.names directory) : FileAction (StateM σ) (List String)).run.run w₂ = (.ok taken, w₃) := by
    show (Except.ok ((fs.names directory).run w₂).1, ((fs.names directory).run w₂).2) = _
    rw [hnames]
  rw [run_bind_ok hlift] at h
  generalize hfree : directory.child (numbered (directory.child name).stem (directory.child name).suffix
    (freeNumber taken (directory.child name).stem (directory.child name).suffix)) = free at h
  rcases hcheck : (fs.kind? free).run.run w₃ with ⟨cause | kind, w₄⟩
  · rw [run_bind_error (run_discard hcheck)] at h
    cases h
  · rw [run_bind_ok (run_discard hcheck)] at h
    cases h
    exact hfree ▸ .numbered _

/-- the paths listed while modules were written: those of the first modules, in order, or of all of them after a success -/
structure Noted (directory : Path) (infos : List AssemblyInfo) (r : Except FileError (List Path)) (paths : List Path) : Prop where
  choice : ∃ done rest, infos = done ++ rest ∧ List.Forall₂ (fun p info => Choice directory info.fileName p) paths done
  all : ∀ written, r = .ok written → written = paths ∧ paths.length = infos.length

theorem Noted.failed (directory : Path) (infos : List AssemblyInfo) (cause : FileError) :
    Noted directory infos (.error cause) [] :=
  ⟨⟨[], infos, rfl, .nil⟩, by simp⟩

/-- writing the first of some modules broke off -/
theorem Noted.broken {info : AssemblyInfo} (hchoice : Choice directory info.fileName p) (cause : FileError) :
    Noted directory (info :: infos) (.error cause) [p] :=
  ⟨⟨[info], infos, rfl, .cons hchoice .nil⟩, by simp⟩

theorem Noted.cons {info : AssemblyInfo} (hchoice : Choice directory info.fileName p) (h : Noted directory infos r paths) :
    Noted directory (info :: infos) (r.map (p :: ·)) (p :: paths) := by
  obtain ⟨done, rest, rfl, hpaths⟩ := h.choice
  refine ⟨⟨info :: done, rest, rfl, .cons hchoice hpaths⟩, fun written hwritten => ?_⟩
  rcases r with cause | others
  · cases hwritten
  · cases hwritten
    obtain ⟨rfl, hlength⟩ := h.all others rfl
    exact ⟨rfl, by simp [hlength]⟩

/-- where all modules were written there is one path for each of them -/
theorem Noted.forall₂ {written : List Path} (h : Noted directory infos (.ok written) paths) :
    List.Forall₂ (fun p info => Choice directory info.fileName p) written infos := by
  obtain ⟨rfl, hlength⟩ := h.all written rfl
  obtain ⟨done, rest, rfl, hpaths⟩ := h.choice
  have hall : rest = [] := by
    rw [List.length_append, ← hpaths.length_eq] at hlength
    exact List.length_eq_zero_iff.1 (by omega)
  rwa [hall, List.append_nil]

/-- modules are written as without the list, and the list tells how far that went -/
theorem noted_writeEach (fs : FileSystem (StateM σ)) (view : σ → Tree) (directory : Path) (overwrite : Bool)
    (infos : List AssemblyInfo) (w : σ) (listed : List Path) :
    ∃ r w' paths, (writeEach fs directory overwrite infos).run.run w = (r, w') ∧
      (writeEach (fs.recording view) directory overwrite infos).run.run (w, listed) = (r, (w', listed ++ paths)) ∧
      Noted directory infos r paths := by
  induction infos generalizing w listed with
  | nil => exact ⟨.ok [], w, [], rfl, by rw [List.append_nil]; rfl, ⟨[], [], rfl, .nil⟩, by simp⟩
  | cons info rest ih =>
    rw [writeEach, writeEach, quietly_freePath]
    rcases hfree : (freePath fs directory info.fileName overwrite).run.run w with ⟨cause | target, w₁⟩
    · refine ⟨_, w₁, [], run_bind_error hfree, ?_, Noted.failed _ _ cause⟩
      rw [run_bind_error (run_quietly_of hfree), List.append_nil]
    have hchoice := choice_of_freePath hfree
    rw [run_bind_ok hfree, run_bind_ok (run_quietly_of hfree)]
    rcases hwrite : (fs.write target info.data).run.run w₁ with ⟨cause | done, w₂⟩
    · refine ⟨_, w₂, _, run_bind_error hwrite, run_bind_error (run_noting_error hwrite), ?_⟩
      split_ifs
      · exact Noted.failed _ _ cause
      · exact Noted.broken hchoice cause
    have hnoted : ((fs.recording view).write target info.data).run.run (w₁, listed) = (.ok done, (w₂, listed ++ [target])) :=
      run_noting_ok hwrite
    rw [run_bind_ok hwrite, run_bind_ok hnoted]
    obtain ⟨r, w', paths, hrun, hrecording, hpaths⟩ := ih w₂ (listed ++ [target])
    rw [List.append_assoc] at hrecording
    -- this path is on the list whatever becomes of the rest, and only on success among those that are returned
    refine ⟨r.map (target :: ·), w', target :: paths, ?_, ?_, hpaths.cons hchoice⟩
    all_goals rcases r with cause | others
    · exact run_bind_error hrun
    · exact run_bind_ok hrun
    · exact run_bind_error hrecording
    · exact run_bind_ok hrecording

/-- the same with a directory that is made for the modules -/
theorem noted_writeModules (fs : FileSystem (StateM σ)) (view : σ → Tree) (infos : List AssemblyInfo) (directory : Path)
    (overwrite : Bool) (w : σ) (listed : List Path) :
    ∃ r w' paths, (writeModules fs infos directory overwrite).run.run w = (r, w') ∧
      (writeModules (fs.recording view) infos directory overwrite).run.run (w, listed) = (r, (w', listed ++ paths)) ∧
      Noted directory infos r paths := by
  rw [writeModules, writeModules, quietly_makeDirectories]
  rcases hmake : (fs.makeDirectories directory).run.run w with ⟨cause | made, w₁⟩
  · refine ⟨_, w₁, [], run_bind_error hmake, ?_, Noted.failed _ _ cause⟩
    rw [run_bind_error (run_quietly_of hmake), List.append_nil]
  · rw [run_bind_ok hmake, run_bind_ok (run_quietly_of hmake)]
    exact noted_writeEach fs view directory overwrite infos w₁ listed

/-- where all modules were written each of them has a path of its own name -/
theorem choices_of_writeModules (h : (writeModules fs infos directory overwrite).run.run w = (.ok paths, w₁)) :
    List.Forall₂ (fun p info => Choice directory info.fileName p) paths infos := by
  -- the list is of no interest here, so that any view will do
  obtain ⟨_, _, _, hrun, -, hnoted⟩ := noted_writeModules fs (fun _ => ⟨[], []⟩) infos directory overwrite w []
  cases h.symm.trans hrun
  exact hnoted.forall₂

end Output

/-! ## Trees on a disk -/

/-- an operation on a disk: it does to the tree what it is meant to do, or it fails. Then it has left the tree alone, or it has
broken off, and the tree is as such an operation may leave it halfway. -/
inductive Obeys (t : Tree) (meant : Except FileError Tree) (Halfway : Tree → Prop) (t' : Tree) : Except FileError Unit → Prop
  | done (h : meant = .ok t') : Obeys t meant Halfway t' (.ok ())
  | refused {cause : FileError} (h : t' = t) : Obeys t meant Halfway t' (.error cause)
  | brokenOff {cause : FileError} (h : Halfway t') : Obeys t meant Halfway t' (.error cause)

/-- writing a file broke off: the file was created or cut short before that, and holds anything at all -/
def LeftAt (t : Tree) (p : Path) (t' : Tree) : Prop := ∃ left, t.write p left = .ok t'

/-- the files of a file system are a tree, and it may refuse to change it at any time, or break off when it writes a file; a
directory is made, or it is not -/
structure Backs (fs : FileSystem (StateM σ)) (view : σ → Tree) : Prop where
  kind? : ∀ p w, view ((fs.kind? p).run.run w).2 = view w
  read : ∀ p w, view ((fs.read p).run.run w).2 = view w
  names : ∀ p w, view ((fs.names p).run w).2 = view w
  write : ∀ p content w, let (r, w') := (fs.write p content).run.run w
    Obeys (view w) ((view w).write p content) (LeftAt (view w) p) (view w') r
  makeDirectory : ∀ p w, let (r, w') := (fs.makeDirectory p).run.run w
    Obeys (view w) ((view w).makeDirectory p) (fun _ => False) (view w') r

namespace Tree

theorem obeys_commit (change : Tree → Except FileError Tree) (Halfway : Tree → Prop) (t : Tree) :
    let (r, t') := (commit change).run.run t
    Obeys t (change t) Halfway t' r := by
  rcases hchange : change t with cause | t'
  · rw [run_commit_error hchange]
    exact .refused rfl
  · rw [run_commit_ok hchange]
    exact .done rfl

/-- a tree is a disk that refuses nothing -/
theorem backs_system : Backs system id where
  kind? _ _ := rfl
  read _ _ := rfl
  names _ _ := rfl
  write p content t := obeys_commit (·.write p content) _ t
  makeDirectory p t := obeys_commit (·.makeDirectory p) _ t

variable {t t' t₁ : Tree} {p : Path} {content : Bytes} {paths later : List Path}

/-- paths account for what was done to a tree: it has grown, there is a file where each of them leads, and no other file was
created or changed -/
structure Accounted (t : Tree) (paths : List Path) (t' : Tree) : Prop where
  grows : Grows t t'
  there : ∀ p ∈ paths, ∃ q, t'.place p = .ok q ∧ t'.content? q ≠ none
  only : ∀ q, t'.content? q ≠ t.content? q → ∃ p ∈ paths, t'.place p = .ok q

namespace Accounted

theorem refl (t : Tree) : Accounted t [] t := ⟨Grows.refl t, by simp, fun _ h => absurd rfl h⟩

theorem trans (h : Accounted t paths t₁) (h' : Accounted t₁ later t') : Accounted t (paths ++ later) t' where
  grows := h.grows.trans h'.grows
  there p hp := by
    rcases List.mem_append.1 hp with hfirst | hlater
    · obtain ⟨q, hq, hthere⟩ := h.there p hfirst
      exact ⟨q, h'.grows.place_eq hq, fun hgone => hthere (h'.grows.file q hgone)⟩
    · exact h'.there p hlater
  only q hq := by
    by_cases hlater : t'.content? q = t₁.content? q
    · obtain ⟨p, hp, hplace⟩ := h.only q (hlater ▸ hq)
      exact ⟨p, List.mem_append_left later hp, h'.grows.place_eq hplace⟩
    · obtain ⟨p, hp, hplace⟩ := h'.only q hlater
      exact ⟨p, List.mem_append_right paths hp, hplace⟩

theorem write (h : t.write p content = .ok t') : Accounted t [p] t' := by
  obtain ⟨place, hplace, hroot, -, rfl, hgrows⟩ := eq_put_of_write h
  have hplace' := hgrows.place_eq hplace
  refine ⟨hgrows, fun p' hp' => ⟨place, List.mem_singleton.1 hp' ▸ hplace', ?_⟩, fun q hq => ⟨p, List.mem_singleton_self p, ?_⟩⟩
  · rw [content?, entry?_put_self hroot]
    simp
  · rw [hplace']
    by_contra hne
    have hother : q ≠ place := fun heq => hne (heq ▸ rfl)
    rw [content?, content?, entry?_put_of_ne hother] at hq
    exact hq rfl

theorem makeDirectory (h : t.makeDirectory p = .ok t') : Accounted t [] t' := by
  obtain ⟨-, -, -, -, -, hgrows⟩ := eq_put_of_makeDirectory h
  exact ⟨hgrows, by simp, fun q hq => absurd (content?_makeDirectory h) hq⟩

end Accounted

end Tree

open Unbundle.Tree

/-- the paths that an action adds to the list account for what it does to a tree -/
def Accounts (view : σ → Tree) (x : FileAction (StateM (σ × List Path)) α) : Prop :=
  ∀ w listed, ∃ r w' paths, x.run.run (w, listed) = (r, (w', listed ++ paths)) ∧ Accounted (view w) paths (view w')

namespace Accounts

variable {view : σ → Tree} {fs : FileSystem (StateM σ)} {x : FileAction (StateM (σ × List Path)) α}

theorem quietly {x : FileAction (StateM σ) α} (h : ∀ w, Accounted (view w) [] (view (x.run.run w).2)) :
    Accounts view (FileSystem.quietly x) :=
  fun w listed => ⟨_, _, [], by rw [FileSystem.run_quietly, List.append_nil], h w⟩

/-- an action that changes nothing adds nothing -/
theorem of_eq {x : FileAction (StateM σ) α} (h : ∀ w, view (x.run.run w).2 = view w) : Accounts view (FileSystem.quietly x) :=
  quietly fun w => (h w).symm ▸ Accounted.refl (view w)

theorem pure (a : α) : Accounts view (pure a : FileAction (StateM (σ × List Path)) α) :=
  of_eq (x := Pure.pure a) fun _ => rfl

theorem throw (cause : FileError) : Accounts view (throw cause : FileAction (StateM (σ × List Path)) α) :=
  of_eq (x := MonadExcept.throw cause) fun _ => rfl

theorem bind {f : α → FileAction (StateM (σ × List Path)) β} (hx : Accounts view x) (hf : ∀ a, Accounts view (f a)) :
    Accounts view (x >>= f) := by
  intro w listed
  obtain ⟨r, w₁, paths, hrun, hpaths⟩ := hx w listed
  rcases r with cause | a
  · exact ⟨_, w₁, paths, run_bind_error hrun, hpaths⟩
  · obtain ⟨r, w', later, hlater, haccounted⟩ := hf a w₁ (listed ++ paths)
    refine ⟨r, w', paths ++ later, ?_, hpaths.trans haccounted⟩
    rw [run_bind_ok hrun, hlater, List.append_assoc]

theorem tryCatch {handler : FileError → FileAction (StateM (σ × List Path)) α} (hx : Accounts view x)
    (hhandler : ∀ cause, Accounts view (handler cause)) : Accounts view (tryCatch x handler) := by
  intro w listed
  obtain ⟨r, w₁, paths, hrun, hpaths⟩ := hx w listed
  rcases r with cause | a
  · obtain ⟨r, w', later, hlater, haccounted⟩ := hhandler cause w₁ (listed ++ paths)
    refine ⟨r, w', paths ++ later, ?_, hpaths.trans haccounted⟩
    rw [run_tryCatch_error hrun, hlater, List.append_assoc]
  · exact ⟨_, w₁, paths, run_tryCatch_ok hrun, hpaths⟩

theorem write (h : Backs fs view) (p : Path) (content : Bytes) : Accounts view ((fs.recording view).write p content) := by
  intro w listed
  have hobeys := h.write p content w
  rcases hwrite : (fs.write p content).run.run w with ⟨r, w'⟩
  rw [hwrite] at hobeys
  cases hobeys with
  | done hdone => exact ⟨_, w', [p], FileSystem.run_noting_ok hwrite, Accounted.write hdone⟩
  | refused hsame =>
    refine ⟨_, w', _, FileSystem.run_noting_error hwrite, ?_⟩
    rw [if_pos hsame, hsame]
    exact Accounted.refl (view w)
  | brokenOff hleft =>
    obtain ⟨left, hleft⟩ := hleft
    refine ⟨_, w', _, FileSystem.run_noting_error hwrite, ?_⟩
    split_ifs with hsame
    · rw [hsame]
      exact Accounted.refl (view w)
    · exact Accounted.write hleft

theorem makeDirectory (h : Backs fs view) (p : Path) : Accounts view ((fs.recording view).makeDirectory p) := by
  refine quietly fun w => ?_
  have hobeys := h.makeDirectory p w
  rcases hmake : (fs.makeDirectory p).run.run w with ⟨r, w'⟩
  rw [hmake] at hobeys
  cases hobeys with
  | done hdone => exact Accounted.makeDirectory hdone
  | refused hsame =>
    dsimp only
    rw [hsame]
    exact Accounted.refl (view w)
  | brokenOff hnever => exact hnever.elim

theorem settle (h : Backs fs view) (p : Path) (cause : FileError) : Accounts view ((fs.recording view).settle p cause) := by
  unfold FileSystem.settle
  split_ifs
  · exact throw cause
  · refine (of_eq (h.kind? p)).bind fun kind => ?_
    split_ifs
    · exact pure ()
    · exact throw cause

theorem makeDirectoriesWithin (h : Backs fs view) (depth : Nat) (p : Path) :
    Accounts view ((fs.recording view).makeDirectoriesWithin depth p) := by
  induction depth generalizing p with
  | zero => exact (makeDirectory h p).tryCatch (settle h p)
  | succ depth ih =>
    refine (makeDirectory h p).tryCatch fun cause => ?_
    split_ifs
    · exact settle h p cause
    · exact (ih p.parent).bind fun _ => (makeDirectory h p).tryCatch (settle h p)

theorem freePath (h : Backs fs view) (directory : Path) (name : String) (overwrite : Bool) :
    Accounts view (Output.freePath (fs.recording view) directory name overwrite) := by
  unfold Output.freePath
  dsimp only
  split_ifs
  · exact pure _
  refine (of_eq (h.kind? _)).bind fun kind => ?_
  split_ifs
  · exact pure _
  · exact (of_eq (x := liftM (fs.names directory)) (h.names directory)).bind fun taken =>
      ((of_eq (h.kind? _)).bind fun _ => pure ()).bind fun _ => pure _

theorem writeEach (h : Backs fs view) (directory : Path) (overwrite : Bool) (infos : List AssemblyInfo) :
    Accounts view (Output.writeEach (fs.recording view) directory overwrite infos) := by
  induction infos with
  | nil => exact pure []
  | cons info rest ih =>
    exact (freePath h directory info.fileName overwrite).bind fun target =>
      (write h target info.data).bind fun _ => ih.bind fun _ => pure _

/-- the files that are created or changed by writing modules are those to which the listed paths lead -/
theorem writeModules (h : Backs fs view) (infos : List AssemblyInfo) (directory : Path) (overwrite : Bool) :
    Accounts view (Output.writeModules (fs.recording view) infos directory overwrite) :=
  (makeDirectoriesWithin h _ directory).bind fun _ => writeEach h directory overwrite infos

end Accounts

/-- modules are written as without the list: the listed paths are those of the first modules, and they account for what was done
to the tree of a disk -/
theorem recorded_writeModules {fs : FileSystem (StateM σ)} {infos : List AssemblyInfo} {directory : Path} {overwrite : Bool}
    {w w₁ : σ} {r : Except FileError (List Path)} (h : (Output.writeModules fs infos directory overwrite).run.run w = (r, w₁))
    (view : σ → Tree) (listed : List Path) : ∃ paths,
      (Output.writeModules (fs.recording view) infos directory overwrite).run.run (w, listed) = (r, (w₁, listed ++ paths)) ∧
      Output.Noted directory infos r paths ∧ (Backs fs view → Accounted (view w) paths (view w₁)) := by
  obtain ⟨r', w', paths, hrun, hrecording, hnoted⟩ := Output.noted_writeModules fs view infos directory overwrite w listed
  cases h.symm.trans hrun
  refine ⟨paths, hrecording, hnoted, fun hbacks => ?_⟩
  obtain ⟨_, _, paths', hpaths, haccounted⟩ := Accounts.writeModules hbacks infos directory overwrite w listed
  rw [hrecording] at hpaths
  obtain ⟨rfl, hlisted⟩ := Prod.mk.inj (Prod.mk.inj hpaths).2
  rw [List.append_cancel_left hlisted]
  exact haccounted

end Unbundle
