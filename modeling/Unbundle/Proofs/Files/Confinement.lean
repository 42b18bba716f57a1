import Unbundle.Proofs.Files.Writing
/-
Where recovered modules are written.

A module's file name is made of its own name, which is whatever text its metadata holds, and the name is taken for a path that
starts at the output directory. So a name with slashes leads out of that directory: upwards by two dots, away by a slash in
front, or down into a directory below. Names with a number, which are made when a file is there, do not.

Results:
- `places_of_writeModules`: the files that are created or changed are direct children of the output directory, and those where
  the name of a module leads; a name without a slash leads to a direct child, and a name that leads to a free place is written
  there.
-/
namespace Unbundle.Tree

variable {t t' : Tree} {directory p : Path} {out q : Place} {overwrite : Bool} {entries : List (Path × Bytes)}
  {infos : List AssemblyInfo}

/-- a file that is not what it was has been written -/
theorem Kept.exists_entry (h : Kept overwrite t entries t') (hq : t'.content? q ≠ t.content? q) :
    ∃ entry ∈ entries, t'.place entry.1 = .ok q := by
  by_contra hnone
  push Not at hnone
  exact hq (by rw [h.content, lastAt_eq_none hnone]; rfl)

theorem WritesFor.exists_info (h : WritesFor directory entries infos) {entry : Path × Bytes} (hentry : entry ∈ entries) :
    ∃ info ∈ infos, Output.Choice directory info.fileName entry.1 ∧ entry.2 = info.data := by
  induction h with
  | nil => simp at hentry
  | cons hhead _ ih =>
    rcases List.mem_cons.1 hentry with rfl | hrest
    · exact ⟨_, List.mem_cons_self, hhead⟩
    · obtain ⟨info, hinfo, hwrites⟩ := ih hrest
      exact ⟨info, List.mem_cons_of_mem _ hinfo, hwrites⟩

/-- a path that was chosen for a name leads to a direct child of the directory, or where the name leads -/
theorem place_of_choice {name : String} (h : Output.Choice directory name p) (hdirectory : directory.Named)
    (hplace : t.place directory = .ok out) (hq : t.place p = .ok q) :
    (∃ child, q = out ++ [child]) ∨ q = out.followPath (Path.ofText name) := by
  cases h with
  | own => exact .inr (place_child hplace hq)
  | numbered n => exact .inl ⟨_, place_child_numbered hplace (Path.named_child hdirectory name) hq⟩

/-- a name without a slash leads to a direct child, to the directory itself, or out of it by two dots -/
theorem followPath_of_not_mem {name : String} (h : '/' ∉ name.toList) (hdots : name ≠ "..") (out : Place) :
    out.followPath (Path.ofText name) = out ∨ ∃ child, out.followPath (Path.ofText name) = out ++ [child] := by
  by_cases hempty : name.toList = []
  · rw [String.toList_eq_nil_iff.1 hempty]
    exact .inl rfl
  by_cases hdot : name.toList = ['.']
  · rw [String.ext_iff.2 (hdot.trans (by rfl : ['.'] = ".".toList))]
    exact .inl rfl
  rw [Path.ofText_of_not_mem h hempty hdot]
  exact .inr ⟨name, by simp [Place.followPath, Place.follow, Path.absolute, hdots]⟩

/-! ## A name's own path -/

/-- a directory that is there need not be made -/
theorem makeDirectories_of_directory (hplace : t.place directory = .ok out) (hout : t.entry? out = some .directory) :
    (system.makeDirectories directory).run.run t = (.ok (), t) := by
  have hkind : (system.kind? directory).run.run t = (.ok (some .directory), t) := by
    rw [run_kind, kind?, hplace]
    dsimp only
    rw [hout]
  have hsettle : (system.settle directory ⟨.existsAlready, directory⟩).run.run t = (.ok (), t) := by
    rw [FileSystem.settle, if_neg (by simp)]
    dsimp only
    rw [run_bind_ok hkind]
    rfl
  have hmake : (system.makeDirectory directory).run.run t = (.error ⟨.existsAlready, directory⟩, t) := by
    refine run_makeDirectory_error ?_
    rw [makeDirectory, hplace]
    dsimp only
    rw [hout]
  rw [FileSystem.makeDirectories]
  cases directory.parts.length with
  | zero => exact (run_tryCatch_error hmake).trans hsettle
  | succ depth =>
    refine (run_tryCatch_error hmake).trans ?_
    rw [if_pos (.inl (by simp))]
    exact hsettle

/-- a path that leads to nothing yet is taken as it is -/
theorem freePath_of_none {name : String} (hplace : t.place (directory.child name) = .ok q) (hq : t.entry? q = none) :
    (Output.freePath system directory name overwrite).run.run t = (.ok (directory.child name), t) := by
  rw [Output.freePath]
  split_ifs with hoverwrite
  · rfl
  have hkind : (system.kind? (directory.child name)).run.run t = (.ok none, t) := by
    rw [run_kind, kind?_of_none hplace hq]
  rw [run_bind_ok hkind]
  rfl

/-- a file is written where nothing stands in a directory -/
theorem exists_write (hq : t.place p = .ok q) (hnone : t.entry? q = none) (hparent : t.entry? q.dropLast = some .directory)
    (content : Bytes) : ∃ t₁, t.write p content = .ok t₁ ∧ Grows t t₁ ∧ t₁.content? q ≠ none := by
  have hwrite : t.write p content = .ok (t.put q (.file content)) := by
    rw [write, hq]
    dsimp only
    rw [hnone]
    dsimp only
    rw [hparent]
  obtain ⟨place, hplace, hroot, -, -, hgrows⟩ := eq_put_of_write hwrite
  obtain rfl : q = place := Except.ok.inj (hq.symm.trans hplace)
  refine ⟨_, hwrite, hgrows, ?_⟩
  rw [content?, entry?_put_self hroot]
  simp

/-- the first module is written where its name leads, if that is a free place in a directory -/
theorem content?_writeModules {info : AssemblyInfo} (hdirectory : directory.Named) (hplace : t.place directory = .ok out)
    (hout : t.entry? out = some .directory) (hq : t.place (directory.child info.fileName) = .ok q)
    (hnone : t.entry? q = none) (hparent : t.entry? q.dropLast = some .directory)
    {r : Except FileError (List Path)}
    (h : (Output.writeModules system (info :: infos) directory overwrite).run.run t = (r, t')) : t'.content? q ≠ none := by
  obtain ⟨t₁, hwrite, hgrows, hthere⟩ := exists_write hq hnone hparent info.data
  have hlater : Writes overwrite directory infos t₁ _ :=
    writes_writeEach (hgrows.place_eq hplace) (hgrows.directory out hout) fun i _ =>
      Path.named_child hdirectory i.fileName
  obtain ⟨entries, done, rest, hrest, -⟩ := hlater
  rw [Output.writeModules, run_bind_ok (makeDirectories_of_directory hplace hout), Output.writeEach,
    run_bind_ok (freePath_of_none hq hnone), run_bind_ok (run_write_ok hwrite)] at h
  -- what is done for the other modules takes nothing away
  rcases hothers : (Output.writeEach system directory overwrite infos).run.run t₁ with ⟨cause | written, t₂⟩
  · rw [run_bind_error hothers] at h
    rw [hothers] at hrest
    obtain rfl : t₂ = t' := congrArg Prod.snd h
    exact fun hgone => hthere (hrest.grows.file q hgone)
  · rw [run_bind_ok hothers] at h
    rw [hothers] at hrest
    obtain rfl : t₂ = t' := congrArg Prod.snd h
    exact fun hgone => hthere (hrest.grows.file q hgone)

/-! ## Where files are written -/

/-- a file that was changed by writing modules is a direct child of the directory, or where the name of a module leads -/
theorem place_of_changed {r : Except FileError (List Path)} (hdirectory : directory.Named)
    (h : (Output.writeModules system infos directory overwrite).run.run t = (r, t')) (hq : t'.content? q ≠ t.content? q) :
    ∃ out, t'.place directory = .ok out ∧ entry? t' out = some .directory ∧ Grows t t' ∧
      ((∃ child, q = out ++ [child]) ∨ ∃ info ∈ infos, q = out.followPath (Path.ofText info.fileName)) := by
  have hnamed : ∀ info ∈ infos, (directory.child info.fileName).Named := fun info _ => Path.named_child hdirectory _
  obtain ⟨⟨entries, done, rest, hkept, rfl, hfor, -⟩, hsame | ⟨out, hplace, hout⟩⟩ := writes_writeModules hnamed h
  · exact absurd (hsame q) hq
  refine ⟨out, hplace, hout, hkept.grows, ?_⟩
  obtain ⟨entry, hentry, hentryPlace⟩ := hkept.exists_entry hq
  obtain ⟨info, hinfo, hchoice, -⟩ := hfor.exists_info hentry
  rcases place_of_choice hchoice hdirectory hplace hentryPlace with hchild | hown
  · exact .inl hchild
  · exact .inr ⟨info, List.mem_append_left rest hinfo, hown⟩

/-- **Modules are written where their names lead.** A file that is created or changed, whatever becomes of the writing, is a
direct child of the output directory or the place to which the file name of a module leads from there. File names without a
slash lead to direct children only. A file name that leads to a free place in any directory is written there. -/
theorem places_of_writeModules (infos : List AssemblyInfo) (directory : Path) (overwrite : Bool) (t t' : Tree)
    (r : Except FileError (List Path)) (hdirectory : directory.Named)
    (h : (Output.writeModules system infos directory overwrite).run.run t = (r, t')) :
    (∀ q, t'.content? q ≠ t.content? q → ∃ out, t'.place directory = .ok out ∧
      ((∃ child, q = out ++ [child]) ∨ ∃ info ∈ infos, q = out.followPath (Path.ofText info.fileName))) ∧
    ((∀ info ∈ infos, '/' ∉ info.fileName.toList ∧ info.fileName ≠ "..") → ∀ q, t'.content? q ≠ t.content? q →
      ∃ out child, t'.place directory = .ok out ∧ q = out ++ [child]) ∧
    ∀ info rest out q, infos = info :: rest → t.place directory = .ok out → t.entry? out = some .directory →
      t.place (directory.child info.fileName) = .ok q → t.entry? q = none → t.entry? q.dropLast = some .directory →
      q = out.followPath (Path.ofText info.fileName) ∧ t'.content? q ≠ none := by
  refine ⟨fun q hq => ?_, fun hplain q hq => ?_, ?_⟩
  · obtain ⟨out, hplace, -, -, hwhere⟩ := place_of_changed hdirectory h hq
    exact ⟨out, hplace, hwhere⟩
  · obtain ⟨out, hplace, hout, hgrows, ⟨child, hchild⟩ | ⟨info, hinfo, hown⟩⟩ := place_of_changed hdirectory h hq
    · exact ⟨out, child, hplace, hchild⟩
    obtain ⟨hslash, hdots⟩ := hplain info hinfo
    rcases followPath_of_not_mem hslash hdots out with hself | ⟨child, hchild⟩
    · -- the directory itself is no file, neither before nor after
      rw [hown, hself, content?_of_directory hout] at hq
      exact absurd (hgrows.file out (content?_of_directory hout)).symm hq
    · exact ⟨out, child, hplace, hown.trans hchild⟩
  · rintro info rest out q rfl hplace hout hq hnone hparent
    exact ⟨place_child hplace hq, content?_writeModules hdirectory hplace hout hq hnone hparent h⟩

/-- two dots in a name lead out of the output directory -/
theorem places_of_writeModules_climbing :
    let evil : AssemblyInfo := ⟨"../evil, Version=1.0.0.0, Culture=neutral, PublicKeyToken=null", ".dll", [0x4D, 0x5A]⟩
    let t : Tree := ⟨[(["out"], .directory)], []⟩
    ∃ r t', (Output.writeModules system [evil] (Path.ofText "out") false).run.run t = (r, t') ∧
      t.place (Path.ofText "out") = .ok ["out"] ∧ t.content? ["evil.dll"] = none ∧ t'.content? ["evil.dll"] ≠ none ∧
      ¬ ∃ child, ["evil.dll"] = ["out"] ++ [child] := by
  intro evil t
  rcases hrun : (Output.writeModules system [evil] (Path.ofText "out") false).run.run t with ⟨r, t'⟩
  obtain ⟨-, -, hown⟩ := places_of_writeModules [evil] (Path.ofText "out") false t t' r (Path.named_ofText _) hrun
  obtain ⟨-, hthere⟩ := hown evil [] ["out"] ["evil.dll"] rfl (by decide +kernel) (by decide +kernel) (by decide +kernel)
    (by decide +kernel) (by decide +kernel)
  exact ⟨r, t', rfl, by decide +kernel, by decide +kernel, hthere, by simp⟩

end Unbundle.Tree
