import Unbundle.Proofs.Files.Recording
import Unbundle.Proofs.Report.Written
/-
Whether a report lists what was written.

The modules of a file are written one after the other, but their paths are put into the report together, when the last module is
there. So a report lists what was written exactly if the writing did not break off after a file was created or changed: then it
lists nothing, and only tells what failed. The file whose write failed is one of these as well, if it was created or cut short.
The file system is any one at all, so that the writing may break off at any point of it.

Results:
- `broken_processFile`: a report lists nothing if the writing broke off.
- `listed_processFile`: what a turn writes, and what its report lists of that.
- `written_eq_iff`: a report lists what was written, unless the writing broke off after the first file was touched.
-/
namespace Unbundle.Processing

open FileSystem

section

variable {σ : Type} (fs : FileSystem (StateM σ)) (s : Settings) (output : Option Path) (write : Bool) (file : Path)

/-- the modules of a file are written in its turn, and that breaks off -/
def BreaksOff (w : σ) (cause : FileError) : Prop :=
  ∃ content w₁ w₂, write = true ∧ (fs.read file).run.run w = (content, w₁) ∧ recovered file s content ≠ [] ∧
    (Output.writeModules fs (recovered file s content) (output.getD (defaultDirectory file s)) s.overwrite).run.run w₁ =
      (.error cause, w₂)

/-- the paths to which something was written in a file's turn, also where that broke off, and what its report lists of them -/
structure Lists (w : σ) (paths : List Path) (outcome : Except Failure FileReport) : Prop where
  /-- they are paths of the first modules that were recovered, in order -/
  choice : ∃ done rest, recovered file s ((fs.read file).run.run w).1 = done ++ rest ∧
    List.Forall₂ (fun p info => Output.Choice (output.getD (defaultDirectory file s)) info.fileName p) paths done
  whole : ∀ report, outcome = .ok report → (∀ cause, ¬ BreaksOff fs s output write file w cause) → report.written = paths

end

variable {σ : Type} {fs : FileSystem (StateM σ)} {s : Settings} {output : Option Path} {write : Bool} {file : Path}
  {w w₁ w₂ w' : σ} {content : Except FileError Bytes} {notes : List LogNote} {found : Finding} {cause : FileError}
  {paths : List Path} {r : Except FileError (List Path)}

/-- nothing breaks off where nothing is written -/
theorem not_breaksOff_of_nothing (hread : (fs.read file).run.run w = (content, w₁))
    (h : write = false ∨ recovered file s content = []) : ¬ BreaksOff fs s output write file w cause := by
  rintro ⟨content', _, _, hwrite, hread', hinfos, -⟩
  cases hread.symm.trans hread'
  rcases h with hno | hempty
  · rw [hwrite] at hno
    cases hno
  · exact hinfos hempty

/-- the writing breaks off if writing the modules fails -/
theorem breaksOff_iff (hread : (fs.read file).run.run w = (content, w₁)) (hwrite : write = true)
    (hinfos : recovered file s content ≠ [])
    (hrun : (Output.writeModules fs (recovered file s content) (output.getD (defaultDirectory file s)) s.overwrite).run.run w₁ =
      (r, w₂)) : BreaksOff fs s output write file w cause ↔ r = .error cause := by
  refine ⟨fun ⟨content', w₁', w₂', _, hread', _, hrun'⟩ => ?_, fun h => ⟨content, w₁, w₂, hwrite, hread, hinfos, h ▸ hrun⟩⟩
  cases hread.symm.trans hread'
  cases hrun.symm.trans hrun'
  rfl

/-- a report lists nothing if the writing broke off, and tells what failed -/
theorem broken_processFile {report : FileReport} (h : (processFile fs s output write file).run w = ((notes, .ok report), w'))
    (hbreaks : BreaksOff fs s output write file w cause) : report.written = [] ∧ report.failure = some (.file cause) := by
  have hruns := runs_processFile fs s output write file w
  rw [h] at hruns
  cases hruns with
  | unwritten hread hlook hnothing =>
    exact absurd hbreaks (not_breaksOff_of_nothing hread ((FoundIn.of_examine hlook).infos_eq ▸ hnothing))
  | written hread hlook hwrite hinfos hrun =>
    have hfound := FoundIn.of_examine hlook
    rw [hfound.infos_eq, hfound.file_eq] at hrun
    cases (breaksOff_iff hread hwrite (hfound.infos_eq ▸ hinfos) hrun).1 hbreaks
  | brokenOff hread hlook hwrite hinfos hrun hcontained =>
    have hfound := FoundIn.of_examine hlook
    rw [hfound.infos_eq, hfound.file_eq] at hrun
    cases (breaksOff_iff hread hwrite (hfound.infos_eq ▸ hinfos) hrun).1 hbreaks
    exact ⟨hfound.written_eq, rfl⟩

/-- a turn in which nothing is written lists nothing -/
theorem Lists.nothing {outcome : Except Failure FileReport} (hwritten : ∀ report, outcome = .ok report → report.written = []) :
    Lists fs s output write file w [] outcome where
  choice := ⟨[], _, rfl, .nil⟩
  whole report h _ := hwritten report h

/-- a turn in which modules are written lists their paths, unless that breaks off -/
theorem Lists.wrote {outcome : Except Failure FileReport} (hread : (fs.read file).run.run w = (content, w₁))
    (hfound : FoundIn file s content found) (hwrite : write = true) (hinfos : found.infos ≠ [])
    (hrun : (Output.writeModules fs found.infos (output.getD (defaultDirectory found.report.file s)) s.overwrite).run.run w₁ =
      (r, w₂)) (hnoted : Output.Noted (output.getD (defaultDirectory found.report.file s)) found.infos r paths)
    (hwhole : ∀ report written, outcome = .ok report → r = .ok written → report.written = written) :
    Lists fs s output write file w paths outcome := by
  rw [hfound.infos_eq, hfound.file_eq] at hrun hnoted
  rw [hfound.infos_eq] at hinfos
  refine ⟨by rw [hread]; exact hnoted.choice, fun report h hnot => ?_⟩
  rcases hr : r with cause | written
  · exact absurd ((breaksOff_iff hread hwrite hinfos hrun).2 hr) (hnot cause)
  · rw [hwhole report written h hr]
    exact (hnoted.all written hr).1

/-- a turn goes as it does without the list of paths, and the list accounts for what it does to a tree on a disk, whatever the
disk refuses -/
theorem listed_processFile (fs : FileSystem (StateM σ)) (view : σ → Tree) (s : Settings) (output : Option Path) (write : Bool)
    (file : Path) (w : σ) (listed : List Path) : ∃ notes outcome w' paths,
      (processFile fs s output write file).run w = ((notes, outcome), w') ∧
      (processFile (fs.recording view) s output write file).run (w, listed) = ((notes, outcome), (w', listed ++ paths)) ∧
      Lists fs s output write file w paths outcome ∧ (Backs fs view → Tree.Accounted (view w) paths (view w')) := by
  have hruns := runs_processFile fs s output write file w
  generalize (processFile fs s output write file).run w = turn at hruns ⊢
  have hrecord {content : Except FileError Bytes} {w₁ : σ} (hread : (fs.read file).run.run w = (content, w₁)) :
      ((fs.recording view).read file).run.run (w, listed) = (content, (w₁, listed)) := run_quietly_of hread
  have hsame {content : Except FileError Bytes} {w₁ : σ} (hread : (fs.read file).run.run w = (content, w₁))
      (h : Backs fs view) : view w₁ = view w := by
    rw [← h.read file w, hread]
  cases hruns with
  | escaped hread hlook =>
    refine ⟨_, _, _, [], rfl, ?_, .nothing (by simp), fun h => hsame hread h ▸ .refl _⟩
    rw [List.append_nil]
    exact (Runs.escaped (hrecord hread) hlook).run_eq
  | unwritten hread hlook hnothing =>
    refine ⟨_, _, _, [], rfl, ?_, .nothing fun report h => ?_, fun h => hsame hread h ▸ .refl _⟩
    · rw [List.append_nil]
      exact (Runs.unwritten (hrecord hread) hlook hnothing).run_eq
    · cases h
      exact (FoundIn.of_examine hlook).written_eq
  | written hread hlook hwrite hinfos hrun =>
    obtain ⟨paths, hrecording, hnoted, haccounted⟩ := recorded_writeModules hrun view listed
    refine ⟨_, _, _, paths, rfl, (Runs.written (hrecord hread) hlook hwrite hinfos hrecording).run_eq,
      .wrote hread (.of_examine hlook) hwrite hinfos hrun hnoted fun report written h hr => ?_,
      fun h => hsame hread h ▸ haccounted h⟩
    cases h
    exact Except.ok.inj hr
  | brokenOff hread hlook hwrite hinfos hrun hcontained =>
    obtain ⟨paths, hrecording, hnoted, haccounted⟩ := recorded_writeModules hrun view listed
    exact ⟨_, _, _, paths, rfl, (Runs.brokenOff (hrecord hread) hlook hwrite hinfos hrecording hcontained).run_eq,
      .wrote hread (.of_examine hlook) hwrite hinfos hrun hnoted (by simp), fun h => hsame hread h ▸ haccounted h⟩
  | refused hread hlook hwrite hinfos hrun hescapes =>
    obtain ⟨paths, hrecording, hnoted, haccounted⟩ := recorded_writeModules hrun view listed
    exact ⟨_, _, _, paths, rfl, (Runs.refused (hrecord hread) hlook hwrite hinfos hrecording hescapes).run_eq,
      .wrote hread (.of_examine hlook) hwrite hinfos hrun hnoted (by simp), fun h => hsame hread h ▸ haccounted h⟩

/-- what a turn from `w` to `w'` wrote to `paths`, and what its report lists of that -/
structure Reports (fs : FileSystem (StateM σ)) (view : σ → Tree) (s : Settings) (output : Option Path) (write : Bool)
    (file : Path) (w w' : σ) (paths : List Path) (outcome : Except Failure FileReport) : Prop where
  /-- they are paths of the first modules that were recovered, in order -/
  choice : ∃ done rest, recovered file s ((fs.read file).run.run w).1 = done ++ rest ∧
    List.Forall₂ (fun p info => Output.Choice (output.getD (defaultDirectory file s)) info.fileName p) paths done
  /-- on a disk they lead to the files that were created or changed, and to no other -/
  disk : Backs fs view → Tree.Accounted (view w) paths (view w')
  /-- the report lists exactly these paths, unless the writing broke off after there was one -/
  written_iff : ∀ report, outcome = .ok report →
    (report.written = paths ↔ paths = [] ∨ ∀ cause, ¬ BreaksOff fs s output write file w cause)
  /-- where the writing broke off the report lists nothing, and tells what failed -/
  broken : ∀ report, outcome = .ok report → ∀ cause, BreaksOff fs s output write file w cause →
    report.written = [] ∧ report.failure = some (.file cause)

/-- **A report lists what was written, unless the writing broke off.** `paths` are the paths to which a turn wrote, in the order
in which it did: those where the write succeeded, and that where it failed if it left the files changed. On a disk they lead to
the files that the turn created or changed, and to no other. The report lists exactly these paths, except if the writing broke
off after a file was created or changed: then it lists none of them, and tells the failure. -/
theorem written_eq_iff (fs : FileSystem (StateM σ)) (view : σ → Tree) (s : Settings) (output : Option Path) (write : Bool)
    (file : Path) (w w' : σ) (paths : List Path) (notes : List LogNote) (outcome : Except Failure FileReport)
    (h : (processFile (fs.recording view) s output write file).run (w, []) = ((notes, outcome), (w', paths))) :
    (processFile fs s output write file).run w = ((notes, outcome), w') ∧
      Reports fs view s output write file w w' paths outcome := by
  obtain ⟨notes', outcome', w'', paths', hrun, hrecording, hlists, haccounted⟩ :=
    listed_processFile fs view s output write file w []
  cases h.symm.trans hrecording
  have hbroken (report : FileReport) (hreport : outcome = .ok report) (cause : FileError)
      (hbreaks : BreaksOff fs s output write file w cause) : report.written = [] ∧ report.failure = some (.file cause) :=
    broken_processFile (hreport ▸ hrun) hbreaks
  refine ⟨hrun, hlists.choice, haccounted, fun report hreport => ⟨fun hwritten => ?_, fun hwhole => ?_⟩, hbroken⟩
  · by_cases hbreaks : ∃ cause, BreaksOff fs s output write file w cause
    · obtain ⟨cause, hcause⟩ := hbreaks
      exact .inl (hwritten.symm.trans (hbroken report hreport cause hcause).1)
    · exact .inr (not_exists.1 hbreaks)
  -- a report that lists nothing is right where the writing broke off before the first file
  · by_cases hbreaks : ∃ cause, BreaksOff fs s output write file w cause
    · obtain ⟨cause, hcause⟩ := hbreaks
      rcases hwhole with hempty | hnot
      · exact (hbroken report hreport cause hcause).1.trans hempty.symm
      · exact absurd hcause (hnot cause)
    · exact hlists.whole report hreport (not_exists.1 hbreaks)

/-! ## A disk that is full -/

/-- the octets of all files of a tree -/
def used (t : Tree) : Nat :=
  (t.entries.map fun entry => match entry.2 with
    | .file content => content.length
    | .directory => 0).sum

/-- writing to a disk with room for some octets: a file is created, or emptied if it is there, and filled as far as there is
room -/
def fill (room : Nat) (p : Path) (content : Bytes) (t : Tree) : Except FileError Unit × Tree :=
  let free := room - used ((t.write p []).toOption.getD t)
  match t.write p (content.take free) with
  | .error cause => (.error cause, t)
  | .ok t' => (if content.length ≤ free then .ok () else .error ⟨.noRoom, p⟩, t')

theorem obeys_fill (room : Nat) (p : Path) (content : Bytes) (t : Tree) :
    Obeys t (t.write p content) (LeftAt t p) (fill room p content t).2 (fill room p content t).1 := by
  unfold fill
  dsimp only
  generalize room - used ((t.write p []).toOption.getD t) = free
  rcases hleft : t.write p (content.take free) with cause | t'
  · exact .refused rfl
  · dsimp only
    split_ifs with hfits
    · rw [List.take_of_length_le hfits] at hleft
      exact .done hleft
    · exact .brokenOff ⟨_, hleft⟩

/-- a disk with room for some octets -/
def fullDisk (room : Nat) : FileSystem (StateM Tree) :=
  { Tree.system with write := fun p content => ExceptT.mk (fill room p content) }

theorem backs_fullDisk (room : Nat) : Backs (fullDisk room) id :=
  { Tree.backs_system with write := obeys_fill room }

/-- room for the host with the first library, and for 100 octets of the second one -/
def room : Nat := used Sample.start + (Sample.library 1).length + 100

def noRoom : FileError := ⟨.noRoom, Path.ofText "out/Alpha_1.dll"⟩

/-- the outcome of writing two modules to that disk -/
def halfWritten : Except FileError (List Path) × Tree × List Path :=
  (Output.writeModules ((fullDisk room).recording id) [Sample.revisionInfo 1, Sample.revisionInfo 2] (Path.ofText "out")
    false).run.run (Sample.start, [])

theorem halfWritten_eq : halfWritten.1 = .error noRoom ∧
    halfWritten.2.2 = [Path.ofText "out/Alpha.dll", Path.ofText "out/Alpha_1.dll"] ∧
    halfWritten.2.1.read (Path.ofText "out/Alpha.dll") = .ok (Sample.library 1) ∧
    halfWritten.2.1.read (Path.ofText "out/Alpha_1.dll") = .ok ((Sample.library 2).take 100) := by
  decide +kernel

/-- with room for one of two modules only, neither the file that was written is listed nor the one that was left unfinished -/
theorem written_eq_iff_fullDisk :
    ∃ notes report t', (processFile ((fullDisk room).recording id) {} (some (Path.ofText "out")) true (Path.ofText "a.exe")).run
        (Sample.start, []) = ((notes, .ok report), (t', [Path.ofText "out/Alpha.dll", Path.ofText "out/Alpha_1.dll"])) ∧
      t'.read (Path.ofText "out/Alpha.dll") = .ok (Sample.library 1) ∧
      t'.read (Path.ofText "out/Alpha_1.dll") = .ok ((Sample.library 2).take 100) ∧
      (∀ q, t'.content? q ≠ Sample.start.content? q →
        t'.place (Path.ofText "out/Alpha.dll") = .ok q ∨ t'.place (Path.ofText "out/Alpha_1.dll") = .ok q) ∧
      report.written = [] ∧ report.failure = some (.file noRoom) := by
  obtain ⟨found, hexamine, -, -, hinfos⟩ := Sample.examine_host (show ({} : Settings).resources = _ from rfl)
  have hrecovered : recovered (Path.ofText "a.exe") {} (.ok Sample.host) = [Sample.revisionInfo 1, Sample.revisionInfo 2] :=
    Sample.recovered_host rfl
  obtain ⟨r, t', paths, hrun, hrecording, -⟩ := Output.noted_writeModules (fullDisk room) id
    [Sample.revisionInfo 1, Sample.revisionInfo 2] (Path.ofText "out") false Sample.start []
  have houtcome := halfWritten_eq
  rw [halfWritten, hrecording] at houtcome
  obtain ⟨rfl, rfl, hwhole, hcut⟩ := houtcome
  have hread : (((fullDisk room).recording id).read (Path.ofText "a.exe")).run.run (Sample.start, []) =
    (.ok Sample.host, (Sample.start, [])) := rfl
  obtain ⟨notes, hruns⟩ : ∃ notes, Runs ((fullDisk room).recording id) {} (some (Path.ofText "out")) true (Path.ofText "a.exe")
      (Sample.start, []) ((notes, .ok { found.report with failure := some (.file noRoom) }),
        (t', [Path.ofText "out/Alpha.dll", Path.ofText "out/Alpha_1.dll"])) :=
    ⟨_, .brokenOff hread hexamine rfl (by simp [hinfos]) (by rw [hinfos]; exact hrecording) rfl⟩
  have hbreaks : BreaksOff (fullDisk room) {} (some (Path.ofText "out")) true (Path.ofText "a.exe") Sample.start noRoom := by
    refine ⟨.ok Sample.host, Sample.start, t', rfl, rfl, by simp [hrecovered], ?_⟩
    rw [hrecovered]
    exact hrun
  obtain ⟨-, hreports⟩ := written_eq_iff _ _ _ _ _ _ _ _ _ _ _ hruns.run_eq
  obtain ⟨hwritten, hfailure⟩ := hreports.broken _ rfl noRoom hbreaks
  refine ⟨_, _, t', hruns.run_eq, hwhole, hcut, fun q hq => ?_, hwritten, hfailure⟩
  obtain ⟨p, hp, hplace⟩ := (hreports.disk (backs_fullDisk room)).only q hq
  rcases List.mem_pair.1 hp with rfl | rfl
  · exact .inl hplace
  · exact .inr hplace

end Unbundle.Processing
