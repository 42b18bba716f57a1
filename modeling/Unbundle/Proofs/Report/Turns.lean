import Unbundle.Command.Run
import Unbundle.Files.Tree
import Unbundle.Proofs.Report.Obstacles
/-
The turn of one file after the other.

The file system is any set of operations on any kind of state: nothing is assumed of what they answer, or of when they fail. In
a file's turn the file is read and looked into, and what is found is written. Something may stand in the way at each step. The
report on the file tells of it, and the next file has its turn; only an obstacle that escapes ends the scan.

`Turns` is the scan as far as it goes: each turn begins in the state in which the one before it ended.

Results:
- `runs_processFile`: what a turn comes to, case by case.
- `turned_processFile`: a turn ends with a report that tells of the obstacle, if there was one, or with an obstacle that escapes.
- `Turns.unique`: the turns of some files are decided by the state in which they begin.
- `one_report_each`: there is one report for each file, in order, exactly if no turn comes across an obstacle that escapes.
-/
namespace Unbundle.Processing

section

variable {σ : Type} (fs : FileSystem (StateM σ)) (s : Settings) (output : Option Path) (write : Bool) (file : Path)

/-- something stands in the way of a file's turn that begins in a state -/
inductive TurnObstacle (w : σ) : Failure → Prop
  | look {content : Except FileError Bytes} {w₁ : σ} {f : Failure} (hread : (fs.read file).run.run w = (content, w₁))
      (h : Obstacle file s content f) : TurnObstacle w f
  | write {content : Except FileError Bytes} {w₁ w₂ : σ} {cause : FileError} (hwrite : write = true)
      (hread : (fs.read file).run.run w = (content, w₁)) (hinfos : recovered file s content ≠ [])
      (h : (Output.writeModules fs (recovered file s content) (output.getD (defaultDirectory file s)) s.overwrite).run.run w₁ =
        (.error cause, w₂)) : TurnObstacle w (.file cause)

/-- the outcome of a file's turn: a report that tells whether something stood in the way, or an obstacle that escapes -/
def Turned (w : σ) : Except Failure FileReport → Prop
  | .ok report => report.file = file ∧ (∀ f, report.failure = some f → TurnObstacle fs s output write file w f) ∧
      ((∃ f, TurnObstacle fs s output write file w f) → report.failure ≠ none) ∧
      ∀ f, TurnObstacle fs s output write file w f → f.isContained
  | .error f => TurnObstacle fs s output write file w f ∧ f.isContained = false

end

variable {σ : Type} {fs : FileSystem (StateM σ)} {s : Settings} {output : Option Path} {write : Bool} {file : Path}
  {w w' w₁ w₂ : σ} {content : Except FileError Bytes} {notes : List LogNote} {found done : Finding} {f : Failure}

theorem run_bind_of_run {α β : Type} {x : StateM σ α} {g : α → StateM σ β} {a : α} (h : x.run w = (a, w₁)) :
    (x >>= g).run w = (g a).run w₁ := by
  rw [StateT.run_bind, h]
  rfl

theorem processFile_of_escape (hread : (fs.read file).run.run w = (content, w₁))
    (hlook : examine file s content = (notes, .error f)) :
    (processFile fs s output write file).run w = ((notes, .error f), w₁) := by
  rw [processFile, run_bind_of_run hread, hlook]
  rfl

/-- what is done about a finding: it is written if that is asked for -/
def finish (fs : FileSystem (StateM σ)) (s : Settings) (output : Option Path) (write : Bool) (found : Finding) :
    StateM σ (Except Failure Finding) :=
  if write then writeFinding fs s output found else pure (.ok found)

theorem processFile_of_failure (hread : (fs.read file).run.run w = (content, w₁))
    (hlook : examine file s content = (notes, .ok found))
    (hfinish : (finish fs s output write found).run w₁ = (.error f, w₂)) :
    (processFile fs s output write file).run w = ((found.log, .error f), w₂) := by
  rw [processFile, run_bind_of_run hread, hlook]
  dsimp only
  unfold finish at hfinish
  split_ifs at hfinish ⊢ with hwrite
  all_goals
    rw [run_bind_of_run hfinish]
    rfl

/-- the last note on a file -/
def closingNote (file : Path) (report : FileReport) : LogNote :=
  .withData .info ("Processed " ++ file.toText) report.toJson

/-- the note on a writing that broke off -/
def brokenNote (report : FileReport) (cause : FileError) : LogNote :=
  .ofFailure ("Writing modules of " ++ report.file.toText ++ " failed") (.file cause)

theorem run_processFile (hread : (fs.read file).run.run w = (content, w₁))
    (hlook : examine file s content = (notes, .ok found))
    (hfinish : (finish fs s output write found).run w₁ = (.ok done, w₂)) :
    (processFile fs s output write file).run w =
      ((done.log ++ [closingNote file done.report], .ok done.report), w₂) := by
  rw [processFile, run_bind_of_run hread, hlook]
  dsimp only
  unfold finish at hfinish
  split_ifs at hfinish ⊢ with hwrite
  all_goals
    rw [run_bind_of_run hfinish]
    rfl

theorem writeFinding_of_outcome {outcome : Except FileError (List Path)} (hinfos : found.infos ≠ [])
    (h : (Output.writeModules fs found.infos (output.getD (defaultDirectory found.report.file s)) s.overwrite).run.run w₁ =
      (outcome, w₂)) : (writeFinding fs s output found).run w₁ = (found.after outcome, w₂) := by
  rw [writeFinding, if_neg hinfos, run_bind_of_run h]
  rfl

/-- nothing is done about a finding if nothing is to be written -/
theorem finish_of_nothing (h : write = false ∨ found.infos = []) (w : σ) :
    (finish fs s output write found).run w = (.ok found, w) := by
  unfold finish
  split_ifs with hwrite
  · rw [writeFinding, if_pos (h.resolve_left (by simp [hwrite]))]
    rfl
  · rfl

/-- what a file's turn comes to: an obstacle that escapes is found, nothing is written, the modules are written, or writing them
breaks off, which is told in the report or escapes as well -/
inductive Runs (fs : FileSystem (StateM σ)) (s : Settings) (output : Option Path) (write : Bool) (file : Path) (w : σ) :
    (List LogNote × Except Failure FileReport) × σ → Prop
  | escaped {content : Except FileError Bytes} {w₁ : σ} {notes : List LogNote} {f : Failure}
      (hread : (fs.read file).run.run w = (content, w₁)) (hlook : examine file s content = (notes, .error f)) :
      Runs fs s output write file w ((notes, .error f), w₁)
  | unwritten {content : Except FileError Bytes} {w₁ : σ} {notes : List LogNote} {found : Finding}
      (hread : (fs.read file).run.run w = (content, w₁)) (hlook : examine file s content = (notes, .ok found))
      (hnothing : write = false ∨ found.infos = []) :
      Runs fs s output write file w ((found.log ++ [closingNote file found.report], .ok found.report), w₁)
  | written {content : Except FileError Bytes} {w₁ w₂ : σ} {notes : List LogNote} {found : Finding} {paths : List Path}
      (hread : (fs.read file).run.run w = (content, w₁)) (hlook : examine file s content = (notes, .ok found))
      (hwrite : write = true) (hinfos : found.infos ≠ [])
      (hrun : (Output.writeModules fs found.infos (output.getD (defaultDirectory found.report.file s)) s.overwrite).run.run w₁ =
        (.ok paths, w₂)) :
      Runs fs s output write file w ((found.log ++ [closingNote file { found.report with written := paths }],
        .ok { found.report with written := paths }), w₂)
  | brokenOff {content : Except FileError Bytes} {w₁ w₂ : σ} {notes : List LogNote} {found : Finding} {cause : FileError}
      (hread : (fs.read file).run.run w = (content, w₁)) (hlook : examine file s content = (notes, .ok found))
      (hwrite : write = true) (hinfos : found.infos ≠ [])
      (hrun : (Output.writeModules fs found.infos (output.getD (defaultDirectory found.report.file s)) s.overwrite).run.run w₁ =
        (.error cause, w₂)) (hcontained : (Failure.file cause).isContained) :
      Runs fs s output write file w ((found.log ++ [brokenNote found.report cause] ++
        [closingNote file { found.report with failure := some (.file cause) }],
        .ok { found.report with failure := some (.file cause) }), w₂)
  | refused {content : Except FileError Bytes} {w₁ w₂ : σ} {notes : List LogNote} {found : Finding} {cause : FileError}
      (hread : (fs.read file).run.run w = (content, w₁)) (hlook : examine file s content = (notes, .ok found))
      (hwrite : write = true) (hinfos : found.infos ≠ [])
      (hrun : (Output.writeModules fs found.infos (output.getD (defaultDirectory found.report.file s)) s.overwrite).run.run w₁ =
        (.error cause, w₂)) (hescapes : (Failure.file cause).isContained = false) :
      Runs fs s output write file w ((found.log, .error (.file cause)), w₂)

theorem after_of_written (paths : List Path) :
    found.after (.ok paths) = .ok { found with report := { found.report with written := paths } } := rfl

theorem after_of_contained {cause : FileError} (h : (Failure.file cause).isContained) : found.after (.error cause) =
    .ok { found with
      report := { found.report with failure := some (.file cause) }, log := found.log ++ [brokenNote found.report cause] } := by
  simp only [Finding.after, h, if_true]
  rfl

theorem after_of_escaping {cause : FileError} (h : (Failure.file cause).isContained = false) :
    found.after (.error cause) = .error (.file cause) := by
  simp only [Finding.after, h, Bool.false_eq_true, if_false]

/-- a turn comes to one of these -/
theorem Runs.run_eq {outcome : (List LogNote × Except Failure FileReport) × σ}
    (h : Runs fs s output write file w outcome) : (processFile fs s output write file).run w = outcome := by
  have hfinish {found : Finding} {w₁ w₂ : σ} {r : Except FileError (List Path)} (hwrite : write = true)
      (hinfos : found.infos ≠ [])
      (hrun : (Output.writeModules fs found.infos (output.getD (defaultDirectory found.report.file s)) s.overwrite).run.run w₁ =
        (r, w₂)) : (finish fs s output write found).run w₁ = (found.after r, w₂) := by
    rw [finish, if_pos hwrite]
    exact writeFinding_of_outcome hinfos hrun
  cases h with
  | escaped hread hlook => exact processFile_of_escape hread hlook
  | unwritten hread hlook hnothing => exact run_processFile hread hlook (finish_of_nothing hnothing _)
  | written hread hlook hwrite hinfos hrun =>
    have hdone := hfinish hwrite hinfos hrun
    rw [after_of_written] at hdone
    -- the finding is the one that is done, which the goal alone does not tell
    have hprocess := run_processFile hread hlook hdone
    exact hprocess
  | brokenOff hread hlook hwrite hinfos hrun hcontained =>
    have hdone := hfinish hwrite hinfos hrun
    rw [after_of_contained hcontained] at hdone
    have hprocess := run_processFile hread hlook hdone
    exact hprocess
  | refused hread hlook hwrite hinfos hrun hescapes =>
    have hdone := hfinish hwrite hinfos hrun
    rw [after_of_escaping hescapes] at hdone
    exact processFile_of_failure hread hlook hdone

theorem runs_processFile (fs : FileSystem (StateM σ)) (s : Settings) (output : Option Path) (write : Bool) (file : Path) (w : σ) :
    Runs fs s output write file w ((processFile fs s output write file).run w) := by
  suffices h : ∃ outcome, Runs fs s output write file w outcome by
    obtain ⟨outcome, houtcome⟩ := h
    rwa [houtcome.run_eq]
  rcases hread : (fs.read file).run.run w with ⟨content, w₁⟩
  rcases hlook : examine file s content with ⟨notes, f | found⟩
  · exact ⟨_, .escaped hread hlook⟩
  by_cases hnothing : write = false ∨ found.infos = []
  · exact ⟨_, .unwritten hread hlook hnothing⟩
  obtain ⟨hwrite, hinfos⟩ := not_or.1 hnothing
  have hwrite : write = true := by simpa using hwrite
  rcases hrun : (Output.writeModules fs found.infos (output.getD (defaultDirectory found.report.file s)) s.overwrite).run.run w₁
    with ⟨cause | paths, w₂⟩
  · rcases hcontained : (Failure.file cause).isContained
    · exact ⟨_, .refused hread hlook hwrite hinfos hrun hcontained⟩
    · exact ⟨_, .brokenOff hread hlook hwrite hinfos hrun hcontained⟩
  · exact ⟨_, .written hread hlook hwrite hinfos hrun⟩

theorem TurnObstacle.cases_of_read (hread : (fs.read file).run.run w = (content, w₁))
    (h : TurnObstacle fs s output write file w f) : Obstacle file s content f ∨ ∃ cause w₂, f = .file cause ∧ write = true ∧
      recovered file s content ≠ [] ∧ (Output.writeModules fs (recovered file s content)
        (output.getD (defaultDirectory file s)) s.overwrite).run.run w₁ = (.error cause, w₂) := by
  cases h with
  | look hread' h =>
    cases hread.symm.trans hread'
    exact .inl h
  | write hwrite hread' hinfos h =>
    cases hread.symm.trans hread'
    exact .inr ⟨_, _, rfl, hwrite, hinfos, h⟩

/-- a turn in which a file was looked into, and in which no obstacle came up that its report does not tell of -/
theorem FoundIn.turned (hfound : FoundIn file s content found) (hread : (fs.read file).run.run w = (content, w₁))
    (hno : ∀ cause w₂, write = true → recovered file s content ≠ [] → (Output.writeModules fs (recovered file s content)
      (output.getD (defaultDirectory file s)) s.overwrite).run.run w₁ ≠ (.error cause, w₂))
    {report : FileReport} (hfile : report.file = found.report.file) (hfailure : report.failure = found.report.failure) :
    Turned fs s output write file w (.ok report) := by
  have hlook : ∀ f, TurnObstacle fs s output write file w f → Obstacle file s content f := fun f hf => by
    rcases hf.cases_of_read hread with hobstacle | ⟨cause, w₂, rfl, hwrite, hinfos, hrun⟩
    · exact hobstacle
    · exact absurd hrun (hno cause w₂ hwrite hinfos)
  refine ⟨hfile.trans hfound.file_eq, fun f hf => ?_, fun ⟨f, hf⟩ => ?_, fun f hf => hfound.contained f (hlook f hf)⟩
  · exact .look hread ((hfound.failure_iff f).1 (hfailure ▸ hf))
  · rw [hfailure, (hfound.failure_iff f).2 (hlook f hf)]
    simp

/-- a file's turn ends with a report, or with an obstacle that escapes -/
theorem turned_processFile (fs : FileSystem (StateM σ)) (s : Settings) (output : Option Path) (write : Bool) (file : Path)
    (w : σ) : Turned fs s output write file w ((processFile fs s output write file).run w).1.2 := by
  have hruns := runs_processFile fs s output write file w
  generalize (processFile fs s output write file).run w = outcome at hruns ⊢
  cases hruns with
  | @escaped content _ _ _ hread hlook =>
    have htold := told_examine file s content
    rw [hlook] at htold
    exact ⟨.look hread htold.1, htold.2⟩
  | unwritten hread hlook hnothing =>
    have hfound := FoundIn.of_examine hlook
    refine hfound.turned hread (fun cause w₂ hwrite hinfos => ?_) rfl rfl
    rw [hfound.infos_eq, hwrite] at hnothing
    simp [hinfos] at hnothing
  | written hread hlook hwrite hinfos hrun =>
    have hfound := FoundIn.of_examine hlook
    rw [hfound.infos_eq, hfound.file_eq] at hrun
    refine hfound.turned hread (fun cause w₃ _ _ hrun' => ?_) rfl rfl
    cases hrun.symm.trans hrun'
  | brokenOff hread hlook hwrite hinfos hrun hcontained =>
    have hfound := FoundIn.of_examine hlook
    rw [hfound.infos_eq, hfound.file_eq] at hrun
    rw [hfound.infos_eq] at hinfos
    refine ⟨hfound.file_eq, fun f hf => ?_, by simp, fun f hf => ?_⟩
    · cases hf
      exact .write hwrite hread hinfos hrun
    · rcases hf.cases_of_read hread with hlooked | ⟨cause', w₃, rfl, -, -, hrun'⟩
      · exact hfound.contained f hlooked
      · cases hrun.symm.trans hrun'
        exact hcontained
  | refused hread hlook hwrite hinfos hrun hescapes =>
    have hfound := FoundIn.of_examine hlook
    rw [hfound.infos_eq, hfound.file_eq] at hrun
    rw [hfound.infos_eq] at hinfos
    exact ⟨.write hwrite hread hinfos hrun, hescapes⟩

theorem escapes_of_turnObstacle (h : TurnObstacle fs s output write file w f) (hf : f.isContained = false) :
    Escapes f := by
  cases h with
  | look _ hlook => exact escapes_of_obstacle hlook hf
  | @write content w₁ w₂ cause _ _ _ _ =>
    have hread : Obstacle file s (.error cause) (.file cause) := .read cause
    exact escapes_of_obstacle hread hf

end Unbundle.Processing

namespace Unbundle.Scan

open Processing

section

variable {σ : Type} (fs : FileSystem (StateM σ)) (s : Settings) (output : Path → Option Path) (write : Bool)

/-- files had their turns, one after the other: each turn is told with the state in which it began and the report it ended with -/
inductive Turns : σ → List Path → List (σ × FileReport) → σ → Prop
  | nil (w : σ) : Turns w [] [] w
  | cons {w w₁ w₂ : σ} {file : Path} {files : List Path} {notes : List LogNote} {report : FileReport}
      {turns : List (σ × FileReport)} (hturn : (processFile fs s (output file) write file).run w = ((notes, .ok report), w₁))
      (hreport : Turned fs s (output file) write file w (.ok report)) (hrest : Turns w₁ files turns w₂) :
      Turns w (file :: files) ((w, report) :: turns) w₂

/-- the turn of a file comes, after the files before it had theirs, and something stands in its way -/
def Meets (w : σ) (files : List Path) (f : Failure) : Prop :=
  ∃ front file back turns w₁, files = front ++ file :: back ∧ Turns fs s output write w front turns w₁ ∧
    TurnObstacle fs s (output file) write file w₁ f

end

variable {σ : Type} {fs : FileSystem (StateM σ)} {s : Settings} {output : Path → Option Path} {write : Bool}
  {w w' w₁ w₂ : σ} {file : Path} {files front back : List Path} {report : FileReport} {reports : List FileReport}
  {turns turns' : List (σ × FileReport)} {f : Failure}

theorem Turns.map_file (h : Turns fs s output write w files turns w') : turns.map (·.2.file) = files := by
  induction h with
  | nil => rfl
  | cons _ hreport _ ih => rw [List.map_cons, ih, hreport.1]

/-- the turns of some files are decided by the state in which they begin -/
theorem Turns.unique (h : Turns fs s output write w files turns w₁) (h' : Turns fs s output write w files turns' w₂) :
    turns = turns' ∧ w₁ = w₂ := by
  induction h generalizing turns' with
  | nil =>
    cases h'
    exact ⟨rfl, rfl⟩
  | cons hturn _ _ ih =>
    cases h' with
    | cons hturn' _ hrest' =>
      cases hturn.symm.trans hturn'
      obtain ⟨rfl, rfl⟩ := ih hrest'
      exact ⟨rfl, rfl⟩

/-- where all of some files had their turns each of them had its own after those before it -/
theorem Turns.exists_turn (h : Turns fs s output write w (front ++ file :: back) turns w') :
    ∃ turns₁ w₁ report, Turns fs s output write w front turns₁ w₁ ∧
      Turned fs s (output file) write file w₁ (.ok report) := by
  induction front generalizing w turns with
  | nil =>
    cases h with
    | cons _ hreport _ => exact ⟨[], w, _, .nil w, hreport⟩
  | cons first rest ih =>
    cases h with
    | cons hturn hreport hrest =>
      obtain ⟨turns₁, w₁, report, hfront, hfile⟩ := ih hrest
      exact ⟨_, w₁, report, .cons hturn hreport hfront, hfile⟩

/-- files are processed to the end, or as far as one whose turn comes across an obstacle that escapes -/
theorem processEach_cases (fs : FileSystem (StateM σ)) (s : Settings) (output : Path → Option Path) (write : Bool)
    (files : List Path) (w : σ) :
    (∃ notes turns w', (processEach fs s output write files).run w = ((notes, .ok (turns.map (·.2))), w') ∧
      Turns fs s output write w files turns w') ∨
    ∃ notes f w', (processEach fs s output write files).run w = ((notes, .error f), w') ∧
      Meets fs s output write w files f ∧ f.isContained = false := by
  induction files generalizing w with
  | nil => exact .inl ⟨[], [], w, rfl, .nil w⟩
  | cons file rest ih =>
    rw [processEach]
    have hturned := turned_processFile fs s (output file) write file w
    rcases hturn : (processFile fs s (output file) write file).run w with ⟨⟨notes, f | report⟩, w₁⟩
    · rw [hturn] at hturned
      rw [run_bind_of_run hturn]
      exact .inr ⟨notes, f, w₁, rfl, ⟨[], file, rest, [], w, rfl, .nil w, hturned.1⟩, hturned.2⟩
    rw [hturn] at hturned
    rw [run_bind_of_run hturn]
    rcases ih w₁ with ⟨later, turns, w', hrun, hturns⟩ | ⟨later, f, w', hrun, hmeets, hf⟩
    · dsimp only
      rw [run_bind_of_run hrun]
      exact .inl ⟨_, (w, report) :: turns, w', rfl, .cons hturn hturned hturns⟩
    · dsimp only
      rw [run_bind_of_run hrun]
      obtain ⟨front, other, back, turns, w₂, rfl, hturns, hobstacle⟩ := hmeets
      exact .inr ⟨_, f, w', rfl, ⟨file :: front, other, back, _, w₂, rfl, .cons hturn hturned hturns, hobstacle⟩, hf⟩

/-- where all files had their turns nothing escaped -/
theorem Turns.isContained (h : Turns fs s output write w files turns w') (hf : Meets fs s output write w files f) :
    f.isContained := by
  obtain ⟨front, file, back, turns₁, w₁, rfl, hfront, hobstacle⟩ := hf
  obtain ⟨turns₂, w₂, report, hfront', -, -, -, hcontained⟩ := h.exists_turn
  obtain ⟨rfl, rfl⟩ := hfront.unique hfront'
  exact hcontained f hobstacle

theorem Meets.escapes (h : Meets fs s output write w files f) (hf : f.isContained = false) : Escapes f := by
  obtain ⟨_, _, _, _, _, _, _, hobstacle⟩ := h
  exact escapes_of_turnObstacle hobstacle hf

theorem run_of_collect {input : Path} {output : Option Path}
    (hcollect : (Pattern.collect fs input s.patterns).run.run w = (.ok files, w₁)) :
    (run fs s input output write).run w =
      (processEach fs s (outputOf output (files.length = 1)) write files).run w₁ := by
  rw [run, run_bind_of_run hcollect]

/-- the command keeps the reports of a scan, and fails if they cannot be shown -/
theorem runWith_of_run {r : Command.Request} {begun : Command.RunResult} {notes : List LogNote}
    (h : (run fs s r.inputPath r.task.output r.task.writes).run w = ((notes, .ok reports), w₁)) :
    ((Command.runWith fs s r begun).run w).1.reports = reports ∧
      ∀ cause, (ConsoleItem.linesOfAll (Console.runItems r.inputPath reports)).2 = some cause →
        ((Command.runWith fs s r begun).run w).1.failure = some (.markup cause) := by
  have hfailure : ∀ cause, (ConsoleItem.linesOfAll (Console.runItems r.inputPath reports)).2 = some cause →
      (({ begun with log := r.log notes, reports } : Command.RunResult).show
        (Console.runItems r.inputPath reports)).failure = some (.markup cause) := fun cause hcause => by
    show Option.map Failure.markup (ConsoleItem.linesOfAll (Console.runItems r.inputPath reports)).2 = _
    rw [hcause]
    rfl
  rw [Command.runWith, run_bind_of_run h]
  dsimp only
  split_ifs with hshown
  · exact ⟨rfl, hfailure⟩
  -- what is left to be done is done only if the reports were shown
  have hno : ∀ cause, (ConsoleItem.linesOfAll (Console.runItems r.inputPath reports)).2 ≠ some cause := fun cause hcause =>
    hshown (by rw [hfailure cause hcause]; rfl)
  rcases hreports : (Command.writeReports fs r.task.report reports).run.run w₁ with ⟨cause | done, w₂⟩
  · rw [run_bind_of_run hreports]
    exact ⟨rfl, fun cause hcause => absurd hcause (hno cause)⟩
  · rw [run_bind_of_run hreports]
    exact ⟨rfl, fun cause hcause => absurd hcause (hno cause)⟩

/-- what becomes of a scan of some files that begins in the state `w₀`, after the files were collected in the state `w` -/
structure ReportsEach {σ : Type} (fs : FileSystem (StateM σ)) (s : Settings) (input : Path) (output : Option Path) (write : Bool)
    (w w₀ : σ) (files : List Path) : Prop where
  /-- each file has one report, in order, from a turn of its own -/
  reports : ∀ reports, ((run fs s input output write).run w).1.2 = .ok reports → reports.map (·.file) = files ∧
    ∃ turns, turns.map (·.2) = reports ∧
      Turns fs s (outputOf output (files.length = 1)) write w₀ files turns ((run fs s input output write).run w).2
  /-- what ends a scan escapes, and a turn came across it -/
  met : ∀ f, ((run fs s input output write).run w).1.2 = .error f →
    Meets fs s (outputOf output (files.length = 1)) write w₀ files f ∧ Escapes f
  /-- what escapes ends the scan whose turn comes across it -/
  ended : ∀ f, Meets fs s (outputOf output (files.length = 1)) write w₀ files f → Escapes f →
    ∃ f', ((run fs s input output write).run w).1.2 = .error f'
  /-- the command has the reports of the scan, and fails if the marks in what it shows of them are faulty -/
  command : ∀ (r : Command.Request) (begun : Command.RunResult), r.inputPath = input → r.task.output = output →
    r.task.writes = write → ∀ reports, ((run fs s input output write).run w).1.2 = .ok reports →
    ((Command.runWith fs s r begun).run w).1.reports = reports ∧
    ∀ cause, (ConsoleItem.linesOfAll (Console.runItems input reports)).2 = some cause →
      ((Command.runWith fs s r begun).run w).1.failure = some (.markup cause)

/-- **Each file has a report of its own, unless something escapes.** When the files at a path are scanned, each of them has its
turn, in order, and one report, which tells whether something stood in the way of reading, loading, recovering or writing; what
became of one file does not keep another from its turn. There are no reports at all exactly if a turn comes across an obstacle
that escapes, or, for the command, if the marks in what is to be shown are faulty. -/
theorem one_report_each {σ : Type} (fs : FileSystem (StateM σ)) (s : Settings) (input : Path) (output : Option Path)
    (write : Bool) (w w₀ : σ) (files : List Path)
    (hcollect : (Pattern.collect fs input s.patterns).run.run w = (.ok files, w₀)) :
    ReportsEach fs s input output write w w₀ files := by
  have hrun : (run fs s input output write).run w = _ := run_of_collect hcollect
  rcases processEach_cases fs s (outputOf output (files.length = 1)) write files w₀ with
    ⟨notes, turns, w', heach, hturns⟩ | ⟨notes, f, w', heach, hmeets, hf⟩
  · rw [heach] at hrun
    constructor
    case reports =>
      rw [hrun]
      intro reports h
      cases h
      exact ⟨by rw [List.map_map]; exact hturns.map_file, turns, rfl, hturns⟩
    case met =>
      rw [hrun]
      intro f h
      cases h
    case ended =>
      intro f hmeets hescapes
      exact absurd (hturns.isContained hmeets) (by simp [hescapes.not_isContained])
    case command =>
      intro r begun hinput houtput hwrite reports h
      rw [hrun] at h
      cases h
      subst hinput houtput hwrite
      exact runWith_of_run hrun
  · rw [heach] at hrun
    constructor
    case reports =>
      rw [hrun]
      intro reports h
      cases h
    case met =>
      rw [hrun]
      intro f' h
      cases h
      exact ⟨hmeets, hmeets.escapes hf⟩
    case ended =>
      rw [hrun]
      exact fun f' _ _ => ⟨f, rfl⟩
    case command =>
      rw [hrun]
      intro r begun _ _ _ reports h
      cases h

/-- a file that is no image has its report, which tells so -/
theorem one_report_each_brokenFile :
    let t : Tree := ⟨[(["a.exe"], .file [0x4D, 0x5A])], []⟩
    let outcome := (run Tree.system Settings.default (Path.ofText "a.exe") none true).run t
    ∃ report, outcome.1.2 = .ok [report] ∧ report.failure = some (.load (.format .notAnImage)) ∧
      [report].map (·.file) = [Path.ofText "a.exe"] ∧ ∃ turns, turns.map (·.2) = [report] ∧
        Turns Tree.system Settings.default (outputOf none true) true t [Path.ofText "a.exe"] turns outcome.2 := by
  intro t outcome
  have hscan := one_report_each Tree.system Settings.default (Path.ofText "a.exe") none true t t [Path.ofText "a.exe"] rfl
  obtain ⟨report, hok, hfailure⟩ : ∃ report, outcome.1.2 = .ok [report] ∧
      report.failure = some (.load (.format .notAnImage)) := ⟨_, rfl, rfl⟩
  obtain ⟨hfiles, hturns⟩ := hscan.reports [report] hok
  exact ⟨report, hok, hfailure, hfiles, hturns⟩

end Unbundle.Scan
