import Unbundle.Proofs.Files.Writing
import Unbundle.Proofs.Manifest.RoundTrip
import Unbundle.Proofs.Report.Turns
/-
What a scan leaves on disk.

The modules of all files are written in turns, into one directory or several, and paths of different files may lead to one
place. What stands at a place in the end is what was written there last. Unless files may be replaced no two paths lead to one
place, so that each module that was recovered is found where its report says it is.

Results:
- `exists_kind_of_mem_recovered`: a recovered module's file name has the extension of a kind, and so it is never empty.
- `Turns.kept`: the writes of all turns, taken together, leave what the last one of them wrote at each place.
- `reads_of_run`: after a scan without a failure every path that a report lists holds what was written there last.
-/
namespace Unbundle

open Processing

variable {s : Settings} {file : Path} {t t' t₁ : Tree} {report : FileReport}

/-! ## The names of recovered modules -/

theorem Manifest.exists_kind_of_yieldOf {codec : Codec} {data : Bytes} {child : Xml.Node} {info : AssemblyInfo}
    (h : yieldOf codec data child = .ok (.module info)) : ∃ kind : ModuleKind, info.extension = kind.extension := by
  cases gives_iff.2 h with
  | @module offset payload identity => exact ⟨identity.kind, rfl⟩

theorem Manifest.exists_kind_of_mem_drain {codec : Codec} {data : Bytes} {children : List Xml.Node} {info : AssemblyInfo}
    (h : info ∈ (drain codec data children).infos) : ∃ kind : ModuleKind, info.extension = kind.extension := by
  induction children with
  | nil => simp [drain] at h
  | cons child rest ih =>
    rw [drain] at h
    split at h
    · simp at h
    · exact ih h
    · exact ih h
    · next i hyield =>
      rcases List.mem_cons.1 h with rfl | hrest
      · exact exists_kind_of_yieldOf hyield
      · exact ih hrest

theorem Manifest.exists_kind_of_mem_extract {codec : Codec} {data : Bytes} {document : Except Xml.DocumentError Xml.Element}
    {info : AssemblyInfo} (h : info ∈ (extract codec data document).infos) :
    ∃ kind : ModuleKind, info.extension = kind.extension := by
  cases document with
  | error cause => simp [extract] at h
  | ok root =>
    simp only [extract, extractRoot] at h
    split_ifs at h
    · simp at h
    · exact exists_kind_of_mem_drain h

/-- a recovered module is written to a file with the extension of a kind -/
theorem exists_kind_of_mem_recovered {content : Except FileError Bytes} {info : AssemblyInfo}
    (h : info ∈ recovered file s content) : ∃ kind : ModuleKind, info.extension = kind.extension := by
  unfold recovered at h
  split at h
  · simp at h
  split at h
  · simp at h
  next m _ =>
  have hran := Recovery.ran_run codec s.resources m
  generalize Recovery.start.run codec s.resources m = outcome at h hran
  cases hran with
  | untold _ => simp [Recovery.start] at h
  | nothing _ => simp [Recovery.start] at h
  | unmatched _ _ => simp [Recovery.start] at h
  | extracted _ _ => exact Manifest.exists_kind_of_mem_extract h

/-- a name with a character other than slashes and dots has components -/
theorem Path.components_ne_nil {text : String} {c : Char} (h : c ∈ text.toList) (hslash : c ≠ '/') (hdot : c ≠ '.') :
    components text ≠ [] := by
  obtain ⟨piece, hpiece, hc⟩ := exists_mem_pieces h hslash
  have hmem : String.ofList piece ∈ components text := by
    refine List.mem_map_of_mem (List.mem_filter.2 ⟨hpiece, ?_⟩)
    have hempty : piece ≠ [] := List.ne_nil_of_mem hc
    have honly : piece ≠ ['.'] := by
      rintro rfl
      exact hdot (List.mem_singleton.1 hc)
    simp [hempty, honly]
  exact List.ne_nil_of_mem hmem

theorem named_child_of_mem_recovered {content : Except FileError Bytes} {info : AssemblyInfo}
    (h : info ∈ recovered file s content) (directory : Path) : (directory.child info.fileName).Named := by
  obtain ⟨kind, hkind⟩ := exists_kind_of_mem_recovered h
  have hletter : 'e' ∈ kind.extension.toList ∨ 'l' ∈ kind.extension.toList := by
    cases kind <;> decide
  obtain ⟨c, hc, hslash, hdot⟩ : ∃ c ∈ kind.extension.toList, c ≠ '/' ∧ c ≠ '.' :=
    hletter.elim (fun h => ⟨'e', h, by decide, by decide⟩) fun h => ⟨'l', h, by decide, by decide⟩
  have hmem : c ∈ info.fileName.toList := by
    rw [AssemblyInfo.fileName, hkind, String.toList_append]
    exact List.mem_append_right _ hc
  exact Path.named_child_of_ne (Path.components_ne_nil hmem hslash hdot)

/-! ## The writes of a turn -/

/-- the modules that are recovered in a turn -/
def modulesOf (s : Settings) (turn : Tree × FileReport) : List AssemblyInfo :=
  recovered turn.2.file s (turn.1.read turn.2.file)

/-- the modules of some turns, each with the path that its report lists for it -/
def listedBy (s : Settings) (turns : List (Tree × FileReport)) : List (Path × AssemblyInfo) :=
  turns.flatMap fun turn => turn.2.written.zip (modulesOf s turn)

/-- the content that was to be written for each module -/
def contents (listed : List (Path × AssemblyInfo)) : List (Path × Bytes) := listed.map fun entry => (entry.1, entry.2.data)

open Unbundle.Tree

theorem Tree.WritesFor.eq_zip {directory : Path} {entries : List (Path × Bytes)} {infos : List AssemblyInfo}
    (h : WritesFor directory entries infos) : entries.length = infos.length ∧
      entries = contents ((entries.map (·.1)).zip infos) := by
  refine ⟨h.length_eq, ?_⟩
  induction h with
  | nil => rfl
  | @cons entry info entries infos hhead _ ih =>
    rw [List.map_cons, List.zip_cons_cons, contents, List.map_cons, ← hhead.2]
    exact congrArg (entry :: ·) ih

theorem eq_read_of_run {content : Except FileError Bytes} (h : (Tree.system.read file).run.run t = (content, t₁)) :
    content = t.read file ∧ t = t₁ := by
  cases (run_read file t).symm.trans h
  exact ⟨rfl, rfl⟩

/-- a turn without a failure writes all of its modules -/
theorem kept_processFile {output : Option Path} {notes : List LogNote}
    (h : (processFile Tree.system s output true file).run t = ((notes, .ok report), t')) (hnone : report.failure = none) :
    report.written.length = (recovered file s (t.read file)).length ∧
      Kept s.overwrite t (contents (report.written.zip (recovered file s (t.read file)))) t' := by
  have hruns := runs_processFile Tree.system s output true file t
  rw [h] at hruns
  cases hruns with
  | @unwritten content _ notes' found hcontent hlook hnothing =>
    obtain ⟨rfl, rfl⟩ := eq_read_of_run hcontent
    have hfound := FoundIn.of_examine hlook
    have hempty : recovered file s (t.read file) = [] := by
      rw [← hfound.infos_eq]
      simpa using hnothing
    rw [hfound.written_eq, hempty]
    exact ⟨rfl, Kept.refl s.overwrite t⟩
  | @written content w₁ _ notes' found written hcontent hlook hwrite hinfos hrun =>
    obtain ⟨rfl, rfl⟩ := eq_read_of_run hcontent
    have hfound := FoundIn.of_examine hlook
    rw [hfound.infos_eq, hfound.file_eq] at hrun
    obtain ⟨⟨entries, infos, rest, hkept, heq, hfor, hall⟩, -⟩ :=
      writes_writeModules (fun info hinfo => named_child_of_mem_recovered hinfo _) hrun
    obtain ⟨rfl, rfl⟩ := hall written rfl
    rw [List.append_nil] at heq
    obtain ⟨hlength, hentries⟩ := WritesFor.eq_zip hfor
    rw [heq, List.length_map, ← hentries]
    exact ⟨hlength, hkept⟩
  | brokenOff => cases hnone

/-- a turn without a failure that may replace files writes each module to the path of its own name -/
theorem written_of_overwriting {output : Option Path} {notes : List LogNote} (hreplace : s.overwrite = true)
    (h : (processFile Tree.system s output true file).run t = ((notes, .ok report), t')) (hnone : report.failure = none) :
    report.written = (recovered file s (t.read file)).map fun info =>
      (output.getD (defaultDirectory file s)).child info.fileName := by
  have hruns := runs_processFile Tree.system s output true file t
  rw [h] at hruns
  cases hruns with
  | unwritten hcontent hlook hnothing =>
    obtain ⟨rfl, rfl⟩ := eq_read_of_run hcontent
    have hfound := FoundIn.of_examine hlook
    rw [hfound.infos_eq] at hnothing
    rw [hfound.written_eq, hnothing.resolve_left (by simp)]
    rfl
  | written hcontent hlook hwrite hinfos hrun =>
    obtain ⟨rfl, rfl⟩ := eq_read_of_run hcontent
    have hfound := FoundIn.of_examine hlook
    rw [hreplace, hfound.infos_eq, hfound.file_eq] at hrun
    exact Output.paths_of_writeModules hrun
  | brokenOff => cases hnone

/-! ## The writes of a scan -/

/-- the writes of all turns, taken together -/
theorem Scan.Turns.kept {output : Path → Option Path} {files : List Path} {turns : List (Tree × FileReport)}
    (h : Turns Tree.system s output true t files turns t') (hnone : ∀ turn ∈ turns, turn.2.failure = none) :
    (∀ turn ∈ turns, turn.2.written.length = (modulesOf s turn).length) ∧
      Kept s.overwrite t (contents (listedBy s turns)) t' := by
  induction h with
  | nil w => exact ⟨by simp, Kept.refl s.overwrite w⟩
  | @cons w w₁ w₂ file files notes report turns hturn hreport _ ih =>
    obtain ⟨hhead, hrest⟩ := List.forall_mem_cons.1 hnone
    obtain ⟨hlengths, hkept⟩ := ih hrest
    obtain ⟨hlength, hfirst⟩ := kept_processFile hturn hhead
    rw [← hreport.1] at hlength hfirst
    refine ⟨List.forall_mem_cons.2 ⟨hlength, hlengths⟩, ?_⟩
    have happend := hfirst.append hkept
    rwa [contents, contents, ← List.map_append] at happend

/-- every turn that may replace files writes each module to the path of its own name -/
theorem Scan.Turns.written_of_overwriting {output : Path → Option Path} {files : List Path} {turns : List (Tree × FileReport)}
    (h : Turns Tree.system s output true t files turns t') (hreplace : s.overwrite = true)
    (hnone : ∀ turn ∈ turns, turn.2.failure = none) : ∀ turn ∈ turns, turn.2.written = (modulesOf s turn).map fun info =>
      ((output turn.2.file).getD (defaultDirectory turn.2.file s)).child info.fileName := by
  induction h with
  | nil => simp
  | cons hturn hreport _ ih =>
    obtain ⟨hhead, hrest⟩ := List.forall_mem_cons.1 hnone
    refine List.forall_mem_cons.2 ⟨?_, ih hrest⟩
    rw [modulesOf, hreport.1]
    exact Unbundle.written_of_overwriting hreplace hturn hhead

/-- an entry that is not written over later is found at the end -/
theorem Tree.Kept.read_eq {overwrite : Bool} {listed front back : List (Path × AssemblyInfo)} {entry : Path × AssemblyInfo}
    (h : Kept overwrite t (contents listed) t') (hlisted : listed = front ++ entry :: back)
    (hlast : ∀ later ∈ back, t'.place later.1 ≠ t'.place entry.1) : t'.read entry.1 = .ok entry.2.data := by
  subst hlisted
  obtain ⟨q, hq⟩ := h.place (entry.1, entry.2.data) (List.mem_map_of_mem (by simp))
  have hback : t'.lastAt q (contents back) = none := by
    refine lastAt_eq_none fun later hlater => ?_
    obtain ⟨other, hother, rfl⟩ := List.mem_map.1 hlater
    exact hq ▸ hlast other hother
  have hcontent : t'.content? q = some entry.2.data := by
    rw [h.content, contents, List.map_append, List.map_cons, lastAt_append, lastAt, ← contents, hback, hq]
    simp
  rw [read, hq]
  dsimp only
  rw [content?_eq_some.1 hcontent]

/-! ## A host of two revisions of one library

The libraries have one name but not one content. Nothing in the files but what is read of them is filled in: the headers, the
tables with the heaps that their rows point into, and the resources. -/

namespace Sample

open Bytes

def zeros (count : Nat) : Bytes := List.replicate count 0

/-- numbers of one width -/
def numbers (width : Nat) (ns : List Nat) : Bytes := ns.flatMap (ofNat width)

/-- names, each with a zero behind it -/
def names (texts : List String) : Bytes := texts.flatMap fun text => Utf8.encode text ++ [0]

/-- the file of an image with one section, which starts with the runtime header -/
def imageFile (characteristics : Nat) (body : Bytes) : Bytes :=
  let fileHeader := numbers 4 [0x4550] ++ numbers 2 [0x14C, 1] ++ zeros 12 ++ numbers 2 [224, characteristics]
  let optionalHeader := numbers 2 [0x10B, 8] ++ zeros 24 ++ numbers 4 [0x400000, 0x1000, 0x200, 4, 0, 4, 0, 0x2000, 0x200, 0, 3,
    0x100000, 0x1000, 0x100000, 0x1000, 0, 16]
  let directories := zeros 112 ++ numbers 4 [0x1000, 72] ++ zeros 8
  let sectionHeader := names [".text"] ++ zeros 2 ++
    numbers 4 [body.length, 0x1000, body.length, 0x200, 0, 0, 0, 0x60000020]
  [0x4D, 0x5A] ++ zeros 58 ++ numbers 4 [64] ++ fileHeader ++ optionalHeader ++ directories ++ sectionHeader ++ zeros 160 ++ body

/-- the stream of some tables: which there are, how many rows each has, and all rows -/
def tableStream (present : Nat) (counts : List Nat) (rows : Bytes) : Bytes :=
  numbers 4 [0, 0x1000002] ++ ofNat 8 present ++ ofNat 8 0 ++ numbers 4 counts ++ rows

/-- metadata in four streams -/
def metadata (tables texts blobs : Bytes) : Bytes :=
  let stream (name : String) (start : Nat) (content : Bytes) : Bytes :=
    numbers 4 [start, content.length] ++ (names [name] ++ zeros 3).take (Metadata.roundUp (name.length + 1))
  let guids := zeros 16
  numbers 4 [Metadata.signature, 0x10001, 0, 12] ++ names ["v4.0.30319"] ++ zeros 1 ++ numbers 2 [0, 4] ++
    stream "#~" 96 tables ++ stream "#Strings" (96 + tables.length) texts ++
    stream "#GUID" (96 + tables.length + texts.length) guids ++ stream "#Blob" (112 + tables.length + texts.length) blobs ++
    tables ++ texts ++ guids ++ blobs

/-- the file of a module: one method body that only returns, the metadata, and the resources -/
def moduleFile (characteristics : Nat) (metadata resources : Bytes) : Bytes :=
  let header := numbers 4 [72, 0x50002, 0x104C, metadata.length, 1, 0, 0x104C + metadata.length, resources.length] ++ zeros 40
  imageFile characteristics (header ++ [0x06, 0x2A, 0, 0] ++ metadata ++ resources)

/-- a revision of a library without types -/
def library (revision : Nat) : Bytes :=
  let rows := numbers 2 [0, 1, 1, 0, 0] ++ numbers 2 [0x8004, 0, 1, 0, 0, revision, 0, 0, 0, 1, 0]
  moduleFile 0x2102 (metadata (tableStream (1 <<< 0x20 + 1) [1, 1] rows) ([0] ++ names ["Alpha"] ++ zeros 1) (zeros 4)) []

/-- both revisions, one behind the other -/
def payload : Bytes := Flate.storedStream (library 1) ++ Flate.storedStream (library 2)

def manifest : Bytes := Utf8.encode "<manifest><assembly offset='0'/><assembly offset='781'/></manifest>"

/-- a host of the two revisions, with a controller as its only type -/
def host : Bytes :=
  let texts := [0] ++ names [".ctor", "Assembly", "System.Reflection", ".bundle.dat", ".bundle.manifest"]
  -- a number, `void (Assembly)` of an object, `void (Assembly)`, and `string (string)` of an object
  let blobs : Bytes := [0, 2, 0x06, 0x08, 5, 0x20, 1, 0x01, 0x12, 5, 5, 0, 1, 0x01, 0x12, 5, 4, 0x20, 1, 0x0E, 0x0E]
  let types := numbers 2 [0, 7, 16] ++ numbers 2 [0, 0, 1, 0, 0, 1, 1]
  let fields := numbers 2 [1, 1, 1, 1, 1, 1]
  let methods := numbers 2 [0x1048, 0, 0, 0x1801, 1, 4, 1, 0x1048, 0, 0, 0x16, 1, 10, 1, 0x1048, 0, 0, 0x06, 1, 16, 1]
  let resources := numbers 2 [0, 0, 1, 0, 34, 0] ++ numbers 2 [4 + payload.length, 0, 1, 0, 46, 0]
  let rows := numbers 2 [0, 1, 1, 0, 0] ++ types ++ fields ++ methods ++ resources
  moduleFile 0x102 (metadata (tableStream (1 <<< 0x28 + 0x57) [1, 1, 1, 2, 3, 2] rows) texts blobs)
    (numbers 4 [payload.length] ++ payload ++ numbers 4 [manifest.length] ++ manifest)

def revisionName (revision : Nat) : String :=
  "Alpha, Version=1.0.0." ++ Text.decimal revision ++ ", Culture=neutral, PublicKeyToken=null"

def revisionInfo (revision : Nat) : AssemblyInfo := ⟨revisionName revision, ".dll", library revision⟩

theorem identify_library : Identity.ofFile (library 1) = .ok ⟨revisionName 1, .dll⟩ ∧
    Identity.ofFile (library 2) = .ok ⟨revisionName 2, .dll⟩ := by
  constructor <;> decide +kernel

theorem length_library : (Flate.storedStream (library 1)).length = 781 ∧ (library 1).length ≤ 65535 ∧
    (library 2).length ≤ 65535 := by
  decide +kernel

/-- the host is loaded, only its controller is matched, and its resources are there -/
theorem load_host :
    (Module.load "a.exe" host).toOption.map (fun m => (Recovery.detect? Settings.default.resources m,
      Matching.runStages m { controller := some 0 }, m.content 0, m.content 1)) =
        some (.ok (some (⟨0, 1⟩, 0)), .ok { controller := some 0 }, payload, manifest) := by
  decide +kernel

/-- what an entry of a manifest tells -/
def listing? (child : Xml.Node) : Option (String × Except Manifest.Overlong Int) :=
  child.element?.map fun e => (Text.lower (Xml.localName e.name.expanded), Manifest.offsetOf (e.attribute? "offset"))

theorem parse_manifest :
    (Xml.parse manifest).toOption.map (fun root =>
      (Text.lower (Xml.localName root.name.expanded), root.children.map listing?)) =
        some ("manifest", [some ("assembly", .ok 0), some ("assembly", .ok 781)]) := by
  decide +kernel

theorem listsAt_of_listing? {child : Xml.Node} {offset : Int} (h : listing? child = some ("assembly", .ok offset)) :
    Manifest.ListsAt child offset := by
  obtain ⟨e, helement, he⟩ := Option.map_eq_some_iff.1 h
  obtain ⟨hname, hoffset⟩ := Prod.mk.inj he
  exact ⟨e, helement, hname, hoffset⟩

/-- an entry that lists a stored module gives it, whatever is stored around it -/
theorem yieldOf_of_stored (before after : Bytes) {content : Bytes} {identity : Identity} {child : Xml.Node}
    (hsize : content.length ≤ 65535) (hidentity : Identity.ofFile content = .ok identity)
    (h : listing? child = some ("assembly", .ok (before.length : Int))) :
    Manifest.yieldOf codec (before ++ Flate.storedStream content ++ after) child =
      .ok (.module ⟨identity.fullName, identity.kind.extension, content⟩) := by
  have hinflate : codec.inflate (before ++ Flate.storedStream content ++ after) before.length
      (Flate.storedStream content ++ after).length true = .ok content :=
    Flate.inflate_of_decompress (Flate.decompress_storedStream hsize) before after
  have hcount : ((before ++ Flate.storedStream content ++ after).length : Int) - before.length =
      (Flate.storedStream content ++ after).length := by
    simp only [List.length_append]
    omega
  refine Manifest.gives_iff.1 (.module (listsAt_of_listing? h) (Int.natCast_nonneg _) ?_ hidentity)
  rw [hcount]
  exact hinflate

theorem extract_host : Manifest.extract codec payload (Xml.parse manifest) = ⟨[revisionInfo 1, revisionInfo 2], [], none⟩ := by
  have hparse := parse_manifest
  rcases hroot : Xml.parse manifest with cause | root
  · rw [hroot] at hparse
    cases hparse
  rw [hroot] at hparse
  obtain ⟨hname, hchildren⟩ := Prod.mk.inj (Option.some.inj hparse)
  obtain ⟨first, rest, hfirst, hlisted, hrest⟩ := List.map_eq_cons_iff.1 hchildren
  obtain ⟨second, rest', hsecond, hlisted', hrest'⟩ := List.map_eq_cons_iff.1 hrest
  obtain rfl := List.map_eq_nil_iff.1 hrest'
  subst hsecond
  obtain ⟨hlength, hsize, hsize'⟩ := length_library
  have hone : Manifest.yieldOf codec payload first = .ok (.module (revisionInfo 1)) :=
    yieldOf_of_stored [] _ hsize identify_library.1 hlisted
  have htwo : Manifest.yieldOf codec payload second = .ok (.module (revisionInfo 2)) := by
    rw [payload, ← List.append_nil (Flate.storedStream (library 1) ++ Flate.storedStream (library 2))]
    refine yieldOf_of_stored (Flate.storedStream (library 1)) [] hsize' identify_library.2 ?_
    rw [hlength]
    exact hlisted'
  have hdrain : Manifest.drain codec payload root.children = ⟨[revisionInfo 1, revisionInfo 2], [], none⟩ := by
    rw [hfirst, Manifest.drain, hone, Manifest.drain, htwo, Manifest.drain]
  rw [Manifest.extract, Manifest.extractRoot, hname]
  exact hdrain

theorem examine_host {s : Settings} (hnames : s.resources = Settings.default.resources) :
    ∃ found, examine (Path.ofText "a.exe") s (.ok host) = ([], .ok found) ∧ found.report.file = Path.ofText "a.exe" ∧
      found.report.failure = none ∧ found.infos = [revisionInfo 1, revisionInfo 2] := by
  have hload := load_host
  have hfile : (Path.ofText "a.exe").name = "a.exe" := by
    decide +kernel
  rcases hm : Module.load "a.exe" host with cause | m
  · rw [hm] at hload
    cases hload
  rw [hm] at hload
  simp only [Except.toOption, Option.map_some, Option.some.injEq, Prod.mk.injEq] at hload
  obtain ⟨hdetect, hroles, hpayload, hmanifest⟩ := hload
  have hrun : Recovery.start.run codec s.resources m =
      (⟨some ⟨0, 1⟩, { controller := some 0 }, [revisionInfo 1, revisionInfo 2], .empty⟩, none) := by
    simp only [Recovery.run, hnames, hdetect, hroles, Recovery.extraction, hpayload, hmanifest, extract_host]
    rfl
  obtain ⟨report, hdescribe, hreport, hfailure⟩ : ∃ report, describe (Path.ofText "a.exe") m
      ⟨some ⟨0, 1⟩, { controller := some 0 }, [revisionInfo 1, revisionInfo 2], .empty⟩ none = .ok report ∧
        report.file = Path.ofText "a.exe" ∧ report.failure = none := ⟨_, rfl, rfl, rfl⟩
  refine ⟨⟨report, [revisionInfo 1, revisionInfo 2], []⟩, ?_, hreport, hfailure, rfl⟩
  simp only [examine, hfile, hm, examineModule, hrun, Option.map_none, Option.filter_none, hdescribe]
  rfl

theorem recovered_host {s : Settings} (hnames : s.resources = Settings.default.resources) :
    recovered (Path.ofText "a.exe") s (.ok host) = [revisionInfo 1, revisionInfo 2] := by
  obtain ⟨found, hexamine, -, -, hinfos⟩ := examine_host hnames
  rw [← (FoundIn.of_examine hexamine).infos_eq, hinfos]

/-- a tree with nothing but the host -/
def start : Tree := ⟨[(["a.exe"], .file host)], []⟩

theorem collect_start {overwrite : Bool} :
    (Pattern.collect Tree.system (Path.ofText "a.exe") ({ overwrite } : Settings).patterns).run.run start =
      (.ok [Path.ofText "a.exe"], start) := rfl

/-- the outcome of writing the two revisions -/
def writing (overwrite : Bool) : Except FileError (List Path) × Tree :=
  (Output.writeModules Tree.system [revisionInfo 1, revisionInfo 2] (Path.ofText "out") overwrite).run.run start

/-- the scan of the host is as good as the writing of the two revisions -/
theorem run_start {overwrite : Bool} {paths : List Path} (h : writing overwrite = (.ok paths, t')) :
    ∃ notes report, (Scan.run Tree.system { overwrite } (Path.ofText "a.exe") (some (Path.ofText "out")) true).run start =
        ((notes, .ok [report]), t') ∧
      report.file = Path.ofText "a.exe" ∧ report.failure = none ∧ report.written = paths := by
  obtain ⟨found, hexamine, hfile, hfailure, hinfos⟩ := examine_host (show ({ overwrite } : Settings).resources = _ from rfl)
  have hread : (Tree.system.read (Path.ofText "a.exe")).run.run start = (.ok host, start) := rfl
  obtain ⟨notes, hruns⟩ : ∃ notes, Runs Tree.system { overwrite } (some (Path.ofText "out")) true (Path.ofText "a.exe") start
      ((notes, .ok { found.report with written := paths }), t') :=
    ⟨_, .written hread hexamine rfl (by simp [hinfos]) (by rw [hinfos]; exact h)⟩
  refine ⟨notes ++ [], { found.report with written := paths }, ?_, hfile, hfailure, rfl⟩
  have houtput : Scan.outputOf (some (Path.ofText "out")) ([Path.ofText "a.exe"].length = 1) (Path.ofText "a.exe") =
      some (Path.ofText "out") := rfl
  rw [Scan.run_of_collect collect_start, Scan.processEach, houtput, run_bind_of_run hruns.run_eq]
  rfl

theorem listedBy_start {report : FileReport} (hfile : report.file = Path.ofText "a.exe") (s : Settings)
    (hnames : s.resources = Settings.default.resources) :
    listedBy s [(start, report)] = report.written.zip [revisionInfo 1, revisionInfo 2] := by
  have hread : start.read (Path.ofText "a.exe") = .ok host := rfl
  rw [listedBy, List.flatMap_singleton, modulesOf, hfile, hread, recovered_host hnames]

end Sample

/-- **Every module is where its report says, unless it was written over.** After a scan in which nothing failed, the reports
list one path for each recovered module, and each of them holds the module's data, unless a later module of the scan was written
to the same place. When files may not be replaced, no two of the listed paths lead to one place, so that each holds exactly the
data of the module that it was written for. When they may, each module is written to the path of its own name, so that modules of
one name that go to one directory share a path, which holds the last of them. -/
theorem reads_of_run (s : Settings) (input : Path) (output : Option Path) (t t' : Tree) (notes : List LogNote)
    (reports : List FileReport) (hrun : (Scan.run Tree.system s input output true).run t = ((notes, .ok reports), t'))
    (hnone : ∀ r ∈ reports, r.failure = none) :
    ∃ files t₀ turns, (Pattern.collect Tree.system input s.patterns).run.run t = (.ok files, t₀) ∧
      Scan.Turns Tree.system s (Scan.outputOf output (files.length = 1)) true t₀ files turns t' ∧
      turns.map (·.2) = reports ∧ (∀ turn ∈ turns, turn.2.written.length = (modulesOf s turn).length) ∧
      (∀ front entry back, listedBy s turns = front ++ entry :: back →
        (∀ later ∈ back, t'.place later.1 ≠ t'.place entry.1) → t'.read entry.1 = .ok entry.2.data) ∧
      (s.overwrite = false → (listedBy s turns).Pairwise (fun a b => t'.place a.1 ≠ t'.place b.1) ∧
        ∀ entry ∈ listedBy s turns, t'.read entry.1 = .ok entry.2.data) ∧
      (s.overwrite = true → ∀ turn ∈ turns, turn.2.written = (modulesOf s turn).map fun info =>
        ((Scan.outputOf output (files.length = 1) turn.2.file).getD (defaultDirectory turn.2.file s)).child info.fileName) := by
  rcases hcollect : (Pattern.collect Tree.system input s.patterns).run.run t with ⟨cause | files, t₀⟩
  · rw [Scan.run, run_bind_of_run hcollect] at hrun
    cases hrun
  rw [Scan.run_of_collect hcollect] at hrun
  rcases Scan.processEach_cases Tree.system s (Scan.outputOf output (files.length = 1)) true files t₀ with
    ⟨notes', turns, t₁, heach, hturns⟩ | ⟨notes', f, t₁, heach, -⟩
  · rw [heach] at hrun
    cases hrun
    have hclean : ∀ turn ∈ turns, turn.2.failure = none := fun turn hturn => hnone turn.2 (List.mem_map_of_mem hturn)
    obtain ⟨hlengths, hkept⟩ := hturns.kept hclean
    refine ⟨files, t₀, turns, rfl, hturns, rfl, hlengths, fun front entry back hlisted hlast => hkept.read_eq hlisted hlast,
      fun hno => ?_, fun hreplace => hturns.written_of_overwriting hreplace hclean⟩
    have hapart := (List.pairwise_map.1 (hkept.apart hno) : (listedBy s turns).Pairwise _)
    refine ⟨hapart, fun entry hentry => ?_⟩
    obtain ⟨front, back, hlisted⟩ := List.append_of_mem hentry
    refine hkept.read_eq hlisted fun later hlater heq => ?_
    rw [hlisted] at hapart
    exact (List.pairwise_cons.1 (List.pairwise_append.1 hapart).2.1).1 later hlater heq.symm
  · rw [heach] at hrun
    cases hrun

/-- two revisions of one library have two files -/
theorem reads_of_run_apart :
    ∃ notes report t', (Scan.run Tree.system {} (Path.ofText "a.exe") (some (Path.ofText "out")) true).run Sample.start =
        ((notes, .ok [report]), t') ∧ report.failure = none ∧
      report.written = [Path.ofText "out/Alpha.dll", Path.ofText "out/Alpha_1.dll"] ∧
      t'.read (Path.ofText "out/Alpha.dll") = .ok (Sample.library 1) ∧
      t'.read (Path.ofText "out/Alpha_1.dll") = .ok (Sample.library 2) := by
  have houtcome : (Sample.writing false).1 = .ok [Path.ofText "out/Alpha.dll", Path.ofText "out/Alpha_1.dll"] := by
    decide +kernel
  rcases hwriting : Sample.writing false with ⟨outcome, t'⟩
  rw [hwriting] at houtcome
  obtain rfl := houtcome
  obtain ⟨notes, report, hrun, hfile, hfailure, hwritten⟩ := Sample.run_start hwriting
  obtain ⟨files, t₀, turns, hcollect, hturns, hreports, -, -, hapart, -⟩ := reads_of_run {} (Path.ofText "a.exe")
    (some (Path.ofText "out")) Sample.start t' notes [report] hrun (by simp [hfailure])
  have hbegin : t₀ = Sample.start := congrArg Prod.snd (hcollect.symm.trans Sample.collect_start)
  obtain ⟨⟨w, _⟩, rfl, rfl⟩ := List.map_eq_singleton_iff.1 hreports
  have hfirst : w = t₀ := by
    cases hturns
    rfl
  have hlisted := Sample.listedBy_start hfile {} rfl
  rw [hwritten] at hlisted
  rw [hfirst, hbegin, hlisted] at hapart
  obtain ⟨-, hreads⟩ := hapart rfl
  simp only [List.zip_cons_cons, List.zip_nil_right, List.forall_mem_cons] at hreads
  obtain ⟨hone, htwo, -⟩ := hreads
  exact ⟨notes, _, t', hrun, hfailure, hwritten, hone, htwo⟩

/-- where files may be replaced the second of two revisions takes the place of the first -/
theorem reads_of_run_overwriting :
    ∃ notes report t', (Scan.run Tree.system { overwrite := true } (Path.ofText "a.exe") (some (Path.ofText "out")) true).run
        Sample.start = ((notes, .ok [report]), t') ∧ report.failure = none ∧
      report.written = [Path.ofText "out/Alpha.dll", Path.ofText "out/Alpha.dll"] ∧
      recovered report.file { overwrite := true } (Sample.start.read report.file) =
        [Sample.revisionInfo 1, Sample.revisionInfo 2] ∧
      t'.read (Path.ofText "out/Alpha.dll") = .ok (Sample.revisionInfo 2).data ∧
      (Sample.revisionInfo 2).data ≠ (Sample.revisionInfo 1).data := by
  have houtcome : (Sample.writing true).1 = .ok [Path.ofText "out/Alpha.dll", Path.ofText "out/Alpha.dll"] ∧
      (Sample.writing true).2.read (Path.ofText "out/Alpha.dll") = .ok (Sample.library 2) := by
    decide +kernel
  rcases hwriting : Sample.writing true with ⟨outcome, t'⟩
  rw [hwriting] at houtcome
  obtain ⟨rfl, hholds⟩ := houtcome
  obtain ⟨notes, report, hrun, hfile, hfailure, hwritten⟩ := Sample.run_start hwriting
  have hread : Sample.start.read report.file = .ok Sample.host := by
    rw [hfile]
    rfl
  refine ⟨notes, report, t', hrun, hfailure, hwritten, ?_, hholds, by decide +kernel⟩
  rw [hread, hfile]
  exact Sample.recovered_host rfl

end Unbundle
