import Unbundle.Json.Parse
import Unbundle.Settings.Basic
import Unbundle.Settings.EnvironmentFile
import Unbundle.Text.Case
import Unbundle.Text.Utf8
/-
Settings put together from their sources.

A setting is looked for among the arguments of a call, then in the environment, then in an environment file, and has a default
if it is nowhere. Variables carry a common start in front of the setting's name. The case of names does not matter. Values of
variables are texts; the list of patterns is written there as JSON.
-/
namespace Unbundle

/-- a setting -/
inductive SettingKey where
  | payloadResource
  | manifestResource
  | patterns
  | outputDirectory
  | overwrite
  deriving DecidableEq, Repr

namespace SettingKey

/-- all settings, in the order in which faults are listed -/
def all : List SettingKey := [.payloadResource, .manifestResource, .patterns, .outputDirectory, .overwrite]

/-- the name of a setting -/
def label : SettingKey → String
  | .payloadResource => "bundle_data_resource"
  | .manifestResource => "bundle_manifest_resource"
  | .patterns => "input_patterns"
  | .outputDirectory => "output_dir"
  | .overwrite => "overwrite_existing"

/-- the name of the variable for a setting, in lower case -/
def variableName (k : SettingKey) : String := "veilunpack_" ++ k.label

end SettingKey

/-- a place where a value stands that cannot stand there: a setting, or an item of a setting that is a list -/
structure SettingFault where
  key : SettingKey
  item : Option Nat := none
  deriving DecidableEq, Repr

/-- the name of a place -/
def SettingFault.label (f : SettingFault) : String :=
  match f.item with
  | some n => f.key.label ++ "." ++ Text.decimal n
  | none => f.key.label

/-- why there are no settings -/
inductive SettingsError where
  /-- the environment file is no text -/
  | noText (cause : Utf8.Fault)
  /-- a variable that should hold JSON does not -/
  | unreadable
  /-- values stand in places where they cannot stand -/
  | invalid (faults : List SettingFault)
  deriving DecidableEq, Repr

/-- the wording of a cause -/
def SettingsError.message : SettingsError → String
  | .noText cause => cause.message
  | .unreadable => "a list is not written as JSON"
  | .invalid faults => "; ".intercalate (faults.map SettingFault.label)

/-- where settings come from -/
structure SettingsSources where
  arguments : List (String × Json.Value) := []
  environment : List (String × String) := []
  /-- the text of the environment file, if there is one -/
  file : Option String := none

namespace SettingsSources

/-- the text of a setting's variable: of variables that differ in case only, the last one counts, and it may have no value -/
def textFor? (k : SettingKey) (bindings : List (String × Option String)) : Option String :=
  (bindings.reverse.find? fun v => Text.lower v.1 = k.variableName).bind (·.2)

/-- the value written in a variable; a list that is written as nothing is not set -/
def ofVariable (k : SettingKey) (text : String) : Except SettingsError (Option Json.Value) :=
  match k with
  | .patterns => match Json.parse text with
    | some .null => .ok none
    | some v => .ok (some v)
    | none => .error .unreadable
  | _ => .ok (some (.text text))

/-- the values that variables give to the settings -/
def ofVariables (bindings : List (String × Option String)) : Except SettingsError (List (SettingKey × Json.Value)) :=
  SettingKey.all.foldrM (fun k known =>
    match textFor? k bindings with
    | none => .ok known
    | some text => (ofVariable k text).map fun
      | some v => (k, v) :: known
      | none => known) []

/-- the variables that the environment file sets -/
def fileVariables (s : SettingsSources) : List (String × Option String) :=
  match s.file with
  | none => []
  | some text => EnvironmentFile.parse s.environment text

/-- the value of a setting among the arguments: an exact name comes before names that differ in case -/
def argument? (s : SettingsSources) (k : SettingKey) : Option Json.Value :=
  s.arguments.lookup k.label <|> (s.arguments.find? fun a => Text.lower a.1 = k.label).map (·.2)

/-- the values of the settings that are set, each from the first source that has it -/
def values (s : SettingsSources) : Except SettingsError (List (SettingKey × Json.Value)) := do
  let environment ← ofVariables (s.environment.map fun (name, value) => (name, some value))
  let file ← ofVariables s.fileVariables
  let arguments := SettingKey.all.filterMap fun k => (s.argument? k).map (k, ·)
  return arguments ++ environment ++ file

end SettingsSources

/-! ## Values of the settings -/

namespace SettingKey

/-- the words for a switch that is on -/
def onWords : List String := ["1", "on", "t", "true", "y", "yes"]

/-- the words for a switch that is off -/
def offWords : List String := ["0", "off", "f", "false", "n", "no"]

/-- a switch in a value -/
def switch? : Json.Value → Option Bool
  | .bool b => some b
  | .int 1 => some true
  | .int 0 => some false
  | .decimal d => if d.isNearOne then some true else if d.isNearZero then some false else none
  | .text s =>
    if onWords.contains (Text.lower s) then some true
    else if offWords.contains (Text.lower s) then some false
    else none
  | _ => none

/-- the name of a resource in a value; an empty name could never be found -/
def resourceName? : Json.Value → Option String
  | .text s => if s = "" then none else some s
  | _ => none

/-- a text in a value -/
def text? : Json.Value → Option String
  | .text s => some s
  | _ => none

/-- a list of texts in a value, or the places that hold no text: items, or all of it -/
def texts : Json.Value → Except (List (Option Nat)) (List String)
  | .list items =>
    match items.mapM text? with
    | some ss => .ok ss
    | none => .error ((items.zipIdx.filter fun item => (text? item.1).isNone).map (some ·.2))
  | _ => .error [none]

/-- a path or nothing in a value -/
def path? : Json.Value → Option (Option Path)
  | .null => some none
  | .text s => some (some (Path.ofText s))
  | _ => none

/-- what is in a value, which otherwise is faulty as a whole -/
def whole {α : Type} (x : Option α) : Except (List (Option Nat)) α := x.elim (.error [none]) .ok

/-- the settings with one of them set to a value, or the places where it is faulty -/
def set (s : Settings) (v : Json.Value) : SettingKey → Except (List (Option Nat)) Settings
  | .payloadResource => (whole (resourceName? v)).map fun x => { s with payloadResource := x }
  | .manifestResource => (whole (resourceName? v)).map fun x => { s with manifestResource := x }
  | .patterns => (texts v).map fun x => { s with patterns := x }
  | .outputDirectory => (whole (path? v)).map fun x => { s with outputDirectory := x }
  | .overwrite => (whole (switch? v)).map fun x => { s with overwrite := x }

end SettingKey

namespace Settings

/-- the settings with given values -/
def ofValues (values : List (SettingKey × Json.Value)) : Except SettingsError Settings :=
  let step (state : Settings × List SettingFault) (k : SettingKey) : Settings × List SettingFault :=
    match values.lookup k with
    | none => state
    | some v => match k.set state.1 v with
      | .ok s => (s, state.2)
      | .error items => (state.1, state.2 ++ items.map (⟨k, ·⟩))
  match SettingKey.all.foldl step (default, []) with
  | (s, []) => .ok s
  | (_, faulty) => .error (.invalid faulty)

/-- the settings that some sources give -/
def ofSources (sources : SettingsSources) : Except SettingsError Settings := sources.values >>= ofValues

end Settings

end Unbundle
