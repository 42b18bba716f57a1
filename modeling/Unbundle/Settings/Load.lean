import Unbundle.Files.System
import Unbundle.Settings.Sources
import Unbundle.Text.Utf8
/-
The settings of a run in a working directory, where an environment file may stand.
-/
namespace Unbundle.Settings

variable {μ : Type → Type} [Monad μ]

/-- the environment file in the working directory -/
def environmentFile : Path := Path.ofText ".env"

/-- the settings that arguments, an environment and the environment file of the working directory give -/
def load (fs : FileSystem μ) (arguments : List (String × Json.Value)) (environment : List (String × String)) :
    μ (Except SettingsError Settings) := do
  match (← (fs.read environmentFile).run).toOption.mapM Utf8.decode with
  | .error cause => return .error (.noText cause)
  | .ok file => return ofSources { arguments, environment, file }

end Unbundle.Settings
