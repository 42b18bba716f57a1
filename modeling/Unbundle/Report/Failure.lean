import Unbundle.Console.Markup
import Unbundle.Files.Pattern
import Unbundle.Module.Build
import Unbundle.Recovery
import Unbundle.Settings.Sources
/-
Failures, as they are reported to the user.

A failure has a label for its kind and a wording. The failures that the content of a file or the file system brings about are
contained: they are noted in the report on that file, and the other files are looked at all the same. Other failures end the
whole run: settings and patterns that are faulty, paths that no file can have, a manifest in an encoding that is not read or with
an offset that is too long, metadata that breaks off, types that are made of themselves, and faulty marks in what is to be shown.
-/
namespace Unbundle

/-- a failure of any part of the program -/
inductive Failure where
  | load (cause : Module.LoadError)
  | recovery (cause : RecoveryError)
  | file (cause : FileError)
  | settings (cause : SettingsError)
  | pattern (cause : Pattern.PatternError)
  | markup (cause : MarkupError)
  deriving DecidableEq, Repr

/-- the failure of a search for files -/
def Failure.ofSearch : Pattern.SearchError → Failure
  | .pattern cause => .pattern cause
  | .file cause => .file cause

/-- the label and the wording of octets that are no readable module -/
def FormatError.report : FormatError → String × String
  | .defect cause => ("DefectError", cause.message)
  | cause => ("ModuleFormatError", cause.message)

/-- the label and the wording of a failed extraction -/
def Manifest.ExtractionError.report : Manifest.ExtractionError → String × String
  | .document .malformed => ("ManifestError", "invalid bundle manifest")
  | .document .unknownEncoding => ("EncodingError", "the encoding of the bundle manifest is not known")
  | .document .unsupportedEncoding => ("EncodingError", "the encoding of the bundle manifest is not supported")
  | .document (.emptyEncoding _) => ("EncodingError", "the encoding of the bundle manifest has no characters")
  | .document (.domainEncoding _) => ("EncodingError", "the encoding of the bundle manifest is for domain names")
  | .document .asciiDomainEncoding => ("EncodingError", "the encoding of the bundle manifest is for domain names in ASCII")
  | .offset cause => ("OffsetError", cause.message)
  | .payload cause => ("DecompressionError", cause.message)
  | .format cause => cause.report

/-- the label and the wording of a failed matching -/
def Matching.MatchError.report : Matching.MatchError → String × String
  | .filled role => ("MatchError", (Matching.MatchError.filled role).message)
  | .fault cause => ("TypeFaultError", cause.message)

/-- the label and the wording of a failed recovery -/
def RecoveryError.report : RecoveryError → String × String
  | .matching cause => cause.report
  | .extraction cause => cause.report

/-- the label and the wording of a file that is not loaded -/
def Module.LoadError.report : Module.LoadError → String × String
  | .format cause => cause.report
  | .fault cause => ("TypeFaultError", cause.message)

/-- the label and the wording of faulty settings -/
def SettingsError.report (cause : SettingsError) : String × String := ("SettingsError", cause.message)

/-- the label and the wording of a text that is no pattern -/
def Pattern.PatternError.report (cause : Pattern.PatternError) : String × String := ("PatternError", cause.message)

namespace Failure

/-- the label and the wording -/
def report : Failure → String × String
  | .load cause => cause.report
  | .recovery cause => cause.report
  | .file cause => (cause.fault.label, cause.message)
  | .settings cause => cause.report
  | .pattern cause => cause.report
  | .markup cause => ("MarkupError", cause.message)

/-- the label of the kind of failure -/
def label (f : Failure) : String := f.report.1

/-- the wording of a failure -/
def message (f : Failure) : String := f.report.2

/-- label and wording -/
def text (f : Failure) : String := f.label ++ ": " ++ f.message

/-- whether a failure concerns one file only -/
def isContained : Failure → Bool
  | .load (.format (.defect _)) => false
  | .load (.format _) => true
  | .recovery (.extraction (.document .malformed)) => true
  | .recovery (.extraction (.payload _)) => true
  | .recovery (.extraction (.format (.defect _))) => false
  | .recovery (.extraction (.format _)) => true
  | .file cause => cause.fault ≠ .holdsZero
  | _ => false

end Failure

end Unbundle
