import Unbundle.Files.Path
/-
The words of a command line.

A command line names a command after the options that concern the whole program, and then the command's own options and its
input in any order. An option's value stands in the next word, whatever that looks like, or is attached: after an equals sign,
or right behind a short option. The word of two dashes ends the options. Of an option that is given more than once the last one
counts. A path with the character zero in it, which no file can have, is found before an input that is missing, and an input
with that character before a second input.
-/
namespace Unbundle.Command

/-- a command -/
inductive Verb where
  | detect
  | extract
  deriving DecidableEq, Repr

/-- an option -/
inductive Switch where
  | help
  | version
  | output
  | report
  | overwrite
  | debug
  | debugFile
  deriving DecidableEq, Repr

/-- why a command line is not understood -/
inductive UsageError where
  | noCommand
  | unknownCommand (word : String)
  | unknownOption (word : String)
  | missingValue (option : Switch)
  | unexpectedValue (option : Switch)
  | missingInput
  | extraWord (word : String)
  | noSuchInput (word : String)
  deriving DecidableEq, Repr

namespace Verb

/-- the word for a command -/
def label : Verb → String
  | .detect => "detect"
  | .extract => "extract"

/-- the command of a word -/
def ofWord? (word : String) : Option Verb := [detect, extract].find? (·.label = word)

/-- the options of a command -/
def options : Verb → List Switch
  | .detect => [.debug, .debugFile, .help]
  | .extract => [.output, .report, .overwrite, .debug, .debugFile, .help]

end Verb

namespace Switch

/-- the word for an option -/
def label : Switch → String
  | .help => "--help"
  | .version => "--version"
  | .output => "--output"
  | .report => "--report"
  | .overwrite => "--overwrite"
  | .debug => "--debug"
  | .debugFile => "--debug-file"

/-- the letter for an option that has a short form; all of these take a value -/
def letter? : Switch → Option Char
  | .output => some 'o'
  | _ => none

/-- whether an option takes a value -/
def takesValue : Switch → Bool
  | .output | .report | .debugFile => true
  | _ => false

end Switch

/-- the wording of a cause -/
def UsageError.message : UsageError → String
  | .noCommand => "no command is given"
  | .unknownCommand word => "there is no command " ++ word
  | .unknownOption word => "there is no option " ++ word
  | .missingValue o => o.label ++ " needs a value"
  | .unexpectedValue o => o.label ++ " takes no value"
  | .missingInput => "no input is given"
  | .extraWord word => "one input is enough, and there is also " ++ word
  | .noSuchInput word => "there is no input " ++ word

/-- what a word in front of the end of the options is -/
inductive Word where
  | operand
  | lastOption
  | option (o : Switch) (attached : Option String)
  deriving DecidableEq, Repr

/-- the part of a word before its first equals sign, and the part behind it if there is one -/
def splitValue (word : String) : String × Option String :=
  let name := word.toList.takeWhile (· ≠ '=')
  match word.toList.drop name.length with
  | [] => (word, none)
  | _ :: value => (String.ofList name, some (String.ofList value))

/-- what a word is where some options are known -/
def classify (known : List Switch) (word : String) : Except UsageError Word :=
  let (name, value) := splitValue word
  match word.toList with
  | ['-', '-'] => .ok .lastOption
  | '-' :: c :: more =>
    match known.find? (·.label = name) with
    | some o => .ok (.option o value)
    | none =>
      match known.find? (·.letter? = some c) with
      | some o => .ok (.option o (if more = [] then none else some (String.ofList more)))
      | none => .error (.unknownOption word)
  | _ => .ok .operand

/-- the options given in a list of words, each with its value, and the other words; if `anyOrder` does not hold, the first word
that is no option ends the options -/
def split (known : List Switch) (anyOrder : Bool) :
    List String → Except UsageError (List (Switch × String) × List String)
  | [] => .ok ([], [])
  | word :: rest =>
    match classify known word with
    | .error e => .error e
    | .ok .lastOption => .ok ([], rest)
    | .ok .operand =>
      if anyOrder then (split known anyOrder rest).map fun (given, operands) => (given, word :: operands)
      else .ok ([], word :: rest)
    | .ok (.option o attached) =>
      if o.takesValue then
        match attached with
        | some value => (split known anyOrder rest).map fun (given, operands) => ((o, value) :: given, operands)
        | none =>
          match rest with
          | [] => .error (.missingValue o)
          | value :: rest => (split known anyOrder rest).map fun (given, operands) => ((o, value) :: given, operands)
      else if attached.isSome then .error (.unexpectedValue o)
      else (split known anyOrder rest).map fun (given, operands) => ((o, "") :: given, operands)

/-! ## Requests -/

/-- what a user wants done with the input -/
inductive Task where
  | detect
  | extract (output report : Option Path) (overwrite : Bool)
  deriving DecidableEq, Repr

/-- a request for a run -/
structure Request where
  task : Task
  /-- the input as it was written -/
  input : String
  debug : Bool
  debugFile : Option Path
  deriving DecidableEq, Repr

/-- what a command line asks for -/
inductive Invocation where
  | help (verb : Option Verb)
  | version
  | run (request : Request)
  /-- a path that no file can have -/
  | noFile (path : Path)
  deriving DecidableEq, Repr

/-- the path given with an option -/
def path? (given : List (Switch × String)) (o : Switch) : Option Path := (given.reverse.lookup o).map Path.ofText

/-- the options whose values are paths -/
def pathOptions : List Switch := [.output, .report, .debugFile]

/-- whether an option is given -/
def isGiven (given : List (Switch × String)) (o : Switch) : Bool := (given.lookup o).isSome

/-- the request of a command with an input -/
def request (verb : Verb) (given : List (Switch × String)) (input : String) : Request where
  task := match verb with
    | .detect => .detect
    | .extract => .extract (path? given .output) (path? given .report) (isGiven given .overwrite)
  input
  debug := isGiven given .debug
  debugFile := path? given .debugFile

/-- what the words behind a command ask for -/
def ofVerb (verb : Verb) (words : List String) : Except UsageError Invocation := do
  let (given, operands) ← split verb.options true words
  if isGiven given .help then return .help verb
  let paths := pathOptions.filterMap (path? given) ++ (operands.take 1).map Path.ofText
  match paths.find? Path.holdsZero, operands with
  | some p, _ => return .noFile p
  | none, [] => throw .missingInput
  | none, [input] => return .run (request verb given input)
  | none, _ :: word :: _ => throw (.extraWord word)

/-- what a command line asks for -/
def ofWords (words : List String) : Except UsageError Invocation := do
  let (given, rest) ← split [.version, .help] false words
  match given with
  | (.version, _) :: _ => return .version
  | _ :: _ => return .help none
  | [] =>
    match rest with
    | [] => throw .noCommand
    | word :: rest =>
      match Verb.ofWord? word with
      | some verb => ofVerb verb rest
      | none => throw (.unknownCommand word)

end Unbundle.Command
