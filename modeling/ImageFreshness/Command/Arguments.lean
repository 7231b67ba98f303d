import ImageFreshness.Journal.Notice
import ImageFreshness.Text.Cut

/-!
# Arguments

What the arguments of the program ask for.  They are read from left to right, and the first
mistake counts.

Specification: section 16.
-/

namespace ImageFreshness

open Text

inductive Argument where
  | long (name : String) (value : Option String)
  | short (letters : List Char)
  /-- Two dashes alone; no options come after them. -/
  | optionsEnd
  | word (text : String)
  deriving DecidableEq, Repr

/-- The form of an argument.  A dash alone is a word. -/
def Argument.ofText (text : String) : Argument :=
  match text.toList with
  | ['-', '-'] => .optionsEnd
  | '-' :: '-' :: cs =>
    match cutFirst '=' cs with
    | some (name, value) => .long (String.ofList name) (some (String.ofList value))
    | none => .long (String.ofList cs) none
  | '-' :: c :: cs => .short (c :: cs)
  | _ => .word text

inductive LogTarget where
  | console
  | usualFile
  | file (path : String)
  deriving DecidableEq, Repr

structure CheckOptions where
  pod : String
  config : Option String
  logFormat : LogFormat
  logTarget : LogTarget
  testAllContainers : Bool
  deriving DecidableEq, Repr

inductive Invocation where
  | version
  | help
  | check (options : CheckOptions)
  deriving DecidableEq, Repr

inductive UsageError where
  | missingCommand
  | unknownCommand (word : String)
  | unknownOption (argument : String)
  | unexpectedWord (word : String)
  | missingValue (option : String)
  | needlessValue (option : String)
  | invalidValue (option value : String)
  | repeatedOption (option : String)
  | missingOption (option : String)
  deriving DecidableEq, Repr

def UsageError.message : UsageError → String
  | .missingCommand => "a command is missing"
  | .unknownCommand word => "unknown command " ++ word
  | .unknownOption argument => "unknown option " ++ argument
  | .unexpectedWord word => "unexpected argument " ++ word
  | .missingValue option => "--" ++ option ++ " needs a value"
  | .needlessValue option => "--" ++ option ++ " takes no value"
  | .invalidValue option value => "--" ++ option ++ " cannot be " ++ value
  | .repeatedOption option => "--" ++ option ++ " is given twice"
  | .missingOption option => "--" ++ option ++ " is missing"

inductive ValuedOption where
  | pod
  | config
  | logFormat
  | logFile
  deriving DecidableEq, Repr

def ValuedOption.name : ValuedOption → String
  | .pod => "pod"
  | .config => "config"
  | .logFormat => "log-format"
  | .logFile => "log-file"

structure OptionsDraft where
  pod : Option String
  config : Option String
  logFormat : Option LogFormat
  logTarget : Option LogTarget
  testAllContainers : Bool
  deriving DecidableEq, Repr

namespace OptionsDraft

def empty : OptionsDraft := ⟨none, none, none, none, false⟩

/-- Sets an option that has not been set before. -/
def setOnce {α : Type} (option : ValuedOption) (old : Option α) (value : α)
    (set : α → OptionsDraft) : Except UsageError OptionsDraft :=
  match old with
  | some _ => .error (.repeatedOption option.name)
  | none => .ok (set value)

def set (d : OptionsDraft) (option : ValuedOption) (value : String) :
    Except UsageError OptionsDraft :=
  match option with
  | .logFormat =>
    match value with
    | "text" => setOnce option d.logFormat .text fun v => { d with logFormat := some v }
    | "json" => setOnce option d.logFormat .json fun v => { d with logFormat := some v }
    | _ => .error (.invalidValue option.name value)
  | option =>
    if value = "" then .error (.invalidValue option.name value)
    else
      match option with
      | .config => setOnce option d.config value fun v => { d with config := some v }
      | .logFile => setOnce option d.logTarget (.file value) fun v => { d with logTarget := some v }
      | _ => setOnce option d.pod value fun v => { d with pod := some v }

/-- Sets an option that is given without a value, which only that for the log file may be. -/
def setBare (d : OptionsDraft) (option : ValuedOption) : Except UsageError OptionsDraft :=
  match option with
  | .logFile => setOnce option d.logTarget .usualFile fun v => { d with logTarget := some v }
  | option => .error (.missingValue option.name)

/-- Settles an option that still waits for a value. -/
def settle (d : OptionsDraft) : Option ValuedOption → Except UsageError OptionsDraft
  | none => .ok d
  | some option => d.setBare option

def finish (d : OptionsDraft) : Except UsageError CheckOptions :=
  match d.pod with
  | none => .error (.missingOption ValuedOption.pod.name)
  | some pod =>
    .ok ⟨pod, d.config, d.logFormat.getD .text, d.logTarget.getD .console, d.testAllContainers⟩

end OptionsDraft

def ValuedOption.ofName? : String → Option ValuedOption
  | "pod" => some .pod
  | "config" => some .config
  | "log-format" => some .logFormat
  | "log-file" => some .logFile
  | _ => none

namespace CheckOptions

def readRest (d : OptionsDraft) : List String → Except UsageError Invocation
  | [] => do return .check (← d.finish)
  | word :: _ => .error (.unexpectedWord word)

/-- Reads options of a check.  The last one may still wait for its value, which is a word right
    after it. -/
def read (d : OptionsDraft) (waiting : Option ValuedOption) :
    List String → Except UsageError Invocation
  | [] => do
    let d ← d.settle waiting
    return .check (← d.finish)
  | text :: rest => do
    match Argument.ofText text with
    | .word word =>
      match waiting with
      | some option => read (← d.set option word) none rest
      | none => .error (.unexpectedWord word)
    | .optionsEnd => readRest (← d.settle waiting) rest
    | .short letters =>
      if letters.head? = some 'h' then
        let _ ← d.settle waiting
        return .help
      else .error (.unknownOption text)
    | .long name value =>
      let d ← d.settle waiting
      match ValuedOption.ofName? name, value with
      | some option, some value => read (← d.set option value) none rest
      | some option, none => read d (some option) rest
      | none, value =>
        if name = "test-all-containers" then
          if value.isSome then .error (.needlessValue name)
          else if d.testAllContainers then .error (.repeatedOption name)
          else read { d with testAllContainers := true } none rest
        else if name = "help" then
          if value.isSome then .error (.needlessValue name) else return .help
        else .error (.unknownOption text)

end CheckOptions

/-- Reads what help is asked for; there is help on every command. -/
def readHelp : List String → Except UsageError Invocation
  | [] | ["check"] | ["help"] => .ok .help
  | "check" :: word :: _ | word :: _ => .error (.unknownCommand word)

def Invocation.ofArguments : List String → Except UsageError Invocation
  | [] => .error .missingCommand
  | text :: rest =>
    match Argument.ofText text with
    | .word "check" => CheckOptions.read .empty none rest
    | .word "help" => readHelp rest
    | .word word => .error (.unknownCommand word)
    | .optionsEnd =>
      match rest with
      | [] => .error .missingCommand
      | word :: _ => .error (.unexpectedWord word)
    | .short ('V' :: _) | .long "version" none => .ok .version
    | .short ('h' :: _) | .long "help" none => .ok .help
    | .long "version" (some _) => .error (.needlessValue "version")
    | .long "help" (some _) => .error (.needlessValue "help")
    | .short _ | .long .. => .error (.unknownOption text)

end ImageFreshness
