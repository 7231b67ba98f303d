import ImageFreshness.Command.Arguments
import ImageFreshness.Command.Check
import ImageFreshness.Config.Paths
import ImageFreshness.Files.Tree
import ImageFreshness.Journal.Filter

/-!
# Runs of the program

A run reads the arguments, opens the log, loads the configuration and checks the pods, in this
order.  The first step that fails ends it.

Specification: section 16.
-/

namespace ImageFreshness

inductive RunFailure where
  | usage (error : UsageError)
  | unnamedLog (path : String)
  /-- The file for the log cannot be opened in this directory. -/
  | closedLog (directory : String) (fault : LogFault)
  | config (path : String) (error : ConfigError)
  | check (failure : CheckFailure)
  deriving DecidableEq, Repr

namespace RunFailure

def message : RunFailure → String
  | .usage error => error.message
  | .unnamedLog path => "Invalid log file path: " ++ path
  | .closedLog directory .noDirectory => "Failed to create log directory " ++ directory
  | .closedLog directory .notWritable => "the log in " ++ directory ++ " is no file"
  | .config path error => error.message path
  | .check failure => failure.message

def exitCode : RunFailure → Nat
  | .usage _ => 2
  | .closedLog _ .notWritable => 101
  | _ => 1

end RunFailure

structure LogSetup where
  format : LogFormat
  file : Option String
  filter : NoticeFilter
  deriving DecidableEq, Repr

/-- Whether lines of the log have colours: as text on the standard error stream they do. -/
def LogSetup.isColored (log : LogSetup) : Bool := log.format = .text && log.file.isNone

structure RunReport (σ : Type) where
  output : List String
  failure : Option RunFailure
  log : Option LogSetup
  notices : List Notice
  /-- The state of the registries at the end. -/
  state : σ

namespace RunReport

def exitCode {σ : Type} (r : RunReport σ) : Nat :=
  match r.failure with
  | some failure => failure.exitCode
  | none => 0

/-- The notices that are written to the log. -/
def logged {σ : Type} (r : RunReport σ) : List Notice :=
  match r.log with
  | some log => r.notices.filter log.filter.admits
  | none => []

def withState {σ τ : Type} (r : RunReport σ) (state : τ) : RunReport τ :=
  ⟨r.output, r.failure, r.log, r.notices, state⟩

end RunReport

def versionLine : String := programName ++ " " ++ version

def helpLines : List String :=
  ["Reports whether running container images are the latest available", "",
    "Usage: " ++ programName ++
      " check --pod <POD> [--config <CONFIG>] [--log-format <text|json>]" ++
      " [--log-file [<LOG_FILE>]] [--test-all-containers]"]

/-- The values of the variables that a run depends on. -/
abbrev Variables := String → Option String

namespace Variables

def ownFilter : String := "VERSION_CHECKER_LOG"

def sharedFilter : String := "RUST_LOG"

def userData : String := "XDG_DATA_HOME"

def home : String := "HOME"

def names : List String := [ownFilter, sharedFilter, userData, home]

def noticeFilter (vars : Variables) : NoticeFilter := .choose (vars ownFilter) (vars sharedFilter)

def logPath? (vars : Variables) : LogTarget → Option String
  | .console => none
  | .usualFile => some (defaultLogPath (vars userData) (vars home))
  | .file path => some path

end Variables

variable [PatternEngine] {m : Type → Type} [Monad m]

def openLog (storage : Storage m) (vars : Variables) (format : LogFormat) (target : LogTarget) :
    m (Except RunFailure LogSetup) := do
  let setup : LogSetup := ⟨format, vars.logPath? target, vars.noticeFilter⟩
  match setup.file with
  | none => return .ok setup
  | some path =>
    match (FilePath.ofText path).split? with
    | none => return .error (.unnamedLog path)
    | some (directory, name) =>
      match ← storage.openLog directory name with
      | .error fault => return .error (.closedLog directory fault)
      | .ok () => return .ok setup

def loadConfig (storage : Storage m) : Option String → m (Except RunFailure Config)
  | none => return (Config.load none).mapError (.config "")
  | some path => do return (Config.load (some (← storage.read path))).mapError (.config path)

/-- Runs a check.  `connect` gives the registries as a client reaches them. -/
def CheckOptions.run {σ : Type} (options : CheckOptions) (storage : Storage m) (vars : Variables)
    (connect : DistributionClient → Service σ) (state : σ) : m (RunReport σ) := do
  match ← openLog storage vars options.logFormat options.logTarget with
  | .error failure => return ⟨[], some failure, none, [], state⟩
  | .ok log =>
    let opening := [Notice.loggingReady options.logFormat]
    match ← loadConfig storage options.config with
    | .error failure => return ⟨[], some failure, some log, opening, state⟩
    | .ok config =>
      let config :=
        { config with testAllContainers := config.testAllContainers || options.testAllContainers }
      let result := checkPods config options.pod (← storage.read options.pod) connect state
      return ⟨result.output, result.failure.map .check, some log, opening ++ result.notices,
        result.state⟩

def Transport.registries {σ : Type} (transport : Transport σ) (client : DistributionClient) :
    Service (DirectoryMemo σ × σ) :=
  (Directory.mk [] (client.toClient transport)).service

def runProgram {σ : Type} (storage : Storage m) (vars : Variables) (transport : Transport σ)
    (arguments : List String) (state : σ) : m (RunReport σ) :=
  match Invocation.ofArguments arguments with
  | .error error => return ⟨[], some (.usage error), none, [], state⟩
  | .ok .version => return ⟨[versionLine], none, none, [], state⟩
  | .ok .help => return ⟨helpLines, none, none, [], state⟩
  | .ok (.check options) => do
    let report ← options.run storage vars transport.registries ([], state)
    return report.withState report.state.2

end ImageFreshness
