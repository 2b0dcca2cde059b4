import TwoStep.Command.Dialogue
import TwoStep.CommandLine.Help
import TwoStep.CommandLine.Parser
import TwoStep.EnvFile
import TwoStep.Log.Filter
import TwoStep.Log.Record
import TwoStep.Settings.Load

/-!
# A run of the program

A run reads its command line, applies the file of variables, loads the
settings, sets up its log and carries out one command.  Writing default
settings comes before all that, so that it also works where the present
settings do not load.

A run is a function: of the arguments, the variables, the files and the
network it finds, and of the stamp that marks it.  Its outcome says what was
printed, the status, the files, and all that was said to nodes.
-/

namespace TwoStep.Program

/-- What a run finds when it starts. -/
structure Input where
  arguments : List String
  environment : Environment
  directory : Directory
  loader : Settings.Loader := {}

/-- Why a run fails. -/
inductive Failure where
  | envFile (e : EnvFile.Error)
  | settings (e : Settings.LoadError)
  | filter (f : Log.FilterFault)
  | command (e : CommandError)
  deriving DecidableEq, Repr

def Failure.chain : Failure → List String
  | .envFile e => e.chain
  | .settings e => e.chain
  | .filter f => f.chain
  | .command e => e.chain

/-! ## Printing -/

/-- What a run prints. -/
inductive Printed where
  | out (text : String)
  | err (text : String)
  | entry (e : Log.Entry)
  deriving DecidableEq, Repr

/-- Passes outputs on, the log through a filter; `span` is the span that the
next records belong to. -/
def passed (f : Log.Filter) : Option Log.Span → List Output → List Printed
  | _, [] => []
  | span, .out t :: rest => .out t :: passed f span rest
  | span, .err t :: rest => .err t :: passed f span rest
  | span, .log r :: rest =>
    if f.keeps span r then .entry ⟨r, span⟩ :: passed f span rest else passed f span rest
  | _, .enter s :: rest => passed f (if f.keepsSpan then some s else none) rest
  | _, .leave :: rest => passed f none rest

/-- A text whose lines but the first are indented. -/
def indented (width : Nat) (s : String) : String :=
  ("\n" ++ String.ofList (List.replicate width ' ')).intercalate (s.splitOn "\n")

def numberedCause (cause : String × Nat) : String :=
  let number := toString cause.2
  "\n" ++ String.ofList (List.replicate (5 - number.length) ' ') ++ number ++ ": " ++
    indented 7 cause.1

/-- The causes of a failure in words. -/
def causesText : List String → String
  | [] => ""
  | [cause] => "\n\nCaused by:\n    " ++ indented 4 cause
  | causes => "\n\nCaused by:" ++ String.join (causes.zipIdx.map numberedCause)

def failureText : List String → String
  | [] => ""
  | message :: causes => s!"Error: {message}" ++ causesText causes ++ "\n"

/-- Stands for what is printed about a command line that cannot be read.  The words
of the library that prints it are left out. -/
def usageText : String :=
  "error: the command line cannot be read\n\nFor more information, try '--help'.\n"

/-! ## Setting up -/

/-- The part of the program that speaks before a command does. -/
def target : String := "ownership_handoff"

/-- What a command finds once the run is set up. -/
structure Setup where
  environment : Environment
  settings : Settings
  filter : Log.Filter
  /-- Records of the set-up itself. -/
  records : List Log.Record

def filterVariable : String := "RUST_LOG"

/-- The variable that switches colours off. -/
def plainVariable : String := "NO_COLOR"

/-- The filter in force: the one that a variable holds, if it can be read, or
the configured one. -/
def logFilter (env : Environment) (s : Settings) : Except Log.FilterFault Log.Filter :=
  match env.get? filterVariable with
  | none => Log.Filter.read s.logLevel
  | some text =>
    match Log.Filter.read text with
    | .ok f => .ok f
    | .error _ => Log.Filter.read s.logLevel

/-- The style of the log.  Colours can be switched off by a variable. -/
def logStyle (env : Environment) (s : Settings) : Log.Style :=
  if s.jsonLogs then .json else .terminal ((env.get? plainVariable).all String.isEmpty)

def openingRecords (fileApplied : Bool) : List Log.Record :=
  ⟨.debug, Log.Span.target, "Telemetry initialized", []⟩ ::
    if fileApplied then [⟨.info, target, "Loaded environment variables from .env file", []⟩] else []

/-- Applies the file of variables, loads the settings and sets up the log. -/
def setUp (loader : Settings.Loader) (d : Directory) (config : Option String)
    (env : Environment) : Except Failure Setup := do
  let (env, applied) := EnvFile.load d "." env
  let applied ← applied.mapError .envFile
  let settings ← (loader.load d config env).mapError .settings
  let filter ← (logFilter env settings).mapError .filter
  return ⟨env, settings, filter, openingRecords applied⟩

/-! ## Running -/

/-- What came of a run. -/
structure Outcome (ν : Type) where
  code : Nat
  printed : List Printed
  style : Log.Style := .json
  directory : Directory
  link : Link ν

/-- The command to carry out; without one, the configured transfer. -/
def commandOf (line : CommandLine) : Command :=
  line.command.getD (.dialogue (.transfer {}))

variable {ν : Type}

def Outcome.failed (printed : List Printed) (style : Log.Style) (d : Directory) (link : Link ν)
    (f : Failure) : Outcome ν :=
  ⟨1, printed ++ [.err (failureText f.chain)], style, d, link⟩

def initialise (d : Directory) (link : Link ν) (path : String) (force : Bool) : Outcome ν :=
  match Command.InitConfig.run d path force with
  | .ok (d', outputs) => ⟨0, passed {} none outputs, .json, d', link⟩
  | .error e => .failed [] .json d link (.command e)

/-- Carries out a command that talks to a contract. -/
def converse (network : Url → Node ν) (link : Link ν) (stamp : Handoff.Stamp) (d : Directory)
    (s : Setup) (c : Dialogue) : Outcome ν :=
  let o := Command.run network link (c.plan s.settings s.environment stamp)
  let printed := passed s.filter none (s.records.map Output.log ++ o.outputs)
  let style := logStyle s.environment s.settings
  match o.result with
  | .ok () => ⟨0, printed, style, d, o.link⟩
  | .error e => .failed printed style d o.link (.command e)

def run (network : Url → Node ν) (link : Link ν) (stamp : Handoff.Stamp) (i : Input) :
    Outcome ν :=
  let d := i.directory
  match CommandLine.parse i.arguments with
  | .error (.help page) => ⟨0, [.out page.text], .json, d, link⟩
  | .error _ => ⟨2, [.err usageText], .json, d, link⟩
  | .ok line =>
    match commandOf line with
    | .initConfig path force => initialise d link path force
    | .dialogue c =>
      match setUp i.loader d line.config i.environment with
      | .error f => .failed [] .json d link f
      | .ok s => converse network link stamp d s c

/-- The paths that a run may look at: what it looks for by itself, and what its
arguments name. -/
def pathsOf (arguments : List String) : List String :=
  match CommandLine.parse arguments with
  | .error _ => []
  | .ok line =>
    match commandOf line with
    | .initConfig path _ => [path]
    | .dialogue _ =>
      let config := line.config.getD Settings.defaultFile
      [".env", config, config ++ ".toml", config ++ ".json"]

end TwoStep.Program
