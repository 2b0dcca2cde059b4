import TwoStep.Settings.Basic

/-!
# Command lines

What a command line asks for: an optional settings file, and a command with
its options.  Without a command, the configured transfer is performed once.
-/

namespace TwoStep

/-- The options of a transfer. -/
structure TransferOptions where
  contract : Option String := none
  fee : Option String := none
  dryRun : Bool := false
  json : Bool := false
  deriving DecidableEq, Repr

/-- The options of an acceptance. -/
structure AcceptOptions where
  contract : Option String := none
  fee : Option String := none
  deriving DecidableEq, Repr

/-- The options of a look at the owners. -/
structure StatusOptions where
  contract : Option String := none
  json : Bool := false
  deriving DecidableEq, Repr

/-- A command that talks to a contract. -/
inductive Dialogue where
  | transfer (options : TransferOptions)
  | accept (options : AcceptOptions)
  | status (options : StatusOptions)
  deriving DecidableEq, Repr

/-- A command with its options. -/
inductive Command where
  | dialogue (d : Dialogue)
  | initConfig (path : String) (force : Bool)
  deriving DecidableEq, Repr

/-- What a command line asks for. -/
structure CommandLine where
  config : Option String := none
  command : Option Command := none
  deriving DecidableEq, Repr

namespace CommandLine

/-- The pages of help. -/
inductive Help where
  /-- What the program does and its commands, in full. -/
  | overview
  /-- What the program does and its commands, in brief. -/
  | summary
  | transfer
  | accept
  | status
  | initConfig
  | help
  deriving DecidableEq, Repr

/-- Why a command line is not carried out. -/
inductive Refusal where
  | invalidSubcommand
  | unknownArgument
  | invalidValue
  | tooManyValues
  | argumentConflict
  | help (page : Help)
  deriving DecidableEq, Repr

end CommandLine

/-! ## Reading

Words are read from left to right on two levels, the program's and the
command's.  `--name=value` gives a value at once; `--name value` waits for the
next word, which may be anything that does not look like an option.  A value
that waits is checked when the next option is met or the level ends, so a
faulty word in between is reported first; a level ends when the command inside
it is read.  An option may be given once on each level.
-/

namespace CommandLine

/-- What an option takes. -/
inductive Kind where
  | flag
  | text
  /-- A text that is not empty. -/
  | path
  deriving DecidableEq, Repr

/-- What can be said on one level. -/
structure Level where
  options : List (String × Kind)
  commands : List String := []
  /-- The page that `--help` shows. -/
  long : Help
  /-- The page that `-h` shows. -/
  short : Help

/-- The option that both levels have. -/
def configOption : String × Kind := ("config", .path)

/-- What can be said before a command. -/
def rootLevel : Level where
  options := [configOption]
  commands := ["transfer", "accept", "status", "init-config", "help"]
  long := .overview
  short := .summary

/-- What can be said behind a command. -/
def levelOf? (command : String) : Option Level :=
  if command = "transfer" then
    some ⟨[configOption, ("contract", .text), ("priority-fee", .text), ("dry-run", .flag),
      ("json", .flag)], [], .transfer, .transfer⟩
  else if command = "accept" then
    some ⟨[configOption, ("contract", .text), ("priority-fee", .text)], [], .accept, .accept⟩
  else if command = "status" then
    some ⟨[configOption, ("contract", .text), ("json", .flag)], [], .status, .status⟩
  else if command = "init-config" then
    some ⟨[configOption, ("path", .path), ("force", .flag)], [], .initConfig, .initConfig⟩
  else none

/-- An option that has been named and the value that it waits for or has. -/
structure Pending where
  name : String
  kind : Kind
  value : Option String := none
  deriving DecidableEq, Repr

/-- What has been read on a level; a flag is given with an empty value. -/
structure Reading where
  given : List (String × String) := []
  pending : Option Pending := none
  deriving DecidableEq, Repr

namespace Reading

def waits (r : Reading) : Bool :=
  match r.pending with
  | some p => p.value.isNone
  | none => false

/-- Gives a value to an option that has none on this level. -/
def give (r : Reading) (name : String) (kind : Kind) (value : String) :
    Except Refusal Reading :=
  if r.given.any (·.1 = name) then .error .argumentConflict
  else if kind = .path && value.isEmpty then .error .invalidValue
  else .ok { r with given := r.given ++ [(name, value)] }

/-- Checks the value that waits. -/
def settle (r : Reading) : Except Refusal Reading :=
  match r.pending with
  | none => .ok r
  | some ⟨_, _, none⟩ => .error .invalidValue
  | some ⟨name, kind, some v⟩ => { r with pending := none }.give name kind v

def has (r : Reading) (name : String) : Bool := r.given.any (·.1 = name)

def get? (r : Reading) (name : String) : Option String := r.given.lookup name

end Reading

/-- The name of an option and the value behind its first equals sign. -/
def splitEqual (cs : List Char) : String × Option String :=
  let name := String.ofList (cs.takeWhile (· != '='))
  match cs.dropWhile (· != '=') with
  | _ :: value => (name, some (String.ofList value))
  | [] => (name, none)

def longOption (level : Level) (r : Reading) (cs : List Char) : Except Refusal Reading := do
  let (name, value) := splitEqual cs
  if name = "help" then
    match value with
    | some _ => .error .tooManyValues
    | none =>
      let _ ← r.settle
      .error (.help level.long)
  else
    match level.options.lookup name, value with
    | none, _ => .error .unknownArgument
    | some .flag, some _ => .error .tooManyValues
    | some .flag, none => (← r.settle).give name .flag ""
    | some kind, some v => (← r.settle).give name kind v
    | some kind, none => return { ← r.settle with pending := some { name, kind } }

/-- Takes letters behind one dash. -/
def shortOption (level : Level) (r : Reading) (letter : Char) : Except Refusal Reading := do
  if letter = 'h' then
    let _ ← r.settle
    .error (.help level.short)
  else .error .unknownArgument

/-- A word that is neither an option nor a value. -/
def extraWord (level : Level) : Refusal :=
  if level.commands.isEmpty then .unknownArgument else .invalidSubcommand

/-- What has been read on a level, and the command that ended it with the
words behind. -/
abbrev LevelEnd := Reading × Option (String × List String)

def readLevel (level : Level) : Reading → List String → Except Refusal LevelEnd
  | r, [] => .ok (r, none)
  | r, word :: rest =>
    if !r.waits && level.commands.contains word then .ok (r, some (word, rest))
    else
      match word.toList with
      | ['-', '-'] =>
        match rest with
        | [] => .ok (r, none)
        | next :: _ =>
          .error (if level.commands.contains next then .unknownArgument else extraWord level)
      | '-' :: '-' :: cs => do
        let r ← longOption level r cs
        readLevel level r rest
      | '-' :: c :: _ => do
        let r ← shortOption level r c
        readLevel level r rest
      | _ =>
        match r.pending with
        | some ⟨name, kind, none⟩ =>
          readLevel level { r with pending := some ⟨name, kind, some word⟩ } rest
        | _ => .error (extraWord level)

/-- The page that `help` with some words behind it shows. -/
def helpPage : List String → Except Refusal Help
  | [] => .ok .overview
  | ["transfer"] => .ok .transfer
  | ["accept"] => .ok .accept
  | ["status"] => .ok .status
  | ["init-config"] => .ok .initConfig
  | ["help"] => .ok .help
  | _ => .error .invalidSubcommand

def commandOf (name : String) (r : Reading) : Command :=
  if name = "transfer" then
    .dialogue (.transfer ⟨r.get? "contract", r.get? "priority-fee", r.has "dry-run", r.has "json"⟩)
  else if name = "accept" then
    .dialogue (.accept ⟨r.get? "contract", r.get? "priority-fee"⟩)
  else if name = "status" then
    .dialogue (.status ⟨r.get? "contract", r.has "json"⟩)
  else .initConfig ((r.get? "path").getD Settings.defaultFile) (r.has "force")

/-- Reads the words behind a command, up to the end of the line. -/
def readCommand (name : String) (words : List String) : Except Refusal (Reading × Command) := do
  match levelOf? name with
  | none => .error .invalidSubcommand
  | some level =>
    let (r, _) ← readLevel level {} words
    let r ← r.settle
    return (r, commandOf name r)

/-- Reads a command line without the program's name.  A settings file named
behind the command wins over one named before it. -/
def parse (words : List String) : Except Refusal CommandLine := do
  match ← readLevel rootLevel {} words with
  | (root, none) =>
    let root ← root.settle
    return { config := root.get? "config" }
  | (root, some (name, rest)) =>
    if name = "help" then .error (.help (← helpPage rest))
    else
      let (inner, command) ← readCommand name rest
      let root ← root.settle
      return { config := (inner.get? "config").or (root.get? "config"), command := some command }

end CommandLine

end TwoStep
