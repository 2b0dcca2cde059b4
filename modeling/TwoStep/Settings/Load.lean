import TwoStep.Json.Parser
import TwoStep.Process
import TwoStep.Settings.Basic
import TwoStep.Settings.Decode
import TwoStep.Settings.Merge
import TwoStep.Text.Basic
import TwoStep.Toml.Parser
import TwoStep.Toml.Scalar

/-!
# Loading settings

Three layers, each on top of the one before: the defaults, a file, and the
variables.  The file is the one that was named, which must be there, or else
the default file if it is there.

What no text of this program decides is a `Loader`: the formats of files, and the
order in which hash tables hand out their entries.  A run has some loader, and
the next run may have another one.  The default has TOML and JSON, and the order
in which entries were put in.
-/

namespace TwoStep.Settings

/-! ## Files

A file is read in the format that the extension of its name says.  A path to a
folder stands for the file of the same name with one of the extensions added.
Values are said to come from the path without empty parts and `.`.

The formats are a parameter.  TOML and JSON are spelled out here; YAML, INI, RON
and JSON5 are left out.  A format gives the entries of a table in the order in
which they are handed out and merged.  It differs from run to run, so that one
language is many formats; those here keep the order of the text.
-/

/-- What the text of a file at some origin holds. -/
abbrev Format := (origin text : String) → Option Value

/-- Formats by their extensions, in the order in which these are tried. -/
abbrev Formats := List (String × Format)

/-- The text behind the last point of a file's name, if there is one that does
not start the name. -/
def extension? (name : String) : Option String :=
  match Text.pieces '.' name with
  | [] => none
  | [_] => none
  | ["", _] => none
  | ps => ps.getLast?

def Formats.ofPath? (formats : Formats) (parts : List String) : Option Format :=
  (parts.getLast?.bind extension?).bind (List.lookup · formats)

mutual

def nesting : Json → Nat
  | .array items => nestingOfItems items + 1
  | .object members => nestingOfMembers members + 1
  | _ => 0

def nestingOfItems : List Json → Nat
  | [] => 0
  | j :: rest => max (nesting j) (nestingOfItems rest)

def nestingOfMembers : List (String × Json) → Nat
  | [] => 0
  | (_, j) :: rest => max (nesting j) (nestingOfMembers rest)

end

def nestingLimit : Nat := 127

/-- A text without a byte order mark in front. -/
def withoutMark (s : String) : String :=
  match s.toList with
  | c :: rest => if c.toNat = 0xfeff then String.ofList rest else s
  | [] => s

def Format.toml : Format := fun origin text =>
  (Toml.parse (withoutMark text)).map (Value.ofToml (some origin))

def Format.json : Format := fun origin text => do
  let j ← Json.parse (withoutMark text)
  if nesting j ≤ nestingLimit then Value.ofJson (some origin) j else none

def Formats.standard : Formats := [("toml", .toml), ("json", .json)]

/-- The layer that a file's text makes; its root must be a table. -/
def Format.layer? (format : Format) (origin : String) (text : String) : Option Value.Layer :=
  match format origin text with
  | some (.table es _) => some es
  | _ => none

/-- The first of some paths that leads to a file, with its format and text. -/
def firstFile? (d : Directory) : List (String × Format) → Option (String × Format × String)
  | [] => none
  | (path, format) :: rest =>
    match d.find path with
    | .file _ text => some (path, format, text)
    | _ => firstFile? d rest

/-- The layer of the file at a path that leads somewhere. -/
def layerOfFile? (formats : Formats) (d : Directory) (path : String) : Option Value.Layer :=
  let parts := d.relative path
  let origin := "/".intercalate parts
  match d.find path with
  | .file _ text => (formats.ofPath? parts).bind fun f => f.layer? origin text
  | _ =>
    match parts.getLast? with
    | none => none
    | some last =>
      if last == ".." then none
      else
        (firstFile? d (formats.map fun (ext, format) => (origin ++ "." ++ ext, format))).bind
          fun (path, format, text) => format.layer? path text

/-! ## Three layers -/

/-- Why settings could not be loaded. -/
inductive LoadError where
  | noFile (path : String)
  /-- The file cannot be read in its format, or has none. -/
  | unreadable
  | invalid (e : DecodeError)
  deriving DecidableEq, Repr

def LoadError.chain : LoadError → List String
  | .noFile path => [s!"configuration file {path} does not exist"]
  | .unreadable => ["Failed to build configuration"]
  | .invalid e => ["Failed to deserialize configuration", e.message]

/-- The layer of the file that applies, if any. -/
def fileLayer (formats : Formats) (d : Directory) (path? : Option String) :
    Except LoadError Value.Layer :=
  let layer (path : String) : Except LoadError Value.Layer :=
    match layerOfFile? formats d path with
    | some l => .ok l
    | none => .error .unreadable
  match path? with
  | some path => if d.exists? path then layer path else .error (.noFile path)
  | none => if d.exists? defaultFile then layer defaultFile else .ok []

def defaults : Value := encode {}

/-- How a run reads files and visits tables. -/
structure Loader where
  formats : Formats := .standard
  visits : Visits := {}

/-- Loads settings from a file and variables. -/
def Loader.load (loader : Loader) (d : Directory) (path? : Option String) (env : Environment) :
    Except LoadError Settings := do
  let layer ← fileLayer loader.formats d path?
  (decode loader.visits ((defaults.overlay layer).overlay (layerOfVariables env))).mapError .invalid

/-! ## Saving settings

Settings are written as a TOML document with one table for each section and a
blank line between two tables.
-/

def textLine (key text : String) : String :=
  s!"{key} = {Toml.quoted text}\n"

def toToml (s : Settings) : String :=
  "\n".intercalate [
    "[network]\n" ++ textLine "rpc_url" s.rpcUrl,
    "[contract]\n" ++ textLine "address" s.contractAddress,
    "[accounts]\n" ++ textLine "current_owner_key_env" s.currentOwnerKeyVar ++
      textLine "new_owner_key_env" s.newOwnerKeyVar,
    "[fees]\n" ++ textLine "priority_fee" s.priorityFee,
    "[observability]\n" ++ textLine "log_level" s.logLevel ++ s!"json_logs = {s.jsonLogs}\n"]

def save (s : Settings) (d : Directory) (path : String) : Except FileError Directory :=
  d.write path s.toToml

end TwoStep.Settings
