import Std.Time.DateTime.Timestamp
import TwoStep.Hex
import TwoStep.Program

/-!
# The command line program

The outer layer: it collects the arguments, the variables and the files that a
run may look at, lets the run compute its outcome, and then prints what is to
be printed and writes what is to be written.  It has no transport, so every
endpoint is silent.
-/

namespace TwoStep.Outer

def now : IO Instant := do
  return Instant.ofNanoseconds (← Std.Time.Timestamp.now).toNanosecondsSinceUnixEpoch.val

/-- A mark for this run. -/
def newStamp : IO Handoff.Stamp := do
  let bytes ← IO.getRandomBytes 16
  let t ← now
  return ⟨Uuid.ofRandom bytes.toList, t, t⟩

def environment : IO Environment := do
  let text ← IO.FS.readFile "/proc/self/environ"
  return (text.splitOn "\x00").filterMap fun entry =>
    match entry.toList.dropWhile (· != '=') with
    | _ :: value => some (String.ofList (entry.toList.takeWhile (· != '=')), String.ofList value)
    | [] => none

def fromRoot (parts : List String) : String := "/" ++ "/".intercalate parts

def look (d : Directory) (place : List String) : IO Directory := do
  let path := (← IO.currentDir) / fromRoot place
  if ← path.isDir then return { d with folders := d.folders ++ [place] }
  else if ← path.pathExists then
    let text ← IO.FS.readFile path
    return { d with files := d.files ++ [(place, text)] }
  else return d

/-- What stands at some paths and on the way to them. -/
def survey (paths : List String) : IO Directory := do
  let home := Directory.parts (← IO.currentDir).toString
  let places := paths.flatMap fun p =>
    Directory.stops (if Directory.isAbsolute p then [] else home) (Directory.parts p)
  places.eraseDups.foldlM look { home }

def store (before after : Directory) : IO Unit := do
  for (place, text) in after.files do
    if before.files.lookup place != some text then
      IO.FS.writeFile ((← IO.currentDir) / fromRoot place) text

def print (style : Log.Style) : Program.Printed → IO Unit
  | .out text => IO.print text
  | .err text => IO.eprint text
  | .entry e => do IO.eprint (e.line style (← now).display)

end TwoStep.Outer

def main (arguments : List String) : IO UInt32 := do
  let d ← TwoStep.Outer.survey (TwoStep.Program.pathsOf arguments)
  let input : TwoStep.Program.Input :=
    { arguments, environment := ← TwoStep.Outer.environment, directory := d }
  let link : TwoStep.Link Unit := { node := () }
  let outcome := TwoStep.Program.run TwoStep.Node.silent link (← TwoStep.Outer.newStamp) input
  TwoStep.Outer.store d outcome.directory
  for item in outcome.printed do
    TwoStep.Outer.print outcome.style item
  return outcome.code.toUInt32
