import TwoStep.Text.Basic

/-!
# What a process finds

The variables that a process was given, and the files that it can see.
-/

namespace TwoStep

/-! ## Variables

The variables of a process.  A process keeps them as texts `name=value` in an
order; a variable is found at the first text that starts with its name and an
equals sign.  Names are not empty.

Left out are variables whose values are no Unicode.  A value with the character
zero can be written down here, though no process has one.
-/

/-- Variables and their values, in order. -/
abbrev Environment := List (String × String)

namespace Environment

/-- The value that the text of one variable gives to a name. -/
def valueIn (name : String) (entry : String × String) : Option String :=
  let key := name.toList ++ ['=']
  let text := entry.1.toList ++ '=' :: entry.2.toList
  if key.isPrefixOf text then some (String.ofList (text.drop key.length)) else none

def get? (env : Environment) (name : String) : Option String :=
  if name.isEmpty then none else env.findSome? (valueIn name)

def setIfUnset (env : Environment) (name value : String) : Environment :=
  match env.get? name with
  | some _ => env
  | none => env ++ [(name, value)]

end Environment

/-! ## Files

A `Directory` is the part of a file system that is known to a run of the
program, with the folder in which the run works.  Paths are walked part by
part: empty parts and `.` stay where they are, `..` goes back, and every part
but the last must lead to a folder.  A path that does not start at the root
starts at the working folder.  Names and paths have a greatest length, and no
name holds the character zero.
-/

/-- Why a file could not be read or written. -/
inductive FileError where
  | noSuchFile
  | notAFolder
  | isAFolder
  | nameTooLong
  | nulCharacter
  deriving DecidableEq, Repr

def FileError.message : FileError → String
  | .noSuchFile => "No such file or directory (os error 2)"
  | .notAFolder => "Not a directory (os error 20)"
  | .isAFolder => "Is a directory (os error 21)"
  | .nameTooLong => "File name too long (os error 36)"
  | .nulCharacter => "file name contained an unexpected NUL byte"

/-- Files and folders by the parts of their paths from the root. -/
structure Directory where
  home : List String
  files : List (List String × String) := []
  /-- Folders that are there even if no file lies below them. -/
  folders : List (List String) := []
  deriving DecidableEq, Repr

namespace Directory

/-- The parts of a path that lead somewhere. -/
def parts (path : String) : List String :=
  (Text.pieces '/' path).filter fun p => !(p.isEmpty || p == ".")

/-- A working folder with the given files below it. -/
def ofFiles (home : String) (files : List (String × String)) : Directory where
  home := parts home
  files := files.map fun (path, content) => (parts home ++ parts path, content)

/-- Where a path leads. -/
inductive Place where
  | file (path : List String) (content : String)
  | folder (path : List String)
  | missing (path : List String)
  | error (e : FileError)
  deriving DecidableEq, Repr

def isFolder (d : Directory) (path : List String) : Bool :=
  path.isPrefixOf d.home || d.folders.any path.isPrefixOf ||
    d.files.any fun f => path.isPrefixOf f.1

def entry (d : Directory) (path : List String) : Place :=
  match d.files.lookup path with
  | some content => .file path content
  | none => if d.isFolder path then .folder path else .missing path

/-- The longest name in a folder, in bytes. -/
def nameLimit : Nat := 255

/-- The longest path, in bytes. -/
def pathLimit : Nat := 4095

def walk (d : Directory) : Place → List String → Place
  | place, [] => place
  | .folder path, p :: rest =>
    if p == ".." then walk d (.folder path.dropLast) rest
    else if p.utf8ByteSize > nameLimit then .error .nameTooLong
    else walk d (d.entry (path ++ [p])) rest
  | .file .., _ :: _ => .error .notAFolder
  | .missing _, _ :: _ => .error .noSuchFile
  | .error e, _ :: _ => .error e

/-- Whether a path can only mean a folder: its last part is empty or `.`. -/
def meansFolder (path : String) : Bool :=
  match (Text.pieces '/' path).getLast? with
  | some p => p.isEmpty || p == "."
  | none => true

def isAbsolute (path : String) : Bool := path.startsWith "/"

def find (d : Directory) (path : String) : Place :=
  if path.toList.any (·.toNat = 0) then .error .nulCharacter
  else if path.isEmpty then .error .noSuchFile
  else if path.utf8ByteSize > pathLimit then .error .nameTooLong
  else
    match d.walk (.folder (if isAbsolute path then [] else d.home)) (parts path) with
    | .file p content => if meansFolder path then .error .notAFolder else .file p content
    | place => place

/-- The places that a path passes on its way from `place`. -/
def stops (place : List String) : List String → List (List String)
  | [] => []
  | p :: rest =>
    let next := if p == ".." then place.dropLast else place ++ [p]
    next :: stops next rest

/-- The parts of `path` seen from `base`: one step back for each part that only
the base has. -/
def stepsFrom : List String → List String → List String
  | b :: base, p :: path =>
    if b = p then stepsFrom base path else ((b :: base).map fun _ => "..") ++ p :: path
  | base, path => (base.map fun _ => "..") ++ path

/-- The parts of a path seen from the working folder. -/
def relative (d : Directory) (path : String) : List String :=
  if isAbsolute path then stepsFrom d.home (parts path) else parts path

def exists? (d : Directory) (path : String) : Bool :=
  match d.find path with
  | .file .. => true
  | .folder _ => true
  | _ => false

def read (d : Directory) (path : String) : Except FileError String :=
  match d.find path with
  | .file _ content => .ok content
  | .folder _ => .error .isAFolder
  | .missing _ => .error .noSuchFile
  | .error e => .error e

def put (path : List String) (content : String) :
    List (List String × String) → List (List String × String)
  | [] => [(path, content)]
  | (p, old) :: rest =>
    if p = path then (p, content) :: rest else (p, old) :: put path content rest

/-- Writes a file into a folder that is there. -/
def write (d : Directory) (path content : String) : Except FileError Directory :=
  match d.find path with
  | .file p _ => .ok { d with files := put p content d.files }
  | .folder _ => .error .isAFolder
  | .missing p =>
    if meansFolder path then .error .isAFolder
    else .ok { d with files := put p content d.files }
  | .error e => .error e

end Directory

end TwoStep
