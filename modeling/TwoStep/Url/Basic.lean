import TwoStep.Url.Host

/-!
# URLs

An address of a node as a URL.  Blanks and control characters around it and
line ends and tabs inside it are dropped before it is read.  Schemes of the
web and of files have servers: both kinds of slash divide their paths, and
their default ports are left out.  A name and a password in front of the host
are kept in percent-encoded form; a request sends them apart from its URL.
-/

namespace TwoStep

/-- A user's name and password. -/
structure Url.Credentials where
  name : String
  password : Option String
  deriving DecidableEq, Repr

/-- Where a URL leads. -/
structure Url.Server where
  credentials : Option Url.Credentials := none
  host : Url.Host
  /-- The port if it is not the scheme's own. -/
  port : Option Nat := none
  deriving DecidableEq, Repr

/-- A URL. -/
structure Url where
  scheme : String
  server : Option Url.Server
  path : String
  query : Option String
  fragment : Option String
  deriving DecidableEq, Repr

namespace Url

def defaultPort? (scheme : String) : Option Nat :=
  if scheme = "http" || scheme = "ws" then some 80
  else if scheme = "https" || scheme = "wss" then some 443
  else if scheme = "ftp" then some 21
  else none

/-- How the rest behind a scheme is read. -/
inductive Kind where
  | web
  | file
  | other
  deriving DecidableEq, Repr

def kindOf (scheme : String) : Kind :=
  if scheme = "file" then .file
  else if (defaultPort? scheme).isSome then .web
  else .other

/-- The text that is read. -/
def cleaned (s : String) : List Char :=
  let inner := (s.toList.dropWhile (·.toNat ≤ 0x20)).reverse.dropWhile (·.toNat ≤ 0x20)
  inner.reverse.filter fun c => !(c == '\t' || c == '\n' || c == '\r')

def isSchemeChar (c : Char) : Bool :=
  Text.isAsciiLetter c || Text.isAsciiDigit c || c == '+' || c == '-' || c == '.'

/-- A scheme in lower case, and the rest behind its colon. -/
def schemePart (cs : List Char) : Option (String × List Char) :=
  match cs with
  | c :: _ =>
    if Text.isAsciiLetter c then
      match cs.dropWhile isSchemeChar with
      | ':' :: rest => some (String.ofList (Text.asciiLower (cs.takeWhile isSchemeChar)), rest)
      | _ => none
    else none
  | [] => none

/-- Whether a character is a slash; a backslash is one unless the scheme is of
another kind. -/
def isSlash (kind : Kind) (c : Char) : Bool :=
  c == '/' || (c == '\\' && kind != .other)

/-- Whether a character ends the part of a URL that names the server. -/
def endsServer (kind : Kind) (c : Char) : Bool :=
  isSlash kind c || c == '?' || c == '#'

/-! ## Servers -/

def escapedInCredentials (c : Char) : Bool :=
  " \"#<>?`\x7b\x7d/:;=@[\\]^|".toList.contains c

/-- The credentials in front of an `@`; a colon behind which nothing stands is
no password, and neither name nor password are no credentials. -/
def readCredentials (cs : List Char) : Option Credentials :=
  let encoded (part : List Char) : String :=
    String.ofList (percentEncoded escapedInCredentials part)
  let name := cs.takeWhile (· != ':')
  let password := (cs.dropWhile (· != ':')).drop 1
  if name.isEmpty && password.isEmpty then none
  else some ⟨encoded name, if password.isEmpty then none else some (encoded password)⟩

/-- The credentials and the rest behind their `@`.  The last `@` before the path
ends them; if nothing stands before it, a host has to follow. -/
def splitCredentials (kind : Kind) (cs : List Char) :
    Except Fault (Option Credentials × List Char) :=
  let authority := cs.takeWhile fun c => !endsServer kind c
  if authority.contains '@' then
    let hostAndPort := (authority.reverse.takeWhile (· != '@')).reverse
    let user := authority.take (authority.length - hostAndPort.length - 1)
    let rest := cs.drop (user.length + 1)
    if user.isEmpty && hostAndPort.isEmpty && !rest.isEmpty then .error .emptyHost
    else .ok (readCredentials user, rest)
  else .ok (none, cs)

/-- The host of a server, and the rest from the colon of its port or from the
path on; colons inside brackets are passed over. -/
def splitHost (kind : Kind) : Bool → List Char → List Char × List Char
  | _, [] => ([], [])
  | inside, c :: rest =>
    if endsServer kind c || (c == ':' && !inside) then ([], c :: rest)
    else
      let inside := if c == '[' then true else if c == ']' then false else inside
      let (host, rest) := splitHost kind inside rest
      (c :: host, rest)

/-- Whether a character ends a port, which both slashes do in every URL. -/
def endsPort (c : Char) : Bool := c == '/' || c == '\\' || c == '?' || c == '#'

/-- A port behind its colon and the rest; no digits are no port. -/
def readPort (cs : List Char) : Except Fault (Option Nat × List Char) :=
  let digits := cs.takeWhile fun c => !endsPort c
  let n := digits.foldl (fun n c => 10 * n + (c.toNat - 48)) 0
  if !digits.all Text.isAsciiDigit || n > 65535 then .error .invalidPort
  else .ok (if digits.isEmpty then none else some n, cs.drop digits.length)

/-- The server behind two slashes, and the rest. -/
def readServer (kind : Kind) (scheme : String) (cs : List Char) :
    Except Fault (Server × List Char) := do
  let (credentials, cs) ← splitCredentials kind cs
  let (hostText, cs) := splitHost kind false cs
  if hostText.isEmpty && (kind = .web || cs.head? = some ':') then .error .emptyHost
  else
    let host ← if kind = .web then Host.read hostText else Host.readPlain hostText
    let (port, cs) ← match cs with
      | ':' :: digits => readPort digits
      | cs => .ok (none, cs)
    if hostText.isEmpty && credentials.isSome then .error .emptyHost
    else
      let port := if port = defaultPort? scheme then none else port
      return ({ credentials, host, port }, cs)

/-- The host of a file; this machine needs no name. -/
def readFileHost (cs : List Char) : Except Fault Host := do
  if cs.isEmpty then return .name ""
  let host ← Host.read cs
  return if host = .name "localhost" then .name "" else host

/-! ## Paths -/

def escapedInPath (c : Char) : Bool := " \"#<>?`\x7b\x7d".toList.contains c

def escapedInQuery (kind : Kind) (c : Char) : Bool :=
  " \"#<>".toList.contains c || (c == '\'' && kind != .other)

def escapedInFragment (c : Char) : Bool := " \"<>`".toList.contains c

/-- A segment with its percent-encoded points decoded, in lower case. -/
def plainSegment (s : List Char) : List Char :=
  (String.ofList (Text.asciiLower s)).replace "%2e" "." |>.toList

/-- The segments of a text, divided at slashes. -/
def segments (kind : Kind) : List Char → List Char → List (List Char)
  | segment, [] => [segment.reverse]
  | segment, c :: rest =>
    if isSlash kind c then segment.reverse :: segments kind [] rest
    else segments kind (c :: segment) rest

def isDrive : List Char → Bool
  | [c, mark] => Text.isAsciiLetter c && (mark == ':' || mark == '|')
  | _ => false

/-- One level up, where drives are the top. -/
def parent : List (List Char) → List (List Char)
  | s :: done => if isDrive s then s :: done else done
  | [] => []

/-- Segments without `.` and `..`; behind one of them at the end an empty
segment stays. -/
def resolved : List (List Char) → List (List Char) → List (List Char)
  | done, [] => done.reverse
  | done, [s] =>
    let plain := plainSegment s
    if plain = ['.', '.'] then ([] :: parent done).reverse
    else if plain = ['.'] then ([] :: done).reverse
    else (s :: done).reverse
  | done, s :: rest =>
    let plain := plainSegment s
    if plain = ['.', '.'] then resolved (parent done) rest
    else if plain = ['.'] then resolved done rest
    else resolved (s :: done) rest

/-- Segments as a path that starts with a slash. -/
def pathOfSegments (segments : List (List Char)) : List Char :=
  (resolved [] segments).flatMap fun s => '/' :: percentEncoded escapedInPath s

/-- The segments of a text, a slash in front of which is passed over. -/
def segmentsOf (kind : Kind) (cs : List Char) : List (List Char) :=
  match cs with
  | c :: rest => segments kind [] (if isSlash kind c then rest else c :: rest)
  | [] => [[]]

def pathOf (kind : Kind) (cs : List Char) : String :=
  String.ofList (pathOfSegments (segmentsOf kind cs))

/-- The path of a file starts with one slash only. -/
def filePath (segments : List (List Char)) : String :=
  String.ofList ('/' :: (pathOfSegments segments).dropWhile (· == '/'))

/-- Segments with a colon behind the letter of a drive that they start with. -/
def withDrive : List (List Char) → List (List Char)
  | [c, mark] :: rest => (if isDrive [c, mark] then [c, ':'] else [c, mark]) :: rest
  | segments => segments

/-- The path, query and fragment of the rest of a text. -/
def splitRest (cs : List Char) : List Char × Option (List Char) × Option (List Char) :=
  let (front, fragment) := match cs.dropWhile (· != '#') with
    | _ :: f => (cs.takeWhile (· != '#'), some f)
    | [] => (cs, none)
  let (path, query) := match front.dropWhile (· != '?') with
    | _ :: q => (front.takeWhile (· != '?'), some q)
    | [] => (front, none)
  (path, query, fragment)

/-! ## Reading -/

def build (kind : Kind) (scheme : String) (server : Option Server)
    (path : List Char → String) (rest : List Char) : Url :=
  let (p, query, fragment) := splitRest rest
  { scheme, server
    path := path p
    query := query.map fun q => String.ofList (percentEncoded (escapedInQuery kind) q)
    fragment := fragment.map fun f => String.ofList (percentEncoded escapedInFragment f) }

/-- A file behind its scheme.  Two slashes lead to a host, unless the letter of
a drive stands in its place; a drive makes the host superfluous. -/
def readFile (rest : List Char) : Except Fault Url := do
  let file (host : Host) (path : List Char → String) (rest : List Char) : Url :=
    build .file "file" (some { host }) path rest
  let here := Host.name ""
  let fromDrive (p : List Char) : String := filePath (withDrive (segments .file [] p))
  let absolute (p : List Char) : String := filePath (segmentsOf .file p)
  match rest with
  | a :: more =>
    if isSlash .file a then
      match more with
      | b :: more =>
        if isSlash .file b then
          let hostText := more.takeWhile fun c => !endsServer .file c
          if isDrive hostText then return file here fromDrive more
          let host ← readFileHost hostText
          let rest := more.dropWhile fun c => !endsServer .file c
          let first := ((segmentsOf .file (splitRest rest).1).head?).getD []
          if host ≠ here && isDrive first then return file here (fromDrive <| ·.drop 1) rest
          return file host absolute rest
        else return file here absolute rest
      | [] => return file here absolute rest
    else return file here fromDrive rest
  | [] => return file here absolute rest

def readBehindScheme (scheme : String) (rest : List Char) : Except Fault Url := do
  let kind := kindOf scheme
  match kind with
  | .web =>
    let (server, rest) ← readServer kind scheme (rest.dropWhile (isSlash kind))
    return build kind scheme (some server) (pathOf kind) rest
  | .file => readFile rest
  | .other =>
    match rest with
    | '/' :: '/' :: more =>
      let (server, rest) ← readServer kind scheme more
      let path (p : List Char) : String := if p.isEmpty then "" else pathOf kind p
      return build kind scheme (some server) path rest
    | '/' :: _ =>
      -- Two slashes in front of the path would be taken for a server.
      let path (p : List Char) : String :=
        let p := pathOf kind p
        if p.startsWith "//" then "/." ++ p else p
      return build kind scheme none path rest
    | _ =>
      return build kind scheme none
        (fun p => String.ofList (percentEncoded (fun _ => false) p)) rest

def parse (s : String) : Except Fault Url :=
  match schemePart (cleaned s) with
  | none => .error .relative
  | some (scheme, rest) => readBehindScheme scheme rest

/-! ## Showing -/

def Credentials.display (c : Credentials) : String :=
  match c.password with
  | some p => s!"{c.name}:{p}@"
  | none => s!"{c.name}@"

def Server.display (s : Server) : String :=
  let credentials := (s.credentials.map Credentials.display).getD ""
  match s.port with
  | some port => s!"{credentials}{s.host.display}:{port}"
  | none => s!"{credentials}{s.host.display}"

def display (u : Url) : String :=
  let server := match u.server with
    | some s => "//" ++ s.display
    | none => ""
  let query := match u.query with
    | some q => "?" ++ q
    | none => ""
  let fragment := match u.fragment with
    | some f => "#" ++ f
    | none => ""
  s!"{u.scheme}:{server}{u.path}{query}{fragment}"

/-! ## Requests -/

/-- Whether credentials are sent apart from the URL, which takes a name that is
text, and a name or a password that is text. -/
def Credentials.areSent (c : Credentials) : Bool :=
  let isText (s : String) : Bool := (percentDecoded? s.toList).isSome
  isText c.name && (!c.name.isEmpty || (c.password.map isText).getD false)

/-- The URL of a request, without the credentials that are sent apart. -/
def anonymous (u : Url) : Url :=
  match u.server with
  | some s =>
    if (s.credentials.map Credentials.areSent).getD false then
      { u with server := some { s with credentials := none } }
    else u
  | none => u

def requestLimit : Nat := 65534

/-- Whether a request can be sent to a URL: it is on the web, its host has only
characters that hosts of requests may have, and it is not too long. -/
def canRequest (u : Url) : Bool :=
  let host := (u.server.map (·.host.display)).getD ""
  (u.scheme = "http" || u.scheme = "https") &&
    !host.toList.any (fun c => c == '"' || c == '`' || c == '\x7b' || c == '\x7d') &&
    u.display.utf8ByteSize ≤ requestLimit

end Url

end TwoStep
