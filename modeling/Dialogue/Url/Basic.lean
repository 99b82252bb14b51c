import Dialogue.Url.Form
import Dialogue.Url.Host

/-!
# Addresses

The parts of an address, its text, and reading it. Blanks and control characters around it and
tabs and line breaks inside it are passed over. In web addresses backslashes are slashes, any
number of slashes may stand before the host, and the steps `.` and `..` of the path are taken.
-/

namespace Dialogue

/-- An address in parts. -/
structure Url where
  scheme : String
  username : String
  password : String
  host : Option String
  port : Option Nat
  path : String
  query : Option String
  fragment : Option String
  deriving DecidableEq, Repr

namespace Url

open Text

/-- The families of schemes. -/
inductive Family where
  | file
  | web
  | other
  deriving DecidableEq, Repr

/-- The family of a scheme. -/
def familyOf (scheme : String) : Family :=
  if scheme == "file" then .file
  else if ["http", "https", "ws", "wss", "ftp"].contains scheme then .web
  else .other

/-- The port that a scheme has without saying so. -/
def defaultPort? (scheme : String) : Option Nat :=
  [("http", 80), ("https", 443), ("ws", 80), ("wss", 443), ("ftp", 21)].lookup scheme

/-- Whether backslashes are slashes. -/
def Family.isSpecial (f : Family) : Bool := f != .other

/-- Whether a character is a slash. -/
def Family.isSlash (f : Family) (c : Char) : Bool := c == '/' || (f.isSpecial && c == '\\')

/-- Whether a character ends the part with user and host. -/
def Family.endsAuthority (f : Family) (c : Char) : Bool := f.isSlash c || c == '?' || c == '#'

/-- User and password in front of the host. -/
def userText (u : Url) : String :=
  if u.username.isEmpty && u.password.isEmpty then ""
  else u.username ++ (if u.password.isEmpty then "" else ":" ++ u.password) ++ "@"

/-- The text of an address. -/
def text (u : Url) : String :=
  u.scheme ++ ":" ++
    (match u.host with
      | some h => "//" ++ u.userText ++ h ++
        (match u.port with
          | some p => ":" ++ String.ofList (natChars p)
          | none => "")
      | none => "") ++
    u.path ++
    (match u.query with
      | some q => "?" ++ q
      | none => "") ++
    (match u.fragment with
      | some f => "#" ++ f
      | none => "")

/-- Adds pairs to the query. -/
def addPairs (u : Url) (pairs : List (String × String)) : Url :=
  if pairs.isEmpty then u
  else { u with query := some (String.ofList (Form.append (u.query.getD "").toList pairs)) }

/-- The pairs of the query. -/
def pairs (u : Url) : List (String × String) := Form.read (u.query.getD "")

/-- The characters of an address that count. -/
def significant (s : List Char) : List Char :=
  let trimmed := ((s.dropWhile fun c => c.toNat ≤ 0x20).reverse.dropWhile
    fun c => c.toNat ≤ 0x20).reverse
  trimmed.filter fun c => !(c == '\t' || c == '\n' || c == '\r')

/-- The lowercased scheme and what follows its colon. -/
def splitScheme? (s : List Char) : Option (List Char × List Char) :=
  let isScheme := fun (c : Char) => c.isAlphanum || c == '+' || c == '-' || c == '.'
  match s with
  | c :: _ =>
    if c.isAlpha then
      match s.dropWhile isScheme with
      | ':' :: r => some ((s.takeWhile isScheme).map Char.toLower, r)
      | _ => none
    else none
  | [] => none

/-- Splits at the last `c`. -/
def splitLast? (c : Char) (s : List Char) : Option (List Char × List Char) :=
  (splitAt? c s.reverse).map fun p => (p.2.reverse, p.1.reverse)

/-- User name and password. -/
def readUser (s : List Char) : List Char × List Char :=
  match splitAt? ':' s with
  | some (name, password) =>
    (Percent.encode Percent.inUserinfo name, Percent.encode Percent.inUserinfo password)
  | none => (Percent.encode Percent.inUserinfo s, [])

/-- Splits a host from the port behind the first colon outside brackets. -/
def splitPort : Bool → List Char → List Char × Option (List Char)
  | _, [] => ([], none)
  | inside, c :: r =>
    if c == ':' && !inside then ([], some r)
    else
      let p := splitPort (if c == '[' then true else if c == ']' then false else inside) r
      (c :: p.1, p.2)

/-- Reads a port; none where there are no digits or it is the scheme's own. -/
def readPort (scheme : String) (s : List Char) : Except UrlError (Option Nat) :=
  if s.isEmpty then .ok none
  else match readIntegerChars .unsigned16 s with
    | .ok n =>
      if s.all Char.isDigit then
        .ok (if defaultPort? scheme == some n.toNat then none else some n.toNat)
      else .error .port
    | .error _ => .error .port

/-- The part of an address with user, host and port. -/
structure Authority where
  username : List Char
  password : List Char
  host : Option (List Char)
  port : Option Nat

variable (names : HostNames)

/-- Reads user, host and port, with something behind them or not. -/
def readAuthority (scheme : String) (s : List Char) (more : Bool) : Except UrlError Authority := do
  let special := (familyOf scheme).isSpecial
  let (user, rest) := (splitLast? '@' s).getD ([], s)
  if s == ['@'] && more then
    throw .emptyHost
  let (username, password) := readUser user
  let (hostText, portText) := splitPort false rest
  if special && hostText.isEmpty then
    throw .emptyHost
  let host ← if special then Host.parse names hostText else Host.parseOpaque names hostText
  if host.isEmpty && (portText.isSome || !username.isEmpty || !password.isEmpty) then
    throw .emptyHost
  let port ← readPort scheme (portText.getD [])
  return ⟨username, password, if host.isEmpty then none else some host, port⟩

/-- Whether a step of a path stays where it is. -/
def isHere (s : List Char) : Bool := [".", "%2e"].contains (String.ofList (s.map Char.toLower))

/-- Whether a step of a path leads back. -/
def isBack (s : List Char) : Bool :=
  ["..", "%2e.", ".%2e", "%2e%2e"].contains (String.ofList (s.map Char.toLower))

/-- Whether a text is a letter and a colon or a bar. -/
def isDrive : List Char → Bool
  | [a, b] => a.isAlpha && (b == ':' || b == '|')
  | _ => false

/-- Steps without the last one; the name of a drive stays. -/
def back (done : List (List Char)) : List (List Char) :=
  if done.getLast?.any isDrive then done else done.dropLast

/-- Takes the steps of a path. The last step leaves an empty one behind it when it is `.` or
`..`. -/
def takeSteps : List (List Char) → List (List Char) → List (List Char)
  | done, [] => done
  | done, [s] =>
    if isBack s then back done ++ [[]] else if isHere s then done ++ [[]] else done ++ [s]
  | done, s :: r =>
    if isBack s then takeSteps (back done) r
    else if isHere s then takeSteps done r
    else takeSteps (done ++ [s]) r

/-- Reads the path of a web address. -/
def readPath (f : Family) (s : List Char) : List Char :=
  let inside := match s with
    | c :: r => if f.isSlash c then r else s
    | [] => []
  let steps := takeSteps [] ((fields f.isSlash inside).map (Percent.encode Percent.inPath))
  steps.flatMap fun step => '/' :: step

/-- Splits query and fragment off. -/
def splitTail (s : List Char) : List Char × Option (List Char) × Option (List Char) :=
  let (front, fragment) := match splitAt? '#' s with
    | some (a, b) => (a, some b)
    | none => (s, none)
  match splitAt? '?' front with
  | some (a, b) => (a, some b, fragment)
  | none => (front, none, fragment)

/-- Puts an address together. -/
def assemble (scheme : List Char) (a : Authority) (path : List Char)
    (query fragment : Option (List Char)) : Url :=
  let set := if (familyOf (String.ofList scheme)).isSpecial then Percent.inSpecialQuery
    else Percent.inQuery
  { scheme := String.ofList scheme
    username := String.ofList a.username
    password := String.ofList a.password
    host := a.host.map String.ofList
    port := a.port
    path := String.ofList path
    query := query.map fun q => String.ofList (Percent.encode set q)
    fragment := fragment.map fun f => String.ofList (Percent.encode Percent.inFragment f) }

/-- Reads what follows the scheme `file`. -/
def parseFile (s : List Char) : Except UrlError Url := do
  let (front, query, fragment) := splitTail s
  let f := Family.file
  let (hostText, path) := match front with
    | a :: b :: r =>
      if f.isSlash a && f.isSlash b then
        (r.takeWhile fun c => !f.isSlash c, r.dropWhile fun c => !f.isSlash c)
      else ([], front)
    | _ => ([], front)
  if hostText.isEmpty || isDrive hostText then
    let path := readPath f (hostText ++ path)
    return assemble "file".toList ⟨[], [], some [], none⟩ path query fragment
  let host ← Host.parse names hostText
  let host := if host == "localhost".toList then [] else host
  return assemble "file".toList ⟨[], [], some host, none⟩ (readPath f path) query fragment

/-- Reads an address. -/
def parseChars (s : List Char) : Except UrlError Url :=
  match splitScheme? (significant s) with
  | none => .error .relative
  | some (scheme, rest) =>
    let name := String.ofList scheme
    let f := familyOf name
    let withHost := fun (r : List Char) => do
      let behind := r.dropWhile fun c => !f.endsAuthority c
      let a ← readAuthority names name (r.takeWhile fun c => !f.endsAuthority c) (!behind.isEmpty)
      let (path, query, fragment) := splitTail behind
      let path := if path.isEmpty && f == .other then [] else readPath f path
      return assemble scheme a path query fragment
    match f with
    | .file => parseFile names rest
    | .web => withHost (rest.dropWhile f.isSlash)
    | .other =>
      match rest with
      | '/' :: '/' :: r => withHost r
      | _ =>
        let (path, query, fragment) := splitTail rest
        let path := if path.head? == some '/' then readPath f path
          else Percent.encode Percent.isControl path
        .ok (assemble scheme ⟨[], [], none, none⟩ path query fragment)

/-- Reads an address. -/
def parse (s : String) (names : HostNames := .none) : Except UrlError Url :=
  parseChars names s.toList

end Url

end Dialogue
