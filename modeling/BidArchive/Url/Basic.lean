import BidArchive.Url.Address
import BidArchive.Url.Domain

/-!
# URLs

A URL is read in one pass and kept in normal form: scheme and domain name in lower case, a port only
if it is not the one that the scheme implies, steps of one or two dots in the path carried out, and
characters that may not stand in their part escaped. The schemes of the web are special: they always
have a host and a path, and a backslash counts as a slash for them. Files have a host or none; URLs
of other schemes have a host only if two slashes announce it.
-/

namespace BidArchive

open Text

/-- The kinds of scheme that are read differently. -/
inductive Url.Kind
  | special
  | file
  | other
deriving DecidableEq, Repr

/-- A URL in normal form. -/
structure Url where
  scheme : String
  /-- The name of the user, escaped. -/
  user : String
  host : Option String
  port : Option Nat
  path : String
  query : Option String
  fragment : Option String
deriving DecidableEq, Repr

namespace Url

/-- Why a text is no URL. -/
inductive Fault
  | relative
  | emptyHost
  | invalidPort
  | invalidFourBytes
  | invalidEightWords
  | invalidDomainCharacter
  | invalidDomain
deriving DecidableEq, Repr

/-- The wording of a fault. -/
def Fault.message : Fault → String
  | .relative => "relative URL without a base"
  | .emptyHost => "empty host"
  | .invalidPort => "invalid port number"
  | .invalidFourBytes => "invalid IPv4 address"
  | .invalidEightWords => "invalid IPv6 address"
  | .invalidDomainCharacter => "invalid domain character"
  | .invalidDomain => "invalid international domain name"

/-- The kind of a scheme. -/
def kindOf (scheme : String) : Kind :=
  if scheme = "file" then .file
  else if ["http", "https", "ws", "wss", "ftp"].contains scheme then .special
  else .other

/-- The port that a scheme implies. -/
def impliedPort? (scheme : String) : Option Nat :=
  if scheme = "http" ∨ scheme = "ws" then some 80
  else if scheme = "https" ∨ scheme = "wss" then some 443
  else if scheme = "ftp" then some 21
  else none

/-- A backslash counts as a slash. -/
def Kind.backslashes (kind : Kind) : Bool := kind != .other

/-- The character separates the steps of a path. -/
def isSlash (kind : Kind) (c : Char) : Bool := c == '/' || (kind.backslashes && c == '\\')

/-! ## Scheme -/

/-- Controls and spaces are dropped at both ends of a text, tabs and line ends everywhere. -/
def cleaned (text : String) : List Char :=
  let outer (c : Char) : Bool := decide (c.toNat ≤ 0x20)
  let cs := ((text.toList.dropWhile outer).reverse.dropWhile outer).reverse
  cs.filter fun c => c != '\t' && c != '\n' && c != '\r'

/-- A scheme in lower case and what stands behind its colon. -/
def splitScheme? (cs : List Char) : Option (String × List Char) :=
  match splitOnce? ':' cs with
  | some (c :: front, rest) =>
    if c.isAlpha && front.all (fun c => c.isAlphanum || c == '+' || c == '-' || c == '.') then
      some (String.ofList ((c :: front).map Char.toLower), rest)
    else none
  | _ => none

/-! ## Host -/

/-- The characters that the host of another scheme may not hold. -/
def forbiddenInHost : List Char :=
  [Char.ofNat 0, '\t', '\n', '\r', ' ', '#', '/', ':', '<', '>', '?', '@', '[', '\\', ']', '^', '|']

/-- Reads a host in brackets, which is an address of eight words. -/
def readBracketed (cs : List Char) : Except Fault String :=
  match cs.getLast? with
  | some ']' =>
    match readEightWords (cs.drop 1).dropLast with
    | some words => .ok (String.ofList ('[' :: eightWordsText words ++ [']']))
    | none => .error .invalidEightWords
  | _ => .error .invalidEightWords

/-- Reads the host of a scheme of the web. -/
def readHost (cs : List Char) : Except Fault String :=
  if cs.head? = some '[' then readBracketed cs
  else
    match Domain.ascii? (unescaped (Utf8.encode cs)) with
    | none => .error .invalidDomain
    | some [] => .error .emptyHost
    | some name =>
      if endsInNumber name then
        match readFourBytes name with
        | some address => .ok (String.ofList (fourBytesText address))
        | none => .error .invalidFourBytes
      else .ok (String.ofList name)

/-- Reads the host of another scheme. -/
def readOtherHost (cs : List Char) : Except Fault String :=
  if cs.head? = some '[' then readBracketed cs
  else if cs.any forbiddenInHost.contains then .error .invalidDomainCharacter
  else .ok (String.ofList (encoded [] cs))

/-- The characters up to a colon that stands outside of brackets, and the rest. -/
def splitHost (bracketed : Bool) : List Char → List Char × List Char
  | [] => ([], [])
  | c :: rest =>
    if c = ':' ∧ !bracketed then ([], c :: rest)
    else
      let bracketed := if c = '[' then true else if c = ']' then false else bracketed
      let (host, after) := splitHost bracketed rest
      (c :: host, after)

/-- Reads a port and what stands behind it. -/
def readPort (value : Nat) (any : Bool) : List Char → Except Fault (Option Nat × List Char)
  | [] => .ok (if any then some value else none, [])
  | c :: rest =>
    if c.isDigit then
      let value := value * 10 + (c.toNat - 48)
      if value < 0x10000 then readPort value true rest else .error .invalidPort
    else if c = '\\' then .ok (if any then some value else none, c :: rest)
    else .error .invalidPort

/-! ## Path -/

/-- The step leads to the step itself. -/
def isStay (step : List Char) : Bool :=
  ["." , "%2e"].contains (String.ofList (step.map Char.toLower))

/-- The step leads up. -/
def isUp (step : List Char) : Bool :=
  ["..", "%2e.", ".%2e", "%2e%2e"].contains (String.ofList (step.map Char.toLower))

/-- Carries out the steps of a path. `done` holds those that stay, from right to left. -/
def walk (done : List (List Char)) : List (List Char) → List (List Char)
  | [] => done.reverse
  | step :: rest =>
    let ends := rest.isEmpty
    if isUp step then walk (if ends then [] :: done.drop 1 else done.drop 1) rest
    else if isStay step then walk (if ends then [] :: done else done) rest
    else walk (encoded pathSet step :: done) rest

/-- The path that the text behind a host spells. -/
def readPath (kind : Kind) (cs : List Char) : List Char :=
  if cs.isEmpty ∧ kind = .other then []
  else
    let inner :=
      match cs with
      | c :: rest => if isSlash kind c then rest else c :: rest
      | [] => []
    (walk [] (splitBy (isSlash kind) inner)).flatMap fun step => '/' :: step

/-- The first step of a path names a drive of a computer. Such a path has no host. -/
def namesDrive (cs : List Char) : Bool :=
  match splitBy (isSlash .file) (cs.drop 1) with
  | [letter, colon] :: _ => letter.isAlpha && (colon == ':' || colon == '|')
  | _ => false

/-! ## The whole -/

/-- Adds what stands behind a path to a URL. -/
def withTail (url : Url) (tail : List Char) : Url :=
  let (front, fragment) :=
    match splitOnce? '#' tail with
    | some (front, fragment) => (front, some (String.ofList (encoded fragmentSet fragment)))
    | none => (tail, none)
  let set := if kindOf url.scheme = .other then querySet else specialQuerySet
  let query :=
    match front with
    | '?' :: query => some (String.ofList (encoded set query))
    | _ => none
  { url with query := query, fragment := fragment }

/-- Separates what stands before the first question mark or number sign. -/
def splitTail (cs : List Char) : List Char × List Char := cs.span fun c => c != '?' && c != '#'

/-- Reads what stands behind the two slashes of a URL with a host. -/
def readBehindSlashes (scheme : String) (cs : List Char) : Except Fault Url := do
  let kind := kindOf scheme
  let (front, tail) := splitTail cs
  let (authority, path) := front.span fun c => !isSlash kind c
  let (user, host) :=
    match (authority.reverse.span (· ≠ '@')) with
    | (back, _ :: front) => (front.reverse, back.reverse)
    | _ => ([], authority)
  let isNamed := authority.contains '@'
  if isNamed && user.isEmpty && host.isEmpty && !(path.isEmpty && tail.isEmpty) then
    throw .emptyHost
  let (name, behind) := splitHost false host
  if name.isEmpty && (kind == .special || !behind.isEmpty) then throw .emptyHost
  let text ← if kind == .special then readHost name else readOtherHost name
  let (port, left) ← if behind.isEmpty then pure (none, []) else readPort 0 false (behind.drop 1)
  if text.isEmpty && isNamed && user != [] && user != [':'] then throw .emptyHost
  let url : Url := {
    scheme := scheme
    user := String.ofList (encoded userSet (user.takeWhile (· ≠ ':')))
    host := if text.isEmpty then none else some text
    port := if port = impliedPort? scheme then none else port
    path := String.ofList (readPath kind (left ++ path))
    query := none
    fragment := none }
  return url.withTail tail

/-- Reads what stands behind the scheme of a file. -/
def readFile (scheme : String) (cs : List Char) : Except Fault Url := do
  let (front, tail) := splitTail cs
  let (host, path) :=
    match front with
    | a :: b :: rest =>
      if isSlash .file a && isSlash .file b then rest.span fun c => !isSlash .file c
      else ([], front)
    | _ => ([], front)
  let isDrive :=
    match host with
    | [letter, colon] => letter.isAlpha && (colon == ':' || colon == '|')
    | _ => false
  let text ← if host.isEmpty || isDrive then pure "" else readHost host
  let hasHost := text != "" && text != "localhost" && !namesDrive path
  let walked := readPath .file (if isDrive then '/' :: host ++ path else path)
  let url : Url := {
    scheme := scheme
    user := ""
    host := if hasHost then some text else none
    port := none
    path := String.ofList ('/' :: walked.dropWhile (· == '/'))
    query := none
    fragment := none }
  return url.withTail tail

/-- Reads a URL of another scheme that has no host. -/
def readHostless (scheme : String) (cs : List Char) : Url :=
  let (front, tail) := splitTail cs
  let path := if front.head? = some '/' then readPath .other front else encoded [] front
  withTail ⟨scheme, "", none, none, String.ofList path, none, none⟩ tail

/-- Reads a URL. -/
def read (text : String) : Except Fault Url :=
  match splitScheme? (cleaned text) with
  | none => .error .relative
  | some (scheme, rest) =>
    match kindOf scheme with
    | .special => readBehindSlashes scheme (rest.dropWhile (isSlash .special))
    | .file => readFile scheme rest
    | .other =>
      match rest with
      | '/' :: '/' :: rest => readBehindSlashes scheme rest
      | _ => .ok (readHostless scheme rest)

/-- The host with the port that is not implied. -/
def authority (url : Url) : String :=
  let host := url.host.getD ""
  match url.port with
  | some port => host ++ ":" ++ port.repr
  | none => host

/-- A text without the slashes at its end. -/
def withoutSlashes (text : String) : String :=
  String.ofList (text.toList.reverse.dropWhile (· == '/')).reverse

/-- What a request for the URL asks the host for. -/
def target (url : Url) : String :=
  match url.query with
  | some query => url.path ++ "?" ++ query
  | none => url.path

/-- The URL as it is written, without the name of a user. -/
def text (url : Url) : String :=
  let fragment :=
    match url.fragment with
    | some fragment => "#" ++ fragment
    | none => ""
  let slashes := if url.host.isSome then "://" else ":"
  url.scheme ++ slashes ++ url.authority ++ url.target ++ fragment

end Url

end BidArchive
