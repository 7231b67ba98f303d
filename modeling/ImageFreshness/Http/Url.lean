import ImageFreshness.Http.Host
import ImageFreshness.Text.Blank

/-!
# URLs

`Url.parse?` reads the URL of a resource on the web and brings it into the one form in which it is
asked for: dots in the path are followed, and characters that may not stand there are encoded.
-/

namespace ImageFreshness

open Text

structure Url where
  isSecure : Bool
  host : String
  /-- The port, if it is not the usual one. -/
  port : Option Nat
  path : String
  query : Option String
  fragment : Option String
  deriving DecidableEq, Repr

namespace Url

def scheme (u : Url) : String := if u.isSecure then "https" else "http"

def usualPort (isSecure : Bool) : Nat := if isSecure then 443 else 80

def effectivePort (u : Url) : Nat := u.port.getD (usualPort u.isSecure)

/-- The host with its port, if that is not the usual one. -/
def authority (u : Url) : String :=
  match u.port with
  | some port => u.host ++ ":" ++ String.ofList (Decimal.ofNat port)
  | none => u.host

/-- The text of the URL without its fragment: what a server is asked for. -/
def request (u : Url) : String :=
  u.scheme ++ "://" ++ u.authority ++ u.path ++
    (match u.query with
      | some query => "?" ++ query
      | none => "")

def text (u : Url) : String :=
  u.request ++
    (match u.fragment with
      | some fragment => "#" ++ fragment
      | none => "")

/-! ### Encoding -/

/-- The characters that are encoded in a fragment, apart from control characters and those beyond
    ASCII. -/
def fragmentSet : List Char := [' ', '"', '<', '>', '\x60']

def querySet : List Char := [' ', '"', '#', '<', '>', '\x27']

def pathSet : List Char := fragmentSet ++ ['#', '?', '\x7b', '\x7d']

def percentByte (byte : UInt8) : List Char :=
  let digit (n : Nat) : Char := (Nat.digitChar n).toUpper
  ['%', digit (byte.toNat / 16), digit (byte.toNat % 16)]

/-- The text with the characters of a set encoded. -/
def percentEncode (set : List Char) (cs : List Char) : List Char :=
  cs.flatMap fun c =>
    if c.toNat < 0x20 || 0x7E < c.toNat || set.contains c then
      c.toString.toUTF8.data.toList.flatMap percentByte
    else [c]

/-! ### Paths -/

def isSingleDot (segment : List Char) : Bool :=
  [".", "%2e"].contains (String.ofList (segment.map Char.toLower))

def isDoubleDot (segment : List Char) : Bool :=
  ["..", ".%2e", "%2e.", "%2e%2e"].contains (String.ofList (segment.map Char.toLower))

/-- The segments of a path with the dots followed; those so far come last first. -/
def followDots : List (List Char) → List (List Char) → List (List Char)
  | done, [] => done.reverse
  | done, segment :: rest =>
    let isLast := rest.isEmpty
    if isDoubleDot segment then
      let done := done.tail
      followDots (if isLast then [] :: done else done) rest
    else if isSingleDot segment then followDots (if isLast then [] :: done else done) rest
    else followDots (percentEncode pathSet segment :: done) rest

def pathText (cs : List Char) : List Char :=
  let cs := cs.map fun c => if c = '\\' then '/' else c
  '/' :: Host.joinWith ['/'] (followDots [] (Host.splitAt '/' cs.tail))

/-! ### Reading -/

def endsAuthority (c : Char) : Bool := c = '/' || c = '\\' || c = '?' || c = '#'

def scheme? (cs : List Char) : Option (Bool × List Char) := do
  let (scheme, rest) ← cutFirst ':' cs
  match String.ofList (scheme.map Char.toLower) with
  | "http" => some (false, rest)
  | "https" => some (true, rest)
  | _ => none

/-- The host of an authority and what follows the colon after it. -/
def splitPort : Bool → List Char → List Char × Option (List Char)
  | _, [] => ([], none)
  | inBrackets, c :: cs =>
    if c = ':' && !inBrackets then ([], some cs)
    else
      let (host, port) :=
        splitPort (if c = '[' then true else if c = ']' then false else inBrackets) cs
      (c :: host, port)

def port? (isSecure : Bool) (digits : Option (List Char)) : Option (Option Nat) :=
  match digits with
  | none | some [] => some none
  | some digits => do
    let n ← Decimal.natural? digits
    if 65535 < n then none else if n = usualPort isSecure then some none else some (some n)

/-- Reads a URL. -/
def parse? (text : String) : Option Url := do
  let cs := (stripEnds (·.toNat ≤ 0x20) text.toList).filter fun c =>
    c ≠ '\t' && c ≠ '\n' && c ≠ '\r'
  let (isSecure, cs) ← scheme? cs
  let cs := cs.dropWhile fun c => c = '/' || c = '\\'
  let (before, rest) := (cs.takeWhile (!endsAuthority ·), cs.dropWhile (!endsAuthority ·))
  let site := match cutLast '@' before with
    | some (_, site) => site
    | none => before
  let (host, port) := splitPort false site
  let host ← Host.parse? host
  let port ← port? isSecure port
  let (rest, fragment) := match cutFirst '#' rest with
    | some (rest, fragment) => (rest, some (percentEncode fragmentSet fragment))
    | none => (rest, none)
  let (path, query) := match cutFirst '?' rest with
    | some (path, query) => (path, some (percentEncode querySet query))
    | none => (rest, none)
  return { isSecure, host := String.ofList host, port, path := String.ofList (pathText path),
           query := query.map String.ofList, fragment := fragment.map String.ofList }

end Url

end ImageFreshness
