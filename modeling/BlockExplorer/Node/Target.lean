import BlockExplorer.Encoding.Utf
import BlockExplorer.Node.Address
import BlockExplorer.Node.HostName

/-!
Where a single request goes. The address of the request is taken apart, and its host and port are
looked at, each time anew. An address without a host, or with blanks before its scheme, leads to a
path of no known place.
-/

namespace BlockExplorer

inductive Target where
  | absolute
  | relative (path : Text)
  deriving DecidableEq, Repr

namespace Target

open CodePoint

inductive Fault where
  | tooLong
  | unprintable (c position : Nat)
  | badVersion4 (host : Text)
  | badVersion6 (host : Text)
  | badName (host : Text)
  | badPort (text : Text)
  | surrogate (c : Nat)
  deriving DecidableEq, Repr

def Fault.message : Fault → String
  | .tooLong => "URL too long"
  | .unprintable c position =>
      s!"Invalid non-printable ASCII character in URL, {Text.quoted [c]} at position {position}."
  | .badVersion4 host => s!"Invalid IPv4 address: {Text.quoted host}"
  | .badVersion6 host => s!"Invalid IPv6 address: {Text.quoted host}"
  | .badName host => s!"Invalid IDNA hostname: {Text.quoted host}"
  | .badPort text => s!"Invalid port: {Text.quoted text}"
  | .surrogate c =>
      s!"'utf-8' codec can't encode character {Text.quoted [c]} in position 0: " ++
        "surrogates not allowed"

structure Parts where
  scheme : Text
  user : Text
  host : Text
  port : Text
  path : Text
  query : Option Text
  fragment : Text
  deriving DecidableEq, Repr

def hostOf (place : Text) : Text :=
  let bracketed := (place.reverse.dropWhile (· ≠ Address.closeBracket)).reverse
  if place.head? = some Address.openBracket && !bracketed.isEmpty then bracketed
  else place.takeWhile (· ≠ Address.colon)

def portOf (place : Text) : Text :=
  match place.drop (hostOf place).length with
  | 0x3A :: port => port
  | port => port

def Parts.ofText (url : Text) : Parts :=
  let (scheme, rest) := Address.splitScheme url
  let authority := Address.host rest
  let place := Address.behindUser authority
  let behind := match rest with
    | 0x2F :: 0x2F :: text => text.drop authority.length
    | text => text
  let path := behind.takeWhile fun c => c ≠ 0x3F && c ≠ 0x23
  let query := match behind.drop path.length with
    | 0x3F :: text => some (text.takeWhile (· ≠ 0x23))
    | _ => none
  { scheme
    user := authority.take (authority.length - place.length)
    host := hostOf place
    port := portOf place
    path
    query
    fragment := behind.dropWhile (· ≠ 0x23) }

/-- How far four groups of digits, with any one character between two groups, have been read:
`2 * n` before and `2 * n + 1` within a group. A digit may be the character between two groups. -/
def groupSteps (c state : Nat) : List Nat :=
  (if isAsciiDigit c then [state / 2 * 2 + 1] else []) ++
    (if state % 2 = 1 ∧ state < 7 then [state + 1] else [])

def resemblesVersion4 (host : Text) : Bool :=
  (host.foldl (fun states c => (states.flatMap (groupSteps c)).eraseDups) [0]).contains 7

def checkHost (host : Text) : Except Fault Unit :=
  if resemblesVersion4 host then
    if Address.isVersion4 host then .ok () else .error (.badVersion4 host)
  else if host.head? = some Address.openBracket && host.getLast? = some Address.closeBracket then
    if Address.isVersion6 (host.drop 1).dropLast then .ok () else .error (.badVersion6 host)
  else if host.all (· < 0x80) || HostName.isName (Text.toLower host) then .ok ()
  else .error (.badName host)

/-- A port may be left out. -/
def checkPort (port : Text) : Except Fault Unit :=
  if port.isEmpty || (Numeral.integer? (Text.trim isBlank port)).isSome then .ok ()
  else .error (.badPort port)

def maxLength : Nat := 65536

def isUnprintable (c : Nat) : Bool := c < 0x20 || c = 0x7F

def checkCharacters (url : Text) : Except Fault Unit :=
  let start := url.takeWhile fun c => !isUnprintable c
  match url.drop start.length with
  | [] => .ok ()
  | c :: _ => .error (.unprintable c start.length)

/-- A lone surrogate has no bytes to be escaped. -/
def checkWritable (part : Text) : Except Fault Unit :=
  match part.find? Text.isSurrogate with
  | none => .ok ()
  | some c => .error (.surrogate c)

/-- The segments of a path behind those that have been read, without `.` and without `..` and what
stands before it. The empty segment at the beginning stays. -/
def resolve : (read : List Text) → List Text → List Text
  | read, [] => read.reverse
  | read, segment :: rest =>
      if segment = [0x2E] then resolve read rest
      else if segment = [0x2E, 0x2E] then
        resolve (if read = [[]] then read else read.drop 1) rest
      else resolve (segment :: read) rest

def normalize (path : Text) : Text :=
  Text.join Address.slash (resolve [] (Text.split Address.slash path))

def isPlainInQuery (c : Nat) : Bool :=
  0x20 < c && c < 0x7F && !(Text.ofString "\"#<>").contains c

def isPlainInPath (c : Nat) : Bool :=
  isPlainInQuery c && !(c = 0x3F || c = 0x60 || c = 0x7B || c = 0x7D)

def escape (isPlain : Nat → Bool) (part : Text) : Text :=
  (Utf.encodeUtf8 part).flatMap fun byte =>
    if isPlain byte.toNat then [byte.toNat] else 0x25 :: Hex.upper [byte]

/-- The path of an address with a scheme is normalized. -/
def Parts.finalPath (parts : Parts) : Text :=
  if parts.scheme.isEmpty then parts.path else normalize parts.path

def Parts.relativePath (parts : Parts) : Text :=
  let path := escape isPlainInPath parts.finalPath
  let query := match parts.query with
    | none => []
    | some query => 0x3F :: escape isPlainInQuery query
  Address.slash :: (path ++ query).dropWhile (· == Address.slash)

def ofText (url : Text) : Except Fault Target := do
  if maxLength < url.length then throw .tooLong
  checkCharacters url
  let parts := Parts.ofText url
  checkWritable parts.user
  checkHost parts.host
  checkPort parts.port
  checkWritable parts.finalPath
  checkWritable (parts.query.getD [])
  checkWritable parts.fragment
  if parts.scheme.isEmpty || parts.host.isEmpty then return .relative parts.relativePath
  return .absolute

end Target

end BlockExplorer
