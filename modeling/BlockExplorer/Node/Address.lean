import BlockExplorer.Text.Blank
import BlockExplorer.Number.Numeral
import BlockExplorer.Encoding.Hex

/-!
The address of a node: a scheme, `://` and a host. `http` is assumed where no scheme is written. The
host ends at the first slash, question mark or hash; in brackets it must be an address of IP version
6 or of a future version.
-/

namespace BlockExplorer.Address

open CodePoint

inductive Fault where
  | incomplete
  | unbalancedBrackets
  | misplacedBrackets
  | futureAddress
  | bracketedVersion4
  | noAddress (host : Text)
  | ambiguousHost (host : Text)
  deriving DecidableEq, Repr

def Fault.message : Fault → Text
  | .incomplete =>
      Text.ofString "node_url must include scheme and host, e.g. http://127.0.0.1:26657"
  | .unbalancedBrackets => Text.ofString "Invalid IPv6 URL"
  | .misplacedBrackets => Text.ofString "Invalid IPv6 URL"
  | .futureAddress => Text.ofString "IPvFuture address is invalid"
  | .bracketedVersion4 => Text.ofString "An IPv4 address cannot be in brackets"
  | .noAddress host =>
      Text.ofString (Text.quoted host ++ " does not appear to be an IPv4 or IPv6 address")
  | .ambiguousHost host =>
      Text.ofString "netloc '" ++ host ++
        Text.ofString "' contains invalid characters under NFKC normalization"

abbrev colon : Nat := 0x3A

abbrev slash : Nat := 0x2F

abbrev openBracket : Nat := 0x5B

abbrev closeBracket : Nat := 0x5D

/-- A number from 0 to 255 in decimal without leading zeros. -/
def isOctet (text : Text) : Bool :=
  !text.isEmpty && text.all isAsciiDigit && text.length ≤ 3 &&
    (text = [0x30] || text.head? ≠ some 0x30) && Numeral.ofDigits (text.map (· - 0x30)) ≤ 255

def isVersion4 (text : Text) : Bool :=
  let parts := Text.split 0x2E text
  parts.length = 4 && parts.all isOctet

def isHextet (text : Text) : Bool :=
  !text.isEmpty && text.length ≤ 4 && text.all fun c => (Hex.digitValue? c).isSome

/-- The parts of an address between colons; an address of version 4 at the end counts as two
parts. -/
def hextets? (text : Text) : Option (List Text) :=
  let parts := Text.split colon text
  let last := parts.getLast?.getD []
  if last.contains 0x2E then
    if isVersion4 last then some (parts.dropLast ++ [[0x30], [0x30]]) else none
  else some parts

def dropEdge (parts : List Text) : List Text := if parts = [[]] then [] else parts

def areHextets (parts : List Text) : Bool :=
  let inner := (parts.drop 1).dropLast
  match inner.count [] with
  | 0 => parts.length = 8 && parts.all isHextet
  | 1 =>
      let gap := inner.idxOf [] + 1
      let before := dropEdge (parts.take gap)
      let behind := dropEdge (parts.drop (gap + 1))
      before.length + behind.length ≤ 7 && before.all isHextet && behind.all isHextet
  | _ => false

/-- An address of version 6. A zone may follow a percent sign. -/
def isVersion6 (text : Text) : Bool :=
  let address := text.takeWhile (· ≠ 0x25)
  let zone := text.drop address.length
  let zoned := zone.isEmpty || (1 < zone.length && !(zone.drop 1).contains 0x25)
  match hextets? address with
  | some parts =>
      zoned && 3 ≤ (Text.split colon address).length && parts.length ≤ 9 && areHextets parts
  | none => false

/-- `v`, hexadecimal digits, a point and anything behind it. -/
def isFutureVersion (text : Text) : Bool :=
  let rest := text.drop 1
  let digits := rest.takeWhile fun c => (Hex.digitValue? c).isSome
  match rest.drop digits.length with
  | 0x2E :: _ :: _ => !digits.isEmpty
  | _ => false

/-- The text up to a separating point and the text behind it. Without the point all of the text
stands before it. -/
def cut (separator : Nat) (text : Text) : Text × Text :=
  let before := text.takeWhile (· ≠ separator)
  (before, text.drop (before.length + 1))

def behindUser (authority : Text) : Text :=
  (authority.reverse.takeWhile (· ≠ 0x40)).reverse

/-- The name of the host where brackets occur: what stands in brackets, with nothing before them and
only a port behind them. Brackets before the `@` alone leave it without any. -/
def bracketedName (authority : Text) : Except Fault Text :=
  let place := behindUser authority
  if place.contains openBracket then
    let (before, behind) := cut openBracket place
    let (name, port) := cut closeBracket behind
    if !before.isEmpty || (!port.isEmpty && port.head? ≠ some colon) then .error .misplacedBrackets
    else .ok name
  else .ok (cut colon place).1

def checkBracketed (name : Text) : Except Fault Unit :=
  if name.head? = some 0x76 then
    if isFutureVersion name then .ok () else .error .futureAddress
  else if isVersion4 name then .error .bracketedVersion4
  else if isVersion6 name then .ok ()
  else .error (.noAddress name)

def checkBrackets (authority : Text) : Except Fault Unit :=
  match authority.contains openBracket, authority.contains closeBracket with
  | false, false => .ok ()
  | true, true => do
      let name ← bracketedName authority
      checkBracketed name
  | _, _ => .error .unbalancedBrackets

/-- Characters whose compatibility form holds one of `/ ? # @ :`. -/
def ambiguous : List Nat :=
  [0x2047, 0x2048, 0x2049, 0x2100, 0x2101, 0x2105, 0x2106, 0x2A74, 0xFE13, 0xFE16, 0xFE55, 0xFE56,
    0xFE5F, 0xFE6B, 0xFF03, 0xFF0F, 0xFF1A, 0xFF1F, 0xFF20]

def checkAmbiguity (host : Text) : Except Fault Unit :=
  if host.any ambiguous.contains then .error (.ambiguousHost host) else .ok ()

def isAsciiLetter (c : Nat) : Bool := (0x41 ≤ c && c ≤ 0x5A) || (0x61 ≤ c && c ≤ 0x7A)

def isSchemeCharacter (c : Nat) : Bool :=
  isAsciiLetter c || isAsciiDigit c || c = 0x2B || c = 0x2D || c = 0x2E

def splitScheme (url : Text) : Text × Text :=
  let name := url.takeWhile (· ≠ colon)
  match url.drop name.length with
  | _ :: rest =>
      if (name.head?.map isAsciiLetter).getD false && name.all isSchemeCharacter then (name, rest)
      else ([], url)
  | [] => ([], url)

def host (rest : Text) : Text :=
  match rest with
  | 0x2F :: 0x2F :: text => text.takeWhile fun c => c ≠ slash && c ≠ 0x3F && c ≠ 0x23
  | _ => []

/-- Leading control characters and spaces do not count, nor do tabs and line ends anywhere. -/
def clean (url : Text) : Text :=
  (url.dropWhile (· ≤ 0x20)).filter fun c => c ≠ 0x09 && c ≠ 0x0A && c ≠ 0x0D

def check (url : Text) : Except Fault Unit := do
  let (scheme, rest) := splitScheme (clean url)
  let name := host rest
  checkBrackets name
  checkAmbiguity name
  if scheme.isEmpty || name.isEmpty then .error .incomplete

def mark : Text := [colon, slash, slash]

def hasMark (url : Text) : Bool := Text.includes mark url

/-- The address under which a node is asked: with a scheme, without slashes at the end. -/
def ofText (text : Text) : Except Fault Text := do
  let url := if hasMark text then text else Text.ofString "http://" ++ text
  check url
  return Text.trimEnd (· == slash) url

end BlockExplorer.Address
