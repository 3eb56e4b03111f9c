import BlockExplorer.Encoding.Utf

/-!
The query of a request: parts between `&`, each a name and a value around the first `=`. In both a
plus sign stands for a space, and a percent sign with two hexadecimal digits for a byte. Faulty
UTF-8 becomes U+FFFD. The last value of a name counts.
-/

namespace BlockExplorer.QueryString

open CodePoint

abbrev ampersand : Nat := 0x26

abbrev equals : Nat := 0x3D

abbrev percent : Nat := 0x25

abbrev plus : Nat := 0x2B

def percentDecode : Text → Bytes
  | [] => []
  | [a] => [UInt8.ofNat a]
  | [a, b] => [UInt8.ofNat a, UInt8.ofNat b]
  | a :: b :: c :: rest =>
      if a = percent then
        match Hex.pair? b c with
        | some byte => byte :: percentDecode rest
        | none => UInt8.ofNat a :: percentDecode (b :: c :: rest)
      else UInt8.ofNat a :: percentDecode (b :: c :: rest)

/-- Runs of ASCII and of other characters by turns. -/
def runs (text : Text) : List Text :=
  text.splitBy fun a b => decide (a < 0x80) == decide (b < 0x80)

def decodeRun (run : Text) : Text :=
  if run.all (· < 0x80) then Utf.repairUtf8 (percentDecode run) else run

def decode (part : Text) : Text :=
  (runs (part.map fun c => if c = plus then 0x20 else c)).flatMap decodeRun

def pair (part : Text) : Text × Text :=
  let name := part.takeWhile (· ≠ equals)
  (decode name, decode (part.drop (name.length + 1)))

/-- The names and values of a query. Characters outside ASCII count as the bytes of their UTF-8. -/
def pairs (query : Text) : List (Text × Text) :=
  let parts := Text.split ampersand (Utf.values (Utf.encodeUtf8 query))
  (parts.filter fun part => !part.isEmpty).map pair

def value? (query : Text) (name : String) : Option Text :=
  (pairs query).reverse.lookup (Text.ofString name)

end BlockExplorer.QueryString
