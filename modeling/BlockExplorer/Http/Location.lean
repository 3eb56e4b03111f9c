import BlockExplorer.Encoding.Utf
import BlockExplorer.Http.Message

/-!
The address to which a client is sent. Bytes that may not stand in an address are written with a
percent sign.
-/

namespace BlockExplorer

namespace Location

open CodePoint

/-- Letters, digits and the marks that may stand in a path, the percent sign among them. -/
def isPlainInPath (c : Nat) : Bool :=
  (0x30 ≤ c && c ≤ 0x39) || (0x41 ≤ c && c ≤ 0x5A) || (0x61 ≤ c && c ≤ 0x7A) ||
    (Text.ofString "_.-~:/%=@[]!$&'()*+,;").contains c

/-- A query may hold question marks and hashes besides. -/
def isPlainInQuery (c : Nat) : Bool := isPlainInPath c || c = 0x3F || c = 0x23

def escape (isPlain : Nat → Bool) (byte : UInt8) : Text :=
  if isPlain byte.toNat then [byte.toNat] else 0x25 :: Hex.upper [byte]

def quote (isPlain : Nat → Bool) (part : Text) : Text :=
  (Utf.encodeUtf8 part).flatMap (escape isPlain)

end Location

def Response.redirect (request : Request) (path : Text) : Response :=
  let query :=
    if request.query.isEmpty then []
    else 0x3F :: Location.quote Location.isPlainInQuery request.query
  ⟨307, .text "",
    [("location", Text.ofString "http://" ++ request.host ++
      Location.quote Location.isPlainInPath path ++ query)]⟩

end BlockExplorer
