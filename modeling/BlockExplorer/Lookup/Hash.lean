import BlockExplorer.Error

/-!
The hash of a block as a client writes it: hexadecimal text, `0x` before it or not, with blanks
around it.
-/

namespace BlockExplorer.BlockHash

def dropMark : Text → Text
  | 0x30 :: 0x78 :: rest => rest
  | 0x30 :: 0x58 :: rest => rest
  | text => text

def parse (text : Text) : Except ClientFault Bytes :=
  match dropMark (Text.trim CodePoint.isBlank text) with
  | [] => .error .emptyHash
  | digits =>
      match Hex.decode? digits with
      | some hash => .ok hash
      | none => .error (.malformedHash text)

theorem drop_mark_of_second {c d : Nat} {rest : Text} (lower : d ≠ 0x78) (upper : d ≠ 0x58) :
    dropMark (c :: d :: rest) = c :: d :: rest := by
  unfold dropMark
  split
  · next same =>
      cases same
      exact absurd rfl lower
  · next same =>
      cases same
      exact absurd rfl upper
  · rfl

end BlockExplorer.BlockHash
