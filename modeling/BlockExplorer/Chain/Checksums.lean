import BlockExplorer.Failure
import BlockExplorer.Text.Case

/-!
The table of wasm programs by checksum. The build of the chain lists its programs the other way
round: `tx_bond.wasm` is found in the file `tx_bond.<checksum>.wasm`. Reading the list inverts it;
when two programs have one checksum the later one counts.
-/

namespace BlockExplorer

/-- Names of programs by checksum, in lower-case hexadecimal. -/
abbrev Checksums := List (Text × Text)

inductive ChecksumFile where
  | missing
  | directory
  | content (bytes : Bytes)
  deriving DecidableEq, Repr

namespace Checksums

def wasm : Text := Text.ofString "wasm"

/-- The name of a program without one `.wasm` at its end. -/
def programName (name : Text) : Text :=
  if (0x2E :: wasm).isSuffixOf name then name.take (name.length - 5) else name

/-- The checksum in a file name of exactly three parts, of which the third is `wasm`. -/
def checksum? (filename : Text) : Option Text :=
  match Text.split 0x2E filename with
  | [_, checksum, last] => if last = wasm then some (Text.toLower checksum) else none
  | _ => none

def entry (name : Text) (filename : Json) : Except Failure (Text × Text) :=
  match filename with
  | .text filename =>
      match checksum? filename with
      | some checksum => .ok (checksum, programName name)
      | none => .error (.configuration (.malformedEntry name filename))
  | other => .error (.notText other.kind)

/-- The inverted table. The first entry that cannot be inverted decides the fault. -/
def ofList : List (Text × Json) → Except Failure (List (Text × Text))
  | [] => .ok []
  | (name, filename) :: rest => do
      let first ← entry name filename
      let others ← ofList rest
      .ok (first :: others)

def invert (names : List (Text × Json)) : Except Failure Checksums :=
  (ofList names).map Dictionary.ofEntries

/-- Line ends of every kind as a single line feed. -/
def normalizeLines : Text → Text
  | 0x0D :: 0x0A :: rest => 0x0A :: normalizeLines rest
  | 0x0D :: rest => 0x0A :: normalizeLines rest
  | c :: rest => c :: normalizeLines rest
  | [] => []

def ofDocument (path : Text) : Json → Except Failure Checksums
  | .object members => invert members
  | _ => .error (.configuration (.notAnObject path))

/-- The table in the file at a path, which is expanded already. -/
def load (path : Text) : ChecksumFile → Except Failure Checksums
  | .missing => .error (.configuration (.unreadableFile path .missing))
  | .directory => .error (.configuration (.unreadableFile path .directory))
  | .content bytes =>
      match Utf.decodeUtf8 bytes with
      | .error fault => .error (.notUnicode fault)
      | .ok text =>
          match Json.parseText (normalizeLines text) with
          | .ok document => ofDocument path document
          | .error fault =>
              if fault.isSyntactic then .error (.configuration (.malformedFile path fault))
              else .error (.unreadableDocument fault)

end Checksums

end BlockExplorer
