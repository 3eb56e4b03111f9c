import BlockExplorer.Chain.Checksums
import BlockExplorer.Chain.Transaction

/-!
What a stored transaction is: its code is looked up in the table of checksums, and the program found
there tells the kind. A program that belongs to no kind is no fault.
-/

namespace BlockExplorer

namespace TxKind

def programs : List (Text × TxKind) := all.map fun kind => (Text.ofString kind.program, kind)

end TxKind

namespace StoredTx

def decodeWith (programs : List (Text × TxKind)) (checksums : Checksums) (record : StoredTx) :
    Except DecodeFault DecodedTx :=
  match record.code with
  | none => .error (.noCode record.hash)
  | some [] => .error (.noCode record.hash)
  | some code =>
      match checksums.lookup (Hex.lower code) with
      | none => .error (.unknownCode code record.hash)
      | some program => .ok ⟨programs.lookup program, program, record.data⟩

def decode (checksums : Checksums) (record : StoredTx) : Except DecodeFault DecodedTx :=
  decodeWith TxKind.programs checksums record

end StoredTx

end BlockExplorer
