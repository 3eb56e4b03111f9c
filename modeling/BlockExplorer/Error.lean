import BlockExplorer.Encoding.Base64
import BlockExplorer.Json.Reader

/-!
Errors of the explorer: the faults of its four boundaries, which are a client's input, the store,
the node and a record that cannot be decoded. Each fault has a code, and the code has an HTTP
status.
-/

namespace BlockExplorer

inductive ErrorCode where
  | invalidParameter
  | invalidHash
  | databaseError
  | serviceUnavailable
  | internalError
  deriving DecidableEq, Repr

namespace ErrorCode

def all : List ErrorCode :=
  [.invalidParameter, .invalidHash, .databaseError, .serviceUnavailable, .internalError]

def name : ErrorCode → String
  | .invalidParameter => "INVALID_PARAMETER"
  | .invalidHash => "INVALID_HASH"
  | .databaseError => "DATABASE_ERROR"
  | .serviceUnavailable => "SERVICE_UNAVAILABLE"
  | .internalError => "INTERNAL_ERROR"

def status : ErrorCode → Nat
  | .invalidParameter => 400
  | .invalidHash => 400
  | .databaseError => 500
  | .internalError => 500
  | .serviceUnavailable => 503

def ofName? (wanted : Text) : Option ErrorCode :=
  all.find? fun code => Text.ofString code.name = wanted

end ErrorCode

inductive ClientFault where
  | emptyHash
  | malformedHash (text : Text)
  | negativeHeight (height : Numeral.Writable)
  | heightTooGreat (height : Numeral.Writable)
  | negativeCount (count : Numeral.Writable)
  | negativeOffset (offset : Numeral.Writable)
  deriving DecidableEq, Repr

/-- Heights are stored as signed integers of 64 bits. -/
def maxHeight : Int := wordLimit - 1

namespace ClientFault

def code : ClientFault → ErrorCode
  | .emptyHash => .invalidHash
  | .malformedHash _ => .invalidHash
  | _ => .invalidParameter

def message : ClientFault → String
  | .emptyHash => "Block hash is empty"
  | .malformedHash text => "Block hash is not valid hex: " ++ Text.quoted text
  | .negativeHeight height => s!"Block height must be non-negative, got {height.val}"
  | .heightTooGreat height => s!"Block height must be at most {maxHeight}, got {height.val}"
  | .negativeCount count => s!"num must be non-negative, got {count.val}"
  | .negativeOffset offset => s!"offset must be non-negative, got {offset.val}"

end ClientFault

inductive Table where
  | blocks
  | txHashes
  | transactions
  deriving DecidableEq, Repr

def Table.name : Table → String
  | .blocks => "blocks"
  | .txHashes => "tx_hashes"
  | .transactions => "transactions"

inductive StoreFault where
  | notConnected
  | connectFailed (reason : Text)
  | queryFailed (reason : Text)
  | malformedRow (table : Table) (fields : Nat)
  | empty
  deriving DecidableEq, Repr

def StoreFault.message : StoreFault → Text
  | .notConnected => Text.ofString "Database is not connected"
  | .connectFailed reason => Text.ofString "Failed to connect to database: " ++ reason
  | .queryFailed reason => Text.ofString "Database query failed: " ++ reason
  | .malformedRow table fields =>
      Text.ofString s!"Malformed {table.name} row ({fields} invalid fields)"
  | .empty => Text.ofString "No blocks have been indexed yet"

inductive EpochFault where
  | notAscii
  | notBase64 (fault : Base64.Fault)
  | notAnEpoch (bytes : Bytes)
  deriving DecidableEq, Repr

def EpochFault.message : EpochFault → String
  | .notAscii => "string argument should contain only ASCII characters"
  | .notBase64 fault => fault.message
  | .notAnEpoch bytes => "unexpected epoch encoding: " ++ Hex.lowerString bytes

inductive DocumentFault where
  | notUnicode (fault : Utf.Fault)
  | notJson (fault : Json.Fault)
  deriving DecidableEq, Repr

def DocumentFault.message : DocumentFault → String
  | .notUnicode fault => fault.message
  | .notJson fault => fault.message

inductive NodeFault where
  | unreachable (reason : Text)
  | badStatus (status : Numeral.Writable)
  | malformedReply (fault : DocumentFault)
  | notAnObject
  | rpcError (error : Json)
  | noResult
  | refused (height : Numeral.Writable) (reason : Json)
  | malformedEpoch (height : Numeral.Writable) (fault : EpochFault)
  | noEpoch (height : Numeral.Writable)
  deriving Repr

def NodeFault.message : NodeFault → Text
  | .unreachable reason => Text.ofString "Node unreachable: " ++ reason
  | .badStatus status => Text.ofString s!"Node returned HTTP {status.val}"
  | .malformedReply fault => Text.ofString ("Node returned invalid JSON: " ++ fault.message)
  | .notAnObject => Text.ofString "RPC response is not a JSON object"
  | .rpcError error => Text.ofString "RPC error: " ++ error.display
  | .noResult => Text.ofString "RPC response has no result"
  | .refused height reason =>
      Text.ofString s!"Epoch query for height {height.val} failed: " ++ reason.display
  | .malformedEpoch height fault =>
      Text.ofString s!"Malformed epoch response for height {height.val}: {fault.message}"
  | .noEpoch height => Text.ofString s!"Node has no epoch for height {height.val}"

inductive DecodeFault where
  | noCode (hash : Bytes)
  | unknownCode (code hash : Bytes)
  deriving DecidableEq, Repr

def DecodeFault.message : DecodeFault → String
  | .noCode hash => "Transaction " ++ Hex.lowerString hash ++ " has no code hash"
  | .unknownCode code hash =>
      "Unknown code hash " ++ Hex.lowerString code ++ " for transaction " ++ Hex.lowerString hash

/-- The families of errors, with the code that an error of the family has unless it brings one. -/
inductive Boundary where
  | general
  | client
  | store
  | node
  | decode
  deriving DecidableEq, Repr

def Boundary.code : Boundary → ErrorCode
  | .general => .internalError
  | .client => .invalidParameter
  | .store => .databaseError
  | .node => .serviceUnavailable
  | .decode => .internalError

inductive BoundaryFault where
  | client (fault : ClientFault)
  | store (fault : StoreFault)
  | node (fault : NodeFault)
  | decode (fault : DecodeFault)
  deriving Repr

namespace BoundaryFault

def family : BoundaryFault → Boundary
  | .client _ => .client
  | .store _ => .store
  | .node _ => .node
  | .decode _ => .decode

def code : BoundaryFault → ErrorCode
  | .client fault => fault.code
  | .store _ => Boundary.store.code
  | .node _ => Boundary.node.code
  | .decode _ => Boundary.decode.code

def message : BoundaryFault → Text
  | .client fault => Text.ofString fault.message
  | .store fault => fault.message
  | .node fault => fault.message
  | .decode fault => Text.ofString fault.message

end BoundaryFault

end BlockExplorer
