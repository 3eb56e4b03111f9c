import BlockExplorer.Error
import BlockExplorer.Field.Check
import BlockExplorer.Node.Address

/-!
Why something fails. Beside the errors of the explorer there are faults of the configuration, faults
that the database or the way to the node reports, and values that nothing was prepared for.
-/

namespace BlockExplorer

inductive FileFault where
  | missing
  | directory
  deriving DecidableEq, Repr

def FileFault.message (path : Text) : FileFault → String
  | .missing => "[Errno 2] No such file or directory: " ++ Text.quoted path
  | .directory => "[Errno 21] Is a directory: " ++ Text.quoted path

inductive ConfigurationFault where
  | notInteger (setting : String) (raw : Text)
  | belowMinimum (setting : String) (minimum value : Int)
  | notNumber (setting : String) (raw : Text)
  | notPositive (setting : String) (value : Binary64)
  | poolBounds (least greatest : Int)
  | nodeAddress
  | databaseUrl
  | logLevel (level : Text)
  | unreadableFile (path : Text) (fault : FileFault)
  | malformedFile (path : Text) (fault : Json.Fault)
  | notAnObject (path : Text)
  | malformedEntry (name filename : Text)
  deriving DecidableEq, Repr

def ConfigurationFault.message : ConfigurationFault → String
  | .notInteger setting raw => s!"{setting} must be an integer, got {Text.quoted raw}"
  | .belowMinimum setting minimum value => s!"{setting} must be >= {minimum}, got {value}"
  | .notNumber setting raw => s!"{setting} must be a number, got {Text.quoted raw}"
  | .notPositive setting value => s!"{setting} must be positive, got {value.toText}"
  | .poolBounds least greatest =>
      s!"DB_POOL_MIN_SIZE ({least}) exceeds DB_POOL_MAX_SIZE ({greatest})"
  | .nodeAddress => "TENDERMINT_ADDR must include scheme and host, e.g. http://127.0.0.1:26657"
  | .databaseUrl => "DATABASE_URL must be a PostgreSQL connection string"
  | .logLevel level => s!"LOG_LEVEL {Text.quoted level} is not a logging level"
  | .unreadableFile path fault =>
      s!"Failed to load checksums from {Text.toString path}: {fault.message path}"
  | .malformedFile path fault =>
      s!"Failed to load checksums from {Text.toString path}: {fault.message}"
  | .notAnObject path => s!"Checksums file {Text.toString path} must contain a JSON object"
  | .malformedEntry name filename =>
      s!"Malformed checksum entry {Text.quoted name}: {Text.quoted filename}"

inductive DatabaseFaultKind where
  | postgres
  | undefinedTable
  | connectionInterface
  | system
  | connectionRefused
  | timeout
  | runtime
  | badValue
  deriving DecidableEq, Repr

/-- Whether the fault is one of the database or the way to it, rather than of the program. -/
def DatabaseFaultKind.isStoreFault : DatabaseFaultKind → Bool
  | .runtime => false
  | .badValue => false
  | _ => true

structure DatabaseFault where
  kind : DatabaseFaultKind
  text : Text
  deriving DecidableEq, Repr

/-- What may happen to a request to the node. One to a bad address is not sent at all. -/
inductive TransportFaultKind where
  | badAddress
  | unwritableAddress
  | connect
  | connectTimeout
  | readTimeout
  | read
  | remoteProtocol
  | poolTimeout
  | invalidUrl
  | runtime
  | badValue
  | system
  deriving DecidableEq, Repr

/-- Whether the fault is one of the exchange with the node. -/
def TransportFaultKind.isHttpFault : TransportFaultKind → Bool
  | .badAddress => false
  | .unwritableAddress => false
  | .invalidUrl => false
  | .runtime => false
  | .badValue => false
  | .system => false
  | _ => true

structure TransportFault where
  kind : TransportFaultKind
  text : Text
  deriving DecidableEq, Repr

/-- A part of a response that cannot be written because a text in it is not Unicode or an integer
too long: what was found, or anything else. -/
inductive Unwritable where
  | found
  | other
  deriving DecidableEq, Repr

inductive Failure where
  | boundary (fault : BoundaryFault)
  | configuration (fault : ConfigurationFault)
  | invalidFields (errors : List FieldError)
  | missingColumn (name : String)
  | database (fault : DatabaseFault)
  | transport (fault : TransportFault)
  | notAnObject (kind : Json.Kind)
  | notBase64Text (kind : Json.Kind)
  | notText (kind : Json.Kind)
  | unreadableDocument (fault : Json.Fault)
  | notUnicode (fault : Utf.Fault)
  | badAddress (fault : Address.Fault)
  | badEpoch (fault : EpochFault)
  | unknownKind (value : Json)
  | unknownCode (value : Json)
  | noFanout
  | notStarted
  | longInteger
  | unwritable (content : Unwritable)
  deriving Repr

namespace Failure

abbrev client (fault : ClientFault) : Failure := .boundary (.client fault)

abbrev store (fault : StoreFault) : Failure := .boundary (.store fault)

abbrev node (fault : NodeFault) : Failure := .boundary (.node fault)

abbrev decode (fault : DecodeFault) : Failure := .boundary (.decode fault)

/-- A failure whose text names an integer. One that is too long to be written is a failure of its
own. -/
def naming (n : Int) (failure : Numeral.Writable → Failure) : Failure :=
  match Numeral.Writable.ofInt? n with
  | some named => failure named
  | none => .longInteger

/-- The text of a failure. Invalid fields have none of their own, nor has a response that cannot be
written. -/
def message : Failure → Text
  | .boundary error => error.message
  | .configuration fault => Text.ofString fault.message
  | .invalidFields _ => []
  | .missingColumn name => Text.ofString (quote name)
  | .database fault => fault.text
  | .transport fault => fault.text
  | .notAnObject kind => Text.ofString s!"'{kind.name}' object has no attribute 'get'"
  | .notBase64Text kind =>
      Text.ofString s!"argument should be a bytes-like object or ASCII string, not '{kind.name}'"
  | .notText kind => Text.ofString s!"'{kind.name}' object has no attribute 'split'"
  | .unreadableDocument fault => Text.ofString fault.message
  | .notUnicode fault => Text.ofString fault.message
  | .badAddress fault => fault.message
  | .badEpoch fault => Text.ofString fault.message
  | .unknownKind value => Text.ofString s!"{value.shown} is not a valid TxKind"
  | .unknownCode value => Text.ofString s!"{value.shown} is not a valid ErrorCode"
  | .noFanout => Text.ofString "fanout must be at least 1"
  | .notStarted => Text.ofString "'State' object has no attribute 'block_query'"
  | .longInteger =>
      Text.ofString (s!"Exceeds the limit ({Numeral.maxDigits} digits) for integer string " ++
        "conversion; use sys.set_int_max_str_digits() to increase the limit")
  | .unwritable _ => []

theorem naming_val (n : Numeral.Writable) (failure : Numeral.Writable → Failure) :
    naming n.val failure = failure n := by
  rw [naming, Numeral.Writable.of_int?_val]

theorem naming_of_long {n : Int} (long : Numeral.isWritable n = false)
    (failure : Numeral.Writable → Failure) : naming n failure = .longInteger := by
  rw [naming, Numeral.Writable.of_int?_eq_none_iff.mpr long]

end Failure

end BlockExplorer
