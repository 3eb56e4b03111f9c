import BlockExplorer.Field.Scalar

/-!
Transactions: the entries of a block's index, the stored records, what a record turns out to be, and
the summary that is shown. Each kind of transaction runs a wasm program of its own.
-/

namespace BlockExplorer

inductive EntryKind where
  | wrapper
  | decrypted
  deriving DecidableEq, Repr

def EntryKind.all : List EntryKind := [.wrapper, .decrypted]

def EntryKind.name : EntryKind → String
  | .wrapper => "Wrapper"
  | .decrypted => "Decrypted"

inductive TxKind where
  | transfer
  | bond
  | revealKey
  | voteProposal
  | becomeValidator
  | initValidator
  | unbond
  | withdraw
  | initAccount
  | updateAccount
  | resignSteward
  | updateStewardCommission
  | bridgePool
  | ibc
  | consensusKeyChange
  | commissionChange
  | metadataChange
  | claimRewards
  | deactivateValidator
  | reactivateValidator
  | unjailValidator
  | initProposal
  deriving DecidableEq, Repr

namespace TxKind

def all : List TxKind :=
  [.transfer, .bond, .revealKey, .voteProposal, .becomeValidator, .initValidator, .unbond,
    .withdraw, .initAccount, .updateAccount, .resignSteward, .updateStewardCommission,
    .bridgePool, .ibc, .consensusKeyChange, .commissionChange, .metadataChange, .claimRewards,
    .deactivateValidator, .reactivateValidator, .unjailValidator, .initProposal]

def name : TxKind → String
  | .transfer => "Transfer"
  | .bond => "Bond"
  | .revealKey => "RevealPK"
  | .voteProposal => "VoteProposal"
  | .becomeValidator => "BecomeValidator"
  | .initValidator => "InitValidator"
  | .unbond => "Unbond"
  | .withdraw => "Withdraw"
  | .initAccount => "InitAccount"
  | .updateAccount => "UpdateAccount"
  | .resignSteward => "ResignSteward"
  | .updateStewardCommission => "UpdateStewardCommission"
  | .bridgePool => "EthPoolBridge"
  | .ibc => "Ibc"
  | .consensusKeyChange => "ConsensusKeyChange"
  | .commissionChange => "CommissionChange"
  | .metadataChange => "MetaDataChange"
  | .claimRewards => "ClaimRewards"
  | .deactivateValidator => "DeactivateValidator"
  | .reactivateValidator => "ReactivateValidator"
  | .unjailValidator => "UnjailValidator"
  | .initProposal => "InitProposal"

def program : TxKind → String
  | .transfer => "tx_transfer"
  | .bond => "tx_bond"
  | .revealKey => "tx_reveal_pk"
  | .voteProposal => "tx_vote_proposal"
  | .becomeValidator => "tx_become_validator"
  | .initValidator => "tx_init_validator"
  | .unbond => "tx_unbond"
  | .withdraw => "tx_withdraw"
  | .initAccount => "tx_init_account"
  | .updateAccount => "tx_update_account"
  | .resignSteward => "tx_resign_steward"
  | .updateStewardCommission => "tx_update_steward_commission"
  | .bridgePool => "tx_bridge_pool"
  | .ibc => "tx_ibc"
  | .consensusKeyChange => "tx_change_consensus_key"
  | .commissionChange => "tx_change_validator_commission"
  | .metadataChange => "tx_change_validator_metadata"
  | .claimRewards => "tx_claim_rewards"
  | .deactivateValidator => "tx_deactivate_validator"
  | .reactivateValidator => "tx_reactivate_validator"
  | .unjailValidator => "tx_unjail_validator"
  | .initProposal => "tx_init_proposal"

def ofName? (wanted : Text) : Option TxKind :=
  all.find? fun kind => Text.ofString kind.name = wanted

theorem mem_all (kind : TxKind) : kind ∈ all := by cases kind <;> decide

def label : Option TxKind → String
  | none => EntryKind.decrypted.name
  | some kind => kind.name

end TxKind

structure IndexEntry where
  hash : Bytes
  kind : EntryKind
  deriving DecidableEq, Repr

/-- A stored transaction. `code` is the checksum of the program that it runs. -/
structure StoredTx where
  hash : Bytes
  blockId : Bytes
  kind : EntryKind
  code : Option Bytes
  data : Option Bytes
  deriving DecidableEq, Repr

/-- What a record turns out to be. The kind of a known program may be unknown. -/
structure DecodedTx where
  kind : Option TxKind
  program : Text
  data : Option Bytes
  deriving DecidableEq, Repr

structure LabelledTx where
  label : Text
  hash : Bytes
  deriving DecidableEq, Repr

namespace IndexEntry

def check (field : String → Option Value) : Checked IndexEntry :=
  IndexEntry.mk <$> Checked.required "hash" Field.bytes (field "hash")
    <*> Checked.required "tx_type" (Field.oneOf EntryKind.name EntryKind.all) (field "tx_type")

def ofValue : Value → Checked IndexEntry := Checked.recordOf check

def toValue (entry : IndexEntry) : Value :=
  .named
    [("hash", .hex entry.hash), ("tx_type", .word entry.kind.name)]

end IndexEntry

namespace StoredTx

def check (field : String → Option Value) : Checked StoredTx :=
  StoredTx.mk <$> Checked.required "hash" Field.bytes (field "hash")
    <*> Checked.required "block_id" Field.bytes (field "block_id")
    <*> Checked.required "tx_type" (Field.oneOf EntryKind.name EntryKind.all) (field "tx_type")
    <*> Checked.optional "code" none (Checked.nullable Field.bytes) (field "code")
    <*> Checked.optional "data" none (Checked.nullable Field.bytes) (field "data")

def ofValue : Value → Checked StoredTx := Checked.recordOf check

def toValue (record : StoredTx) : Value :=
  .named
    [("hash", .hex record.hash),
      ("block_id", .hex record.blockId),
      ("tx_type", .word record.kind.name),
      ("code", Value.ofOption .hex record.code),
      ("data", Value.ofOption .hex record.data)]

end StoredTx

namespace LabelledTx

def check (field : String → Option Value) : Checked LabelledTx :=
  LabelledTx.mk <$> Checked.required "tx_type" Field.text (field "tx_type")
    <*> Checked.required "hash_id" Field.bytes (field "hash_id")

def ofValue : Value → Checked LabelledTx := Checked.recordOf check

def toValue (summary : LabelledTx) : Value :=
  .named [("tx_type", .text summary.label), ("hash_id", .hex summary.hash)]

end LabelledTx

end BlockExplorer
