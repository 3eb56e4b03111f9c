import BlockExplorer.Proofs.Columns

/-!
Written forms are read back. What a model is written as passes the check of the model and comes to
the same model again, at every level: byte strings through their hexadecimal text, null for what is
not there, lists in their order, and a time as the point of time or the text that it was.
-/

namespace BlockExplorer

namespace Checked

variable {α : Type} {check : Value → Checked α} {write : α → Value}

theorem required_of_valid (name : String) {value : Value} {content : α}
    (valid : check value = .valid content) :
    required name check (some value) = .valid content := by
  rw [required, valid]
  rfl

theorem optional_of_valid (name : String) (fallback : α) {value : Value} {content : α}
    (valid : check value = .valid content) :
    optional name fallback check (some value) = .valid content := by
  rw [optional, valid]
  rfl

theorem nullable_of_valid {value : Value} {content : α} (filled : value ≠ .null)
    (valid : check value = .valid content) : nullable check value = .valid (some content) := by
  unfold nullable
  split
  · exact absurd rfl filled
  · rw [valid]
    rfl

theorem nullable_written (filled : ∀ content, write content ≠ .null)
    (readBack : ∀ content, check (write content) = .valid content) (content : Option α) :
    nullable check (Value.ofOption write content) = .valid content := by
  cases content with
  | none => rfl
  | some content => exact nullable_of_valid (filled content) (readBack content)

theorem items_written (readBack : ∀ content, check (write content) = .valid content)
    (contents : List α) (position : Nat) :
    items check position (contents.map write) = .valid contents := by
  induction contents generalizing position with
  | nil => rfl
  | cons content rest induction =>
      rw [List.map_cons, items, readBack, induction]
      rfl

theorem list_of_written (readBack : ∀ content, check (write content) = .valid content)
    (contents : List α) : listOf check (.list (contents.map write)) = .valid contents :=
  items_written readBack contents 0

end Checked

namespace Field

theorem integer_of_int (n : Int) : integer (.int n) = .valid n := rfl

theorem natural_of_nat (n : Nat) : natural (.int n) = .valid n := by
  have lower : ¬((n : Int) < 0) := by omega
  rw [natural, integer_of_int, Checked.bind, if_neg lower, Int.toNat_natCast]

theorem text_of_text (found : Text) : text (.text found) = .valid found := rfl

theorem bytes_of_hex (found : Bytes) : bytes (.hex found) = .valid found := by
  rw [Value.hex, bytes, Hex.decode?_upper]

theorem time_of_written (found : BlockTime) : time found.toValue = .valid found := by
  cases found <;> rfl

theorem kind_of_word (kind : EntryKind) :
    oneOf EntryKind.name EntryKind.all (.word kind.name) = .valid kind := by
  cases kind <;> rfl

theorem nullable_bytes (found : Option Bytes) :
    Checked.nullable bytes (Value.ofOption .hex found) = .valid found := by
  refine Checked.nullable_written ?_ bytes_of_hex found
  intro content same
  cases same

theorem nullable_integer (found : Option Int) :
    Checked.nullable integer (Value.ofOption .int found) = .valid found := by
  refine Checked.nullable_written ?_ integer_of_int found
  intro content same
  cases same

end Field

open Checked

theorem PartSetHeader.of_value_to_value (parts : PartSetHeader) :
    PartSetHeader.ofValue parts.toValue = .valid parts := by
  have total := optional_of_valid "total" 0 (Field.integer_of_int parts.total)
  have hash := optional_of_valid "hash" none (Field.nullable_bytes parts.hash)
  rw [PartSetHeader.ofValue, PartSetHeader.toValue, record_of_named]
  change PartSetHeader.check (some _) (some _) = _
  rw [PartSetHeader.check, total, hash]
  rfl

theorem BlockId.of_value_to_value (id : BlockId) : BlockId.ofValue id.toValue = .valid id := by
  have hash := optional_of_valid "hash" none (Field.nullable_bytes id.hash)
  have parts := optional_of_valid "parts" PartSetHeader.empty
    (PartSetHeader.of_value_to_value id.parts)
  rw [BlockId.ofValue, BlockId.toValue, record_of_named]
  change BlockId.check (some _) (optional _ _ _ (some _)) = _
  rw [BlockId.check, hash, parts]
  rfl

namespace BlockHeader

variable {α : Type} {cell : HeaderField → Option Value} {check : Value → Checked α}
  {field : HeaderField} {value : Value}

theorem need_of_valid {content : α} (present : cell field = some value)
    (valid : check value = .valid content) : need cell check field = .valid content := by
  rw [need, present]
  exact required_of_valid field.name valid

theorem maybe_of_valid {content : Option α} (present : cell field = some value)
    (valid : nullable check value = .valid content) : maybe cell check field = .valid content := by
  rw [maybe, present]
  exact optional_of_valid field.name none valid

theorem of_value_to_value (header : BlockHeader) :
    BlockHeader.ofValue header.toValue = .valid header := by
  rw [BlockHeader.ofValue, BlockHeader.toValue, record_of_named]
  exact check_eq_valid_iff.mpr
    ⟨maybe_of_valid rfl (Field.nullable_integer header.versionApp),
      maybe_of_valid rfl (Field.nullable_integer header.versionBlock),
      need_of_valid rfl (Field.text_of_text header.chainId),
      need_of_valid rfl (Field.natural_of_nat header.height),
      need_of_valid rfl (Field.time_of_written header.time),
      optional_of_valid "last_block_id" BlockId.empty
        (BlockId.of_value_to_value header.lastBlockId),
      maybe_of_valid rfl (Field.nullable_bytes header.lastCommitHash),
      maybe_of_valid rfl (Field.nullable_bytes header.dataHash),
      maybe_of_valid rfl (Field.nullable_bytes header.validatorsHash),
      maybe_of_valid rfl (Field.nullable_bytes header.nextValidatorsHash),
      maybe_of_valid rfl (Field.nullable_bytes header.consensusHash),
      maybe_of_valid rfl (Field.nullable_bytes header.appHash),
      maybe_of_valid rfl (Field.nullable_bytes header.lastResultsHash),
      maybe_of_valid rfl (Field.nullable_bytes header.evidenceHash),
      maybe_of_valid rfl (Field.nullable_bytes header.proposerAddress)⟩

end BlockHeader

theorem LastCommit.of_value_to_value (commit : LastCommit) :
    LastCommit.ofValue commit.toValue = .valid commit := by
  have height := required_of_valid "height" (Field.integer_of_int commit.height)
  have round := required_of_valid "round" (Field.integer_of_int commit.round)
  have blockId := optional_of_valid "block_id" BlockId.empty
    (BlockId.of_value_to_value commit.blockId)
  rw [LastCommit.ofValue, LastCommit.toValue, record_of_named]
  change LastCommit.check (some _) (some _) (optional _ _ _ (some _)) = _
  rw [LastCommit.check, height, round, blockId]
  rfl

theorem LastCommit.nullable_to_value (commit : Option LastCommit) :
    nullable LastCommit.ofValue (Value.ofOption LastCommit.toValue commit) = .valid commit := by
  refine nullable_written ?_ LastCommit.of_value_to_value commit
  intro content same
  cases same

theorem LabelledTx.of_value_to_value (summary : LabelledTx) :
    LabelledTx.ofValue summary.toValue = .valid summary := by
  have label := required_of_valid "tx_type" (Field.text_of_text summary.label)
  have hash := required_of_valid "hash_id" (Field.bytes_of_hex summary.hash)
  rw [LabelledTx.ofValue, LabelledTx.toValue, record_of_named]
  change LabelledTx.mk <$> required _ _ (some _) <*> required _ _ (some _) = _
  rw [label, hash]
  rfl

theorem IndexEntry.of_value_to_value (entry : IndexEntry) :
    IndexEntry.ofValue entry.toValue = .valid entry := by
  have hash := required_of_valid "hash" (Field.bytes_of_hex entry.hash)
  have kind := required_of_valid "tx_type" (Field.kind_of_word entry.kind)
  rw [IndexEntry.ofValue, IndexEntry.toValue, record_of_named]
  change IndexEntry.mk <$> required _ _ (some _) <*> required _ _ (some _) = _
  rw [hash, kind]
  rfl

theorem StoredTx.of_value_to_value (record : StoredTx) :
    StoredTx.ofValue record.toValue = .valid record := by
  have hash := required_of_valid "hash" (Field.bytes_of_hex record.hash)
  have blockId := required_of_valid "block_id" (Field.bytes_of_hex record.blockId)
  have kind := required_of_valid "tx_type" (Field.kind_of_word record.kind)
  have code := optional_of_valid "code" none (Field.nullable_bytes record.code)
  have data := optional_of_valid "data" none (Field.nullable_bytes record.data)
  rw [StoredTx.ofValue, StoredTx.toValue, record_of_named]
  change StoredTx.mk <$> required _ _ (some _) <*> required _ _ (some _) <*>
    required _ _ (some _) <*> optional _ _ _ (some _) <*> optional _ _ _ (some _) = _
  rw [hash, blockId, kind, code, data]
  rfl

theorem StoredBlock.of_value_to_value (row : StoredBlock) :
    StoredBlock.ofValue row.toValue = .valid row := by
  have blockId := required_of_valid "block_id" (Field.bytes_of_hex row.blockId)
  have header := required_of_valid "header" (BlockHeader.of_value_to_value row.header)
  have lastCommit := optional_of_valid "last_commit" none
    (LastCommit.nullable_to_value row.lastCommit)
  rw [StoredBlock.ofValue, StoredBlock.toValue, record_of_named]
  change StoredBlock.check (some _) (required _ _ (some _)) (optional _ _ _ (some _)) = _
  rw [StoredBlock.check, blockId, header, lastCommit]
  rfl

/-- Members besides those of the block make no difference to it. -/
theorem Block.check_of_members (block : Block) {field : String → Option Value}
    (own : ∀ name value, block.members.lookup name = some value → field name = some value) :
    Block.check field = .valid block := by
  have blockId := required_of_valid "block_id" (Field.bytes_of_hex block.blockId)
  have header := required_of_valid "header" (BlockHeader.of_value_to_value block.header)
  have lastCommit := optional_of_valid "last_commit" none
    (LastCommit.nullable_to_value block.lastCommit)
  have transactions := optional_of_valid "tx_hashes" []
    (list_of_written LabelledTx.of_value_to_value block.transactions)
  rw [Block.check, own "block_id" _ rfl, own "header" _ rfl, own "last_commit" _ rfl,
    own "tx_hashes" _ rfl, blockId, header, lastCommit, transactions]
  rfl

theorem Block.of_value_to_value (block : Block) : Block.ofValue block.toValue = .valid block := by
  rw [Block.ofValue, Block.toValue, record_of_named]
  exact block.check_of_members fun _ _ found => found

theorem EpochBlock.of_value_to_value (annotated : EpochBlock) :
    EpochBlock.ofValue annotated.toValue = .valid annotated := by
  have block : Block.check (fun name => List.lookup name
      (annotated.block.members ++ [("epoch", .int annotated.epoch)])) = .valid annotated.block := by
    apply annotated.block.check_of_members
    intro name value found
    rw [List.lookup_append, found]
    rfl
  have epoch := required_of_valid "epoch" (Field.natural_of_nat annotated.epoch)
  rw [EpochBlock.ofValue, EpochBlock.toValue, record_of_named, EpochBlock.check, block]
  change EpochBlock.mk <$> _ <*> required _ _ (some _) = _
  rw [epoch]
  rfl

namespace Latest

theorem tag_written (expected : String) : tag expected (.word expected) = .valid () := by
  rw [Value.word, tag, if_pos rfl]

theorem check_last_written (block : EpochBlock) {field : String → Option Value}
    (kind : field "kind" = some (.word lastTag)) (content : field "block" = some block.toValue) :
    checkLast field = .valid (.last block) := by
  have tagged := optional_of_valid "kind" () (tag_written lastTag)
  have found := required_of_valid "block" (EpochBlock.of_value_to_value block)
  rw [checkLast, kind, content, tagged, found]
  rfl

theorem check_page_written (blocks : List EpochBlock) {field : String → Option Value}
    (kind : field "kind" = some (.word pageTag))
    (content : field "blocks" = some (.list (blocks.map EpochBlock.toValue))) :
    checkPage field = .valid (.page blocks) := by
  have tagged := optional_of_valid "kind" () (tag_written pageTag)
  have found := optional_of_valid "blocks" []
    (list_of_written EpochBlock.of_value_to_value blocks)
  rw [checkPage, kind, content, tagged, found]
  rfl

theorem member_kind (expected : String) (members : List (String × Value)) :
    Value.member? "kind" (Value.withNames (("kind", .word expected) :: members)) =
      some (.text (Text.ofString expected)) :=
  Value.member?_with_names _ _

/-- The tag that is written leads back to the kind of answer that it was written for. -/
theorem of_value_to_value (latest : Latest) : Latest.ofValue latest.toValue = .valid latest := by
  cases latest with
  | last block =>
      have checked : checkLast (fun name => Value.member? name (Value.withNames
          [("kind", .word lastTag), ("block", block.toValue)])) = .valid (.last block) := by
        apply check_last_written
        · exact member_kind lastTag _
        · exact Value.member?_with_names _ _
      rw [toValue, Value.named, ofValue, member_kind]
      simp only [if_true, checked]
      rfl
  | page blocks =>
      have checked : checkPage (fun name => Value.member? name (Value.withNames
          [("kind", .word pageTag), ("blocks", .list (blocks.map EpochBlock.toValue))])) =
            .valid (.page blocks) := by
        apply check_page_written
        · exact member_kind pageTag _
        · exact Value.member?_with_names _ _
      have other : Text.ofString pageTag ≠ Text.ofString lastTag := by decide
      rw [toValue, Value.named, ofValue, member_kind]
      simp only [if_neg other, if_true, checked]
      rfl

end Latest

end BlockExplorer
