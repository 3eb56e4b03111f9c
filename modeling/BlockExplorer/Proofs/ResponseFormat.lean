import Mathlib.Data.List.Nodup
import BlockExplorer.Proofs.IsoText
import BlockExplorer.Proofs.Responses

/-!
The format of responses is stable. Whatever is written is a document of null, integers, texts, lists
and objects; the check of the model accepts it and finds the model again, with its time as text and
everything else as it was; and what was found is written in the same way once more. A model with a
text that is not Unicode, or an integer that is too long, is accepted but cannot be written.
-/

namespace BlockExplorer

/-- A value that can stand in the body of a response. The names in an object are distinct. -/
inductive Value.IsDocument : Value → Prop
  | null : IsDocument .null
  | int (n : Int) : IsDocument (.int n)
  | text (found : Text) : IsDocument (.text found)
  | list {items : List Value} (each : ∀ item ∈ items, item.IsDocument) : IsDocument (.list items)
  | record {members : List (Text × Value)} (distinct : (members.map Prod.fst).Nodup)
      (each : ∀ member ∈ members, member.2.IsDocument) : IsDocument (.record members)

def Value.tag? : Value → Option Value
  | .record members => Value.member? "kind" members
  | _ => none

/-- A point of time becomes its text after ISO 8601; a text is kept. -/
inductive BlockTime.Shows : BlockTime → BlockTime → Prop
  | instant {time : Timestamp} {text : String} (iso : time.IsIso text) :
      Shows (.written (Text.ofString text)) (.instant time)
  | written (text : Text) : Shows (.written text) (.written text)

structure BlockHeader.Shows (shown header : BlockHeader) : Prop where
  time : shown.time.Shows header.time
  others : shown = { header with time := shown.time }

structure StoredBlock.Shows (shown row : StoredBlock) : Prop where
  blockId : shown.blockId = row.blockId
  header : shown.header.Shows row.header
  lastCommit : shown.lastCommit = row.lastCommit

structure Block.Shows (shown block : Block) : Prop where
  blockId : shown.blockId = block.blockId
  header : shown.header.Shows block.header
  lastCommit : shown.lastCommit = block.lastCommit
  transactions : shown.transactions = block.transactions

structure EpochBlock.Shows (shown annotated : EpochBlock) : Prop where
  block : shown.block.Shows annotated.block
  epoch : shown.epoch = annotated.epoch

inductive Latest.Shows : Latest → Latest → Prop
  | last {shown block : EpochBlock} (same : shown.Shows block) : Shows (.last shown) (.last block)
  | page {shown blocks : List EpochBlock} (same : List.Forall₂ EpochBlock.Shows shown blocks) :
      Shows (.page shown) (.page blocks)

namespace Latest

def tagName : Latest → String
  | .last _ => lastTag
  | .page _ => pageTag

/-- The tag stands for the kind of answer, in what is accepted and in what is written. -/
structure KeepsTag : Prop where
  accepted : ∀ value latest, ofValue value = .valid latest →
    value.tag? = some (.word latest.tagName)
  last : ∀ value latest, Checked.recordOf checkLast value = .valid latest → latest.tagName = lastTag
  page : ∀ value latest, Checked.recordOf checkPage value = .valid latest → latest.tagName = pageTag
  written : ∀ latest : Latest, latest.settled.toValue.tag? = some (.word latest.tagName)

end Latest

/-- A model is written if all texts of its form are Unicode and all integers short enough. What is
written then is a document that leads back to the model and is written once more as it is. -/
structure RoundTrips {Model : Type} (read : Value → Checked Model) (form : Model → Value)
    (Shows : Model → Model → Prop) : Prop where
  written : ∀ model, (∃ body, App.writeValue (form model) = .ok body) ↔
    (form model).isWritable = true
  readBack : ∀ model body, App.writeValue (form model) = .ok body → body.IsDocument ∧
    ∃ shown, read body = .valid shown ∧ Shows shown model ∧
      App.writeValue (form shown) = .ok body

theorem RoundTrips.of_settled {Model : Type} {read : Value → Checked Model}
    {form : Model → Value} {Shows : Model → Model → Prop} {settled : Model → Model}
    (document : ∀ model, (form model).IsDocument)
    (readBack : ∀ model, read (form model) = .valid (settled model))
    (shows : ∀ model, Shows (settled model) model)
    (again : ∀ model, form (settled model) = form model) : RoundTrips read form Shows where
  written model := by
    rw [App.writeValue]
    split <;> simp_all
  readBack model body sent := by
    have same : form model = body := by
      rw [App.writeValue] at sent
      split at sent
      · exact Except.ok.inj sent
      · cases sent
    subst same
    refine ⟨document model, settled model, readBack model, shows model, ?_⟩
    rw [again model]
    exact sent

def Hex.IsCapital (text : Text) : Prop :=
  ∀ c ∈ text, (0x30 ≤ c ∧ c ≤ 0x39) ∨ (0x41 ≤ c ∧ c ≤ 0x46)

namespace Value

theorem IsDocument.named {members : List (String × Value)}
    (distinct : (members.map Prod.fst).Nodup)
    (each : members.Forall fun member => member.2.IsDocument) :
    (Value.named members).IsDocument := by
  have names : (Value.withNames members).map Prod.fst =
      (members.map Prod.fst).map Text.ofString := by
    simp only [Value.withNames, List.map_map, Function.comp_def]
  refine .record ?_ ?_
  · rw [names]
    exact List.Nodup.map (fun _ _ same => Text.of_string_inj.mp same) distinct
  · intro member present
    obtain ⟨origin, found, rfl⟩ := List.mem_map.mp present
    exact List.forall_iff_forall_mem.mp each origin found

theorem IsDocument.hex (found : Bytes) : (Value.hex found).IsDocument := .text _

theorem IsDocument.word (name : String) : (Value.word name).IsDocument := .text _

theorem IsDocument.of_option {α : Type} {write : α → Value}
    (each : ∀ content, (write content).IsDocument) (content : Option α) :
    (Value.ofOption write content).IsDocument := by
  cases content with
  | none => exact .null
  | some content => exact each content

theorem IsDocument.list_of {α : Type} {write : α → Value}
    (each : ∀ content, (write content).IsDocument) (contents : List α) :
    (Value.list (contents.map write)).IsDocument := by
  refine .list fun item present => ?_
  obtain ⟨content, _, rfl⟩ := List.mem_map.mp present
  exact each content

end Value

open Value.IsDocument

theorem PartSetHeader.is_document (parts : PartSetHeader) : parts.toValue.IsDocument :=
  named (of_decide_eq_true rfl) ⟨int _, of_option hex _⟩

theorem BlockId.is_document (id : BlockId) : id.toValue.IsDocument :=
  named (of_decide_eq_true rfl) ⟨of_option hex _, id.parts.is_document⟩

theorem BlockHeader.is_document (header : BlockHeader) : header.settled.toValue.IsDocument :=
  named (of_decide_eq_true rfl)
    ⟨of_option int _, of_option int _, text _, int _, text _, header.lastBlockId.is_document,
      of_option hex _, of_option hex _, of_option hex _, of_option hex _, of_option hex _,
      of_option hex _, of_option hex _, of_option hex _, of_option hex _⟩

theorem LastCommit.is_document (commit : LastCommit) : commit.toValue.IsDocument :=
  named (of_decide_eq_true rfl) ⟨int _, int _, commit.blockId.is_document⟩

theorem IndexEntry.is_document (entry : IndexEntry) : entry.toValue.IsDocument :=
  named (of_decide_eq_true rfl) ⟨hex _, word _⟩

theorem StoredTx.is_document (record : StoredTx) : record.toValue.IsDocument :=
  named (of_decide_eq_true rfl) ⟨hex _, hex _, word _, of_option hex _, of_option hex _⟩

theorem LabelledTx.is_document (summary : LabelledTx) : summary.toValue.IsDocument :=
  named (of_decide_eq_true rfl) ⟨text _, hex _⟩

theorem StoredBlock.is_document (row : StoredBlock) : row.settled.toValue.IsDocument :=
  named (of_decide_eq_true rfl) ⟨hex _, row.header.is_document, of_option LastCommit.is_document _⟩

theorem Block.is_document (block : Block) : block.settled.toValue.IsDocument :=
  named (of_decide_eq_true rfl)
    ⟨hex _, block.header.is_document, of_option LastCommit.is_document _,
      list_of LabelledTx.is_document _⟩

theorem EpochBlock.is_document (annotated : EpochBlock) : annotated.settled.toValue.IsDocument :=
  named (of_decide_eq_true rfl)
    ⟨hex _, annotated.block.header.is_document, of_option LastCommit.is_document _,
      list_of LabelledTx.is_document _, int _⟩

theorem Latest.is_document (latest : Latest) : latest.settled.toValue.IsDocument := by
  cases latest with
  | last block => exact named (of_decide_eq_true rfl) ⟨word _, block.is_document⟩
  | page blocks =>
      have each := list_of EpochBlock.is_document blocks
      rw [← Function.comp_def, ← List.map_map] at each
      exact named (of_decide_eq_true rfl) ⟨word _, each⟩

theorem BlockTime.settled_shows (time : BlockTime) : time.settled.Shows time := by
  cases time with
  | instant time => exact .instant time.to_text_is_iso
  | written text => exact .written text

theorem BlockHeader.settled_shows (header : BlockHeader) : header.settled.Shows header :=
  ⟨header.time.settled_shows, rfl⟩

theorem Block.settled_shows (block : Block) : block.settled.Shows block :=
  ⟨rfl, block.header.settled_shows, rfl, rfl⟩

theorem EpochBlock.settled_shows (annotated : EpochBlock) : annotated.settled.Shows annotated :=
  ⟨annotated.block.settled_shows, rfl⟩

theorem StoredBlock.round_trips :
    RoundTrips StoredBlock.ofValue (fun row => row.settled.toValue) StoredBlock.Shows :=
  .of_settled StoredBlock.is_document (fun row => of_value_to_value row.settled)
    (fun row => ⟨rfl, row.header.settled_shows, rfl⟩) fun _ => rfl

theorem Block.round_trips :
    RoundTrips Block.ofValue (fun block => block.settled.toValue) Block.Shows :=
  .of_settled Block.is_document (fun block => of_value_to_value block.settled)
    Block.settled_shows fun _ => rfl

theorem EpochBlock.round_trips :
    RoundTrips EpochBlock.ofValue (fun annotated => annotated.settled.toValue)
      EpochBlock.Shows :=
  .of_settled EpochBlock.is_document (fun annotated => of_value_to_value annotated.settled)
    EpochBlock.settled_shows fun _ => rfl

namespace Latest

theorem settled_shows (latest : Latest) : latest.settled.Shows latest := by
  cases latest with
  | last block => exact .last block.settled_shows
  | page blocks =>
      refine .page (List.forall₂_map_left_iff.mpr ?_)
      exact List.forall₂_same.mpr fun block _ => block.settled_shows

theorem settled_settled (latest : Latest) : latest.settled.settled = latest.settled := by
  cases latest with
  | last block => rfl
  | page blocks =>
      have same : (blocks.map EpochBlock.settled).map EpochBlock.settled =
          blocks.map EpochBlock.settled := by
        rw [List.map_map]
        rfl
      exact congrArg Latest.page same

theorem round_trips :
    RoundTrips Latest.ofValue (fun latest => latest.settled.toValue) Latest.Shows :=
  .of_settled Latest.is_document (fun latest => of_value_to_value latest.settled)
    Latest.settled_shows fun latest => congrArg toValue latest.settled_settled

theorem tag_name_of_check_last {field : String → Option Value} {latest : Latest}
    (valid : checkLast field = .valid latest) : latest.tagName = lastTag := by
  obtain ⟨make, block, tagged, _, rfl⟩ := Checked.seq_eq_valid_iff.mp valid
  obtain ⟨_, _, rfl⟩ := Checked.map_eq_valid_iff.mp tagged
  rfl

theorem tag_name_of_check_page {field : String → Option Value} {latest : Latest}
    (valid : checkPage field = .valid latest) : latest.tagName = pageTag := by
  obtain ⟨make, blocks, tagged, _, rfl⟩ := Checked.seq_eq_valid_iff.mp valid
  obtain ⟨_, _, rfl⟩ := Checked.map_eq_valid_iff.mp tagged
  rfl

theorem tag?_of_of_value {value : Value} {latest : Latest} (valid : ofValue value = .valid latest) :
    value.tag? = some (.word latest.tagName) := by
  unfold ofValue at valid
  split at valid
  · next members =>
      split at valid
      · cases valid
      · next found present =>
          rw [Value.tag?, present]
          split at valid
          · next own =>
              rw [tag_name_of_check_last (Checked.within_eq_valid_iff.mp valid), own, Value.word]
          · split at valid
            · next own =>
                rw [tag_name_of_check_page (Checked.within_eq_valid_iff.mp valid), own, Value.word]
            · cases valid
      · cases valid
  · cases valid

theorem tag_name_of_record_of {check : (String → Option Value) → Checked Latest} {name : String}
    (own : ∀ {field latest}, check field = .valid latest → latest.tagName = name)
    {value : Value} {latest : Latest} (valid : Checked.recordOf check value = .valid latest) :
    latest.tagName = name := by
  cases value with
  | record members => exact own valid
  | _ => cases valid

theorem keeps_tag : KeepsTag where
  accepted _ _ valid := tag?_of_of_value valid
  last _ _ valid := tag_name_of_record_of tag_name_of_check_last valid
  page _ _ valid := tag_name_of_record_of tag_name_of_check_page valid
  written latest := by
    cases latest with
    | last block => exact member_kind lastTag _
    | page blocks => exact member_kind pageTag _

end Latest

theorem IndexEntry.round_trips : RoundTrips IndexEntry.ofValue IndexEntry.toValue Eq :=
  .of_settled IndexEntry.is_document IndexEntry.of_value_to_value (fun _ => rfl) fun _ => rfl

theorem StoredTx.round_trips : RoundTrips StoredTx.ofValue StoredTx.toValue Eq :=
  .of_settled StoredTx.is_document StoredTx.of_value_to_value (fun _ => rfl) fun _ => rfl

theorem LabelledTx.round_trips : RoundTrips LabelledTx.ofValue LabelledTx.toValue Eq :=
  .of_settled LabelledTx.is_document LabelledTx.of_value_to_value (fun _ => rfl) fun _ => rfl

theorem Hex.upper_is_capital (found : Bytes) : Hex.IsCapital (Hex.upper found) := by
  have capital (n : Nat) (small : n < 16) : (0x30 ≤ upperDigit n ∧ upperDigit n ≤ 0x39) ∨
      (0x41 ≤ upperDigit n ∧ upperDigit n ≤ 0x46) := by
    rw [upperDigit]
    split <;> omega
  unfold upper
  induction found with
  | nil =>
      intro c member
      cases member
  | cons byte rest induction =>
      have bound : byte.toNat < 256 := byte.toNat_lt_size
      intro c member
      rcases List.mem_cons.mp member with rfl | member
      · exact capital _ (by omega)
      rcases List.mem_cons.mp member with rfl | member
      · exact capital _ (by omega)
      · exact induction c member

/-- Every model that can be written comes back from its written form, at every level: the rows,
entries and records of the store, the blocks that are shown, and the answers for the latest ones
with their tags. A result is written in this way. -/
theorem response_format_round_trips :
    (∀ found, App.write found = App.writeValue found.written) ∧
    RoundTrips StoredBlock.ofValue (fun row => row.settled.toValue) StoredBlock.Shows ∧
    RoundTrips Block.ofValue (fun block => block.settled.toValue) Block.Shows ∧
    RoundTrips EpochBlock.ofValue (fun annotated => annotated.settled.toValue) EpochBlock.Shows ∧
    RoundTrips Latest.ofValue (fun latest => latest.settled.toValue) Latest.Shows ∧
    Latest.KeepsTag ∧
    RoundTrips IndexEntry.ofValue IndexEntry.toValue Eq ∧
    RoundTrips StoredTx.ofValue StoredTx.toValue Eq ∧
    RoundTrips LabelledTx.ofValue LabelledTx.toValue Eq ∧
    ∀ found : Bytes, Hex.decode? (Hex.upper found) = some found ∧ Hex.IsCapital (Hex.upper found) :=
  ⟨App.write_eq, StoredBlock.round_trips, Block.round_trips, EpochBlock.round_trips,
    Latest.round_trips, Latest.keeps_tag, IndexEntry.round_trips, StoredTx.round_trips,
    LabelledTx.round_trips, fun found => ⟨Hex.decode?_upper found, Hex.upper_is_capital found⟩⟩

/-- A block whose chain has half of a surrogate pair for its name. -/
def brokenName : Value :=
  .named
    [("block_id", .bytes [1]),
      ("header", .named [("chain_id", .text [0xD83D]), ("height", .int 1), ("time", .word "")])]

/-- The block is accepted, and a response cannot carry it. -/
theorem response_format_round_trips_broken_name :
    ∃ block, Block.ofValue brokenName = .valid block ∧
      App.write (.block (some block)) = .error (.unwritable .found) :=
  ⟨_, rfl, rfl⟩

end BlockExplorer
