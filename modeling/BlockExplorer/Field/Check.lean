import BlockExplorer.Value

/-!
Checking a value field by field. A check either gives a model or all the faults it met, in field
order; `<*>` goes on behind a fault and gathers them. Main statement: a combined check succeeds
exactly when both of its parts do (`seq_eq_valid_iff`).
-/

namespace BlockExplorer

inductive Segment where
  | field (name : String)
  | item (position : Nat)
  deriving DecidableEq, Repr

inductive Problem where
  | missing
  | notInteger
  | malformedInteger
  | integerTooLarge
  | fractionalNumber
  | notFinite
  | belowMinimum
  | aboveMaximum
  | notText
  | malformedText
  | notBytes
  | malformedHex
  | notTime
  | timeOutOfRange
  | malformedDate
  | unknownName
  | notRecord
  | notList
  | wrongTag
  | noTag
  | unknownTag
  | notTagged
  deriving DecidableEq, Repr

def Problem.name : Problem → String
  | .missing => "missing"
  | .notInteger => "int_type"
  | .malformedInteger => "int_parsing"
  | .integerTooLarge => "int_parsing_size"
  | .fractionalNumber => "int_from_float"
  | .notFinite => "finite_number"
  | .belowMinimum => "greater_than_equal"
  | .aboveMaximum => "less_than_equal"
  | .notText => "string_type"
  | .malformedText => "string_unicode"
  | .notBytes => "bytes_type"
  | .malformedHex => "value_error"
  | .notTime => "datetime_type"
  | .timeOutOfRange => "datetime_parsing"
  | .malformedDate => "datetime_from_date_parsing"
  | .unknownName => "enum"
  | .notRecord => "model_type"
  | .notList => "list_type"
  | .wrongTag => "literal_error"
  | .noTag => "union_tag_not_found"
  | .unknownTag => "union_tag_invalid"
  | .notTagged => "model_attributes_type"

structure FieldError where
  path : List Segment
  problem : Problem
  deriving DecidableEq, Repr

inductive Checked (α : Type) where
  | valid (content : α)
  | invalid (errors : List FieldError)
  deriving Repr

namespace Checked

variable {α β : Type}

def refuse (problem : Problem) : Checked α := .invalid [⟨[], problem⟩]

protected def map (f : α → β) : Checked α → Checked β
  | .valid content => .valid (f content)
  | .invalid errors => .invalid errors

protected def seq (f : Checked (α → β)) (x : Unit → Checked α) : Checked β :=
  match f, x () with
  | .valid f, .valid content => .valid (f content)
  | .valid _, .invalid errors => .invalid errors
  | .invalid errors, .valid _ => .invalid errors
  | .invalid errors, .invalid more => .invalid (errors ++ more)

instance : Applicative Checked where
  pure := .valid
  map := Checked.map
  seq := Checked.seq

protected def bind (x : Checked α) (f : α → Checked β) : Checked β :=
  match x with
  | .valid content => f content
  | .invalid errors => .invalid errors

def within (segment : Segment) : Checked α → Checked α
  | .valid content => .valid content
  | .invalid errors => .invalid (errors.map fun e => { e with path := segment :: e.path })

def toOption : Checked α → Option α
  | .valid content => some content
  | .invalid _ => none

@[simp] theorem pure_eq (content : α) : (pure content : Checked α) = .valid content := rfl

@[simp] theorem map_eq_valid_iff {f : α → β} {x : Checked α} {out : β} :
    f <$> x = .valid out ↔ ∃ content, x = .valid content ∧ f content = out := by
  cases x with
  | valid content => simp [Functor.map, Checked.map]
  | invalid errors => simp [Functor.map, Checked.map]

/-- A combined check succeeds exactly when both parts do. -/
@[simp] theorem seq_eq_valid_iff {f : Checked (α → β)} {x : Checked α} {out : β} :
    f <*> x = .valid out ↔
      ∃ g content, f = .valid g ∧ x = .valid content ∧ g content = out := by
  cases f <;> cases x <;> simp [Seq.seq, Checked.seq]

@[simp] theorem within_eq_valid_iff {segment : Segment} {x : Checked α} {out : α} :
    x.within segment = .valid out ↔ x = .valid out := by
  cases x <;> simp [within]

@[simp] theorem refuse_ne_valid (problem : Problem) (out : α) : refuse problem ≠ .valid out := by
  simp [refuse]

def required (name : String) (check : Value → Checked α) : Option Value → Checked α
  | none => .invalid [⟨[.field name], .missing⟩]
  | some value => (check value).within (.field name)

def optional (name : String) (fallback : α) (check : Value → Checked α) : Option Value → Checked α
  | none => .valid fallback
  | some value => (check value).within (.field name)

def nullable (check : Value → Checked α) : Value → Checked (Option α)
  | .null => .valid none
  | value => some <$> check value

def items (check : Value → Checked α) : (position : Nat) → List Value → Checked (List α)
  | _, [] => .valid []
  | position, value :: rest =>
      (· :: ·) <$> (check value).within (.item position) <*> items check (position + 1) rest

def listOf (check : Value → Checked α) : Value → Checked (List α)
  | .list values => items check 0 values
  | _ => refuse .notList

def recordOf (check : (String → Option Value) → Checked α) : Value → Checked α
  | .record members => check fun name => Value.member? name members
  | _ => refuse .notRecord

theorem record_of_named (check : (String → Option Value) → Checked α)
    (members : List (String × Value)) :
    recordOf check (.named members) = check fun name => members.lookup name := by
  simp only [Value.named, recordOf, Value.member?_with_names]

end Checked

end BlockExplorer
