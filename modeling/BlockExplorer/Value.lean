import BlockExplorer.Calendar.Timestamp
import BlockExplorer.Dictionary
import BlockExplorer.Encoding.Hex
import BlockExplorer.Number.Shortest

/-!
Values of table cells, of the fields of a model and of the bodies of responses. A row of a table is
a list of named cells.
-/

namespace BlockExplorer

inductive Value where
  | null
  | bool (value : Bool)
  | int (value : Int)
  | float (value : Binary64)
  | text (value : Text)
  | bytes (value : Bytes)
  | time (value : Timestamp)
  | list (items : List Value)
  | record (members : List (Text × Value))
  deriving Inhabited, Repr

namespace Value

def word (s : String) : Value := .text (Text.ofString s)

def withNames (members : List (String × Value)) : List (Text × Value) :=
  members.map fun member => (Text.ofString member.1, member.2)

def named (members : List (String × Value)) : Value := .record (withNames members)

def member? (name : String) (members : List (Text × Value)) : Option Value :=
  members.lookup (Text.ofString name)

def hex (bytes : Bytes) : Value := .text (Hex.upper bytes)

/-- Values that count as absent: null, false, zero and whatever is empty. -/
def isFalsy : Value → Bool
  | .null => true
  | .bool value => !value
  | .int value => value = 0
  | .float value => value.isZero
  | .text value => value.isEmpty
  | .bytes value => value.isEmpty
  | .time _ => false
  | .list items => items.isEmpty
  | .record members => members.isEmpty

def orZero (value : Value) : Value := if value.isFalsy then .int 0 else value

/-- The integer that a cell equals. Truth values count as one and zero. -/
def integer? : Value → Option Int
  | .bool value => some (if value then 1 else 0)
  | .int value => some value
  | .float value => value.integer?
  | _ => none

mutual

/-- Whether a value can be written: all its texts are Unicode, and none of its integers is too
long. -/
def isWritable : Value → Bool
  | .int value => Numeral.isWritable value
  | .text value => Text.isUnicode value
  | .list items => areWritable items
  | .record members => membersAreWritable members
  | _ => true

def areWritable : List Value → Bool
  | [] => true
  | item :: rest => item.isWritable && areWritable rest

def membersAreWritable : List (Text × Value) → Bool
  | [] => true
  | (name, value) :: rest => Text.isUnicode name && value.isWritable && membersAreWritable rest

end

/-- Fixed names are looked up as they are. -/
theorem member?_with_names (wanted : String) (members : List (String × Value)) :
    member? wanted (withNames members) = members.lookup wanted := by
  induction members with
  | nil => rfl
  | cons member rest induction =>
      obtain ⟨name, value⟩ := member
      have tail : (withNames rest).lookup (Text.ofString wanted) = rest.lookup wanted := induction
      have head : withNames ((name, value) :: rest) =
          (Text.ofString name, value) :: withNames rest := rfl
      rw [member?, head, Dictionary.lookup_cons, Dictionary.lookup_cons, tail]
      by_cases same : wanted = name
      · subst same
        rw [if_pos rfl, if_pos rfl]
      · have other : Text.ofString wanted ≠ Text.ofString name :=
          fun equal => same (Text.of_string_inj.mp equal)
        rw [if_neg other, if_neg same]

def ofOption {α : Type} (write : α → Value) : Option α → Value
  | none => .null
  | some content => write content

end Value

abbrev Row := List (Text × Value)

end BlockExplorer
