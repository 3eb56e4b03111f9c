import BlockExplorer.Dictionary
import BlockExplorer.Number.Shortest
import BlockExplorer.Text.Quoted

/-!
JSON documents as they come from outside. An object keeps its members in document order; a repeated
name keeps its first place and takes its last value.
-/

namespace BlockExplorer

inductive Json where
  | null
  | bool (value : Bool)
  | int (value : Int)
  | float (value : Binary64)
  | text (value : Text)
  | array (items : List Json)
  | object (members : List (Text × Json))
  deriving Repr

namespace Json

inductive Kind where
  | null
  | bool
  | int
  | float
  | text
  | array
  | object
  deriving DecidableEq, Repr

def kind : Json → Kind
  | .null => .null
  | .bool _ => .bool
  | .int _ => .int
  | .float _ => .float
  | .text _ => .text
  | .array _ => .array
  | .object _ => .object

def Kind.name : Kind → String
  | .null => "NoneType"
  | .bool => "bool"
  | .int => "int"
  | .float => "float"
  | .text => "str"
  | .array => "list"
  | .object => "dict"

def isFalsy : Json → Bool
  | .null => true
  | .bool value => !value
  | .int value => value = 0
  | .float value => value.isZero
  | .text value => value.isEmpty
  | .array items => items.isEmpty
  | .object members => members.isEmpty

def isZero : Json → Bool
  | .bool value => !value
  | .int value => value = 0
  | .float value => value.isZero
  | _ => false

def ofMembers (members : List (Text × Json)) : Json := .object (Dictionary.ofEntries members)

def member? (name : String) (members : List (Text × Json)) : Option Json :=
  members.lookup (Text.ofString name)

def orElse (first second : Json) : Json := if first.isFalsy then second else first

mutual

def shown : Json → String
  | .null => "None"
  | .bool true => "True"
  | .bool false => "False"
  | .int value => toString value
  | .float value => value.toText
  | .text value => Text.quoted value
  | .array items => "[" ++ ", ".intercalate (shownItems items) ++ "]"
  | .object members => "\x7b" ++ ", ".intercalate (shownMembers members) ++ "\x7d"

def shownItems : List Json → List String
  | [] => []
  | item :: rest => shown item :: shownItems rest

def shownMembers : List (Text × Json) → List String
  | [] => []
  | (name, value) :: rest => (Text.quoted name ++ ": " ++ shown value) :: shownMembers rest

end

def display : Json → Text
  | .text value => value
  | value => Text.ofString value.shown

end Json

end BlockExplorer
