import BlockExplorer.Field.Scalar
import BlockExplorer.Http.Message

/-!
Integer parameters of requests. A parameter that cannot be read, or lies outside its bounds, is
described to the client with the place where it stands and the text that was found there.
-/

namespace BlockExplorer

inductive Place where
  | path
  | query
  deriving DecidableEq, Repr

def Place.name : Place → String
  | .path => "path"
  | .query => "query"

structure Parameter where
  place : Place
  name : String
  least : Option Int
  greatest : Option Int
  deriving DecidableEq, Repr

structure ParameterError where
  parameter : Parameter
  input : Text
  problem : Problem
  bound : Option Int
  deriving DecidableEq, Repr

namespace ParameterError

def message (error : ParameterError) : String :=
  let bound := toString (error.bound.getD 0)
  match error.problem with
  | .malformedText => "Input should be a valid string, unable to parse raw data as a unicode string"
  | .integerTooLarge => "Unable to parse input string as an integer, exceeded maximum size"
  | .belowMinimum => "Input should be greater than or equal to " ++ bound
  | .aboveMaximum => "Input should be less than or equal to " ++ bound
  | _ => "Input should be a valid integer, unable to parse string as an integer"

def context (error : ParameterError) : List (String × Value) :=
  match error.bound with
  | none => []
  | some bound =>
      let relation := if error.problem = .belowMinimum then "ge" else "le"
      [("ctx", .named [(relation, .int bound)])]

def toValue (error : ParameterError) : Value :=
  .named
    ([("type", .word error.problem.name),
      ("loc", .list [.word error.parameter.place.name, .word error.parameter.name]),
      ("msg", .word error.message),
      ("input", .text error.input)] ++ error.context)

end ParameterError

namespace Parameter

def checkBounds (parameter : Parameter) (input : Text) (value : Int) : Except ParameterError Int :=
  if parameter.greatest.any (· < value) then
    .error ⟨parameter, input, .aboveMaximum, parameter.greatest⟩
  else if parameter.least.any (value < ·) then
    .error ⟨parameter, input, .belowMinimum, parameter.least⟩
  else .ok value

def read (parameter : Parameter) (input : Text) : Except ParameterError Int :=
  if Text.isUnicode input then
    match Numeral.fieldInteger input with
    | .ok value => parameter.checkBounds input value
    | .error .malformed => .error ⟨parameter, input, .malformedInteger, none⟩
    | .error .tooLong => .error ⟨parameter, input, .integerTooLarge, none⟩
  else .error ⟨parameter, input, .malformedText, none⟩

def readSome (parameter : Parameter) : Option Text → Except ParameterError (Option Int)
  | none => .ok none
  | some input => (parameter.read input).map some

end Parameter

def Response.unprocessable (errors : List ParameterError) : Response :=
  document 422 (.named [("detail", .list (errors.map ParameterError.toValue))])

end BlockExplorer
