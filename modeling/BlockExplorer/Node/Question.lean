import BlockExplorer.Session

/-!
Asking the node. Every question for an epoch has a number of its own, whatever came of the questions
before and whether it goes out or not; only one about a height that is too long to be written is not
asked at all. Asking for the health of the node needs no number.
-/

namespace BlockExplorer.Node

def epoch (node : Node) (height : Int) : Explore Nat := do
  let written ← Explore.written height
  let id ← Explore.nextRequest
  Explore.record (.epoch ⟨id, written⟩ (node.epochAt height).isSent)
  Explore.ofExcept ((node.epochAt height).epoch written)

/-- The answer depends on the node and the height alone, and is asked for under the next number. -/
theorem outcome_epoch (node : Node) (height : Numeral.Writable) (session : Session) :
    (node.epoch height.val).outcome session =
      ((node.epochAt height.val).epoch height,
        { session with
          requests := session.requests + 1
          accesses := session.accesses ++
            [.epoch ⟨session.requests + 1, height⟩ (node.epochAt height.val).isSent] }) := by
  simp only [epoch, Explore.written, Numeral.Writable.of_int?_val, Explore.outcome_bind,
    Explore.outcome_pure, Explore.outcome_next_request, Explore.outcome_record,
    Explore.outcome_of_except, Session.record]

/-- A height that is too long to be written is not asked for. -/
theorem outcome_epoch_of_long (node : Node) {height : Int}
    (long : Numeral.isWritable height = false) (session : Session) :
    (node.epoch height).outcome session = (.error .longInteger, session) := by
  simp only [epoch, Explore.written, Numeral.Writable.of_int?_eq_none_iff.mpr long,
    Explore.outcome_bind, Explore.outcome_fail]

def isReachable (node : Node) : Explore Bool := do
  Explore.record (.health node.health.isSent)
  Explore.ofExcept node.health.isReachable

theorem outcome_is_reachable (node : Node) (session : Session) :
    node.isReachable.outcome session =
      (node.health.isReachable, session.record (.health node.health.isSent)) := by
  simp only [isReachable, Explore.outcome_bind, Explore.outcome_record, Explore.outcome_of_except]

end BlockExplorer.Node
