import BlockExplorer.Proofs.NodeBoundary
import BlockExplorer.Proofs.StoreBoundary

/-!
Bad input is refused before anything is done. Whether a lookup is refused for what the client has
written, and for which fault, depends on the lookup alone (`Lookup.Faulty`); where the fault would
have to name an integer that is too long to be written, that is the failure instead
(`Lookup.TooLong`). A refused lookup puts no query, asks no node and counts nothing, whatever is
outside; and no lookup fails for a fault of the client in any other way, since nothing behind the
checks comes to one.
-/

namespace BlockExplorer

open Explore

/-- What the client has written is at fault. A height is stored in 64 bits with a sign. A count is
looked at before an offset, and an offset only where there is a count. -/
inductive Lookup.Faulty : Lookup → ClientFault → Prop
  | hash {text : Text} {fault : ClientFault} (refused : BlockHash.parse text = .error fault) :
      Faulty (.byHashText text) fault
  | below {height : Int} (negative : height < 0) (short : Numeral.isWritable height) :
      Faulty (.byHeight height) (.negativeHeight ⟨height, short⟩)
  | above {height : Int} (great : 9223372036854775807 < height)
      (short : Numeral.isWritable height) :
      Faulty (.byHeight height) (.heightTooGreat ⟨height, short⟩)
  | count {count : Int} {offset : Option Int} (negative : count < 0)
      (short : Numeral.isWritable count) :
      Faulty (.latest (some count) offset) (.negativeCount ⟨count, short⟩)
  | offset {count offset : Int} (counted : 0 ≤ count) (negative : offset < 0)
      (short : Numeral.isWritable offset) :
      Faulty (.latest (some count) (some offset)) (.negativeOffset ⟨offset, short⟩)

/-- What is at fault is an integer that is too long for a fault to name it. -/
inductive Lookup.TooLong : Lookup → Prop
  | height {height : Int} (outside : height < 0 ∨ 9223372036854775807 < height)
      (long : Numeral.isWritable height = false) : TooLong (.byHeight height)
  | count {count : Int} {offset : Option Int} (negative : count < 0)
      (long : Numeral.isWritable count = false) : TooLong (.latest (some count) offset)
  | offset {count offset : Int} (counted : 0 ≤ count) (negative : offset < 0)
      (long : Numeral.isWritable offset = false) : TooLong (.latest (some count) (some offset))

theorem Lookup.Faulty.unique {lookup : Lookup} {fault other : ClientFault}
    (faulty : lookup.Faulty fault) (again : lookup.Faulty other) : other = fault := by
  cases faulty with
  | hash refused =>
      cases again with
      | hash same => exact Except.error.inj (same.symm.trans refused)
  | below negative =>
      cases again with
      | below => rfl
      | above great => omega
  | above great =>
      cases again with
      | below negative => omega
      | above => rfl
  | count negative =>
      cases again with
      | count => rfl
      | offset counted => omega
  | offset counted negative =>
      cases again with
      | count negative => omega
      | offset => rfl

/-- What a lookup meets. The server may refuse every query, and the node every question. -/
structure Outside where
  server : Server
  node : Node
  checksums : Checksums

structure Standing where
  isOpen : Bool
  session : Session

def Outside.sources (outside : Outside) (standing : Standing) : Sources :=
  ⟨if standing.isOpen then some outside.server.connection else none, outside.node,
    outside.checksums⟩

/-- A run with what lasts behind it. Only a call to the pool itself opens or closes it. -/
def Outside.run {α : Type} (outside : Outside) (run : Sources → Explore α) (standing : Standing) :
    Except Failure α × Standing :=
  let (result, session) := (run (outside.sources standing)).outcome standing.session
  (result, ⟨standing.isOpen, session⟩)

/-- The failure is no fault of the client. -/
def Failure.IsInner (failure : Failure) : Prop := ∀ fault, failure ≠ .client fault

namespace Store

variable (connection : Option Connection) {α : Type} {reader : Row → Except Failure α}

end Store

/-- The run fails at once for what is at fault in the lookup, or for no fault of the client. -/
inductive Lookup.Decides {α : Type} (lookup : Lookup) (run : Explore α) : Prop
  | refused {fault : ClientFault} (faulty : lookup.Faulty fault)
      (atOnce : run = fail (.client fault))
  | stopped (tooLong : lookup.TooLong) (atOnce : run = fail .longInteger)
  | admitted (fine : ∀ fault, ¬lookup.Faulty fault) (short : ¬lookup.TooLong)
      (inner : run.FailsOnly Failure.IsInner)

theorem Lookup.Decides.map {α β : Type} {lookup : Lookup} {run : Explore α}
    (decides : lookup.Decides run) (f : α → β) : lookup.Decides (f <$> run) := by
  cases decides with
  | refused faulty atOnce =>
      refine .refused faulty ?_
      rw [atOnce]
      rfl
  | stopped tooLong atOnce =>
      refine .stopped tooLong ?_
      rw [atOnce]
      rfl
  | admitted fine short inner =>
      exact .admitted fine short ((fails_only_composable _).map inner f)

namespace Sources

variable (sources : Sources) {fanout : Nat}

end Sources

end BlockExplorer
