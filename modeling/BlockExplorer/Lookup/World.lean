import BlockExplorer.Lookup.Block
import BlockExplorer.Store.Tables

/-!
A world in which blocks are looked up: tables, the faults that queries of each of them meet, and a
node. A history is a sequence of lookups in worlds that may change between them; only the session
goes from one lookup to the next.
-/

namespace BlockExplorer

structure World where
  tables : Tables
  fault? : Option Table → Option DatabaseFault
  node : Node

namespace World

def reply (world : World) (query : Query) : Except DatabaseFault (List Row) :=
  match world.fault? query.table? with
  | some fault => .error fault
  | none => .ok (world.tables.answer query)

def connection (world : World) : Connection := .ofAnswer world.reply

@[simp] theorem is_acquired_connection (world : World) (query : Query) :
    world.connection.isAcquired query = true := rfl

@[simp] theorem reply_connection (world : World) (query : Query) :
    world.connection.reply query = world.reply query := rfl

def sources (world : World) (checksums : Checksums) : Sources :=
  ⟨some world.connection, world.node, checksums⟩

end World

inductive Lookup where
  | byHash (hash : Bytes)
  | byHashText (text : Text)
  | byHeight (height : Int)
  | byId (id : Bytes)
  | latest (count offset : Option Int)
  deriving DecidableEq, Repr

inductive Found where
  | block (found : Option Block)
  | latest (found : Latest)
  deriving Repr

def Sources.look (sources : Sources) : Lookup → Explore Found
  | .byHash hash => .block <$> sources.byHash hash
  | .byHashText text => .block <$> sources.byHashText text
  | .byHeight height => .block <$> sources.byHeight height
  | .byId id => .block <$> sources.byId id
  | .latest count offset => .latest <$> sources.latest count offset

def World.sessionAfter (checksums : Checksums) (session : Session) :
    List (World × Lookup) → Session
  | [] => session
  | (world, lookup) :: rest =>
      sessionAfter checksums (((world.sources checksums).look lookup).outcome session).2 rest

end BlockExplorer
