import BlockExplorer.Http.Parameter
import BlockExplorer.Http.QueryString
import BlockExplorer.Lookup.World

/-!
The paths that are served, and the lookup that a path and a query ask for. A path that is served
only without the slashes at its end leads there.
-/

namespace BlockExplorer

inductive Route where
  | byHash (hash : Text)
  | byHeight (height : Text)
  | latest
  | health
  deriving DecidableEq, Repr

namespace Route

abbrev slash : Nat := 0x2F

def segment? (start : String) (path : Text) : Option Text :=
  let start := Text.ofString start
  let rest := path.drop start.length
  if Text.startsWith path start && !rest.isEmpty && !rest.contains slash then some rest else none

/-- Whether a path is the given one. A single line feed may follow it. -/
def isPath (wanted : String) (path : Text) : Bool :=
  path = Text.ofString wanted || path = Text.ofString wanted ++ [0x0A]

def ofPath? (path : Text) : Option Route :=
  match segment? "/block/hash/" path with
  | some hash => some (.byHash hash)
  | none =>
      match segment? "/block/height/" path with
      | some height => some (.byHeight height)
      | none =>
          if isPath "/block/last" path then some .latest
          else if isPath "/health" path then some .health
          else none

/-- The path with the slashes at its end removed or, where there is none, with one added. -/
def alternative (path : Text) : Text :=
  if path.getLast? = some slash then Text.trimEnd (· == slash) path else path ++ [slash]

def redirect? (path : Text) : Option Text :=
  if path = [slash] then none
  else if (ofPath? (alternative path)).isSome then some (alternative path)
  else none

def heightParameter : Parameter := ⟨.path, "block_height", none, none⟩

def countParameter : Parameter := ⟨.query, "num", some 0, some 1000⟩

def offsetParameter : Parameter := ⟨.query, "offset", some 0, none⟩

def latestLookup (query : Text) : Except (List ParameterError) Lookup :=
  match countParameter.readSome (QueryString.value? query "num"),
      offsetParameter.readSome (QueryString.value? query "offset") with
  | .ok count, .ok offset => .ok (.latest count offset)
  | .error first, .ok _ => .error [first]
  | .ok _, .error second => .error [second]
  | .error first, .error second => .error [first, second]

def lookup? (query : Text) : Route → Option (Except (List ParameterError) Lookup)
  | .byHash hash => some (.ok (.byHashText hash))
  | .byHeight height =>
      match heightParameter.read height with
      | .ok height => some (.ok (.byHeight height))
      | .error error => some (.error [error])
  | .latest => some (latestLookup query)
  | .health => none

end Route

end BlockExplorer
