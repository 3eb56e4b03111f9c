import BlockExplorer.Program.Settings

/-!
How the explorer is started: the address and port at which it listens, and what is logged.
-/

namespace BlockExplorer

def title : String := "Namada Explorer API"

def version : String := "0.1.0"

structure Launch where
  host : Text
  port : Int
  logLevel : Text
  accessLog : Bool
  title : String
  version : String
  deriving DecidableEq, Repr

def Launch.ofSettings (settings : Settings) : Launch where
  host := settings.host
  port := settings.port
  logLevel := Text.toLower settings.logLevel
  accessLog := true
  title := BlockExplorer.title
  version := BlockExplorer.version

end BlockExplorer
