import BlockExplorer.Http.App

/-!
The command: reads the settings from the environment and shows how the explorer is to be started, or
what is wrong with the settings.
-/

namespace BlockExplorer

def settingNames : List String :=
  ["DATABASE_URL", "DB_POOL_MIN_SIZE", "DB_POOL_MAX_SIZE", "DB_COMMAND_TIMEOUT", "TENDERMINT_ADDR",
    "RPC_TIMEOUT", "CHECKSUMS_PATH", "TX_FANOUT", "HOST", "PORT", "LOG_LEVEL", "CORS_ORIGINS"]

def readEnvironment : IO (List (String × Text)) :=
  settingNames.filterMapM fun name => do
    let value ← IO.getEnv name
    return value.map fun value => (name, Text.ofString value)

def Launch.line (launch : Launch) : String :=
  launch.title ++ " " ++ launch.version ++ " on " ++ Text.toString launch.host ++ ":" ++
    toString launch.port

end BlockExplorer

open BlockExplorer in
def main : IO UInt32 := do
  let known ← readEnvironment
  match Settings.ofEnvironment fun name => known.lookup name with
  | .ok settings =>
      IO.println (Launch.ofSettings settings).line
      return 0
  | .error fault =>
      IO.eprintln fault.message
      return 1
