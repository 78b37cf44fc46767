import VariantSearch.CommandLine
import VariantSearch.Startup

namespace VariantSearch.Main

def variableNames : List String :=
  ["SERVER__HOST", "SERVER__HTTP_PORT", "ENGINE__BACKEND", "ENGINE__URL", "ENGINE__API_KEY_ENV",
    "ENGINE__TIMEOUT_SECS", "ENGINE__TASK_POLL_INTERVAL_MS", "ENGINE__TASK_TIMEOUT_SECS",
    "ENGINE__FAIL_FAST", "INDEXES__PREFIX", "INDEXES__PRIMARY_KEY", "CORPUS__PATH",
    "CORPUS__BATCH_SIZE", "OBSERVABILITY__LOG_LEVEL", "OBSERVABILITY__JSON_LOGS",
    "OBSERVABILITY__PROMETHEUS_ENABLED"].map ("SEARCH_AB__" ++ ·)

def environment (names : List String) : IO Environment := do
  let found ← names.mapM fun name => do
    return (← IO.getEnv name).map (name, ·)
  return found.filterMap id

def fileText (path : String) : IO (Option String) := do
  try
    return some (← IO.FS.readFile path)
  catch _ =>
    return none

def corpusSource (path : Option String) : IO Corpus.Source := do
  match path with
  | none => return .missing
  | some path =>
    try
      return .bytes (← IO.FS.readBinFile path).toList
    catch _ =>
      return .missing

def start (arguments : List String) : IO UInt32 := do
  let path := (← IO.getEnv "CONFIG_PATH").getD "config/default.toml"
  let env ← environment variableNames
  let config := (Config.load? (← fileText path) env).getD .standard
  let source ← corpusSource config.corpus.path
  match Startup.run config (fun _ => source) (Startup.engineOf config.engine none false []) with
  | (.error _, _) =>
    (← IO.getStderr).putStrLn "Failed to start the service"
    return 1
  | (.ok router, service) =>
    let address := "http://localhost:" ++ toString config.server.portNumber
    let site : CommandLine.Site := ⟨"localhost".toList, config.server.portNumber, router⟩
    let (outcome, _) := CommandLine.run site address arguments service
    (← IO.getStdout).putStr outcome.output
    (← IO.getStderr).putStr outcome.error
    return outcome.exitCode.toUInt32

end VariantSearch.Main

def main (arguments : List String) : IO UInt32 := VariantSearch.Main.start arguments
