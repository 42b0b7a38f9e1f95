import BoundedPipelining.Demo.Outcome

/-!
# The command line program

Runs a demonstration and prints its report.
-/

namespace BoundedPipelining

/-- How the program is used. -/
def usage : String :=
  "\n".intercalate
    ["Exercise pipelined admission and close classification",
      "",
      "Usage: pipeline-conn [OPTIONS] <COMMAND>",
      "",
      "Commands:",
      "  drain     Answer and drain every admitted request",
      "  graceful  Answer the first request with `Connection: close`, then close",
      "  abrupt    Reset the channel while requests are outstanding",
      "  help      Print this message or the help of the given subcommand(s)",
      "",
      "Options:",
      "  -c, --config <CONFIG>                TOML configuration file",
      "  -n, --requests <REQUESTS>            Number of requests to issue [default: 3]",
      "      --max-pipelined <MAX_PIPELINED>  Override connection.max_pipelined_requests",
      "  -h, --help                           Print help"]

/-- What is found at a path. -/
def contentAt (path : String) : IO FileContent := do
  try
    return .bytes (← IO.FS.readBinFile path)
  catch
    | .noFileOrDirectory .. => return .missing
    | _ => return .directory

/-- What is found at the path of the configuration, for a command that names one. -/
def configContent : Option Command → IO FileContent
  | some (.run { config := some path, .. } _) => contentAt path
  | _ => return .missing

/-- Prints what the program ends with. -/
def printOutcome (o : Outcome) : IO Unit := do
  match o with
  | .help => IO.println usage
  | .misuse => IO.eprintln usage
  | .report r _ => IO.println r.text
  | .badSettings e =>
    IO.eprintln ("Error: " ++ e.name?.getD "" ++ ": " ++ e.message?.getD "not a document")
  | .notSetUp (.cut c) => IO.eprintln c.message
  | .notSetUp (.log e) | .notSetUp (.metrics e) => IO.eprintln ("Error: " ++ e)
  | .badDepth e => IO.eprintln ("Error: " ++ e.name)
  | .noMemory .tooLong => IO.eprintln "capacity overflow"
  | .noMemory .refused => IO.eprintln "memory allocation failed"

end BoundedPipelining

open BoundedPipelining

/-- Runs the program. It neither logs nor publishes metrics, so nothing of that can fail. -/
def main (arguments : List String) : IO UInt32 := do
  let command := Command.ofArguments arguments
  let content ← configContent command
  let filter ← IO.getEnv "RUST_LOG"
  let outcome := Outcome.ofCommand (fun _ ↦ content) command { filter }
  printOutcome outcome
  return UInt32.ofNat outcome.exitCode
