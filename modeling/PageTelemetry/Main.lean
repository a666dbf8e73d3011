import PageTelemetry.Command

/-! The command line program. -/

namespace PageTelemetry.Command

/-- The content of a file, as far as it can be read. -/
def readContent (path : String) : IO Config.FileContent := do
  try
    return .bytes (← IO.FS.readBinFile path)
  catch _ => return .missing

def configPath : String := ".pagetrail/config.toml"

def userFile : IO Config.FileContent := do
  match ← IO.getEnv "HOME" with
  | some home => readContent (home ++ "/" ++ configPath)
  | none => return .missing

def environmentNames : IO (List String) :=
  ["PAGETRAIL_DISABLED","DO_NOT_TRACK","PAGETRAIL_DEBUG"].filterM fun name => do
    return (← IO.getEnv name).isSome

def surroundings (c : Command) : IO Surroundings := do
  let script ← match c.script? with
    | some path => readContent path
    | none => pure .missing
  return {
    files := { user := ← userFile, project := ← readContent configPath }
    environment := .ofNames (← environmentNames)
    script := script
    now := ← IO.monoMsNow }

end PageTelemetry.Command

open PageTelemetry in
def main (args : List String) : IO UInt32 := do
  match Command.ofArguments? args with
  | none =>
    (← IO.getStderr).putStr "usage: pagetrail send|replay [OPTIONS]\n"
    return 2
  | some c =>
    let result := c.run (← c.surroundings)
    (← IO.getStdout).putStr result.output
    (← IO.getStderr).putStr result.errors
    return UInt32.ofNat result.status
