import WasmLua.Command.Job

/-!
The command line: it reads the files and environment variables that a command may need, runs the
command, and writes what it printed, logged and made.
-/

namespace WasmLua.Main

def readFile? (path : Bytes) : IO (Option (Bytes × Bytes)) := do
  try
    let content ← IO.FS.readBinFile path.toText
    return some (path, content.toList)
  catch _ => return none

def setting? (name : String) : IO (Option (Bytes × Bytes)) := do
  return (← IO.getEnv name).map fun value => (Bytes.ofString name, Bytes.ofString value)

def variableNames : List String :=
  let names := ["NAME_PREFIX", "DEBUG_NAMES", "MAX_MEMORY_PAGES", "MAX_TABLE_ELEMENTS", "VERBOSE"]
  names.map Command.Environment.longName ++ names

def logLine (entry : Command.LogEntry) : String := "level=debug msg=" ++ Quoted.bytes (Bytes.ofString entry.message)
    ++ String.join (entry.fields.map fun (key, value) => " " ++ key ++ "=" ++ Quoted.bytes value)

def byteArray (bytes : Bytes) : ByteArray := ⟨bytes.toArray⟩

def deliver (output : Command.Output) : IO Unit := do
  output.log.forM fun entry => IO.eprintln (logLine entry)
  (← IO.getStdout).write (byteArray output.stdout)
  output.written.forM fun (path, content) => IO.FS.writeBinFile path.toText (byteArray content)

end WasmLua.Main

open WasmLua in
def main (args : List String) : IO UInt32 := do
  let args := args.map Bytes.ofString
  let files ← (Command.inputs args).filterMapM Main.readFile?
  let environment ← Main.variableNames.filterMapM Main.setting?
  match Command.perform args files environment .empty with
  | .ok _ output =>
    Main.deliver output
    return 0
  | .error error output =>
    Main.deliver output
    IO.eprintln ("error: " ++ (error.message.getD []).toText)
    return 1
