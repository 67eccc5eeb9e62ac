import ScriptGate.CommandLine.Program

/-!
The program. It reads the lines of its input as they come and answers each at once; all that it decides, it
decides by the functions of the library. It opens no ports itself: whether a debug listener can
be bound is what the library says of a machine with addresses of version 4.
-/

open ScriptGate ScriptGate.CommandLine

/-- Tells something beside the answers. -/
def tell (note : Note) : IO Unit := do
  let text := match note with
    | .event e => logText e
    | .text s => s
  (← IO.getStderr).putStrLn text

/-- Serves the input as it comes; `rest` is the beginning of a line. -/
partial def serveStream (verbose : Bool) (input output : IO.FS.Stream) (rest : List UInt8)
    (b : Bridge ScriptHost) : IO (Bool × Bridge ScriptHost) := do
  let chunk ← input.read 65536
  let bytes := rest ++ chunk.toList
  let cut := if chunk.isEmpty then bytes.length
    else bytes.length - (bytes.reverse.takeWhile (· ≠ 10)).length
  let turn := b.serve (Text.lines (bytes.take cut))
  (notes verbose turn.events).forM tell
  for reply in turn.answer.replies do
    output.putStr (reply ++ "\n")
    output.flush
  if turn.answer.unreadable || chunk.isEmpty then
    return (turn.answer.unreadable, turn.state)
  serveStream verbose input output (bytes.drop cut) turn.state

/-- Carries out the main part of a run and answers whether it failed. -/
def carryOut (o : Options) (b : Bridge ScriptHost) : IO (Bool × Bridge ScriptHost) := do
  match o.source with
  | some source =>
    let turn := evalOnce source b
    (notes o.verbose turn.events).forM tell
    turn.answer.complaint.forM fun text => tell (.text text)
    IO.print turn.answer.output
    return (turn.answer.failed, turn.state)
  | none =>
    tell (.event .servingStarted)
    serveStream o.verbose (← IO.getStdin) (← IO.getStdout) [] b

def main (args : List String) : IO UInt32 := do
  match Options.read args with
  | .error .help =>
    IO.print helpText
    return 0
  | .error (.fault f) =>
    tell (.text f.message)
    return 2
  | .ok o =>
    let started := start o Network.Machine.versionFour
    (notes o.verbose started.events).forM tell
    match started.answer with
    | .error _ => return 1
    | .ok b =>
      let (failed, b) ← carryOut o b
      (notes o.verbose b.disableDebugger.events).forM tell
      return if failed then 1 else 0
