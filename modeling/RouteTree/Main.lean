import RouteTree.Program

/-!
# Running the program

The outermost layer: it looks at the arguments, files and variables, and writes what the
program says. It has no network, so that no address is in use and no request arrives;
the end of its input tells it to stop.
-/

namespace RouteTree.Program

/-- The content of a file, if it can be read. -/
def contentOf (path : String) : IO (Option Bytes) := do
  try
    let content ← IO.FS.readBinFile path
    return some content.toList
  catch _ => return none

/-- The files that the arguments may name. -/
def filesOf (arguments : List String) : IO (List (String × Option Bytes)) := do
  match CommandLine.read arguments with
  | .ok ⟨some path, _⟩ => return [(path, ← contentOf path)]
  | _ => return []

/-- Wait for the end of the input. -/
partial def awaitEnd (input : IO.FS.Stream) : IO Unit := do
  let line ← input.getLine
  if line.isEmpty then return
  awaitEnd input

end RouteTree.Program

open RouteTree in
/-- Start the program, and stop it at the end of its input. -/
def main (arguments : List String) : IO UInt32 := do
  let files ← Program.filesOf arguments
  let filterText ← IO.getEnv "RUST_LOG"
  let launch := Program.launch
    ⟨fun path => (files.lookup path).join, filterText, fun _ => false⟩ arguments
  launch.lines.forM IO.println
  launch.complaints.forM IO.eprintln
  match launch.outcome with
  | .ended code => return code.toUInt32
  | .serving _ filter =>
    Program.awaitEnd (← IO.getStdin)
    (Program.stopLines filter).forM IO.println
    return 0
