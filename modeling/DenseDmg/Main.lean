import DenseDmg.CommandLine

/-!
# The program

Reads the arguments and the scenario document, runs the scene, and prints and writes what it
leaves.  Everything but the reading and writing itself is done by the pure functions of the other
modules.
-/

namespace DenseDmg

/-- The text of a file, if it can be read. -/
def readFile? (path : String) : IO (Option String) := do
  try
    return some (← IO.FS.readFile path)
  catch _ => return none

/-- Create a file or empty it, if that can be done. -/
def createFile? (path : String) : IO (Option IO.FS.Handle) := do
  try
    return some (← IO.FS.Handle.mk path .write)
  catch _ => return none

/-- Print a fault and give the exit code that stands for it. -/
def failWith (f : Fault) : IO UInt32 := do
  IO.eprintln s!"error: {f.message}"
  return 1

/-- Write the summary, if a file was named for it. -/
def writeSummary (o : Options) (summary : Summary) : IO UInt32 := do
  match o.summaryOut with
  | none => return 0
  | some path =>
    try
      IO.FS.writeFile path summary.json.pretty
      return 0
    catch _ => failWith .inaccessible

/-- Print the lines of the console, and hand the chunks of the logs on to their files. -/
def writeOutputs (x : Experiment) (training quality : IO.FS.Handle) : IO Unit := do
  (← IO.getStdout).putStr (fileText x.outputs.console.written)
  for chunk in handovers x.history.toList do
    let file := match chunk.log with
      | .training => training
      | .quality => quality
    file.putStr chunk.text
    file.flush

/-- A call whose arguments have been understood. -/
def runOptions (o : Options) : IO UInt32 := do
  let document ← match o.config with
    | some path => readFile? path
    | none => pure none
  match o.scenario fun _ => document with
  | .error f => failWith f
  | .ok scenario =>
    let some training ← createFile? o.trainingOut | failWith .inaccessible
    let some quality ← createFile? o.qualityOut | failWith .inaccessible
    match DenseRun.build scenario o.outputs with
    | .error f => failWith f
    | .ok run =>
      match run.run Simulator.eventLimit with
      | none => failWith .inaccessible
      | some (w, answer) =>
        writeOutputs w.experiment training quality
        match answer with
        | .error f => failWith f
        | .ok summary => writeSummary o summary

end DenseDmg

def main (args : List String) : IO UInt32 := do
  match DenseDmg.Invocation.ofArgs args with
  | .run o => DenseDmg.runOptions o
  | .help =>
    IO.print (DenseDmg.fileText DenseDmg.helpLines.toArray)
    return 0
  | .rejected =>
    IO.eprintln "error: the arguments are not understood; try --help"
    return 2
