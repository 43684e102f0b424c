import Storyboard.CommandLine.Run
import Storyboard.Preview.Listing
import Storyboard.Sample

/-!
# The command line

The outer layer reads the environment, runs the command line on the scripts that it knows, and
carries out what comes of it.  A program with scripts of its own calls `execute` with them.
-/

namespace Storyboard
namespace CommandLine

/-- Why no file can be written at a path, as far as the disk shows. -/
def refusalAt (path : String) : IO (Option Refusal) := do
  let place := (← IO.currentDir) / path
  if path.endsWith "/" || (← place.isDir) then return some .isADirectory
  match place.parent with
  | none => return none
  | some directory =>
      if ← directory.isDir then return none
      else if ← directory.pathExists then return some .notADirectory
      else return some .missing

/-- The scripts by their paths, and the disk for what is to be written. -/
def surroundings (scripts : List (String × Script)) (args : List String) : IO World := do
  let refusal ←
    match (Request.ofArguments? args).bind Request.target? with
    | some path => refusalAt path
    | none => pure none
  let known := scripts.map fun (path, script) => (Path.names path, script)
  let world : World :=
    { entrypoint := (← IO.getEnv "OSB_ENTRYPOINT").getD ""
      tree := fun names => (known.lookup names).map fun _ => .file
      script? := fun names => known.lookup names }
  return { world with files := { world.files with refusal? := fun _ => refusal } }

/-- Writes a file.  Pictures are listed stroke by stroke. -/
def writeOut (file : File) : IO Unit :=
  match file.content with
  | .text s => IO.FS.writeFile file.path s
  | .picture p => IO.FS.writeFile file.path p.text

def usageText : String :=
  "usage: render SCRIPT [-o FILE] [-e NAME]\n" ++
    "       preview SCRIPT -t TIME [-o FILE] [-e NAME] [--no-grid]\n" ++
    "       easings"

def carryOut : Outcome → IO Unit
  | .usage => IO.eprintln usageText
  | .table rows => rows.forM fun row => IO.println (String.intercalate "  " row)
  | .finished _ trace => do
      IO.print trace.stdout
      IO.eprint trace.stderr
      trace.files.forM writeOut

def execute (scripts : List (String × Script)) (args : List String) : IO UInt32 := do
  let outcome := run (← surroundings scripts args) args
  carryOut outcome
  return UInt32.ofNat outcome.exit

end CommandLine
end Storyboard

def main (args : List String) : IO UInt32 :=
  Storyboard.CommandLine.execute [("sample", Storyboard.Sample.script)] args
