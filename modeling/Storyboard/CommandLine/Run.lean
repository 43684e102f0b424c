import Storyboard.CommandLine.Request
import Storyboard.CommandLine.Script
import Storyboard.Console.Line
import Storyboard.Files.Tree
import Storyboard.Output.Format

/-!
# Running the command line

A run asks the world around it about files and scripts and leads to an outcome: an exit status with
what was printed and which files were written until then.

Progress goes to the standard output, except when that is to hold the text of the storyboard.  A run
that stops early says why, unless not even that can be printed.
-/

namespace Storyboard
namespace CommandLine

structure World where
  /-- The entry point that the environment asks for; empty if it asks for none. -/
  entrypoint : String
  /-- What lies below the current directory. -/
  tree : Tree
  /-- The scripts among it, by the names that lead there. -/
  script? : List (List Char) → Option Script
  /-- The answers about all paths.  Unless others are given, there is only the tree. -/
  files : FileSystem := tree.files
  /-- What comes of running the file at a path. -/
  runFile : String → Script := fun path =>
    match tree.file path with
    | .ok (.below names) => (script? names).getD (.defining [])
    | _ => .defining []
  /-- What is printed for a line with tags. -/
  console : String → Except Console.Failure String := Console.line

/-!
## Traces

Nothing that was printed or written is ever taken back, so the trace of a run only grows.  A stop
carries the message that is printed last.
-/

inductive Stream where
  | stdout | stderr
deriving DecidableEq, Repr

structure Trace where
  stdout : String
  stderr : String
  files : List File

namespace Trace

def empty : Trace := ⟨"", "", []⟩

def print (trace : Trace) (stream : Stream) (text : String) : Trace :=
  match stream with
  | .stdout => { trace with stdout := trace.stdout ++ text }
  | .stderr => { trace with stderr := trace.stderr ++ text }

def write (trace : Trace) (file : File) : Trace :=
  { trace with files := trace.files ++ [file] }

end Trace

inductive Stop where
  /-- Something that was asked for cannot be done. -/
  | refused (message : String)
  /-- Something went wrong that nobody asked about. -/
  | unexpected (message : String)

def Stop.line : Stop → String
  | .refused message => s!"[bold red]Error:[/bold red] {message}"
  | .unexpected message => s!"[bold red]Unexpected error:[/bold red] {message}"

/-- A run leaves a trace, also if it stops early. -/
abbrev Run := ExceptT Stop (StateM Trace)

inductive Outcome where
  | usage
  | table (rows : List (List String))
  | finished (exit : Nat) (trace : Trace)

def Outcome.exit : Outcome → Nat
  | .usage => 2
  | .table _ => 0
  | .finished exit _ => exit

def defaultEntrypoint : String := "storyboard"

/-- The entry point: the one asked for, or the environment's, or the default one. -/
def World.entrypointOf (w : World) (asked : Option String) : String :=
  asked.getD (if w.entrypoint.isEmpty then defaultEntrypoint else w.entrypoint)

def World.say (w : World) (stream : Stream) (markup : String) : Run Unit :=
  match w.console markup with
  | .ok text => modify (·.print stream text)
  | .error failure => throw (.unexpected failure.message)

def World.scriptAt (w : World) (path : String) : Except Refusal (Option Script) := do
  if '\x00' ∈ path.toList then return none
  if ← w.files.isFile (Path.normal path) then return some (w.runFile (Path.normal path))
  return none

/-!
## Loading and making

Every step announces itself with a line of its own before it may fail.
-/

def loadingLine (path entrypoint : String) : String :=
  s!"[bold blue]Loading {path} ({entrypoint})...[/bold blue]"

def World.load (w : World) (stream : Stream) (path entrypoint : String) : Run Board := do
  w.say stream (loadingLine path entrypoint)
  match w.scriptAt path with
  | .error refusal => throw (.unexpected (refusal.message (Path.normal path)))
  | .ok script =>
      match Script.load path script entrypoint with
      | .ok b => return b
      | .error e => throw (.refused e.message)

/-- The letters of a suffix, in capitals and without the dot. -/
def shownSuffix (path : String) : String :=
  String.ofList ((Path.suffix path).tail.map Char.toUpper)

def makingLine : Output → String
  | .script _ => "[bold blue]Writing storyboard script...[/bold blue]"
  | .picture path _ _ =>
      let shown := shownSuffix path
      s!"[bold blue]Rendering {shown} preview...[/bold blue]"

def madeLine (output : Output) : String :=
  let shown := shownSuffix output.path
  s!"[green]✓[/green] {shown} saved to {output.path}"

def World.make (w : World) (output : Output) (b : Board) : Run Unit := do
  w.say .stdout (makingLine output)
  match output.save w.files b with
  | .ok file => modify (·.write file)
  | .error e => throw (.refused s!"Failed to generate output: {e.message}")
  w.say .stdout (madeLine output)

/-!
## The commands

A storyboard is printed or written to a file, or one of its frames is drawn.  The first two load the
script before the path is looked at, and the last one only afterwards.
-/

def World.print (w : World) (script entrypoint : String) : Run Unit := do
  let b ← w.load .stderr script entrypoint
  modify (·.print .stdout b.text)

/-- Writes a storyboard to a file.  The script is loaded before the path is looked at. -/
def World.render (w : World) (script path entrypoint : String) : Run Unit := do
  let b ← w.load .stdout script entrypoint
  match Output.resolve path ⟨none, none⟩ with
  | .ok output => w.make output b
  | .error e => throw (.refused e.message)

/-- The path of a picture for which none is given. -/
def previewPath (script : String) (time : Int) : String :=
  String.ofList (Path.stem script) ++ s!"-{time}.png"

/-- Writes a picture of a storyboard.  The path is looked at before the script is loaded. -/
def World.preview (w : World) (script : String) (time : Int) (path entrypoint : String)
    (grid : Bool) : Run Unit := do
  if OutputFormat.ofSuffix? (Text.lowercase (Path.suffix path)) = some .picture then
    let b ← w.load .stdout script entrypoint
    w.make (.picture path time grid) b
  else throw (.refused s!"Preview output must be a .png file (got '{path}')")

/-- One row for each easing: its number, its name, and the other names of its curve. -/
def easingRows : List (List String) :=
  Easing.all.map fun e =>
    let others := Easing.all.filter fun o => o ≠ e ∧ o.equals e
    [toString e.number, e.osuName, String.intercalate ", " (others.map Easing.osuName)]

def Request.target? : Request → Option String
  | .render _ output _ => output
  | .preview script time output _ _ => some (output.getD (previewPath script time))
  | .easings => none

def Request.script? : Request → Option String
  | .render script _ _ | .preview script _ _ _ _ => some script
  | .easings => none

def World.conclude (w : World) (run : Run Unit) : Outcome :=
  match run.run.run .empty with
  | (.ok (), trace) => .finished 0 trace
  | (.error stop, trace) =>
      match w.console stop.line with
      | .ok text => .finished 1 (trace.print .stderr text)
      | .error _ => .finished 1 trace

def World.perform (w : World) : Request → Outcome
  | .render script none entrypoint => w.conclude (w.print script (w.entrypointOf entrypoint))
  | .render script (some path) entrypoint =>
      w.conclude (w.render script path (w.entrypointOf entrypoint))
  | .preview script time path entrypoint grid =>
      let path := path.getD (previewPath script time)
      w.conclude (w.preview script time path (w.entrypointOf entrypoint) grid)
  | .easings => .table easingRows

def run (w : World) (args : List String) : Outcome :=
  match Request.ofArguments? args with
  | some request => w.perform request
  | none => .usage

end CommandLine
end Storyboard
