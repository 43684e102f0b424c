import Storyboard.Error
import Storyboard.Files.Path
import Storyboard.Preview.Frame
import Storyboard.Text.Lowercase

/-!
# Output formats

A storyboard is saved as the text of its script or as a picture of one of its frames.  Which of the
two is meant is told by the suffix of the path, in any case.
-/

namespace Storyboard

inductive OutputFormat where
  | script | picture
deriving DecidableEq, Repr

namespace OutputFormat

def all : List OutputFormat := [.script, .picture]

def name : OutputFormat → String
  | .script => "osb"
  | .picture => "png"

def suffix (format : OutputFormat) : String :=
  "." ++ format.name

def ofSuffix? (suffix : List Char) : Option OutputFormat :=
  all.find? fun format => format.suffix.toList = suffix

def ofPath (path : String) : Except Error OutputFormat :=
  let suffix := Text.lowercase (Path.suffix path)
  match ofSuffix? suffix with
  | some format => .ok format
  | none => .error (.outputFormat (String.ofList suffix))

end OutputFormat

/-!
## Outputs

An output is a format with the path and the options that belong to it.  What it makes of a
storyboard is known before the path is tried, so a file never holds a part of its content.
-/

structure PictureOptions where
  time : Option Int
  grid : Option Bool

inductive Output where
  | script (path : String)
  | picture (path : String) (time : Int) (grid : Bool)

inductive Content where
  | text (s : String)
  | picture (p : Picture)

structure File where
  path : String
  content : Content

namespace Output

/-- The output for a path.  A script has no options. -/
def resolve (path : String) (options : PictureOptions) : Except Error Output := do
  match ← OutputFormat.ofPath path with
  | .script =>
      if options.grid.isSome then throw (.outputOption "grid")
      if options.time.isSome then throw (.outputOption "time")
      return .script path
  | .picture => return .picture path (options.time.getD 0) (options.grid.getD true)

def path : Output → String
  | .script path | .picture path _ _ => path

def encode (output : Output) (b : Board) : Except Error Content :=
  match output with
  | .script _ => .ok (.text b.text)
  | .picture _ time grid => do return .picture (← b.frame time grid)

def write (files : FileSystem) (path : String) (content : Content) : Except Error File := do
  if path.isEmpty then throw .outputPathMissing
  if '\x00' ∈ path.toList then throw .nullInPath
  match files.refusal? path with
  | none => return { path, content }
  | some refusal => throw (.notWritable refusal path)

def save (files : FileSystem) (output : Output) (b : Board) : Except Error File := do
  write files output.path (← output.encode b)

end Output
end Storyboard
