import Storyboard.Board.Step

/-!
# Scripts

A script defines names, some of which are functions that build a storyboard.  Loading a script picks
one of its functions, the entry point, and runs it.
-/

namespace Storyboard

inductive Script.Result where
  | storyboard (b : Board)
  | other (typeName : String)
  | failure (message : String)

inductive Script.Definition where
  | function (result : Script.Result)
  /-- Something that cannot be run. -/
  | plain

inductive Script where
  | defining (names : List (String × Script.Definition))
  /-- A script that cannot even be read to its end. -/
  | failing (message : String)

namespace Script

inductive LoadError where
  | notFound (path : String)
  | scriptFailed (path message : String)
  | noFunction (path entrypoint : String)
  | functionFailed (path entrypoint message : String)
  | notAStoryboard (entrypoint typeName : String)

def LoadError.message : LoadError → String
  | .notFound path => s!"Script '{path}' not found"
  | .scriptFailed path message => s!"Script '{path}' failed: {message}"
  | .noFunction path entrypoint => s!"Script '{path}' defines no '{entrypoint}' function"
  | .functionFailed path entrypoint message => s!"'{entrypoint}' in '{path}' failed: {message}"
  | .notAStoryboard entrypoint typeName =>
      s!"'{entrypoint}' must return a Storyboard (got {typeName})"

def load (path : String) (script : Option Script) (entrypoint : String) : Except LoadError Board :=
  match script with
  | none => .error (.notFound path)
  | some (.failing message) => .error (.scriptFailed path message)
  | some (.defining names) =>
      match names.lookup entrypoint with
      | some (.function (.storyboard b)) => .ok b
      | some (.function (.other typeName)) => .error (.notAStoryboard entrypoint typeName)
      | some (.function (.failure message)) => .error (.functionFailed path entrypoint message)
      | _ => .error (.noFunction path entrypoint)

end Script
end Storyboard
