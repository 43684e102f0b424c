import Storyboard.CommandLine.WholeNumber

/-!
# What is asked on the command line

The first argument names what to do: write the storyboard of a script, write a picture of it, or
list the easings.  Options may stand anywhere after it.  A long option takes its value from behind
an equals sign or from the next argument; a short one from the rest of its argument or from the next
one.  After two dashes, everything is an operand.
-/

namespace Storyboard
namespace CommandLine

structure Switch where
  long : String
  short : Option Char
  takesValue : Bool

inductive Request where
  | render (script : String) (output entrypoint : Option String)
  | preview (script : String) (time : Int) (output entrypoint : Option String) (grid : Bool)
  | easings
deriving DecidableEq

/-- The options of arguments in the order in which they were given, and the operands. -/
structure Parsed where
  settings : List (String × String)
  operands : List String

def Parsed.last? (p : Parsed) (long : String) : Option String :=
  (p.settings.reverse.find? (·.1 = long)).map Prod.snd

inductive Reading where
  | operand
  | separator
  /-- Options with their values, of which the last one may still want the next argument. -/
  | options (settings : List (String × String)) (pending : Option String)
  | unknown

/-- Reads short options that share an argument. -/
def readShort (switches : List Switch) (settings : List (String × String)) : List Char → Reading
  | [] => .options settings none
  | c :: rest =>
      match switches.find? (·.short = some c) with
      | none => .unknown
      | some switch =>
          if switch.takesValue then
            if rest.isEmpty then .options settings (some switch.long)
            else .options (settings ++ [(switch.long, String.ofList rest)]) none
          else readShort switches (settings ++ [(switch.long, "")]) rest

/-- Reads a long option, with its value if there is an equals sign. -/
def readLong (switches : List Switch) (body : List Char) : Reading :=
  let name := String.ofList (body.takeWhile (· ≠ '='))
  let value := body.dropWhile (· ≠ '=')
  match switches.find? (·.long = name), value with
  | none, _ => .unknown
  | some switch, [] =>
      if switch.takesValue then .options [] (some switch.long)
      else .options [(switch.long, "")] none
  | some switch, _ :: given =>
      if switch.takesValue then .options [(switch.long, String.ofList given)] none else .unknown

def readArgument (switches : List Switch) (arg : String) : Reading :=
  match arg.toList with
  | ['-', '-'] => .separator
  | '-' :: '-' :: body => readLong switches body
  | '-' :: c :: rest => readShort switches [] (c :: rest)
  | _ => .operand

/-- Reads all arguments; nothing if an option is unknown or lacks its value. -/
def parse? (switches : List Switch) : List String → Option Parsed
  | [] => some ⟨[], []⟩
  | arg :: rest =>
      match readArgument switches arg with
      | .operand => (parse? switches rest).map fun p => { p with operands := arg :: p.operands }
      | .separator => some ⟨[], rest⟩
      | .options settings none =>
          (parse? switches rest).map fun p => { p with settings := settings ++ p.settings }
      | .options settings (some long) =>
          match rest with
          | value :: rest =>
              (parse? switches rest).map fun p =>
                { p with settings := settings ++ (long, value) :: p.settings }
          | [] => none
      | .unknown => none

/-! ## Requests -/

def outputSwitch : Switch := ⟨"output", some 'o', true⟩
def entrypointSwitch : Switch := ⟨"entrypoint", some 'e', true⟩
def timeSwitch : Switch := ⟨"time", some 't', true⟩
def gridSwitch : Switch := ⟨"grid", none, false⟩
def noGridSwitch : Switch := ⟨"no-grid", none, false⟩

/-- An option that counts as absent if its value is empty. -/
def nonempty? (value : Option String) : Option String :=
  value.filter fun v => !v.isEmpty

def wantsGrid (p : Parsed) : Bool :=
  ((p.settings.map Prod.fst).filter fun long => long = "grid" ∨ long = "no-grid").getLast? ≠
    some "no-grid"

def renderRequest? (args : List String) : Option Request := do
  let p ← parse? [outputSwitch, entrypointSwitch] args
  match p.operands with
  | [script] =>
      return .render script (nonempty? (p.last? "output")) (nonempty? (p.last? "entrypoint"))
  | _ => none

def previewRequest? (args : List String) : Option Request := do
  let p ← parse? [outputSwitch, entrypointSwitch, timeSwitch, gridSwitch, noGridSwitch] args
  let time ← WholeNumber.read? (← p.last? "time")
  match p.operands with
  | [script] =>
      return .preview script time (nonempty? (p.last? "output")) (nonempty? (p.last? "entrypoint"))
        (wantsGrid p)
  | _ => none

def Request.ofArguments? : List String → Option Request
  | "--" :: command :: args | command :: args =>
      match command with
      | "render" => renderRequest? args
      | "preview" => previewRequest? args
      | "easings" => do
          let p ← parse? [] args
          if p.operands.isEmpty then some .easings else none
      | _ => none
  | [] => none

end CommandLine
end Storyboard
