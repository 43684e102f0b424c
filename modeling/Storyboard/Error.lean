import Storyboard.Argument.Basic
import Storyboard.Command.Kind
import Storyboard.Decimal.Limit
import Storyboard.Files.System

/-!
# What can go wrong

Every refusal of the library is one of the causes below.  The wording of the messages is in one
place, `Error.message`.
-/

namespace Storyboard

inductive Error where
  | arithmetic (failure : Binary.Failure)
  | notANumber (typeName : String)
  | notRoundable (typeName : String)
  | notComparable (typeName : String)
  | notAVector (got : Argument)
  | notAColor (got : Argument)
  | easingNumber (got : Argument)
  | emptyInterval (start stop : String)
  | time (kind : Kind) (got : Argument)
  | arguments (kind : Kind) (got : List Argument)
  | noStaticForm (kind : Kind)
  | noValue (kind : Kind)
  | endTimeMissing (kind : Kind)
  | valueMissing (kind : Kind)
  | negativeDepth (depth : Int)
  | notACommand (typeName : String)
  | positionTwice
  | notAnOrigin (got : Argument)
  | noFrames (count : Int)
  | outputFormat (suffix : String)
  | outputOption (name : String)
  | outputPathMissing
  | nullInPath
  | notWritable (refusal : Refusal) (path : String)
  | notHashable (typeName : String)
  | integerTooLong

def Error.message : Error → String
  | .arithmetic failure => failure.message
  | .notANumber typeName => s!"Number expects an int or a float (got {typeName})"
  | .notRoundable typeName => s!"type {typeName} doesn't define __round__ method"
  | .notComparable typeName =>
      s!"'<' not supported between instances of '{typeName}' and 'float'"
  | .notAVector got => s!"Cannot build a Vec2 from {got.display}"
  | .notAColor got => s!"Cannot build a color from {got.display}"
  | .easingNumber got => s!"Easing IDs are integers (got {got.display})"
  | .emptyInterval start stop => s!"Interval must satisfy start < end (got [{start}, {stop}))"
  | .time kind got => s!"{kind.name} times must be integers in milliseconds (got {got.display})"
  | .arguments kind got =>
      let shown := Argument.display (.tuple got)
      s!"Unsupported arguments for {kind.name}: {shown}"
  | .noStaticForm kind => s!"{kind.name} events have no static form"
  | .noValue kind => s!"{kind.name} events carry no value"
  | .endTimeMissing kind => s!"{kind.name} events require an end time"
  | .valueMissing kind => s!"{kind.name} events need a value at each end"
  | .negativeDepth depth => s!"Depth must be non-negative (got {depth})"
  | .notACommand typeName => s!"Unsupported event type: {typeName}"
  | .positionTwice => "Sprite position given twice"
  | .notAnOrigin got => s!"Sprite origin must be an Origin (got {got.display})"
  | .noFrames count => s!"Animations need at least one frame (got {count})"
  | .outputFormat suffix =>
      s!"Unsupported output format: {suffix}. Supported formats: .osb, .png"
  | .outputOption name => s!"OutputProvider.__init__() got an unexpected keyword argument '{name}'"
  | .outputPathMissing => "Output path not set"
  | .nullInPath => "embedded null byte"
  | .notWritable refusal path => refusal.message path
  | .notHashable typeName => s!"unhashable type: '{typeName}'"
  | .integerTooLong => Decimal.tooLongMessage

instance : MonadLift (Except Binary.Failure) (Except Error) where
  monadLift
    | .ok a => .ok a
    | .error failure => .error (.arithmetic failure)

end Storyboard
