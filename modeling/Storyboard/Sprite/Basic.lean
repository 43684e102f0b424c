import Storyboard.Cue
import Storyboard.IntervalMap
import Storyboard.Sprite.Figure

/-!
# Sprites

A sprite is a figure on a layer, with a timeline of commands for each kind.  A sprite remembers the
span of its commands, from the earliest time to the latest, and the depth at which commands are
added.
-/

namespace Storyboard

structure Span where
  first : Int
  last : Int
deriving DecidableEq

/-- The smallest span that holds two times and, if there is one, another span. -/
def Span.widen (span : Option Span) (low high : Int) : Span :=
  match span with
  | some span => ⟨min span.first low, max span.last high⟩
  | none => ⟨low, high⟩

abbrev Timeline := IntervalMap Int Cue

structure Sprite extends Figure where
  layer : Layer
  currentDepth : Int
  span : Option Span
  timelines : Kind.Table Timeline

namespace Sprite

def ofFigure (figure : Figure) : Sprite :=
  { figure with
    layer := .background
    currentDepth := 0
    span := none
    timelines := .fill .empty }

def onLayer (s : Sprite) (layer : Layer) : Sprite :=
  { s with layer }

/-- The sprite with another depth for the commands to be added. -/
def atDepth (s : Sprite) (depth : Int) : Sprite :=
  { s with currentDepth := depth }

def timeline (s : Sprite) (kind : Kind) : Timeline :=
  s.timelines.get kind

/-- The state after a command was to be added, and why it was refused, if it was. -/
structure Addition where
  sprite : Sprite
  depths : Depths
  refusal : Option Error

/--
Adds a command.  The span is widened first, and stays so even if the depth at which the command
should be added is refused.
-/
def add (s : Sprite) (depths : Depths) (cue : Cue) : Addition :=
  let c := cue.command
  let widened := { s with span := some (Span.widen s.span c.low c.high) }
  match depths.set cue.id s.currentDepth with
  | .error e => { sprite := widened, depths, refusal := some e }
  | .ok depths =>
      match (s.timeline c.kind).push c.low c.stop cue with
      | .ok timeline =>
          { sprite := { widened with timelines := s.timelines.set c.kind timeline }
            depths
            refusal := none }
      | .error e =>
          { sprite := widened
            depths
            refusal := some (.emptyInterval (toString e.start) (toString e.stop)) }

end Sprite
end Storyboard
