/-!
# Playback of animations
-/

namespace Storyboard

inductive LoopType where
  | forever | once
deriving DecidableEq, Repr

namespace LoopType

def all : List LoopType := [.forever, .once]

def text : LoopType → String
  | .forever => "LoopForever"
  | .once => "LoopOnce"

def name : LoopType → String
  | .forever => "LOOP_FOREVER"
  | .once => "LOOP_ONCE"

def ofName? (s : String) : Option LoopType :=
  all.find? (·.name = s)

end LoopType
end Storyboard
