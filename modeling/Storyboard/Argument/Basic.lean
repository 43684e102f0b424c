import Storyboard.Vec2
import Storyboard.Color
import Storyboard.Layer
import Storyboard.Origin
import Storyboard.Playback
import Storyboard.Easing.Basic
import Storyboard.Text.Quoted

/-!
# Arguments

Commands and sprites are described by loosely shaped arguments: a position may be given as a vector
or as a pair, a number as an integer or with a fraction, and an easing may stand in front or not.
An argument is any value that can turn up in such a place.  What it means is decided by where it
stands, and an argument that fits nowhere is shown in the message that refuses it.
-/

namespace Storyboard

inductive Argument where
  | int (n : Int)
  | float (x : Double)
  | bool (b : Bool)
  | none
  | text (s : String)
  | list (items : List Argument)
  | tuple (items : List Argument)
  | number (n : Number)
  | vec2 (v : Vec2)
  | color (c : Color)
  | easing (e : Easing)
  | origin (o : Origin)
  | layer (l : Layer)
  | loopType (t : LoopType)

namespace Argument

instance : Inhabited Argument := ⟨.none⟩

def typeName : Argument → String
  | .int _ => "int"
  | .float _ => "float"
  | .bool _ => "bool"
  | .none => "NoneType"
  | .text _ => "str"
  | .list _ => "list"
  | .tuple _ => "tuple"
  | .number _ => "Number"
  | .vec2 _ => "Vec2"
  | .color _ => "Color"
  | .easing _ => "Easing"
  | .origin _ => "Origin"
  | .layer _ => "Layer"
  | .loopType _ => "LoopType"

/-- A member of a closed set as it is shown in messages. -/
def displayMember (type name text : String) : String :=
  s!"<{type}.{name}: '{text}'>"

/-- Shown items between parentheses; a comma marks a single one. -/
def displayTuple : List String → String
  | [item] => s!"({item},)"
  | items => "(" ++ String.intercalate ", " items ++ ")"

mutual

def display : Argument → String
  | .int n => toString n
  | .float x => x.text .answer
  | .bool b => if b then "True" else "False"
  | .none => "None"
  | .text s => Text.quoted s
  | .list items => "[" ++ String.intercalate ", " (displayAll items) ++ "]"
  | .tuple items => displayTuple (displayAll items)
  | .number n => n.display
  | .vec2 v => v.display
  | .color c => c.display
  | .easing e => e.display
  | .origin o => displayMember "Origin" o.name o.text
  | .layer l => displayMember "Layer" l.name l.text
  | .loopType t => displayMember "LoopType" t.name t.text

def displayAll : List Argument → List String
  | [] => []
  | a :: rest => display a :: displayAll rest

end

/-!
## Equality

Plain numbers are equal if their values are, and truth values count as zero and one.  A number that
was read is only equal to another one that was.
-/

/-- Whether an argument is a plain number of the value of an integer; truth values count. -/
def isInteger (n : Int) : Argument → Bool
  | .int m => m = n
  | .bool b => (if b then 1 else 0) = n
  | .float x => x.isFinite && x.value = (n : Rat)
  | _ => false

/-- The text that an argument is, if it is one; members of closed sets are their texts. -/
def text? : Argument → Option String
  | .text s => some s
  | .origin o => some o.text
  | .layer l => some l.text
  | .loopType t => some t.text
  | _ => Option.none

mutual

def equals : Argument → Argument → Bool
  | .int n, b => b.isInteger n
  | .bool p, b => b.isInteger (if p then 1 else 0)
  | .float x, .float y => x.equals y
  | .float x, .int n => isInteger n (.float x)
  | .float x, .bool p => isInteger (if p then 1 else 0) (.float x)
  | .none, .none => true
  | .list as, .list bs | .tuple as, .tuple bs => equalsAll as bs
  | .number m, .number n => m.equals n
  | .vec2 v, .vec2 w => v.equals w
  | .color c, .color d => c = d
  | .easing e, .easing f => e.equals f
  | a, b => a.text?.isSome && a.text? = b.text?

def equalsAll : List Argument → List Argument → Bool
  | [], [] => true
  | a :: as, b :: bs => equals a b && equalsAll as bs
  | _, _ => false

end

mutual

/-- The first part of an argument that can change and so has no place in a set. -/
def changeable? : Argument → Option Argument
  | .list items => some (.list items)
  | .tuple items => firstChangeable? items
  | _ => Option.none

def firstChangeable? : List Argument → Option Argument
  | [] => Option.none
  | a :: rest => (changeable? a).or (firstChangeable? rest)

end

/-- The arguments without those that equal an earlier one. -/
def firsts : List Argument → List Argument
  | [] => []
  | a :: rest => a :: (firsts rest).filter fun b => !a.equals b

end Argument
end Storyboard
