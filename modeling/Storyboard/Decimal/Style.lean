import Storyboard.Decimal.Shortest

/-!
# Writing binary numbers as decimals

A number is always written with the digits of its shortest decimal.  How those digits are laid out
is a choice of style: where the exponent form begins, and whether a whole number keeps a zero after
the point.  Command lines and answers use one style each.
-/

namespace Storyboard
namespace Decimal

/-- The decisions about the layout of a decimal. -/
structure Style where
  /-- Least and greatest place of the leading digit written without an exponent; `none` for all. -/
  positional : Option (Int × Int)
  /-- Whether a whole number ends in a point and a zero. -/
  pointZero : Bool

/-- Command lines never use an exponent and write whole numbers as integers. -/
def Style.command : Style := { positional := none, pointZero := false }

/-- Answers and messages write places from -4 to 15 out and mark every number as no integer. -/
def Style.answer : Style := { positional := some (-4, 15), pointZero := true }

def digits (n : Nat) : List Char :=
  Nat.toDigits 10 n

def zeros (n : Nat) : List Char :=
  List.replicate n '0'

/-- Digits laid out around the point. -/
def positionalChars (pointZero : Bool) (coefficient : Nat) (exponent : Int) : List Char :=
  let ds := digits coefficient
  if 0 ≤ exponent then
    ds ++ zeros exponent.toNat ++ (if pointZero then ['.', '0'] else [])
  else
    let places := (-exponent).toNat
    let padded := zeros (places + 1 - ds.length) ++ ds
    padded.take (padded.length - places) ++ '.' :: padded.drop (padded.length - places)

/-- One digit before the point, and an exponent of at least two digits with its sign. -/
def scientificChars (coefficient : Nat) (place : Int) : List Char :=
  let size := digits place.natAbs
  let mantissa :=
    match digits coefficient with
    | d :: rest => d :: (if rest = [] then [] else '.' :: rest)
    | [] => []
  mantissa ++ 'e' :: (if place < 0 then '-' else '+') :: (zeros (2 - size.length) ++ size)

def unsignedChars (style : Style) (d : Decimal) : List Char :=
  let place := d.exponent + (digits d.coefficient).length - 1
  match style.positional with
  | none => positionalChars style.pointZero d.coefficient d.exponent
  | some (least, greatest) =>
      if least ≤ place ∧ place ≤ greatest then
        positionalChars style.pointZero d.coefficient d.exponent
      else scientificChars d.coefficient place

def chars (style : Style) (d : Decimal) : List Char :=
  if d.negative then '-' :: unsignedChars style d else unsignedChars style d

end Decimal

def Binary.text {f : Binary.Format} (style : Decimal.Style) (x : Binary f) : String :=
  match x with
  | .nan => "nan"
  | .infinite negative => if negative then "-inf" else "inf"
  | .finite negative significand _ _ =>
      String.ofList <| Decimal.chars style <|
        if significand = 0 then ⟨negative, 0, 0⟩ else Decimal.shortest x

end Storyboard
