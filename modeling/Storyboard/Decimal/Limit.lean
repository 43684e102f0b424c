/-!
# The length of integers

Integers have any size, but where a single one is read or written, its text in base ten is limited
in length.  The limit is a setting that can be changed, and no part of what a storyboard is: the
lines of commands and all that is put together from them hold integers of any length.
-/

namespace Storyboard
namespace Decimal

def maxDigits : Nat := 4300

def isWritable (n : Int) : Bool :=
  (Nat.toDigits 10 n.natAbs).length ≤ maxDigits

def tooLongMessage : String :=
  "Exceeds the limit (4300 digits) for integer string conversion; use " ++
    "sys.set_int_max_str_digits() to increase the limit"

def tooManyDigitsMessage (digits : Nat) : String :=
  s!"Exceeds the limit (4300 digits) for integer string conversion: value has {digits} digits; " ++
    "use sys.set_int_max_str_digits() to increase the limit"

theorem isWritable_neg (n : Int) : isWritable (-n) = isWritable n := by
  simp [isWritable]

end Decimal
end Storyboard
