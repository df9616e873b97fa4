import LuaListing.Text.Digit

/-!
# Decimal numerals

A numeral is an optional minus sign and decimal digits, of any script.  Its value is read
only when it has at most `maxDigits` digits (leading zeros count): a longer numeral is
refused with the number of its digits, so reading a line never turns an unbounded run of
digits into a number.

## Main definitions

* `maxDigits`, `Numeral`, `Numeral.toInt`, `Numeral.toNat`.
* `DigitLimitError`, `DigitLimitError.message`.
-/

namespace LuaListing

/-- The most digits a numeral may have to be read. -/
def maxDigits : Nat := 4300

/-- A numeral: a sign and the values of its digits, most significant first. -/
structure Numeral where
  /-- Whether a minus sign stands before the digits. -/
  negative : Bool := false
  /-- The digit values. -/
  digits : List Nat
  deriving DecidableEq, Repr, Inhabited

/-- A numeral with more digits than `maxDigits`. -/
structure DigitLimitError where
  /-- How many digits it has. -/
  digits : Nat
  deriving DecidableEq, Repr, Inhabited

/-- The text of the error. -/
def DigitLimitError.message (e : DigitLimitError) : String :=
  "a number has " ++ toString e.digits ++ " digits, more than the limit of " ++
    toString maxDigits

namespace Numeral

/-- The value of the digits, whatever their number. -/
def magnitude (n : Numeral) : Nat := digitsValue n.digits

/-- Whether the numeral may be read. -/
def withinLimit (n : Numeral) : Bool := n.digits.length ≤ maxDigits

/-- The value of a numeral, unless it has too many digits. -/
def toInt (n : Numeral) : Except DigitLimitError Int :=
  if n.withinLimit then .ok (if n.negative then -(n.magnitude : Int) else n.magnitude)
  else .error ⟨n.digits.length⟩

/-- The value of a numeral without a sign, unless it has too many digits. -/
def toNat (n : Numeral) : Except DigitLimitError Nat :=
  if n.withinLimit then .ok n.magnitude else .error ⟨n.digits.length⟩

theorem toInt_of_withinLimit {n : Numeral} (h : n.withinLimit = true) :
    n.toInt = .ok (if n.negative then -(n.magnitude : Int) else n.magnitude) := by
  simp [toInt, h]

end Numeral

end LuaListing
