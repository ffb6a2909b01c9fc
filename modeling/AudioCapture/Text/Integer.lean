/-!
# Decimal integers

Reading a decimal integer that has to lie between two bounds: an optional single sign, then one
or more digits of ASCII. The bounds are checked digit by digit, so a text that leaves them is
refused there, before the characters that follow are looked at.
-/

namespace AudioCapture.Text

/-- Why a text is not an integer between the bounds. -/
inductive IntegerError where
  | empty
  | badDigit
  | tooLarge
  | tooSmall
  deriving DecidableEq, Repr

def IntegerError.message : IntegerError → String
  | .empty => "cannot parse integer from empty string"
  | .badDigit => "invalid digit found in string"
  | .tooLarge => "number too large to fit in target type"
  | .tooSmall => "number too small to fit in target type"

/-- The value of a decimal digit. -/
def digit? (c : Char) : Option Nat :=
  if '0' ≤ c ∧ c ≤ '9' then some (c.toNat - 48) else none

/-- Appends digits to a number at or above zero. -/
def countUp (high : Int) : Int → List Char → Except IntegerError Int
  | value, [] => .ok value
  | value, c :: rest =>
      match digit? c with
      | none => .error .badDigit
      | some digit =>
          if value * 10 + digit ≤ high then countUp high (value * 10 + digit) rest
          else .error .tooLarge

/-- Appends digits to a number at or below zero. -/
def countDown (low : Int) : Int → List Char → Except IntegerError Int
  | value, [] => .ok value
  | value, c :: rest =>
      match digit? c with
      | none => .error .badDigit
      | some digit =>
          if low ≤ value * 10 - digit then countDown low (value * 10 - digit) rest
          else .error .tooSmall

/-- The integer between `low` and `high` that a text denotes. -/
def integer (low high : Int) : List Char → Except IntegerError Int
  | [] => .error .empty
  | ['+'] => .error .badDigit
  | ['-'] => .error .badDigit
  | '+' :: digits => countUp high 0 digits
  | '-' :: digits => countDown low 0 digits
  | digits => countUp high 0 digits

end AudioCapture.Text
