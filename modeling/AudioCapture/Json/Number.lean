import AudioCapture.Json.Fault

/-!
# Numbers in JSON

A number is a natural number, a negative integer, or a floating-point number. An integer is one
while it fits 64 bits (with a sign, 63); everything else, `-0` included, is floating point. The
digits of a floating-point number are gathered in one 64-bit significand, those that no longer fit
are dropped, and the power of ten is applied last.
-/

namespace AudioCapture.Json

inductive Number where
  | natural (value : Nat)
  | negative (value : Int)
  | float (value : Float)

def Number.found : Number → Found
  | natural value => .integer value
  | negative value => .integer value
  | float value => .float value

namespace Number

/-- The largest significand. -/
def maxSignificand : Nat := 18446744073709551615

/-- Appends digits to a significand while it fits; also the digits that are left. -/
def gather (significand : Nat) : List Nat → Nat × List Nat
  | [] => (significand, [])
  | digit :: rest =>
      if significand * 10 + digit ≤ maxSignificand then gather (significand * 10 + digit) rest
      else (significand, digit :: rest)

def powerOfTen (exponent : Nat) : Float := Float.ofScientific 1 false exponent

/-- `value * 10 ^ exponent`; `none` when that is not finite. -/
def scale : Nat → Float → Int → Option Float
  | 0, value, _ => some value
  | tries + 1, value, exponent =>
      if exponent.natAbs ≤ 308 then
        if 0 ≤ exponent then
          let product := value * powerOfTen exponent.toNat
          if product.isInf then none else some product
        else some (value / powerOfTen exponent.natAbs)
      else if value == 0 then some value
      else if 0 ≤ exponent then none
      else scale tries (value / powerOfTen 308) (exponent + 308)

def signed (positive : Bool) (value : Float) : Float := if positive then value else -value

def ofParts (positive : Bool) (significand : Nat) (exponent : Int) (cur : Cursor) :
    Reading Number :=
  match scale 4 (UInt64.ofNat significand).toFloat exponent with
  | some value => .ok (.float (signed positive value), cur)
  | none => cur.fail .numberOutOfRange

def isExponentMark (cur : Cursor) : Bool :=
  match cur.rest with
  | c :: _ => c == 'e' || c == 'E'
  | [] => false

/-- The largest exponent that is counted. -/
def maxExponent : Nat := 2147483647

/-- How many digits of an exponent pass before it is too large to be counted, the digit that
makes it so included. -/
def passed (value : Nat) : List Nat → Option Nat
  | [] => none
  | digit :: rest =>
      if value * 10 + digit ≤ maxExponent then (passed (value * 10 + digit) rest).map (· + 1)
      else some 1

/-- Reads the exponent whose mark comes next. -/
def readExponent (positive : Bool) (significand : Nat) (start : Int) (cur : Cursor) :
    Reading Number :=
  let signedAt := cur.next
  let (upward, digitsAt) :=
    match signedAt.rest with
    | '+' :: _ => (true, signedAt.next)
    | '-' :: _ => (false, signedAt.next)
    | _ => (true, signedAt)
  match digitsAt.digits with
  | ([], _) =>
      if digitsAt.rest.isEmpty then digitsAt.fail .endInValue else digitsAt.failAhead .badNumber
  | (digits, after) =>
      match passed 0 digits with
      | none =>
          let size : Int := (gather 0 digits).1
          ofParts positive significand (if upward then start + size else start - size) after
      | some count =>
          if significand ≠ 0 ∧ upward then
            .error (.placed .numberOutOfRange ⟨digitsAt.line, digitsAt.column + count⟩)
          else .ok (.float (signed positive 0), after)

/-- Reads the decimals whose point comes next. -/
def readDecimals (positive : Bool) (significand : Nat) (start : Int) (cur : Cursor) :
    Reading Number :=
  let digitsAt := cur.next
  match digitsAt.digits with
  | ([], _) =>
      if digitsAt.rest.isEmpty then digitsAt.fail .endInValue else digitsAt.failAhead .badNumber
  | (digits, after) =>
      let (significand, dropped) := gather significand digits
      let exponent : Int := start - (digits.length - dropped.length : Nat)
      if isExponentMark after then readExponent positive significand exponent after
      else ofParts positive significand exponent after

/-- What a run of digits with no point or exponent stands for. -/
def ofDigits (positive : Bool) (value : Nat) : Number :=
  if positive then .natural value
  else if 0 < value ∧ value ≤ 9223372036854775808 then .negative (-value)
  else .float (-(UInt64.ofNat value).toFloat)

/-- Reads a number behind its sign. -/
def read (positive : Bool) (cur : Cursor) : Reading Number :=
  match cur.digits with
  | ([], _) =>
      if cur.rest.isEmpty then cur.fail .endInValue else cur.failAhead .badNumber
  | (0 :: _ :: _, _) => cur.next.failAhead .badNumber
  | (digits, after) =>
      let (significand, dropped) := gather 0 digits
      match after.rest with
      | '.' :: _ => readDecimals positive significand dropped.length after
      | _ =>
          if isExponentMark after then readExponent positive significand dropped.length after
          else if dropped.isEmpty then .ok (ofDigits positive significand, after)
          else ofParts positive significand dropped.length after

end Number

end AudioCapture.Json
