import AudioCapture.Decimal.Shortest
import AudioCapture.Json.Cursor
import AudioCapture.Text.Quoted

/-!
# Faults of JSON texts

Why a text cannot be read as what it should hold, the words for it, and where it was noticed. A
fault that concerns a whole record has no place of its own: it is put where reading has come to
once the end of the record has been looked for.

* `settle_placed`: a fault that has a place keeps it.
-/

namespace AudioCapture.Json

/-- What stands in a text where something else should. -/
inductive Found where
  | null
  | flag (value : Bool)
  | integer (value : Int)
  | float (value : Float)
  | text (value : String)
  | list
  | object
  | bareVariant

/-- The text of a finite number: positional while the power of ten of its first digit lies
between -5 and 15, with a signed exponent otherwise. -/
def floatText (value : Float) : String :=
  let bits := value.toBits.toNat
  let sign := if bits / 9223372036854775808 = 1 then "-" else ""
  if bits % 9223372036854775808 = 0 then sign ++ "0.0"
  else
    let shortest := Decimal.shortest bits
    let digits := Decimal.significantDigits shortest.digits
    let exponent := shortest.exponent
    if -5 ≤ exponent ∧ exponent < 0 then
      sign ++ String.ofList ('0' :: '.' :: List.replicate (-exponent - 1).toNat '0' ++ digits)
    else if 0 ≤ exponent ∧ exponent ≤ 15 then
      let whole := exponent.toNat + 1
      let padded := digits ++ List.replicate (whole - digits.length) '0'
      let rest := if digits.length ≤ whole then ['0'] else padded.drop whole
      sign ++ String.ofList (padded.take whole ++ '.' :: rest)
    else
      let fraction := if digits.length ≤ 1 then [] else '.' :: digits.drop 1
      let mark := if exponent < 0 then '-' else '+'
      let size := Nat.toDigits 10 exponent.natAbs
      sign ++ String.ofList (digits.take 1 ++ fraction ++ 'e' :: mark :: size)

def Found.words : Found → String
  | null => "null"
  | flag value => s!"boolean `{value}`"
  | integer value => s!"integer `{value}`"
  | float value => s!"floating point `{floatText value}`"
  | text value => s!"string {Text.quoted value}"
  | list => "sequence"
  | object => "map"
  | bareVariant => "unit variant"

inductive Reason where
  | endInList
  | endInObject
  | endInText
  | endInValue
  | expectedColon
  | expectedCommaOrBracket
  | expectedCommaOrBrace
  | expectedWord
  | expectedValue
  | badEscape
  | badNumber
  | numberOutOfRange
  | controlCharacter
  | keyNotText
  | loneSurrogate
  | trailingComma
  | trailingCharacters
  | hexEscapeEnds
  | wrongType (found : Found) (expected : String)
  | wrongValue (found : Found) (expected : String)
  | wrongLength (found : Nat) (expected : String)
  | unknownVariant (name : String) (known : List String)
  | unknownField (name : String) (known : List String)
  | missingField (name : String)
  | repeatedField (name : String)

/-- The names that were possible. -/
def oneOf : List String → String
  | [] => ""
  | [name] => s!"`{name}`"
  | [first, second] => s!"`{first}` or `{second}`"
  | names => "one of " ++ ", ".intercalate (names.map fun name => s!"`{name}`")

def Reason.words : Reason → String
  | endInList => "EOF while parsing a list"
  | endInObject => "EOF while parsing an object"
  | endInText => "EOF while parsing a string"
  | endInValue => "EOF while parsing a value"
  | expectedColon => "expected `:`"
  | expectedCommaOrBracket => "expected `,` or `]`"
  | expectedCommaOrBrace => "expected `,` or `\x7d`"
  | expectedWord => "expected ident"
  | expectedValue => "expected value"
  | badEscape => "invalid escape"
  | badNumber => "invalid number"
  | numberOutOfRange => "number out of range"
  | controlCharacter => "control character (\\u0000-\\u001F) found while parsing a string"
  | keyNotText => "key must be a string"
  | loneSurrogate => "lone leading surrogate in hex escape"
  | trailingComma => "trailing comma"
  | trailingCharacters => "trailing characters"
  | hexEscapeEnds => "unexpected end of hex escape"
  | wrongType found expected => s!"invalid type: {found.words}, expected {expected}"
  | wrongValue found expected => s!"invalid value: {found.words}, expected {expected}"
  | wrongLength found expected => s!"invalid length {found}, expected {expected}"
  | unknownVariant name known => s!"unknown variant `{name}`, expected {oneOf known}"
  | unknownField name known => s!"unknown field `{name}`, expected {oneOf known}"
  | missingField name => s!"missing field `{name}`"
  | repeatedField name => s!"duplicate field `{name}`"

/-- A reason with its place, or with the cursor at which it came up. -/
inductive Fault where
  | placed (reason : Reason) (position : Position)
  | unplaced (reason : Reason) (cur : Cursor)

namespace Fault

/-- Gives a fault the place of a cursor unless it has one. -/
def settle (fault : Fault) (place : Position) : Fault :=
  match fault with
  | placed reason position => placed reason position
  | unplaced reason _ => placed reason place

def message : Fault → String
  | placed reason position =>
      s!"{reason.words} at line {position.line} column {position.column}"
  | unplaced reason _ => reason.words

@[simp] theorem settle_placed (reason : Reason) (position place : Position) :
    (placed reason position).settle place = placed reason position := rfl

end Fault

/-- What reading at a cursor comes to: a value and the cursor behind it, or a fault. -/
abbrev Reading (α : Type) := Except Fault (α × Cursor)

def Cursor.fail (cur : Cursor) (reason : Reason) : Except Fault α :=
  .error (.placed reason cur.here)

/-- A fault of the character that comes next. -/
def Cursor.failAhead (cur : Cursor) (reason : Reason) : Except Fault α :=
  .error (.placed reason cur.ahead)

end AudioCapture.Json
