import AudioCapture.Json.Shape
import AudioCapture.Json.Text

/-!
# Writing JSON

The compact text of data: no blanks, the fields of a record in their order, and a variant by its
name alone unless it carries something.
-/

namespace AudioCapture.Json

def writeInteger (value : Int) : List Char :=
  if value < 0 then '-' :: Nat.toDigits 10 value.natAbs else Nat.toDigits 10 value.natAbs

def Datum.write : Datum → List Char
  | integer value => writeInteger value
  | flag value => if value then ['t', 'r', 'u', 'e'] else ['f', 'a', 'l', 's', 'e']
  | text value => writeText value
  | variant name none => writeText name
  | variant name (some payload) =>
      '\x7b' :: writeText name ++ ':' :: writeInteger payload ++ ['\x7d']

/-- The members of an object, with the commas between them. -/
def writeMembers : List (String × Datum) → List Char
  | [] => []
  | [(name, datum)] => writeText name ++ ':' :: datum.write
  | (name, datum) :: rest => writeText name ++ ':' :: datum.write ++ ',' :: writeMembers rest

def writeChars : Shape → Data → List Char
  | .record record, .record data =>
      '\x7b' :: writeMembers (record.fieldNames.zip data) ++ ['\x7d']
  | _, .scalar datum => datum.write
  | _, _ => []

def write (shape : Shape) (data : Data) : String := String.ofList (writeChars shape data)

end AudioCapture.Json
