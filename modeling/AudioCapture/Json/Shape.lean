/-!
# Shapes of JSON data

What a JSON text can be asked to hold: an integer of some width, a truth value, a text, one of a
set of variants, or a record of such values; and the data that such a text then holds.
-/

namespace AudioCapture.Json

/-- A kind of integer, with the name it goes by in messages. -/
structure IntegerKind where
  name : String
  low : Int
  high : Int
  deriving DecidableEq, Repr

namespace IntegerKind

def word32 : IntegerKind := ⟨"u32", 0, 4294967295⟩
def word64 : IntegerKind := ⟨"u64", 0, 18446744073709551615⟩
def size : IntegerKind := ⟨"usize", 0, 18446744073709551615⟩
def signed32 : IntegerKind := ⟨"i32", -2147483648, 2147483647⟩

def Holds (kind : IntegerKind) (value : Int) : Prop := kind.low ≤ value ∧ value ≤ kind.high

instance (kind : IntegerKind) (value : Int) : Decidable (kind.Holds value) :=
  inferInstanceAs (Decidable (_ ∧ _))

end IntegerKind

/-- A variant by its name, with the integer it carries if it carries one. -/
structure Variant where
  name : String
  payload : Option IntegerKind := none
  deriving DecidableEq, Repr

inductive Scalar where
  | integer (kind : IntegerKind)
  | flag
  | text
  | choice (variants : List Variant)
  deriving DecidableEq, Repr

inductive Datum where
  | integer (value : Int)
  | flag (value : Bool)
  | text (value : String)
  | variant (name : String) (payload : Option Int)
  deriving DecidableEq, Repr, Inhabited

/-- A field of a record. A field with a default may be left out. -/
structure Field where
  name : String
  scalar : Scalar
  default? : Option Datum := none
  deriving DecidableEq, Repr

structure Record where
  name : String
  fields : List Field
  /-- Whether fields other than these are refused; otherwise they are skipped. -/
  closed : Bool := false
  deriving DecidableEq, Repr

def Record.fieldNames (record : Record) : List String := record.fields.map (·.name)

inductive Shape where
  | scalar (scalar : Scalar)
  | record (record : Record)
  deriving DecidableEq, Repr

/-- The data of a text: one value, or those of a record in the order of its fields. -/
inductive Data where
  | scalar (datum : Datum)
  | record (data : List Datum)
  deriving DecidableEq, Repr

/-- Whether a datum is one that a scalar describes. -/
def Scalar.Fits : Scalar → Datum → Prop
  | integer kind, .integer value => kind.Holds value
  | flag, .flag _ => True
  | text, .text _ => True
  | choice variants, .variant name none => ∃ v ∈ variants, v.name = name ∧ v.payload = none
  | choice variants, .variant name (some value) =>
      ∃ v ∈ variants, v.name = name ∧ ∃ kind, v.payload = some kind ∧ kind.Holds value
  | _, _ => False

/-- Whether data are those of the fields, in their order. -/
def FieldsFit : List Field → List Datum → Prop
  | [], [] => True
  | field :: fields, datum :: data => field.scalar.Fits datum ∧ FieldsFit fields data
  | _, _ => False

/-- Whether data are what a shape describes. -/
def Shape.Fits : Shape → Data → Prop
  | scalar s, .scalar datum => s.Fits datum
  | record r, .record data => FieldsFit r.fields data
  | _, _ => False

end AudioCapture.Json
