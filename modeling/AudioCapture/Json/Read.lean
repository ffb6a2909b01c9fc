import AudioCapture.Json.Number
import AudioCapture.Json.Shape
import AudioCapture.Json.Skip

/-!
# Reading JSON by shape

A text is read from left to right as what its shape asks for, so the first thing that does not
belong is what is reported. A record may be written as an object, with its fields in any order, or
as a list of their values.
-/

namespace AudioCapture.Json

/-- The fault of a value that is of another kind than expected; it is read first, for a fault of
its own. -/
def misfit (expected : String) (cur : Cursor) : Fault :=
  let wrong (found : Found) (after : Cursor) : Fault :=
    .placed (.wrongType found expected) after.here
  match cur.rest with
  | [] => .placed .expectedValue cur.ahead
  | c :: _ =>
      if c = 'n' then
        match cur.next.word ['u', 'l', 'l'] with
        | .error fault => fault
        | .ok after => wrong .null after
      else if c = 't' then
        match cur.next.word ['r', 'u', 'e'] with
        | .error fault => fault
        | .ok after => wrong (.flag true) after
      else if c = 'f' then
        match cur.next.word ['a', 'l', 's', 'e'] with
        | .error fault => fault
        | .ok after => wrong (.flag false) after
      else if c = '-' then
        match Number.read false cur.next with
        | .error fault => fault
        | .ok (number, after) => wrong number.found after
      else if '0' ≤ c ∧ c ≤ '9' then
        match Number.read true cur with
        | .error fault => fault
        | .ok (number, after) => wrong number.found after
      else if c = '"' then
        match readText cur.next with
        | .error fault => fault
        | .ok (text, after) => wrong (.text text) after
      else if c = '[' then wrong .list cur
      else if c = '\x7b' then wrong .object cur
      else .placed .expectedValue cur.ahead

/-- The integer of a number, if the kind holds it. -/
def integerOf (kind : IntegerKind) (number : Number) (cur : Cursor) : Reading Int :=
  let checked (value : Int) : Reading Int :=
    if kind.Holds value then .ok (value, cur)
    else cur.fail (.wrongValue (.integer value) kind.name)
  match number with
  | .natural value => checked value
  | .negative value => checked value
  | .float value => cur.fail (.wrongType (.float value) kind.name)

def readInteger (kind : IntegerKind) (cur : Cursor) : Reading Int :=
  let cur := cur.skipBlanks
  match cur.rest with
  | [] => cur.fail .endInValue
  | c :: _ =>
      if c = '-' then
        match Number.read false cur.next with
        | .error fault => .error fault
        | .ok (number, after) => integerOf kind number after
      else if '0' ≤ c ∧ c ≤ '9' then
        match Number.read true cur with
        | .error fault => .error fault
        | .ok (number, after) => integerOf kind number after
      else .error (misfit kind.name cur)

def readFlag (cur : Cursor) : Reading Bool :=
  let cur := cur.skipBlanks
  match cur.rest with
  | [] => cur.fail .endInValue
  | c :: _ =>
      if c = 't' then (cur.next.word ['r', 'u', 'e']).map (true, ·)
      else if c = 'f' then (cur.next.word ['a', 'l', 's', 'e']).map (false, ·)
      else .error (misfit "a boolean" cur)

/-- Reads a quoted text where one is expected under some name. -/
def readQuoted (expected : String) (cur : Cursor) : Reading String :=
  let cur := cur.skipBlanks
  match cur.rest with
  | [] => cur.fail .endInValue
  | c :: _ => if c = '"' then readText cur.next else .error (misfit expected cur)

/-- Reads the `null` that stands for a variant without payload. -/
def readNull (cur : Cursor) : Except Fault Cursor :=
  let cur := cur.skipBlanks
  match cur.rest with
  | [] => cur.fail .endInValue
  | c :: _ =>
      if c = 'n' then cur.next.word ['u', 'l', 'l'] else .error (misfit "unit" cur)

/-- Reads the name of one of the variants. -/
def readVariantName (variants : List Variant) (cur : Cursor) : Reading Variant :=
  match readQuoted "variant identifier" cur with
  | .error fault => .error fault
  | .ok (name, after) =>
      match variants.find? (·.name == name) with
      | some variant => .ok (variant, after)
      | none => after.fail (.unknownVariant name (variants.map (·.name)))

/-- Reads what a variant carries, as the value of its key. -/
def readPayload (variant : Variant) (cur : Cursor) : Reading Datum :=
  match variant.payload with
  | none => (readNull cur).map fun after => (.variant variant.name none, after)
  | some kind =>
      match readInteger kind cur with
      | .error fault => .error fault
      | .ok (value, after) => .ok (.variant variant.name (some value), after)

/-- Looks for the quote of the name that a variant in its long form starts with. -/
def openVariantName (cur : Cursor) : Except Fault Cursor :=
  let cur := cur.skipBlanks
  match cur.rest with
  | [] => cur.fail .endInObject
  | c :: _ =>
      if c = '"' then .ok cur
      else if c = '\x7d' then cur.failAhead .expectedValue
      else cur.failAhead .keyNotText

/-- Looks for the brace that a variant in its long form ends with. -/
def closeLongVariant (datum : Datum) (cur : Cursor) : Reading Datum :=
  let cur := cur.skipBlanks
  match cur.rest with
  | [] => cur.fail .endInObject
  | c :: _ => if c = '\x7d' then .ok (datum, cur.next) else cur.fail .expectedValue

/-- Reads a variant in its long form, behind the opening brace. -/
def readLongVariant (variants : List Variant) (cur : Cursor) : Reading Datum :=
  match openVariantName cur with
  | .error fault => .error fault
  | .ok nameAt =>
      match readVariantName variants nameAt with
      | .error fault => .error fault
      | .ok (variant, after) =>
          match after.colon with
          | .error fault => .error fault
          | .ok valueAt =>
              match readPayload variant valueAt with
              | .error fault => .error fault
              | .ok (datum, after) => closeLongVariant datum after

def readChoice (variants : List Variant) (cur : Cursor) : Reading Datum :=
  let cur := cur.skipBlanks
  match cur.rest with
  | [] => cur.fail .endInValue
  | c :: _ =>
      if c = '\x7b' then readLongVariant variants cur.next
      else if c = '"' then
        match readVariantName variants cur with
        | .error fault => .error fault
        | .ok (variant, after) =>
            if variant.payload.isNone then .ok (.variant variant.name none, after)
            else .error (.unplaced (.wrongType .bareVariant "newtype variant") after)
      else cur.failAhead .expectedValue

def readScalar (scalar : Scalar) (cur : Cursor) : Reading Datum :=
  match scalar with
  | .integer kind => (readInteger kind cur).map fun (value, after) => (.integer value, after)
  | .flag => (readFlag cur).map fun (value, after) => (.flag value, after)
  | .text => (readQuoted "a string" cur).map fun (value, after) => (.text value, after)
  | .choice variants => readChoice variants cur

/-- What a reader of a record has met: a value, or nothing yet, for each field. -/
abbrev Slots := List (Option Datum)

/-- Whether another key follows, and the cursor at its quote. -/
def nextKey (first : Bool) (cur : Cursor) : Except Fault (Bool × Cursor) :=
  let cur := cur.skipBlanks
  match cur.rest with
  | [] => cur.fail .endInObject
  | c :: _ =>
      if c = '\x7d' then .ok (false, cur)
      else if first then
        if c = '"' then .ok (true, cur) else cur.failAhead .keyNotText
      else if c = ',' then
        let cur := cur.next.skipBlanks
        match cur.rest with
        | [] => cur.fail .endInValue
        | d :: _ =>
            if d = '"' then .ok (true, cur)
            else if d = '\x7d' then cur.failAhead .trailingComma
            else cur.failAhead .keyNotText
      else cur.failAhead .expectedCommaOrBrace

/-- Reads the value of the field in place `index`, or skips that of a field the record does not
have. -/
def readMember (record : Record) (name : String) (slots : Slots) (cur : Cursor) :
    Except Fault (Slots × Cursor) :=
  match record.fields.findIdx? (·.name == name) with
  | none =>
      if record.closed then .error (.unplaced (.unknownField name record.fieldNames) cur)
      else
        match cur.colon with
        | .error fault => .error fault
        | .ok valueAt => (skipValue valueAt).map (slots, ·)
  | some index =>
      match slots[index]?, record.fields[index]? with
      | some none, some field =>
          match cur.colon with
          | .error fault => .error fault
          | .ok valueAt =>
              match readScalar field.scalar valueAt with
              | .error fault => .error fault
              | .ok (datum, after) => .ok (slots.set index (some datum), after)
      | _, _ => .error (.unplaced (.repeatedField name) cur)

/-- Reads the members of an object up to its closing brace. `fuel` bounds the characters left;
every member uses up at least one. -/
def readMembers (record : Record) : Nat → Bool → Slots → Cursor → Except Fault (Slots × Cursor)
  | 0, _, _, cur => cur.fail .endInObject
  | fuel + 1, first, slots, cur =>
      match nextKey first cur with
      | .error fault => .error fault
      | .ok (false, cur) => .ok (slots, cur)
      | .ok (true, cur) =>
          match readText cur.next with
          | .error fault => .error fault
          | .ok (name, after) =>
              match readMember record name slots after with
              | .error fault => .error fault
              | .ok (slots, after) => readMembers record fuel false slots after

/-- The values of all fields, or the name of the first that is missing. -/
def complete : List Field → Slots → Except String (List Datum)
  | [], _ => .ok []
  | field :: fields, slots =>
      match (slots.head?.join).or field.default? with
      | none => .error field.name
      | some datum => (complete fields slots.tail).map (datum :: ·)

/-- Reads a record behind its opening brace, up to the closing one. -/
def readObject (record : Record) (cur : Cursor) : Reading (List Datum) :=
  let slots := record.fields.map fun _ => none
  match readMembers record (cur.rest.length + 1) true slots cur with
  | .error fault => .error fault
  | .ok (slots, after) =>
      match complete record.fields slots with
      | .error name => .error (.unplaced (.missingField name) after)
      | .ok data => .ok (data, after)

/-- Whether another element follows, and the cursor at it. -/
def nextElement (first : Bool) (cur : Cursor) : Except Fault (Bool × Cursor) :=
  let cur := cur.skipBlanks
  match cur.rest with
  | [] => cur.fail .endInList
  | c :: _ =>
      if c = ']' then .ok (false, cur)
      else if first then .ok (true, cur)
      else if c = ',' then
        let cur := cur.next.skipBlanks
        match cur.rest with
        | [] => cur.fail .endInValue
        | d :: _ => if d = ']' then cur.failAhead .trailingComma else .ok (true, cur)
      else cur.failAhead .expectedCommaOrBracket

/-- The words for what a list in place of a record has to hold. -/
def Record.expectedLength (record : Record) : String :=
  let count := record.fields.length
  s!"struct {record.name} with {count} element" ++ if count = 1 then "" else "s"

/-- Reads the values of the fields left, in place of which come list elements; `met` counts those
behind. -/
def readElements (record : Record) : Nat → List Field → Cursor → Reading (List Datum)
  | _, [], cur => .ok ([], cur)
  | met, field :: fields, cur =>
      match nextElement (met == 0) cur with
      | .error fault => .error fault
      | .ok (true, cur) =>
          match readScalar field.scalar cur with
          | .error fault => .error fault
          | .ok (datum, after) =>
              match readElements record (met + 1) fields after with
              | .error fault => .error fault
              | .ok (data, after) => .ok (datum :: data, after)
      | .ok (false, cur) =>
          match (field :: fields).mapM (·.default?) with
          | some data => .ok (data, cur)
          | none => .error (.unplaced (.wrongLength met record.expectedLength) cur)

/-- Looks for the end of an object: what is wrong with it, if anything, and the cursor that this
leads to. -/
def endObject (cur : Cursor) : Option Fault × Cursor :=
  let cur := cur.skipBlanks
  match cur.rest with
  | [] => (some (.placed .endInObject cur.here), cur)
  | c :: _ =>
      if c = '\x7d' then (none, cur.next)
      else if c = ',' then (some (.placed .trailingComma cur.ahead), cur)
      else (some (.placed .trailingCharacters cur.ahead), cur)

/-- Looks for the end of a list. -/
def endList (cur : Cursor) : Option Fault × Cursor :=
  let cur := cur.skipBlanks
  match cur.rest with
  | [] => (some (.placed .endInList cur.here), cur)
  | c :: _ =>
      if c = ']' then (none, cur.next)
      else if c = ',' then
        let cur := cur.next.skipBlanks
        match cur.rest with
        | [] => (some (.placed .trailingCharacters cur.ahead), cur)
        | d :: _ =>
            if d = ']' then (some (.placed .trailingComma cur.ahead), cur)
            else (some (.placed .trailingCharacters cur.ahead), cur)
      else (some (.placed .trailingCharacters cur.ahead), cur)

/-- Ends a record: a fault of its own comes before one of its end, and gets its place from where
the end was looked for. -/
def closeRecord (ending : Cursor → Option Fault × Cursor) (inner : Reading (List Datum)) :
    Reading (List Datum) :=
  match inner with
  | .error (.placed reason position) => .error (.placed reason position)
  | .error (.unplaced reason cur) => .error (.placed reason (ending cur).2.here)
  | .ok (data, cur) =>
      match ending cur with
      | (some fault, _) => .error fault
      | (none, after) => .ok (data, after)

def readRecord (record : Record) (cur : Cursor) : Reading (List Datum) :=
  let cur := cur.skipBlanks
  match cur.rest with
  | [] => cur.fail .endInValue
  | c :: _ =>
      if c = '[' then closeRecord endList (readElements record 0 record.fields cur.next)
      else if c = '\x7b' then closeRecord endObject (readObject record cur.next)
      else .error (misfit ("struct " ++ record.name) cur)

def readShape (shape : Shape) (cur : Cursor) : Reading Data :=
  match shape with
  | .scalar scalar => (readScalar scalar cur).map fun (datum, after) => (.scalar datum, after)
  | .record record => (readRecord record cur).map fun (data, after) => (.record data, after)

/-- Reads a whole text by its shape. -/
def read (shape : Shape) (text : String) : Except Fault Data :=
  match readShape shape (.start text) with
  | .error fault => .error fault
  | .ok (data, after) =>
      let last := after.skipBlanks
      if last.rest.isEmpty then .ok data else last.failAhead .trailingCharacters

end AudioCapture.Json
