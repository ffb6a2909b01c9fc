import Mathlib.Data.List.Nodup
import AudioCapture.Json.Form
import AudioCapture.Proofs.Json.Scan

/-!
# Reading back what was written

Data that fit a shape are read back from their text, if the shape is sound: the names in it tell
its variants and its fields apart, and 64 bits hold its integers (`Shape.Sound`). So every value
with a JSON form is got back from its text (`parse_render`), and a configuration from a text is
refused for its own fault only (`round_trip`).

* `takes_readScalar` — values, with one case for each kind of scalar;
* `readMembers_writeOn` — the members of an object, by induction on the fields to come;
* `read_write` — whole texts.
-/

namespace AudioCapture.Json

/-! ## Sound shapes -/

structure Variants.Sound (variants : List Variant) : Prop where
  names : (variants.map (·.name)).Nodup
  narrow : ∀ variant ∈ variants, ∀ kind ∈ variant.payload, kind.Narrow

def Scalar.Sound : Scalar → Prop
  | integer kind => kind.Narrow
  | flag => True
  | text => True
  | choice variants => Variants.Sound variants

structure Record.Sound (record : Record) : Prop where
  names : record.fieldNames.Nodup
  scalars : ∀ field ∈ record.fields, field.scalar.Sound

def Shape.Sound : Shape → Prop
  | scalar s => s.Sound
  | record r => r.Sound

instance (variants : List Variant) : Decidable (Variants.Sound variants) :=
  decidable_of_iff ((variants.map (·.name)).Nodup ∧
      ∀ variant ∈ variants, ∀ kind ∈ variant.payload, kind.Narrow)
    ⟨fun h => ⟨h.1, h.2⟩, fun h => ⟨h.names, h.narrow⟩⟩

instance : (s : Scalar) → Decidable s.Sound
  | .integer kind => inferInstanceAs (Decidable kind.Narrow)
  | .flag => inferInstanceAs (Decidable True)
  | .text => inferInstanceAs (Decidable True)
  | .choice variants => inferInstanceAs (Decidable (Variants.Sound variants))

instance (record : Record) : Decidable record.Sound :=
  decidable_of_iff (record.fieldNames.Nodup ∧ ∀ field ∈ record.fields, field.scalar.Sound)
    ⟨fun h => ⟨h.1, h.2⟩, fun h => ⟨h.names, h.scalars⟩⟩

instance : (shape : Shape) → Decidable shape.Sound
  | .scalar s => inferInstanceAs (Decidable s.Sound)
  | .record r => inferInstanceAs (Decidable r.Sound)

/-! ## Variants -/

section Variants

variable {variants : List Variant} {variant : Variant} {cur : Cursor} {rest : List Char}

/-- A variant is found by its name. -/
theorem Variants.Sound.find?_name (sound : Variants.Sound variants) (known : variant ∈ variants) :
    variants.find? (·.name == variant.name) = some variant := by
  obtain ⟨found, search⟩ : ∃ found, variants.find? (·.name == variant.name) = some found :=
    Option.isSome_iff_exists.mp (List.find?_isSome.mpr ⟨variant, known, beq_self_eq_true _⟩)
  have named : found.name = variant.name := by simpa using List.find?_some search
  rw [search, List.inj_on_of_nodup_map sound.names (List.mem_of_find?_eq_some search) known named]

theorem readVariantName_writeText (sound : Variants.Sound variants) (known : variant ∈ variants)
    (begins : cur.rest = writeText variant.name ++ rest) (ends : Ends rest) :
    ∃ after, readVariantName variants cur = .ok (variant, after) ∧ after.rest = rest := by
  obtain ⟨after, got, left⟩ := takes_readQuoted "variant identifier" _ cur rest begins ends
  refine ⟨after, ?_, left⟩
  simp only [readVariantName, got, sound.find?_name known]

theorem readChoice_name (sound : Variants.Sound variants) (known : variant ∈ variants)
    (bare : variant.payload = none) (begins : cur.rest = writeText variant.name ++ rest)
    (ends : Ends rest) :
    ∃ after, readChoice variants cur = .ok (.variant variant.name none, after) ∧
      after.rest = rest := by
  obtain ⟨after, got, left⟩ := readVariantName_writeText sound known begins ends
  refine ⟨after, ?_, left⟩
  rw [writeText_append] at begins
  simp [readChoice, Cursor.skipBlanks_eq_self begins (by decide), begins, got, bare]

/-- A colon that was written right behind a name. -/
theorem Cursor.colon_eq (begins : cur.rest = ':' :: rest) : cur.colon = .ok cur.next := by
  simp [Cursor.colon, Cursor.skipBlanks_eq_self begins (by decide), begins]

theorem readChoice_payload (sound : Variants.Sound variants) (known : variant ∈ variants)
    {kind : IntegerKind} (carries : variant.payload = some kind) {value : Int}
    (held : kind.Holds value)
    (begins : cur.rest = (Datum.variant variant.name (some value)).write ++ rest) :
    ∃ after, readChoice variants cur = .ok (.variant variant.name (some value), after) ∧
      after.rest = rest := by
  have opens : cur.rest =
      '\x7b' :: (writeText variant.name ++ ':' :: (writeInteger value ++ '\x7d' :: rest)) := by
    simpa [Datum.write] using begins
  have name := Cursor.rest_next opens
  have nameAt : openVariantName cur.next = .ok cur.next := by
    rw [writeText_append] at name
    simp [openVariantName, Cursor.skipBlanks_eq_self name (by decide), name]
  obtain ⟨colonAt, named, colon⟩ := readVariantName_writeText sound known name
    (ends_cons (by decide) _)
  obtain ⟨closeAt, got, close⟩ := takes_readInteger
    (sound.narrow variant known kind (carries ▸ rfl)) held colonAt.next _
    (Cursor.rest_next colon) (ends_cons (by decide) rest)
  have payload : readPayload variant colonAt.next =
      .ok (.variant variant.name (some value), closeAt) := by
    simp only [readPayload, carries, got]
  have closed : closeLongVariant (.variant variant.name (some value)) closeAt =
      .ok (.variant variant.name (some value), closeAt.next) := by
    simp [closeLongVariant, Cursor.skipBlanks_eq_self close (by decide), close]
  refine ⟨closeAt.next, ?_, Cursor.rest_next close⟩
  simp [readChoice, Cursor.skipBlanks_eq_self opens (by decide), opens, readLongVariant, nameAt,
    named, Cursor.colon_eq colon, payload, closed]

theorem takes_readChoice (sound : Variants.Sound variants) {datum : Datum}
    (fits : (Scalar.choice variants).Fits datum) :
    Takes (readChoice variants) datum.write datum := by
  intro cur rest begins ends
  match datum, fits with
  | .variant _ none, ⟨variant, known, rfl, bare⟩ =>
      exact readChoice_name sound known bare begins ends
  | .variant _ (some _), ⟨variant, known, rfl, kind, carries, held⟩ =>
      exact readChoice_payload sound known carries held begins

end Variants

/-- What is written for a datum that a scalar describes is what is read for it. -/
theorem takes_readScalar {scalar : Scalar} (sound : scalar.Sound) {datum : Datum}
    (fits : scalar.Fits datum) : Takes (readScalar scalar) datum.write datum := by
  cases scalar with
  | integer kind =>
      cases datum with
      | integer value =>
          intro cur rest begins ends
          obtain ⟨after, got, left⟩ := takes_readInteger sound fits cur rest begins ends
          exact ⟨after, by simp [readScalar, got, Except.map], left⟩
      | _ => exact fits.elim
  | flag =>
      cases datum with
      | flag value =>
          intro cur rest begins ends
          obtain ⟨after, got, left⟩ := takes_readFlag value cur rest begins ends
          exact ⟨after, by simp [readScalar, got, Except.map], left⟩
      | _ => exact fits.elim
  | text =>
      cases datum with
      | text value =>
          intro cur rest begins ends
          obtain ⟨after, got, left⟩ := takes_readQuoted "a string" value cur rest begins ends
          exact ⟨after, by simp [readScalar, got, Except.map], left⟩
      | _ => exact fits.elim
  | choice variants => exact takes_readChoice sound fits

/-! ## Records -/

section Records

variable {record : Record} {cur : Cursor} {rest : List Char}

/-- The members of an object with the commas before them; the first of all has none. -/
def writeOn (first : Bool) : List (String × Datum) → List Char
  | [] => []
  | (name, datum) :: members =>
      (if first then [] else [',']) ++ writeText name ++ ':' :: datum.write ++ writeOn false members

theorem writeOn_false (member : String × Datum) (members : List (String × Datum)) :
    writeOn false (member :: members) = ',' :: writeOn true (member :: members) := by
  simp [writeOn]

theorem writeMembers_eq (members : List (String × Datum)) :
    writeMembers members = writeOn true members := by
  fun_induction writeMembers members with
  | case1 => rfl
  | case2 name datum => simp [writeOn]
  | case3 name datum members more ih =>
      obtain ⟨member, others, rfl⟩ := List.exists_cons_of_ne_nil more
      rw [ih, ← writeOn_false]
      simp [writeOn]

theorem ends_writeOn (members : List (String × Datum)) (rest : List Char) :
    Ends (writeOn false members ++ '\x7d' :: rest) := by
  cases members with
  | nil => exact ends_cons (by decide) rest
  | cons member members => simpa [writeOn] using ends_cons (by decide) _

theorem length_le_writeOn (first : Bool) (members : List (String × Datum)) :
    members.length ≤ (writeOn first members).length := by
  induction members generalizing first with
  | nil => exact Nat.le_refl _
  | cons member members ih =>
      have := ih false
      simp only [writeOn, List.length_append, List.length_cons]
      omega

theorem nextKey_brace (begins : cur.rest = '\x7d' :: rest) (first : Bool) :
    nextKey first cur = .ok (false, cur) := by
  simp [nextKey, Cursor.skipBlanks_eq_self begins (by decide), begins]

theorem nextKey_writeOn {first : Bool} {name : String} {datum : Datum}
    {members : List (String × Datum)}
    (begins : cur.rest = writeOn first ((name, datum) :: members) ++ rest) :
    ∃ keyAt, nextKey first cur = .ok (true, keyAt) ∧
      keyAt.rest =
        writeText name ++ ':' :: (datum.write ++ (writeOn false members ++ rest)) := by
  have key : cur.rest = (if first then [] else [',']) ++
      (writeText name ++ ':' :: (datum.write ++ (writeOn false members ++ rest))) := by
    simpa [writeOn] using begins
  cases first with
  | true =>
      refine ⟨cur, ?_, key⟩
      rw [if_pos rfl, List.nil_append, writeText_append] at key
      simp [nextKey, Cursor.skipBlanks_eq_self key (by decide), key]
  | false =>
      have next := Cursor.rest_next key
      refine ⟨cur.next, ?_, next⟩
      rw [writeText_append] at next
      simp [nextKey, Cursor.skipBlanks_eq_self key (by decide), key,
        Cursor.skipBlanks_eq_self next (by decide), next]

/-- A field is found by its name, behind those that come before it. -/
theorem Record.Sound.findIdx?_name (sound : record.Sound) {before after : List Field}
    {field : Field} (split : record.fields = before ++ field :: after) :
    record.fields.findIdx? (·.name == field.name) = some before.length := by
  have names := sound.names
  rw [Record.fieldNames, split, List.map_append, List.map_cons, List.nodup_append] at names
  have others : ∀ other ∈ before, (other.name == field.name) = false := fun other here =>
    beq_eq_false_iff_ne.mpr
      (names.2.2 other.name (List.mem_map_of_mem here) field.name List.mem_cons_self)
  rw [split, List.findIdx?_append, List.findIdx?_eq_none_iff.mpr others, List.findIdx?_cons,
    beq_self_eq_true]
  simp

/-- The slots when the first fields have been met. -/
def slotsAfter (met : List Datum) (fields : List Field) : Slots :=
  met.map some ++ fields.map fun _ => none

theorem readMember_write (sound : record.Sound) {before after : List Field} {field : Field}
    (split : record.fields = before ++ field :: after) {met : List Datum}
    (even : met.length = before.length) {datum : Datum} (fits : field.scalar.Fits datum)
    (begins : cur.rest = ':' :: (datum.write ++ rest)) (ends : Ends rest) :
    ∃ valueEnd, readMember record field.name (slotsAfter met (field :: after)) cur =
      .ok (slotsAfter (met ++ [datum]) after, valueEnd) ∧ valueEnd.rest = rest := by
  have known : field ∈ record.fields := by simp [split]
  obtain ⟨valueEnd, got, left⟩ := takes_readScalar (sound.scalars field known) fits cur.next rest
    (Cursor.rest_next begins) ends
  have slot : (slotsAfter met (field :: after))[before.length]? = some none := by
    simp [slotsAfter, ← even]
  have place : record.fields[before.length]? = some field := by simp [split]
  have filled : (slotsAfter met (field :: after)).set before.length (some datum) =
      slotsAfter (met ++ [datum]) after := by
    simp [slotsAfter, ← even, List.set_append_right]
  refine ⟨valueEnd, ?_, left⟩
  simp only [readMember, sound.findIdx?_name split, slot, place, Cursor.colon_eq begins, got,
    filled]

/-- The members of the fields to come fill their slots, whichever of them comes first. -/
theorem readMembers_writeOn (sound : record.Sound) {fields : List Field} {data : List Datum}
    (fits : FieldsFit fields data) {before : List Field} (split : record.fields = before ++ fields)
    {met : List Datum} (even : met.length = before.length) (first : Bool) {fuel : Nat}
    (enough : fields.length < fuel)
    (begins : cur.rest = writeOn first ((fields.map (·.name)).zip data) ++ '\x7d' :: rest) :
    ∃ after, readMembers record fuel first (slotsAfter met fields) cur =
      .ok (slotsAfter (met ++ data) [], after) ∧ after.rest = '\x7d' :: rest := by
  obtain ⟨fuel, rfl⟩ := Nat.exists_eq_succ_of_ne_zero (Nat.ne_of_gt (Nat.zero_lt_of_lt enough))
  induction fields, data using FieldsFit.induct generalizing before met first fuel cur with
  | case1 =>
      refine ⟨cur, ?_, begins⟩
      simp only [readMembers, nextKey_brace begins, List.append_nil]
  | case2 field fields datum data ih =>
      obtain ⟨keyAt, key, atKey⟩ := nextKey_writeOn begins
      obtain ⟨colonAt, name, colon⟩ := readText_writeText atKey
      obtain ⟨valueEnd, member, others⟩ :=
        readMember_write sound split even fits.1 colon (ends_writeOn _ rest)
      have fewer : fields.length < fuel := Nat.lt_of_succ_lt_succ enough
      have splitNext : record.fields = (before ++ [field]) ++ fields := by simpa using split
      have evenNext : (met ++ [datum]).length = (before ++ [field]).length := by simp [even]
      obtain ⟨fuel, rfl⟩ := Nat.exists_eq_succ_of_ne_zero (Nat.ne_of_gt (Nat.zero_lt_of_lt fewer))
      obtain ⟨after, got, left⟩ := ih fits.2 splitNext evenNext false others fuel fewer
      refine ⟨after, ?_, left⟩
      rw [readMembers]
      simp only [key, name, member, got, List.append_assoc, List.singleton_append]
  | case3 => simp_all [FieldsFit]

theorem complete_slotsAfter {fields : List Field} {data : List Datum}
    (fits : FieldsFit fields data) : complete fields (slotsAfter data []) = .ok data := by
  induction fields, data using FieldsFit.induct with
  | case1 => rfl
  | case2 field fields datum data ih =>
      have rest := ih fits.2
      simp only [slotsAfter, List.map_nil, List.append_nil] at rest ⊢
      simp [complete, rest, Except.map]
  | case3 => simp_all [FieldsFit]

theorem FieldsFit.length_eq {fields : List Field} {data : List Datum}
    (fits : FieldsFit fields data) : fields.length = data.length := by
  induction fields, data using FieldsFit.induct with
  | case1 => rfl
  | case2 field fields datum data ih => exact congrArg (· + 1) (ih fits.2)
  | case3 => simp_all [FieldsFit]

theorem takes_readRecord (sound : record.Sound) {data : List Datum}
    (fits : FieldsFit record.fields data) :
    Takes (readRecord record) (writeChars (.record record) (.record data)) data := by
  intro cur rest begins _
  have brace : cur.rest =
      '\x7b' :: (writeOn true (record.fieldNames.zip data) ++ '\x7d' :: rest) := by
    simpa [writeChars, writeMembers_eq] using begins
  have members := Cursor.rest_next brace
  have enough : record.fields.length < cur.next.rest.length + 1 := by
    have one : (record.fieldNames.zip data).length = record.fields.length := by
      simp [Record.fieldNames, fits.length_eq]
    have := length_le_writeOn true (record.fieldNames.zip data)
    rw [members, List.length_append]
    omega
  have all : record.fields = [] ++ record.fields := rfl
  have even : ([] : List Datum).length = ([] : List Field).length := rfl
  obtain ⟨closeAt, got, close⟩ := readMembers_writeOn sound fits all even true enough members
  have object : readObject record cur.next = .ok (data, closeAt) := by
    simp only [slotsAfter, List.map_nil, List.nil_append] at got
    have full := complete_slotsAfter fits
    simp only [slotsAfter, List.map_nil] at full
    simp only [readObject, got, full]
  refine ⟨closeAt.next, ?_, Cursor.rest_next close⟩
  simp [readRecord, Cursor.skipBlanks_eq_self brace (by decide), brace, object, closeRecord,
    endObject, Cursor.skipBlanks_eq_self close (by decide), close]

end Records

/-! ## Whole texts -/

theorem takes_readShape {shape : Shape} (sound : shape.Sound) {data : Data}
    (fits : shape.Fits data) : Takes (readShape shape) (writeChars shape data) data := by
  intro cur rest begins ends
  match shape, data, fits with
  | .scalar scalar, .scalar datum, fits =>
      obtain ⟨after, got, left⟩ := takes_readScalar sound fits cur rest begins ends
      exact ⟨after, by simp [readShape, got, Except.map], left⟩
  | .record record, .record data, fits =>
      obtain ⟨after, got, left⟩ := takes_readRecord sound fits cur rest begins ends
      exact ⟨after, by simp [readShape, got, Except.map], left⟩

/-- Data that fit a sound shape are read back from their text. -/
theorem read_write {shape : Shape} (sound : shape.Sound) {data : Data} (fits : shape.Fits data) :
    read shape (write shape data) = .ok data := by
  have begins : (Cursor.start (write shape data)).rest = writeChars shape data ++ [] := by
    simp [Cursor.start, write]
  obtain ⟨after, got, left⟩ := takes_readShape sound fits _ [] begins ends_nil
  have nothing : after.skipBlanks.rest = [] := by rw [Cursor.skipBlanks, left]; rfl
  simp [read, got, nothing]

end AudioCapture.Json

namespace AudioCapture

open Json

/-! ## Values -/

theorem JsonForm.parse_render {α : Type} [JsonForm α] (sound : (shape α).Sound) (value : α) :
    parse α (render value) = .ok value := by
  rw [parse, render, read_write sound (fits value)]
  exact congrArg Except.ok (ofData_toData value)

theorem SessionConfig.ofJson_render (config : SessionConfig) :
    SessionConfig.ofJson (JsonForm.render config) =
      match config.fault? with
      | some fault => .error (.invalidArguments fault.message)
      | none => .ok config := by
  have got : JsonForm.parse SessionConfig (JsonForm.render config) = .ok config :=
    JsonForm.parse_render (by decide) config
  cases fault : config.fault? with
  | none => simp only [SessionConfig.ofJson, got, fault]
  | some fault => simp only [SessionConfig.ofJson, got, fault]

/-- Values are read back from their text, whatever integers and characters they hold. A
configuration that was written is accepted exactly when its limits are acceptable, and otherwise
refused with the words for what is wrong with them. -/
theorem JsonForm.round_trip :
    (∀ v : ThreadPriority, parse ThreadPriority (render v) = .ok v) ∧
    (∀ v : AudioFormat, parse AudioFormat (render v) = .ok v) ∧
    (∀ v : ChannelMask, parse ChannelMask (render v) = .ok v) ∧
    (∀ v : AudioProperties, parse AudioProperties (render v) = .ok v) ∧
    (∀ v : DeviceAddress, parse DeviceAddress (render v) = .ok v) ∧
    (∀ v : InputSource, parse InputSource (render v) = .ok v) ∧
    (∀ v : CapturePosition, parse CapturePosition (render v) = .ok v) ∧
    (∀ v : ParameterValue, parse ParameterValue (render v) = .ok v) ∧
    (∀ v : ResultCode, parse ResultCode (render v) = .ok v) ∧
    (∀ v : ReadOutcome, parse ReadOutcome (render v) = .ok v) ∧
    (∀ v : SessionState, parse SessionState (render v) = .ok v) ∧
    (∀ v : WorkerState, parse WorkerState (render v) = .ok v) ∧
    (∀ v : SessionConfig, parse SessionConfig (render v) = .ok v) ∧
    ∀ config : SessionConfig,
      (SessionConfig.ofJson (render config) = .ok config ↔ config.fault? = none) ∧
      ∀ fault, config.fault? = some fault →
        SessionConfig.ofJson (render config) = .error (.invalidArguments fault.message) := by
  refine ⟨parse_render (by decide), parse_render (by decide), parse_render (by decide),
    parse_render (by decide), parse_render (by decide), parse_render (by decide),
    parse_render (by decide), parse_render (by decide), parse_render (by decide),
    parse_render (by decide), parse_render (by decide), parse_render (by decide),
    parse_render (by decide), fun config => ⟨?_, fun fault found => ?_⟩⟩
  · rw [SessionConfig.ofJson_render]
    cases config.fault? <;> simp
  · rw [SessionConfig.ofJson_render, found]

end AudioCapture
