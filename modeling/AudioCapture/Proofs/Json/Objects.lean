import AudioCapture.Proofs.Json.Grammar

/-!
# Reading objects

What a closed record of integers and flags makes of an object, however that is written. The members
are met one after the other (`Record.meet`): each fills the slot of its field, unless there is no
such field, the slot is filled already or the value is not one that the field holds.

* `comes_readMembers` — the members of an object, by induction on the way they are written;
* `read_document` — whole texts.
-/

namespace AudioCapture.Json

/-! ## Members one after the other -/

/-- The slots when one more member has been met, if it belongs to the record. -/
def Record.meet (record : Record) (slots : Slots) (member : String × Value) : Option Slots :=
  match record.fields.findIdx? (·.name == member.1) with
  | none => none
  | some index =>
      match slots[index]?, record.fields[index]? with
      | some none, some field =>
          (member.2.held? field.scalar).map fun datum => slots.set index (some datum)
      | _, _ => none

/-- The data that the members of an object make up. -/
def Record.data? (record : Record) (members : List (String × Value)) : Option (List Datum) :=
  (members.foldlM record.meet (record.fields.map fun _ => none)).bind fun slots =>
    (complete record.fields slots).toOption

/-- A record of integers and flags that has no other fields. -/
structure Record.Plain (record : Record) : Prop where
  closed : record.closed = true
  scalars : ∀ field ∈ record.fields, field.scalar.Plain

section Objects

variable {record : Record} {name : String} {value : Value} {members : List (String × Value)}
  {cur : Cursor} {before behind front text gap lead rest : List Char} {first : Bool} {slots : Slots}

theorem colon_gap (blank : Gap behind) (begins : cur.rest = behind ++ ':' :: rest) :
    ∃ after, cur.colon = .ok after ∧ after.rest = rest := by
  have here := Cursor.rest_skipBlanks begins blank (solid_cons (by decide) rest)
  exact ⟨cur.skipBlanks.next, by simp [Cursor.colon, here], Cursor.rest_next here⟩

/-- What comes before a key: nothing before the first one, a comma before the others. -/
inductive Lead : Bool → List Char → Prop
  | first : Lead true []
  | comma {gap : List Char} : Gap gap → Lead false (gap ++ [','])

theorem nextKey_key (leads : Lead first lead) (blank : Gap before)
    (begins : cur.rest = lead ++ (before ++ '"' :: rest)) :
    ∃ keyAt, nextKey first cur = .ok (true, keyAt) ∧ keyAt.rest = '"' :: rest := by
  cases leads with
  | first =>
      rw [List.nil_append] at begins
      have here := Cursor.rest_skipBlanks begins blank (solid_cons (by decide) rest)
      exact ⟨cur.skipBlanks, by simp [nextKey, here], here⟩
  | comma gapped =>
      rw [List.append_assoc, List.singleton_append] at begins
      have comma := Cursor.rest_skipBlanks begins gapped (solid_cons (by decide) _)
      have here := Cursor.rest_skipBlanks (Cursor.rest_next comma) blank
        (solid_cons (by decide) rest)
      exact ⟨cur.skipBlanks.next.skipBlanks, by simp [nextKey, comma, here], here⟩

theorem nextKey_close (first : Bool) (blank : Gap gap) (begins : cur.rest = gap ++ '\x7d' :: rest) :
    ∃ after, nextKey first cur = .ok (false, after) ∧ after.rest = '\x7d' :: rest := by
  have here := Cursor.rest_skipBlanks begins blank (solid_cons (by decide) rest)
  exact ⟨cur.skipBlanks, by simp [nextKey, here], here⟩

theorem comes_readMember (plain : record.Plain) (name : String) (slots : Slots)
    (writes : Writes value text) (hollow : Gap behind) (blank : Gap front)
    (begins : cur.rest = behind ++ ':' :: (front ++ (text ++ rest))) (ends : Ends rest) :
    Comes rest (record.meet slots (name, value)) (readMember record name slots cur) := by
  obtain ⟨valueAt, colon, here⟩ := colon_gap hollow begins
  cases found : record.fields.findIdx? (·.name == name) with
  | none =>
      simp only [Record.meet, readMember, found, plain.closed, if_true]
      exact .refused _
  | some index =>
      cases slot : slots[index]? with
      | none =>
          simp only [Record.meet, readMember, found, slot]
          exact .refused _
      | some filled =>
      cases filled with
      | some datum =>
          simp only [Record.meet, readMember, found, slot]
          exact .refused _
      | none =>
          cases known : record.fields[index]? with
          | none =>
              simp only [Record.meet, readMember, found, slot, known]
              exact .refused _
          | some field =>
              simp only [Record.meet, readMember, found, slot, known, colon]
              have scalar := plain.scalars field (List.mem_of_getElem? known)
              have comes := comes_readScalar scalar writes blank here ends
              generalize value.held? field.scalar = held at comes ⊢
              generalize readScalar field.scalar valueAt = got at comes ⊢
              cases comes with
              | value left => exact .value left
              | refused fault => exact .refused fault

/-- One member is met, with those that follow still to be read, or reading ends with a fault. -/
theorem readMembers_step (plain : record.Plain) (leads : Lead first lead) (key : Key name front)
    (writes : Writes value text) (slots : Slots)
    (begins : cur.rest = lead ++ (front ++ (text ++ rest))) (ends : Ends rest) (fuel : Nat) :
    (∃ next after, record.meet slots (name, value) = some next ∧ after.rest = rest ∧
      readMembers record (fuel + 1) first slots cur = readMembers record fuel false next after) ∨
    record.meet slots (name, value) = none ∧
      ∃ fault, readMembers record (fuel + 1) first slots cur = .error fault := by
  obtain ⟨blank, spells, hollow, inner⟩ := key
  simp only [List.append_assoc, List.cons_append] at begins
  obtain ⟨keyAt, more, quote⟩ := nextKey_key leads blank begins
  obtain ⟨nameEnd, named, colon⟩ := readText_spells spells quote
  have comes := comes_readMember plain name slots writes hollow inner colon ends
  rw [readMembers]
  simp only [more, named]
  generalize record.meet slots (name, value) = met at comes ⊢
  generalize readMember record name slots nameEnd = got at comes ⊢
  cases comes with
  | value left => exact .inl ⟨_, _, rfl, left, rfl⟩
  | refused fault => exact .inr ⟨rfl, fault, rfl⟩

/-- The members up to the closing brace are met in their order. -/
theorem comes_readMembers (plain : record.Plain) (written : Members Writes members text)
    (leads : Lead first lead) (begins : cur.rest = lead ++ (text ++ '\x7d' :: rest)) {fuel : Nat}
    (enough : members.length ≤ fuel) :
    Comes ('\x7d' :: rest) (members.foldlM record.meet slots)
      (readMembers record (fuel + 1) first slots cur) := by
  induction written generalizing cur first lead slots fuel with
  | last key writes blank =>
      cases fuel with
      | zero => exact absurd enough (Nat.not_succ_le_zero _)
      | succ fuel =>
      rw [List.append_assoc, List.append_assoc] at begins
      obtain ⟨next, after, met, left, same⟩ | ⟨unmet, fault, refused⟩ :=
        readMembers_step plain leads key writes slots begins
          (.gap blank (ends_cons (by decide) rest)) (fuel + 1)
      · obtain ⟨closeAt, close, brace⟩ := nextKey_close false blank left
        rw [same, readMembers, close]
        simp only [List.foldlM_cons, List.foldlM_nil, met]
        exact .value brace
      · rw [refused]
        simp only [List.foldlM_cons, unmet]
        exact .refused fault
  | more key writes blank written ih =>
      cases fuel with
      | zero => exact absurd enough (Nat.not_succ_le_zero _)
      | succ fuel =>
      simp only [List.append_assoc, List.cons_append] at begins
      obtain ⟨next, after, met, left, same⟩ | ⟨unmet, fault, refused⟩ :=
        readMembers_step plain leads key writes slots begins
          (.gap blank (ends_cons (by decide) _)) (fuel + 1)
      · rw [same]
        simp only [List.foldlM_cons, met]
        apply ih (.comma blank) _ (Nat.le_of_succ_le_succ enough)
        rw [left, List.append_assoc, List.singleton_append]
      · rw [refused]
        simp only [List.foldlM_cons, unmet]
        exact .refused fault

theorem Members.length_le (written : Members Writes members text) :
    members.length ≤ text.length := by
  induction written with
  | last key =>
      cases key
      simp only [List.length_cons, List.length_nil, List.length_append]
      omega
  | more key _ _ _ ih =>
      simp only [List.length_cons, List.length_append]
      omega

/-! ## Objects and whole texts -/

theorem comes_readObject (plain : record.Plain) (writes : Writes (.object members) text)
    (begins : cur.rest = text ++ rest) :
    Comes ('\x7d' :: rest) (record.data? members) (readObject record cur.next) := by
  have comes : Comes ('\x7d' :: rest)
      (members.foldlM record.meet (record.fields.map fun _ => none))
      (readMembers record (cur.next.rest.length + 1) true (record.fields.map fun _ => none)
        cur.next) := by
    cases writes with
    | emptyObject blank =>
        rw [List.cons_append, List.append_assoc, List.singleton_append] at begins
        obtain ⟨closeAt, close, brace⟩ :=
          nextKey_close true blank (Cursor.rest_next begins)
        rw [readMembers, close]
        exact .value brace
    | object written =>
        rw [List.cons_append, List.append_assoc, List.singleton_append] at begins
        have inside := Cursor.rest_next begins
        apply comes_readMembers plain written .first inside
        rw [inside, List.length_append]
        exact Nat.le_add_right_of_le written.length_le
  simp only [Record.data?, readObject]
  generalize members.foldlM record.meet (record.fields.map fun _ => none) = met at comes ⊢
  generalize readMembers record (cur.next.rest.length + 1) true
    (record.fields.map fun _ => none) cur.next = got at comes ⊢
  cases comes with
  | refused fault => exact .refused fault
  | value left =>
      simp only [Option.bind_some]
      cases complete record.fields _ with
      | ok data => exact .value left
      | error name => exact .refused _

theorem comes_readRecord (plain : record.Plain) (writes : Writes (.object members) text)
    (blank : Gap before) (begins : cur.rest = before ++ (text ++ rest)) :
    Comes rest (record.data? members) (readRecord record cur) := by
  have here := Cursor.rest_skipBlanks begins blank (writes.solid rest)
  have comes := comes_readObject plain writes here
  obtain ⟨more, brace⟩ : ∃ more, cur.skipBlanks.rest = '\x7b' :: more := by
    cases writes <;> exact ⟨_, here⟩
  have opened : readRecord record cur =
      closeRecord endObject (readObject record cur.skipBlanks.next) := by
    simp [readRecord, brace]
  rw [opened]
  generalize record.data? members = due at comes ⊢
  generalize readObject record cur.skipBlanks.next = got at comes ⊢
  cases comes with
  | value close =>
      have ended := Cursor.skipBlanks_eq_self close (by decide)
      simp only [closeRecord, endObject, ended, close, if_true]
      exact .value (Cursor.rest_next close)
  | refused fault => cases fault <;> exact .refused _

/-- The text of an object is read as the data that its members make up. -/
theorem read_document (plain : record.Plain) {document : String}
    (written : Document (.object members) document) :
    (∀ data, record.data? members = some data →
      read (.record record) document = .ok (.record data)) ∧
    (record.data? members = none → ∃ fault, read (.record record) document = .error fault) := by
  obtain ⟨before, body, after, blank, writes, ending, text⟩ := written
  have begins : (Cursor.start document).rest = before ++ (body ++ after) := text
  have comes := comes_readRecord plain writes blank begins
  simp only [read, readShape]
  generalize record.data? members = due at comes ⊢
  generalize readRecord record (.start document) = got at comes ⊢
  cases comes with
  | value left =>
      rw [← List.append_nil after] at left
      have nothing := Cursor.rest_skipBlanks left ending (by simp [Solid])
      constructor
      · intro data same
        cases same
        simp [Except.map, nothing]
      · intro none
        cases none
  | refused fault =>
      constructor
      · intro data same
        cases same
      · intro _
        exact ⟨fault, rfl⟩

end Objects

end AudioCapture.Json
