import AudioCapture.Proofs.Json.RoundTrip
import AudioCapture.Proofs.Text.Numeral

/-!
# The grammar of JSON

What a JSON text says (`Value`), and every way to write that down (`Writes`): blanks between the
parts, texts in any of their spellings (`Spells`), numbers with decimals and an exponent. A
reader for integers or flags takes a value if it is one that its scalar holds (`Value.held?`), and
refuses every other value at the latest when that has been read.

* `Number.read_numeral` — numbers: what has decimals or an exponent is never an integer;
* `comes_readScalar` — what a reader makes of a value, whether it is held or not.
-/

namespace AudioCapture.Json

/-! ## Values and their texts -/

inductive Value where
  | null
  | flag (value : Bool)
  /-- A number: its sign, its whole part, and its decimals and exponent as they are written. -/
  | number (negative : Bool) (whole : Nat) (tail : List Char)
  | text (value : String)
  | list (items : List Value)
  /-- The members in their order; a key may come more than once. -/
  | object (members : List (String × Value))

/-- Blanks, or nothing. -/
def Gap (text : List Char) : Prop := ∀ c ∈ text, Cursor.isBlank c = true

instance : DecidablePred Gap := fun text =>
  decidable_of_iff (text.all Cursor.isBlank = true) List.all_eq_true

/-- A point and digits, or nothing. -/
inductive Decimals : List Char → Prop
  | none : Decimals []
  | some {digits : List Char} : Text.IsDigits digits → Decimals ('.' :: digits)

/-- A power of ten, or nothing. -/
inductive Exponent : List Char → Prop
  | none : Exponent []
  | some {mark : Char} {sign digits : List Char} : mark = 'e' ∨ mark = 'E' →
      sign ∈ [[], ['+'], ['-']] → Text.IsDigits digits → Exponent (mark :: (sign ++ digits))

/-- One or more values with commas between them and blanks around each. -/
inductive Elements (writes : Value → List Char → Prop) : List Value → List Char → Prop
  | last {value : Value} {before text after : List Char} : Gap before → writes value text →
      Gap after → Elements writes [value] (before ++ (text ++ after))
  | more {value : Value} {values : List Value} {before text after rest : List Char} :
      Gap before → writes value text → Gap after → Elements writes values rest →
      Elements writes (value :: values) (before ++ (text ++ (after ++ ',' :: rest)))

/-- A key in quotes and a colon, with blanks around the key and behind the colon. -/
inductive Key (name : String) : List Char → Prop
  | mk {before spelled behind front : List Char} : Gap before → Spells spelled name.toList →
      Gap behind → Gap front →
      Key name (before ++ '"' :: (spelled ++ '"' :: (behind ++ ':' :: front)))

/-- One or more members with commas between them. -/
inductive Members (writes : Value → List Char → Prop) :
    List (String × Value) → List Char → Prop
  | last {name : String} {value : Value} {key text after : List Char} : Key name key →
      writes value text → Gap after → Members writes [(name, value)] (key ++ (text ++ after))
  | more {name : String} {value : Value} {members : List (String × Value)}
      {key text after rest : List Char} : Key name key → writes value text → Gap after →
      Members writes members rest →
      Members writes ((name, value) :: members) (key ++ (text ++ (after ++ ',' :: rest)))

/-- The texts of a value. -/
inductive Writes : Value → List Char → Prop
  | null : Writes .null ['n', 'u', 'l', 'l']
  | flag (value : Bool) : Writes (.flag value) (Datum.flag value).write
  | number (negative : Bool) (whole : Nat) {decimals exponent : List Char} : Decimals decimals →
      Exponent exponent → Writes (.number negative whole (decimals ++ exponent))
        ((if negative then ['-'] else []) ++ (Nat.toDigits 10 whole ++ (decimals ++ exponent)))
  | text {value : String} {spelled : List Char} : Spells spelled value.toList →
      Writes (.text value) ('"' :: (spelled ++ ['"']))
  | emptyList {gap : List Char} : Gap gap → Writes (.list []) ('[' :: (gap ++ [']']))
  | list {items : List Value} {text : List Char} : Elements Writes items text →
      Writes (.list items) ('[' :: (text ++ [']']))
  | emptyObject {gap : List Char} : Gap gap → Writes (.object []) ('\x7b' :: (gap ++ ['\x7d']))
  | object {members : List (String × Value)} {text : List Char} :
      Members Writes members text →
      Writes (.object members) ('\x7b' :: (text ++ ['\x7d']))

/-- A whole text: a value with blanks around it. -/
def Document (value : Value) (text : String) : Prop :=
  ∃ before body after, Gap before ∧ Writes value body ∧ Gap after ∧
    text.toList = before ++ (body ++ after)

/-! ## Blanks -/

/-- A text that does not begin with a blank. -/
def Solid (text : List Char) : Prop := ∀ c ∈ text.head?, Cursor.isBlank c = false

theorem solid_cons {c : Char} (solid : Cursor.isBlank c = false) (rest : List Char) :
    Solid (c :: rest) := by
  simpa [Solid] using solid

theorem not_continuesNumber_of_isBlank {c : Char} (blank : Cursor.isBlank c = true) :
    continuesNumber c = false := by
  simp only [Cursor.isBlank, Bool.or_eq_true, beq_iff_eq] at blank
  rcases blank with ((rfl | rfl) | rfl) | rfl <;> decide

theorem Ends.gap {gap rest : List Char} (blank : Gap gap) (ends : Ends rest) :
    Ends (gap ++ rest) := by
  cases gap with
  | nil => exact ends
  | cons c gap =>
      exact ends_cons (not_continuesNumber_of_isBlank (blank c List.mem_cons_self)) _

namespace Cursor

variable {cur : Cursor} {gap rest : List Char}

theorem rest_skipBlanksIn (blank : Gap gap) (solid : Solid rest) (line column : Nat) :
    (skipBlanksIn (gap ++ rest) line column).rest = rest := by
  induction gap generalizing line column with
  | nil =>
      cases rest with
      | nil => rfl
      | cons c rest =>
          have here : isBlank c = false := solid c rfl
          have noBreak : c ≠ '\n' := by rintro rfl; simp [isBlank] at here
          simp [skipBlanksIn, here, noBreak]
  | cons c gap ih =>
      have here : isBlank c = true := blank c List.mem_cons_self
      have later := ih fun d member => blank d (List.mem_cons_of_mem c member)
      rw [List.cons_append, skipBlanksIn, if_pos here]
      split
      · exact later _ _
      · exact later _ _

theorem rest_skipBlanks (begins : cur.rest = gap ++ rest) (blank : Gap gap) (solid : Solid rest) :
    cur.skipBlanks.rest = rest := by
  rw [skipBlanks, begins]
  exact rest_skipBlanksIn blank solid _ _

end Cursor

/-! ## Numbers -/

namespace Number

variable {positive : Bool} {significand : Nat} {start : Int} {cur after : Cursor} {number : Number}

theorem float_of_ofParts (got : ofParts positive significand start cur = .ok (number, after)) :
    ∃ value, number = .float value := by
  unfold ofParts at got
  split at got
  · cases got
    exact ⟨_, rfl⟩
  · cases got

theorem float_of_readExponent
    (got : readExponent positive significand start cur = .ok (number, after)) :
    ∃ value, number = .float value := by
  unfold readExponent at got
  simp only [Cursor.fail, Cursor.failAhead] at got
  repeat' split at got
  all_goals first
    | exact float_of_ofParts got
    | cases got
  all_goals exact ⟨_, rfl⟩

theorem float_of_readDecimals
    (got : readDecimals positive significand start cur = .ok (number, after)) :
    ∃ value, number = .float value := by
  unfold readDecimals at got
  simp only at got
  split at got
  · split at got <;> cases got
  · split at got
    · exact float_of_readExponent got
    · exact float_of_ofParts got

/-- Digits of which none had to be dropped were all gathered. -/
theorem gather_inv {digits : List Nat} (small : significand ≤ maxSignificand)
    (all : (gather significand digits).2 = []) :
    (gather significand digits).1 = appendDigits significand digits ∧
      (gather significand digits).1 ≤ maxSignificand := by
  induction digits generalizing significand with
  | nil => exact ⟨rfl, small⟩
  | cons digit digits ih =>
      rw [gather] at all ⊢
      split
      · rename_i next
        rw [if_pos next] at all
        exact ih next all
      · rename_i next
        rw [if_neg next] at all
        cases all

/-- What is behind the digits of an integer, and that its digits were all gathered. -/
theorem read_inv {digits : List Nat} (found : cur.digits = (digits, after))
    (front : digits = [0] ∨ ∃ first more, digits = (first + 1) :: more) {ending : Cursor}
    (got : read positive cur = .ok (number, ending)) :
    (∃ value, number = .float value) ∨
      (∀ c ∈ after.rest.head?, c ≠ '.' ∧ c ≠ 'e' ∧ c ≠ 'E') ∧ (gather 0 digits).2 = [] ∧
        number = ofDigits positive (gather 0 digits).1 := by
  rw [read_eq found front] at got
  split at got
  · exact .inl (float_of_readDecimals got)
  · rename_i undotted
    split at got
    · exact .inl (float_of_readExponent got)
    · rename_i unmarked
      split at got
      · rename_i all
        cases got
        refine .inr ⟨?_, List.isEmpty_iff.1 all, rfl⟩
        intro c first
        have noPoint : c ≠ '.' := by
          rintro rfl
          exact undotted first
        cases shape : after.rest with
        | nil => simp [shape] at first
        | cons d rest =>
            obtain rfl : d = c := by simpa [shape] using first
            simp only [isExponentMark, shape, Bool.or_eq_true, beq_iff_eq, not_or] at unmarked
            exact ⟨noPoint, unmarked⟩
      · exact .inl (float_of_ofParts got)

end Number

section Tails

variable {decimals exponent rest : List Char}

/-- What is behind the digits of a number does not go on with them. -/
theorem digitsEnd_tail (point : Decimals decimals) (power : Exponent exponent) (ends : Ends rest) :
    DigitsEnd (decimals ++ exponent ++ rest) := by
  intro c first
  cases point with
  | some => cases first; decide
  | none =>
      cases power with
      | none => exact ends.digitsEnd c first
      | some mark =>
          cases first
          rcases mark with rfl | rfl <;> decide

theorem tail_eq_nil (point : Decimals decimals) (power : Exponent exponent)
    (plain : ∀ c ∈ (decimals ++ exponent ++ rest).head?, c ≠ '.' ∧ c ≠ 'e' ∧ c ≠ 'E') :
    decimals ++ exponent = [] := by
  cases point with
  | some => exact absurd rfl (plain '.' rfl).1
  | none =>
      cases power with
      | none => rfl
      | some mark =>
          obtain ⟨-, small, large⟩ := plain _ rfl
          exact absurd mark (by simp [small, large])

/-- A number is read as a floating-point number unless it is an integer of at most 64 bits. -/
theorem Number.read_numeral {positive : Bool} {whole : Nat} {cur ending : Cursor} {number : Number}
    (point : Decimals decimals) (power : Exponent exponent)
    (begins : cur.rest = Nat.toDigits 10 whole ++ (decimals ++ exponent ++ rest))
    (ends : Ends rest) (got : read positive cur = .ok (number, ending)) :
    (∃ value, number = .float value) ∨ decimals ++ exponent = [] ∧ whole ≤ maxSignificand ∧
      number = ofDigits positive whole := by
  have digits := Text.isDigits_toDigits whole
  obtain ⟨after, found, left⟩ :=
    Cursor.digits_append digits.all begins (digitsEnd_tail point power ends)
  obtain float | ⟨plain, all, same⟩ := read_inv found (digits_front whole) got
  · exact .inl float
  · obtain ⟨value, small⟩ := gather_inv (Nat.zero_le _) all
    rw [appendDigits_toDigits] at value
    rw [left] at plain
    exact .inr ⟨tail_eq_nil point power plain, value ▸ small, value ▸ same⟩

end Tails

/-! ## Values that a field holds -/

/-- The datum that a value is for an integer or a flag, if it is one that the scalar holds. An
integer has neither decimals nor an exponent, and zero has no sign. -/
def Value.held? : Value → Scalar → Option Datum
  | number false whole [], .integer kind =>
      if kind.Holds whole then some (.integer whole) else none
  | number true whole [], .integer kind =>
      if 0 < whole ∧ kind.Holds (-whole) then some (.integer (-whole)) else none
  | flag value, .flag => some (.flag value)
  | _, _ => none

/-- Integers that 64 bits hold, and flags. -/
def Scalar.Plain : Scalar → Prop
  | integer kind => kind.Narrow
  | flag => True
  | _ => False

instance : (s : Scalar) → Decidable s.Plain
  | .integer kind => inferInstanceAs (Decidable kind.Narrow)
  | .flag => inferInstanceAs (Decidable True)
  | .text | .choice _ => inferInstanceAs (Decidable False)

/-- What reading comes to: the value that is due, with the text behind it left, or a fault. -/
inductive Comes {α : Type} (rest : List Char) : Option α → Reading α → Prop
  | value {value : α} {after : Cursor} : after.rest = rest →
      Comes rest (some value) (.ok (value, after))
  | refused (fault : Fault) : Comes rest none (.error fault)

section Values

variable {value : Value} {text front rest : List Char} {kind : IntegerKind} {scalar : Scalar}
  {cur : Cursor} {datum : Datum}

/-- The first character tells numbers and flags from other values, and from blanks. -/
theorem Writes.eq_cons (writes : Writes value text) : ∃ c more, text = c :: more ∧
    Cursor.isBlank c = false ∧
    (c = '-' ∨ c.isDigit = true → ∃ negative whole tail, value = .number negative whole tail) ∧
    (c = 't' ∨ c = 'f' → ∃ b, value = .flag b) := by
  cases writes with
  | null =>
      exact ⟨_, _, rfl, by decide, fun first => absurd first (by decide),
        fun first => absurd first (by decide)⟩
  | flag b =>
      cases b <;>
        exact ⟨_, _, rfl, by decide, fun first => absurd first (by decide), fun _ => ⟨_, rfl⟩⟩
  | number negative whole =>
      cases negative with
      | true =>
          exact ⟨_, _, rfl, by decide, fun _ => ⟨_, _, _, rfl⟩,
            fun first => absurd first (by decide)⟩
      | false =>
          obtain ⟨c, more, same⟩ := List.exists_cons_of_ne_nil (Text.isDigits_toDigits whole).ne_nil
          have digit := (Text.isDigits_toDigits whole).all c (same ▸ List.mem_cons_self)
          refine ⟨c, _, by rw [same]; rfl, Cursor.isBlank_of_isDigit digit,
            fun _ => ⟨_, _, _, rfl⟩, ?_⟩
          rintro (rfl | rfl) <;> exact absurd digit (by decide)
  | text | emptyList | list | emptyObject | object =>
      exact ⟨_, _, rfl, by decide, fun first => absurd first (by decide),
        fun first => absurd first (by decide)⟩

theorem Writes.solid (writes : Writes value text) (rest : List Char) : Solid (text ++ rest) := by
  obtain ⟨c, more, rfl, solid, -⟩ := writes.eq_cons
  exact solid_cons solid _

/-- The value that is held is an integer without decimals or exponent, or a flag. -/
theorem Value.held?_eq_some (held : value.held? scalar = some datum) :
    (∃ kind whole, scalar = .integer kind ∧ value = .number false whole [] ∧
      kind.Holds whole ∧ datum = .integer whole) ∨
    (∃ kind whole, scalar = .integer kind ∧ value = .number true whole [] ∧ 0 < whole ∧
      kind.Holds (-whole) ∧ datum = .integer (-whole)) ∨
    ∃ b, scalar = .flag ∧ value = .flag b ∧ datum = .flag b := by
  unfold held? at held
  split at held
  · split at held
    · rename_i whole kind holds
      cases held
      exact .inl ⟨kind, whole, rfl, rfl, holds, rfl⟩
    · cases held
  · split at held
    · rename_i whole kind holds
      cases held
      exact .inr (.inl ⟨kind, whole, rfl, rfl, holds.1, holds.2, rfl⟩)
    · cases held
  · rename_i b
    cases held
    exact .inr (.inr ⟨b, rfl, rfl, rfl⟩)
  · cases held

/-- A value that a scalar holds is written as its datum would be. -/
theorem Writes.eq_write (writes : Writes value text) (held : value.held? scalar = some datum) :
    scalar.Fits datum ∧ text = datum.write := by
  obtain ⟨kind, whole, rfl, rfl, holds, rfl⟩ | ⟨kind, whole, rfl, rfl, above, holds, rfl⟩ |
    ⟨b, rfl, rfl, rfl⟩ := Value.held?_eq_some held
  · refine ⟨holds, ?_⟩
    have unsigned : ¬ (whole : Int) < 0 := by omega
    generalize tail : ([] : List Char) = none at writes
    cases writes
    rw [Datum.write, writeInteger, if_neg unsigned, ← tail]
    simp
  · refine ⟨holds, ?_⟩
    have signed : -(whole : Int) < 0 := by omega
    generalize tail : ([] : List Char) = none at writes
    cases writes
    rw [Datum.write, writeInteger, if_pos signed, ← tail]
    simp
  · refine ⟨trivial, ?_⟩
    cases writes
    rfl

theorem Scalar.Plain.sound (plain : scalar.Plain) : scalar.Sound := by
  cases scalar with
  | integer kind => exact plain
  | flag => trivial
  | _ => exact plain.elim

theorem integerOf_unheld {negative : Bool} {whole : Nat} {tail : List Char} {number : Number}
    (unheld : (Value.number negative whole tail).held? (.integer kind) = none)
    (read : (∃ v, number = .float v) ∨ tail = [] ∧ whole ≤ Number.maxSignificand ∧
      number = Number.ofDigits (!negative) whole) :
    ∃ fault, integerOf kind number cur = .error fault := by
  rcases read with ⟨v, rfl⟩ | ⟨rfl, small, rfl⟩
  · exact ⟨_, rfl⟩
  · cases negative with
    | false =>
        have outside : ¬ kind.Holds whole := by
          intro holds
          simp [Value.held?, holds] at unheld
        exact ⟨_, by
          simp only [Number.ofDigits, Bool.not_false, if_true, integerOf, if_neg outside]
          rfl⟩
    | true =>
        by_cases fits : 0 < whole ∧ whole ≤ 9223372036854775808
        · have outside : ¬ kind.Holds (-whole) := by
            intro holds
            simp [Value.held?, holds, fits.1] at unheld
          exact ⟨_, by simp [Number.ofDigits, fits, integerOf, outside]; rfl⟩
        · exact ⟨_, by simp only [Number.ofDigits, Bool.not_true, if_neg fits]; rfl⟩

/-- Integers and flags are read behind the blanks in front of them. -/
theorem readScalar_skipBlanks (plain : scalar.Plain) {c : Char} {more : List Char}
    (begins : cur.skipBlanks.rest = c :: more) (solid : Cursor.isBlank c = false) :
    readScalar scalar cur.skipBlanks = readScalar scalar cur := by
  have again := Cursor.skipBlanks_eq_self begins solid
  cases scalar with
  | integer kind => simp only [readScalar, readInteger, again]
  | flag => simp only [readScalar, readFlag, again]
  | _ => exact plain.elim

/-- A number that is not held is refused when it has been read. -/
theorem readInteger_unheld {negative : Bool} {whole : Nat} {tail : List Char}
    (writes : Writes (.number negative whole tail) text)
    (unheld : (Value.number negative whole tail).held? (.integer kind) = none)
    (begins : cur.rest = text ++ rest) (ends : Ends rest) :
    ∃ fault, readInteger kind cur = .error fault := by
  cases writes with
  | number _ _ point power =>
  cases negative with
  | true =>
      rw [if_pos rfl, List.append_assoc, List.append_assoc, List.singleton_append] at begins
      have solid := Cursor.skipBlanks_eq_self begins (by decide)
      have next := Cursor.rest_next begins
      simp only [readInteger, solid, begins, if_true]
      cases read : Number.read false cur.next with
      | error fault => exact ⟨fault, rfl⟩
      | ok result => exact integerOf_unheld unheld (Number.read_numeral point power next ends read)
  | false =>
      rw [if_neg (by decide), List.nil_append, List.append_assoc] at begins
      obtain ⟨c, more, same⟩ := List.exists_cons_of_ne_nil (Text.isDigits_toDigits whole).ne_nil
      have digit := (Text.isDigits_toDigits whole).all c (same ▸ List.mem_cons_self)
      have unsigned : c ≠ '-' := by rintro rfl; exact absurd digit (by decide)
      obtain ⟨rest', first⟩ : ∃ rest', cur.rest = c :: rest' := ⟨_, by rw [begins, same]; rfl⟩
      have solid := Cursor.skipBlanks_eq_self first (Cursor.isBlank_of_isDigit digit)
      have range := (Cursor.isDigit_iff c).1 digit
      simp only [readInteger, solid, first, if_neg unsigned, if_pos range]
      cases read : Number.read true cur with
      | error fault => exact ⟨fault, rfl⟩
      | ok result =>
          exact integerOf_unheld unheld (Number.read_numeral point power begins ends read)

/-- A value is read as the datum that the scalar holds, and refused if there is none. -/
theorem comes_readScalar (plain : scalar.Plain) (writes : Writes value text) (blank : Gap front)
    (begins : cur.rest = front ++ (text ++ rest)) (ends : Ends rest) :
    Comes rest (value.held? scalar) (readScalar scalar cur) := by
  have here := Cursor.rest_skipBlanks begins blank (writes.solid rest)
  obtain ⟨c, more, same, solid, number, flag⟩ := writes.eq_cons
  have first : cur.skipBlanks.rest = c :: (more ++ rest) := by rw [here, same]; rfl
  rw [← readScalar_skipBlanks plain first solid]
  cases held : value.held? scalar with
  | some datum =>
      obtain ⟨fits, rfl⟩ := writes.eq_write held
      obtain ⟨after, got, left⟩ := takes_readScalar plain.sound fits cur.skipBlanks rest here ends
      rw [got]
      exact .value left
  | none =>
      have again := Cursor.skipBlanks_eq_self first solid
      cases scalar with
      | integer kind =>
          by_cases numeral : c = '-' ∨ c.isDigit = true
          · obtain ⟨negative, whole, tail, rfl⟩ := number numeral
            obtain ⟨fault, refused⟩ := readInteger_unheld writes held here ends
            simp only [readScalar, refused]
            exact .refused fault
          · rw [not_or, Cursor.isDigit_iff] at numeral
            simp only [readScalar, readInteger, again, first, if_neg numeral.1, if_neg numeral.2]
            exact .refused _
      | flag =>
          have other : ¬ (c = 't' ∨ c = 'f') := by
            intro word
            obtain ⟨b, rfl⟩ := flag word
            cases held
          rw [not_or] at other
          simp only [readScalar, readFlag, again, first, if_neg other.1, if_neg other.2]
          exact .refused _
      | _ => exact plain.elim

end Values

end AudioCapture.Json
