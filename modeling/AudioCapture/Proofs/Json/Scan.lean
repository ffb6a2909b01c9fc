import AudioCapture.Json.Read
import AudioCapture.Json.Write

/-!
# Reading integers, flags and texts

What the writer puts down for an integer, a truth value or a text is what the reader takes for it,
and the reader stops right behind it (`Takes`). Where it then stands in lines and columns plays no
part.

* `takes_readInteger` — digits behind a sign or none, for integers that 64 bits hold;
* `takes_readFlag` — the two words;
* `readTextAfter_spells` — texts in every spelling, each character as it is or escaped;
* `takes_readQuoted` — texts as they were written, which is one of their spellings.
-/

namespace AudioCapture.Json

/-- Whether a character behind digits would go on with the number. -/
def continuesNumber (c : Char) : Bool := c.isDigit || c == '.' || c == 'e' || c == 'E'

/-- Whether a value may end where `rest` begins. -/
def Ends (rest : List Char) : Prop := ∀ c ∈ rest.head?, continuesNumber c = false

theorem ends_nil : Ends [] := by simp [Ends]

theorem ends_cons {c : Char} (stops : continuesNumber c = false) (rest : List Char) :
    Ends (c :: rest) := by
  simpa [Ends] using stops

/-- Whether a run of digits ends where `rest` begins. -/
def DigitsEnd (rest : List Char) : Prop := ∀ c ∈ rest.head?, c.isDigit = false

theorem Ends.digitsEnd {rest : List Char} (ends : Ends rest) : DigitsEnd rest := by
  intro c first
  have stops := ends c first
  simp only [continuesNumber, Bool.or_eq_false_iff] at stops
  exact stops.1.1.1

/-- Whether a reader takes `written` for `value` and leaves what is behind it. -/
def Takes (reader : Cursor → Reading α) (written : List Char) (value : α) : Prop :=
  ∀ (cur : Cursor) (rest : List Char), cur.rest = written ++ rest → Ends rest →
    ∃ after : Cursor, reader cur = .ok (value, after) ∧ after.rest = rest

namespace Cursor

variable {cur : Cursor} {c : Char} {rest : List Char}

theorem rest_next (begins : cur.rest = c :: rest) : cur.next.rest = rest := by
  simp only [next, begins, behind]
  split <;> rfl

theorem skipBlanks_eq_self (begins : cur.rest = c :: rest) (solid : isBlank c = false) :
    cur.skipBlanks = cur := by
  have noBreak : c ≠ '\n' := by rintro rfl; simp [isBlank] at solid
  obtain ⟨text, line, column⟩ := cur
  subst begins
  simp [skipBlanks, skipBlanksIn, noBreak, solid]

theorem isBlank_of_isDigit (digit : c.isDigit = true) : isBlank c = false := by
  simp only [isBlank, Bool.or_eq_false_iff, beq_eq_false_iff_ne]
  refine ⟨⟨⟨?_, ?_⟩, ?_⟩, ?_⟩ <;> rintro rfl <;> exact absurd digit (by decide)

theorem rest_word {word : List Char} (begins : cur.rest = word ++ rest) :
    ∃ after, cur.word word = .ok after ∧ after.rest = rest := by
  induction word generalizing cur with
  | nil => exact ⟨cur, rfl, begins⟩
  | cons c word ih =>
      obtain ⟨after, passed, left⟩ := ih (rest_next begins)
      refine ⟨after, ?_, left⟩
      simp [Cursor.word, begins, passed]

/-! ## Digits -/

theorem isDigit_iff (c : Char) : c.isDigit = true ↔ '0' ≤ c ∧ c ≤ '9' := by
  simp [Char.isDigit, Char.le_def]

theorem digitsIn_append {digits : List Char} (all : ∀ c ∈ digits, c.isDigit = true)
    (ends : DigitsEnd rest) (line column : Nat) :
    ∃ after : Cursor, digitsIn (digits ++ rest) line column =
      (digits.map (·.toNat - 48), after) ∧ after.rest = rest := by
  induction digits generalizing column with
  | nil =>
      cases rest with
      | nil => exact ⟨_, rfl, rfl⟩
      | cons c rest =>
          have stops : c.isDigit = false := ends c rfl
          have outside : ¬('0' ≤ c ∧ c ≤ '9') := by
            rw [← isDigit_iff, stops]
            exact Bool.false_ne_true
          exact ⟨_, by rw [List.nil_append, digitsIn, if_neg outside]; rfl, rfl⟩
  | cons c digits ih =>
      obtain ⟨after, found, left⟩ :=
        ih (fun d here => all d (List.mem_cons_of_mem c here)) (column + 1)
      refine ⟨after, ?_, left⟩
      rw [List.cons_append, digitsIn, if_pos ((isDigit_iff c).mp (all c List.mem_cons_self)),
        found]
      rfl

theorem digits_append {digits : List Char} (all : ∀ c ∈ digits, c.isDigit = true)
    (begins : cur.rest = digits ++ rest) (ends : DigitsEnd rest) :
    ∃ after : Cursor, cur.digits = (digits.map (·.toNat - 48), after) ∧ after.rest = rest := by
  rw [Cursor.digits, begins]
  exact digitsIn_append all ends _ _

end Cursor

/-! ## Integers -/

/-- The value of decimal digits behind those that make up `value`. -/
def appendDigits (value : Nat) (digits : List Nat) : Nat :=
  digits.foldl (fun value digit => value * 10 + digit) value

theorem le_appendDigits (value : Nat) (digits : List Nat) : value ≤ appendDigits value digits := by
  induction digits generalizing value with
  | nil => exact Nat.le_refl _
  | cons digit digits ih =>
      have := ih (value * 10 + digit)
      simp only [appendDigits, List.foldl_cons] at this ⊢
      omega

/-- Digits that stay within a significand are all gathered. -/
theorem Number.gather_eq {significand : Nat} {digits : List Nat}
    (small : appendDigits significand digits ≤ maxSignificand) :
    gather significand digits = (appendDigits significand digits, []) := by
  induction digits generalizing significand with
  | nil => rfl
  | cons digit digits ih =>
      have first := le_appendDigits (significand * 10 + digit) digits
      have next : significand * 10 + digit ≤ maxSignificand := Nat.le_trans first small
      rw [gather, if_pos next]
      exact ih small

theorem appendDigits_toDigits (n : Nat) :
    appendDigits 0 ((Nat.toDigits 10 n).map (·.toNat - 48)) = n := by
  have value : Nat.ofDigitChars 10 (Nat.toDigits 10 n) 0 = n :=
    Nat.ofDigitChars_toDigits (by decide) (by decide)
  simpa [appendDigits, List.foldl_map, Nat.ofDigitChars, Nat.mul_comm] using value

/-- The digits of a positive number do not start with a zero. -/
theorem toDigits_eq_cons {n : Nat} (positive : 0 < n) :
    ∃ c rest, Nat.toDigits 10 n = c :: rest ∧ 0 < c.toNat - 48 := by
  induction n using Nat.strongRecOn with
  | ind n ih =>
      rw [Nat.toDigits_eq_if (by decide)]
      split
      · rename_i small
        exact ⟨_, [], rfl, by rwa [Nat.toNat_digitChar_sub_48_of_lt_ten small]⟩
      · obtain ⟨c, rest, front, high⟩ := ih (n / 10) (by omega) (by omega)
        exact ⟨c, rest ++ [(n % 10).digitChar], by rw [front]; rfl, high⟩

/-- How a number goes on behind digits that are a single zero or do not start with one. -/
theorem Number.read_eq {positive : Bool} {cur after : Cursor} {digits : List Nat}
    (found : cur.digits = (digits, after))
    (front : digits = [0] ∨ ∃ first more, digits = (first + 1) :: more) :
    read positive cur =
      if after.rest.head? = some '.' then
        readDecimals positive (gather 0 digits).1 (gather 0 digits).2.length after
      else if isExponentMark after then
        readExponent positive (gather 0 digits).1 (gather 0 digits).2.length after
      else if (gather 0 digits).2.isEmpty then
        .ok (ofDigits positive (gather 0 digits).1, after)
      else ofParts positive (gather 0 digits).1 (gather 0 digits).2.length after := by
  rw [read, found]
  cases shape : after.rest with
  | nil =>
      rcases front with rfl | ⟨first, more, rfl⟩
      · simp [shape]
      · simp [shape]
  | cons c rest =>
      by_cases point : c = '.'
      · subst point
        rcases front with rfl | ⟨first, more, rfl⟩
        · simp [shape]
        · simp [shape]
      · rcases front with rfl | ⟨first, more, rfl⟩
        · simp [shape, point]
        · simp [shape, point]

/-- A number that is neither continued by decimals nor by an exponent. -/
theorem Number.read_of_ends {positive : Bool} {cur after : Cursor} {digits : List Nat} {n : Nat}
    (found : cur.digits = (digits, after)) (gathered : gather 0 digits = (n, []))
    (front : digits = [0] ∨ ∃ first more, digits = (first + 1) :: more)
    (undotted : after.rest.head? ≠ some '.') (unmarked : isExponentMark after = false) :
    read positive cur = .ok (ofDigits positive n, after) := by
  rw [read_eq found front, if_neg undotted, if_neg (by simp [unmarked]), gathered]
  rfl

/-- The digits of a number are a single zero or do not start with one. -/
theorem digits_front (n : Nat) : (Nat.toDigits 10 n).map (·.toNat - 48) = [0] ∨
    ∃ first more, (Nat.toDigits 10 n).map (·.toNat - 48) = (first + 1) :: more := by
  cases n with
  | zero => exact .inl rfl
  | succ m =>
      obtain ⟨c, digits, front, high⟩ := toDigits_eq_cons (Nat.succ_pos m)
      obtain ⟨d, first⟩ := Nat.exists_eq_succ_of_ne_zero (Nat.ne_of_gt high)
      exact .inr ⟨d, _, by rw [front, List.map_cons, first]⟩

theorem takes_read (positive : Bool) {n : Nat} (small : n ≤ Number.maxSignificand) :
    Takes (Number.read positive) (Nat.toDigits 10 n) (Number.ofDigits positive n) := by
  intro cur rest begins ends
  have isDigits : ∀ c ∈ Nat.toDigits 10 n, c.isDigit = true := fun c here =>
    Nat.isDigit_of_mem_toDigits (by decide) (by decide) here
  obtain ⟨after, found, left⟩ := Cursor.digits_append isDigits begins ends.digitsEnd
  have gathered : Number.gather 0 ((Nat.toDigits 10 n).map (·.toNat - 48)) = (n, []) := by
    rw [Number.gather_eq (by rwa [appendDigits_toDigits]), appendDigits_toDigits]
  have front := digits_front n
  refine ⟨after, Number.read_of_ends found gathered front ?_ ?_, left⟩
  · intro dotted
    rw [left] at dotted
    exact absurd (ends '.' dotted) (by decide)
  · cases rest with
    | nil => simp [left, Number.isExponentMark]
    | cons c rest =>
        have stops := ends c rfl
        simp only [continuesNumber, Bool.or_eq_false_iff, beq_eq_false_iff_ne] at stops
        obtain ⟨⟨-, noMark⟩, noCapital⟩ := stops
        simp [left, Number.isExponentMark, noMark, noCapital]

/-- Whether numbers of 64 bits, with a sign if need be, hold all integers of a kind. -/
def IntegerKind.Narrow (kind : IntegerKind) : Prop :=
  -9223372036854775808 ≤ kind.low ∧ kind.high ≤ 18446744073709551615

instance (kind : IntegerKind) : Decidable kind.Narrow := inferInstanceAs (Decidable (_ ∧ _))

theorem takes_readInteger {kind : IntegerKind} (narrow : kind.Narrow) {value : Int}
    (held : kind.Holds value) : Takes (readInteger kind) (writeInteger value) value := by
  have low : -9223372036854775808 ≤ value := Int.le_trans narrow.1 held.1
  have high : value ≤ 18446744073709551615 := Int.le_trans held.2 narrow.2
  intro cur rest begins ends
  by_cases below : value < 0
  · rw [writeInteger, if_pos below, List.cons_append] at begins
    have solid := Cursor.skipBlanks_eq_self begins (by decide)
    obtain ⟨after, got, left⟩ := takes_read false
      (show value.natAbs ≤ Number.maxSignificand by rw [Number.maxSignificand]; omega)
      cur.next rest (Cursor.rest_next begins) ends
    refine ⟨after, ?_, left⟩
    have number : Number.ofDigits false value.natAbs = .negative value := by
      rw [Number.ofDigits, if_neg (by decide), if_pos (by omega)]
      congr
      omega
    simp [readInteger, solid, begins, got, number, integerOf, held]
  · rw [writeInteger, if_neg below] at begins
    obtain ⟨after, got, left⟩ := takes_read true
      (show value.natAbs ≤ Number.maxSignificand by rw [Number.maxSignificand]; omega)
      cur rest begins ends
    refine ⟨after, ?_, left⟩
    have number : Number.ofDigits true value.natAbs = .natural value.natAbs := if_pos rfl
    have whole : ((value.natAbs : Nat) : Int) = value := by omega
    obtain ⟨c, digits, front⟩ := List.exists_cons_of_ne_nil
      (Nat.toDigits_ne_nil (n := value.natAbs) (b := 10))
    have isDigit : c.isDigit = true :=
      Nat.isDigit_of_mem_toDigits (by decide) (by decide) (front ▸ List.mem_cons_self)
    have noSign : c ≠ '-' := by rintro rfl; exact absurd isDigit (by decide)
    have solid := Cursor.skipBlanks_eq_self (front ▸ begins) (Cursor.isBlank_of_isDigit isDigit)
    rw [front, List.cons_append] at begins
    simp [readInteger, solid, begins, noSign, (Cursor.isDigit_iff c).mp isDigit, got, number,
      integerOf, whole, held]

theorem takes_readFlag (value : Bool) : Takes readFlag (Datum.flag value).write value := by
  intro cur rest begins _
  cases value with
  | true =>
      change cur.rest = 't' :: (['r', 'u', 'e'] ++ rest) at begins
      have solid := Cursor.skipBlanks_eq_self begins (by decide)
      obtain ⟨after, passed, left⟩ := Cursor.rest_word (Cursor.rest_next begins)
      exact ⟨after, by simp [readFlag, solid, begins, passed, Except.map], left⟩
  | false =>
      change cur.rest = 'f' :: (['a', 'l', 's', 'e'] ++ rest) at begins
      have solid := Cursor.skipBlanks_eq_self begins (by decide)
      obtain ⟨after, passed, left⟩ := Cursor.rest_word (Cursor.rest_next begins)
      exact ⟨after, by simp [readFlag, solid, begins, passed, Except.map], left⟩

/-! ## Texts -/

/-- Characters as they stand between quotes: each as it is, by a short escape, or by the numbers of
its UTF-16 units. -/
inductive Spells : List Char → List Char → Prop
  | nil : Spells [] []
  | plain {c : Char} {spelled text : List Char} : c ≠ '"' → c ≠ '\\' → 0x20 ≤ c.toNat →
      Spells spelled text → Spells (c :: spelled) (c :: text)
  | short {letter c : Char} {spelled text : List Char} : shortEscapes.lookup letter = some c →
      Spells spelled text → Spells ('\\' :: letter :: spelled) (c :: text)
  | unit {d₁ d₂ d₃ d₄ : Char} {u : Nat} {spelled text : List Char} :
      hexUnit? d₁ d₂ d₃ d₄ = some u → u < 0xD800 ∨ 0xDFFF < u →
      Spells spelled text → Spells ('\\' :: 'u' :: d₁ :: d₂ :: d₃ :: d₄ :: spelled)
        (Char.ofNat u :: text)
  | pair {d₁ d₂ d₃ d₄ e₁ e₂ e₃ e₄ : Char} {high low : Nat} {spelled text : List Char} :
      hexUnit? d₁ d₂ d₃ d₄ = some high → 0xD800 ≤ high ∧ high ≤ 0xDBFF →
      hexUnit? e₁ e₂ e₃ e₄ = some low → 0xDC00 ≤ low ∧ low ≤ 0xDFFF →
      Spells spelled text →
      Spells ('\\' :: 'u' :: d₁ :: d₂ :: d₃ :: d₄ :: '\\' :: 'u' :: e₁ :: e₂ :: e₃ :: e₄ :: spelled)
        (Char.ofNat ((high - 0xD800) * 0x400 + (low - 0xDC00) + 0x10000) :: text)

section Texts

variable {cur : Cursor} {c : Char} {rest : List Char}

/-- Reading on at a character, freed of the proof that it comes to an end. -/
theorem readTextAfter_eq (begins : cur.rest = c :: rest) (seen : List Char) :
    readTextAfter seen cur =
      if c = '"' then .ok (seen.reverse, cur.next)
      else if c = '\\' then
        match readEscape cur.next with
        | .error fault => .error fault
        | .ok (escaped, after) => readTextAfter (escaped :: seen) after
      else if c.toNat < 0x20 then cur.failAhead .controlCharacter
      else readTextAfter (c :: seen) cur.next := by
  rw [readTextAfter]
  split
  · rename_i left
    cases begins.symm.trans left
  · rename_i left
    cases begins.symm.trans left
    congr 2
    split <;> rename_i got <;> simp only [got]

theorem readTextAfter_escape {after : Cursor} {escaped : Char} (begins : cur.rest = '\\' :: rest)
    (got : readEscape cur.next = .ok (escaped, after)) (seen : List Char) :
    readTextAfter seen cur = readTextAfter (escaped :: seen) after := by
  rw [readTextAfter_eq begins, if_neg (by decide), if_pos rfl, got]

theorem readEscape_short {letter : Char} (begins : cur.rest = letter :: rest)
    (short : shortEscapes.lookup letter = some c) : readEscape cur = .ok (c, cur.next) := by
  rw [readEscape, begins]
  simp only [short]

theorem narrow_of_hexValue? {c : Char} {v : Nat} (hex : hexValue? c = some v) :
    c ≠ '\n' ∧ c.utf8Size = 1 := by
  have low : c.toNat < 128 := by
    simp only [hexValue?, Char.le_def, UInt32.le_iff_toNat_le] at hex
    have digit : ('9' : Char).val.toNat = 57 := rfl
    have small : ('f' : Char).val.toNat = 102 := rfl
    have large : ('F' : Char).val.toNat = 70 := rfl
    show c.val.toNat < 128
    split at hex
    · omega
    · split at hex
      · omega
      · split at hex
        · omega
        · cases hex
  constructor
  · rintro rfl
    have none : hexValue? '\n' = none := by decide
    rw [none] at hex
    cases hex
  · exact Char.utf8Size_eq_one_iff.2 (UInt32.le_iff_toNat_le.2 (Nat.le_of_lt_succ low))

theorem hexUnit?_eq_some {a b c d : Char} {u : Nat} (hex : hexUnit? a b c d = some u) :
    (∃ v, hexValue? a = some v) ∧ (∃ v, hexValue? b = some v) ∧ (∃ v, hexValue? c = some v) ∧
      ∃ v, hexValue? d = some v := by
  simp only [hexUnit?, Option.bind_eq_bind, Option.bind_eq_some_iff] at hex
  obtain ⟨v₁, h₁, v₂, h₂, v₃, h₃, v₄, h₄, -⟩ := hex
  exact ⟨⟨v₁, h₁⟩, ⟨v₂, h₂⟩, ⟨v₃, h₃⟩, v₄, h₄⟩

/-- Four hexadecimal digits are the number of a unit. -/
theorem readUnit_eq {a b c d : Char} {u : Nat} (begins : cur.rest = a :: b :: c :: d :: rest)
    (hex : hexUnit? a b c d = some u) :
    readUnit cur = .ok (u, ⟨rest, cur.line, cur.column + 4⟩) := by
  obtain ⟨⟨_, h₁⟩, ⟨_, h₂⟩, ⟨_, h₃⟩, _, h₄⟩ := hexUnit?_eq_some hex
  obtain ⟨noBreak₁, size₁⟩ := narrow_of_hexValue? h₁
  obtain ⟨noBreak₂, size₂⟩ := narrow_of_hexValue? h₂
  obtain ⟨noBreak₃, size₃⟩ := narrow_of_hexValue? h₃
  obtain ⟨noBreak₄, size₄⟩ := narrow_of_hexValue? h₄
  have fits : cur.afterBytes 4 = some ⟨cur.line, cur.column + 1 + 1 + 1 + 1⟩ := by
    simp [Cursor.afterBytes, begins, Cursor.afterBytesIn, noBreak₁, noBreak₂, noBreak₃, noBreak₄,
      size₁, size₂, size₃, size₄]
  simp only [readUnit, fits, begins, hex]

theorem readEscape_unit {a b c d : Char} {u : Nat}
    (begins : cur.rest = 'u' :: a :: b :: c :: d :: rest) (hex : hexUnit? a b c d = some u)
    (single : u < 0xD800 ∨ 0xDFFF < u) :
    ∃ after, readEscape cur = .ok (Char.ofNat u, after) ∧ after.rest = rest := by
  have got := readUnit_eq (Cursor.rest_next begins) hex
  have long : shortEscapes.lookup 'u' = none := by decide
  refine ⟨⟨rest, cur.next.line, cur.next.column + 4⟩, ?_, rfl⟩
  rw [readEscape, begins]
  simp only [long, got, if_true]
  rw [if_neg (by omega), if_neg (by omega)]

theorem readEscape_pair {a b c d a' b' c' d' : Char} {high low : Nat}
    (begins : cur.rest =
      'u' :: a :: b :: c :: d :: '\\' :: 'u' :: a' :: b' :: c' :: d' :: rest)
    (hexHigh : hexUnit? a b c d = some high) (first : 0xD800 ≤ high ∧ high ≤ 0xDBFF)
    (hexLow : hexUnit? a' b' c' d' = some low) (second : 0xDC00 ≤ low ∧ low ≤ 0xDFFF) :
    ∃ after, readEscape cur =
        .ok (Char.ofNat ((high - 0xD800) * 0x400 + (low - 0xDC00) + 0x10000), after) ∧
      after.rest = rest := by
  have got := readUnit_eq (Cursor.rest_next begins) hexHigh
  generalize between : (⟨_, cur.next.line, cur.next.column + 4⟩ : Cursor) = slash at got
  have slashed : slash.rest = '\\' :: 'u' :: a' :: b' :: c' :: d' :: rest := by rw [← between]
  have letter := Cursor.rest_next slashed
  have gotLow := readUnit_eq (Cursor.rest_next letter) hexLow
  have long : shortEscapes.lookup 'u' = none := by decide
  refine ⟨⟨rest, slash.next.next.line, slash.next.next.column + 4⟩, ?_, rfl⟩
  rw [readEscape, begins]
  simp only [long, got, if_true]
  rw [if_neg (by omega), if_pos first, readLowSurrogate, slashed]
  simp only [if_true, letter, gotLow]
  rw [if_pos second]

/-- A text that is spelled in any way is read up to the quote behind it. -/
theorem readTextAfter_spells {spelled text : List Char} (spells : Spells spelled text)
    (begins : cur.rest = spelled ++ '"' :: rest) (seen : List Char) :
    ∃ after, readTextAfter seen cur = .ok (seen.reverse ++ text, after) ∧ after.rest = rest := by
  -- what is read in front of the rest of a text, when that is read as the induction says
  have goOn : ∀ {cur next : Cursor} {seen : List Char} {c : Char} {text : List Char},
      readTextAfter seen cur = readTextAfter (c :: seen) next →
      (∃ after, readTextAfter (c :: seen) next = .ok ((c :: seen).reverse ++ text, after) ∧
        after.rest = rest) →
      ∃ after, readTextAfter seen cur = .ok (seen.reverse ++ c :: text, after) ∧
        after.rest = rest := by
    rintro cur next seen c text same ⟨after, got, left⟩
    exact ⟨after, by rw [same, got, List.reverse_cons, List.append_assoc]; rfl, left⟩
  induction spells generalizing cur seen with
  | nil =>
      refine ⟨cur.next, ?_, Cursor.rest_next begins⟩
      rw [readTextAfter_eq begins, if_pos rfl, List.append_nil]
  | plain noQuote noSlash high _ ih =>
      apply goOn _ (ih (Cursor.rest_next begins) _)
      rw [readTextAfter_eq begins, if_neg noQuote, if_neg noSlash, if_neg (by omega)]
  | short known _ ih =>
      have letter := Cursor.rest_next begins
      exact goOn (readTextAfter_escape begins (readEscape_short letter known) seen)
        (ih (Cursor.rest_next letter) _)
  | unit hex single _ ih =>
      obtain ⟨next, got, left⟩ := readEscape_unit (Cursor.rest_next begins) hex single
      exact goOn (readTextAfter_escape begins got seen) (ih left _)
  | pair hexHigh first hexLow second _ ih =>
      obtain ⟨next, got, left⟩ :=
        readEscape_pair (Cursor.rest_next begins) hexHigh first hexLow second
      exact goOn (readTextAfter_escape begins got seen) (ih left _)

theorem readText_spells {text : String} {spelled : List Char} (spells : Spells spelled text.toList)
    (begins : cur.rest = '"' :: (spelled ++ '"' :: rest)) :
    ∃ after, readText cur.next = .ok (text, after) ∧ after.rest = rest := by
  obtain ⟨after, got, left⟩ := readTextAfter_spells spells (Cursor.rest_next begins) []
  refine ⟨after, ?_, left⟩
  rw [readText, got]
  simp

/-! ### Texts that were written -/

/-- Characters that need no escape stand as they are. -/
theorem spells_self {text : List Char}
    (plain : ∀ c ∈ text, c ≠ '"' ∧ c ≠ '\\' ∧ 0x20 ≤ c.toNat) : Spells text text := by
  induction text with
  | nil => exact .nil
  | cons c text ih =>
      obtain ⟨noQuote, noSlash, high⟩ := plain c List.mem_cons_self
      exact .plain noQuote noSlash high (ih fun d here => plain d (List.mem_cons_of_mem c here))

theorem Spells.append {spelled text spelled' text' : List Char} (front : Spells spelled text)
    (back : Spells spelled' text') : Spells (spelled ++ spelled') (text ++ text') := by
  induction front with
  | nil => exact back
  | plain noQuote noSlash high _ ih => exact .plain noQuote noSlash high ih
  | short known _ ih => exact .short known ih
  | unit hex single _ ih => exact .unit hex single ih
  | pair hexHigh first hexLow second _ ih => exact .pair hexHigh first hexLow second ih

theorem hexValue?_digitChar : ∀ d < 16, hexValue? (Nat.digitChar d) = some d := by decide

/-- A character is spelled by what is written for it. -/
theorem spells_writeChar (c : Char) : Spells (writeChar c) [c] := by
  unfold writeChar
  -- the seven characters with a short escape
  iterate 7
    split
    · subst_vars
      exact .short rfl .nil
  split
  · rename_i low
    have zero : hexValue? '0' = some 0 := by decide
    have unit : hexUnit? '0' '0' (Nat.digitChar (c.toNat / 16)) (Nat.digitChar (c.toNat % 16)) =
        some c.toNat := by
      simp [hexUnit?, zero, hexValue?_digitChar (c.toNat / 16) (by omega),
        hexValue?_digitChar (c.toNat % 16) (by omega)]
      omega
    have spells := Spells.unit unit (.inl (by omega)) .nil
    rwa [Char.ofNat_toNat] at spells
  · rename_i noQuote noSlash _ _ _ _ _ high
    exact .plain noQuote noSlash (by omega) .nil

theorem spells_flatMap (text : List Char) : Spells (text.flatMap writeChar) text := by
  induction text with
  | nil => exact .nil
  | cons c text ih =>
      rw [List.flatMap_cons]
      exact (spells_writeChar c).append ih

theorem writeText_append (text : String) (rest : List Char) :
    writeText text ++ rest = '"' :: (text.toList.flatMap writeChar ++ '"' :: rest) := by
  simp [writeText]

/-- A text that was written is read back from behind its opening quote. -/
theorem readText_writeText {text : String} (begins : cur.rest = writeText text ++ rest) :
    ∃ after, readText cur.next = .ok (text, after) ∧ after.rest = rest := by
  rw [writeText_append] at begins
  exact readText_spells (spells_flatMap text.toList) begins

theorem takes_readQuoted (expected text : String) :
    Takes (readQuoted expected) (writeText text) text := by
  intro cur rest begins _
  obtain ⟨after, got, left⟩ := readText_writeText begins
  refine ⟨after, ?_, left⟩
  rw [writeText_append] at begins
  simp [readQuoted, Cursor.skipBlanks_eq_self begins (by decide), begins, got]

end Texts

end AudioCapture.Json
