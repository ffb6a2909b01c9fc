import Mathlib.Data.List.TakeWhile
import Mathlib.Tactic.IntervalCases
import AudioCapture.InputSource

/-!
# Numerals between blanks

What a text says that is trimmed and then read as a decimal integer. Trimming leaves what stands
between the blanks at both ends (`Trims`); the integers that are read are the numerals, a sign or
none and digits, whose value lies between the bounds (`Numeral`).

* `trim_eq_iff` — trimming as a way to cut a text in three;
* `integer_eq_ok_iff` — although the bounds are checked digit by digit, only the value counts;
* `InputSource.ofText_eq_ok_iff`, `ofText_of_not_denotes` — the same of reported sources.
-/

namespace AudioCapture

namespace Text

/-! ## Trimming -/

variable {text core before after digits : List Char} {low high n : Int} {v : Nat}

/-- Nothing but blanks. -/
def AllBlank (text : List Char) : Prop := ∀ c ∈ text, isBlank c = true

instance : DecidablePred AllBlank := fun text =>
  decidable_of_iff (text.all isBlank = true) List.all_eq_true

/-- The core of a text stands between blanks, and neither starts nor ends with one itself. -/
structure Trims (text core : List Char) : Prop where
  padded : ∃ before after, text = before ++ core ++ after ∧ AllBlank before ∧ AllBlank after
  first : ∀ c ∈ core.head?, isBlank c = false
  last : ∀ c ∈ core.getLast?, isBlank c = false

theorem dropWhile_of_head? (solid : ∀ c ∈ text.head?, isBlank c = false) :
    text.dropWhile isBlank = text := by
  cases text with
  | nil => rfl
  | cons c rest =>
      apply List.dropWhile_cons_of_neg
      simp [solid c rfl]

theorem head?_dropWhile (text : List Char) :
    ∀ c ∈ (text.dropWhile isBlank).head?, isBlank c = false := by
  intro c first
  have solid := List.head?_dropWhile_not isBlank text
  rw [Option.mem_def] at first
  rwa [first] at solid

theorem allBlank_takeWhile (text : List Char) : AllBlank (text.takeWhile isBlank) :=
  fun _ member => List.mem_takeWhile_imp member

theorem trims_trim (text : List Char) : Trims text (trim text) := by
  have lower : text.takeWhile isBlank ++ text.dropWhile isBlank = text :=
    List.takeWhile_append_dropWhile
  have upper : (text.dropWhile isBlank).reverse.takeWhile isBlank ++
      (text.dropWhile isBlank).reverse.dropWhile isBlank = (text.dropWhile isBlank).reverse :=
    List.takeWhile_append_dropWhile
  have kept : text.dropWhile isBlank = trim text ++
      ((text.dropWhile isBlank).reverse.takeWhile isBlank).reverse := by
    rw [trim, ← List.reverse_append, upper, List.reverse_reverse]
  refine ⟨⟨text.takeWhile isBlank, ((text.dropWhile isBlank).reverse.takeWhile isBlank).reverse,
    ?_, allBlank_takeWhile text, ?_⟩, ?_, ?_⟩
  · rw [List.append_assoc, ← kept, lower]
  · intro c member
    exact allBlank_takeWhile _ c (List.mem_reverse.1 member)
  · intro c first
    apply head?_dropWhile text c
    rw [kept, List.head?_append]
    rw [Option.mem_def] at first ⊢
    rw [first]
    rfl
  · intro c last
    rw [trim, List.getLast?_reverse] at last
    exact head?_dropWhile _ c last

theorem Trims.trim_eq (trims : Trims text core) : trim text = core := by
  obtain ⟨⟨before, after, rfl, front, back⟩, first, last⟩ := trims
  have backward : AllBlank after.reverse := fun c member => back c (List.mem_reverse.1 member)
  cases core with
  | nil =>
      have blank : ∀ c ∈ before ++ [] ++ after, isBlank c = true := by
        intro c member
        rw [List.append_nil, List.mem_append] at member
        exact member.elim (front c) (back c)
      rw [trim, List.dropWhile_eq_nil_iff.2 blank]
      rfl
  | cons c rest =>
      have left : (before ++ (c :: rest) ++ after).dropWhile isBlank = (c :: rest) ++ after := by
        rw [List.append_assoc, List.dropWhile_append_of_pos front]
        exact dropWhile_of_head? first
      have right : (((c :: rest) ++ after).reverse.dropWhile isBlank) = (c :: rest).reverse := by
        rw [List.reverse_append, List.dropWhile_append_of_pos backward]
        apply dropWhile_of_head?
        rwa [List.head?_reverse]
      rw [trim, left, right, List.reverse_reverse]

theorem trim_eq_iff : trim text = core ↔ Trims text core := by
  constructor
  · rintro rfl
    exact trims_trim text
  · exact Trims.trim_eq

/-! ## Numerals -/

/-- One or more decimal digits. -/
structure IsDigits (digits : List Char) : Prop where
  ne_nil : digits ≠ []
  all : ∀ c ∈ digits, c.isDigit = true

instance : DecidablePred IsDigits := fun digits =>
  decidable_of_iff (digits ≠ [] ∧ digits.all Char.isDigit = true)
    ⟨fun ⟨filled, all⟩ => ⟨filled, List.all_eq_true.1 all⟩,
      fun isDigits => ⟨isDigits.ne_nil, List.all_eq_true.2 isDigits.all⟩⟩

/-- The number that decimal digits stand for. -/
def digitsValue (digits : List Char) : Nat := Nat.ofDigitChars 10 digits 0

/-- A single sign or none, and digits behind it. -/
inductive Numeral : List Char → Int → Prop
  | unsigned {digits : List Char} : IsDigits digits → Numeral digits (digitsValue digits)
  | plus {digits : List Char} : IsDigits digits → Numeral ('+' :: digits) (digitsValue digits)
  | minus {digits : List Char} : IsDigits digits → Numeral ('-' :: digits) (-digitsValue digits)

theorem digit?_of_isDigit {c : Char} (digit : c.isDigit = true) :
    digit? c = some (c.toNat - 48) := by
  apply if_pos
  simpa [Char.isDigit, Char.le_def] using digit

theorem digit?_of_not_isDigit {c : Char} (other : c.isDigit = false) : digit? c = none := by
  apply if_neg
  intro digit
  have : c.isDigit = true := by simpa [Char.isDigit, Char.le_def] using digit
  simp [this] at other

theorem le_ofDigitChars (v : Nat) (digits : List Char) : v ≤ Nat.ofDigitChars 10 digits v := by
  induction digits generalizing v with
  | nil => exact Nat.le_refl v
  | cons c digits ih =>
      rw [Nat.ofDigitChars_cons]
      have := ih (10 * v + (c.toNat - '0'.toNat))
      omega

/-- To stay below the bound at every digit is to stay below it at the last one. -/
theorem countUp_eq_ok_iff (below : (v : Int) ≤ high) : countUp high v digits = .ok n ↔
    (∀ c ∈ digits, c.isDigit = true) ∧ n = Nat.ofDigitChars 10 digits v ∧ n ≤ high := by
  induction digits generalizing v with
  | nil =>
      simp only [countUp, Except.ok.injEq, List.not_mem_nil, false_implies, implies_true, true_and]
      constructor
      · rintro rfl
        exact ⟨rfl, below⟩
      · exact fun h => h.1.symm
  | cons c digits ih =>
      rw [countUp, Nat.ofDigitChars_cons]
      cases digit : c.isDigit with
      | false => simp [digit?_of_not_isDigit digit, digit]
      | true =>
          have next : (v : Int) * 10 + (c.toNat - 48 : Nat) =
              ((10 * v + (c.toNat - '0'.toNat) : Nat) : Int) := by
            show _ = ((10 * v + (c.toNat - 48) : Nat) : Int)
            omega
          rw [digit?_of_isDigit digit]
          simp only [next, List.forall_mem_cons, digit, true_and]
          split
          · rename_i within
            exact ih within
          · rename_i beyond
            have least := le_ofDigitChars (10 * v + (c.toNat - '0'.toNat)) digits
            constructor
            · nofun
            · rintro ⟨-, rfl, within⟩
              omega

/-- Counting down is counting up with the signs turned round. -/
theorem countDown_eq_ok_iff_countUp (value : Int) :
    countDown low (-value) digits = .ok n ↔ countUp (-low) value digits = .ok (-n) := by
  induction digits generalizing value with
  | nil =>
      simp only [countDown, countUp, Except.ok.injEq]
      omega
  | cons c digits ih =>
      rw [countDown, countUp]
      cases digit? c with
      | none => simp
      | some digit =>
          have next : -value * 10 - digit = -(value * 10 + digit) := by omega
          simp only [next]
          by_cases within : value * 10 + digit ≤ -low
          · rw [if_pos (by omega), if_pos within]
            exact ih (value * 10 + digit)
          · rw [if_neg (by omega), if_neg within]
            simp

theorem countDown_eq_ok_iff (bound : low ≤ 0) : countDown low 0 digits = .ok n ↔
    (∀ c ∈ digits, c.isDigit = true) ∧ n = -digitsValue digits ∧ low ≤ n := by
  have turned : countDown low (-0) digits = .ok n ↔ countUp (-low) 0 digits = .ok (-n) :=
    countDown_eq_ok_iff_countUp 0
  rw [Int.neg_zero] at turned
  rw [turned, ← Int.natCast_zero, countUp_eq_ok_iff (by omega), digitsValue]
  constructor
  · rintro ⟨all, value, within⟩
    exact ⟨all, by omega, by omega⟩
  · rintro ⟨all, value, within⟩
    exact ⟨all, by omega, by omega⟩

theorem integer_plus (some : digits ≠ []) :
    integer low high ('+' :: digits) = countUp high 0 digits := by
  cases digits with
  | nil => exact absurd rfl some
  | cons c digits => rfl

theorem integer_minus (some : digits ≠ []) :
    integer low high ('-' :: digits) = countDown low 0 digits := by
  cases digits with
  | nil => exact absurd rfl some
  | cons c digits => rfl

theorem integer_digits (isDigits : IsDigits digits) :
    integer low high digits = countUp high 0 digits := by
  have notPlus : ∀ rest, digits ≠ '+' :: rest := by
    rintro rest rfl
    exact absurd (isDigits.all '+' List.mem_cons_self) (by decide)
  have notMinus : ∀ rest, digits ≠ '-' :: rest := by
    rintro rest rfl
    exact absurd (isDigits.all '-' List.mem_cons_self) (by decide)
  have some := isDigits.ne_nil
  unfold integer
  split <;> simp_all

/-- The integers that are read are the numerals with a value between the bounds. -/
theorem integer_eq_ok_iff (lower : low ≤ 0) (upper : 0 ≤ high) :
    integer low high text = .ok n ↔ Numeral text n ∧ low ≤ n ∧ n ≤ high := by
  have up : ∀ {digits : List Char}, countUp high 0 digits = .ok n ↔
      (∀ c ∈ digits, c.isDigit = true) ∧ n = digitsValue digits ∧ n ≤ high :=
    countUp_eq_ok_iff (v := 0) upper
  constructor
  · intro got
    unfold integer at got
    split at got
    · cases got
    · cases got
    · cases got
    · rename_i digits lone
      obtain ⟨all, rfl, within⟩ := up.1 got
      exact ⟨.plus ⟨lone, all⟩, by omega, within⟩
    · rename_i digits lone
      obtain ⟨all, rfl, within⟩ := (countDown_eq_ok_iff lower).1 got
      exact ⟨.minus ⟨lone, all⟩, within, by omega⟩
    · rename_i some _ _ _ _
      obtain ⟨all, rfl, within⟩ := up.1 got
      exact ⟨.unsigned ⟨some, all⟩, by omega, within⟩
  · rintro ⟨numeral, least, most⟩
    cases numeral with
    | unsigned isDigits =>
        rw [integer_digits isDigits]
        exact up.2 ⟨isDigits.all, rfl, most⟩
    | plus isDigits =>
        rw [integer_plus isDigits.ne_nil]
        exact up.2 ⟨isDigits.all, rfl, most⟩
    | minus isDigits =>
        rw [integer_minus isDigits.ne_nil]
        exact (countDown_eq_ok_iff lower).2 ⟨isDigits.all, rfl, least⟩

theorem isBlank_of_isDigit {c : Char} (digit : c.isDigit = true) : isBlank c = false := by
  have bounds : 48 ≤ c.toNat ∧ c.toNat ≤ 57 := by
    simp only [Char.isDigit, Bool.and_eq_true, decide_eq_true_eq] at digit
    exact ⟨UInt32.le_iff_toNat_le.1 digit.1, UInt32.le_iff_toNat_le.1 digit.2⟩
  simp only [isBlank, blankRanges, List.any_cons, List.any_nil, Bool.or_false, Bool.or_eq_false_iff,
    Bool.and_eq_false_iff, decide_eq_false_iff_not]
  omega

/-- There is no blank in a numeral. -/
theorem Numeral.solid (numeral : Numeral text n) : ∀ c ∈ text, isBlank c = false := by
  cases numeral with
  | unsigned isDigits =>
      intro c member
      exact isBlank_of_isDigit (isDigits.all c member)
  | plus isDigits =>
      intro c member
      obtain rfl | member := List.mem_cons.1 member
      · decide
      · exact isBlank_of_isDigit (isDigits.all c member)
  | minus isDigits =>
      intro c member
      obtain rfl | member := List.mem_cons.1 member
      · decide
      · exact isBlank_of_isDigit (isDigits.all c member)

theorem Numeral.trims (numeral : Numeral core n) (front : AllBlank before)
    (back : AllBlank after) : Trims (before ++ core ++ after) core where
  padded := ⟨before, after, rfl, front, back⟩
  first c first := numeral.solid c (List.mem_of_mem_head? first)
  last c last := numeral.solid c (List.mem_of_mem_getLast? last)

theorem isDigits_toDigits (v : Nat) : IsDigits (Nat.toDigits 10 v) where
  ne_nil := Nat.toDigits_ne_nil
  all _ member := Nat.isDigit_of_mem_toDigits (by decide) (by decide) member

theorem digitsValue_toDigits (v : Nat) : digitsValue (Nat.toDigits 10 v) = v :=
  Nat.ofDigitChars_toDigits (by decide) (by decide)

theorem numeral_toString (n : Int) : Numeral (toString n).toList n := by
  show Numeral (Int.repr n).toList n
  cases n with
  | ofNat v =>
      have digits := Numeral.unsigned (isDigits_toDigits v)
      rw [digitsValue_toDigits] at digits
      rw [Int.repr, Nat.toList_repr]
      exact digits
  | negSucc v =>
      have digits := Numeral.minus (isDigits_toDigits (v + 1))
      rw [digitsValue_toDigits] at digits
      rw [Int.repr, String.toList_append, Nat.toList_repr]
      exact digits

end Text

/-! ## Reported sources -/

namespace InputSource

variable {raw : String} {source : InputSource}

/-- A text denotes a number if it is a numeral of it between blanks. -/
def Denotes (raw : String) (n : Int) : Prop :=
  ∃ core, Text.Trims raw.toList core ∧ Text.Numeral core n

theorem ofText_eq_ok_iff :
    ofText raw = .ok source ↔ ∃ n : Int32, Denotes raw n.toInt ∧ source = ofNumber n := by
  have read : ∀ n, Text.integer (-2147483648) 2147483647 (Text.trim raw.toList) = .ok n ↔
      Text.Numeral (Text.trim raw.toList) n ∧ -2147483648 ≤ n ∧ n ≤ 2147483647 :=
    fun _ => Text.integer_eq_ok_iff (by decide) (by decide)
  unfold ofText
  constructor
  · intro got
    split at got
    · rename_i value number
      obtain ⟨numeral, least, most⟩ := (read value).1 number
      have same : (Int32.ofInt value).toInt = value :=
        Int32.toInt_ofInt_of_le least (Int.lt_of_le_of_lt most (by decide))
      cases got
      exact ⟨.ofInt value, ⟨_, Text.trims_trim raw.toList, same.symm ▸ numeral⟩, rfl⟩
    · cases got
  · rintro ⟨n, ⟨core, trims, numeral⟩, rfl⟩
    have least := n.le_toInt
    have most := n.toInt_lt
    rw [(read n.toInt).2 ⟨trims.trim_eq.symm ▸ numeral, least, by omega⟩]
    simp only [Int32.ofInt_toInt]

/-- A text that denotes no number of 32 bits is refused. -/
theorem ofText_of_not_denotes (none : ∀ n : Int32, ¬ Denotes raw n.toInt) :
    ∃ reason : Text.IntegerError, ofText raw =
      .error (.invalidArguments s!"bad input source {Text.quoted raw}: {reason.message}") := by
  cases read : Text.integer (-2147483648) 2147483647 (Text.trim raw.toList) with
  | ok value =>
      have got : ofText raw = .ok (ofNumber (.ofInt value)) := by simp only [ofText, read]
      obtain ⟨n, denotes, -⟩ := ofText_eq_ok_iff.1 got
      exact absurd denotes (none n)
  | error reason => exact ⟨reason, by simp only [ofText, read]⟩

theorem denotes_padded {before after : List Char} (front : Text.AllBlank before)
    (back : Text.AllBlank after) {n : Int}
    (padded : raw.toList = before ++ (toString n).toList ++ after) : Denotes raw n := by
  have numeral := Text.numeral_toString n
  exact ⟨_, padded ▸ numeral.trims front back, numeral⟩

theorem ofNumber_inj {n m : Int32} (same : ofNumber n = ofNumber m) : n = m := by
  rw [← number_ofNumber n, same, number_ofNumber]

/-- The numbers that have a source of their own stand for it. -/
theorem ofNumber_ne_other {k : Int32} (least : 0 ≤ k) (most : k ≤ 9) (n : Int32) :
    ofNumber n ≠ other k := by
  intro same
  have number : n = k := by
    rw [← number_ofNumber n, same]
    rfl
  subst number
  have low : 0 ≤ n.toInt := Int32.le_iff_toInt_le.1 least
  have high : n.toInt ≤ 9 := Int32.le_iff_toInt_le.1 most
  have value := Int32.ofInt_toInt n
  generalize n.toInt = v at low high value
  subst value
  interval_cases v <;> exact absurd same (by decide)

end InputSource

end AudioCapture
