import AudioCapture.Json.Fault

/-!
# Texts in JSON

Reading and skipping a text behind its opening quote, and the form in which a text is written.
When a text is read, escapes of surrogates must come in pairs; when it is only skipped they need
not.

* `length_readEscape_lt`: an escape uses up at least one character.
-/

namespace AudioCapture.Json

def hexValue? (c : Char) : Option Nat :=
  if '0' ≤ c ∧ c ≤ '9' then some (c.toNat - 48)
  else if 'a' ≤ c ∧ c ≤ 'f' then some (c.toNat - 87)
  else if 'A' ≤ c ∧ c ≤ 'F' then some (c.toNat - 55)
  else none

def hexUnit? (a b c d : Char) : Option Nat := do
  return ((← hexValue? a) * 16 + (← hexValue? b)) * 256 + (← hexValue? c) * 16 + (← hexValue? d)

/-- Reads the four hexadecimal digits of a UTF-16 unit. -/
def readUnit (cur : Cursor) : Reading Nat :=
  match cur.afterBytes 4 with
  | none => .error (.placed .endInText cur.finish)
  | some position =>
      match cur.rest with
      | a :: b :: c :: d :: rest =>
          match hexUnit? a b c d with
          | some unit => .ok (unit, ⟨rest, cur.line, cur.column + 4⟩)
          | none => .error (.placed .badEscape position)
      | _ => .error (.placed .badEscape position)

/-- Reads the second unit of a pair of surrogates, behind the first. -/
def readLowSurrogate (high : Nat) (cur : Cursor) : Reading Char :=
  match cur.rest with
  | [] => cur.fail .endInText
  | slash :: _ =>
      if slash = '\\' then
        match cur.next.rest with
        | [] => cur.next.fail .endInText
        | letter :: _ =>
            if letter = 'u' then
              match readUnit cur.next.next with
              | .error fault => .error fault
              | .ok (low, after) =>
                  if 0xDC00 ≤ low ∧ low ≤ 0xDFFF then
                    .ok (Char.ofNat ((high - 0xD800) * 0x400 + (low - 0xDC00) + 0x10000), after)
                  else after.fail .loneSurrogate
            else cur.next.failAhead .hexEscapeEnds
      else cur.failAhead .hexEscapeEnds

/-- The characters with a short escape, by its letter. -/
def shortEscapes : List (Char × Char) :=
  [('"', '"'), ('\\', '\\'), ('/', '/'), ('b', '\x08'), ('f', '\x0c'), ('n', '\n'), ('r', '\r'),
    ('t', '\t')]

/-- Reads an escape behind its backslash. -/
def readEscape (cur : Cursor) : Reading Char :=
  match cur.rest with
  | [] => cur.fail .endInText
  | letter :: _ =>
      match shortEscapes.lookup letter with
      | some c => .ok (c, cur.next)
      | none =>
          if letter = 'u' then
            match readUnit cur.next with
            | .error fault => .error fault
            | .ok (unit, after) =>
                if 0xDC00 ≤ unit ∧ unit ≤ 0xDFFF then after.fail .loneSurrogate
                else if 0xD800 ≤ unit ∧ unit ≤ 0xDBFF then readLowSurrogate unit after
                else .ok (Char.ofNat unit, after)
          else cur.failAhead .badEscape

theorem length_next_lt {cur : Cursor} {c : Char} {rest : List Char} (h : cur.rest = c :: rest) :
    cur.next.rest.length < cur.rest.length := by
  simp only [Cursor.next, h, Cursor.behind]
  split <;> simp

theorem length_next_le (cur : Cursor) : cur.next.rest.length ≤ cur.rest.length := by
  cases h : cur.rest with
  | nil => simp [Cursor.next, h]
  | cons c rest => exact h ▸ Nat.le_of_lt (length_next_lt h)

theorem length_readUnit_le {cur after : Cursor} {unit : Nat}
    (h : readUnit cur = .ok (unit, after)) : after.rest.length ≤ cur.rest.length := by
  unfold readUnit at h
  split at h
  · cases h
  · split at h
    · rename_i left
      split at h
      · cases h
        simp only [left, List.length_cons]
        omega
      · cases h
    · cases h

theorem length_readLowSurrogate_le {cur after : Cursor} {high : Nat} {c : Char}
    (h : readLowSurrogate high cur = .ok (c, after)) : after.rest.length ≤ cur.rest.length := by
  unfold readLowSurrogate at h
  split at h
  · cases h
  · split at h
    · split at h
      · cases h
      · split at h
        · split at h
          · cases h
          · rename_i low place read
            split at h
            · simp only [Except.ok.injEq, Prod.mk.injEq] at h
              rw [← h.2]
              exact Nat.le_trans (length_readUnit_le read)
                (Nat.le_trans (length_next_le _) (length_next_le _))
            · cases h
        · cases h
    · cases h

theorem length_readEscape_lt {cur after : Cursor} {c : Char}
    (h : readEscape cur = .ok (c, after)) : after.rest.length < cur.rest.length := by
  unfold readEscape at h
  split at h
  · cases h
  · rename_i letter rest left
    have shorter := length_next_lt left
    split at h
    · cases h
      exact shorter
    · split at h
      · split at h
        · cases h
        · rename_i unit place read
          have unitLe := length_readUnit_le read
          split at h
          · cases h
          · split at h
            · have lowLe := length_readLowSurrogate_le h
              omega
            · cases h
              omega
      · cases h

/-- Reads on behind the characters `seen`, the last of them first, up to the closing quote. -/
def readTextAfter (seen : List Char) (cur : Cursor) : Reading (List Char) :=
  match left : cur.rest with
  | [] => cur.fail .endInText
  | c :: _ =>
      if c = '"' then .ok (seen.reverse, cur.next)
      else if c = '\\' then
        match read : readEscape cur.next with
        | .error fault => .error fault
        | .ok (escaped, after) =>
            have := Nat.lt_trans (length_readEscape_lt read) (length_next_lt left)
            readTextAfter (escaped :: seen) after
      else if c.toNat < 0x20 then cur.failAhead .controlCharacter
      else
        have := length_next_lt left
        readTextAfter (c :: seen) cur.next
  termination_by cur.rest.length

/-- Reads a text behind its opening quote. -/
def readText (cur : Cursor) : Reading String :=
  match readTextAfter [] cur with
  | .error fault => .error fault
  | .ok (text, after) => .ok (String.ofList text, after)

/-- Skips an escape behind its backslash. -/
def skipEscape (cur : Cursor) : Except Fault Cursor :=
  match cur.rest with
  | [] => cur.fail .endInText
  | letter :: _ =>
      if (shortEscapes.lookup letter).isSome then .ok cur.next
      else if letter = 'u' then
        match readUnit cur.next with
        | .error fault => .error fault
        | .ok (_, after) => .ok after
      else cur.failAhead .badEscape

theorem length_skipEscape_lt {cur after : Cursor} (h : skipEscape cur = .ok after) :
    after.rest.length < cur.rest.length := by
  unfold skipEscape at h
  split at h
  · cases h
  · rename_i letter rest left
    have shorter := length_next_lt left
    split at h
    · cases h
      exact shorter
    · split at h
      · split at h
        · cases h
        · rename_i unit place read
          have unitLe := length_readUnit_le read
          cases h
          omega
      · cases h

/-- Skips a text behind its opening quote. -/
def skipText (cur : Cursor) : Except Fault Cursor :=
  match left : cur.rest with
  | [] => cur.fail .endInText
  | c :: _ =>
      if c = '"' then .ok cur.next
      else if c = '\\' then
        match skipped : skipEscape cur.next with
        | .error fault => .error fault
        | .ok after =>
            have := Nat.lt_trans (length_skipEscape_lt skipped) (length_next_lt left)
            skipText after
      else if c.toNat < 0x20 then cur.fail .controlCharacter
      else
        have := length_next_lt left
        skipText cur.next
  termination_by cur.rest.length

/-- How a character is written inside a text. -/
def writeChar (c : Char) : List Char :=
  if c = '"' then ['\\', '"']
  else if c = '\\' then ['\\', '\\']
  else if c = '\x08' then ['\\', 'b']
  else if c = '\x0c' then ['\\', 'f']
  else if c = '\n' then ['\\', 'n']
  else if c = '\r' then ['\\', 'r']
  else if c = '\t' then ['\\', 't']
  else if c.toNat < 0x20 then
    ['\\', 'u', '0', '0', Nat.digitChar (c.toNat / 16), Nat.digitChar (c.toNat % 16)]
  else [c]

def writeText (text : String) : List Char :=
  '"' :: text.toList.flatMap writeChar ++ ['"']

end AudioCapture.Json
