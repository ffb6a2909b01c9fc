import AudioCapture.Json.Text

/-!
# Skipping JSON values

A value nobody asked for is checked for its form alone: numbers are not evaluated, surrogates may
stand alone, and lists and objects may be nested to any depth. The open lists and objects are kept
in a stack, so the depth costs nothing but its length.
-/

namespace AudioCapture.Json

/-- What has to come next in a text, exactly. -/
def Cursor.word (cur : Cursor) : List Char → Except Fault Cursor
  | [] => .ok cur
  | c :: word =>
      match cur.rest with
      | [] => cur.fail .endInValue
      | d :: _ => if c = d then cur.next.word word else cur.failAhead .expectedWord

/-- The digits that come next, at least one of them. -/
def skipDigits (cur : Cursor) : Except Fault Cursor :=
  match cur.digits with
  | ([], _) => cur.failAhead .badNumber
  | (_, after) => .ok after

def skipExponent (cur : Cursor) : Except Fault Cursor :=
  match cur.next.rest with
  | c :: _ => if c = '+' ∨ c = '-' then skipDigits cur.next.next else skipDigits cur.next
  | [] => skipDigits cur.next

/-- Skips a number behind its sign. -/
def skipNumber (cur : Cursor) : Except Fault Cursor :=
  match cur.digits with
  | ([], _) => cur.failAhead .badNumber
  | (0 :: _ :: _, _) => cur.next.failAhead .badNumber
  | (_, after) =>
      match after.rest with
      | [] => .ok after
      | c :: _ =>
          if c = '.' then
            match skipDigits after.next with
            | .error fault => .error fault
            | .ok decimals =>
                match decimals.rest with
                | [] => .ok decimals
                | d :: _ => if d = 'e' ∨ d = 'E' then skipExponent decimals else .ok decimals
          else if c = 'e' ∨ c = 'E' then skipExponent after
          else .ok after

/-- Skips a value that is neither a list nor an object and starts with `c`. -/
def skipSimple (c : Char) (cur : Cursor) : Except Fault Cursor :=
  if c = 'n' then cur.next.word ['u', 'l', 'l']
  else if c = 't' then cur.next.word ['r', 'u', 'e']
  else if c = 'f' then cur.next.word ['a', 'l', 's', 'e']
  else if c = '-' then skipNumber cur.next
  else if '0' ≤ c ∧ c ≤ '9' then skipNumber cur
  else if c = '"' then skipText cur.next
  else cur.failAhead .expectedValue

/-- The colon behind a key. -/
def Cursor.colon (cur : Cursor) : Except Fault Cursor :=
  let cur := cur.skipBlanks
  match cur.rest with
  | [] => cur.fail .endInObject
  | c :: _ => if c = ':' then .ok cur.next else cur.failAhead .expectedColon

/-- Skips a key and its colon. -/
def skipKey (cur : Cursor) : Except Fault Cursor :=
  let cur := cur.skipBlanks
  match cur.rest with
  | [] => cur.fail .endInObject
  | c :: _ =>
      if c = '"' then
        match skipText cur.next with
        | .error fault => .error fault
        | .ok after => after.colon
      else cur.failAhead .keyNotText

/-- What is open around the value in hand. -/
inductive Frame where
  | list
  | object
  deriving DecidableEq, Repr

namespace Frame

def closing : Frame → Char
  | list => ']'
  | object => '\x7d'

def unfinished : Frame → Reason
  | list => .endInList
  | object => .endInObject

def expected : Frame → Reason
  | list => .expectedCommaOrBracket
  | object => .expectedCommaOrBrace

/-- The frame that a character opens. -/
def opened? (c : Char) : Option Frame :=
  if c = '[' then some list else if c = '\x7b' then some object else none

/-- What comes before a value in a frame: nothing in a list, a key in an object. -/
def enter : Frame → Cursor → Except Fault Cursor
  | list, cur => .ok cur
  | object, cur => skipKey cur

end Frame

/-- Skips what is left of the open frames: a value if one is due, then the rest of the innermost
frame. `fuel` bounds the characters left; every round uses up at least one. -/
def skipOpen : Nat → Bool → List Frame → Cursor → Except Fault Cursor
  | 0, _, _, cur => cur.fail .endInValue
  | fuel + 1, true, frames, cur =>
      let cur := cur.skipBlanks
      match cur.rest with
      | [] => cur.fail .endInValue
      | c :: _ =>
          match Frame.opened? c with
          | none =>
              match skipSimple c cur with
              | .error fault => .error fault
              | .ok after => skipOpen fuel false frames after
          | some frame =>
              let inner := cur.next.skipBlanks
              match inner.rest with
              | [] => inner.fail frame.unfinished
              | d :: _ =>
                  if d = frame.closing then skipOpen fuel false frames inner.next
                  else
                    match frame.enter inner with
                    | .error fault => .error fault
                    | .ok after => skipOpen fuel true (frame :: frames) after
  | _ + 1, false, [], cur => .ok cur
  | fuel + 1, false, frame :: frames, cur =>
      let cur := cur.skipBlanks
      match cur.rest with
      | [] => cur.fail frame.unfinished
      | c :: _ =>
          if c = ',' then
            match frame.enter cur.next with
            | .error fault => .error fault
            | .ok after => skipOpen fuel true (frame :: frames) after
          else if c = frame.closing then skipOpen fuel false frames cur.next
          else cur.failAhead frame.expected

/-- Skips a value of any kind. -/
def skipValue (cur : Cursor) : Except Fault Cursor :=
  skipOpen (cur.rest.length + 2) true [] cur

end AudioCapture.Json
