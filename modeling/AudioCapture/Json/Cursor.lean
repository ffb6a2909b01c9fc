/-!
# Cursors

A place in a JSON text: what is left of the text, and the line and column up to it. Lines count
from one; a column is the number of bytes of the line that lie behind.
-/

namespace AudioCapture.Json

structure Position where
  line : Nat
  column : Nat
  deriving DecidableEq, Repr

structure Cursor where
  rest : List Char
  line : Nat := 1
  column : Nat := 0
  deriving DecidableEq, Repr

namespace Cursor

def start (text : String) : Cursor := { rest := text.toList }

/-- The cursor behind `c`, with `rest` left. -/
def behind (cur : Cursor) (c : Char) (rest : List Char) : Cursor :=
  if c = '\n' then ⟨rest, cur.line + 1, 0⟩ else ⟨rest, cur.line, cur.column + c.utf8Size⟩

/-- The cursor behind the next character. -/
def next (cur : Cursor) : Cursor :=
  match cur.rest with
  | [] => cur
  | c :: rest => cur.behind c rest

def here (cur : Cursor) : Position := ⟨cur.line, cur.column⟩

/-- The place one byte further on. -/
def ahead (cur : Cursor) : Position :=
  match cur.rest with
  | [] => cur.here
  | c :: _ => if c = '\n' then ⟨cur.line + 1, 0⟩ else ⟨cur.line, cur.column + 1⟩

/-- The blanks of JSON. -/
def isBlank (c : Char) : Bool := c == ' ' || c == '\n' || c == '\t' || c == '\r'

def skipBlanksIn : List Char → Nat → Nat → Cursor
  | [], line, column => ⟨[], line, column⟩
  | c :: rest, line, column =>
      if c = '\n' then skipBlanksIn rest (line + 1) 0
      else if isBlank c then skipBlanksIn rest line (column + 1)
      else ⟨c :: rest, line, column⟩

def skipBlanks (cur : Cursor) : Cursor := skipBlanksIn cur.rest cur.line cur.column

def digitsIn : List Char → Nat → Nat → List Nat × Cursor
  | [], line, column => ([], ⟨[], line, column⟩)
  | c :: rest, line, column =>
      if '0' ≤ c ∧ c ≤ '9' then
        let (digits, cur) := digitsIn rest line (column + 1)
        ((c.toNat - 48) :: digits, cur)
      else ([], ⟨c :: rest, line, column⟩)

/-- The decimal digits that come next, and the cursor behind them. -/
def digits (cur : Cursor) : List Nat × Cursor := digitsIn cur.rest cur.line cur.column

/-- The place `count` bytes further on, if the text has that many. -/
def afterBytesIn : List Char → Nat → Nat → Nat → Option Position
  | _, 0, line, column => some ⟨line, column⟩
  | [], _ + 1, _, _ => none
  | c :: rest, count + 1, line, column =>
      if c = '\n' then afterBytesIn rest count (line + 1) 0
      else if count + 1 < c.utf8Size then some ⟨line, column + count + 1⟩
      else afterBytesIn rest (count + 1 - c.utf8Size) line (column + c.utf8Size)

def afterBytes (cur : Cursor) (count : Nat) : Option Position :=
  afterBytesIn cur.rest count cur.line cur.column

/-- The place behind the whole text. -/
def finish (cur : Cursor) : Position :=
  (cur.rest.foldl (fun place c => place.behind c []) cur).here

end Cursor

end AudioCapture.Json
