/-!
# Read buffers

The buffer that a capture thread offers to its device, as the byte at each place. It is used again
for every read and starts out with zeros.

* `overlay_of_lt`, `overlay_of_le`: what is stored is there afterwards, and the rest stays.
* `within_of_lt`, `within_of_le`: a change within a length leaves the bytes behind it alone.
-/

namespace AudioCapture

abbrev ReadBuffer := Nat → UInt8

namespace ReadBuffer

def blank : ReadBuffer := fun _ => 0

/-- The byte at a place; there always is one. -/
def byte? (buffer : ReadBuffer) (place : Nat) : Option UInt8 := some (buffer place)

/-- The first bytes. -/
def front (buffer : ReadBuffer) (length : Nat) : List UInt8 := (List.range length).map buffer

/-- Stores bytes from the start on. -/
def overlay (buffer : ReadBuffer) (bytes : Array UInt8) : ReadBuffer := fun place =>
  if h : place < bytes.size then bytes[place] else buffer place

/-- Stores one byte in as many places. -/
def flood (buffer : ReadBuffer) (length : Nat) (byte : UInt8) : ReadBuffer := fun place =>
  if place < length then byte else buffer place

/-- Stores bytes that count on from a start, in as many places. -/
def count (buffer : ReadBuffer) (length : Nat) (start : UInt8) : ReadBuffer := fun place =>
  if place < length then start + .ofNat place else buffer place

/-- A change of the buffer, as far as it concerns the first bytes. -/
def within (buffer : ReadBuffer) (length : Nat) (change : ReadBuffer → ReadBuffer) : ReadBuffer :=
  let changed := change buffer
  fun place => if place < length then changed place else buffer place

@[simp] theorem length_front (buffer : ReadBuffer) (length : Nat) :
    (buffer.front length).length = length := by
  simp [front]

theorem getElem?_front (buffer : ReadBuffer) {length place : Nat} (h : place < length) :
    (buffer.front length)[place]? = some (buffer place) := by
  simp [front, h]

theorem overlay_of_lt (buffer : ReadBuffer) (bytes : Array UInt8) {place : Nat}
    (h : place < bytes.size) : buffer.overlay bytes place = bytes[place] := by
  simp [overlay, h]

theorem overlay_of_le (buffer : ReadBuffer) (bytes : Array UInt8) {place : Nat}
    (h : bytes.size ≤ place) : buffer.overlay bytes place = buffer place := by
  simp [overlay, Nat.not_lt.2 h]

theorem within_of_lt (buffer : ReadBuffer) {length place : Nat} (h : place < length)
    (change : ReadBuffer → ReadBuffer) :
    buffer.within length change place = change buffer place := by
  simp [within, h]

theorem within_of_le (buffer : ReadBuffer) {length place : Nat} (h : length ≤ place)
    (change : ReadBuffer → ReadBuffer) :
    buffer.within length change place = buffer place := by
  simp [within, Nat.not_lt.2 h]

end ReadBuffer

end AudioCapture
