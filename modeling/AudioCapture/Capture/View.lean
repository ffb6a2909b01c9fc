import AudioCapture.Capture.Basic
import AudioCapture.Notice

/-!
# What a consumer sees

The fill levels of a transport and the text of it.
-/

namespace AudioCapture

/-- The fill level of a ring. -/
structure FillLevel where
  capacity : Nat
  readable : Nat
  free : Nat
  deriving DecidableEq, Repr

def Ring.fill {α : Type} (r : Ring α) : FillLevel := ⟨r.capacity, r.readable, r.free⟩

namespace Capture

/-- The text of the consumer's end. -/
def text (c : Capture) : String :=
  s!"TransportDescriptor \x7b id: {transportMark}, chunk_byte_size: {c.chunkSize}, " ++
    s!"chunk_count: {c.chunkCount}, data: {c.data.text} \x7d"

end Capture

end AudioCapture
