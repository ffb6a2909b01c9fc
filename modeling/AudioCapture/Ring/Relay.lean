import AudioCapture.Ring.Basic

/-!
# Relays

A text that goes through a ring: a writer sends what is left of it in pieces, a reader receives in
pieces of its own. Calls that find no room or nothing to read move nothing.

* `run` takes the calls in any order; `alternate` takes them in turns.
-/

namespace AudioCapture

structure Relay (α : Type) where
  ring : Ring α
  unsent : List α
  received : Array α := #[]
  /-- The most that one write sends. -/
  writePiece : Nat
  /-- The most that one read receives. -/
  readPiece : Nat

inductive RelayCall where
  | send
  | receive
  deriving DecidableEq, Repr

namespace Relay

variable {α : Type}

def send (r : Relay α) : Relay α :=
  let (ring, count) := r.ring.write (r.unsent.take r.writePiece)
  { r with ring, unsent := r.unsent.drop count }

def receive (r : Relay α) : Relay α :=
  let (ring, items) := r.ring.read r.readPiece
  { r with ring, received := r.received ++ items }

def call (r : Relay α) : RelayCall → Relay α
  | .send => r.send
  | .receive => r.receive

def run (r : Relay α) (calls : List RelayCall) : Relay α := calls.foldl call r

def isDone (r : Relay α) : Bool := r.unsent.isEmpty && r.ring.readable == 0

/-- Takes turns for a number of rounds, or until everything has arrived. -/
def alternate (r : Relay α) : Nat → Relay α
  | 0 => r
  | rounds + 1 => if r.isDone then r else r.send.receive.alternate rounds

/-- Takes turns until everything has arrived: every round brings an element. -/
def finish (r : Relay α) : Relay α := r.alternate (r.unsent.length + r.ring.readable)

end Relay

/-- A checksum of a text in which the places of its bytes count. -/
def checksum (bytes : Array UInt8) : Nat :=
  ((List.range bytes.size).zip bytes.toList).foldl
    (fun sum (place, byte) => (sum + (place % 65521 + 1) * (byte.toNat + 1)) % 1000000007) 0

end AudioCapture
