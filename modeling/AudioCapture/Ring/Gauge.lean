import AudioCapture.Ring.Traffic

/-!
# Level queries

A ring that is asked for its level while elements go through it. A query looks at the count of the
writer and, in a step of its own, at the count of the reader; anything may come between the two
looks. The writer and the reader may ask as well, but not inside of a call, and while they ask they
make no call.

* `run_ask`: a query that nobody comes between tells what `Ring.readable` says.
-/

namespace AudioCapture

/-- Who asks for the level. -/
inductive Asker where
  | writer
  | reader
  | other (number : Nat)
  deriving DecidableEq, Repr

/-- The side that an event calls for. -/
def TrafficEvent.caller? {α : Type} : TrafficEvent α → Option Asker
  | .write _ => some .writer
  | .read _ | .readOne => some .reader
  | .writer | .reader => none

/-- The side is inside of a call. -/
def Traffic.isBusy {α : Type} (t : Traffic α) : Asker → Bool
  | .writer => match t.writer with
    | .outside => false
    | _ => true
  | .reader => match t.reader with
    | .outside => false
    | _ => true
  | .other _ => false

structure Gauge (α : Type) where
  traffic : Traffic α
  /-- The count of the writer that an asker has seen whose query is under way. -/
  seen : Asker → Option Nat := fun _ => none

inductive GaugeEvent (α : Type) where
  | traffic (event : TrafficEvent α)
  /-- An asker takes the next look of its query, or the first one of a new query. -/
  | ask (asker : Asker)

def GaugeEvent.caller? {α : Type} : GaugeEvent α → Option Asker
  | .traffic event => event.caller?
  | .ask _ => none

namespace Gauge

variable {α : Type}

/-- Where an asker stands from now on. -/
def note (g : Gauge α) (asker : Asker) (seen : Option Nat) : Gauge α :=
  { g with seen := fun who => if who = asker then seen else g.seen who }

/-- A step; also how many elements there are to read, if a query comes to its end. What there is to
write is what that leaves of the capacity. -/
def step (g : Gauge α) : GaugeEvent α → Gauge α × Option Nat
  | .traffic event =>
      if (event.caller?.bind g.seen).isSome then (g, none)
      else ({ g with traffic := (g.traffic.step event).1 }, none)
  | .ask asker =>
      if g.traffic.isBusy asker then (g, none)
      else
        match g.seen asker with
        | none => (g.note asker (some g.traffic.ring.written), none)
        | some written =>
            (g.note asker none, some (g.traffic.ring.span written g.traffic.ring.consumed))

def run (g : Gauge α) (events : List (GaugeEvent α)) : Gauge α :=
  events.foldl (fun g event => (g.step event).1) g

/-- How many elements are unread. -/
def level (g : Gauge α) : Nat := g.traffic.ring.contents.length

/-- A query that nobody comes between. -/
theorem run_ask (g : Gauge α) {asker : Asker} (idle : g.traffic.isBusy asker = false)
    (fresh : g.seen asker = none) :
    ((g.step (.ask asker)).1.step (.ask asker)).2 = some g.traffic.ring.readable := by
  simp [step, idle, fresh, note, Ring.readable]

end Gauge

end AudioCapture
