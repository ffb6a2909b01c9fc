import AudioCapture.Ring.Basic

/-!
# Traffic on a ring

A ring in the middle of a write and of a read. Neither side waits for the other: a call looks at
the count of the other side, then at its own, copies element by element, and at last publishes its
own count. Every one of these is a step of its own, so the steps of the two sides can come in any
order.

* `run_write`: a write that nobody comes between does what `Ring.write` says.
* `run_read`: the same of a read.
-/

namespace AudioCapture

/-- Where the writer stands. -/
inductive WriterPoint (α : Type) where
  | outside
  /-- About to look how much has been read. -/
  | called (items : List α)
  /-- Has seen that `consumed` elements have been read. -/
  | looked (items : List α) (consumed : Nat)
  /-- About to copy the first of `left` into the slot of the count `next`; the call has accepted
  `accepted` elements. With nothing left, about to publish. -/
  | copying (next : Nat) (left : List α) (accepted : Nat)
  deriving Repr

/-- Where the reader stands. -/
inductive ReaderPoint (α : Type) where
  | outside
  /-- About to look how much has been written. A call for one element has no limit of its own. -/
  | called (most : Option Nat)
  /-- Has seen that `written` elements have been written. -/
  | looked (most : Option Nat) (written : Nat)
  /-- About to copy the element of the count `next` and `left - 1` more, after those `taken`. With
  none left, about to publish. -/
  | copying (next left : Nat) (taken : List α)
  deriving Repr

structure Traffic (α : Type) where
  ring : Ring α
  writer : WriterPoint α := .outside
  reader : ReaderPoint α := .outside

inductive TrafficEvent (α : Type) where
  | write (items : List α)
  | read (most : Nat)
  | readOne
  /-- The writer takes its next step. -/
  | writer
  /-- The reader takes its next step. -/
  | reader

/-- What a step hands back to its side: a call that comes to its end. -/
inductive TrafficReply (α : Type) where
  | nothing
  /-- A write ends and has accepted so many elements. -/
  | accepted (count : Nat)
  /-- A read ends with elements. -/
  | delivered (items : List α)
  deriving Repr

namespace Traffic

variable {α : Type}

def stepWriter (t : Traffic α) : Traffic α × TrafficReply α :=
  match t.writer with
  | .outside => (t, .nothing)
  | .called items => ({ t with writer := .looked items t.ring.consumed }, .nothing)
  | .looked items consumed =>
      let accepted := items.take (t.ring.capacity - t.ring.span t.ring.written consumed)
      if accepted.isEmpty then ({ t with writer := .outside }, .accepted 0)
      else
        ({ t with writer := .copying t.ring.written accepted accepted.length }, .nothing)
  | .copying next [] accepted =>
      ({ t with ring := { t.ring with written := next }, writer := .outside }, .accepted accepted)
  | .copying next (item :: left) accepted =>
      ({ t with ring := t.ring.store next item, writer := .copying (next + 1) left accepted },
        .nothing)

/-- How many elements a read takes that has seen a count of written ones. -/
def readLength (r : Ring α) (most : Option Nat) (written : Nat) : Nat :=
  match most with
  | some most => min (r.span written r.consumed) most
  | none => if written ≤ r.consumed then 0 else 1

def stepReader (t : Traffic α) : Traffic α × TrafficReply α :=
  match t.reader with
  | .outside => (t, .nothing)
  | .called most => ({ t with reader := .looked most t.ring.written }, .nothing)
  | .looked most written =>
      let length := readLength t.ring most written
      if length = 0 then ({ t with reader := .outside }, .delivered [])
      else ({ t with reader := .copying t.ring.consumed length [] }, .nothing)
  | .copying next 0 taken =>
      ({ t with ring := { t.ring with consumed := next }, reader := .outside }, .delivered taken)
  | .copying next (left + 1) taken =>
      ({ t with reader := .copying (next + 1) left (taken ++ (t.ring.load? next).toList) },
        .nothing)

/-- A step; a call is only made by a side that is outside of one. -/
def step (t : Traffic α) : TrafficEvent α → Traffic α × TrafficReply α
  | .write items =>
      match t.writer with
      | .outside => ({ t with writer := .called items }, .nothing)
      | _ => (t, .nothing)
  | .read most =>
      match t.reader with
      | .outside => ({ t with reader := .called (some most) }, .nothing)
      | _ => (t, .nothing)
  | .readOne =>
      match t.reader with
      | .outside => ({ t with reader := .called none }, .nothing)
      | _ => (t, .nothing)
  | .writer => t.stepWriter
  | .reader => t.stepReader

def run (t : Traffic α) : List (TrafficEvent α) → Traffic α
  | [] => t
  | event :: events => run (t.step event).1 events

/-- The replies of a run, in order. -/
def replies (t : Traffic α) : List (TrafficEvent α) → List (TrafficReply α)
  | [] => []
  | event :: events => (t.step event).2 :: replies (t.step event).1 events

@[simp] theorem run_append (t : Traffic α) (first second : List (TrafficEvent α)) :
    t.run (first ++ second) = (t.run first).run second := by
  induction first generalizing t with
  | nil => rfl
  | cons event events ih => exact ih _

theorem replies_append (t : Traffic α) (first second : List (TrafficEvent α)) :
    t.replies (first ++ second) = t.replies first ++ (t.run first).replies second := by
  induction first generalizing t with
  | nil => rfl
  | cons event events ih => simp [replies, run, ih]

/-! ## Calls that nobody comes between -/

theorem run_copying (r : Ring α) (reader : ReaderPoint α) (next : Nat) (left : List α)
    (accepted : Nat) :
    (Traffic.mk r (.copying next left accepted) reader).run
        (List.replicate (left.length + 1) .writer) =
      ⟨{ r.copyIn next left with written := next + left.length }, .outside, reader⟩ := by
  induction left generalizing r next with
  | nil => rfl
  | cons item left ih =>
    rw [List.length_cons, List.replicate_succ]
    show ((Traffic.mk (r.store next item) (.copying (next + 1) left accepted) reader).run
      (List.replicate (left.length + 1) .writer)) = _
    rw [ih]
    simp only [Ring.copyIn, Nat.add_assoc, Nat.add_comm 1]

theorem stepWriter_looked (r : Ring α) (reader : ReaderPoint α) (items : List α) :
    (Traffic.mk r (.looked items r.consumed) reader).stepWriter =
      if (items.take r.free).isEmpty then (⟨r, .outside, reader⟩, .accepted 0)
      else (⟨r, .copying r.written (items.take r.free) (items.take r.free).length, reader⟩,
        .nothing) := rfl

/-- A write that nobody comes between leaves the ring as `Ring.write` does. -/
theorem run_write (r : Ring α) (reader : ReaderPoint α) (items : List α) :
    ∃ steps ring, (Traffic.mk r .outside reader).run
        (.write items :: List.replicate steps .writer) = ⟨ring, .outside, reader⟩ ∧
      ring.Same (r.write items).1 := by
  have start : (Traffic.mk r .outside reader).run
      (.write items :: List.replicate 2 .writer) =
      (Traffic.mk r (.looked items r.consumed) reader).stepWriter.1 := rfl
  by_cases none : (items.take r.free).isEmpty = true
  · refine ⟨2, r, ?_, ?_⟩
    · rw [start, stepWriter_looked, if_pos none]
    · simpa [List.isEmpty_iff.1 none, Ring.copyIn] using
        Ring.copyIn_same_write r items
  · refine ⟨2 + ((items.take r.free).length + 1), _, ?_, Ring.copyIn_same_write r items⟩
    rw [← List.replicate_append_replicate, ← List.cons_append, run_append, start,
      stepWriter_looked, if_neg none, run_copying]

theorem run_reading (r : Ring α) (writer : WriterPoint α) (next left : Nat) (taken : List α) :
    ((Traffic.mk r writer (.copying next left taken)).run
        (List.replicate (left + 1) .reader) =
      ⟨{ r with consumed := next + left }, writer, .outside⟩) ∧
    (Traffic.mk r writer (.copying next left taken)).replies
        (List.replicate (left + 1) .reader) =
      List.replicate left .nothing ++ [.delivered (taken ++ r.elements next left)] := by
  induction left generalizing next taken with
  | zero => simp [run, replies, step, stepReader, Ring.elements, Ring.gather]
  | succ left ih =>
    obtain ⟨ran, replied⟩ := ih (next + 1) (taken ++ (r.load? next).toList)
    rw [List.replicate_succ]
    constructor
    · show (Traffic.mk r writer (.copying (next + 1) left _)).run _ = _
      rw [ran, Nat.add_assoc, Nat.add_comm 1]
    · show .nothing :: (Traffic.mk r writer (.copying (next + 1) left _)).replies _ = _
      rw [replied, List.append_assoc]
      have out : r.elements next (left + 1) =
          (r.load? next).toList ++ r.elements (next + 1) left := by
        have shift : (fun i => r.load? (next + i)) ∘ Nat.succ =
            fun i => r.load? (next + 1 + i) := by
          funext i
          show r.load? (next + (i + 1)) = _
          rw [Nat.add_assoc, Nat.add_comm 1]
        simp only [Ring.elements, Ring.gather, List.range_succ_eq_map, List.filterMap_cons,
          List.filterMap_map, Nat.add_zero, shift]
        cases r.load? next <;> rfl
      rw [out, List.replicate_succ, List.cons_append]

theorem stepReader_looked (r : Ring α) (writer : WriterPoint α) (most : Nat) :
    (Traffic.mk r writer (.looked (some most) r.written)).stepReader =
      if min r.readable most = 0 then (⟨r, writer, .outside⟩, .delivered [])
      else (⟨r, writer, .copying r.consumed (min r.readable most) []⟩, .nothing) := rfl

/-- A read that nobody comes between. -/
theorem run_read (r : Ring α) (writer : WriterPoint α) (most : Nat) :
    ∃ steps, (Traffic.mk r writer .outside).run (.read most :: List.replicate steps .reader) =
        ⟨(r.read most).1, writer, .outside⟩ ∧
      ((Traffic.mk r writer .outside).replies
        (.read most :: List.replicate steps .reader)).getLast? =
        some (.delivered (r.read most).2) := by
  have start : (Traffic.mk r writer .outside).run (.read most :: List.replicate 2 .reader) =
      (Traffic.mk r writer (.looked (some most) r.written)).stepReader.1 := rfl
  have shown : (Traffic.mk r writer .outside).replies (.read most :: List.replicate 2 .reader) =
      [.nothing, .nothing,
        (Traffic.mk r writer (.looked (some most) r.written)).stepReader.2] := rfl
  by_cases none : min r.readable most = 0
  · refine ⟨2, ?_, ?_⟩
    · rw [start, stepReader_looked, if_pos none]
      simp only [Ring.read, none]
      rfl
    · rw [shown, stepReader_looked, if_pos none]
      simp only [Ring.read, none]
      rfl
  · refine ⟨2 + (min r.readable most + 1), ?_, ?_⟩
    · rw [← List.replicate_append_replicate, ← List.cons_append, run_append, start,
        stepReader_looked, if_neg none, (run_reading ..).1]
      rfl
    · rw [← List.replicate_append_replicate, ← List.cons_append, replies_append, start, shown,
        stepReader_looked, if_neg none, (run_reading ..).2, ← List.append_assoc,
        List.getLast?_concat, Ring.read_snd]
      rfl

end Traffic

end AudioCapture
