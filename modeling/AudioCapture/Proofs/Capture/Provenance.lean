import AudioCapture.Proofs.Capture.Accounts
import AudioCapture.Proofs.Capture.Reads

/-!
# Where published bytes come from

The buffer is used again for every read, and each read is offered another part of it. So a byte that
an iteration publishes was stored by the latest read that stored anything at its place, be it one
that failed, and is zero if there was none (`published_stored`). A device that stores what it
reports keeps old bytes from being published.

* `Exchange.Account` — what each read stores, place by place;
* `Exchange.Account.latest` — the buffer after some reads, told from what they stored.
-/

namespace AudioCapture

/-! ## Stores -/

/-- What a read stores: the byte for each place where it stores one. -/
abbrev Stores := Nat → Option UInt8

/-- The byte is what the latest read up to a number stored at a place; it is zero if none of them
stored anything there. -/
def Latest (stores : Nat → Stores) (number place : Nat) (byte : UInt8) : Prop :=
  (∃ writer ≤ number, stores writer place = some byte ∧
      ∀ later, writer < later → later ≤ number → stores later place = none) ∨
    byte = 0 ∧ ∀ read ≤ number, stores read place = none

namespace Exchange

variable {read : Exchange} {reads : List Exchange} {before : ReadBuffer} {stores : Nat → Stores}

/-- A read has stored these bytes into the buffer, all of them within its room, and has left the
rest of it as it was. -/
structure Stored (read : Exchange) (before : ReadBuffer) (stored : Stores) : Prop where
  within : ∀ place, stored place ≠ none → place < read.room
  left : ∀ place, read.leave before place = (stored place).getD (before place)

/-- What each of several reads has stored, into the buffer as those before have left it. -/
def Account (reads : List Exchange) (stores : Nat → Stores) : Prop :=
  ∀ (number : Nat) (read : Exchange), reads[number]? = some read →
    read.Stored (leaveAll (reads.take number) .blank) (stores number)

theorem leave_of_le (read : Exchange) (buffer : ReadBuffer) {place : Nat}
    (behind : read.room ≤ place) : read.leave buffer place = buffer place :=
  buffer.within_of_le behind read.fill

/-- Whatever a read makes of the buffer, it is as if it had stored its whole room. -/
theorem stored_room (read : Exchange) (before : ReadBuffer) :
    read.Stored before fun place =>
      if place < read.room then some (read.leave before place) else none where
  within place stored := Decidable.byContradiction fun behind => stored (if_neg behind)
  left place := by
    split
    · rfl
    · rename_i behind
      exact read.leave_of_le before (Nat.not_lt.1 behind)

theorem exists_account (reads : List Exchange) : ∃ stores, Account reads stores := by
  refine ⟨fun number place => reads[number]?.bind fun read =>
    if place < read.room then
      some (read.leave (leaveAll (reads.take number) .blank) place) else none, ?_⟩
  intro number read there
  simp only [there, Option.bind_some]
  exact read.stored_room _

/-- A read that stores bytes from the start on. -/
theorem stored_overlay (bytes : Array UInt8) (ending : ReadEnd) (room : Nat)
    (before : ReadBuffer) :
    (Exchange.mk room (fun buffer => buffer.overlay bytes) ending).Stored before fun place =>
      if place < room then bytes[place]? else none where
  within place stored := Decidable.byContradiction fun behind => stored (if_neg behind)
  left place := by
    by_cases inside : place < room
    · have here := before.within_of_lt inside fun buffer => buffer.overlay bytes
      rw [if_pos inside]
      refine here.trans ?_
      by_cases given : place < bytes.size
      · rw [before.overlay_of_lt bytes given, Array.getElem?_eq_getElem given]
        rfl
      · rw [before.overlay_of_le bytes (Nat.not_lt.1 given),
          Array.getElem?_eq_none (Nat.not_lt.1 given)]
        rfl
    · rw [if_neg inside]
      exact before.within_of_le (Nat.not_lt.1 inside) _

/-- The latest store is what the buffer shows. -/
theorem Account.latest (account : Account reads stores) {number : Nat}
    (there : number < reads.length) (place : Nat) :
    Latest stores number place (leaveAll (reads.take (number + 1)) .blank place) := by
  -- the induction is on the reads: each leaves what was there, unless it stores something
  have last : ∀ number, number < reads.length →
      leaveAll (reads.take (number + 1)) .blank place =
        (stores number place).getD (leaveAll (reads.take number) .blank place) := by
    intro number there
    have here : reads[number]? = some reads[number] := List.getElem?_eq_getElem there
    rw [List.take_add_one, here, Option.toList_some, leaveAll_concat]
    exact (account number _ here).left place
  induction number with
  | zero =>
    rw [last 0 there]
    cases stored : stores 0 place with
    | some byte =>
      exact .inl ⟨0, Nat.le_refl 0, stored, fun later after within => by omega⟩
    | none =>
      refine .inr ⟨rfl, fun read first => ?_⟩
      rw [Nat.le_zero.1 first]
      exact stored
  | succ number ih =>
    rw [last (number + 1) there]
    cases stored : stores (number + 1) place with
    | some byte =>
      exact .inl ⟨number + 1, Nat.le_refl _, stored, fun later after within => by omega⟩
    | none =>
      rcases ih (by omega) with ⟨writer, within, wrote, kept⟩ | ⟨zero, never⟩
      · refine .inl ⟨writer, by omega, wrote, fun later after within => ?_⟩
        rcases Nat.lt_or_eq_of_le within with before | rfl
        · exact kept later after (by omega)
        · exact stored
      · refine .inr ⟨zero, fun read within => ?_⟩
        rcases Nat.lt_or_eq_of_le within with before | rfl
        · exact never read (by omega)
        · exact stored

end Exchange

/-- A published byte stands in the buffer, within what was reported and what was offered. -/
theorem Iteration.published_getElem? {i : Iteration} {place : Nat} {byte : UInt8}
    (published : i.published[place]? = some byte) :
    ∃ count, i.ending = some (.transferred count) ∧ place < min count.toNat i.room ∧
      i.buffer place = byte := by
  unfold Iteration.published at published
  split at published
  · rename_i count ended stored
    have within : place < min count.toNat i.room := by
      have inside := (List.getElem?_eq_some_iff.1 published).1
      rwa [ReadBuffer.length_front] at inside
    rw [ReadBuffer.getElem?_front _ within] at published
    exact ⟨count, ended, within, Option.some.inj published⟩
  · cases published

/-! ## A run -/

namespace Capture

/-- What a step offers, and what it does to the buffer of a thread that has so many bytes. -/
structure Confines (c : Capture) (length : Nat) (event : CaptureEvent) : Prop where
  /-- A read that begins is offered the first bytes, as many as there is free space. -/
  offered : ∀ room, (c.step event).2.offered = some room →
    room = c.data.ring.free ∧ room ≤ length ∧ (c.step event).1.point = .reading room
  /-- A read that comes back has changed none of the bytes behind those that it was offered. -/
  returned : ∀ read, c.exchange? event = some read → c.point = .reading read.room ∧
    ∀ place, read.room ≤ place → (c.step event).1.buffer place = c.buffer place
  /-- Nothing else changes the buffer. -/
  kept : c.exchange? event = none → (c.step event).1.buffer = c.buffer

theorem confines {c : Capture} {length : Nat} (capacity : c.data.ring.capacity = length)
    (event : CaptureEvent) : c.Confines length event where
  offered room begins := by
    obtain ⟨rfl, granted, rfl⟩ := offered_step begins
    have level := c.data.ring.readable_add_free
    refine ⟨rfl, by omega, ?_⟩
    show c.proceed.1.point = _
    rw [proceed_granted granted]
  returned read back := by
    have buffer := c.buffer_step event
    rw [back] at buffer
    refine ⟨(point_of_exchange? back).1, fun place behind => ?_⟩
    rw [buffer]
    exact read.leave_of_le c.buffer behind
  kept unread := by
    have buffer := c.buffer_step event
    rwa [unread] at buffer

variable {chunkSize chunkCount : Nat}

/-- **Provenance**: the reads that have come back go with the iterations, number by number, and
each was offered the free space that there was, at the start of a buffer of which it has changed
nothing else. However one accounts for what each read has stored — and for every device one can —
each byte that an iteration publishes is what the latest read up to its own stored at that place, or
zero if there was none. If every successful read has stored as many bytes from the start on as it
reported and had room for, each byte was stored by the read of the iteration itself. -/
theorem published_stored (positive : 0 < chunkSize * chunkCount) (priority : ThreadPriority)
    (requester : Requester) (events : List CaptureEvent) :
    let c := fresh chunkSize chunkCount priority requester
    let w := c.history events
    let reads := c.exchanges events
    ((c.replies events).flatMap CaptureReply.bytes ++ (c.run events).data.ring.contents =
        w.iterations.flatMap Iteration.published ∧
      ∀ (number : Nat) (i : Iteration) (ending : ReadEnd), w.iterations[number]? = some i →
        i.ending = some ending → ∃ read, reads[number]? = some read ∧ read.room = i.room ∧
          read.ending = ending) ∧
      (∀ event, (c.run events).Confines (chunkSize * chunkCount) event) ∧
      (∃ stores, Exchange.Account reads stores) ∧
      ∀ stores, Exchange.Account reads stores →
        (∀ (number : Nat) (i : Iteration) (place : Nat) (byte : UInt8),
          w.iterations[number]? = some i → i.published[place]? = some byte →
            Latest stores number place byte) ∧
        ((∀ (number : Nat) (read : Exchange) (count : UInt64), reads[number]? = some read →
            read.ending = .transferred count →
              ∀ place < min count.toNat read.room, stores number place ≠ none) →
          ∀ (number : Nat) (i : Iteration) (place : Nat) (byte : UInt8),
            w.iterations[number]? = some i → i.published[place]? = some byte →
              stores number place = some byte) := by
  intro c w reads
  have exact := Observed.exact_history positive priority requester events
  have paired := Observed.paired_history positive priority requester events
  have same : w.capture = c.run events := Observed.run_capture _ events
  have drained : w.drained = (c.replies events).flatMap CaptureReply.bytes :=
    (Observed.run_drained _ events).trans (List.nil_append _)
  -- each published byte is one of the buffer as the read of the same number has left it
  have source : ∀ (number : Nat) (i : Iteration) (place : Nat) (byte : UInt8),
      w.iterations[number]? = some i → i.published[place]? = some byte →
        ∃ read count, reads[number]? = some read ∧ read.ending = .transferred count ∧
          place < min count.toNat read.room ∧
          Exchange.leaveAll (reads.take (number + 1)) .blank place = byte := by
    intro number i place byte here published
    obtain ⟨count, ended, within, stands⟩ := Iteration.published_getElem? published
    obtain ⟨read, there, room, ending, buffer⟩ := paired.read exact.standing here ended
    exact ⟨read, count, there, ending, room ▸ within, by rw [← buffer, stands]⟩
  refine ⟨⟨?_, ?_⟩, ?_, Exchange.exists_account reads, ?_⟩
  · rw [← drained, ← same]
    exact exact.stream
  · intro number i ending here ended
    obtain ⟨read, there, room, last, -⟩ := paired.read exact.standing here ended
    exact ⟨read, there, room, last⟩
  · have capacity := Observed.capacity_history c events
    change w.capture.data.ring.capacity = chunkSize * chunkCount at capacity
    rw [same] at capacity
    exact confines capacity
  intro stores account
  have latest : ∀ (number : Nat) (i : Iteration) (place : Nat) (byte : UInt8),
      w.iterations[number]? = some i → i.published[place]? = some byte →
        Latest stores number place byte := by
    intro number i place byte here published
    obtain ⟨read, count, there, -, -, rfl⟩ := source number i place byte here published
    exact account.latest (List.getElem?_eq_some_iff.1 there).1 place
  refine ⟨latest, ?_⟩
  intro stored number i place byte here published
  obtain ⟨read, count, there, ending, within, -⟩ := source number i place byte here published
  obtain ⟨own, wrote⟩ :=
    Option.ne_none_iff_exists'.1 (stored number read count there ending place within)
  rcases latest number i place byte here published with ⟨writer, before, left, later⟩ | ⟨-, never⟩
  · rcases Nat.lt_or_eq_of_le before with earlier | rfl
    · cases (later number earlier (Nat.le_refl number)).symm.trans wrote
    · exact left
  · cases (never number (Nat.le_refl number)).symm.trans wrote

/-- A read that stores what it reports, one that stores two bytes and fails, and one that reports
four bytes but stores a single one. -/
def CaptureEvent.stale : List CaptureEvent :=
  let failing := { fill := fun buffer => buffer.overlay #[5, 6], ending := .failed .io }
  [.proceed, .proceed, .proceed] ++ CaptureEvent.turn (.ofBytes [1, 2, 3] 3) [] ++ [.drain 3] ++
    CaptureEvent.turn failing [] ++ CaptureEvent.turn (.ofBytes [9] 4) []

theorem exchanges_stale : (fresh 2 2 .normal .ignoring).exchanges CaptureEvent.stale =
    [⟨4, fun buffer => buffer.overlay #[1, 2, 3], .transferred 3⟩,
      ⟨4, fun buffer => buffer.overlay #[5, 6], .failed .io⟩,
      ⟨4, fun buffer => buffer.overlay #[9], .transferred 4⟩] := rfl

/-- The last iteration publishes a byte of each read, and one that was never stored. -/
theorem published_stored_stale :
    let stores : Nat → Stores := fun number place =>
      if place < 4 then ([#[1, 2, 3], #[5, 6], #[9]][number]?.getD #[])[place]? else none
    (0 < 2 * 2 ∧ ((fresh 2 2 .normal .ignoring).replies CaptureEvent.stale).flatMap
        CaptureReply.bytes ++
          ((fresh 2 2 .normal .ignoring).run CaptureEvent.stale).data.ring.contents =
            [1, 2, 3, 9, 6, 3, 0]) ∧
      Exchange.Account ((fresh 2 2 .normal .ignoring).exchanges CaptureEvent.stale) stores ∧
      Latest stores 2 0 9 ∧ Latest stores 2 1 6 ∧ Latest stores 2 2 3 ∧ Latest stores 2 3 0 := by
  intro stores
  have stored := @published_stored 2 2 (by decide) .normal .ignoring CaptureEvent.stale
  have account :
      Exchange.Account ((fresh 2 2 .normal .ignoring).exchanges CaptureEvent.stale) stores := by
    rw [exchanges_stale]
    intro number read there
    match number with
    | 0 => cases there; exact Exchange.stored_overlay #[1, 2, 3] _ 4 _
    | 1 => cases there; exact Exchange.stored_overlay #[5, 6] _ 4 _
    | 2 => cases there; exact Exchange.stored_overlay #[9] _ 4 _
    | number + 3 => cases there
  have latest : ∀ place byte,
      ((((fresh 2 2 .normal .ignoring).history CaptureEvent.stale).iterations[2]?).bind fun i =>
        i.published[place]?) = some byte → Latest stores 2 place byte := by
    intro place byte published
    obtain ⟨i, here, shown⟩ := Option.bind_eq_some_iff.1 published
    exact (stored.2.2.2 stores account).1 2 i place byte here shown
  exact ⟨⟨by decide, stored.1.1.trans (by decide)⟩, account, latest 0 9 (by decide),
    latest 1 6 (by decide), latest 2 3 (by decide), latest 3 0 (by decide)⟩

end Capture

end AudioCapture
