import AudioCapture.Proofs.Capture.Lossless
import AudioCapture.Proofs.Session.Transport
import AudioCapture.Source.Simulated

/-!
# Sessions that lose nothing

A device that never reports more than it was offered loses nothing in a session, whatever its
consumer does and whenever the two get their turns (`Tracked.lossless`). What the consumer has got
and can still get are the bytes that the device has reported, read by read. For a simulated device
that counts, these count on from one read to the next (`nothing_lost`).

* `Exchange.CountOn` — reads that count on, each as far as it has room;
* `Simulated.counts_on` — those of a counting device without a script.
-/

namespace AudioCapture

/-! ## Reads that count on -/

namespace Exchange

/-- Successive reads that count on from a start, by as many bytes each as it has room for but for
`most` at most; others report nothing. -/
def CountOn (most : UInt64) : UInt8 → List Exchange → Prop
  | _, [] => True
  | start, read :: rest =>
      let length := min most.toNat read.room
      (read = (DeviceRead.counting start length).offered read.room ∧
          CountOn most (start + .ofNat length) rest) ∨
        (read.ending.count = 0 ∧ CountOn most start rest)

variable {most : UInt64} {start : UInt8} {reads : List Exchange}

/-- The count of a read that counts on is a word, so it is reported as it is. -/
theorem count_counting (most : UInt64) (start : UInt8) (room : Nat) :
    (DeviceRead.counting start (min most.toNat room)).ending.count = min most.toNat room := by
  have below : min most.toNat room < UInt64.size :=
    Nat.lt_of_le_of_lt (Nat.min_le_left ..) most.toNat_lt
  exact UInt64.toNat_ofNat_of_lt' below

theorem CountOn.fits (counts : CountOn most start reads) : ∀ read ∈ reads, read.Fits := by
  induction reads generalizing start with
  | nil => simp
  | cons read rest ih =>
    rcases counts with ⟨same, counts⟩ | ⟨none, counts⟩
    · refine List.forall_mem_cons.2 ⟨?_, ih counts⟩
      rw [same]
      exact Nat.le_trans (Nat.le_of_eq (count_counting most start read.room)) (Nat.min_le_right ..)
    · exact List.forall_mem_cons.2 ⟨Nat.le_trans (Nat.le_of_eq none) (Nat.zero_le _), ih counts⟩

theorem CountOn.of_append {more : List Exchange} (counts : CountOn most start (reads ++ more)) :
    CountOn most start reads := by
  induction reads generalizing start with
  | nil => trivial
  | cons read rest ih =>
    rcases counts with ⟨same, counts⟩ | ⟨none, counts⟩
    · exact .inl ⟨same, ih counts⟩
    · exact .inr ⟨none, ih counts⟩

/-- The bytes that count on from a start. -/
def countedOn (start : UInt8) (length : Nat) : List UInt8 :=
  (List.range length).map fun place => start + .ofNat place

theorem countedOn_zero (length : Nat) : countedOn 0 length = (List.range length).map UInt8.ofNat :=
  List.map_congr_left fun _ _ => UInt8.zero_add _

theorem length_countedOn (start : UInt8) (length : Nat) :
    (countedOn start length).length = length := by
  rw [countedOn, List.length_map, List.length_range]

theorem countedOn_add (start : UInt8) (length more : Nat) :
    countedOn start (length + more) =
      countedOn start length ++ countedOn (start + .ofNat length) more := by
  unfold countedOn
  rw [List.range_add, List.map_append, List.map_map]
  refine congrArg _ (List.map_congr_left fun place _ => ?_)
  show start + UInt8.ofNat (length + place) = start + .ofNat length + .ofNat place
  rw [UInt8.ofNat_add, UInt8.add_assoc]

/-- The first of bytes that count on count on. -/
theorem eq_countedOn_of_append {bytes rest : List UInt8} {length : Nat}
    (counted : bytes ++ rest = countedOn start length) :
    bytes = countedOn start bytes.length := by
  have total : bytes.length + rest.length = length := by
    rw [← List.length_append, counted, length_countedOn]
  rw [← total, countedOn_add] at counted
  exact (List.append_inj counted (length_countedOn start _).symm).1

/-- What a read that counts on leaves at the start of the buffer. -/
theorem front_counting (start : UInt8) {length room : Nat} (fits : length ≤ room)
    (buffer : ReadBuffer) :
    (((DeviceRead.counting start length).offered room).leave buffer).front length =
      countedOn start length := by
  refine List.map_congr_left fun place member => ?_
  have inside : place < length := List.mem_range.1 member
  have within := buffer.within_of_lt (Nat.lt_of_lt_of_le inside fits)
    (DeviceRead.counting start length).fill
  exact within.trans (if_pos inside)

theorem CountOn.allReported (counts : CountOn most start reads) (buffer : ReadBuffer) :
    ∃ length, allReported reads buffer = countedOn start length := by
  induction reads generalizing start buffer with
  | nil => exact ⟨0, rfl⟩
  | cons read rest ih =>
    rcases counts with ⟨same, counts⟩ | ⟨none, counts⟩
    · obtain ⟨more, later⟩ := ih counts (read.leave buffer)
      refine ⟨min most.toNat read.room + more, ?_⟩
      have reported : read.ending.count = min most.toNat read.room := by
        rw [same]
        exact count_counting most start read.room
      have bytes : (read.leave buffer).front (min most.toNat read.room) =
          countedOn start (min most.toNat read.room) := by
        rw [same]
        exact front_counting start (Nat.min_le_right ..) buffer
      rw [allReported_cons, reported, bytes, later, countedOn_add]
    · obtain ⟨more, later⟩ := ih counts (read.leave buffer)
      refine ⟨more, ?_⟩
      rw [allReported_cons, none, later]
      rfl

end Exchange

/-! ## Counting devices -/

namespace Simulated

/-- A call that begins with a look at the device. -/
theorem run_get_bind {α : Type} (next : Simulated → Attempt Simulated α) (device : Simulated) :
    (get >>= next : Attempt Simulated α).run.run device = (next device).run.run device := rfl

/-- No call but a read changes what a simulated device reads. -/
theorem stream_after (device : Simulated) {call : DeviceCall}
    (unread : ∀ offered, call ≠ .read offered) :
    (source.after device call).pattern = device.pattern ∧
      (source.after device call).script = device.script ∧
      (source.after device call).counter = device.counter := by
  cases call with
  | read offered => exact absurd rfl (unread offered)
  | setGain | setSampleRate | setConnectedState | parameter | capturePosition | stop =>
    simp only [AudioSource.after, source, run_get_bind]
    split <;> exact ⟨rfl, rfl, rfl⟩
  | _ => exact ⟨rfl, rfl, rfl⟩

/-- A read of a counting device without a script; one that was closed is read in vain. -/
theorem read_counting {device : Simulated} {most : UInt64}
    (pattern : device.pattern = .counting most) (unscripted : device.script = [])
    (offered : Nat) :
    (read offered).run device =
      let length := min most.toNat offered
      let asked := { device with reads := device.reads + 1 }
      if device.closed then ({ ending := .failed .noDevice }, asked)
      else (.counting device.counter length,
        { asked with counter := device.counter + .ofNat length }) := by
  show answerRead { device with reads := device.reads + 1 } offered = _
  have same : ({ device with reads := device.reads + 1 } : Simulated).closed = device.closed := rfl
  unfold answerRead
  rw [same]
  split
  · rfl
  · simp only [pattern, unscripted, readPattern]
    rfl

theorem counts_on {device : Simulated} {most : UInt64} (pattern : device.pattern = .counting most)
    (unscripted : device.script = []) (calls : List DeviceCall) :
    Exchange.CountOn most device.counter (source.exchanges device calls) := by
  induction calls generalizing device with
  | nil => trivial
  | cons call calls ih =>
    have later : ∀ next : Simulated, next.pattern = .counting most → next.script = [] →
        Exchange.CountOn most next.counter (source.exchanges next calls) := fun _ => ih
    by_cases reading : ∃ offered, call = .read offered
    · obtain ⟨offered, rfl⟩ := reading
      have answers := read_counting pattern unscripted offered
      show Exchange.CountOn most device.counter
        (((read offered).run device).1.offered offered ::
          source.exchanges ((read offered).run device).2 calls)
      rw [answers]
      dsimp only
      split
      · have gone := later { device with reads := device.reads + 1 } pattern unscripted
        exact .inr ⟨rfl, gone⟩
      · have counted := later { device with
          reads := device.reads + 1
          counter := device.counter + .ofNat (min most.toNat offered) } pattern unscripted
        exact .inl ⟨rfl, counted⟩
    · have unread : ∀ offered, call ≠ .read offered := fun offered same => reading ⟨offered, same⟩
      obtain ⟨same, script, counter⟩ := device.stream_after unread
      have rest := later _ (same.trans pattern) (script.trans unscripted)
      rw [counter] at rest
      cases call with
      | read offered => exact absurd rfl (unread offered)
      | _ => exact rest

end Simulated

/-! ## Sessions -/

/-- The device never reports more than it was offered. -/
def AudioSource.StaysWithin {σ : Type} (source : AudioSource σ) : Prop :=
  ∀ offered device count, ((source.read offered).run device).1.ending = .transferred count →
    count.toNat ≤ offered

theorem AudioSource.StaysWithin.fits {σ : Type} {source : AudioSource σ}
    (within : source.StaysWithin) (device : σ) (calls : List DeviceCall) :
    ∀ read ∈ source.exchanges device calls, read.Fits := by
  induction calls generalizing device with
  | nil => simp [AudioSource.exchanges]
  | cons call calls ih =>
    cases call with
    | read offered =>
      refine List.forall_mem_cons.2 ⟨?_, ih _⟩
      show ((source.read offered).run device).1.ending.count ≤ offered
      cases ending : ((source.read offered).run device).1.ending with
      | transferred count => exact within offered device count ending
      | failed | brokeDown => exact Nat.zero_le offered
    | _ => exact ih _

/-- A snapshot shows that nothing was lost. -/
structure Diagnostics.Whole (shown : Diagnostics) : Prop where
  shortWrites : shown.shortWrites = 0
  bytesDropped : shown.bytesDropped = 0
  bytesPublished : shown.bytesPublished = shown.bytesRead

theorem Tally.Whole.snapshot {tally : Tally} (h : tally.Whole) (state : WorkerState) :
    (tally.snapshot state).Whole where
  shortWrites := congrArg UInt64.ofNat h.shortWrites
  bytesDropped := congrArg UInt64.ofNat h.bytesDropped
  bytesPublished := congrArg UInt64.ofNat h.bytesPublished

namespace Session

variable {σ : Type} {inner : AudioSource σ} {start : σ} {s : Session (Logged σ)}
  {c : Capture} {events : List CaptureEvent} {seen : List CaptureReply}

/-- Whether the thread is in a read, or about to publish what one has reported. -/
def isReading (s : Session σ) : Prop :=
  ∃ c, s.capture = some c ∧
    ((∃ free, c.point = .reading free) ∨ ∃ free reported, c.point = .storing free reported)

/-- What the consumer can still get of the transport. -/
def unread (s : Session σ) : List UInt8 := (s.capture.map fun c => c.data.ring.contents).getD []

/-- A session has lost nothing of what its device has reported since that was in the state `start`;
the consumer has seen `seen`. -/
structure Lossless (inner : AudioSource σ) (start : σ) (s : Session (Logged σ))
    (seen : List CaptureReply) : Prop where
  /-- The counts of the thread, before they are shown as words. -/
  counted : ∀ c, s.capture = some c → c.tally.Whole
  shown : s.diagnostics.Whole
  unwarned : ∀ notice ∈ s.threadLog, notice.isShort = false
  published : Exchange.Published (inner.exchanges start s.device.calls) s.isReading
    (seen.flatMap CaptureReply.bytes ++ s.unread)

theorem Follows.diagnostics_whole (h : Follows inner start c events s seen) (fresh : c.IsFresh)
    (fits : ∀ read ∈ c.exchanges events, read.Fits) : s.diagnostics.Whole := by
  -- a snapshot shows what was counted by the time it was taken
  have snapshot : ∀ earlier, earlier <+: events → (c.run earlier).diagnostics.Whole := by
    rintro earlier ⟨rest, rfl⟩
    rw [Capture.exchanges_append, List.forall_mem_append] at fits
    exact (Capture.loses_nothing fresh fits.1).whole.snapshot _
  unfold Session.diagnostics
  cases thread : s.thread? with
  | some d =>
    rw [h.run_eq (capture_of_thread? thread)]
    exact snapshot events List.prefix_rfl
  | none =>
    cases kept : s.lastDiagnostics with
    | none => exact ⟨rfl, rfl, rfl⟩
    | some shown =>
      obtain ⟨earlier, before, rfl⟩ := h.counts shown kept
      exact snapshot earlier before

/-- What the consumer can still get is what the run of the transport has left there. -/
theorem Follows.unread_eq (h : Follows inner start c events s seen) (fresh : c.IsFresh) :
    s.unread = (c.run events).data.ring.contents := by
  unfold unread
  rcases h.here with here | ⟨none, rfl⟩
  · rw [here]
    rfl
  · obtain ⟨size, count, priority, requester, -, rfl⟩ := fresh
    rw [none]
    exact (Ring.contents_empty (size * count)).symm

theorem Follows.published (h : Follows inner start c events s seen) (fresh : c.IsFresh)
    (lossless : c.Lossless events) :
    Exchange.Published (inner.exchanges start s.device.calls) s.isReading
      (seen.flatMap CaptureReply.bytes ++ s.unread) := by
  -- a thread that has yet to be made is neither in a read nor past one
  have busy (point : (c.run events).point ≠ .launched) : s.capture = some (c.run events) := by
    rcases h.here with here | ⟨-, rfl⟩
    · exact here
    · exact absurd fresh.point point
  obtain ⟨done, awaited, split, few, storing, published⟩ := lossless.published
  rw [h.reads, h.view.bytes, h.unread_eq fresh]
  by_cases within : ∃ free, (c.run events).point = .reading free
  · obtain ⟨free, point⟩ := within
    have none : awaited = [] := by
      cases awaited with
      | nil => rfl
      | cons read rest =>
        obtain ⟨_, _, other⟩ := storing (List.cons_ne_nil read rest)
        cases point.symm.trans other
    rw [none, List.append_nil] at split
    refine ⟨done, (c.run events).underway s.pendingRead, by rw [split], ?_, fun _ => ?_, published⟩
    · rw [Capture.underway_of_reading point]
      cases s.pendingRead <;> simp
    · exact ⟨_, busy (by simp [point]), .inl ⟨free, point⟩⟩
  · rw [Capture.underway_of_elsewhere (fun free point => within ⟨free, point⟩), List.append_nil]
    refine ⟨done, awaited, split, few, fun some => ?_, published⟩
    obtain ⟨free, reported, point⟩ := storing some
    exact ⟨_, busy (by simp [point]), .inr ⟨free, reported, point⟩⟩

theorem Tracked.lossless (h : Tracked inner start s seen)
    (fits : ∀ read ∈ inner.exchanges start s.device.calls, read.Fits) :
    s.Lossless inner start seen := by
  obtain ⟨c, events, fresh, follows⟩ := h
  rw [follows.reads, List.forall_mem_append] at fits
  have lossless : c.Lossless events := Capture.loses_nothing fresh fits.1
  refine ⟨?_, follows.diagnostics_whole fresh fits.1, ?_, follows.published fresh lossless⟩
  · intro d here
    rw [follows.run_eq here]
    exact lossless.whole
  · intro notice member
    exact lossless.unwarned notice (follows.log ▸ member)

/-- The bytes of reads that count on count on, as far as the consumer has got them and as far as it
still can get them. -/
theorem Lossless.counted_on {most : UInt64} {first : UInt8} (h : s.Lossless inner start seen)
    (counts : Exchange.CountOn most first (inner.exchanges start s.device.calls)) :
    let drained := seen.flatMap CaptureReply.bytes
    drained = Exchange.countedOn first drained.length ∧
      drained ++ s.unread = Exchange.countedOn first (drained ++ s.unread).length := by
  intro drained
  obtain ⟨done, awaited, split, -, -, published⟩ := h.published
  rw [split] at counts
  obtain ⟨length, counted⟩ := counts.of_append.allReported .blank
  have all : drained ++ s.unread = Exchange.countedOn first length := published.trans counted
  exact ⟨Exchange.eq_countedOn_of_append all,
    Exchange.eq_countedOn_of_append ((List.append_nil _).trans all)⟩

/-- **Nothing is lost**: if a device never reports more than it was offered, nothing it reports is
counted as dropped, no short write is noticed, and what the consumer has got and can still get are
all the bytes that its reads have reported, one read after the other, but for those of the last
read while the thread is busy with that. So what a counting device without a script delivers counts
on from zero, in whatever pieces it is read and drained. -/
theorem nothing_lost (config : SessionConfig) (events : List SessionEvent) :
    (∀ {σ : Type} (inner : AudioSource σ) (device : σ) (s₀ : Session (Logged σ)),
      inner.StaysWithin → create (Logged.source inner) { device } config = .ok s₀ →
        (s₀.run events).Lossless inner device
          ((s₀.replies events).flatMap SessionReply.seen)) ∧
      ∀ (device : Simulated) (most : UInt64) (s₀ : Session (Logged Simulated)),
        device.pattern = .counting most → device.script = [] → device.counter = 0 →
        create (Logged.source Simulated.source) { device } config = .ok s₀ →
          let seen := (s₀.replies events).flatMap SessionReply.seen
          let drained := seen.flatMap CaptureReply.bytes
          let unread := (s₀.run events).unread
          (s₀.run events).Lossless Simulated.source device seen ∧
            drained = (List.range drained.length).map UInt8.ofNat ∧
            drained ++ unread = (List.range (drained ++ unread).length).map UInt8.ofNat := by
  refine ⟨?_, ?_⟩
  · intro σ inner device s₀ within created
    exact (tracked_run created events).lossless (within.fits device _)
  · intro device most s₀ pattern unscripted zero created seen drained unread
    have counts := Simulated.counts_on pattern unscripted (s₀.run events).device.calls
    have lossless := (tracked_run created events).lossless counts.fits
    have counted := lossless.counted_on counts
    rw [zero] at counted
    simp only [Exchange.countedOn_zero] at counted
    exact ⟨lossless, counted⟩

/-- A device that fills whatever it is offered, all with the same bytes. -/
def fillingSource : AudioSource Simulated :=
  { Simulated.source with read := fun offered => return .counting 7 offered }

/-- Both devices in a session whose consumer drains in the middle of the second read. -/
theorem nothing_lost_counting :
    let events := survivalSample ++ [.aside (.consumer (.drain 3))] ++ survivalLater
    let device : Simulated := { pattern := .counting 5 }
    ∃ (s₀ : Session (Logged Simulated)) (t₀ : Session (Logged Simulated)),
      create (Logged.source Simulated.source) { device } {} = .ok s₀ ∧
        create (Logged.source fillingSource) { device } {} = .ok t₀ ∧
        fillingSource.StaysWithin ∧
        ((s₀.replies events).flatMap SessionReply.seen).flatMap CaptureReply.bytes =
          [0, 1, 2, 3, 4, 5, 6, 7] ∧
        (s₀.run events).Lossless Simulated.source device
          ((s₀.replies events).flatMap SessionReply.seen) ∧
        (t₀.run events).Lossless fillingSource device
          ((t₀.replies events).flatMap SessionReply.seen) := by
  intro events device
  have within : fillingSource.StaysWithin := by
    intro offered device count ending
    cases ending
    exact Nat.le_trans (Nat.le_of_eq (UInt64.toNat_ofNat' ..)) (Nat.mod_le ..)
  obtain ⟨filling, counting⟩ := nothing_lost {} events
  obtain ⟨lossless, -⟩ := counting device 5 _ rfl rfl rfl rfl
  exact ⟨_, _, rfl, rfl, within, by decide, lossless, filling fillingSource device _ within rfl⟩

end Session

end AudioCapture
