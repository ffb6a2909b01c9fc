import AudioCapture.Proofs.Capture.Accounts
import AudioCapture.Proofs.Capture.Losses
import AudioCapture.Proofs.Capture.Reads

/-!
# Captures that lose nothing

A read that reports no more than it was offered is published as a whole: the space that was free
when it began still is when its bytes are stored. So if every read does that, nothing is counted as
lost, no short write is noticed, and what has been published are the bytes that the reads have
reported, one read after the other (`Capture.loses_nothing`).
-/

namespace AudioCapture

/-- The count that a read reports; none if it does not succeed. -/
def ReadEnd.count : ReadEnd → Nat
  | .transferred count => count.toNat
  | _ => 0

theorem Iteration.reported_eq {i : Iteration} {ending : ReadEnd} (ended : i.ending = some ending) :
    i.reported = ending.count := by
  unfold reported
  rw [ended]
  cases ending <;> rfl

/-- The counts are those of a thread that has published all that was reported. -/
structure Tally.Whole (tally : Tally) : Prop where
  shortWrites : tally.shortWrites = 0
  bytesDropped : tally.bytesDropped = 0
  bytesPublished : tally.bytesPublished = tally.bytesRead

/-- The bytes that a read has reported, in the buffer as it has left that. -/
def reportedBytes : Nat × ReadEnd × ReadBuffer → List UInt8
  | (_, ending, buffer) => buffer.front ending.count

namespace Exchange

/-- The read has reported no more than it was offered. -/
def Fits (read : Exchange) : Prop := read.ending.count ≤ read.room

/-- All the bytes that reads have reported, one after the other. -/
def allReported (reads : List Exchange) (buffer : ReadBuffer) : List UInt8 :=
  (traces reads buffer).flatMap reportedBytes

theorem allReported_cons (read : Exchange) (rest : List Exchange) (buffer : ReadBuffer) :
    allReported (read :: rest) buffer =
      (read.leave buffer).front read.ending.count ++ allReported rest (read.leave buffer) := rfl

/-- The bytes are all that reads have reported, but for those of the last read while the thread is
`busy` with it. -/
def Published (reads : List Exchange) (busy : Prop) (bytes : List UInt8) : Prop :=
  ∃ done awaited, reads = done ++ awaited ∧ awaited.length ≤ 1 ∧ (awaited ≠ [] → busy) ∧
    bytes = allReported done .blank

theorem published_all {reads : List Exchange} {busy : Prop} {bytes : List UInt8}
    (all : bytes = allReported reads .blank) : Published reads busy bytes :=
  ⟨reads, [], (List.append_nil reads).symm, Nat.zero_le 1, fun some => absurd rfl some, all⟩

end Exchange

/-! ## Iterations -/

namespace Iteration

variable {i : Iteration} {l : List Iteration}

/-- What the read of an iteration has reported, if it has come back. -/
theorem length_reportedBytes (i : Iteration) :
    (i.trace?.toList.flatMap reportedBytes).length = i.reported := by
  unfold trace?
  cases ended : i.ending with
  | none => simp [reported, ended]
  | some ending => simp [reportedBytes, reported_eq ended, ReadBuffer.length_front]

theorem published_of_fits (fits : i.reported ≤ i.room) (settled : i.Settled) :
    i.published = i.trace?.toList.flatMap reportedBytes := by
  unfold trace?
  cases ended : i.ending with
  | none => simp [published, ended]
  | some ending =>
    rw [reported_eq ended] at fits
    show _ = i.buffer.front ending.count ++ []
    rw [List.append_nil]
    cases ending with
    | transferred count =>
      have all : min count.toNat i.room = count.toNat := Nat.min_eq_left fits
      rcases settled with stored | none
      · simp only [published, ended, stored, all]
        rfl
      · rw [reported_eq ended] at none
        have empty : i.published = [] := by
          unfold published
          rw [ended]
          cases i.stored with
          | false => rfl
          | true => exact (congrArg i.buffer.front (all.trans none)).trans rfl
        rw [empty, none]
        rfl
    | failed status => simp only [published, ended]; rfl
    | brokeDown => simp only [published, ended]; rfl

theorem flatMap_published (settled : ∀ i ∈ l, i.Settled) (fits : ∀ i ∈ l, i.reported ≤ i.room) :
    l.flatMap published = (l.filterMap trace?).flatMap reportedBytes := by
  induction l with
  | nil => rfl
  | cons i rest ih =>
    rw [List.forall_mem_cons] at settled fits
    rw [List.flatMap_cons, published_of_fits fits.1 settled.1, ih settled.2 fits.2]
    cases kept : i.trace? <;> simp [kept]

/-- What several iterations count if none has reported more than it was offered. -/
theorem total_of_fits (fits : ∀ i ∈ l, i.reported ≤ i.room) : (total l).Whole := by
  induction l with
  | nil => exact ⟨rfl, rfl, rfl⟩
  | cons i rest ih =>
    rw [List.forall_mem_cons] at fits
    obtain ⟨short, dropped, published⟩ := ih fits.2
    have long : i.isShort = false := decide_eq_false (Nat.not_lt.2 fits.1)
    have none : i.excess = 0 := Nat.sub_eq_zero_of_le fits.1
    have own : i.published.length = if i.stored then i.reported else 0 := by
      cases stored : i.stored with
      | false => rw [published_eq_nil stored]; rfl
      | true => rw [published_of_fits fits.1 (.inl stored), length_reportedBytes]; rfl
    rw [total_cons]
    refine ⟨?_, ?_, ?_⟩
    · simp only [Tally.plus, share, long, Bool.and_false, Bool.toNat_false, short]
    · simp only [Tally.plus, share, none, ite_self, dropped]
    · simp only [Tally.plus, share, own, published]

end Iteration

/-! ## Observed captures -/

namespace Observed

variable {w : Observed} {reads : List Exchange}

theorem Paired.fits (h : w.Paired reads) (standing : w.Standing)
    (fits : ∀ read ∈ reads, read.Fits) : ∀ i ∈ w.iterations, i.reported ≤ i.room := by
  intro i member
  cases ended : i.ending with
  | none => simp [Iteration.reported, ended]
  | some ending =>
    obtain ⟨number, here⟩ := List.getElem?_of_mem member
    obtain ⟨read, there, room, last, -⟩ := h.read standing here ended
    rw [Iteration.reported_eq ended, ← room, ← last]
    exact fits read (List.mem_of_getElem? there)

/-- Only what the thread is about to publish is yet to be. -/
theorem Standing.settled_or_storing (h : w.Standing) {i : Iteration} (member : i ∈ w.iterations) :
    i.Settled ∨ w.current = some i ∧ i.stored = false ∧ (∃ ending, i.ending = some ending) ∧
      ∃ free reported, w.capture.point = .storing free reported := by
  rw [iterations, List.mem_append, Option.mem_toList] at member
  rcases member with old | current
  · exact .inl (h.past i old).settled
  have stands := h.stands
  rw [current] at stands
  cases point : w.capture.point with
  | storing free reported =>
    obtain ⟨count, -, same⟩ := stands.storing point
    cases same
    exact .inr ⟨current, rfl, ⟨_, rfl⟩, free, reported, rfl⟩
  | reading free =>
    cases stands.reading point
    exact .inl (.inr rfl)
  | recording outcome =>
    obtain ⟨_, ending, same, ended, -, stored, -⟩ := stands.recording point
    cases same
    exact .inl (Iteration.settled_of_stored ended stored)
  | signalling =>
    obtain ⟨_, same, complete⟩ := stands.signalling point
    cases same
    exact .inl complete.settled
  | brokenDown =>
    obtain ⟨ended, stored, -⟩ := stands.brokenDown point
    exact .inl (Iteration.settled_of_stored ended stored)
  | launched | requesting | entering | testing | waiting | granted | leaving | ended =>
    cases stands.between (by rw [point]; rfl)

/-- What has been published are the bytes that the reads have reported, but for those of one read
that the thread is about to publish. -/
theorem Paired.published (h : w.Paired reads) (standing : w.Standing)
    (fits : ∀ read ∈ reads, read.Fits) :
    Exchange.Published reads (∃ free reported, w.capture.point = .storing free reported)
      (w.iterations.flatMap Iteration.published) := by
  have within := h.fits standing fits
  by_cases settled : ∀ i ∈ w.iterations, i.Settled
  · apply Exchange.published_all
    rw [Iteration.flatMap_published settled within]
    exact congrArg (·.flatMap reportedBytes) h.traces
  · obtain ⟨i, unmet⟩ := Classical.not_forall.1 settled
    obtain ⟨member, unsettled⟩ := Classical.not_imp.1 unmet
    obtain ⟨current, unstored, ⟨ending, ended⟩, storing⟩ :=
      (standing.settled_or_storing member).resolve_left unsettled
    have kept : i.trace? = some (i.room, ending, i.buffer) := by rw [Iteration.trace?, ended]; rfl
    have iterations : w.iterations = w.past ++ [i] := by
      rw [Observed.iterations, current, Option.toList_some]
    have traces := h.traces
    rw [traces_eq, current, Option.bind_some, kept, Option.toList_some] at traces
    -- the last read is the one that is yet to be published
    rcases List.eq_nil_or_concat reads with none | ⟨before, last, rfl⟩
    · rw [none] at traces
      exact absurd traces (List.append_ne_nil_of_right_ne_nil _ (List.cons_ne_nil _ _))
    rw [List.concat_eq_append, Exchange.traces_concat] at traces
    obtain ⟨same, -⟩ := List.append_inj' traces rfl
    rw [iterations, List.forall_mem_append] at within
    have past := Iteration.flatMap_published (fun j old => (standing.past j old).settled) within.1
    refine ⟨before, [last], List.concat_eq_append, Nat.le_refl 1, fun _ => storing, ?_⟩
    rw [iterations, List.flatMap_append, past, List.flatMap_singleton,
      Iteration.published_eq_nil unstored, List.append_nil, same]
    rfl

theorem Paired.whole (h : w.Paired reads) (accounted : w.Accounted)
    (fits : ∀ read ∈ reads, read.Fits) : w.capture.tally.Whole := by
  have totals := Iteration.total_of_fits (h.fits accounted.exact.standing fits)
  rw [← accounted.counted] at totals
  exact ⟨totals.shortWrites, totals.bytesDropped, totals.bytesPublished⟩

end Observed

/-! ## All of it -/

namespace Capture

/-- What a thread leaves that has taken the steps `events` and has lost nothing. -/
structure Lossless (c : Capture) (events : List CaptureEvent) : Prop where
  whole : (c.run events).tally.Whole
  unwarned : ∀ notice ∈ c.remarks events, notice.isShort = false
  published : Exchange.Published (c.exchanges events)
    (∃ free reported, (c.run events).point = .storing free reported)
    ((c.replies events).flatMap CaptureReply.bytes ++ (c.run events).data.ring.contents)

theorem loses_nothing {c : Capture} (fresh : c.IsFresh) {events : List CaptureEvent}
    (fits : ∀ read ∈ c.exchanges events, read.Fits) : c.Lossless events := by
  obtain ⟨chunkSize, chunkCount, priority, requester, positive, rfl⟩ := fresh
  have observed : ∀ events, ((Capture.fresh chunkSize chunkCount priority requester).history
      events).capture = (Capture.fresh chunkSize chunkCount priority requester).run events :=
    fun events => Observed.run_capture _ events
  have accounted := Observed.accounted_history positive priority requester events
  have paired := Observed.paired_history positive priority requester events
  have whole := paired.whole accounted fits
  rw [observed] at whole
  refine ⟨whole, ?_, ?_⟩
  · -- as many short writes are noticed as are counted
    have counted := ((fresh chunkSize chunkCount priority requester).tells_run events).shortWrites
    rw [whole.shortWrites, show (fresh chunkSize chunkCount priority requester).tally.shortWrites =
      0 from rfl, Nat.zero_add] at counted
    intro notice member
    simpa using List.countP_eq_zero.1 counted.symm notice member
  · have published := paired.published accounted.exact.standing fits
    have stream := accounted.exact.stream
    have drained : ((Capture.fresh chunkSize chunkCount priority requester).history
        events).drained = _ := Observed.run_drained _ events
    rw [← stream, drained, observed] at published
    exact published

end Capture

end AudioCapture
