import AudioCapture.Proofs.Capture.History

/-!
# The byte stream of a capture

The consumer gets what the device delivered, in order, and each iteration delivers as many bytes as
the device reported and had room for when the iteration began (`drained_append_unread`). The
invariant is `Exact`: the free space never falls below the room of an iteration whose bytes are yet
to be stored, since only the thread itself takes space away.
-/

namespace AudioCapture

theorem Ring.Valid.free_le_read {α : Type} {r : Ring α} (h : r.Valid) (most : Nat) :
    r.free ≤ (r.read most).1.free := by
  rw [h.free_eq, (h.read most).free_eq, h.contents_read, List.length_drop]
  show r.capacity - _ ≤ r.capacity - _
  omega

/-- What the data write appends. -/
theorem Capture.contents_publish {c : Capture} (valid : c.data.ring.Valid) (free reported : Nat) :
    (c.publish free reported).1.data.ring.contents =
      c.data.ring.contents ++ c.buffer.front (min (min reported free) c.data.ring.free) := by
  have appended := valid.contents_writeFrom (min reported free) c.buffer.byte?
  rw [show Ring.gather c.buffer.byte? _ = _ from Ring.gather_some c.buffer _] at appended
  exact appended

theorem Iteration.published_eq_nil {i : Iteration} (unstored : i.stored = false) :
    i.published = [] := by
  unfold published
  rw [unstored]
  split <;> first | rfl | cases ‹_ = true›

namespace Observed

variable {w next : Observed}

/-! ## The invariant -/

structure Exact (w : Observed) : Prop where
  standing : w.Standing
  room : ∀ i, w.current = some i → i.stored = false → i.room ≤ w.capture.data.ring.free
  stream : w.drained ++ w.capture.data.ring.contents = w.iterations.flatMap Iteration.published

/-- A read that comes back publishes nothing yet. -/
theorem Exact.comeBack {free : Nat} {c : Capture} (h : w.Exact)
    (point : w.capture.point = .reading free) (read : DeviceRead)
    (ring : c.data.ring = w.capture.data.ring)
    (standing : Standing { w with capture := c, current := w.current.map (·.comeBack read) }) :
    Exact { w with capture := c, current := w.current.map (·.comeBack read) } := by
  have current := h.standing.stands.reading point
  refine ⟨standing, ?_, ?_⟩
  · rintro i same -
    simp only [current, Option.map_some, Option.some.injEq] at same
    have offered := h.room _ current rfl
    simp only [← same, ring]
    exact offered
  · have stream := h.stream
    let offered : Iteration := { room := free, buffer := w.capture.buffer }
    have before : offered.published = [] := Iteration.published_eq_nil rfl
    have after : (offered.comeBack read).published = [] := Iteration.published_eq_nil rfl
    simp only [iterations, current, ring, Option.map_some, Option.toList_some,
      List.flatMap_append, List.flatMap_singleton] at stream ⊢
    rw [stream, before, after]

theorem Exact.move (move : w.Move next) (h : w.Exact) : next.Exact := by
  have standing := h.standing.move move
  have stands := h.standing.stands
  cases move with
  | aside done aside =>
    refine ⟨standing, ?_, ?_⟩
    · simp only [aside.ring]
      exact h.room
    · simp only [aside.ring]
      exact h.stream
  | began point =>
    have idle := stands.between (by rw [point]; rfl)
    refine ⟨standing, ?_, ?_⟩
    · -- the room of the iteration is the free space as it is now
      rintro i same -
      cases same
      exact Nat.le_refl _
    · have stream := h.stream
      simp only [iterations, idle, Option.toList_none, Option.toList_some, List.append_nil,
        List.flatMap_append, List.flatMap_singleton] at stream ⊢
      rw [stream, Iteration.published_eq_nil rfl, List.append_nil]
  | succeeded free read count point ending => exact h.comeBack point read rfl standing
  | failed free read status point ending => exact h.comeBack point read rfl standing
  | brokeDown free read point ending => exact h.comeBack point read rfl standing
  | stored free reported point =>
    obtain ⟨count, rfl, current⟩ := stands.storing point
    refine ⟨standing, ?_, ?_⟩
    · intro i same unstored
      simp only [current, Option.map_some, Option.some.injEq] at same
      rw [← same] at unstored
      cases unstored
    · -- the room that was offered is still there, so nothing is cut off
      have room : free ≤ w.capture.data.ring.free := h.room _ current rfl
      have stream := h.stream
      simp only [iterations, current, Option.map_some, Option.toList_some, List.flatMap_append,
        List.flatMap_singleton] at stream ⊢
      rw [Iteration.published_eq_nil rfl, List.append_nil] at stream
      rw [Capture.contents_publish h.standing.data, ← List.append_assoc, stream,
        Nat.min_eq_left (by omega)]
      rfl
  | recorded outcome point =>
    obtain ⟨i, ending, current, ended, came, bytes, unrecorded⟩ := stands.recording point
    refine ⟨standing, ?_, ?_⟩
    · intro j same unstored
      simp only [current, Option.map_some, Option.some.injEq] at same
      simp only [Capture.publishRecord_fst, ← same] at unstored ⊢
      exact h.room i current unstored
    · have stream := h.stream
      simp only [Capture.publishRecord_fst, iterations, current, Option.map_some,
        Option.toList_some, List.flatMap_append, List.flatMap_singleton] at stream ⊢
      exact stream
  | signalled point =>
    refine ⟨standing, ?_, ?_⟩
    · intro i same
      cases same
    simp only [iterations, Option.toList_none, List.append_nil]
    exact h.stream
  | drained most =>
    refine ⟨standing, ?_, ?_⟩
    · -- the consumer only makes room
      intro i same unstored
      exact Nat.le_trans (h.room i same unstored) (h.standing.data.free_le_read most)
    · have taken := h.standing.data.read_append_contents most
      show (w.drained ++ (w.capture.data.ring.read most).2) ++
        (w.capture.data.ring.read most).1.contents = _
      rw [List.append_assoc, taken]
      exact h.stream
  | took => exact ⟨standing, h.room, h.stream⟩

variable {chunkSize chunkCount : Nat}

theorem exact_fresh (positive : 0 < chunkSize * chunkCount) (priority : ThreadPriority)
    (requester : Requester) :
    Exact { capture := .fresh chunkSize chunkCount priority requester } :=
  ⟨standing_fresh positive priority requester, nofun, rfl⟩

theorem exact_history (positive : 0 < chunkSize * chunkCount) (priority : ThreadPriority)
    (requester : Requester) (events : List CaptureEvent) :
    ((Capture.fresh chunkSize chunkCount priority requester).history events).Exact :=
  run_induction Exact Exact.move (exact_fresh positive priority requester) events

end Observed

/-! ## The refinement -/

namespace Capture

variable {chunkSize chunkCount : Nat}

/-- **Byte stream**: whatever the device makes of its buffer and reports, and whatever the consumer
does in between, what it has drained and what it can still read are the bytes of the successful
reads whose data write has been done, of each as many as were reported and as there was room for
when its iteration began. Space that becomes free during a read makes no difference: the data
write appends what was reported and offered. -/
theorem drained_append_unread (positive : 0 < chunkSize * chunkCount) (priority : ThreadPriority)
    (requester : Requester) (events : List CaptureEvent) :
    let c := Capture.fresh chunkSize chunkCount priority requester
    (c.replies events).flatMap CaptureReply.bytes ++ (c.run events).data.ring.contents =
        (c.history events).iterations.flatMap Iteration.published ∧
      ∀ free reported, (c.run events).point = .storing free reported →
        (c.history events).current.map Iteration.room = some free ∧
          (c.run (events ++ [.proceed])).data.ring.contents =
            (c.run events).data.ring.contents ++
              (c.run events).buffer.front (min reported free) := by
  intro c
  have exact := Observed.exact_history positive priority requester events
  have same : (c.history events).capture = c.run events := Observed.run_capture _ _
  have drained : (c.history events).drained = (c.replies events).flatMap CaptureReply.bytes :=
    (Observed.run_drained _ _).trans (List.nil_append _)
  refine ⟨?_, ?_⟩
  · rw [← drained, ← same]
    exact exact.stream
  · intro free reported point
    have stands := exact.standing.stands
    rw [same] at stands
    obtain ⟨count, rfl, current⟩ := stands.storing point
    have room : free ≤ (c.history events).capture.data.ring.free := exact.room _ current rfl
    rw [same] at room
    have valid := exact.standing.data
    rw [same] at valid
    have next : c.run (events ++ [.proceed]) = ((c.run events).publish free count.toNat).1 := by
      rw [run_append]
      simp only [run, step, proceed, point]
    refine ⟨by rw [current]; rfl, ?_⟩
    rw [next, contents_publish valid, Nat.min_eq_left (by omega)]

theorem drained_append_unread_sample : 0 < 2 * 2 ∧
    ((fresh 2 2 .normal .ignoring).replies CaptureEvent.sample).flatMap CaptureReply.bytes ++
      ((fresh 2 2 .normal .ignoring).run CaptureEvent.sample).data.ring.contents =
        [1, 2, 3, 0, 5, 6] :=
  ⟨by decide, (drained_append_unread (by decide) .normal .ignoring _).1.trans (by decide)⟩

end Capture

end AudioCapture
