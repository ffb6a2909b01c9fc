import AudioCapture.Proofs.Capture.Outcomes
import AudioCapture.Proofs.Capture.Stopping

/-!
# What a thread that is to stop still adds

A thread that is to stop finishes the iteration that it is in, or begins one more, and that is all
that its consumer will ever get beside what is there already (`Accounted.remains`). The iteration is
followed by what can become of it (`Iteration.Grows`) and where it stands among the others
(`Observed.Trails`).

* `Trails.step`, `trails_run` — a step, and a run, of a thread that is to stop;
* `heard_run` — the looks that find the signal of new data;
* `Trails.added`, `Trails.spent` — what the one iteration adds, and when there is none.
-/

namespace AudioCapture

/-! ## Iterations that go on -/

namespace Iteration

/-- What can become of an iteration whose read comes back as one of `returns`. -/
structure Grows (returns : DeviceRead → Prop) (i j : Iteration) : Prop where
  room : j.room = i.room
  ended : ∀ ending, i.ending = some ending → j.ending = some ending ∧ j.buffer = i.buffer
  returned : i.ending = none → j.ending = none ∧ j.buffer = i.buffer ∨
    ∃ read, returns read ∧ j.ending = some read.ending ∧
      j.buffer = i.buffer.within i.room read.fill
  stored : i.stored = true → j.stored = true
  recorded : ∀ fits, i.recorded = some fits → j.recorded = some fits

variable {returns : DeviceRead → Prop} {i j k : Iteration}

theorem Grows.refl (returns : DeviceRead → Prop) (i : Iteration) : i.Grows returns i :=
  ⟨rfl, fun _ ended => ⟨ended, rfl⟩, fun none => .inl ⟨none, rfl⟩, id, fun _ => id⟩

theorem Grows.trans (first : i.Grows returns j) (second : j.Grows returns k) :
    i.Grows returns k := by
  refine ⟨second.room.trans first.room, ?_, ?_, fun stored => second.stored (first.stored stored),
    fun fits recorded => second.recorded fits (first.recorded fits recorded)⟩
  · intro ending ended
    obtain ⟨there, same⟩ := first.ended ending ended
    obtain ⟨still, kept⟩ := second.ended ending there
    exact ⟨still, kept.trans same⟩
  · intro none
    rcases first.returned none with ⟨out, same⟩ | ⟨read, back, ending, filled⟩
    · rw [← same, ← first.room]
      exact second.returned out
    · obtain ⟨still, kept⟩ := second.ended read.ending ending
      exact .inr ⟨read, back, still, kept.trans filled⟩

theorem grows_comeBack {read : DeviceRead} (back : returns read) (out : i.ending = none)
    (unrecorded : i.recorded = none) : i.Grows returns (i.comeBack read) := by
  refine ⟨rfl, ?_, fun _ => .inr ⟨read, back, rfl, rfl⟩, id, ?_⟩
  · intro ending ended
    cases out.symm.trans ended
  · intro fits recorded
    cases unrecorded.symm.trans recorded

theorem grows_store (i : Iteration) : i.Grows returns i.store :=
  ⟨rfl, fun _ ended => ⟨ended, rfl⟩, fun none => .inl ⟨none, rfl⟩, fun _ => rfl, fun _ => id⟩

theorem grows_record (unrecorded : i.recorded = none) (fits : Bool) :
    i.Grows returns (i.record fits) := by
  refine ⟨rfl, fun _ ended => ⟨ended, rfl⟩, fun none => .inl ⟨none, rfl⟩, id, ?_⟩
  intro fits recorded
  cases unrecorded.symm.trans recorded

/-- The bytes that an iteration has published stay as they are, and its others come at once. -/
theorem Grows.published (h : i.Grows returns j) :
    ∃ bytes, (bytes = [] ∨ bytes = j.published) ∧ j.published = i.published ++ bytes := by
  by_cases nothing : i.published = []
  · exact ⟨j.published, .inr rfl, by rw [nothing, List.nil_append]⟩
  · refine ⟨[], .inl rfl, ?_⟩
    rw [List.append_nil]
    cases stored : i.stored with
    | false => exact absurd (published_eq_nil stored) nothing
    | true =>
      cases ended : i.ending with
      | none => exact absurd (by simp [Iteration.published, ended]) nothing
      | some ending =>
        obtain ⟨same, buffer⟩ := h.ended ending ended
        simp only [Iteration.published, ended, same, stored, h.stored stored, buffer, h.room]

theorem Grows.record? (h : i.Grows returns j) :
    ∃ outcome? : Option ReadOutcome, (outcome? = none ∨ outcome? = j.record?) ∧
      j.record?.toList = i.record?.toList ++ outcome?.toList := by
  by_cases nothing : i.record? = none
  · exact ⟨j.record?, .inr rfl, by rw [nothing, Option.toList_none, List.nil_append]⟩
  · refine ⟨none, .inl rfl, ?_⟩
    rw [Option.toList_none, List.append_nil]
    cases recorded : i.recorded with
    | none => exact absurd (by simp [Iteration.record?, recorded]) nothing
    | some fits =>
      cases ended : i.ending with
      | none => exact absurd (by simp [Iteration.record?, ended]) nothing
      | some ending =>
        simp only [Iteration.record?, ended, recorded, (h.ended ending ended).1,
          h.recorded fits recorded]

end Iteration

/-! ## Where they stand -/

namespace Observed

variable {returns : DeviceRead → Prop} {w next : Observed} {tail : List Iteration}

/-- What has become of the iteration that was under way, or the one that has begun since, is the one
under way or the last that is over. There is none beside it, and none will be. -/
structure Trails (returns : DeviceRead → Prop) (w next : Observed) (tail : List Iteration) :
    Prop where
  stopping : next.capture.stopFlag = true
  few : tail.length + next.capture.point.readsLeft ≤
    w.current.toList.length + w.capture.point.readsLeft
  lists : next.past = w.past ∧ next.current.toList = tail ∨
    next.past = w.past ++ tail ∧ next.current = none
  grown : ∀ i, w.current = some i → ∃ j, tail = [j] ∧ i.Grows returns j

theorem Trails.iterations (h : w.Trails returns next tail) :
    next.iterations = w.past ++ tail := by
  unfold Observed.iterations
  rcases h.lists with ⟨past, current⟩ | ⟨past, none⟩
  · rw [past, current]
  · rw [past, none]
    exact List.append_nil _

/-- A thread with an iteration under way begins no other. -/
theorem Standing.underway_le (h : w.Standing) :
    w.current.toList.length + w.capture.point.readsLeft ≤ 1 := by
  cases point : w.capture.point with
  | waiting | granted =>
    rw [h.stands.between (by rw [point]; rfl)]
    exact Nat.le_refl 1
  | _ =>
    cases w.current with
    | none => exact Nat.zero_le 1
    | some i => exact Nat.le_refl 1

theorem trails_refl (stopping : w.capture.stopFlag = true) :
    w.Trails returns w w.current.toList := by
  refine ⟨stopping, Nat.le_refl _, .inl ⟨rfl, rfl⟩, ?_⟩
  intro i current
  exact ⟨i, by rw [current]; rfl, .refl returns i⟩

/-- A step that leaves the iterations alone. -/
theorem Trails.still {last : Observed} (h : w.Trails returns next tail)
    (past : last.past = next.past) (current : last.current = next.current)
    (stopping : last.capture.stopFlag = true)
    (nearer : last.capture.point.readsLeft ≤ next.capture.point.readsLeft) :
    w.Trails returns last tail := by
  refine ⟨stopping, Nat.le_trans (Nat.add_le_add_left nearer _) h.few, ?_, h.grown⟩
  rw [past, current]
  exact h.lists

/-- A step that takes the iteration under way further. -/
theorem Trails.turned {last : Observed} {i j : Iteration} (h : w.Trails returns next tail)
    (before : next.current = some i) (grows : i.Grows returns j)
    (past : last.past = next.past) (current : last.current = some j)
    (stopping : last.capture.stopFlag = true) (begun : last.capture.point.readsLeft = 0) :
    w.Trails returns last [j] := by
  have few := h.few
  rcases h.lists with ⟨same, rest⟩ | ⟨-, none⟩
  · rw [before] at rest
    subst rest
    refine ⟨stopping, ?_, .inl ⟨past.trans same, ?_⟩, ?_⟩
    · rw [begun]
      exact Nat.le_trans (Nat.le_add_right _ _) few
    · rw [current]
      rfl
    · intro i' first
      obtain ⟨i'', single, before⟩ := h.grown i' first
      cases single
      exact ⟨j, rfl, before.trans grows⟩
  · cases none.symm.trans before

/-- A thread that is to begin an iteration has none behind it that counts. -/
theorem Trails.begun {last : Observed} {i : Iteration} (h : w.Trails returns next tail)
    (start : w.Standing) (granted : next.capture.point = .granted)
    (past : last.past = next.past) (current : last.current = some i)
    (stopping : last.capture.stopFlag = true) (begun : last.capture.point.readsLeft = 0) :
    w.Trails returns last [i] := by
  have few : tail.length + 1 ≤ w.current.toList.length + w.capture.point.readsLeft := by
    have few := h.few
    rwa [granted] at few
  obtain rfl : tail = [] := by
    apply List.eq_nil_of_length_eq_zero
    have most := start.underway_le
    omega
  have before : next.past = w.past := by
    rcases h.lists with ⟨same, -⟩ | ⟨same, -⟩
    · exact same
    · exact same.trans (List.append_nil _)
  refine ⟨stopping, ?_, .inl ⟨past.trans before, ?_⟩, ?_⟩
  · rw [begun]
    exact few
  · rw [current]
    rfl
  · intro j first
    obtain ⟨k, single, -⟩ := h.grown j first
    cases single

theorem Trails.step (h : w.Trails returns next tail) (start : w.Standing)
    (standing : next.Standing) (event : CaptureEvent)
    (returned : ∀ read, event = .returned read → returns read) :
    ∃ tail, w.Trails returns (next.step event) tail := by
  have nearer := Capture.step_nearer h.stopping event
  have stops : (next.step event).capture.stopFlag = true := nearer.stopping
  have fewer : (next.step event).capture.point.readsLeft ≤ next.capture.point.readsLeft :=
    Nat.le_trans (Nat.le_add_left _ _) nearer.reads
  have stands := standing.stands
  cases event with
  | proceed =>
    cases point : next.capture.point with
    | granted =>
      rw [proceed_of_granted point] at stops ⊢
      exact ⟨_, h.begun start point rfl rfl stops rfl⟩
    | storing free reported =>
      obtain ⟨count, rfl, current⟩ := stands.storing point
      rw [proceed_of_storing point] at stops ⊢
      exact ⟨_, h.turned current (Iteration.grows_store _) rfl (by rw [current]; rfl) stops rfl⟩
    | recording outcome =>
      obtain ⟨i, ending, current, -, -, -, unrecorded⟩ := stands.recording point
      rw [proceed_of_recording point] at stops ⊢
      refine ⟨_, h.turned current (Iteration.grows_record unrecorded _) rfl (by rw [current]; rfl)
        stops ?_⟩
      rw [Capture.publishRecord_fst]
      rfl
    | signalling =>
      obtain ⟨i, current, -⟩ := stands.signalling point
      rw [proceed_of_signalling point] at stops ⊢
      have few := Nat.le_trans (Nat.le_add_right _ _) h.few
      exact ⟨tail, stops, few, .inr ⟨h.iterations, rfl⟩, h.grown⟩
    | launched | requesting | entering | testing | waiting | reading | leaving | ended
    | brokenDown =>
      refine ⟨tail, h.still ?_ ?_ stops fewer⟩
      · simp only [Observed.step, turn, point]
      · simp only [Observed.step, turn, point]
  | returned read =>
    cases point : next.capture.point with
    | reading free =>
      have current := stands.reading point
      rw [returned_of_reading point] at stops ⊢
      refine ⟨_, h.turned current (Iteration.grows_comeBack (returned read rfl) rfl rfl) rfl
        (by rw [current]; rfl) stops ?_⟩
      rw [Capture.returned, point]
      cases ending : read.ending with
      | transferred | failed | brokeDown => rfl
    | _ =>
      rw [returned_of_elsewhere (by simp [point])]
      exact ⟨tail, h⟩
  | expire | letGo | stop | join | wake | take | drain | nextRecord =>
    exact ⟨tail, h.still rfl rfl stops fewer⟩

theorem trails_run (h : w.Trails returns next tail) (start : w.Standing)
    (standing : next.Standing) {events : List CaptureEvent}
    (returned : ∀ read, .returned read ∈ events → returns read) :
    ∃ tail, w.Trails returns (next.run events) tail := by
  induction events generalizing next tail with
  | nil => exact ⟨tail, h⟩
  | cons event events ih =>
    obtain ⟨tail, first⟩ := h.step start standing event
      fun read same => returned read (same ▸ List.mem_cons_self)
    exact ih first (standing.move (next.step_move event))
      fun read member => returned read (List.mem_cons_of_mem event member)

end Observed

/-! ## Looks for new data -/

/-- Whether an event is one of the thread or its consumer: nobody else wakes the consumer, or looks
in its place. -/
def CaptureEvent.isPrivate : CaptureEvent → Bool
  | .wake mask => mask = .spaceReady
  | .take mask => mask = .dataReady
  | _ => true

/-- Whether a look has found that there are new data. -/
def CaptureReply.hasNews (reply : CaptureReply) : Bool := reply.seen.contains .dataReady

namespace Capture

variable {c : Capture}

/-- Whether there are new data that nobody has been told of. -/
def news (c : Capture) : Bool := c.data.signals.notEmpty

/-- Finds no news, and leaves those that there are. -/
structure Untold (c : Capture) (done : Capture × CaptureReply) : Prop where
  quiet : done.2.hasNews = false
  news : done.1.news = c.news

theorem untold_of_eq {done : Capture × CaptureReply} (unseen : done.2.seen = {})
    (same : done.1.data = c.data) : c.Untold done := by
  refine ⟨?_, ?_⟩
  · rw [CaptureReply.hasNews, unseen]
    rfl
  · rw [news, same]
    rfl

theorem lookForGrant_untold (c expired : Capture) (same : expired.data = c.data) :
    c.Untold (c.lookForGrant expired) := by
  rcases signals : c.data.signals with ⟨data, space⟩
  cases space with
  | false =>
    have none : c.lookForGrant expired = (expired, {}) := by
      unfold lookForGrant
      simp only [Queue.take, signals]
      cases data <;> rfl
    rw [none]
    exact untold_of_eq rfl same
  | true =>
    refine ⟨?_, ?_⟩ <;> unfold lookForGrant
    · simp only [Queue.take, signals]
      cases data <;> rfl
    · simp only [Queue.take, signals, news]
      cases data <;> rfl

theorem endRequest_untold (c : Capture) (ends : RequestEnd) : c.Untold (c.endRequest ends) := by
  obtain ⟨point, notices, same, -⟩ := c.endRequest_eq ends
  rw [same]
  exact untold_of_eq rfl rfl

theorem publishRecord_untold (c : Capture) (outcome : ReadOutcome) :
    c.Untold (c.publishRecord outcome) := by
  unfold publishRecord
  dsimp only
  split
  · exact untold_of_eq rfl rfl
  · exact untold_of_eq rfl rfl

theorem proceed_untold (apart : c.point ≠ .signalling) : c.Untold c.proceed := by
  cases point : c.point with
  | signalling => exact absurd point apart
  | launched =>
    simp only [proceed, point]
    split
    · exact untold_of_eq rfl rfl
    · exact untold_of_eq rfl rfl
  | requesting =>
    simp only [proceed, point]
    exact c.endRequest_untold _
  | waiting =>
    simp only [proceed, point]
    exact c.lookForGrant_untold c rfl
  | recording outcome =>
    simp only [proceed, point]
    exact c.publishRecord_untold outcome
  | storing free reported =>
    simp only [proceed, point]
    exact ⟨rfl, rfl⟩
  | entering | testing | granted | leaving | reading | ended | brokenDown =>
    simp only [proceed, point]
    exact untold_of_eq rfl rfl

theorem expire_untold (c : Capture) : c.Untold c.expire := by
  unfold expire
  split
  · apply c.lookForGrant_untold
    rfl
  · exact untold_of_eq rfl rfl

theorem returned_untold (c : Capture) (read : DeviceRead) : c.Untold (c.returned read) := by
  unfold returned
  split
  · split
    · exact untold_of_eq rfl rfl
    · exact untold_of_eq rfl rfl
    · exact untold_of_eq rfl rfl
  · exact untold_of_eq rfl rfl

theorem stop_untold (c : Capture) : c.Untold (c.stop, {}) := by
  refine untold_of_eq rfl ?_
  show c.stop.data = c.data
  unfold stop
  split
  · rfl
  · split
    · rfl
    · rfl
  · rfl
  · rfl

/-- Only the thread's signal brings news, and only a look for them takes them away. -/
theorem step_untold (c : Capture) {event : CaptureEvent} (ours : event.isPrivate = true)
    (untaken : ∀ mask, event ≠ .take mask)
    (apart : ¬ (c.point = .signalling ∧ event = .proceed)) : c.Untold (c.step event) := by
  cases event with
  | proceed => exact proceed_untold fun signals => apart ⟨signals, rfl⟩
  | expire => exact c.expire_untold
  | letGo =>
    show c.Untold c.letGo
    unfold letGo
    split
    · exact c.endRequest_untold _
    · exact untold_of_eq rfl rfl
  | returned read => exact c.returned_untold read
  | stop => exact c.stop_untold
  | join =>
    show c.Untold c.join
    unfold join
    split
    · exact untold_of_eq rfl rfl
    · exact untold_of_eq rfl rfl
  | wake mask =>
    obtain rfl : mask = .spaceReady := of_decide_eq_true ours
    exact ⟨rfl, Bool.or_false _⟩
  | take mask => exact absurd rfl (untaken mask)
  | drain | nextRecord => exact ⟨rfl, rfl⟩

theorem step_quiet (c : Capture) {event : CaptureEvent} (ours : event.isPrivate = true)
    (untaken : ∀ mask, event ≠ .take mask) : (c.step event).2.hasNews = false := by
  by_cases signals : c.point = .signalling ∧ event = .proceed
  · obtain ⟨point, rfl⟩ := signals
    simp only [step, proceed, point]
    rfl
  · exact (c.step_untold ours untaken signals).quiet

/-- Only the consumer is given bytes and outcomes. -/
theorem step_silent (c : Capture) {event : CaptureEvent} (undrained : ∀ most, event ≠ .drain most)
    (untaken : event ≠ .nextRecord) :
    (c.step event).2.bytes = [] ∧ (c.step event).2.record = none := by
  cases event with
  | proceed =>
    by_cases aside : c.point.isBetween = true ∧ c.point ≠ .granted
    · exact ⟨(aside_proceed aside.1 aside.2).bytes, (aside_proceed aside.1 aside.2).record⟩
    · cases point : c.point with
      | recording outcome =>
        simp only [step, proceed, point]
        exact c.publishRecord_silent outcome
      | granted | storing | signalling | reading | brokenDown =>
        simp only [step, proceed, point, publish]
        exact ⟨trivial, trivial⟩
      | launched | requesting | entering | testing | waiting | leaving | ended =>
        simp [point, CapturePoint.isBetween] at aside
  | expire => exact ⟨c.aside_expire.bytes, c.aside_expire.record⟩
  | letGo => exact ⟨c.aside_letGo.bytes, c.aside_letGo.record⟩
  | stop => exact ⟨c.aside_stop.bytes, c.aside_stop.record⟩
  | join => exact ⟨c.aside_join.bytes, c.aside_join.record⟩
  | returned read =>
    show (c.returned read).2.bytes = [] ∧ (c.returned read).2.record = none
    unfold returned
    split
    · split
      · exact ⟨rfl, rfl⟩
      · exact ⟨rfl, rfl⟩
      · exact ⟨rfl, rfl⟩
    · exact ⟨rfl, rfl⟩
  | wake | take => exact ⟨rfl, rfl⟩
  | drain most => exact absurd rfl (undrained most)
  | nextRecord => exact absurd rfl untaken

end Capture

namespace Observed

variable {w next last : Observed}

/-- What has become of the news from one time to another, with so many looks that found some: none
are lost, and there are no more than the thread has brought, one for each iteration that is over. -/
structure Heard (w next : Observed) (looks : Nat) : Prop where
  grown : w.past.length ≤ next.past.length
  most : looks + next.capture.news.toNat + w.past.length ≤
    w.capture.news.toNat + next.past.length
  kept : w.capture.news.toNat ≤ looks + next.capture.news.toNat
  told : w.past.length < next.past.length → 0 < looks + next.capture.news.toNat

theorem Heard.trans {first second : Nat} (before : w.Heard next first)
    (after : next.Heard last second) : w.Heard last (first + second) := by
  obtain ⟨grown, most, kept, told⟩ := before
  obtain ⟨grown', most', kept', told'⟩ := after
  refine ⟨?_, ?_, ?_, ?_⟩
  · omega
  · omega
  · omega
  · omega

theorem Heard.still (past : next.past = w.past) (news : next.capture.news = w.capture.news) :
    w.Heard next 0 := by
  refine ⟨?_, ?_, ?_, ?_⟩
  · exact Nat.le_of_eq (by rw [past])
  · exact Nat.le_of_eq (by rw [past, news, Nat.zero_add])
  · exact Nat.le_of_eq (by rw [news, Nat.zero_add])
  · rw [past]
    exact fun more => absurd more (Nat.lt_irrefl _)

theorem Standing.heard (h : w.Standing) {event : CaptureEvent} (ours : event.isPrivate = true) :
    w.Heard (w.step event) (w.capture.step event).2.hasNews.toNat := by
  by_cases signals : w.capture.point = .signalling ∧ event = .proceed
  · obtain ⟨point, rfl⟩ := signals
    obtain ⟨i, current, -⟩ := h.stands.signalling point
    have quiet := w.capture.step_quiet ours nofun
    have brought : (w.step .proceed).capture.news = true := by
      rw [proceed_of_signalling point]
      exact Bool.or_true _
    have more : (w.step .proceed).past.length = w.past.length + 1 := by
      rw [proceed_of_signalling point]
      simp [iterations, current]
    rw [quiet]
    refine ⟨?_, ?_, ?_, ?_⟩
    · omega
    · rw [brought, more]
      simp only [Bool.toNat_true, Bool.toNat_false]
      omega
    · rw [brought]
      exact Nat.le_trans (Bool.toNat_le _) (Nat.le_add_left _ _)
    · rw [brought]
      exact fun _ => Nat.one_pos
  · have past : (w.step event).past = w.past := by
      cases event with
      | proceed =>
        cases point : w.capture.point with
        | signalling => exact absurd ⟨point, rfl⟩ signals
        | _ => simp only [Observed.step, turn, point]
      | returned read =>
        simp only [Observed.step, turn]
        split
        · rfl
        · rfl
      | _ => rfl
    by_cases takes : ∃ mask, event = .take mask
    · obtain ⟨mask, rfl⟩ := takes
      obtain rfl : mask = .dataReady := of_decide_eq_true ours
      -- the look finds the news if there are some, and there are none afterwards
      have found : (w.capture.step (.take .dataReady)).2.hasNews = w.capture.news :=
        Signals.sees_data w.capture.data.signals
      have none : (w.step (.take .dataReady)).capture.news = false := Bool.and_false _
      rw [found]
      refine ⟨?_, ?_, ?_, ?_⟩
      · exact Nat.le_of_eq (by rw [past])
      · exact Nat.le_of_eq (by rw [past, none]; rfl)
      · exact Nat.le_add_right _ _
      · rw [past]
        exact fun more => absurd more (Nat.lt_irrefl _)
    · have untold := w.capture.step_untold ours (fun mask is => takes ⟨mask, is⟩) signals
      rw [untold.quiet]
      exact .still past untold.news

theorem heard_run (h : w.Standing) {events : List CaptureEvent}
    (ours : ∀ event ∈ events, event.isPrivate = true) :
    w.Heard (w.run events) ((w.capture.replies events).countP CaptureReply.hasNews) := by
  induction events generalizing w with
  | nil => exact .still rfl rfl
  | cons event events ih =>
    have first := h.heard (ours event List.mem_cons_self)
    have rest := ih (h.move (w.step_move event))
      fun later member => ours later (List.mem_cons_of_mem event member)
    have counts : (w.capture.replies (event :: events)).countP CaptureReply.hasNews =
        (w.capture.step event).2.hasNews.toNat +
          ((w.step event).capture.replies events).countP CaptureReply.hasNews := by
      show ((w.capture.step event).2 :: _).countP _ = _
      rw [List.countP_cons, Nat.add_comm]
      cases (w.capture.step event).2.hasNews with
      | false => rfl
      | true => rfl
    rw [counts]
    exact first.trans rest

end Observed

/-! ## What is left for the consumer -/

/-- Whether a thread that is to stop has no iteration to finish or to begin: it has yet to come to
its loop, looks at the stop flag next, or is at its end. -/
def CapturePoint.isSpent : CapturePoint → Bool
  | .waiting | .granted | .reading _ | .storing _ _ | .recording _ | .signalling => false
  | _ => true

/-- The bytes, the outcome and the signals are those of one iteration at most. -/
structure Iteration.Adds (i : Iteration) (bytes : List UInt8) (outcome? : Option ReadOutcome)
    (signals : Nat) : Prop where
  bytes : bytes = [] ∨ bytes = i.published
  outcome : outcome? = none ∨ outcome? = i.record?
  signals : signals ≤ 1

/-- What the consumer has seen of a transport that was left as `d`, and what there is for it in what
has become of it, are what there was and what was added since. -/
structure Capture.Remains (d e : Capture) (seen : List CaptureReply) (bytes : List UInt8)
    (outcome? : Option ReadOutcome) (signals : Nat) : Prop where
  bytes : seen.flatMap CaptureReply.bytes ++ e.data.ring.contents =
    d.data.ring.contents ++ bytes
  outcomes : seen.filterMap CaptureReply.record ++ e.slot?.toList =
    d.slot?.toList ++ outcome?.toList
  /-- No more looks find news than there were and were brought. -/
  news : seen.countP CaptureReply.hasNews + e.news.toNat ≤ d.news.toNat + signals
  /-- News last until they are found. -/
  kept : d.news.toNat ≤ seen.countP CaptureReply.hasNews + e.news.toNat
  told : 0 < signals → 0 < seen.countP CaptureReply.hasNews + e.news.toNat

namespace Observed

variable {returns : DeviceRead → Prop} {w next : Observed} {tail : List Iteration}

/-- An iteration that broke down adds nothing. -/
theorem nothing_of_brokeDown {i : Iteration} (broke : i.ending = some .brokeDown) :
    i.published = [] ∧ i.record? = none := by
  unfold Iteration.published Iteration.record?
  rw [broke]
  refine ⟨rfl, ?_⟩
  cases i.recorded with
  | none => rfl
  | some fits => cases fits <;> rfl

/-- What the iterations have published and recorded since is what the one of them has that has gone
on or begun. -/
theorem Trails.added (h : w.Trails returns next tail) (start : w.Standing) :
    ∃ (i : Iteration) (bytes : List UInt8) (outcome? : Option ReadOutcome),
      i.Adds bytes outcome? (next.past.length - w.past.length) ∧
        next.iterations.flatMap Iteration.published =
          w.iterations.flatMap Iteration.published ++ bytes ∧
        next.iterations.filterMap Iteration.record? =
          w.iterations.filterMap Iteration.record? ++ outcome?.toList ∧
        (tail = [] ∧ bytes = [] ∧ outcome? = none ∨ tail = [i]) := by
  have few : tail.length ≤ 1 :=
    Nat.le_trans (Nat.le_trans (Nat.le_add_right _ _) h.few) start.underway_le
  have more : next.past.length - w.past.length ≤ 1 := by
    rcases h.lists with ⟨past, -⟩ | ⟨past, -⟩
    · rw [past]
      omega
    · rw [past, List.length_append]
      omega
  have sums : ∀ current : Option Iteration, w.current = current →
      w.iterations = w.past ++ current.toList := by
    rintro current rfl
    rfl
  rw [h.iterations]
  match tail, few, h.grown with
  | [], _, grown =>
    have idle : w.current = none := by
      cases current : w.current with
      | none => rfl
      | some i =>
        obtain ⟨j, single, -⟩ := grown i current
        cases single
    refine ⟨{ room := 0, buffer := .blank }, [], none, ⟨.inl rfl, .inl rfl, more⟩, ?_, ?_,
      .inl ⟨rfl, rfl, rfl⟩⟩
    · rw [sums none idle]
      exact (List.append_nil _).symm
    · rw [sums none idle]
      exact (List.append_nil _).symm
  | [j], _, grown =>
    cases current : w.current with
    | none =>
      refine ⟨j, j.published, j.record?, ⟨.inr rfl, .inr rfl, more⟩, ?_, ?_, .inr rfl⟩
      · rw [sums none current, List.flatMap_append]
        simp
      · rw [sums none current, List.filterMap_append]
        cases recorded : j.record? <;> simp [recorded]
    | some i =>
      obtain ⟨j', single, grows⟩ := grown i current
      cases single
      obtain ⟨bytes, mine, published⟩ := grows.published
      obtain ⟨outcome?, its, recorded⟩ := grows.record?
      have single : ∀ i : Iteration, [i].filterMap Iteration.record? = i.record?.toList := by
        intro i
        cases given : i.record? <;> simp [given]
      refine ⟨j, bytes, outcome?, ⟨mine, its, more⟩, ?_, ?_, .inr rfl⟩
      · rw [sums (some i) current, Option.toList_some, List.flatMap_append, List.flatMap_append,
          List.flatMap_singleton, List.flatMap_singleton, published, List.append_assoc]
      · rw [sums (some i) current, Option.toList_some, List.filterMap_append,
          List.filterMap_append, single, single, recorded, List.append_assoc]
  | _ :: _ :: _, few, _ => exact absurd few (by simp)

/-- A thread that has no iteration to finish or to begin adds nothing. -/
theorem Trails.spent (h : w.Trails returns next tail) (start : w.Standing)
    (standing : next.Standing) (spent : w.capture.point.isSpent = true) :
    next.past = w.past ∧ ∀ j, tail = [j] → j.published = [] ∧ j.record? = none := by
  cases current : w.current with
  | none =>
    -- there is no iteration at all
    have none : w.capture.point.readsLeft = 0 := by
      cases point : w.capture.point with
      | waiting | granted =>
        rw [point] at spent
        cases spent
      | _ => rfl
    have few := h.few
    rw [current, none] at few
    obtain rfl : tail = [] :=
      List.eq_nil_of_length_eq_zero (Nat.le_zero.1 (Nat.le_trans (Nat.le_add_right _ _) few))
    refine ⟨?_, nofun⟩
    rcases h.lists with ⟨past, -⟩ | ⟨past, -⟩
    · exact past
    · exact past.trans (List.append_nil _)
  | some i =>
    -- the iteration has broken down, and stays so
    have broke : i.ending = some .brokeDown := by
      have stands := start.stands
      rw [current] at stands
      cases point : w.capture.point with
      | brokenDown => exact (stands.brokenDown point).1
      | waiting | granted | reading | storing | recording | signalling =>
        rw [point] at spent
        cases spent
      | _ => cases stands.between (by rw [point]; rfl)
    obtain ⟨j, rfl, grows⟩ := h.grown i current
    have still := (grows.ended .brokeDown broke).1
    refine ⟨?_, ?_⟩
    · rcases h.lists with ⟨past, -⟩ | ⟨past, -⟩
      · exact past
      · -- it is not among those that are over, which are complete
        have member : j ∈ next.past := by
          rw [past]
          exact List.mem_append_right _ List.mem_cons_self
        obtain ⟨ending, ended, unbroken, -⟩ := (standing.past j member).returned
        exact absurd (Option.some.inj (ended.symm.trans still)) unbroken
    · intro j' same
      cases same
      exact nothing_of_brokeDown still

theorem Accounted.run (h : w.Accounted) (events : List CaptureEvent) : (w.run events).Accounted :=
  run_induction Accounted Accounted.move h events

theorem Accounted.slot_run (h : w.Accounted) (slot : w.capture.HasSlot)
    (events : List CaptureEvent) : (w.run events).capture.HasSlot := by
  refine ⟨(h.run events).exact.standing.records, Eq.trans ?_ slot.single⟩
  exact run_induction (fun next => next.capture.records.capacity = w.capture.records.capacity)
    (fun move kept => move.slot.trans kept) rfl events

/-- **What remains**: whatever the consumer of a transport does whose thread is to stop, and
whatever the thread still does, the consumer gets what there is for it and what one iteration adds
at most. If the thread is in a read then it is the iteration of that read, and if it has none to
finish or to begin nothing is added. -/
theorem Accounted.remains (h : w.Accounted) (slot : w.capture.HasSlot)
    (stopping : w.capture.stopFlag = true) {events : List CaptureEvent}
    (ours : ∀ event ∈ events, event.isPrivate = true)
    (returned : ∀ read, .returned read ∈ events → returns read) :
    ∃ (i : Iteration) (bytes : List UInt8) (outcome? : Option ReadOutcome) (signals : Nat),
      i.Adds bytes outcome? signals ∧
      w.capture.Remains (w.capture.run events) (w.capture.replies events) bytes outcome? signals ∧
      (w.capture.point.isSpent = true → bytes = [] ∧ outcome? = none ∧ signals = 0) ∧
      ∀ free, w.capture.point = .reading free →
        Iteration.Grows returns { room := free, buffer := w.capture.buffer } i := by
  have start := h.exact.standing
  have after := h.run events
  have standing := after.exact.standing
  obtain ⟨tail, trails⟩ := trails_run (trails_refl stopping) start start returned
  obtain ⟨i, bytes, outcome?, adds, published, recorded, whole⟩ := trails.added start
  have heard := heard_run start ours
  have same : (w.run events).capture = w.capture.run events := w.run_capture events
  have single := h.slot_run slot events
  refine ⟨i, bytes, outcome?, _, adds, ⟨?_, ?_, ?_, ?_, ?_⟩, ?_, ?_⟩
  · -- what was drained before is the same at both times
    have stream := after.exact.stream
    rw [published, ← h.exact.stream, w.run_drained events, List.append_assoc, List.append_assoc]
      at stream
    rw [← same]
    exact List.append_cancel_left stream
  · have outcomes := after.outcomes
    rw [recorded, ← h.outcomes, w.run_taken events, List.append_assoc, List.append_assoc]
      at outcomes
    rw [← same, ← single.contents_eq, ← slot.contents_eq]
    exact List.append_cancel_left outcomes
  · rw [← same]
    have most := heard.most
    have grown := heard.grown
    omega
  · rw [← same]
    exact heard.kept
  · rw [← same]
    intro more
    exact heard.told (Nat.lt_of_sub_pos more)
  · intro spent
    obtain ⟨past, nothing⟩ := trails.spent start standing spent
    have signals : (w.run events).past.length - w.past.length = 0 := by rw [past, Nat.sub_self]
    rcases whole with ⟨-, none, unrecorded⟩ | whole
    · exact ⟨none, unrecorded, signals⟩
    · obtain ⟨none, unrecorded⟩ := nothing i whole
      exact ⟨adds.bytes.elim id (none ▸ ·), adds.outcome.elim id (unrecorded ▸ ·), signals⟩
  · intro free point
    obtain ⟨j, rfl, grows⟩ := trails.grown _ (start.stands.reading point)
    rcases whole with ⟨none, -⟩ | whole
    · cases none
    · cases whole
      exact grows

end Observed

end AudioCapture
