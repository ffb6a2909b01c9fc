import AudioCapture.Signal.Monitor

/-!
# No wake-up is lost

A waiter that is parked while one of its bits is set is about to be notified, by a wake that has set
that bit and has yet to notify (`Monitor.parked_heard`). The bits are set without the lock, so a
wake can fall between a waiter's look at the bits and its parking; but it notifies with the lock,
and the waiter holds the lock from the look until it is parked. The invariant is `Monitor.Heard`.

* `Change`, `Heard.put` — all that a step does but the notifying, which is `Heard.notify`;
* `Due.run`, `Due.soon` — what becomes of a wake that has set its bits.
-/

namespace AudioCapture

namespace SignalThread

/-- A thread that has the lock. -/
def holds : SignalThread → Bool
  | .looking _ _ | .parking _ | .leaving _ | .notifying _ | .notified => true
  | _ => false

/-- A wait for a bit that it does not look for again before somebody notifies it, or its time is
up: it has seen that the bit is not set. -/
def awaits (bit : SignalBit) : SignalThread → Bool
  | .parking mask | .parked mask => mask.has bit
  | _ => false

/-- A wake that has set a bit and has yet to notify. -/
def announces (bit : SignalBit) : SignalThread → Bool
  | .knocking mask | .notifying mask => mask.has bit
  | _ => false

end SignalThread

namespace Monitor

open SignalThread

/-- As many threads have the lock as the lock says, and every bit that is set and awaited is
announced. -/
structure Heard (m : Monitor) : Prop where
  lock : m.threads.countP holds = m.locked.toNat
  announced : ∀ bit, ∀ waiter ∈ m.threads, waiter.awaits bit → m.word.has bit →
    ∃ waker ∈ m.threads, waker.announces bit

variable {m : Monitor} {thread : Nat} {before after : SignalThread}

@[simp] theorem holds_rouse (t : SignalThread) : (rouse t).holds = t.holds := by cases t <;> rfl

theorem awaits_of_rouse {bit : SignalBit} {t : SignalThread} (h : (rouse t).awaits bit) :
    ∃ mask, t = .parking mask := by
  cases t with
  | parking mask => exact ⟨mask, rfl⟩
  | _ => cases h

theorem getElem_of_here (here : m.threads[thread]? = some before) :
    ∃ inside : thread < m.threads.length, m.threads[thread] = before :=
  List.getElem?_eq_some_iff.1 here

/-! ## A step of one thread -/

/-- What a thread that goes from `before` to `after` does to the signal word and the lock, unless
it notifies: it takes the lock or lets go of it, it sets no bit but those it announces then, and it
awaits none that is set. -/
structure Change (m : Monitor) (before after : SignalThread) (word : Signals) (locked : Bool) :
    Prop where
  lock : locked.toNat + before.holds.toNat = m.locked.toNat + after.holds.toNat
  raised : ∀ bit, word.has bit → m.word.has bit ∨ after.announces bit
  announced : ∀ bit, before.announces bit → after.announces bit
  awaited : ∀ bit, after.awaits bit → word.has bit → before.awaits bit

theorem count_set (here : m.threads[thread]? = some before) (after : SignalThread) :
    (m.threads.set thread after).countP holds + before.holds.toNat =
      m.threads.countP holds + after.holds.toNat := by
  obtain ⟨inside, rfl⟩ := getElem_of_here here
  have counts (t : SignalThread) : (if t.holds = true then 1 else 0) = t.holds.toNat := by
    cases t.holds <;> rfl
  have counted : m.threads[thread].holds.toNat ≤ m.threads.countP holds := by
    cases holding : m.threads[thread].holds with
    | false => exact Nat.zero_le _
    | true => exact List.countP_pos_iff.2 ⟨_, List.getElem_mem inside, holding⟩
  rw [List.countP_set inside, counts, counts]
  omega

theorem Heard.put {word : Signals} {locked : Bool} (h : m.Heard)
    (here : m.threads[thread]? = some before) (change : Change m before after word locked) :
    ({ m with word, locked }.put thread after).Heard := by
  obtain ⟨inside, same⟩ := getElem_of_here here
  have placed : after ∈ m.threads.set thread after := List.mem_set inside after
  refine ⟨?_, ?_⟩
  · have counted := count_set here after
    have lock := change.lock
    rw [h.lock] at counted
    show (m.threads.set thread after).countP holds = locked.toNat
    omega
  · intro bit waiter among awaits set
    -- whoever awaits the bit now, somebody awaited it before or the thread has just set it
    have awaited : m.word.has bit → ∃ old ∈ m.threads, old.awaits bit := by
      rcases List.mem_or_eq_of_mem_set among with old | rfl
      · exact fun _ => ⟨waiter, old, awaits⟩
      · exact fun _ => ⟨before, List.mem_of_getElem? here, change.awaited bit awaits set⟩
    rcases change.raised bit set with already | raised
    · obtain ⟨old, among, awaits⟩ := awaited already
      obtain ⟨waker, among, announces⟩ := h.announced bit old among awaits already
      obtain ⟨other, found⟩ := List.mem_iff_getElem?.1 among
      by_cases self : thread = other
      · subst self
        obtain rfl : before = waker := Option.some.inj (here.symm.trans found)
        exact ⟨after, placed, change.announced bit announces⟩
      · refine ⟨waker, List.mem_of_getElem? (i := other) ?_, announces⟩
        exact (List.getElem?_set_ne self).trans found
    · exact ⟨after, placed, raised⟩

theorem Heard.locked (h : m.Heard) (here : m.threads[thread]? = some before)
    (holding : before.holds) : m.locked = true := by
  have some : 0 < m.threads.countP holds :=
    List.countP_pos_iff.2 ⟨before, List.mem_of_getElem? here, holding⟩
  rw [h.lock] at some
  cases lock : m.locked with
  | true => rfl
  | false =>
    rw [lock] at some
    exact absurd some (Nat.lt_irrefl 0)

/-- Nobody else has the lock. -/
theorem Heard.alone (h : m.Heard) (here : m.threads[thread]? = some before) (holding : before.holds)
    {other : Nat} {t : SignalThread} (found : m.threads[other]? = some t) (apart : thread ≠ other) :
    t.holds = false := by
  have counted := count_set here .woken
  have one : m.locked.toNat ≤ 1 := Bool.toNat_le m.locked
  rw [h.lock, holding] at counted
  have none : (m.threads.set thread .woken).countP holds = 0 := by
    have : SignalThread.woken.holds.toNat = 0 := rfl
    have : true.toNat = 1 := rfl
    omega
  have among : t ∈ m.threads.set thread .woken :=
    List.mem_of_getElem? ((List.getElem?_set_ne apart).trans found)
  exact Bool.eq_false_iff.2 (List.countP_eq_zero.1 none t among)

/-- Notifying leaves nobody parked, and with the lock taken there is nobody about to park. -/
theorem Heard.notify {wake : Signals} (h : m.Heard)
    (here : m.threads[thread]? = some (.notifying wake)) :
    ({ m with threads := m.threads.map rouse }.put thread .notified).Heard := by
  have roused : ({ m with threads := m.threads.map rouse } : Monitor).threads[thread]? =
      some (.notifying wake) := by
    rw [List.getElem?_map, here]
    rfl
  refine ⟨?_, ?_⟩
  · have counted := count_set roused .notified
    have same : (m.threads.map rouse).countP holds = m.threads.countP holds := by
      rw [List.countP_map]
      exact congrArg (List.countP · m.threads) (funext holds_rouse)
    show ((m.threads.map rouse).set thread .notified).countP holds = m.locked.toNat
    rw [← h.lock, ← same]
    exact Nat.add_right_cancel counted
  · intro bit waiter among awaits _
    exfalso
    obtain ⟨other, found⟩ := List.mem_iff_getElem?.1 among
    change ((m.threads.map rouse).set thread .notified)[other]? = some waiter at found
    by_cases self : thread = other
    · obtain ⟨inside, -⟩ := getElem_of_here roused
      rw [self, List.getElem?_set_self (self ▸ inside)] at found
      cases found
      cases awaits
    · rw [List.getElem?_set_ne self, List.getElem?_map] at found
      obtain ⟨t, there, rfl⟩ := Option.map_eq_some_iff.1 found
      obtain ⟨mask, rfl⟩ := awaits_of_rouse awaits
      cases h.alone here rfl there self

/-! ## The invariant -/

theorem Heard.runThread (h : m.Heard) (here : m.threads[thread]? = some before) :
    (m.runThread thread before).Heard := by
  cases before with
  | locking mask last =>
    simp only [Monitor.runThread]
    split
    · exact h
    · rename_i free
      exact h.put here ⟨by simp [free, holds], fun _ set => .inl set, nofun, nofun⟩
  | looking mask last =>
    -- the bits that it goes on to await are those it has just taken
    have taken : ∀ bit, mask.has bit → ¬ (m.word.take mask).1.has bit := by
      intro bit own
      simp [Signals.take_left, own]
    have fewer : ∀ bit, (m.word.take mask).1.has bit → m.word.has bit := by
      intro bit left
      rw [Signals.take_left, Signals.has_diff, Bool.and_eq_true] at left
      exact left.1
    simp only [Monitor.runThread]
    split
    · exact h.put here ⟨rfl, fun bit left => .inl (fewer bit left), nofun,
        fun bit own left => absurd left (taken bit own)⟩
    · exact h.put here ⟨rfl, fun bit left => .inl (fewer bit left), nofun, nofun⟩
  | parking mask =>
    have locked := h.locked here rfl
    exact h.put here ⟨by simp [locked, holds], fun _ set => .inl set, nofun, fun _ own _ => own⟩
  | raising mask =>
    refine h.put here ⟨rfl, ?_, nofun, nofun⟩
    intro bit set
    rw [Signals.has_union, Bool.or_eq_true] at set
    exact set
  | knocking mask =>
    simp only [Monitor.runThread]
    split
    · exact h
    · rename_i free
      exact h.put here ⟨by simp [free, holds], fun _ set => .inl set, fun _ own => own, nofun⟩
  | notifying wake => exact h.notify here
  | notified | leaving seen =>
    have locked := h.locked here rfl
    exact h.put here ⟨by simp [locked, holds], fun _ set => .inl set, nofun, nofun⟩
  | parked | waited | woken => exact h

theorem Heard.join (h : m.Heard) {t : SignalThread} (outside : t.holds = false)
    (unheeding : ∀ bit, t.awaits bit = false) : Heard { m with threads := m.threads ++ [t] } := by
  refine ⟨?_, ?_⟩
  · show (m.threads ++ [t]).countP holds = m.locked.toNat
    rw [List.countP_append, List.countP_singleton, outside]
    exact h.lock
  · intro bit waiter among awaits set
    rcases List.mem_append.1 among with old | new
    · obtain ⟨waker, there, announces⟩ := h.announced bit waiter old awaits set
      exact ⟨waker, List.mem_append_left _ there, announces⟩
    · obtain rfl := List.mem_singleton.1 new
      rw [unheeding bit] at awaits
      cases awaits

theorem Heard.step (h : m.Heard) (event : SignalEvent) : (m.step event).Heard := by
  cases event with
  | startWait mask =>
    simp only [Monitor.step]
    split
    · exact h.join rfl fun _ => rfl
    · exact h.join rfl fun _ => rfl
  | startWake mask => exact h.join rfl fun _ => rfl
  | run thread =>
    simp only [Monitor.step]
    split
    · rename_i here
      exact h.runThread here
    · exact h
  | expire thread =>
    simp only [Monitor.step]
    split
    · rename_i here
      exact h.put here ⟨rfl, fun _ set => .inl set, by simp [announces], by simp [awaits]⟩
    · exact h

theorem Heard.run (h : m.Heard) (events : List SignalEvent) : (m.run events).Heard := by
  induction events generalizing m with
  | nil => exact h
  | cons event events ih => exact ih (h.step event)

theorem heard_idle (word : Signals) : Heard { word } := ⟨rfl, nofun⟩

/-! ## What becomes of a wake -/

/-- A thread is a wake that has set its bits and has yet to notify. -/
def Announces (m : Monitor) (waker : Nat) (wake : Signals) : Prop :=
  m.threads[waker]? = some (.knocking wake) ∨ m.threads[waker]? = some (.notifying wake)

/-- A step of one thread does nothing to another but to rouse it. -/
theorem getElem?_runThread {other : Nat} (apart : thread ≠ other) :
    (m.runThread thread before).threads[other]? = m.threads[other]? ∨
      (m.runThread thread before).threads[other]? = m.threads[other]?.map rouse := by
  have set (threads : List SignalThread) (t : SignalThread) :
      (threads.set thread t)[other]? = threads[other]? := List.getElem?_set_ne apart
  cases before with
  | locking | knocking =>
    simp only [Monitor.runThread]
    split
    · exact .inl rfl
    · exact .inl (set ..)
  | looking | parking | leaving | raising | notified => exact .inl (set ..)
  | notifying => exact .inr ((set ..).trans List.getElem?_map)
  | parked | waited | woken => exact .inl rfl

theorem step_of_here (here : m.threads[thread]? = some before) :
    m.step (.run thread) = m.runThread thread before := by simp only [Monitor.step, here]

/-- A thread that has the lock lets go of it in two steps. -/
theorem unlocks (here : m.threads[thread]? = some before) (holding : before.holds) :
    (m.run (List.replicate 2 (.run thread))).locked = false := by
  have inside := (getElem_of_here here).1
  have placed (threads : List SignalThread) (same : threads.length = m.threads.length)
      (t : SignalThread) : (threads.set thread t)[thread]? = some t :=
    List.getElem?_set_self (same ▸ inside)
  show ((m.step (.run thread)).step (.run thread)).locked = false
  rw [step_of_here here]
  cases before with
  | looking mask last =>
    simp only [Monitor.runThread]
    split
    · rw [step_of_here (placed _ rfl _)]
      rfl
    · rw [step_of_here (placed _ rfl _)]
      rfl
  | parking | leaving | notified =>
    simp only [Monitor.runThread]
    rw [step_of_here (placed _ rfl _)]
    rfl
  | notifying =>
    simp only [Monitor.runThread]
    rw [step_of_here (placed _ (List.length_map _) _)]
    rfl
  | locking | parked | waited | raising | knocking | woken => cases holding

/-- A thread is parked and a wake is about to notify it. -/
structure Due (m : Monitor) (waiter : Nat) (mask : Signals) (waker : Nat) (wake : Signals) :
    Prop where
  parked : m.threads[waiter]? = some (.parked mask)
  announces : m.Announces waker wake

variable {waiter waker : Nat} {mask wake : Signals}

/-- A wake is not parked itself. -/
theorem Announces.found (h : m.Announces waker wake) :
    ∃ t, m.threads[waker]? = some t ∧ rouse t = t := by
  rcases h with there | there
  · exact ⟨_, there, rfl⟩
  · exact ⟨_, there, rfl⟩

theorem Due.apart (h : m.Due waiter mask waker wake) : waker ≠ waiter := by
  rintro rfl
  obtain ⟨t, there, unparked⟩ := h.announces.found
  obtain rfl : .parked mask = t := Option.some.inj (h.parked.symm.trans there)
  cases unparked

theorem Due.of_getElem? {next : Monitor} (h : m.Due waiter mask waker wake)
    (parked : next.threads[waiter]? = m.threads[waiter]?)
    (announces : next.threads[waker]? = m.threads[waker]?) : next.Due waiter mask waker wake :=
  ⟨parked.trans h.parked, h.announces.imp announces.trans announces.trans⟩

/-- A wake that has the lock goes on to notify. -/
theorem roused_of_notifying (apart : waker ≠ waiter)
    (parked : m.threads[waiter]? = some (.parked mask)) :
    (m.runThread waker (.notifying wake)).threads[waiter]? = some (.locking mask false) := by
  refine (List.getElem?_set_ne apart).trans ?_
  rw [List.getElem?_map, parked]
  rfl

/-- A wake that wants the lock gets it if it is free. -/
theorem Due.knock (h : m.Due waiter mask waker wake)
    (here : m.threads[waker]? = some (.knocking wake)) (free : m.locked = false) :
    (m.runThread waker (.knocking wake)).Due waiter mask waker wake ∧
      (m.runThread waker (.knocking wake)).threads[waker]? = some (.notifying wake) := by
  have there : (m.threads.set waker (.notifying wake))[waker]? = some (.notifying wake) :=
    List.getElem?_set_self (getElem_of_here here).1
  simp only [Monitor.runThread, free]
  exact ⟨⟨(List.getElem?_set_ne h.apart).trans h.parked, .inr there⟩, there⟩

theorem Due.run_waker (h : m.Due waiter mask waker wake)
    (here : m.threads[waker]? = some before) :
    (m.runThread waker before).Due waiter mask waker wake ∨
      (m.runThread waker before).threads[waiter]? = some (.locking mask false) := by
  rcases h.announces with there | there <;> obtain rfl := Option.some.inj (here.symm.trans there)
  · cases locked : m.locked with
    | false => exact .inl (h.knock here locked).1
    | true =>
      simp only [Monitor.runThread, locked]
      exact .inl h
  · exact .inr (roused_of_notifying h.apart h.parked)

theorem Due.runThread (h : m.Due waiter mask waker wake)
    (here : m.threads[thread]? = some before) :
    (m.runThread thread before).Due waiter mask waker wake ∨
      (m.runThread thread before).threads[waiter]? = some (.locking mask false) := by
  by_cases self : thread = waker
  · subst self
    exact h.run_waker here
  · have announces : (m.runThread thread before).Announces waker wake := by
      rcases getElem?_runThread self with same | roused
      · exact h.announces.imp same.trans same.trans
      · exact h.announces.imp (fun there => roused.trans (congrArg (Option.map rouse) there))
          fun there => roused.trans (congrArg (Option.map rouse) there)
    by_cases waits : thread = waiter
    · subst waits
      obtain rfl := Option.some.inj (here.symm.trans h.parked)
      exact .inl h
    · rcases getElem?_runThread waits with same | roused
      · exact .inl ⟨same.trans h.parked, announces⟩
      · exact .inr (roused.trans (congrArg (Option.map rouse) h.parked))

theorem Due.step_run (h : m.Due waiter mask waker wake) (thread : Nat) :
    (m.step (.run thread)).Due waiter mask waker wake ∨
      (m.step (.run thread)).threads[waiter]? = some (.locking mask false) := by
  simp only [Monitor.step]
  split
  · rename_i here
    exact h.runThread here
  · exact .inl h

theorem Due.step (h : m.Due waiter mask waker wake) (event : SignalEvent) :
    (m.step event).Due waiter mask waker wake ∨
      ∃ last, (m.step event).threads[waiter]? = some (.locking mask last) := by
  have joins (t : SignalThread) :
      Due { m with threads := m.threads ++ [t] } waiter mask waker wake := by
    obtain ⟨_, there, -⟩ := h.announces.found
    have inside : waker < m.threads.length := (getElem_of_here there).1
    exact h.of_getElem? (List.getElem?_append_left (getElem_of_here h.parked).1)
      (List.getElem?_append_left inside)
  cases event with
  | startWait mask => exact .inl (joins _)
  | startWake mask => exact .inl (joins _)
  | run thread => exact (h.step_run thread).imp_right fun roused => ⟨false, roused⟩
  | expire thread =>
    simp only [Monitor.step]
    split
    · rename_i own here
      by_cases waits : thread = waiter
      · subst waits
        cases here.symm.trans h.parked
        exact .inr ⟨true, List.getElem?_set_self (getElem_of_here here).1⟩
      · have elsewhere : thread ≠ waker := by
          rintro rfl
          obtain ⟨t, there, unparked⟩ := h.announces.found
          obtain rfl : .parked own = t := Option.some.inj (here.symm.trans there)
          cases unparked
        exact .inl (h.of_getElem? (List.getElem?_set_ne waits) (List.getElem?_set_ne elsewhere))
    · exact .inl h

/-- The wake does not get past its notifying before the thread is no longer parked. -/
theorem Due.run (h : m.Due waiter mask waker wake) (later : List SignalEvent) :
    (m.run later).Due waiter mask waker wake ∨
      ∃ soon rest last, later = soon ++ rest ∧
        (m.run soon).threads[waiter]? = some (.locking mask last) := by
  induction later generalizing m with
  | nil => exact .inl h
  | cons event later ih =>
    rcases h.step event with due | ⟨last, wakes⟩
    · rcases ih due with still | ⟨soon, rest, last, rfl, wakes⟩
      · exact .inl still
      · exact .inr ⟨event :: soon, rest, last, rfl, wakes⟩
    · exact .inr ⟨[event], later, last, rfl, wakes⟩

theorem Due.replicate (h : m.Due waiter mask waker wake) (thread steps : Nat) :
    (m.run (List.replicate steps (.run thread))).Due waiter mask waker wake ∨
      ∃ fewer ≤ steps, (m.run (List.replicate fewer (.run thread))).threads[waiter]? =
        some (.locking mask false) := by
  induction steps generalizing m with
  | zero => exact .inl h
  | succ steps ih =>
    rcases h.step_run thread with due | roused
    · rcases ih due with still | ⟨fewer, short, roused⟩
      · exact .inl still
      · exact .inr ⟨fewer + 1, Nat.succ_le_succ short, roused⟩
    · exact .inr ⟨1, Nat.succ_le_succ (Nat.zero_le _), roused⟩

/-- Nothing that the wake waits for keeps it from notifying: whoever has the lock lets go of it, and
then the wake takes it. -/
theorem Due.soon (h : m.Due waiter mask waker wake) (heard : m.Heard) :
    ∃ soon, soon.length ≤ 4 ∧ (m.run soon).threads[waiter]? = some (.locking mask false) := by
  obtain ⟨holder, steps, short, free⟩ :
      ∃ holder steps, steps ≤ 2 ∧ (m.run (List.replicate steps (.run holder))).locked = false := by
    cases locked : m.locked with
    | false => exact ⟨0, 0, Nat.zero_le _, locked⟩
    | true =>
      have some : 0 < m.threads.countP holds := by
        rw [heard.lock, locked]
        exact Nat.one_pos
      obtain ⟨t, among, holding⟩ := List.countP_pos_iff.1 some
      obtain ⟨holder, here⟩ := List.mem_iff_getElem?.1 among
      exact ⟨holder, 2, Nat.le_refl _, unlocks here holding⟩
  rcases h.replicate holder steps with due | ⟨fewer, fewerSteps, roused⟩
  · let first := List.replicate steps (SignalEvent.run holder)
    have knocks : (m.run first).threads[waker]? = some (.knocking wake) := by
      refine due.announces.resolve_right fun notifying => ?_
      cases free.symm.trans ((heard.run first).locked notifying rfl)
    obtain ⟨due, notifies⟩ := due.knock knocks free
    refine ⟨first ++ [.run waker, .run waker], ?_, ?_⟩
    · rw [List.length_append, List.length_replicate]
      exact Nat.add_le_add_right short 2
    · rw [Monitor.run, List.foldl_append]
      show (((m.run first).step (.run waker)).step (.run waker)).threads[waiter]? = _
      rw [step_of_here knocks, step_of_here notifies]
      exact roused_of_notifying due.apart due.parked
  · exact ⟨_, by rw [List.length_replicate]; omega, roused⟩

/-! ## Every parked waiter that has something to see -/

/-- **No wake-up is lost**: however waits and wakes of any number of threads fall between one
another, if a waiter is parked and one of its bits is set, then a wake that names that bit has set
its bits and has yet to notify. It does not get past that before the waiter is notified, or its
time is up; and nothing keeps it from notifying, which takes four steps at most. -/
theorem parked_heard (word : Signals) (events : List SignalEvent) :
    let m := Monitor.run { word } events
    ∀ (waiter : Nat) (mask : Signals) (bit : SignalBit),
      m.threads[waiter]? = some (.parked mask) → mask.has bit → m.word.has bit →
        ∃ waker wake, wake.has bit ∧ m.Announces waker wake ∧
          (∀ later, (m.run later).Announces waker wake ∨
            ∃ soon rest last, later = soon ++ rest ∧
              (m.run soon).threads[waiter]? = some (.locking mask last)) ∧
          ∃ soon, soon.length ≤ 4 ∧
            (m.run soon).threads[waiter]? = some (.locking mask false) := by
  intro m waiter mask bit parked own set
  have heard : m.Heard := (heard_idle word).run events
  obtain ⟨t, among, announces⟩ :=
    heard.announced bit (.parked mask) (List.mem_of_getElem? parked) own set
  obtain ⟨waker, there⟩ := List.mem_iff_getElem?.1 among
  have announced : ∃ wake, wake.has bit ∧ m.Announces waker wake := by
    cases t with
    | knocking wake => exact ⟨wake, announces, .inl there⟩
    | notifying wake => exact ⟨wake, announces, .inr there⟩
    | _ => cases announces
  obtain ⟨wake, names, announces⟩ := announced
  have due : m.Due waiter mask waker wake := ⟨parked, announces⟩
  exact ⟨waker, wake, names, announces, fun later => (due.run later).imp_left Due.announces,
    due.soon heard⟩

/-- Two waiters and a wake that sets its bits when one of them has looked and is about to park, the
other one being parked; it has to wait for the lock. -/
def overtaken : List SignalEvent :=
  [.startWait .spaceReady, .startWait .dataReady, .startWake (.union .dataReady .spaceReady)] ++
    List.replicate 3 (.run 0) ++ [.run 1, .run 1, .run 2, .run 2, .run 1]

theorem parked_heard_overtaken :
    let m := Monitor.run { word := .none } overtaken
    m.threads[1]? = some (.parked .dataReady) ∧ m.word.has .notEmpty ∧
      ∃ waker wake, wake.has .notEmpty ∧ m.Announces waker wake := by
  intro m
  have parked : m.threads[1]? = some (.parked .dataReady) := by decide
  have set : m.word.has .notEmpty := by decide
  obtain ⟨waker, wake, names, announces, -⟩ :=
    parked_heard .none overtaken 1 .dataReady .notEmpty parked rfl set
  exact ⟨parked, set, waker, wake, names, announces⟩

end Monitor

end AudioCapture
