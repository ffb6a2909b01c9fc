import AudioCapture.Proofs.Signal.Parking

/-!
# What becomes of signal bits

A signal word beside all that was done to it (`WordOp`): wakes set bits, waits take those of theirs
that are set. A bit is set as long as a wake of it is outstanding, every wait goes away with what
its last look has taken, and no two waits see the same wake of a bit (`signals_conserved`).

* `word_run`, `genuine_ops` — the word is what the operations make of it, one after the other;
* `Outstanding` — a wake of a bit came after the last wait that saw it;
* `count_observes` — a bit is seen no more often than it is set;
* `Told.step` — which of the operations are those of a wait or a wake.
-/

namespace AudioCapture

/-- What a thread does to a signal word, in one step. -/
inductive WordOp where
  /-- A wake sets its bits. -/
  | raised (thread : Nat) (mask : Signals)
  /-- A wait takes those of its bits that are set. -/
  | taken (thread : Nat) (mask seen : Signals)
  deriving DecidableEq, Repr

namespace WordOp

def thread : WordOp → Nat
  | raised thread _ | taken thread _ _ => thread

def sets (bit : SignalBit) : WordOp → Bool
  | raised _ mask => mask.has bit
  | taken _ _ _ => false

def observes (bit : SignalBit) : WordOp → Bool
  | raised _ _ => false
  | taken _ _ seen => seen.has bit

/-- What an operation leaves of a word: a wait clears what it has seen, and nothing else. -/
def effect (word : Signals) : WordOp → Signals
  | raised _ mask => word.union mask
  | taken _ _ seen => word.diff seen

/-- A wait sees exactly those of its bits that are set. -/
def Fits (word : Signals) : WordOp → Prop
  | raised _ _ => True
  | taken _ mask seen => seen = word.inter mask

/-- Operations that fit the word, each as the others before it have left it. -/
def Genuine (word : Signals) : List WordOp → Prop
  | [] => True
  | op :: ops => op.Fits word ∧ Genuine (op.effect word) ops

/-- Some wake of the bit came after the last wait that saw it. -/
def Outstanding (bit : SignalBit) (ops : List WordOp) : Prop :=
  ∃ before op after, ops = before ++ op :: after ∧ op.sets bit = true ∧
    ∀ later ∈ after, later.observes bit = false

end WordOp

/-! ## Bits -/

theorem Signals.isEmpty_iff {s : Signals} : s.isEmpty = true ↔ s = .none := by
  rcases s with ⟨data, space⟩
  cases data <;> cases space <;> simp [isEmpty, none]

/-- To clear the bits of a mask is to clear those of them that are set. -/
theorem Signals.diff_inter (word mask : Signals) :
    word.diff (word.inter mask) = word.diff mask := by
  rcases word with ⟨a, b⟩
  rcases mask with ⟨c, d⟩
  cases a <;> cases b <;> cases c <;> cases d <;> rfl

theorem Signals.none_contains (s : Signals) : none.contains s = false := by
  rcases s with ⟨data, space⟩
  cases data <;> cases space <;> rfl

namespace WordOp

variable {bit : SignalBit} {word : Signals} {op : WordOp} {ops : List WordOp}

theorem has_effect : (op.effect word).has bit = true ↔
    op.sets bit = true ∨ word.has bit = true ∧ op.observes bit = false := by
  cases op with
  | raised thread mask => simp [effect, sets, observes, or_comm]
  | taken thread mask seen => simp [effect, sets, observes]

/-- What is seen was set, and is not set any more. -/
theorem Fits.count (fits : op.Fits word) :
    (op.observes bit).toNat + ((op.effect word).has bit).toNat ≤
      (word.has bit).toNat + (op.sets bit).toNat := by
  cases op with
  | raised thread mask =>
    simp only [observes, effect, sets, Signals.has_union]
    cases word.has bit <;> cases mask.has bit <;> decide
  | taken thread mask seen =>
    subst fits
    simp only [observes, effect, sets, Signals.has_diff, Signals.has_inter]
    cases word.has bit <;> cases mask.has bit <;> decide

theorem genuine_append {first second : List WordOp} :
    Genuine word (first ++ second) ↔
      Genuine word first ∧ Genuine (first.foldl effect word) second := by
  induction first generalizing word with
  | nil => simp [Genuine]
  | cons op first ih =>
    show _ ∧ Genuine _ (first ++ second) ↔ (_ ∧ Genuine _ first) ∧ _
    rw [ih, and_assoc]
    rfl

/-! ## Outstanding wakes -/

theorem outstanding_cons : Outstanding bit (op :: ops) ↔
    Outstanding bit ops ∨ op.sets bit = true ∧ ∀ later ∈ ops, later.observes bit = false := by
  constructor
  · rintro ⟨before, wake, after, all, sets, unseen⟩
    rcases List.cons_eq_append_iff.1 all with ⟨-, same⟩ | ⟨before, -, rest⟩
    · cases same
      exact .inr ⟨sets, unseen⟩
    · exact .inl ⟨before, wake, after, rest, sets, unseen⟩
  · rintro (⟨before, wake, after, rfl, sets, unseen⟩ | ⟨sets, unseen⟩)
    · exact ⟨op :: before, wake, after, rfl, sets, unseen⟩
    · exact ⟨[], op, ops, rfl, sets, unseen⟩

/-- A bit is set when a wake of it is outstanding, or when it was set before and nobody has seen it
since. -/
theorem has_foldl_iff : (ops.foldl effect word).has bit = true ↔
    Outstanding bit ops ∨ word.has bit = true ∧ ∀ op ∈ ops, op.observes bit = false := by
  induction ops generalizing word with
  | nil =>
    have none : ¬ Outstanding bit [] := by
      rintro ⟨before, op, after, all, -⟩
      exact absurd all.symm (by simp)
    simp [none]
  | cons op ops ih =>
    rw [List.foldl_cons, ih, has_effect, outstanding_cons]
    simp only [List.mem_cons, forall_eq_or_imp, or_and_right, or_assoc, and_assoc]

/-- A bit is seen no more often than it is set, and one time less if it still is. -/
theorem count_observes (genuine : Genuine word ops) :
    ops.countP (observes bit) + ((ops.foldl effect word).has bit).toNat ≤
      (word.has bit).toNat + ops.countP (sets bit) := by
  have counted (p : WordOp → Bool) (op : WordOp) (ops : List WordOp) :
      (op :: ops).countP p = ops.countP p + (p op).toNat := by
    rw [List.countP_cons]
    cases p op <;> rfl
  induction ops generalizing word with
  | nil => exact Nat.le_of_eq (Nat.add_comm _ _)
  | cons op ops ih =>
    obtain ⟨fits, rest⟩ := genuine
    have here : (op.observes bit).toNat + ((op.effect word).has bit).toNat ≤
        (word.has bit).toNat + (op.sets bit).toNat := fits.count
    have later := ih rest
    rw [counted, counted, List.foldl_cons]
    omega

/-- Where nobody sets a bit, it is seen once at most. -/
theorem count_observes_le_one {stretch : List WordOp} (genuine : Genuine word ops)
    (within : stretch <:+: ops) (unset : ∀ op ∈ stretch, op.sets bit = false) :
    stretch.countP (observes bit) ≤ 1 := by
  obtain ⟨before, after, rfl⟩ := within
  have own := (genuine_append.1 (genuine_append.1 genuine).1).2
  have counts : stretch.countP (observes bit) + _ ≤ _ + stretch.countP (sets bit) :=
    count_observes own
  have none : stretch.countP (sets bit) = 0 :=
    List.countP_eq_zero.2 fun op member => Bool.eq_false_iff.1 (unset op member)
  have one := Bool.toNat_le ((before.foldl effect word).has bit)
  omega

theorem sets_of_observes (observed : op.observes bit = true) : op.sets bit = false := by
  cases op with
  | raised thread mask => cases observed
  | taken thread mask seen => rfl

theorem exists_sets_between {first mid last : List WordOp} {a b : WordOp}
    (genuine : Genuine word (first ++ a :: (mid ++ b :: last))) (seen : a.observes bit = true)
    (again : b.observes bit = true) : ∃ op ∈ mid, op.sets bit = true := by
  refine Classical.byContradiction fun none => ?_
  have within : a :: (mid ++ [b]) <:+: first ++ a :: (mid ++ b :: last) :=
    ⟨first, last, by simp⟩
  have unset : ∀ op ∈ a :: (mid ++ [b]), op.sets bit = false := by
    intro op member
    rw [List.mem_cons, List.mem_append, List.mem_singleton] at member
    rcases member with rfl | between | rfl
    · exact sets_of_observes seen
    · exact Bool.eq_false_iff.2 fun sets => none ⟨op, between, sets⟩
    · exact sets_of_observes again
  have once := count_observes_le_one genuine within unset
  rw [List.countP_cons_of_pos seen, List.countP_append, List.countP_singleton, if_pos again] at once
  omega

end WordOp

/-! ## The operations of a run -/

namespace Monitor

variable {m : Monitor}

/-- What an event does to the signal word, if it does anything. -/
def op? (m : Monitor) : SignalEvent → Option WordOp
  | .run thread =>
      match m.threads[thread]? with
      | some (.raising mask) => some (.raised thread mask)
      | some (.looking mask _) => some (.taken thread mask (m.word.take mask).2)
      | _ => none
  | _ => none

/-- What a run does to the signal word, in order. -/
def ops (m : Monitor) : List SignalEvent → List WordOp
  | [] => []
  | event :: events => (m.op? event).toList ++ (m.step event).ops events

theorem fits_op? (m : Monitor) (event : SignalEvent) : ∀ op ∈ m.op? event, op.Fits m.word := by
  intro op here
  unfold op? at here
  split at here
  · split at here
    · cases here
      trivial
    · cases here
      exact m.word.take_seen _
    · cases here
  · cases here

theorem word_step (m : Monitor) (event : SignalEvent) :
    (m.step event).word = ((m.op? event).map (WordOp.effect m.word)).getD m.word := by
  cases event with
  | startWait | startWake => rfl
  | expire thread =>
    simp only [step, op?]
    split <;> rfl
  | run thread =>
    cases here : m.threads[thread]? with
    | none => simp [step, op?, here]
    | some t =>
      cases t with
      | looking mask last =>
        simp only [step, op?, here, runThread, put, Option.map_some, Option.getD_some]
        rw [WordOp.effect, Signals.take_seen, Signals.diff_inter]
        rfl
      | locking | knocking =>
        simp only [step, op?, here, runThread]
        split <;> rfl
      | parking | parked | leaving | waited | raising | notifying | notified | woken =>
        simp only [step, op?, here, runThread]
        rfl

theorem word_run (m : Monitor) (events : List SignalEvent) :
    (m.run events).word = (m.ops events).foldl WordOp.effect m.word := by
  induction events generalizing m with
  | nil => rfl
  | cons event events ih =>
    show ((m.step event).run events).word = _
    rw [ih, ops, List.foldl_append, m.word_step event]
    cases m.op? event <;> rfl

theorem genuine_ops (m : Monitor) (events : List SignalEvent) :
    WordOp.Genuine m.word (m.ops events) := by
  induction events generalizing m with
  | nil => trivial
  | cons event events ih =>
    have later := ih (m.step event)
    have fits := m.fits_op? event
    rw [m.word_step event] at later
    rw [ops, WordOp.genuine_append]
    cases here : m.op? event with
    | none =>
      rw [here] at later
      exact ⟨trivial, later⟩
    | some op =>
      rw [here] at later
      exact ⟨⟨fits op here, trivial⟩, later⟩

end Monitor

/-! ## Waits and wakes -/

def SignalEvent.isStart : SignalEvent → Bool
  | .startWait _ | .startWake _ => true
  | .run _ | .expire _ => false

namespace SignalThread

/-- The bits that a wait is about to look for again. -/
def seeks : SignalThread → Option Signals
  | .locking mask _ | .looking mask _ | .parking mask | .parked mask => some mask
  | _ => none

/-- What a wait has seen in its last look. -/
def saw : SignalThread → Option Signals
  | .leaving seen | .waited seen => some seen
  | _ => none

/-- A wake that has set its bits. -/
def hasRaised : SignalThread → Bool
  | .knocking _ | .notifying _ | .notified | .woken => true
  | _ => false

/-- How far a thread has come since it started, and what it has done to the signal word. -/
inductive Played (thread : Nat) : SignalEvent → SignalThread → List WordOp → Prop
  /-- A wait for nothing is over at once. -/
  | idle (mask : Signals) : mask.isEmpty = true → Played thread (.startWait mask) (.waited .none) []
  /-- A wait that has looked in vain so far. -/
  | waits (mask : Signals) (t : SignalThread) (looks : Nat) : mask.isEmpty = false →
      t.seeks = some mask →
      Played thread (.startWait mask) t (List.replicate looks (.taken thread mask .none))
  /-- A wait that goes away with what it has seen in its last look, in vain or not. -/
  | went (mask seen : Signals) (t : SignalThread) (looks : Nat) : mask.isEmpty = false →
      t.saw = some seen →
      Played thread (.startWait mask) t
        (List.replicate looks (.taken thread mask .none) ++ [.taken thread mask seen])
  | wakes (mask : Signals) : Played thread (.startWake mask) (.raising mask) []
  | raised (mask : Signals) (t : SignalThread) : t.hasRaised = true →
      Played thread (.startWake mask) t [.raised thread mask]

end SignalThread

namespace Monitor

open SignalThread

variable {m : Monitor} {thread : Nat} {start : SignalEvent} {before : SignalThread}
  {own : List WordOp}

@[simp] theorem seeks_rouse (t : SignalThread) : (rouse t).seeks = t.seeks := by cases t <;> rfl

@[simp] theorem saw_rouse (t : SignalThread) : (rouse t).saw = t.saw := by cases t <;> rfl

@[simp] theorem hasRaised_rouse (t : SignalThread) : (rouse t).hasRaised = t.hasRaised := by
  cases t <;> rfl

/-- To be notified is not to have done anything. -/
theorem played_rouse (played : Played thread start before own) :
    Played thread start (rouse before) own := by
  cases played with
  | idle mask empty => exact .idle mask empty
  | waits mask _ looks sought seeks =>
    exact .waits mask _ looks sought ((seeks_rouse _).trans seeks)
  | went mask seen _ looks sought saw =>
    exact .went mask seen _ looks sought ((saw_rouse _).trans saw)
  | wakes mask => exact .wakes mask
  | raised mask _ raised => exact .raised mask _ ((hasRaised_rouse _).trans raised)

/-- The thread has come as far after its step as what it has done in it says. -/
def PlaysOn (m : Monitor) (thread : Nat) (before : SignalThread) (start : SignalEvent)
    (own : List WordOp) : Prop :=
  ∃ after, (m.runThread thread before).threads[thread]? = some after ∧
    Played thread start after (own ++ (m.op? (.run thread)).toList)

/-- Most steps leave the word alone. -/
theorem playsOn_quietly {after : SignalThread} (quiet : m.op? (.run thread) = none)
    (there : (m.runThread thread before).threads[thread]? = some after)
    (played : Played thread start after own) : m.PlaysOn thread before start own := by
  refine ⟨after, there, ?_⟩
  rw [quiet, Option.toList_none, List.append_nil]
  exact played

theorem getElem?_put {t : SignalThread} (here : m.threads[thread]? = some before) :
    (m.put thread t).threads[thread]? = some t :=
  List.getElem?_set_self (getElem_of_here here).1

/-- A wait that looks sees nothing and parks, or goes away with what it sees. -/
theorem playsOn_looking {mask : Signals} {last : Bool} {looks : Nat}
    (sought : mask.isEmpty = false) (here : m.threads[thread]? = some (.looking mask last)) :
    m.PlaysOn thread (.looking mask last) (.startWait mask)
      (List.replicate looks (.taken thread mask .none)) := by
  have op : m.op? (.run thread) = some (.taken thread mask (m.word.take mask).2) := by
    simp [op?, here]
  unfold PlaysOn
  rw [op, Option.toList_some]
  by_cases vain : ((m.word.take mask).2.isEmpty && !last) = true
  · refine ⟨.parking mask, ?_, ?_⟩
    · simp only [runThread, vain]
      exact getElem?_put here
    · rw [Bool.and_eq_true] at vain
      rw [Signals.isEmpty_iff.1 vain.1, ← List.replicate_succ']
      exact .waits mask (.parking mask) (looks + 1) sought rfl
  · refine ⟨.leaving (m.word.take mask).2, ?_, .went mask _ _ looks sought rfl⟩
    simp only [runThread, vain]
    exact getElem?_put here

theorem playsOn_waits {mask : Signals} {looks : Nat} (sought : mask.isEmpty = false)
    (seeks : before.seeks = some mask) (here : m.threads[thread]? = some before) :
    m.PlaysOn thread before (.startWait mask)
      (List.replicate looks (.taken thread mask .none)) := by
  cases before with
  | locking own last =>
    by_cases locked : m.locked = true
    · refine playsOn_quietly (by simp [op?, here]) ?_ (.waits mask _ looks sought seeks)
      simp only [runThread, locked]
      exact here
    · refine playsOn_quietly (by simp [op?, here]) ?_
        (.waits mask (.looking own last) looks sought seeks)
      simp only [runThread, locked]
      exact getElem?_put here
  | looking own last =>
    cases seeks
    exact playsOn_looking sought here
  | parking own =>
    exact playsOn_quietly (by simp [op?, here]) (getElem?_put here)
      (.waits mask (.parked own) looks sought seeks)
  | parked own =>
    exact playsOn_quietly (by simp [op?, here]) here (.waits mask _ looks sought seeks)
  | _ => cases seeks

theorem playsOn_raised {mask : Signals} (raised : before.hasRaised = true)
    (here : m.threads[thread]? = some before) :
    m.PlaysOn thread before (.startWake mask) [.raised thread mask] := by
  cases before with
  | knocking wake =>
    by_cases locked : m.locked = true
    · refine playsOn_quietly (by simp [op?, here]) ?_ (.raised mask _ raised)
      simp only [runThread, locked]
      exact here
    · refine playsOn_quietly (by simp [op?, here]) ?_ (.raised mask (.notifying wake) rfl)
      simp only [runThread, locked]
      exact getElem?_put here
  | notifying wake =>
    refine playsOn_quietly (by simp [op?, here]) ?_ (.raised mask .notified rfl)
    refine List.getElem?_set_self ?_
    rw [List.length_map]
    exact (getElem_of_here here).1
  | notified =>
    exact playsOn_quietly (by simp [op?, here]) (getElem?_put here) (.raised mask .woken rfl)
  | woken => exact playsOn_quietly (by simp [op?, here]) here (.raised mask _ rfl)
  | _ => cases raised

/-- What a step of a thread makes of it. -/
theorem played_run (played : Played thread start before own)
    (here : m.threads[thread]? = some before) : m.PlaysOn thread before start own := by
  cases played with
  | idle mask empty => exact playsOn_quietly (by simp [op?, here]) here (.idle mask empty)
  | waits mask _ looks sought seeks => exact playsOn_waits sought seeks here
  | went mask seen _ looks sought saw =>
    cases before with
    | leaving seen =>
      exact playsOn_quietly (by simp [op?, here]) (getElem?_put here)
        (.went mask _ (.waited seen) looks sought saw)
    | waited seen =>
      exact playsOn_quietly (by simp [op?, here]) here (.went mask _ _ looks sought saw)
    | _ => cases saw
  | wakes mask =>
    have op : m.op? (.run thread) = some (.raised thread mask) := by simp [op?, here]
    unfold PlaysOn
    rw [op]
    exact ⟨.knocking mask, getElem?_put here, .raised mask _ rfl⟩
  | raised mask _ raised => exact playsOn_raised raised here

/-! ### All threads of a run -/

/-- The threads are the waits and wakes that were started, each with its own operations. -/
structure Told (m : Monitor) (starts : List SignalEvent) (ops : List WordOp) : Prop where
  length : m.threads.length = starts.length
  among : ∀ op ∈ ops, op.thread < m.threads.length
  played : ∀ (thread : Nat) (start : SignalEvent), starts[thread]? = some start →
    ∃ t, m.threads[thread]? = some t ∧ Played thread start t (ops.filter (·.thread == thread))

theorem length_runThread (m : Monitor) (thread : Nat) (before : SignalThread) :
    (m.runThread thread before).threads.length = m.threads.length := by
  cases before with
  | locking | knocking =>
    simp only [runThread]
    split
    · rfl
    · exact List.length_set
  | looking | parking | leaving | raising | notified => exact List.length_set
  | notifying => exact List.length_set.trans (List.length_map _)
  | parked | waited | woken => rfl

theorem thread_op? {op : WordOp} (here : m.op? (.run thread) = some op) : op.thread = thread := by
  unfold op? at here
  dsimp only at here
  split at here
  · cases here
    rfl
  · cases here
    rfl
  · cases here

section Told

variable {starts : List SignalEvent} {ops : List WordOp}

theorem Told.join (h : m.Told starts ops) {t : SignalThread}
    (played : Played starts.length start t []) :
    Told { m with threads := m.threads ++ [t] } (starts ++ [start]) ops := by
  refine ⟨?_, ?_, ?_⟩
  · rw [List.length_append, List.length_append, h.length]
    rfl
  · intro op member
    rw [List.length_append]
    exact Nat.lt_add_right 1 (h.among op member)
  · intro other begun here
    rcases Nat.lt_or_ge other starts.length with old | new
    · rw [List.getElem?_append_left old] at here
      obtain ⟨state, there, played⟩ := h.played other begun here
      exact ⟨state, (List.getElem?_append_left (h.length ▸ old)).trans there, played⟩
    · have below := (List.getElem?_eq_some_iff.1 here).1
      rw [List.length_append, List.length_singleton] at below
      obtain rfl : other = starts.length := by omega
      rw [List.getElem?_concat_length] at here
      cases here
      have none : ops.filter (·.thread == starts.length) = [] := by
        rw [List.filter_eq_nil_iff]
        intro op member same
        have earlier := h.among op member
        rw [h.length, beq_iff_eq.1 same] at earlier
        exact Nat.lt_irrefl _ earlier
      rw [none]
      exact ⟨t, h.length ▸ List.getElem?_concat_length, played⟩

theorem Told.runThread (h : m.Told starts ops) (here : m.threads[thread]? = some before) :
    (m.runThread thread before).Told starts (ops ++ (m.op? (.run thread)).toList) := by
  have inside := (getElem_of_here here).1
  have mine : ∀ op ∈ (m.op? (.run thread)).toList, op.thread = thread :=
    fun op member => thread_op? (Option.mem_toList.1 member)
  refine ⟨(length_runThread m thread before).trans h.length, ?_, ?_⟩
  · intro op member
    rw [length_runThread]
    rcases List.mem_append.1 member with old | new
    · exact h.among op old
    · exact mine op new ▸ inside
  · intro other start begun
    obtain ⟨t, there, played⟩ := h.played other start begun
    rw [List.filter_append]
    by_cases self : thread = other
    · subst self
      obtain rfl : before = t := Option.some.inj (here.symm.trans there)
      have all : (m.op? (.run thread)).toList.filter (·.thread == thread) =
          (m.op? (.run thread)).toList :=
        List.filter_eq_self.2 fun op member => beq_iff_eq.2 (mine op member)
      rw [all]
      exact played_run played here
    · have none : (m.op? (.run thread)).toList.filter (·.thread == other) = [] := by
        rw [List.filter_eq_nil_iff]
        intro op member same
        exact self ((mine op member).symm.trans (beq_iff_eq.1 same))
      rw [none, List.append_nil]
      rcases @getElem?_runThread m thread before other self with same | roused
      · exact ⟨t, same.trans there, played⟩
      · exact ⟨rouse t, roused.trans (congrArg (Option.map rouse) there), played_rouse played⟩

/-- The end of the time of a parked thread. -/
theorem Told.expire (h : m.Told starts ops) {mask : Signals}
    (here : m.threads[thread]? = some (.parked mask)) :
    (m.put thread (.locking mask true)).Told starts ops := by
  have same : (m.put thread (.locking mask true)).threads.length = m.threads.length :=
    List.length_set
  refine ⟨same.trans h.length, fun op member => same ▸ h.among op member, ?_⟩
  intro other start begun
  obtain ⟨t, there, played⟩ := h.played other start begun
  by_cases self : thread = other
  · subst self
    obtain rfl : .parked mask = t := Option.some.inj (here.symm.trans there)
    refine ⟨.locking mask true, getElem?_put here, ?_⟩
    generalize ops.filter (·.thread == thread) = own at played ⊢
    cases played with
    | waits mask _ looks sought seeks => exact .waits mask _ looks sought seeks
    | went mask seen _ looks sought saw => cases saw
    | raised mask _ raised => cases raised
  · exact ⟨t, (List.getElem?_set_ne self).trans there, played⟩

theorem Told.step (h : m.Told starts ops) (event : SignalEvent) :
    (m.step event).Told (starts ++ [event].filter SignalEvent.isStart)
      (ops ++ (m.op? event).toList) := by
  have unstarted : m.Told (starts ++ []) ops := (List.append_nil starts).symm ▸ h
  cases event with
  | startWait mask =>
    show Told { m with threads := _ } _ (ops ++ [])
    rw [List.append_nil]
    refine h.join ?_
    cases empty : mask.isEmpty with
    | true => exact .idle mask empty
    | false => exact .waits mask _ 0 empty rfl
  | startWake mask =>
    show Told { m with threads := _ } _ (ops ++ [])
    rw [List.append_nil]
    exact h.join (.wakes mask)
  | run thread =>
    cases here : m.threads[thread]? with
    | none =>
      have quiet : m.op? (.run thread) = none := by simp [op?, here]
      rw [quiet, Option.toList_none, List.append_nil]
      simp only [Monitor.step, here]
      exact unstarted
    | some before =>
      rw [step_of_here here]
      show Told _ (starts ++ []) _
      rw [List.append_nil]
      exact h.runThread here
  | expire thread =>
    show Told _ (starts ++ []) (ops ++ [])
    rw [List.append_nil, List.append_nil]
    simp only [Monitor.step]
    split
    · rename_i here
      exact h.expire here
    · exact h

theorem Told.run (h : m.Told starts ops) (events : List SignalEvent) :
    (m.run events).Told (starts ++ events.filter SignalEvent.isStart) (ops ++ m.ops events) := by
  induction events generalizing m starts ops with
  | nil =>
    rw [List.filter_nil, List.append_nil]
    show m.Told starts (ops ++ [])
    rw [List.append_nil]
    exact h
  | cons event events ih =>
    have later := ih (h.step event)
    rw [List.append_assoc, List.append_assoc, ← List.filter_append] at later
    exact later

end Told

theorem told_idle (word : Signals) : Told { word } [] [] := ⟨rfl, nofun, nofun⟩

/-! ## Every bit of a run -/

/-- **Signals**: however the steps of waits and wakes of any number of threads fall between one
another, a bit is set exactly if some wake of it came after the last wait that saw it. Every look
of a wait sees those of its bits that are set, clears them and leaves the others alone, and the wait
goes away with what its last look has seen; a wake sets its bits once. So between two sights of a
bit there is a wake of it, and no wake of it is seen by two waits. A wait for nothing is over at
once, and to see nothing is to see no signal. -/
theorem signals_conserved (events : List SignalEvent) :
    let m := Monitor.run {} events
    let ops := Monitor.ops {} events
    (∀ bit, m.word.has bit = true ↔ WordOp.Outstanding bit ops) ∧
      (∀ event, (m.step event).word = ((m.op? event).map (WordOp.effect m.word)).getD m.word ∧
        ∀ op ∈ m.op? event, op.Fits m.word) ∧
      (∀ (thread : Nat) (start : SignalEvent),
        (events.filter SignalEvent.isStart)[thread]? = some start →
          ∃ t, m.threads[thread]? = some t ∧
            Played thread start t (ops.filter (·.thread == thread))) ∧
      (∀ (bit : SignalBit) (first mid last : List WordOp) (a b : WordOp),
        ops = first ++ a :: (mid ++ b :: last) → a.observes bit = true → b.observes bit = true →
          ∃ op ∈ mid, op.sets bit = true) ∧
      (∀ (bit : SignalBit) (stretch : List WordOp), stretch <:+: ops →
        (∀ op ∈ stretch, op.sets bit = false) → stretch.countP (WordOp.observes bit) ≤ 1) ∧
      (∀ mask : Signals, mask.isEmpty = true →
        m.step (.startWait mask) = { m with threads := m.threads ++ [.waited .none] }) ∧
      ∀ s : Signals, s.contains .none = false ∧ Signals.none.contains s = false := by
  intro m ops
  have genuine : WordOp.Genuine {} ops := genuine_ops {} events
  refine ⟨?_, fun event => ⟨m.word_step event, m.fits_op? event⟩, ?_, ?_, ?_, ?_, ?_⟩
  · intro bit
    have word : m.word = ops.foldl WordOp.effect {} := word_run {} events
    have clear : ¬ Signals.has {} bit = true := by cases bit <;> exact nofun
    rw [word, WordOp.has_foldl_iff]
    exact or_iff_left fun set => clear set.1
  · exact ((told_idle {}).run events).played
  · intro bit first mid last a b all seen again
    rw [all] at genuine
    exact WordOp.exists_sets_between genuine seen again
  · intro bit stretch within unset
    exact WordOp.count_observes_le_one genuine within unset
  · intro mask empty
    simp only [Monitor.step, empty, if_true]
  · exact fun s => ⟨s.contains_none, s.none_contains⟩

/-- Two waits and a wake for one of them: the first wait sees the bit, and the second, which is
notified with it, finds nothing, parks again and goes away empty when its time is up. -/
theorem signals_conserved_contended :
    let start : List SignalEvent :=
      [.startWait .spaceReady, .startWait .spaceReady, .startWake .spaceReady]
    let park (thread : Nat) : List SignalEvent := List.replicate 3 (.run thread)
    let events := start ++ park 0 ++ park 1 ++ List.replicate 4 (.run 2) ++ park 0 ++ park 1 ++
      [.expire 1] ++ park 1
    let m := Monitor.run {} events
    let ops := Monitor.ops {} events
    m.threads = [.waited .spaceReady, .waited .none, .woken] ∧
      Played 1 (.startWait .spaceReady) (.waited .none)
        (List.replicate 3 (.taken 1 .spaceReady .none)) ∧
      ¬ WordOp.Outstanding .notFull ops ∧
      (ops.drop 3).countP (WordOp.observes .notFull) ≤ 1 := by
  intro start park events m ops
  obtain ⟨pending, -, played, -, once, -⟩ := signals_conserved events
  have threads : m.threads = [.waited .spaceReady, .waited .none, .woken] := by decide
  have second : Played 1 (.startWait .spaceReady) (.waited .none)
      (List.replicate 3 (.taken 1 .spaceReady .none)) := by
    obtain ⟨t, here, played⟩ := played 1 (.startWait .spaceReady) (by decide)
    have there : m.threads[1]? = some (.waited .none) := by rw [threads]; rfl
    cases here.symm.trans there
    have own : ops.filter (·.thread == 1) = List.replicate 3 (.taken 1 .spaceReady .none) := by
      decide
    rwa [← own]
  have clear : ¬ m.word.has .notFull = true := by decide
  exact ⟨threads, second, fun outstanding => clear ((pending .notFull).2 outstanding),
    once .notFull (ops.drop 3) (List.drop_suffix 3 ops).isInfix (by decide)⟩

end Monitor

end AudioCapture
