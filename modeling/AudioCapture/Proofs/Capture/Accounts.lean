import AudioCapture.Proofs.Capture.ByteStream

/-!
# The accounts of a capture thread

The counts of a capture thread agree with its iterations, with each other and with both queues
(`counts_balance`). `share` is what one iteration has added to the counts so far; the invariant
`Accounted` says that the counts are the sum of the shares and that the outcomes that went into
the status slot are those that were taken and the one in it.
-/

namespace AudioCapture

/-! ## Sums of counts -/

namespace Tally

attribute [ext] Tally

def plus (s t : Tally) : Tally where
  iterations := s.iterations + t.iterations
  idleWaits := s.idleWaits + t.idleWaits
  readsOk := s.readsOk + t.readsOk
  readErrors := s.readErrors + t.readErrors
  bytesRead := s.bytesRead + t.bytesRead
  bytesPublished := s.bytesPublished + t.bytesPublished
  shortWrites := s.shortWrites + t.shortWrites
  bytesDropped := s.bytesDropped + t.bytesDropped
  statusPublished := s.statusPublished + t.statusPublished
  statusDrops := s.statusDrops + t.statusDrops

theorem plus_assoc (s t u : Tally) : (s.plus t).plus u = s.plus (t.plus u) := by
  ext <;> exact Nat.add_assoc _ _ _

@[simp] theorem plus_zero (t : Tally) : t.plus {} = t := rfl

@[simp] theorem zero_plus (t : Tally) : plus {} t = t := by
  ext <;> exact Nat.zero_add _

/-- The counts but for that of the waits without a grant, which belong to no iteration. -/
def worked (t : Tally) : Tally := { t with idleWaits := 0 }

theorem worked_plus (s t : Tally) : (s.plus t).worked = s.worked.plus t.worked := rfl

/-- The counts agree with each other when `ahead` iterations have not got as far as their
outcome. -/
structure Balances (t : Tally) (ahead : Nat) : Prop where
  reads : t.iterations = t.readsOk + t.readErrors + ahead
  outcomes : t.iterations = t.statusPublished + t.statusDrops + ahead
  bytes : t.bytesRead = t.bytesPublished + t.bytesDropped

theorem Balances.plus {s t : Tally} {m n : Nat} (first : s.Balances m) (second : t.Balances n) :
    (s.plus t).Balances (m + n) := by
  obtain ⟨reads, outcomes, bytes⟩ := first
  obtain ⟨reads', outcomes', bytes'⟩ := second
  constructor <;> simp only [Tally.plus] <;> omega

end Tally

/-! ## Shares -/

@[simp]
def ReadEnd.hasFailed : ReadEnd → Bool
  | .failed _ => true
  | _ => false

namespace Iteration

/-- By how much a successful read reported more than there was room for. -/
def excess (i : Iteration) : Nat := i.reported - i.room

/-- The same for several iterations. -/
def totalExcess : List Iteration → Nat
  | [] => 0
  | i :: rest => i.excess + totalExcess rest

/-- Whether a successful read reported more than there was room for. -/
def isShort (i : Iteration) : Bool := decide (i.room < i.reported)

def hasFailed (i : Iteration) : Bool := i.ending.any ReadEnd.hasFailed

/-- What an iteration has added to the counts so far. -/
def share (i : Iteration) : Tally where
  iterations := 1
  readsOk := i.stored.toNat
  readErrors := i.hasFailed.toNat
  bytesRead := if i.stored then i.reported else 0
  bytesPublished := i.published.length
  shortWrites := (i.stored && i.isShort).toNat
  bytesDropped := if i.stored then i.excess else 0
  statusPublished := i.record?.toList.length
  statusDrops := (i.recorded == some false).toNat

theorem share_comeBack {i : Iteration} (unreturned : i.ending = none) (unstored : i.stored = false)
    (unrecorded : i.recorded = none) (read : DeviceRead) :
    (i.comeBack read).share = i.share.plus { readErrors := read.ending.hasFailed.toNat } := by
  ext <;> simp [share, comeBack, Tally.plus, hasFailed, record?, published_eq_nil, unreturned,
    unstored, unrecorded]

theorem share_store {i : Iteration} {count : UInt64}
    (returned : i.ending = some (.transferred count)) (unstored : i.stored = false) :
    i.store.share = i.share.plus {
      readsOk := 1
      bytesRead := count.toNat
      bytesPublished := min count.toNat i.room
      shortWrites := i.isShort.toNat
      bytesDropped := i.excess } := by
  ext <;> simp [share, store, Tally.plus, hasFailed, record?, published, isShort, excess, reported,
    returned, unstored]

theorem share_record {i : Iteration} {ending : ReadEnd} {outcome : ReadOutcome}
    (returned : i.ending = some ending) (came : ending.outcome? = some outcome)
    (unrecorded : i.recorded = none) (fits : Bool) :
    (i.record fits).share =
      i.share.plus (if fits then { statusPublished := 1 } else { statusDrops := 1 }) := by
  cases fits <;> ext <;> simp [share, record, Tally.plus, hasFailed, record?, published, isShort,
    excess, reported, returned, came, unrecorded]

/-- The shares of iterations, added up. -/
def total (iterations : List Iteration) : Tally :=
  iterations.foldr (fun i rest => i.share.plus rest) {}

@[simp] theorem total_nil : total [] = {} := rfl

@[simp] theorem total_cons (i : Iteration) (rest : List Iteration) :
    total (i :: rest) = i.share.plus (total rest) := rfl

theorem total_concat (past : List Iteration) (i : Iteration) :
    total (past ++ [i]) = (total past).plus i.share := by
  induction past with
  | nil => simp
  | cons first rest ih => rw [List.cons_append, total_cons, ih, total_cons, Tally.plus_assoc]

theorem total_iterations (l : List Iteration) : (total l).iterations = l.length := by
  induction l with
  | nil => rfl
  | cons i rest ih =>
    rw [List.length_cons, ← ih, Nat.add_comm]
    rfl

theorem total_bytesPublished (l : List Iteration) :
    (total l).bytesPublished = (l.flatMap published).length := by
  induction l with
  | nil => rfl
  | cons i rest ih =>
    rw [List.flatMap_cons, List.length_append, ← ih]
    rfl

theorem total_statusPublished (l : List Iteration) :
    (total l).statusPublished = (l.filterMap record?).length := by
  induction l with
  | nil => rfl
  | cons i rest ih =>
    rw [List.filterMap_cons, total_cons]
    show i.record?.toList.length + (total rest).statusPublished = _
    rw [ih]
    cases i.record? with
    | none => simp
    | some outcome => simp [Nat.add_comm]

/-- An iteration that has nothing more to store. -/
def Settled (i : Iteration) : Prop := i.stored = true ∨ i.reported = 0

theorem settled_of_stored {i : Iteration} {ending : ReadEnd} (ended : i.ending = some ending)
    (bytes : i.stored = ending.succeeded) : i.Settled := by
  cases ending with
  | transferred count => exact .inl bytes
  | failed status => exact .inr (by simp [reported, ended])
  | brokeDown => exact .inr (by simp [reported, ended])

theorem Complete.settled {i : Iteration} (h : i.Complete) : i.Settled := by
  obtain ⟨ending, ended, -, bytes⟩ := h.returned
  exact settled_of_stored ended bytes

theorem total_shortWrites {l : List Iteration} (settled : ∀ i ∈ l, i.Settled) :
    (total l).shortWrites = l.countP isShort := by
  induction l with
  | nil => rfl
  | cons i rest ih =>
    have here : (i.stored && i.isShort) = i.isShort := by
      rcases settled i List.mem_cons_self with stored | none
      · rw [stored, Bool.true_and]
      · simp [isShort, none]
    rw [List.countP_cons, ← ih fun j member => settled j (List.mem_cons_of_mem i member)]
    show (i.stored && i.isShort).toNat + _ = _
    rw [here, Nat.add_comm]
    cases i.isShort <;> rfl

theorem total_bytesDropped {l : List Iteration} (settled : ∀ i ∈ l, i.Settled) :
    (total l).bytesDropped = totalExcess l := by
  induction l with
  | nil => rfl
  | cons i rest ih =>
    have here : (if i.stored then i.excess else 0) = i.excess := by
      rcases settled i List.mem_cons_self with stored | none
      · rw [if_pos stored]
      · simp [excess, none]
    rw [totalExcess, ← ih fun j member => settled j (List.mem_cons_of_mem i member)]
    exact congrArg (· + (total rest).bytesDropped) here

/-! ### Balance of one iteration -/

theorem Complete.balances {i : Iteration} (h : i.Complete) : i.share.Balances 0 := by
  obtain ⟨ending, ended, unbroken, bytes⟩ := h.returned
  obtain ⟨fits, recorded⟩ := h.recorded
  cases ending with
  | transferred count =>
    change i.stored = true at bytes
    refine ⟨?_, ?_, ?_⟩
    · simp [share, bytes, hasFailed, ended]
    · cases fits <;> simp [share, record?, ended, recorded, ReadEnd.outcome?]
    · -- what was stored and what was too much make up what was reported
      simp [share, published, excess, reported, bytes, ended]
      omega
  | failed status =>
    change i.stored = false at bytes
    refine ⟨?_, ?_, ?_⟩
    · simp [share, bytes, hasFailed, ended]
    · cases fits <;> simp [share, record?, ended, recorded, ReadEnd.outcome?]
    · simp [share, published_eq_nil bytes, bytes]
  | brokeDown => exact absurd rfl unbroken

theorem balances_total {l : List Iteration} (complete : ∀ i ∈ l, i.Complete) :
    (total l).Balances 0 := by
  induction l with
  | nil => exact ⟨rfl, rfl, rfl⟩
  | cons i rest ih =>
    exact (complete i List.mem_cons_self).balances.plus
      (ih fun j member => complete j (List.mem_cons_of_mem i member))

/-- An iteration whose read has not come back, or has broken down, is ahead. -/
theorem balances_ahead {i : Iteration} (unreturned : i.ending = none ∨ i.ending = some .brokeDown)
    (unstored : i.stored = false) (unrecorded : i.recorded = none) : i.share.Balances 1 := by
  rcases unreturned with ended | ended <;>
    constructor <;> simp [share, published_eq_nil, hasFailed, record?, ended, unstored, unrecorded]

end Iteration

/-! ## Steps that count -/

namespace Capture

/-- What the data write adds to the counts, when the room that was offered is still there. -/
theorem tally_publish {c : Capture} {free : Nat} (room : free ≤ c.data.ring.free)
    (reported : Nat) :
    (c.publish free reported).1.tally = c.tally.plus {
      readsOk := 1
      bytesRead := reported
      bytesPublished := min reported free
      shortWrites := (decide (free < reported)).toNat
      bytesDropped := reported - free } := by
  have written : (c.data.ring.writeFrom (min reported free) c.buffer.byte?).2 =
      min reported free := by
    show min (min reported free) c.data.ring.free = _
    omega
  have short : min reported free < reported ↔ free < reported := by omega
  have dropped : reported - min reported free = reported - free := by omega
  simp only [publish, written, Tally.plus, short, dropped]
  by_cases less : free < reported <;> simp [less]

theorem tally_publishRecord (c : Capture) (outcome : ReadOutcome) :
    (c.publishRecord outcome).1.tally = c.tally.plus
      (if decide (0 < c.records.free) then { statusPublished := 1 } else { statusDrops := 1 }) := by
  rw [publishRecord_fst]
  by_cases room : 0 < c.records.free <;> simp [room, Tally.plus]

end Capture

/-! ## The invariant -/

namespace Observed

variable {w next : Observed}

structure Accounted (w : Observed) : Prop where
  exact : w.Exact
  counted : w.capture.tally.worked = Iteration.total w.iterations
  outcomes : w.taken ++ w.capture.records.contents = w.iterations.filterMap Iteration.record?

/-- A read that comes back adds no outcome, and a failed one an error. -/
theorem Accounted.comeBack {free : Nat} {c : Capture} {read : DeviceRead} (h : w.Accounted)
    (point : w.capture.point = .reading free)
    (exact : Exact { w with capture := c, current := w.current.map (·.comeBack read) })
    (records : c.records = w.capture.records)
    (tally : c.tally.worked =
      w.capture.tally.worked.plus { readErrors := read.ending.hasFailed.toNat }) :
    Accounted { w with capture := c, current := w.current.map (·.comeBack read) } := by
  have current := h.exact.standing.stands.reading point
  have counted := h.counted
  have outcomes := h.outcomes
  simp only [iterations, current, Option.toList_some, Iteration.total_concat] at counted
  simp only [iterations, current, Option.toList_some, List.filterMap_append] at outcomes
  refine ⟨exact, ?_, ?_⟩
  · simp only [iterations, current, Option.map_some, Option.toList_some, Iteration.total_concat]
    rw [tally, counted, Tally.plus_assoc, Iteration.share_comeBack rfl rfl rfl]
  · simp only [iterations, current, Option.map_some, Option.toList_some, List.filterMap_append,
      records]
    exact outcomes

theorem Accounted.move (move : w.Move next) (h : w.Accounted) : next.Accounted := by
  have exact := h.exact.move move
  have stands := h.exact.standing.stands
  have counted := h.counted
  have outcomes := h.outcomes
  cases move with
  | aside done aside =>
    refine ⟨exact, ?_, ?_⟩
    · exact aside.tally.trans counted
    · simp only [aside.records]
      exact outcomes
  | began point =>
    have idle := stands.between (by rw [point]; rfl)
    simp only [iterations, idle, Option.toList_none, List.append_nil] at counted outcomes
    refine ⟨exact, ?_, ?_⟩
    · simp only [iterations, Option.toList_some, Iteration.total_concat]
      rw [← counted]
      rfl
    · simp only [iterations, Option.toList_some, List.filterMap_append]
      exact outcomes.trans (List.append_nil _).symm
  | succeeded free read count point ending =>
    refine h.comeBack point exact rfl ?_
    rw [ending]
    rfl
  | failed free read status point ending =>
    refine h.comeBack point exact rfl ?_
    rw [ending]
    rfl
  | brokeDown free read point ending =>
    refine h.comeBack point exact rfl ?_
    rw [ending]
    rfl
  | stored free reported point =>
    obtain ⟨count, rfl, current⟩ := stands.storing point
    have room : free ≤ w.capture.data.ring.free := h.exact.room _ current rfl
    simp only [iterations, current, Option.toList_some, Iteration.total_concat] at counted
    simp only [iterations, current, Option.toList_some, List.filterMap_append] at outcomes
    refine ⟨exact, ?_, ?_⟩
    · -- the data write cuts nothing off, so it counts what the iteration can tell by itself
      simp only [iterations, current, Option.map_some, Option.toList_some, Iteration.total_concat]
      rw [Capture.tally_publish room, Tally.worked_plus, counted, Tally.plus_assoc,
        Iteration.share_store rfl rfl]
      rfl
    · simp only [iterations, current, Option.map_some, Option.toList_some, List.filterMap_append]
      exact outcomes
  | recorded outcome point =>
    obtain ⟨i, ending, current, ended, came, bytes, unrecorded⟩ := stands.recording point
    simp only [iterations, current, Option.toList_some, Iteration.total_concat] at counted
    simp only [iterations, current, Option.toList_some, List.filterMap_append] at outcomes
    refine ⟨exact, ?_, ?_⟩
    · simp only [iterations, current, Option.map_some, Option.toList_some, Iteration.total_concat]
      rw [Capture.tally_publishRecord, Tally.worked_plus, counted, Tally.plus_assoc,
        Iteration.share_record ended came unrecorded]
      split <;> rfl
    · -- the slot takes the outcome exactly if the iteration is marked as recorded
      have before : [i].filterMap Iteration.record? = [] := by
        simp [Iteration.record?, ended, unrecorded]
      have after : [i.record (decide (0 < w.capture.records.free))].filterMap Iteration.record? =
          [outcome].take w.capture.records.free := by
        rcases Nat.eq_zero_or_pos w.capture.records.free with full | room
        · simp [Iteration.record?, Iteration.record, ended, full]
        · rw [List.take_of_length_le (l := [outcome]) room]
          simp [Iteration.record?, Iteration.record, ended, came, room]
      simp only [iterations, current, Option.map_some, Option.toList_some, List.filterMap_append,
        Capture.publishRecord_fst, h.exact.standing.records.contents_write]
      rw [← List.append_assoc, outcomes, before, List.append_nil, after]
  | signalled point =>
    refine ⟨exact, ?_, ?_⟩
    · simp only [iterations, Option.toList_none, List.append_nil]
      exact counted
    · simp only [iterations, Option.toList_none, List.append_nil]
      exact outcomes
  | drained most => exact ⟨exact, counted, outcomes⟩
  | took =>
    refine ⟨exact, counted, ?_⟩
    have valid := h.exact.standing.records
    show (w.taken ++ w.capture.records.readOne.2.toList) ++ w.capture.records.readOne.1.contents = _
    rw [valid.readOne_snd, valid.contents_readOne, ← List.take_one, ← List.drop_one,
      List.append_assoc, List.take_append_drop]
    exact outcomes

variable {chunkSize chunkCount : Nat}

theorem accounted_fresh (positive : 0 < chunkSize * chunkCount) (priority : ThreadPriority)
    (requester : Requester) :
    Accounted { capture := .fresh chunkSize chunkCount priority requester } :=
  ⟨exact_fresh positive priority requester, rfl, rfl⟩

theorem accounted_history (positive : 0 < chunkSize * chunkCount) (priority : ThreadPriority)
    (requester : Requester) (events : List CaptureEvent) :
    ((Capture.fresh chunkSize chunkCount priority requester).history events).Accounted :=
  run_induction Accounted Accounted.move (accounted_fresh positive priority requester) events

/-! ## Snapshots -/

/-- A snapshot of the counts agrees with itself, with the iterations and with both queues, when
`ahead` iterations have not got as far as their outcome. -/
structure Balanced (w : Observed) (ahead : Nat) : Prop where
  reads : w.capture.diagnostics.iterations.toNat =
    w.capture.diagnostics.readsOk.toNat + w.capture.diagnostics.readErrors.toNat + ahead
  outcomes : w.capture.diagnostics.iterations.toNat =
    w.capture.diagnostics.statusPublished.toNat + w.capture.diagnostics.statusDrops.toNat + ahead
  bytes : w.capture.diagnostics.bytesRead =
    w.capture.diagnostics.bytesPublished + w.capture.diagnostics.bytesDropped
  published : w.capture.diagnostics.bytesPublished.toNat =
    w.drained.length + w.capture.data.ring.readable
  short : w.capture.diagnostics.shortWrites.toNat = w.iterations.countP Iteration.isShort
  dropped : w.capture.diagnostics.bytesDropped =
    .ofNat (Iteration.totalExcess w.iterations)
  records : w.capture.diagnostics.statusPublished.toNat =
    w.taken.length + w.capture.records.readable

/-- Counts that balance show in a snapshot as they are. -/
theorem Accounted.balanced {ahead : Nat} (h : w.Accounted)
    (few : w.iterations.length < UInt64.size)
    (small : (w.iterations.flatMap Iteration.published).length < UInt64.size)
    (settled : ∀ i ∈ w.iterations, i.Settled)
    (balances : (Iteration.total w.iterations).Balances ahead) : w.Balanced ahead := by
  have iterations : w.capture.tally.iterations = w.iterations.length :=
    (congrArg Tally.iterations h.counted).trans (Iteration.total_iterations _)
  have bytesPublished : w.capture.tally.bytesPublished =
      (w.iterations.flatMap Iteration.published).length :=
    (congrArg Tally.bytesPublished h.counted).trans (Iteration.total_bytesPublished _)
  have statusPublished : w.capture.tally.statusPublished =
      (w.iterations.filterMap Iteration.record?).length :=
    (congrArg Tally.statusPublished h.counted).trans (Iteration.total_statusPublished _)
  have shortWrites : w.capture.tally.shortWrites = w.iterations.countP Iteration.isShort :=
    (congrArg Tally.shortWrites h.counted).trans (Iteration.total_shortWrites settled)
  have bytesDropped : w.capture.tally.bytesDropped = Iteration.totalExcess w.iterations :=
    (congrArg Tally.bytesDropped h.counted).trans (Iteration.total_bytesDropped settled)
  rw [← h.counted] at balances
  obtain ⟨reads, outcomes, bytes⟩ := balances
  change w.capture.tally.iterations =
    w.capture.tally.readsOk + w.capture.tally.readErrors + ahead at reads
  change w.capture.tally.iterations =
    w.capture.tally.statusPublished + w.capture.tally.statusDrops + ahead at outcomes
  change w.capture.tally.bytesRead =
    w.capture.tally.bytesPublished + w.capture.tally.bytesDropped at bytes
  have drained : (w.iterations.flatMap Iteration.published).length =
      w.drained.length + w.capture.data.ring.readable := by
    rw [← h.exact.stream, List.length_append, h.exact.standing.data.length_contents]
  have taken : (w.iterations.filterMap Iteration.record?).length =
      w.taken.length + w.capture.records.readable := by
    rw [← h.outcomes, List.length_append, h.exact.standing.records.length_contents]
  -- every other count is at most one of the two that are bounded
  have shown : ∀ {n : Nat}, n < UInt64.size → (UInt64.ofNat n).toNat = n :=
    fun below => UInt64.toNat_ofNat_of_lt' below
  have shorts : w.iterations.countP Iteration.isShort ≤ w.iterations.length :=
    List.countP_le_length
  constructor
  · simp only [Capture.diagnostics, Tally.snapshot]
    rw [shown (by omega), shown (by omega), shown (by omega), reads]
  · simp only [Capture.diagnostics, Tally.snapshot]
    rw [shown (by omega), shown (by omega), shown (by omega), outcomes]
  · simp only [Capture.diagnostics, Tally.snapshot]
    rw [bytes, UInt64.ofNat_add]
  · simp only [Capture.diagnostics, Tally.snapshot]
    rw [shown (by omega), bytesPublished, drained]
  · simp only [Capture.diagnostics, Tally.snapshot]
    rw [shown (by omega), shortWrites]
  · simp only [Capture.diagnostics, Tally.snapshot]
    rw [bytesDropped]
  · simp only [Capture.diagnostics, Tally.snapshot]
    rw [shown (by omega), statusPublished, taken]

/-- Between two iterations nothing is ahead. -/
theorem Accounted.balanced_between (h : w.Accounted) (few : w.iterations.length < UInt64.size)
    (small : (w.iterations.flatMap Iteration.published).length < UInt64.size)
    (between : w.capture.point.isBetween = true ∨ w.current = none) : w.Balanced 0 := by
  have idle : w.current = none :=
    between.elim (fun here => h.exact.standing.stands.between here) id
  have complete : ∀ i ∈ w.iterations, i.Complete := by
    simp only [iterations, idle, Option.toList_none, List.append_nil]
    exact h.exact.standing.past
  exact h.balanced few small (fun i member => (complete i member).settled)
    (Iteration.balances_total complete)

/-- In a read of the device, and after one that broke down, its iteration has come no further. -/
theorem Standing.unreturned (h : w.Standing)
    (within : (∃ free, w.capture.point = .reading free) ∨
      w.capture.point = .brokenDown ∧ w.current.isSome = true) :
    ∃ i, w.current = some i ∧ (i.ending = none ∨ i.ending = some .brokeDown) ∧
      i.stored = false ∧ i.recorded = none := by
  rcases within with ⟨free, point⟩ | ⟨point, under⟩
  · exact ⟨_, h.stands.reading point, .inl rfl, rfl, rfl⟩
  · obtain ⟨i, current⟩ := Option.isSome_iff_exists.1 under
    obtain ⟨ended, unstored, unrecorded⟩ := (current ▸ h.stands).brokenDown point
    exact ⟨i, current, .inr ended, unstored, unrecorded⟩

theorem Accounted.balanced_within (h : w.Accounted) (few : w.iterations.length < UInt64.size)
    (small : (w.iterations.flatMap Iteration.published).length < UInt64.size)
    (within : (∃ free, w.capture.point = .reading free) ∨
      w.capture.point = .brokenDown ∧ w.current.isSome = true) : w.Balanced 1 := by
  have past := h.exact.standing.past
  obtain ⟨i, current, unreturned, unstored, unrecorded⟩ := h.exact.standing.unreturned within
  -- such a read has reported nothing, so nothing of it is waiting to be counted
  have none : i.reported = 0 := by
    rcases unreturned with ended | ended <;> simp [Iteration.reported, ended]
  have all : w.iterations = w.past ++ [i] := by rw [iterations, current, Option.toList_some]
  refine h.balanced few small ?_ ?_
  · intro j member
    rw [all, List.mem_append, List.mem_singleton] at member
    rcases member with old | rfl
    · exact (past j old).settled
    · exact .inr none
  · rw [all, Iteration.total_concat]
    exact (Iteration.balances_total past).plus
      (Iteration.balances_ahead unreturned unstored unrecorded)

theorem Move.capacity (move : w.Move next) :
    next.capture.data.ring.capacity = w.capture.data.ring.capacity := by
  cases move with
  | aside done aside => exact congrArg Ring.capacity aside.ring
  | recorded outcome point => rw [Capture.publishRecord_fst]
  | began | succeeded | failed | brokeDown | stored | signalled | drained | took => rfl

theorem Move.slot (move : w.Move next) :
    next.capture.records.capacity = w.capture.records.capacity := by
  cases move with
  | aside done aside => exact congrArg Ring.capacity aside.records
  | recorded outcome point =>
    rw [Capture.publishRecord_fst, Ring.write_eq_writeFrom]
    rfl
  | took =>
    show w.capture.records.readOne.1.capacity = _
    unfold Ring.readOne
    split <;> rfl
  | began | succeeded | failed | brokeDown | stored | signalled | drained => rfl

theorem capacity_history (c : Capture) (events : List CaptureEvent) :
    (c.history events).capture.data.ring.capacity = c.data.ring.capacity :=
  run_induction (fun w => w.capture.data.ring.capacity = c.data.ring.capacity)
    (fun move kept => move.capacity.trans kept) rfl events

end Observed

/-! ## Bounds -/

/-- Both stretches of a copy of as many elements from a count on lie within the slots, and the
second ends before the first begins. -/
def Ring.CopiesWithin {α : Type} (r : Ring α) (count number : Nat) : Prop :=
  let start := r.index count
  let first := min number (r.capacity - start)
  start < r.capacity ∧ start + first ≤ r.capacity ∧ number - first ≤ start

theorem Ring.Valid.copiesWithin {α : Type} {r : Ring α} (h : r.Valid) (count : Nat) {number : Nat}
    (fits : number ≤ r.free) : r.CopiesWithin count number := by
  have low := index_lt h.capacity_pos count
  have room := r.readable_add_free
  refine ⟨low, ?_, ?_⟩ <;> omega

namespace Capture

/-- What the next step of the thread takes of its buffer, which is `length` bytes long, what it
subtracts and what it copies is in bounds. -/
structure InBounds (c : Capture) (length : Nat) : Prop where
  granted : c.point = .granted → c.data.ring.readable ≤ c.data.ring.capacity ∧
    c.data.ring.free ≤ length
  reading : ∀ free, c.point = .reading free → free ≤ length
  storing : ∀ free reported, c.point = .storing free reported →
    let written := (c.data.ring.writeFrom (min reported free) c.buffer.byte?).2
    min reported free ≤ length ∧ written ≤ reported ∧
      c.data.ring.readable ≤ c.data.ring.capacity ∧
      c.data.ring.CopiesWithin c.data.ring.written written
  recording : ∀ outcome, c.point = .recording outcome →
    c.records.readable ≤ c.records.capacity ∧
      c.records.CopiesWithin c.records.written (c.records.write [outcome]).2

end Capture

namespace Observed

theorem Exact.inBounds {w : Observed} (h : w.Exact) {length : Nat}
    (capacity : w.capture.data.ring.capacity = length) : w.capture.InBounds length := by
  have level := w.capture.data.ring.readable_add_free
  have stands := h.standing.stands
  refine ⟨fun _ => ⟨by omega, by omega⟩, ?_, ?_, ?_⟩
  · intro free point
    have room : free ≤ w.capture.data.ring.free := h.room _ (stands.reading point) rfl
    omega
  · intro free reported point
    obtain ⟨count, rfl, current⟩ := stands.storing point
    have room : free ≤ w.capture.data.ring.free := h.room _ current rfl
    have written : (w.capture.data.ring.writeFrom (min count.toNat free)
        w.capture.buffer.byte?).2 = min (min count.toNat free) w.capture.data.ring.free := rfl
    exact ⟨by omega, by omega, by omega, h.standing.data.copiesWithin _ (by omega)⟩
  · intro outcome point
    refine ⟨w.capture.records.readable_le, h.standing.records.copiesWithin _ ?_⟩
    rw [Ring.write_snd]
    exact Nat.min_le_right _ _

end Observed

/-! ## The accounts -/

/-- **Accounts**: between two iterations the counts that a snapshot shows agree with each other,
with what the device reported and with both queues; in a read of the device, and after one that
broke down, they do but for the iteration itself, which is counted when it begins. At no time does
the thread reach out of its buffer or out of a queue. -/
theorem Capture.counts_balance {chunkSize chunkCount : Nat} (positive : 0 < chunkSize * chunkCount)
    (priority : ThreadPriority) (requester : Requester) (events : List CaptureEvent)
    (few : ((fresh chunkSize chunkCount priority requester).history events).iterations.length <
      UInt64.size)
    (small : (((fresh chunkSize chunkCount priority requester).history events).iterations.flatMap
      Iteration.published).length < UInt64.size) :
    let c := fresh chunkSize chunkCount priority requester
    let w := c.history events
    (w.capture = c.run events ∧
        w.drained = (c.replies events).flatMap CaptureReply.bytes ∧
        w.taken = (c.replies events).filterMap CaptureReply.record) ∧
      (w.capture.point.isBetween = true ∨ w.current = none → w.Balanced 0) ∧
      ((∃ free, w.capture.point = .reading free) ∨
        w.capture.point = .brokenDown ∧ w.current.isSome = true → w.Balanced 1) ∧
      w.capture.InBounds (chunkSize * chunkCount) := by
  intro c w
  have accounted := Observed.accounted_history positive priority requester events
  have observed : w.capture = c.run events ∧
      w.drained = (c.replies events).flatMap CaptureReply.bytes ∧
      w.taken = (c.replies events).filterMap CaptureReply.record :=
    ⟨Observed.run_capture _ _, Observed.run_drained _ _, Observed.run_taken _ _⟩
  exact ⟨observed, accounted.balanced_between few small, accounted.balanced_within few small,
    accounted.exact.inBounds (Observed.capacity_history _ events)⟩

/-- The run with a read that reports too much, one that finds the slot full, one that fails and
one that breaks down. -/
theorem Capture.counts_balance_sample :
    let w := (fresh 2 2 .normal .ignoring).history CaptureEvent.sample
    (0 < 2 * 2 ∧ w.iterations.length < UInt64.size ∧
        (w.iterations.flatMap Iteration.published).length < UInt64.size) ∧
      w.capture.diagnostics.iterations = 4 ∧ w.Balanced 1 :=
  ⟨⟨by decide, by decide, by decide⟩, by decide,
    (counts_balance (by decide) .normal .ignoring _ (by decide) (by decide)).2.2.1
      (.inr ⟨by decide, by decide⟩)⟩

end AudioCapture
