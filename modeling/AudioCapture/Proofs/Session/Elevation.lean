import Mathlib.Data.List.Forall2
import AudioCapture.Proofs.Session.Comparison
import AudioCapture.Proofs.Session.Requests
import AudioCapture.Proofs.Session.Stopping

/-!
# Elevated priorities

An elevated priority is asked for once, and whether it is granted shows in nothing but the log
(`elevation_irrelevant`). Two runs that differ in whom the thread asks are compared step by step:
as long as both requests are answered, the sessions are the same but for whom they ask and for what
their threads have logged (`Reasked`).

* `advance_reasked`, `happenAll_reasked`, `outlast_reasked` — what happens beside the owner;
* `setup_reasked`, `closeDuring_reasked`, `perform_reasked` — calls;
* `run_reasked` — whole runs.
-/

namespace AudioCapture

/-- The same happens, but for who is to be asked by a thread that is set up later. -/
inductive SessionEvent.Matches : SessionEvent → SessionEvent → Prop
  | same (event : SessionEvent) : Matches event event
  | equip (first second : Requester) : Matches (.equip first) (.equip second)

namespace Session

variable {σ : Type} {requester asked : Requester} {lines : List Notice}

/-- The session with others to ask, for its thread and for one that is set up later, and with
another log of its thread. -/
def reask (s : Session σ) (requester asked : Requester) (lines : List Notice) : Session σ :=
  { s with requester, capture := s.capture.map (·.reask asked), threadLog := lines }

/-- The sessions differ in whom they ask and in what their threads have logged at most. -/
def Reasked (s t : Session σ) : Prop := ∃ requester asked lines, t = s.reask requester asked lines

/-- The thread makes no request that is not answered. -/
def Willing (s : Session σ) : Prop := ∀ c, s.capture = some c → c.Willing

/-- The same of sessions whose threads make no request that is not answered. -/
structure WillingReasked (s t : Session σ) : Prop where
  related : s.Reasked t
  first : s.Willing
  second : t.Willing

section Fields

variable (s : Session σ)

theorem config_reask : (s.reask requester asked lines).config = s.config := rfl

theorem state_reask : (s.reask requester asked lines).state = s.state := rfl

theorem closed_reask : (s.reask requester asked lines).closed = s.closed := rfl

theorem holdsSource_reask : (s.reask requester asked lines).holdsSource = s.holdsSource := rfl

theorem capture_reask :
    (s.reask requester asked lines).capture = s.capture.map (·.reask asked) := rfl

theorem holdsReader_reask : (s.reask requester asked lines).holdsReader = s.holdsReader := rfl

theorem pendingRead_reask : (s.reask requester asked lines).pendingRead = s.pendingRead := rfl

theorem gateOpen_reask : (s.reask requester asked lines).gateOpen = s.gateOpen := rfl

theorem thread?_reask :
    (s.reask requester asked lines).thread? = s.thread?.map (·.reask asked) := by
  unfold thread?
  show (if s.holdsTransport then s.capture.map (·.reask asked) else none) = _
  split
  · rfl
  · rfl

theorem diagnostics_reask : (s.reask requester asked lines).diagnostics = s.diagnostics := by
  unfold diagnostics
  rw [thread?_reask]
  cases s.thread? with
  | none => rfl
  | some c => rfl

end Fields

theorem capture_reask_of_some {s : Session σ} {c : Capture} (here : s.capture = some c) :
    (s.reask requester asked lines).capture = some (c.reask asked) := by
  rw [capture_reask, here]
  rfl

theorem Reasked.refl (s : Session σ) : s.Reasked s := by
  refine ⟨s.requester, (s.capture.map (·.requester)).getD .ignoring, s.threadLog, ?_⟩
  cases s with
  | mk =>
    rename_i capture _ _ _ _ _ _
    cases capture with
    | none => rfl
    | some c => rfl

/-! ## Beside the owner -/

section Beside

variable {s t : Session σ}

theorem Willing.asideStep (h : s.Willing) (aside : s.AsideStep t) : t.Willing := by
  have followed : ∀ (s : Session σ) {c : Capture} (event : CaptureEvent), c.Willing →
      (s.follow (c.step event)).Willing := by
    intro s c event willing d there
    obtain ⟨device, pendingRead, same, -⟩ := s.follow_eq (c.step event)
    rw [same] at there
    cases there
    exact willing.step event
  cases aside with
  | still => exact h
  | thread c event here threads => exact followed s event (h c here)
  | returned c read here pending => exact followed _ _ (h c here)
  | consumer c event here consumers =>
    intro d there
    cases there
    exact (h c here).step event
  | left => exact h
  | released => exact h

theorem follow_reasked (s : Session σ) {first second : Capture × CaptureReply}
    (mirrors : Capture.Mirrors asked first second) :
    (s.follow first).Reasked ((s.reask requester asked lines).follow second) := by
  obtain ⟨capture, reply⟩ := first
  obtain ⟨capture', reply'⟩ := second
  obtain ⟨rfl : capture' = capture.reask asked,
    same : reply' = { reply with notices := reply'.notices }⟩ := mirrors
  rw [same]
  refine ⟨requester, asked, lines ++ reply'.notices, ?_⟩
  simp only [follow]
  cases reply.offered with
  | none => rfl
  | some free => rfl

theorem advance_reasked (reasked : s.WillingReasked t) (event : ThreadEvent) :
    (s.advance event).Reasked (t.advance event) := by
  obtain ⟨⟨requester, asked, lines, rfl⟩, first, second⟩ := reasked
  cases here : s.capture with
  | none =>
    have there : (s.reask requester asked lines).capture = none := by
      rw [capture_reask, here]
      rfl
    simp only [advance, here, there]
    exact ⟨requester, asked, lines, rfl⟩
  | some c =>
    have there : (s.reask requester asked lines).capture = some (c.reask asked) :=
      capture_reask_of_some here
    have mirrors := Capture.step_mirrors (first c here) (second _ there)
    simp only [advance, here, there]
    cases event with
    | proceed => exact follow_reasked s (mirrors .proceed)
    | expire => exact follow_reasked s (mirrors .expire)
    | comeBack =>
      dsimp only
      rw [pendingRead_reask]
      cases s.pendingRead with
      | none => exact ⟨requester, asked, lines, rfl⟩
      | some read =>
        dsimp only
        split
        · exact ⟨requester, asked, lines, rfl⟩
        · exact follow_reasked { s with pendingRead := none } (mirrors (.returned read))
    | letGo =>
      dsimp only
      rw [gateOpen_reask]
      split
      · exact follow_reasked s (mirrors .letGo)
      · exact ⟨requester, asked, lines, rfl⟩

theorem WillingReasked.advance (reasked : s.WillingReasked t) (event : ThreadEvent) :
    (s.advance event).WillingReasked (t.advance event) :=
  ⟨advance_reasked reasked event, reasked.first.asideStep (s.advance_asideStep event),
    reasked.second.asideStep (t.advance_asideStep event)⟩

theorem consume_reasked (reasked : s.Reasked t) (event : ConsumerEvent) :
    (s.consume event).Reasked (t.consume event) := by
  obtain ⟨requester, asked, lines, rfl⟩ := reasked
  refine ⟨requester, asked, lines, ?_⟩
  unfold consume
  rw [holdsReader_reask, capture_reask]
  cases s.holdsReader with
  | false => rfl
  | true =>
    cases s.capture with
    | none => rfl
    | some c =>
      cases event with
      | requestSpace | takeData | drain | nextRecord | leave => rfl

theorem happen_reasked (reasked : s.WillingReasked t) (event : AsideEvent) :
    (s.happen event).WillingReasked (t.happen event) := by
  refine ⟨?_, reasked.first.asideStep (s.happen_asideStep event),
    reasked.second.asideStep (t.happen_asideStep event)⟩
  cases event with
  | thread event => exact advance_reasked reasked event
  | consumer event => exact consume_reasked reasked.related event
  | release =>
    obtain ⟨requester, asked, lines, rfl⟩ := reasked.related
    exact ⟨requester, asked, lines, rfl⟩

theorem happenAll_reasked (reasked : s.WillingReasked t) (events : List AsideEvent) :
    (s.happenAll events).WillingReasked (t.happenAll events) := by
  induction events generalizing s t with
  | nil => exact reasked
  | cons event events ih => exact ih (happen_reasked reasked event)

theorem seen_reasked (reasked : s.Reasked t) (event : AsideEvent) :
    t.seen event = s.seen event := by
  obtain ⟨requester, asked, lines, rfl⟩ := reasked
  cases event with
  | thread | release => rfl
  | consumer event =>
    show [_] = [_]
    unfold consumed
    rw [holdsReader_reask, capture_reask]
    cases s.holdsReader with
    | false => rfl
    | true =>
      cases s.capture with
      | none => rfl
      | some c =>
        cases event with
        | requestSpace | takeData | drain | nextRecord | leave => rfl

theorem seenAll_reasked (reasked : s.WillingReasked t) (events : List AsideEvent) :
    t.seenAll events = s.seenAll events := by
  induction events generalizing s t with
  | nil => rfl
  | cons event events ih =>
    rw [seenAll, seenAll, seen_reasked reasked.related event, ih (happen_reasked reasked event)]

theorem nextEvent?_reasked (reasked : s.WillingReasked t) : t.nextEvent? = s.nextEvent? := by
  obtain ⟨⟨requester, asked, lines, rfl⟩, first, second⟩ := reasked
  unfold nextEvent?
  rw [pendingRead_reask, gateOpen_reask]
  cases here : s.capture with
  | none =>
    rw [capture_reask, here]
    rfl
  | some c =>
    have there : (s.reask requester asked lines).capture = some (c.reask asked) :=
      capture_reask_of_some here
    have reasked : (c.reask asked).point = c.point := rfl
    rw [there]
    dsimp only
    rw [reasked]
    cases point : c.point with
    | requesting =>
      -- neither thread is held in its request
      obtain ⟨one, answered⟩ := (first c here).answered ((first c here).elevated point)
      obtain ⟨other, answered'⟩ := (second _ there).answered ((second _ there).elevated point)
      dsimp only
      rw [answered, answered']
    | _ => rfl

theorem settleWithin_reasked (reasked : s.WillingReasked t) (steps : Nat) :
    (s.settleWithin steps).WillingReasked (t.settleWithin steps) := by
  induction steps generalizing s t with
  | zero => exact reasked
  | succ steps ih =>
    unfold settleWithin
    rw [nextEvent?_reasked reasked]
    cases s.nextEvent? with
    | none => exact reasked
    | some event => exact ih (reasked.advance event)

theorem outlast_reasked (reasked : s.WillingReasked t) : s.outlast.WillingReasked t.outlast :=
  settleWithin_reasked ((settleWithin_reasked reasked settlingSteps).advance .expire) settlingSteps

end Beside

/-! ## Calls -/

theorem blind_reasked : Blind (Reasked : Session σ → Session σ → Prop) where
  config := by rintro s t ⟨requester, asked, lines, rfl⟩; rfl
  source := by rintro s t ⟨requester, asked, lines, rfl⟩; rfl
  device := by rintro s t ⟨requester, asked, lines, rfl⟩; rfl
  holdsSource := by rintro s t ⟨requester, asked, lines, rfl⟩; rfl
  moved := by rintro s t ⟨requester, asked, lines, rfl⟩ device; exact ⟨_, _, _, rfl⟩
  noted := by rintro s t ⟨requester, asked, lines, rfl⟩ notice; exact ⟨_, _, _, rfl⟩

section Calls

variable {s t : Session σ}

theorem setup_reasked (reasked : s.Reasked t) (host : Host) (size count : UInt32)
    (priority : ThreadPriority) :
    EndsBoth Reasked ((setup host size count priority).run.run s)
      ((setup host size count priority).run.run t) := by
  obtain ⟨requester, asked, lines, rfl⟩ := reasked
  show EndsBoth Reasked (setup host size count priority s)
    (setup host size count priority (s.reask requester asked lines))
  unfold setup
  dsimp only
  rw [holdsSource_reask, state_reask, config_reask]
  split
  · exact ⟨rfl, ⟨_, _, _, rfl⟩⟩
  split
  · exact ⟨rfl, ⟨_, _, _, rfl⟩⟩
  split
  · exact ⟨rfl, ⟨_, _, _, rfl⟩⟩
  split
  · exact ⟨rfl, ⟨_, _, _, rfl⟩⟩
  cases Queue.make .byte host (size.toNat * count.toNat) with
  | error fault => exact ⟨rfl, ⟨_, _, _, rfl⟩⟩
  | ok data =>
  cases Ring.make .outcome host 1 with
  | error fault => exact ⟨rfl, ⟨_, _, _, rfl⟩⟩
  | ok records =>
  cases bound : data.bind? with
  | none =>
    simp only [bound]
    exact ⟨rfl, ⟨_, _, _, rfl⟩⟩
  | some data =>
  simp only [bound]
  split
  · -- each thread asks the requester that its own session has by then
    exact ⟨rfl, ⟨requester, requester, lines, rfl⟩⟩
  · exact ⟨rfl, ⟨_, _, _, rfl⟩⟩

theorem beginClose_reasked (reasked : s.WillingReasked t) (now : Duration) :
    EndsBoth WillingReasked (s.beginClose now) (t.beginClose now) := by
  have whole := reasked
  obtain ⟨⟨requester, asked, lines, rfl⟩, first, second⟩ := reasked
  unfold beginClose
  rw [closed_reask, thread?_reask, config_reask]
  cases s.closed with
  | true => exact ⟨rfl, whole⟩
  | false =>
    cases thread : s.thread? with
    | none => exact ⟨rfl, ⟨⟨requester, asked, lines, rfl⟩, first, second⟩⟩
    | some c =>
      have here := capture_of_thread? thread
      have stopped : (c.reask asked).requestStop = c.requestStop.reask asked := by
        simp only [Capture.requestStop, Capture.stop_reask]
      refine ⟨rfl, ⟨⟨requester, asked, lines, ?_⟩, ?_, ?_⟩⟩
      · show _ = reask _ requester asked lines
        dsimp only [Option.map_some]
        rw [stopped]
        rfl
      · rintro d ⟨⟩
        exact (first c here).run [.stop, .stop, .stop]
      · rintro d ⟨⟩
        exact (second _ (capture_reask_of_some here)).run [.stop, .stop, .stop]

theorem endClose_reasked (reasked : s.Reasked t) (timeout? : Option Duration) :
    (s.endClose timeout?).Reasked (t.endClose timeout?) := by
  obtain ⟨requester, asked, lines, rfl⟩ := reasked
  have released : ∀ s : Session σ,
      (s.endClose none).Reasked ((s.reask requester asked lines).endClose none) := by
    intro s
    rw [endClose_none, endClose_none]
    exact ⟨requester, asked, lines, rfl⟩
  cases timeout? with
  | none => exact released s
  | some timeout =>
    cases here : s.capture with
    | none =>
      have there : (s.reask requester asked lines).capture = none := by
        rw [capture_reask, here]
        rfl
      -- without a thread there is nobody to let go of
      have skipped : ∀ {s : Session σ}, s.capture = none →
          s.endClose (some timeout) = s.endClose none := by
        intro s none
        simp only [endClose, none]
      rw [skipped here, skipped there]
      exact released s
    | some c =>
      rw [endClose_some here, endClose_some (capture_reask_of_some here)]
      refine ⟨requester, asked, lines, ?_⟩
      unfold letThreadGo
      rw [Capture.join_reask]
      rfl

theorem closeDuring_reasked (reasked : s.WillingReasked t) (now : Duration)
    (meanwhile : Session σ → Session σ)
    (waits : ∀ {s t : Session σ}, s.WillingReasked t → (meanwhile s).WillingReasked (meanwhile t)) :
    EndsBoth Reasked (s.closeDuring now meanwhile) (t.closeDuring now meanwhile) :=
  closeDuring_both (beginClose_reasked reasked now) waits WillingReasked.related
    fun reasked => endClose_reasked reasked.related

end Calls

section Runs

variable {inner : AudioSource σ} {s t : Session (Logged σ)}

theorem perform_reasked (inner : AudioSource σ) (reasked : s.WillingReasked t) (call : Call) :
    EndsBoth Reasked (s.perform call) (t.perform call) := by
  by_cases goes : isRelayed call = true
  · exact perform_both inner blind_reasked reasked.related goes
  cases call with
  | setup host size count priority =>
    exact control_both (setup_reasked reasked.related host size count priority) _
  | close => exact closeDuring_reasked reasked closingTime outlast outlast_reasked
  | state =>
    obtain ⟨requester, asked, lines, rfl⟩ := reasked.related
    show EndsBoth Reasked (CallEnd.answered (.state s.lookAtState.1), s.lookAtState.2)
      (CallEnd.answered (.state (s.reask requester asked lines).lookAtState.1),
        (s.reask requester asked lines).lookAtState.2)
    have seen : ((s.reask requester asked lines).thread?.any fun c => c.state = .running) =
        s.thread?.any fun c => c.state = .running := by
      rw [thread?_reask]
      cases s.thread? with
      | none => rfl
      | some c => rfl
    unfold lookAtState
    rw [state_reask, seen]
    split
    · exact ⟨rfl, ⟨requester, asked, lines, rfl⟩⟩
    · exact ⟨rfl, ⟨requester, asked, lines, rfl⟩⟩
  | diagnostics =>
    have same := reasked.related
    obtain ⟨requester, asked, lines, rfl⟩ := reasked.related
    refine ⟨?_, same⟩
    exact congrArg (fun counts => CallEnd.answered (.diagnostics counts)) (diagnostics_reask s)
  | isClosed | config =>
    have same := reasked.related
    obtain ⟨requester, asked, lines, rfl⟩ := reasked.related
    exact ⟨rfl, same⟩
  | _ => exact absurd rfl goes

/-! ## Whole runs -/

theorem step_reasked (inner : AudioSource σ) (reasked : s.WillingReasked t)
    {event other : SessionEvent} (matched : event.Matches other) :
    (s.step event).Reasked (t.step other) ∧ t.reply other = s.reply event := by
  cases matched with
  | equip first second =>
    obtain ⟨requester, asked, lines, rfl⟩ := reasked.related
    exact ⟨⟨second, asked, lines, rfl⟩, rfl⟩
  | same =>
    cases event with
    | equip requester =>
      obtain ⟨-, asked, lines, rfl⟩ := reasked.related
      exact ⟨⟨requester, asked, lines, rfl⟩, rfl⟩
    | aside event =>
      refine ⟨(happen_reasked reasked event).related, ?_⟩
      exact congrArg (SessionReply.mk none) (seen_reasked reasked.related event)
    | call call =>
      have ends := perform_reasked inner reasked call
      exact ⟨ends.left, congrArg (fun ending => SessionReply.mk (some ending) []) ends.ending⟩
    | close now meanwhile =>
      have ends := closeDuring_reasked reasked now (fun next => next.happenAll meanwhile)
        fun reasked => happenAll_reasked reasked meanwhile
      have seen : seenMeanwhile meanwhile (t.beginClose now) =
          seenMeanwhile meanwhile (s.beginClose now) :=
        seenMeanwhile_both (beginClose_reasked reasked now)
          fun reasked => seenAll_reasked reasked meanwhile
      refine ⟨ends.left, ?_⟩
      show SessionReply.mk (some _) _ = SessionReply.mk (some _) _
      rw [ends.ending, seen]

theorem run_reasked (inner : AudioSource σ) (reasked : s.Reasked t)
    {events others : List SessionEvent}
    (matched : List.Forall₂ SessionEvent.Matches events others)
    (first : ∀ before, before <+: events → (s.run before).Willing)
    (second : ∀ before, before <+: others → (t.run before).Willing) :
    (s.run events).Reasked (t.run others) ∧ t.replies others = s.replies events := by
  induction matched generalizing s t with
  | nil => exact ⟨reasked, rfl⟩
  | @cons event other events others same _ ih =>
    have willing : s.WillingReasked t :=
      ⟨reasked, first [] List.nil_prefix, second [] List.nil_prefix⟩
    obtain ⟨step, reply⟩ := step_reasked inner willing same
    obtain ⟨run, replies⟩ := ih step
      (fun before start => first (event :: before) (List.cons_prefix_cons.2 ⟨rfl, start⟩))
      (fun before start => second (other :: before) (List.cons_prefix_cons.2 ⟨rfl, start⟩))
    refine ⟨run, ?_⟩
    show t.reply other :: _ = s.reply event :: _
    rw [reply, replies]

end Runs

/-! ## All of it -/

section Elevation

variable {inner : AudioSource σ} {s t : Session (Logged σ)}

/-- What a session has asked for, at any time: nothing without a thread that wants an elevated
priority, and otherwise just that one with the first step of its thread, before it reads from its
device. -/
structure AskedOnce (s : Session (Logged σ)) : Prop where
  unprepared : s.capture = none → s.requests = []
  plain : ∀ c, s.capture = some c → c.priority.isElevated = false → s.requests = []
  elevated : ∀ c, s.capture = some c → c.priority.isElevated = true →
    s.requests = if c.point = .launched then [] else [c.priority]
  first : ∀ c, s.capture = some c → c.priority.isElevated = true → c.point = .launched →
    (s.advance .proceed).requests = [c.priority]
  /-- The device is not read before the thread is past its request. -/
  ahead : ∀ c, s.capture = some c → c.point.isAhead = true → s.Unread
  read : ∀ free, .read free ∈ s.device.calls →
    ∃ c, s.capture = some c ∧ (c.priority.isElevated = true → s.requests = [c.priority])

/-- What a setup does to the requests: the thread that it launches asks the requester that the
session has at that time for the priority that is given, and a setup that fails launches none. -/
structure SetupAsks (s : Session (Logged σ)) (priority : ThreadPriority)
    (done : CallEnd × Session (Logged σ)) : Prop where
  failed : done.1 ≠ .answered .done → done.2.capture = s.capture ∧ done.2.requests = s.requests
  done : done.1 = .answered .done → s.requests = [] ∧
    ∀ later, Installed s.requester priority (done.2.run later)

/-- What becomes of a session whose thread gets no further than its request. -/
structure PreparedUntilClosed (s : Session (Logged σ)) : Prop where
  unread : s.Unread
  prepared : s.closed = false → s.state = .prepared ∧
    (s.reply (.call .state)).ending = some (.answered (.state .prepared))
  /-- It can be closed exactly if the end of the wait for the thread can be told. -/
  closing : s.closed = false → ∀ event, event.isClosing = true →
    ((s.reply event).ending = some (.answered .done) ↔ event.Timely s.config)
  closed : s.closed = false → ∀ event, event.isClosing = true → event.Timely s.config →
    (s.step event).state = .closed ∧
      ∀ d, (s.step event).capture = some d → (s.step event).Stuck d →
        (s.step event).Unread ∧ (s.step event).diagnostics.workerState = some (leftState d)

theorem Asking.askedOnce (h : s.Asking inner) : s.AskedOnce := by
  have elevated : ∀ c, s.capture = some c → c.priority.isElevated = true →
      s.requests = if c.point = .launched then [] else [c.priority] := by
    intro c here elevated
    rw [h.asked c here]
    simp [Capture.asked, elevated]
  refine ⟨fun none => (h.unprepared none).1, ?_, elevated, ?_, h.ahead, ?_⟩
  · intro c here plain
    rw [h.asked c here]
    simp [Capture.asked, plain]
  · intro c here wish launched
    have before : s.requests = [] := (elevated c here wish).trans (if_pos launched)
    have begun : c.proceed =
        ({ c with point := .requesting }, { requested := some c.priority }) := by
      simp only [Capture.proceed, launched, wish, if_true]
    simp only [advance, here, begun]
    show s.requests ++ [c.priority] = [c.priority]
    rw [before, List.nil_append]
  · intro free reading
    cases here : s.capture with
    | none => exact absurd reading ((h.unprepared here).2 free)
    | some c =>
      refine ⟨c, rfl, fun wish => (elevated c here wish).trans (if_neg ?_)⟩
      intro launched
      exact h.ahead c here (by rw [launched]; rfl) free reading

theorem Asking.setup (h : s.Asking inner) (sound : s.Sound) (host : Host) (size count : UInt32)
    (priority : ThreadPriority) :
    s.SetupAsks priority (s.perform (.setup host size count priority)) := by
  have wired : (s.perform (.setup host size count priority)).2.source = Logged.source inner ∧
      (s.perform (.setup host size count priority)).2.Sound ∧
      (s.perform (.setup host size count priority)).2.Asking inner := by
    have one := h.run sound [.call (.setup host size count priority)]
    have move : s.Move (fun _ => True) (s.step (.call (.setup host size count priority))) :=
      step_move h.wired _ fun _ _ => trivial
    exact ⟨one.wired, sound.move move, one⟩
  obtain ⟨-, sound', asking⟩ := wired
  revert sound' asking
  show (s.control (Session.setup host size count priority) fun _ => .done).2.Sound →
    (s.control (Session.setup host size count priority) fun _ => .done).2.Asking inner →
    s.SetupAsks priority (s.control (Session.setup host size count priority) fun _ => .done)
  have ends := s.setup_cases host size count priority
  unfold control
  generalize (Session.setup host size count priority).run.run s = done at ends
  intro sound' asking
  cases ends with
  | closed | repeated | refused | unstarted => exact ⟨fun _ => ⟨rfl, rfl⟩, nofun⟩
  | done held idle affords =>
    obtain ⟨none, -⟩ := h.unprepared (h.idle (sound.idle held idle).1)
    refine ⟨fun failed => absurd rfl failed, fun _ => ⟨none, fun later => ?_⟩⟩
    exact Installed.run ⟨_, rfl, rfl, rfl⟩ asking sound' later

/-- If the request is answered that a thread makes or will make, none was not answered before. -/
theorem Asking.willing (h : s.Asking inner) (sound : s.Sound) (later : List SessionEvent)
    (answered : ∀ d, (s.run later).capture = some d → d.Answered) : s.Willing := by
  intro c here
  obtain ⟨d, there, asked, wish⟩ := Installed.run ⟨c, here, rfl, rfl⟩ h sound later
  have answer := answered d there
  unfold Capture.Answered at answer
  rw [asked, wish] at answer
  exact ⟨answer, h.elevated c here⟩

theorem Stalled.preparedUntilClosed (h : s.Stalled) (asking : s.Asking inner) (sound : s.Sound)
    {c : Capture} (here : s.capture = some c) (reached : Reached c) (stuck : s.Stuck c) :
    s.PreparedUntilClosed := by
  obtain ⟨-, unread, waits⟩ := h c here stuck
  refine ⟨unread, ?_, ?_, ?_⟩
  · intro unclosed
    obtain ⟨created, prepared⟩ := waits unclosed
    refine ⟨prepared, ?_⟩
    have unseen : (s.thread?.any fun c => c.state = .running) = false := by
      cases thread : s.thread? with
      | none => rfl
      | some d =>
        cases here.symm.trans (capture_of_thread? thread)
        simp [created]
    show some (CallEnd.answered (.state s.lookAtState.1)) = _
    simp [lookAtState, unseen, prepared]
  · intro unclosed event closing
    obtain ⟨-, prepared⟩ := waits unclosed
    have transport : s.holdsTransport = true := by
      rw [← sound.state unclosed, prepared]
      rfl
    refine ⟨fun done => ?_, fun timely =>
      (h.closing asking sound here stuck reached.marked unclosed closing timely).1⟩
    by_contra late
    obtain ⟨breakdown, broke⟩ :=
      ending_of_late asking.wired unclosed ((if_pos transport).trans here) closing late
    cases done.symm.trans broke
  · intro unclosed event closing timely
    exact (h.closing asking sound here stuck reached.marked unclosed closing timely).2

/-- **Elevated priorities**: whatever happens to a session, it asks for an elevated priority once,
for that of its one transport and with the first step of its thread, and it asks the requester that
it had when it was set up. The answer shows in nothing but the log: two runs in which the same
happens differ in whom they ask and in what their threads have logged at most, and get the same
replies. A thread that gets no answer does not read from the device, and its session stays prepared
until it is closed. -/
theorem elevation_irrelevant {device : σ} {config : SessionConfig} {s₀ : Session (Logged σ)}
    (created : create (Logged.source inner) { device } config = .ok s₀)
    (events : List SessionEvent) :
    let s := s₀.run events
    s.AskedOnce ∧
      (∀ host size count priority,
        s.SetupAsks priority (s.perform (.setup host size count priority))) ∧
      (∀ others, List.Forall₂ SessionEvent.Matches events others →
        (∀ c, s.capture = some c → c.Answered) →
        (∀ c, (s₀.run others).capture = some c → c.Answered) →
        s.Reasked (s₀.run others) ∧ s₀.replies others = s₀.replies events) ∧
      ∀ c, s.capture = some c → s.Stuck c → s.PreparedUntilClosed := by
  intro s
  have asking := asking_create created
  have sound : s₀.Sound := sound_create created rfl
  have always : ∀ before, (s₀.run before).Asking inner ∧ (s₀.run before).Sound := fun before =>
    ⟨asking.run sound before, (sound_run created before).1⟩
  -- the request of a thread is answered at any time if it is in the end
  have willing : ∀ events, (∀ c, (s₀.run events).capture = some c → c.Answered) →
      ∀ before, before <+: events → (s₀.run before).Willing := by
    rintro events answered before ⟨later, rfl⟩
    rw [run_append] at answered
    exact (always before).1.willing (always before).2 later answered
  refine ⟨(always events).1.askedOnce, ?_, ?_, ?_⟩
  · intro host size count priority
    exact (always events).1.setup (always events).2 host size count priority
  · intro others matched first second
    exact run_reasked inner (.refl s₀) matched (willing events first) (willing others second)
  · intro c here stuck
    have reached : Reached c :=
      capture_of_run asking.wired (capture_create created) events here
    exact ((stalled_create created).run asking sound events).preparedUntilClosed (always events).1
      (always events).2 here reached stuck

/-- A session whose thread asks for the urgent priority and then has room to read. -/
def elevationSample (requester : Requester) : List SessionEvent :=
  .equip requester :: .call (.setup {} 4 2 .urgent) :: .aside (.consumer .requestSpace) ::
    List.replicate 6 (.aside (.thread .proceed))

theorem elevation_irrelevant_refused :
    ∃ s₀ : Session (Logged Scripted),
      create (Logged.source Scripted.full) { device := {} } {} = .ok s₀ ∧
        let refused := s₀.run (elevationSample (.refusing 13))
        let granted := s₀.run (elevationSample .accepting)
        let held := s₀.run (elevationSample .holding)
        refused.requests = [.urgent] ∧ refused.device.calls = [.read 8] ∧
          refused.threadLog ≠ granted.threadLog ∧ refused.AskedOnce ∧ refused.Reasked granted ∧
          held.requests = [.urgent] ∧ held.PreparedUntilClosed := by
  refine ⟨_, rfl, rfl, rfl, by decide, ?_⟩
  have matched : List.Forall₂ SessionEvent.Matches (elevationSample (.refusing 13))
      (elevationSample .accepting) :=
    .cons (.equip _ _) (List.forall₂_same.2 fun event _ => .same event)
  obtain ⟨once, -, reasked, -⟩ := @elevation_irrelevant Scripted Scripted.full {} {} _ rfl
    (elevationSample (.refusing 13))
  obtain ⟨-, -, -, prepared⟩ := @elevation_irrelevant Scripted Scripted.full {} {} _ rfl
    (elevationSample .holding)
  refine ⟨once, (reasked _ matched ?_ ?_).1, rfl, prepared _ rfl ⟨rfl, .inr ⟨rfl, rfl⟩⟩⟩
  · rintro c here -
    cases here
    exact ⟨_, rfl⟩
  · rintro c here -
    cases here
    exact ⟨_, rfl⟩

/-- A configuration that is accepted, and a session with it that cannot be closed after its thread
broke down in its request. -/
theorem stuck_close_breaks_down :
    let config : SessionConfig :=
      { waitTimeoutMs := 18446744073709551615, joinRetryBound := 4294967295 }
    config.fault? = none ∧
      ∃ s₀ : Session (Logged Scripted),
        create (Logged.source Scripted.full) { device := {} } config = .ok s₀ ∧
          let s := s₀.run (.equip .breaking :: .call (.setup {} 4 2 .urgent) ::
            List.replicate 2 (.aside (.thread .proceed)))
          s.capture.map Capture.point = some .brokenDown ∧ (∃ c, s.capture = some c ∧ s.Stuck c) ∧
            s.closed = false ∧ s.close.1 = .brokeDown .timeoutOverflow ∧
              s.close.2.state = .prepared ∧ s.close.2.diagnostics.workerState = none := by
  refine ⟨by decide, _, rfl, rfl, ⟨_, rfl, rfl, .inl ⟨none, rfl⟩⟩, rfl, ?_, ?_, ?_⟩
  · rfl
  · rfl
  · rfl

end Elevation

end Session

end AudioCapture
