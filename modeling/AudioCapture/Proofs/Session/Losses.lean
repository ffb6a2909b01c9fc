import AudioCapture.Proofs.Session.Transport

/-!
# What a session logs of losses

The log of a capture thread tells of everything that was lost in a session, of each loss once and in
the order of the iterations, and warns of nothing else (`losses_logged`).
-/

namespace AudioCapture

namespace Session

variable {σ : Type} {inner : AudioSource σ} {config : SessionConfig}

/-- **Losses are logged once**: whatever a device does, whatever is asked of a session and whenever
its consumer takes its turns, the warnings that its capture thread logs are, in order, one for a
priority that it was refused, and then for each iteration one for a read that failed, one for a
data write that fell short and one for an outcome that was dropped; they are as many as the counts
of the thread say. -/
theorem losses_logged {device : σ} {s₀ : Session (Logged σ)}
    (created : create (Logged.source inner) { device } config = .ok s₀)
    (events : List SessionEvent) :
    (∀ (c : Capture) (steps : List CaptureEvent), c.IsFresh →
        (c.history steps).Logs (c.remarks steps)) ∧
      ∃ c steps, c.IsFresh ∧
        Follows inner device c steps (s₀.run events)
          ((s₀.replies events).flatMap SessionReply.seen) ∧
        (c.history steps).Logs (s₀.run events).threadLog := by
  refine ⟨fun c steps fresh => Capture.logs_history fresh steps, ?_⟩
  obtain ⟨c, steps, fresh, follows⟩ := tracked_run created events
  refine ⟨c, steps, fresh, follows, ?_⟩
  rw [follows.log]
  exact Capture.logs_history fresh steps

/-- A thread that is refused its priority goes round its loop three times while the consumer only
makes it go on: the first read reports too much, the second finds neither room nor an empty slot,
and the third fails. -/
def lossySample : List SessionEvent :=
  let proceed := List.replicate 4 (SessionEvent.aside (.thread .proceed))
  let turn := [.aside (.consumer .requestSpace), .aside (.thread .proceed),
    .aside (.thread .proceed), .aside (.thread .comeBack)] ++ proceed
  [.equip (.refusing 1), .call (.setup {} 4 2 .urgent)] ++ proceed ++ turn ++ turn ++ turn

theorem losses_logged_sample :
    ∃ s₀ : Session (Logged Scripted),
      create (Logged.source Scripted.full) { device := { script :=
          [⟨.transfers [1, 2, 3] 9, false⟩, ⟨.transfers [] 2, false⟩, ⟨.fails .io, false⟩] } } {} =
        .ok s₀ ∧
      (s₀.run lossySample).threadLog.map Notice.line =
        ["WARN failed to set capture thread priority Urgent: " ++
            "scheduler refused priority Urgent: os error 1",
          "WARN data queue write short: 8 of 9 bytes (8 free)",
          "WARN data queue write short: 0 of 2 bytes (0 free)",
          "WARN status queue write failed, dropping " ++
            "ReadOutcome \x7b result: Ok, transferred: 2 \x7d",
          "WARN device call read failed: EIO (-5)",
          "WARN status queue write failed, dropping " ++
            "ReadOutcome \x7b result: Io, transferred: 0 \x7d"] ∧
      ∃ (c : Capture) (steps : List CaptureEvent), c.IsFresh ∧
        (c.history steps).Logs (s₀.run lossySample).threadLog := by
  refine ⟨_, rfl, by decide, ?_⟩
  obtain ⟨-, c, steps, fresh, -, logs⟩ :=
    @losses_logged Scripted Scripted.full {} _ _ rfl lossySample
  exact ⟨c, steps, fresh, logs⟩

end Session

end AudioCapture
