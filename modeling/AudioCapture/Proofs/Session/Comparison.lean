import AudioCapture.Proofs.Session.Passing

/-!
# Comparing two sessions

Some proofs compare a session with one that differs from it in something that its owner cannot
see. What they share is here: calls that end in the same way and leave sessions that differ in no
more than that (`EndsBoth`).

* `perform_both` — calls to the device;
* `closeDuring_both` — closing, by its two halves and the wait between them.
-/

namespace AudioCapture

namespace Session

variable {σ α β : Type}

/-- Two calls end in the same way and leave sessions that are related. -/
structure EndsBoth (Related : Session σ → Session σ → Prop) (first second : β × Session σ) :
    Prop where
  ending : second.1 = first.1
  left : Related first.2 second.2

/-- Related sessions have in common what calls to the device look at, and stay related when these
change something. -/
structure Blind (Related : Session σ → Session σ → Prop) : Prop where
  config : ∀ {s t}, Related s t → t.config = s.config
  source : ∀ {s t}, Related s t → t.source = s.source
  device : ∀ {s t}, Related s t → t.device = s.device
  holdsSource : ∀ {s t}, Related s t → t.holdsSource = s.holdsSource
  moved : ∀ {s t}, Related s t → ∀ device, Related { s with device } { t with device }
  noted : ∀ {s t}, Related s t → ∀ notice, Related (s.note notice) (t.note notice)

/-! ## Calls to the device -/

section Calls

variable {Related : Session σ → Session σ → Prop} {s t : Session σ}

theorem Blind.ask (blind : Blind Related) (related : Related s t)
    (question : AudioSource σ → StateM σ α) :
    EndsBoth Related ((ask question).run.run s) ((ask question).run.run t) := by
  show EndsBoth Related (Session.ask question s) (Session.ask question t)
  have held := blind.holdsSource related
  have answers : (question t.source).run t.device = (question s.source).run s.device := by
    rw [blind.source related, blind.device related]
  unfold Session.ask
  by_cases here : s.holdsSource = true
  · rw [if_pos here, if_pos (held.trans here), answers]
    exact ⟨rfl, blind.moved related _⟩
  · rw [if_neg here, if_neg (held ▸ here)]
    exact ⟨rfl, related⟩

theorem Blind.attempt (blind : Blind Related) (related : Related s t) (operation : String)
    (request : AudioSource σ → Attempt σ α) :
    EndsBoth Related ((attempt operation request).run.run s)
      ((attempt operation request).run.run t) := by
  show EndsBoth Related (Session.attempt operation request s)
    (Session.attempt operation request t)
  have held := blind.holdsSource related
  have answers : (request t.source).run.run t.device = (request s.source).run.run s.device := by
    rw [blind.source related, blind.device related]
  unfold Session.attempt
  by_cases here : s.holdsSource = true
  · rw [if_pos here, if_pos (held.trans here), answers]
    rcases (request s.source).run.run s.device with ⟨ended, device⟩
    cases ended with
    | ok value => exact ⟨rfl, blind.moved related device⟩
    | error status => exact ⟨rfl, blind.noted (blind.moved related device) _⟩
  · rw [if_neg here, if_neg (held ▸ here)]
    exact ⟨rfl, related⟩

theorem control_both {call : Control σ α}
    (ends : EndsBoth Related (call.run.run s) (call.run.run t)) (form : α → Answer) :
    EndsBoth Related (s.control call form) (t.control call form) := by
  unfold control
  generalize call.run.run s = one at ends
  generalize call.run.run t = other at ends
  obtain ⟨ended, s'⟩ := one
  obtain ⟨ended', t'⟩ := other
  obtain ⟨rfl : ended' = ended, left⟩ := ends
  cases ended' with
  | ok value => exact ⟨rfl, left⟩
  | error failure => exact ⟨rfl, left⟩

end Calls

section Relayed

variable {inner : AudioSource σ} {Related : Session (Logged σ) → Session (Logged σ) → Prop}
  {s t : Session (Logged σ)}

theorem Relayed.both {guarded : Bool} {call : Control (Logged σ) α}
    (h : Relayed inner guarded call) (blind : Blind Related) (related : Related s t) :
    EndsBoth Related (call.run.run s) (call.run.run t) := by
  induction h generalizing s t with
  | pure value => exact ⟨rfl, related⟩
  | throw failure => exact ⟨rfl, related⟩
  | look => exact blind.ask related _
  | ask => exact blind.ask related _
  | attempt operation => exact blind.attempt related operation _
  | @bind guarded after α β first next _ _ ihFirst ihNext =>
    have ends := ihFirst related
    rw [run_bind, run_bind]
    generalize first.run.run s = one at ends ⊢
    generalize first.run.run t = other at ends ⊢
    obtain ⟨ended, s'⟩ := one
    obtain ⟨ended', t'⟩ := other
    obtain ⟨rfl : ended' = ended, left⟩ := ends
    cases ended' with
    | ok value => exact ihNext value left
    | error failure => exact ⟨rfl, left⟩
  | whenMapped _ ih =>
    rw [run_whenMapped, run_whenMapped, blind.config related]
    split
    · exact ih related
    · exact blind.ask related _

theorem perform_both (inner : AudioSource σ) (blind : Blind Related) (related : Related s t)
    {call : Call} (goes : isRelayed call = true) :
    EndsBoth Related (s.perform call) (t.perform call) := by
  obtain ⟨α, action, form, relayed, same⟩ : Relays inner call := relays_of_isRelayed goes
  rw [same s, same t]
  exact control_both (relayed.both blind related) form

end Relayed

/-! ## Closing -/

/-- Closing ends in the same way if its first half does, and leaves what its second half makes of
the sessions after the wait. -/
theorem closeDuring_both {Related Parted : Session σ → Session σ → Prop} {s t : Session σ}
    {now : Duration} {meanwhile : Session σ → Session σ}
    (begins : EndsBoth Parted (s.beginClose now) (t.beginClose now))
    (waits : ∀ {s t}, Parted s t → Parted (meanwhile s) (meanwhile t))
    (halfway : ∀ {s t}, Parted s t → Related s t)
    (ends : ∀ {s t}, Parted s t → ∀ timeout?, Related (s.endClose timeout?) (t.endClose timeout?)) :
    EndsBoth Related (s.closeDuring now meanwhile) (t.closeDuring now meanwhile) := by
  unfold closeDuring
  generalize s.beginClose now = one at begins
  generalize t.beginClose now = other at begins
  obtain ⟨closing, s'⟩ := one
  obtain ⟨closing', t'⟩ := other
  obtain ⟨rfl : closing' = closing, left⟩ := begins
  cases closing' with
  | refused failure => exact ⟨rfl, halfway left⟩
  | brokeDown breakdown => exact ⟨rfl, halfway left⟩
  | immediate => exact ⟨rfl, ends left none⟩
  | joining timeout => exact ⟨rfl, ends (waits left) (some timeout)⟩

/-- What the consumer sees during the wait is the same as well if it is so of what is left. -/
theorem seenMeanwhile_both {Parted : Session σ → Session σ → Prop} {one other : Closing × Session σ}
    (begins : EndsBoth Parted one other) {meanwhile : List AsideEvent}
    (seen : ∀ {s t}, Parted s t → t.seenAll meanwhile = s.seenAll meanwhile) :
    seenMeanwhile meanwhile other = seenMeanwhile meanwhile one := by
  obtain ⟨closing, s⟩ := one
  obtain ⟨closing', t⟩ := other
  obtain ⟨rfl : closing' = closing, left⟩ := begins
  cases closing' with
  | joining timeout => exact seen left
  | refused | brokeDown | immediate => rfl

end Session

end AudioCapture
