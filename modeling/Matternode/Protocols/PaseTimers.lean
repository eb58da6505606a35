/-
  File:      Matternode/Protocols/PaseTimers.lean
  Subject:   The state timer of a PASE handshake: one while a state awaits, none in IDLE.

  `clearTimeout` leaves the handle it cleared in its field, and an expiry leaves its own there, so
  the field does not say whether a timer is pending. What carries the invariant is the other
  direction: no timer is pending but the one in the field.

  * `Held` -- no timer but the one in the field;
  * `Timed` -- and one is pending exactly where the state awaits something;
  * `timed_setState` -- **from `Held`, `setState` makes it so**;
  * `timed_step`, `timer_of_state` -- **every event keeps it, so it holds in every state reached**.
-/
import Matternode.Protocols.PaseSession

namespace Matternode.Protocols

open Base Js Messaging

variable {V : Type} {P : Packages V}

/-! ## 1. The invariant -/

/-- No timer is pending but the one in the field. -/
def Held (h : PaseHost V) : Prop :=
  h.timers = [] ∨ ∃ handle, h.pase.stateTimeout = some handle ∧ h.timers = [handle]

/-- **Exactly one timer is pending outside IDLE, and none in IDLE.** -/
structure TimerOfState (h : PaseHost V) : Prop where
  busy : h.pase.state ≠ .idle → ∃ handle, h.timers = [handle]
  idle : h.pase.state = .idle → h.timers = []

/-- The timer that is pending is the one in the field. -/
structure Timed (h : PaseHost V) : Prop where
  busy : h.pase.state ≠ .idle → ∃ handle, h.pase.stateTimeout = some handle ∧ h.timers = [handle]
  idle : h.pase.state = .idle → h.timers = []

theorem Timed.held {h : PaseHost V} (ht : Timed h) : Held h := by
  by_cases hs : h.pase.state = .idle
  · exact Or.inl (ht.idle hs)
  · exact Or.inr (ht.busy hs)

theorem Timed.timerOfState {h : PaseHost V} (ht : Timed h) : TimerOfState h where
  busy hs := by
    obtain ⟨handle, -, htimers⟩ := ht.busy hs
    exact ⟨handle, htimers⟩
  idle := ht.idle

/-- State, field and timers decide. -/
theorem Timed.congr {h h' : PaseHost V} (ht : Timed h) (hstate : h'.pase.state = h.pase.state)
    (htimeout : h'.pase.stateTimeout = h.pase.stateTimeout) (htimers : h'.timers = h.timers) :
    Timed h' := by
  refine ⟨fun hs => ?_, fun hs => ?_⟩
  · rw [hstate] at hs
    rw [htimeout, htimers]
    exact ht.busy hs
  · rw [hstate] at hs
    rw [htimers]
    exact ht.idle hs

/-- What runs out is no longer pending. -/
theorem Held.expired {h : PaseHost V} (hh : Held h) (handle : Nat) :
    Held { h with timers := h.timers.filter (· ≠ handle) } := by
  rcases hh with htimers | ⟨held, htimeout, htimers⟩
  · exact Or.inl (by simp [htimers])
  · by_cases heq : held = handle
    · exact Or.inl (by simp [htimers, heq])
    · exact Or.inr ⟨held, htimeout, by simp [htimers, heq]⟩

namespace PaseSession

/-! ## 2. The timer -/

/-- **Nothing is pending once the timer in the field is cleared.** -/
theorem run_clearTimeout {h : PaseHost V} (hh : Held h) :
    clearTimeout.run h = .ok () { h with timers := [] } := by
  unfold clearTimeout
  rw [run_modify]
  rcases hh with htimers | ⟨handle, htimeout, htimers⟩
  · cases htimeout : h.pase.stateTimeout with
    | none => simp [← htimers]
    | some handle => simp [htimers]
  · simp [htimeout, htimers]

theorem run_setTimeout {h : PaseHost V} (hh : Held h) :
    setTimeout.run h = .ok () { h with
      pase := { h.pase with stateTimeout := some h.nextTimer }
      timers := [h.nextTimer]
      nextTimer := h.nextTimer + 1 } := by
  unfold setTimeout
  rw [run_bind_ok (run_clearTimeout hh), run_modify]
  rfl

/-- **`setState` leaves the timer that belongs to the state.** -/
theorem timed_setState (state : PaseState) (E : PaseHost V → Prop) :
    Triple Held (setState state) (fun _ => Timed) E := by
  intro h hh
  have hheld : Held { h with pase := { h.pase with state } } := hh
  unfold setState
  rw [assign, run_bind_ok (run_modify _ h)]
  by_cases hs : state = .idle
  · rw [if_pos hs, run_clearTimeout hheld]
    exact ⟨fun hne => absurd hs hne, fun _ => rfl⟩
  · rw [if_neg hs, run_setTimeout hheld]
    exact ⟨fun _ => ⟨h.nextTimer, rfl, rfl⟩, fun heq => absurd heq hs⟩

theorem keeps_setState (state : PaseState) : Keeps (Timed (V := V)) (setState state) :=
  Triple.conseq (timed_setState state Timed) (fun _ ht => ht.held) (fun _ _ ht => ht)
    fun _ ht => ht

/-! ## 3. Handlers -/

theorem timed_assign {f : PaseSession V → PaseSession V} (hstate : ∀ p, (f p).state = p.state)
    (htimeout : ∀ p, (f p).stateTimeout = p.stateTimeout) : Keeps Timed (assign f) :=
  Keeps.modify fun h ht => ht.congr (hstate h.pase) (htimeout h.pase) rfl

theorem timed_onNode {α : Type} (m : NodeM α) : Keeps Timed (onNode m : PaseM V α) :=
  Keeps.zoom m fun _ _ ht => ht.congr rfl rfl rfl

theorem timed_draw {α : Type} (m : EStateM JsError Outside α) :
    Keeps Timed (draw m : PaseM V α) :=
  timed_onNode _

theorem timed_modify {f : PaseHost V → PaseHost V} (hpase : ∀ h, (f h).pase = h.pase)
    (htimers : ∀ h, (f h).timers = h.timers) : Keeps Timed (modify f : PaseM V PUnit) :=
  Keeps.modify fun h ht => ht.congr (by rw [hpase h]) (by rw [hpase h]) (htimers h)

theorem timed_sendMessage (msg : Message) : Keeps Timed (sendMessage P msg) :=
  Keeps.bind (timed_modify (fun _ => rfl) fun _ => rfl) fun _ => Keeps.bind Keeps.get fun _ =>
    Keeps.bind (timed_onNode _) fun _ => Keeps.pure _

/-- A message is made, a state set, and the message sent. -/
theorem timed_say {state : PaseState} {x : Except JsError Message} :
    Keeps Timed (do
      let msg ← lift x
      setState state
      sendMessage P msg : PaseM V Unit) :=
  Keeps.bind (Keeps.lift _) fun msg => Keeps.bind (keeps_setState state) fun _ =>
    timed_sendMessage msg

theorem timed_newSpake2 : Keeps Timed (newSpake2 P) := by
  refine Keeps.bind (Keeps.bind Keeps.get fun h => ?_) fun _ =>
    timed_assign (fun _ => rfl) fun _ => rfl
  dsimp only
  split
  · exact Keeps.bind (timed_assign (fun _ => rfl) fun _ => rfl) fun _ => Keeps.pure _
  · exact Keeps.throw _

theorem timed_generateVerifier (side : Side) (iterations salt : JsValue) :
    Keeps Timed (generateVerifier P side iterations salt) :=
  Keeps.bind (timed_assign (fun _ => rfl) fun _ => rfl) fun _ => Keeps.bind Keeps.get fun _ =>
    Keeps.bind (Keeps.lift _) fun _ => Keeps.bind (Keeps.lift _) fun _ =>
    Keeps.bind (Keeps.lift _) fun _ => timed_modify (fun _ => rfl) fun _ => rfl

/-- What a handler guards with a state keeps what its body keeps. -/
theorem timed_guarded {state : PaseState} {body : PaseM V Unit} (hbody : Keeps Timed body) :
    Keeps Timed (do if (← get).pase.state ≠ state then return else body : PaseM V Unit) := by
  refine Keeps.bind Keeps.get fun h => ?_
  split
  · exact Keeps.pure _
  · exact hbody

theorem timed_startPase : Keeps Timed (startPase P) :=
  timed_guarded <|
    Keeps.bind (timed_assign (fun _ => rfl) fun _ => rfl) fun _ => Keeps.bind (timed_draw _) fun _ =>
    Keeps.bind (timed_assign (fun _ => rfl) fun _ => rfl) fun _ => Keeps.bind (timed_draw _) fun _ =>
    Keeps.bind (timed_assign (fun _ => rfl) fun _ => rfl) fun _ => Keeps.bind (Keeps.lift _) fun _ =>
    Keeps.bind (timed_assign (fun _ => rfl) fun _ => rfl) fun _ => timed_say

theorem timed_sendPbkdfParamResponse : Keeps Timed (sendPbkdfParamResponse P) :=
  Keeps.bind (timed_draw _) fun _ => Keeps.bind (timed_assign (fun _ => rfl) fun _ => rfl) fun _ =>
    Keeps.bind (timed_draw _) fun _ => Keeps.bind (timed_assign (fun _ => rfl) fun _ => rfl) fun _ =>
    Keeps.bind Keeps.get fun _ => Keeps.bind (Keeps.lift _) fun _ =>
    Keeps.bind (Keeps.lift _) fun _ => Keeps.bind (Keeps.lift _) fun msg =>
    Keeps.bind (timed_assign (fun _ => rfl) fun _ => rfl) fun _ =>
    Keeps.bind (keeps_setState _) fun _ => timed_sendMessage msg

theorem timed_onPbkdfParamRequest (msg : Message) : Keeps Timed (onPbkdfParamRequest P msg) :=
  timed_guarded <|
    Keeps.bind (Keeps.lift _) fun _ => Keeps.bind (Keeps.lift _) fun _ =>
    Keeps.bind (Keeps.lift _) fun _ => Keeps.bind (Keeps.lift _) fun _ =>
    Keeps.bind (Keeps.lift _) fun _ => Keeps.bind (timed_assign (fun _ => rfl) fun _ => rfl) fun _ =>
    Keeps.bind (Keeps.lift _) fun _ => timed_sendPbkdfParamResponse

theorem timed_onPbkdfParamResponse (msg : Message) : Keeps Timed (onPbkdfParamResponse P msg) :=
  Keeps.bind (Keeps.lift _) fun _ => Keeps.bind (timed_assign (fun _ => rfl) fun _ => rfl) fun _ =>
    Keeps.bind (Keeps.lift _) fun _ => Keeps.bind (Keeps.lift _) fun _ =>
    Keeps.bind (timed_assign (fun _ => rfl) fun _ => rfl) fun _ => Keeps.bind (Keeps.lift _) fun _ =>
    Keeps.bind (Keeps.lift _) fun _ => Keeps.bind (Keeps.lift _) fun _ =>
    Keeps.bind timed_newSpake2 fun _ => timed_generateVerifier .client _ _

theorem timed_onPake1 (msg : Message) : Keeps Timed (onPake1 P msg) :=
  timed_guarded <|
    Keeps.bind (Keeps.lift _) fun _ => Keeps.bind (Keeps.lift _) fun _ =>
    Keeps.bind (timed_assign (fun _ => rfl) fun _ => rfl) fun _ => Keeps.bind timed_newSpake2 fun _ =>
    Keeps.bind (Keeps.lift _) fun _ => timed_generateVerifier .server _ _

/-- A session is made of the node alone. -/
theorem timed_createSecureSession (handling : Nat) : Keeps Timed (createSecureSession P handling) := by
  refine Keeps.bind Keeps.get fun h => Keeps.bind (timed_modify (fun _ => rfl) fun _ => rfl)
    fun _ => ?_
  dsimp only
  split
  · exact timed_onNode _
  · exact Keeps.bind (timed_onNode _) fun _ => Keeps.throw _

theorem timed_sendPake3 : Keeps Timed (sendPake3 P) :=
  Keeps.bind Keeps.get fun _ => Keeps.bind (Keeps.lift _) fun _ =>
    Keeps.bind (Keeps.lift _) fun msg => Keeps.bind (keeps_setState _) fun _ =>
    Keeps.bind (timed_sendMessage msg) fun _ => timed_createSecureSession _

theorem timed_onPake2 (msg : Message) : Keeps Timed (onPake2 P msg) := by
  refine timed_guarded ?_
  refine Keeps.bind (Keeps.lift _) fun _ => Keeps.bind (Keeps.lift _) fun _ =>
    Keeps.bind (timed_assign (fun _ => rfl) fun _ => rfl) fun _ => Keeps.bind (Keeps.lift _) fun _ =>
    Keeps.bind (timed_assign (fun _ => rfl) fun _ => rfl) fun _ => Keeps.bind Keeps.get fun h => ?_
  split
  · exact Keeps.throw _
  · exact Keeps.bind (Keeps.lift _) fun _ =>
      Keeps.bind (timed_assign (fun _ => rfl) fun _ => rfl) fun _ => Keeps.bind (Keeps.lift _) fun _ =>
      Keeps.bind (timed_assign (fun _ => rfl) fun _ => rfl) fun _ => Keeps.bind (Keeps.lift _) fun _ =>
      Keeps.bind (Keeps.lift _) fun _ => Keeps.bind Keeps.get fun _ =>
      Keeps.bind (Keeps.lift _) fun _ => timed_sendPake3

theorem timed_onPake3 (msg : Message) : Keeps Timed (onPake3 P msg) := by
  refine timed_guarded ?_
  refine Keeps.bind (Keeps.lift _) fun _ => Keeps.bind (Keeps.lift _) fun _ =>
    Keeps.bind (timed_assign (fun _ => rfl) fun _ => rfl) fun _ => Keeps.bind (Keeps.lift _) fun _ =>
    Keeps.bind Keeps.get fun h => ?_
  split
  · exact Keeps.throw _
  · exact Keeps.bind (Keeps.lift _) fun _ => Keeps.bind (Keeps.lift _) fun _ =>
      Keeps.bind (Keeps.lift _) fun report => Keeps.bind (timed_sendMessage report) fun _ =>
      Keeps.bind (timed_createSecureSession _) fun _ => keeps_setState _

/-! ## 4. Handlers that awaited -/

theorem timed_resumeGenerated (side : Side) (v : V) (coin : Nat) :
    Keeps Timed (resumeGenerated P side v coin) := by
  refine Keeps.bind Keeps.get fun h => ?_
  split
  · exact Keeps.throw _
  · exact Keeps.bind (Keeps.lift _) fun _ => timed_modify (fun _ => rfl) fun _ => rfl

theorem timed_resumeClient (client : Party) : Keeps Timed (resumeClient P client) := by
  refine Keeps.bind (timed_assign (fun _ => rfl) fun _ => rfl) fun _ =>
    Keeps.bind (Keeps.lift _) fun _ => Keeps.bind (timed_assign (fun _ => rfl) fun _ => rfl)
    fun _ => Keeps.bind Keeps.get fun _ => Keeps.bind (Keeps.lift _) fun _ =>
    Keeps.bind (Keeps.lift _) fun msg => Keeps.bind (keeps_setState _) fun _ => ?_
  exact Keeps.bind (timed_modify (fun _ => rfl) fun _ => rfl) fun _ => timed_sendMessage msg

theorem timed_resumeServer (server : Party) : Keeps Timed (resumeServer P server) :=
  Keeps.bind (timed_assign (fun _ => rfl) fun _ => rfl) fun _ => Keeps.bind (Keeps.lift _) fun _ =>
    Keeps.bind (timed_assign (fun _ => rfl) fun _ => rfl) fun _ => Keeps.bind Keeps.get fun _ =>
    Keeps.bind (Keeps.lift _) fun _ => Keeps.bind (timed_assign (fun _ => rfl) fun _ => rfl) fun _ =>
    Keeps.bind (Keeps.lift _) fun _ => Keeps.bind (timed_assign (fun _ => rfl) fun _ => rfl) fun _ =>
    Keeps.bind Keeps.get fun _ => Keeps.bind (Keeps.lift _) fun _ => timed_say

theorem timed_resume (coin : Nat) (pending : Pending V) : Keeps Timed (resume P coin pending) := by
  cases pending with
  | verifier side v =>
    exact Keeps.bind (timed_assign (fun _ => rfl) fun _ => rfl) fun _ =>
      timed_modify (fun _ => rfl) fun _ => rfl
  | generated side v => exact timed_resumeGenerated side v coin
  | started side party =>
    cases side with
    | client => exact timed_resumeClient party
    | server => exact timed_resumeServer party

theorem timed_onExchangeMessage (msg : Message) : Keeps Timed (onExchangeMessage P msg) := by
  refine Keeps.bind (Keeps.lift _) fun opcode => Keeps.bind (Keeps.lift _) fun _ => ?_
  split
  · exact timed_onPbkdfParamRequest msg
  split
  · exact timed_onPbkdfParamResponse msg
  split
  · exact timed_onPake1 msg
  split
  · exact timed_onPake2 msg
  split
  · exact timed_onPake3 msg
  · exact Keeps.pure _

end PaseSession

/-! ## 5. Runs -/

namespace PaseHost

open PaseSession

/-- **Every event keeps the timer of the state**, thrown or not. -/
theorem timed_step (P : Packages V) (h : PaseHost V) (e : PaseEvent) (ht : Timed h) :
    Timed (h.step P e) := by
  cases e with
  | start => exact timed_startPase.final ht
  | message msg =>
    refine Keeps.final (Keeps.bind (Keeps.bind (Keeps.lift _) fun _ => ?_) fun _ =>
      timed_onExchangeMessage msg) ht
    exact timed_modify (fun _ => rfl) fun _ => rfl
  | resume i coin =>
    cases hp : h.pending[i]? with
    | none =>
      rw [step_resume_none P hp]
      exact ht
    | some pending =>
      rw [step_resume_some P hp]
      exact (timed_resume coin pending).final (ht.congr rfl rfl rfl)
  | timeout handle =>
    show Timed (if handle ∈ h.timers then
      final ((setState .idle).run { h with timers := h.timers.filter (· ≠ handle) }) else h)
    split
    · exact (timed_setState .idle Timed).final (ht.held.expired handle)
    · exact ht
  | node e => exact ht.congr rfl rfl rfl

theorem timed_create (n : Node) (exchange : Nat) (params : PbkdfParams) :
    Timed (create n exchange params : PaseHost V) where
  busy hne := absurd rfl hne
  idle _ := rfl

/-- **The timer of the state, in every state reached**, whatever events come, and wherever the
    handlers throw. -/
theorem timer_of_state (P : Packages V) (n : Node) (exchange : Nat) (params : PbkdfParams)
    (es : List PaseEvent) : TimerOfState (run (step P) (create n exchange params) es) :=
  (run_invariant (step P) (timed_step P) (timed_create n exchange params) es).timerOfState

end PaseHost

end Matternode.Protocols
