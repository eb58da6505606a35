/-
  File:      Matternode/Protocols/PaseConfinement.lean
  Subject:   The control machine of a PASE handshake, and which messages it confines.

  `Control` is the handshake without its data: where it stands, which handlers await, which opcodes
  it has sent. Its moves are those of the code; one of them, a ParamResponse, asks for no state.

  * `Control`, `Control.Move`, `move_step` -- **every event of the code is a move**;
  * `Obeys`, `obeys_move` -- while a ParamRequest is answered, nothing of the initiator's side is
    under way; a ParamResponse that comes where it is awaited, and a ParamRequest that comes while
    no handler of the initiator's side awaits, keep it so;
  * `Unmoved` -- a message in a state it is not for leaves the object and sends nothing;
  * `confined_of_guarded` -- **runs whose messages come so are confined**.
-/
import Mathlib.Data.List.InsertIdx
import Matternode.Protocols.PaseEffect

namespace Matternode.Protocols

open Base Js Messaging

/-! ## 1. Logs -/

/-- A ParamRequest was answered, and none sent since. -/
def answering (log : List Nat) : Bool :=
  log.foldl (fun b opcode =>
    if opcode = opParamResponse then true else if opcode = opParamRequest then false else b) false

/-- Who has answered a ParamRequest sends neither Pake1 nor Pake3 in that handshake. -/
def Confined (log : List Nat) : Prop :=
  ∀ before opcode after, log = before ++ opcode :: after → answering before = true →
    opcode ≠ opPake1 ∧ opcode ≠ opPake3

theorem answering_append_one (log : List Nat) (opcode : Nat) :
    answering (log ++ [opcode]) =
      if opcode = opParamResponse then true
      else if opcode = opParamRequest then false else answering log := by
  unfold answering
  rw [List.foldl_append]
  rfl

theorem answering_other (log : List Nat) {opcode : Nat} (h1 : opcode ≠ opParamResponse)
    (h2 : opcode ≠ opParamRequest) : answering (log ++ [opcode]) = answering log := by
  rw [answering_append_one, if_neg h1, if_neg h2]

theorem confined_append_one {log : List Nat} {opcode : Nat} (h : Confined log)
    (hop : answering log = true → opcode ≠ opPake1 ∧ opcode ≠ opPake3) :
    Confined (log ++ [opcode]) := by
  intro before opcode' after heq
  rcases List.eq_nil_or_concat after with rfl | ⟨after', last, rfl⟩
  · obtain ⟨rfl, hlast⟩ := List.append_inj' heq rfl
    rw [← List.singleton_inj.mp hlast]
    exact hop
  · rw [List.concat_eq_append, ← List.cons_append, ← List.append_assoc] at heq
    exact h before opcode' after' (List.append_inj' heq rfl).1

/-! ## 2. The control machine -/

/-- A handshake without its data. -/
structure Control where
  state : PaseState
  awaiting : List Side
  log : List Nat

/-- What reaches it. -/
inductive Signal where
  | start
  | message (opcode : Nat)
  | resume (i : Nat)
  | timeout
  | other

namespace Control

/-- What a signal may do; a throw may keep it from doing anything. -/
inductive Move (c : Control) : Signal → Control → Prop where
  | stay (i : Signal) : Move c i c
  | start (h : c.state = .idle) :
      Move c .start ⟨.awaitPbkdfParamRsp, c.awaiting, c.log ++ [opParamRequest]⟩
  | paramRequest (h : c.state = .idle) :
      Move c (.message opParamRequest) ⟨.awaitPake1, c.awaiting, c.log ++ [opParamResponse]⟩
  /-- No state is asked for. -/
  | paramResponse :
      Move c (.message opParamResponse) ⟨c.state, c.awaiting ++ [.client], c.log⟩
  | pake1 (h : c.state = .awaitPake1) :
      Move c (.message opPake1) ⟨c.state, c.awaiting ++ [.server], c.log⟩
  | pake2 (h : c.state = .awaitPake2) :
      Move c (.message opPake2) ⟨.idle, c.awaiting, c.log ++ [opPake3]⟩
  | pake3 (h : c.state = .awaitPake3) {state : PaseState}
      (hs : state = .awaitPake3 ∨ state = .idle) :
      Move c (.message opPake3) ⟨state, c.awaiting, c.log ++ [opStatusReport]⟩
  | drop {i : Nat} : Move c (.resume i) ⟨c.state, c.awaiting.eraseIdx i, c.log⟩
  | await {i : Nat} {side : Side} (h : c.awaiting[i]? = some side) :
      Move c (.resume i) ⟨c.state, c.awaiting.eraseIdx i ++ [side], c.log⟩
  | client {i : Nat} (h : c.awaiting[i]? = some .client) :
      Move c (.resume i) ⟨.awaitPake2, c.awaiting.eraseIdx i, c.log ++ [opPake1]⟩
  | server {i : Nat} (h : c.awaiting[i]? = some .server) :
      Move c (.resume i) ⟨.awaitPake3, c.awaiting.eraseIdx i, c.log ++ [opPake2]⟩
  | timeout : Move c .timeout ⟨.idle, c.awaiting, c.log⟩

/-- A ParamResponse comes where it is awaited; a ParamRequest that is answered comes while no
    handler of the initiator's side awaits. -/
def Guarded (c : Control) : Signal → Prop
  | .message opcode =>
    (opcode = opParamResponse → c.state = .awaitPbkdfParamRsp) ∧
      (opcode = opParamRequest → c.state = .idle → Side.client ∉ c.awaiting)
  | _ => True

/-- While a ParamRequest is answered nothing of the initiator's side is under way. -/
structure Obeys (c : Control) : Prop where
  answering : answering c.log = true →
    Side.client ∉ c.awaiting ∧ c.state ≠ .awaitPbkdfParamRsp ∧ c.state ≠ .awaitPake2
  confined : Confined c.log

/-- **A guarded signal keeps the rule.** -/
theorem obeys_move {c c' : Control} {i : Signal} (hm : Move c i c') (hg : Guarded c i)
    (h : Obeys c) : Obeys c' := by
  cases hm with
  | stay => exact h
  | start hs =>
    refine ⟨fun ha => ?_, confined_append_one h.confined fun _ => by decide⟩
    rw [answering_append_one] at ha
    cases ha
  | paramRequest hs =>
    exact ⟨fun _ => ⟨hg.2 rfl hs, nofun, nofun⟩, confined_append_one h.confined fun _ => by decide⟩
  | paramResponse =>
    refine ⟨fun ha => absurd (hg.1 rfl) (h.answering ha).2.1, h.confined⟩
  | pake1 hs =>
    refine ⟨fun ha => ⟨?_, (h.answering ha).2⟩, h.confined⟩
    simpa using (h.answering ha).1
  | pake2 hs =>
    have hno : ¬ answering c.log = true := fun ha => (h.answering ha).2.2 hs
    refine ⟨fun ha => ?_, confined_append_one h.confined fun ha => absurd ha hno⟩
    rw [answering_other _ (by decide) (by decide)] at ha
    exact absurd ha hno
  | pake3 hs hs' =>
    refine ⟨fun ha => ?_, confined_append_one h.confined fun _ => by decide⟩
    rw [answering_other _ (by decide) (by decide)] at ha
    rcases hs' with rfl | rfl
    · exact ⟨(h.answering ha).1, nofun, nofun⟩
    · exact ⟨(h.answering ha).1, nofun, nofun⟩
  | drop =>
    exact ⟨fun ha => ⟨fun hmem => (h.answering ha).1 (List.mem_of_mem_eraseIdx hmem),
      (h.answering ha).2⟩, h.confined⟩
  | @await i side hi =>
    refine ⟨fun ha => ⟨fun hmem => ?_, (h.answering ha).2⟩, h.confined⟩
    rcases List.mem_append.mp hmem with hold | hnew
    · exact (h.answering ha).1 (List.mem_of_mem_eraseIdx hold)
    · rw [← List.mem_singleton.mp hnew] at hi
      exact (h.answering ha).1 (List.mem_of_getElem? hi)
  | client hi =>
    have hno : ¬ answering c.log = true := fun ha =>
      (h.answering ha).1 (List.mem_of_getElem? hi)
    refine ⟨fun ha => ?_, confined_append_one h.confined fun ha => absurd ha hno⟩
    rw [answering_other _ (by decide) (by decide)] at ha
    exact absurd ha hno
  | server hi =>
    refine ⟨fun ha => ?_, confined_append_one h.confined fun _ => by decide⟩
    rw [answering_other _ (by decide) (by decide)] at ha
    exact ⟨fun hmem => (h.answering ha).1 (List.mem_of_mem_eraseIdx hmem), nofun, nofun⟩
  | timeout => exact ⟨fun ha => ⟨(h.answering ha).1, nofun, nofun⟩, h.confined⟩

end Control

/-! ## 3. The code as moves -/

variable {V : Type} {P : Packages V}

/-- The opcodes of the messages sent. -/
def opcodes (sent : List Message) : List Nat := sent.filterMap fun msg => msg.protocolOpcode.toOption

namespace PaseHost

def control (h : PaseHost V) : Control := ⟨h.pase.state, h.pending.map Pending.side, opcodes h.sent⟩

end PaseHost

def PaseEvent.signal : PaseEvent → Signal
  | .start => .start
  | .message msg => (msg.protocolOpcode.toOption).elim .other .message
  | .resume i _ => .resume i
  | .timeout _ => .timeout
  | .node _ => .other

theorem signal_message {msg : Message} {opcode : Nat} (h : msg.protocolOpcode = .ok opcode) :
    (PaseEvent.message msg).signal = .message opcode := by
  show (msg.protocolOpcode.toOption).elim Signal.other Signal.message = _
  rw [h]
  rfl

section Controls

variable {h h' : PaseHost V}

theorem control_stands {state : PaseState} (hs : Stands state h h') :
    h'.control = ⟨state, h.control.awaiting, h.control.log⟩ := by
  unfold PaseHost.control
  rw [hs.state, hs.pending, hs.sent]

theorem control_said {opcode : Nat} {state : PaseState} {made : List (Creation V)}
    (hs : Said opcode state made h h') :
    h'.control = ⟨state, h.control.awaiting, h.control.log ++ [opcode]⟩ := by
  obtain ⟨msg, hop, hsent⟩ := hs.sent
  unfold PaseHost.control opcodes
  rw [hs.state, hs.pending, hsent, List.filterMap_append]
  simp [hop, Except.toOption]

theorem control_awaits {side : Side} (ha : Awaits side h h') :
    h'.control = ⟨h.control.state, h.control.awaiting ++ [side], h.control.log⟩ := by
  obtain ⟨pending, hside, hpending⟩ := ha.pending
  unfold PaseHost.control
  rw [ha.state, hpending, ha.sent, List.map_append, ← hside]
  rfl

theorem control_eraseIdx (h : PaseHost V) (i : Nat) :
    ({ h with pending := h.pending.eraseIdx i } : PaseHost V).control =
      ⟨h.control.state, h.control.awaiting.eraseIdx i, h.control.log⟩ := by
  unfold PaseHost.control
  rw [List.eraseIdx_map]

/-- **Every event of the code is a move of the control machine.** -/
theorem move_step (P : Packages V) (h : PaseHost V) (e : PaseEvent) :
    Control.Move h.control e.signal (h.step P e).control := by
  cases PaseHost.step_effect (P := P) h e with
  | stands hs =>
    rw [control_stands hs]
    exact .stay _
  | start hstate hs =>
    rw [control_said hs]
    exact .start hstate
  | paramRequest hop hstate hs =>
    rw [control_said hs, signal_message hop]
    exact .paramRequest hstate
  | paramResponse hop ha =>
    rw [control_awaits ha, signal_message hop]
    exact .paramResponse
  | pake1 hop hstate ha =>
    rw [control_awaits ha, signal_message hop]
    exact .pake1 hstate
  | pake2 hop hstate hm =>
    obtain ⟨made, hs, -⟩ := hm
    rw [control_said hs, signal_message hop]
    exact .pake2 hstate
  | pake3 hop hstate hstate' hm =>
    obtain ⟨made, hs, -⟩ := hm
    rw [control_said hs, signal_message hop]
    exact .pake3 hstate hstate'
  | @resume i coin pending _ hp hr =>
    have hi : h.control.awaiting[i]? = some pending.side := by
      show (h.pending.map Pending.side)[i]? = _
      rw [List.getElem?_map, hp]
      rfl
    generalize pending.side = side at hr hi
    cases hr with
    | stands hs =>
      rw [control_stands hs, control_eraseIdx]
      exact .drop
    | awaits ha =>
      rw [control_awaits ha, control_eraseIdx]
      exact .await hi
    | client hs =>
      rw [control_said hs, control_eraseIdx]
      exact .client hi
    | server hs =>
      rw [control_said hs, control_eraseIdx]
      exact .server hi
  | timeout hs =>
    rw [control_stands hs]
    exact .timeout

end Controls

/-! ## 4. Messages in another state -/

/-- The state a message is for. -/
def requiredState (opcode : Nat) : Option PaseState :=
  if opcode = opParamRequest then some .idle
  else if opcode = opParamResponse then some .awaitPbkdfParamRsp
  else if opcode = opPake1 then some .awaitPake1
  else if opcode = opPake2 then some .awaitPake2
  else if opcode = opPake3 then some .awaitPake3
  else none

theorem requiredState_cases {opcode : Nat} {state : PaseState}
    (h : requiredState opcode = some state) :
    opcode = opParamRequest ∧ state = .idle ∨
      opcode = opParamResponse ∧ state = .awaitPbkdfParamRsp ∨
      opcode = opPake1 ∧ state = .awaitPake1 ∨ opcode = opPake2 ∧ state = .awaitPake2 ∨
      opcode = opPake3 ∧ state = .awaitPake3 := by
  unfold requiredState at h
  split_ifs at h with h1 h2 h3 h4 h5 <;> cases h
  · exact Or.inl ⟨h1, rfl⟩
  · exact Or.inr (Or.inl ⟨h2, rfl⟩)
  · exact Or.inr (Or.inr (Or.inl ⟨h3, rfl⟩))
  · exact Or.inr (Or.inr (Or.inr (Or.inl ⟨h4, rfl⟩)))
  · exact Or.inr (Or.inr (Or.inr (Or.inr ⟨h5, rfl⟩)))

/-- Every field of the object as it was, nothing sent, and no session made or changed. -/
structure Untouched (h h' : PaseHost V) : Prop where
  pase : h'.pase = h.pase
  sent : h'.sent = h.sent
  pending : h'.pending = h.pending
  timers : h'.timers = h.timers
  created : h'.created = h.created
  sessions : h'.node.sessions = h.node.sessions

namespace PaseHost

/-- A message in a state it is not for touches nothing. -/
def Unmoved (P : Packages V) (h : PaseHost V) : PaseEvent → Prop
  | .message msg => ∀ opcode state, msg.protocolOpcode = .ok opcode →
      requiredState opcode = some state → h.pase.state ≠ state →
        Untouched h (h.step P (.message msg))
  | _ => True

/-- **A ParamResponse comes where it is awaited; a ParamRequest that is answered comes while no
    handler of the initiator's side awaits.** -/
def Guarded (h : PaseHost V) : PaseEvent → Prop
  | .message msg =>
    (msg.protocolOpcode = .ok opParamResponse → h.pase.state = .awaitPbkdfParamRsp) ∧
      (msg.protocolOpcode = .ok opParamRequest → h.pase.state = .idle →
        ∀ pending ∈ h.pending, pending.side ≠ .client)
  | _ => True

theorem control_guarded {h : PaseHost V} {e : PaseEvent} (hg : Guarded h e) :
    h.control.Guarded e.signal := by
  cases e with
  | message msg =>
    cases hop : msg.protocolOpcode with
    | error err =>
      have hsig : (PaseEvent.message msg).signal = .other := by
        show (msg.protocolOpcode.toOption).elim Signal.other Signal.message = _
        rw [hop]
        rfl
      rw [hsig]
      trivial
    | ok opcode =>
      rw [signal_message hop]
      refine ⟨fun heq => hg.1 (heq ▸ hop), fun heq hs hmem => ?_⟩
      obtain ⟨pending, hp, hside⟩ := List.mem_map.mp hmem
      exact hg.2 (heq ▸ hop) hs pending hp hside
  | start => trivial
  | resume i coin => trivial
  | timeout handle => trivial
  | node e => trivial

/-- A handler with a guard leaves all as it is in another state. -/
theorem onExchangeMessage_elsewhere {h : PaseHost V} {msg : Message} {opcode : Nat}
    {state : PaseState} (hop : msg.protocolOpcode = .ok opcode)
    (hreq : requiredState opcode = some state) (hne : h.pase.state ≠ state)
    (hresp : opcode ≠ opParamResponse) :
    final ((PaseSession.onExchangeMessage P msg).run h) = h := by
  unfold PaseSession.onExchangeMessage
  rw [hop, run_bind_ok (run_lift_ok opcode h)]
  cases msg.exchangeId with
  | error e => rfl
  | ok id =>
    rw [run_bind_ok (run_lift_ok id h)]
    rcases requiredState_cases hreq with
      ⟨rfl, rfl⟩ | ⟨rfl, -⟩ | ⟨rfl, rfl⟩ | ⟨rfl, rfl⟩ | ⟨rfl, rfl⟩
    · exact congrArg final (PaseSession.guarded_elsewhere hne)
    · exact absurd rfl hresp
    · exact congrArg final (PaseSession.guarded_elsewhere hne)
    · exact congrArg final (PaseSession.guarded_elsewhere hne)
    · exact congrArg final (PaseSession.guarded_elsewhere hne)

theorem unmoved_of_guarded {h : PaseHost V} {e : PaseEvent} (hg : Guarded h e) : Unmoved P h e := by
  cases e with
  | message msg =>
    intro opcode state hop hreq hne
    have hresp : opcode ≠ opParamResponse := by
      rintro rfl
      have hs : state = .awaitPbkdfParamRsp := (Option.some.inj hreq).symm
      exact hne (hs ▸ hg.1 hop)
    show Untouched h (final ((PaseSession.acknowledge msg >>= fun _ =>
      PaseSession.onExchangeMessage P msg).run h))
    rcases run_acknowledge msg h with ⟨err, hr⟩ | ⟨counter, hr⟩
    · rw [run_bind_error hr]
      exact ⟨rfl, rfl, rfl, rfl, rfl, rfl⟩
    · rw [run_bind_ok hr, onExchangeMessage_elsewhere hop hreq (by exact hne) hresp]
      exact ⟨rfl, rfl, rfl, rfl, rfl, rfl⟩
  | start => trivial
  | resume i coin => trivial
  | timeout handle => trivial
  | node e => trivial

theorem obeys_create (n : Node) (exchange : Nat) (params : PbkdfParams) :
    (create n exchange params : PaseHost V).control.Obeys where
  answering := nofun
  confined := by
    intro before opcode after heq
    simp [control, create, opcodes] at heq

/-- **A run whose messages are guarded is confined.** -/
theorem confined_of_guarded (P : Packages V) (n : Node) (exchange : Nat) (params : PbkdfParams)
    (es : List PaseEvent) (hes : Along (step P) Guarded (create n exchange params) es) :
    Along (step P) (Unmoved P) (create n exchange params) es ∧
      Confined (opcodes (run (step P) (create n exchange params) es).sent) := by
  obtain ⟨hall, hobeys⟩ := along_invariant (step P) (I := fun h => h.control.Obeys)
    (fun h e hk hg => Control.obeys_move (move_step P h e) (control_guarded hg) hk)
    (fun h e _ hg => unmoved_of_guarded hg) (obeys_create n exchange params) hes
  exact ⟨hall, hobeys.confined⟩

/-- A ParamResponse that comes where it is awaited. -/
theorem confined_of_guarded_response :
    let h : PaseHost Bytes := create (sampleNode true) 0 {}
    Along (step samplePackages) (Unmoved samplePackages) h [.start, .message (sampleResponse 9)] ∧
      Confined (opcodes (run (step samplePackages) h
        [.start, .message (sampleResponse 9)]).sent) :=
  confined_of_guarded samplePackages (sampleNode true) 0 {} _
    ⟨trivial, ⟨fun _ => by decide +kernel, by decide +kernel⟩, trivial⟩

/-- **A responder that is sent a ParamResponse turns initiator**: it takes the response for its own
    in AWAIT_PAKE1, and sends a Pake1. -/
theorem responder_sends_pake1 :
    let h : PaseHost Bytes := create (sampleNode false) 0 {}
    ¬ Unmoved samplePackages (run (step samplePackages) h [.message (sampleRequest 7)])
        (.message (sampleResponse 9)) ∧
      ¬ Confined (opcodes (run (step samplePackages) h
        [.message (sampleRequest 7), .message (sampleResponse 9), .resume 0 0, .resume 0 0,
          .resume 0 0]).sent) := by
  constructor
  · intro hall
    have hsame := (hall opParamResponse .awaitPbkdfParamRsp (by decide +kernel) rfl
      (by decide +kernel)).pase
    have hresponse := congrArg PaseSession.pbkdfResponse hsame
    revert hresponse
    decide +kernel
  · have hsent : opcodes (run (step samplePackages) (create (sampleNode false) 0 {} : PaseHost Bytes)
        [.message (sampleRequest 7), .message (sampleResponse 9), .resume 0 0, .resume 0 0,
          .resume 0 0]).sent = [opParamResponse, opPake1] := by decide +kernel
    intro hall
    exact (hall [opParamResponse] opPake1 [] hsent (by decide)).1 rfl

end PaseHost

end Matternode.Protocols
