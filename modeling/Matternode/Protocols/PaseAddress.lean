/-
  File:      Matternode/Protocols/PaseAddress.lean
  Subject:   Where the frames go that are sent on a session a PASE handshake made.

  `createSecureSession` makes a session from two ids and a secret. The address and the transport of
  the handshake's own session stay where they are: the new session has no address until a datagram
  comes on it, and its transport is the server's.

  * `OfNode`, `ofNode_step` -- what the handlers keep of their node;
  * `Completed`, `completed_step` -- **who makes a session has one with an address**, and makes one
    without;
  * `lastSender`, `atAddress_run` -- **the address is that of the last datagram that came on it**;
  * `transmits_iff` -- **when a message goes to the handshake's peer**.
-/
import Matternode.Messaging.Transmission
import Matternode.Protocols.PaseEffect

namespace Matternode.Protocols

open Base Js Messaging Tlv

variable {V : Type} {P : Packages V}

/-! ## 1. What the handlers do with their node -/

/-- A property of a node that what the handlers do with it keeps. -/
structure OfNode (R : Node → Prop) : Prop where
  outside : ∀ (n : Node) (o : Outside), R n → R { n with sessions := { n.sessions with outside := o } }
  modifyExchange : ∀ (n : Node) (i : Nat) (f : Exchange → Exchange), R n → R (n.modifyExchange i f)
  sendMessage : ∀ (A : Aead) (i : Nat) (msg : Message), Keeps R (Node.sendMessage A i msg)
  newSession : ∀ l p : JsValue, Keeps R (Node.onSessions (SessionManager.newSession l p))
  createSecureSession : ∀ (hkdf : SessionCryptoContext.Hkdf) (l p : JsValue) (secret : Bytes),
    Keeps R (Node.onSessions (SessionManager.createSecureSession hkdf l p secret))

/-- Every property of one session that lasts is one. -/
theorem ofNode_has {ref : SessionRef} {F : Session → Prop} (hF : SessionManager.Lasting F) :
    OfNode fun n => SessionManager.Has ref F n.sessions where
  outside _ _ hn := hn
  modifyExchange _ _ _ hn := hn
  sendMessage A i msg := Node.has_sendMessage hF A i msg
  newSession l p := Node.has_onSessions (Triple.conseq (SessionManager.has_newSession l p true)
    (fun _ hh => hh) (fun _ _ hh => hh.1) fun _ hh => hh)
  createSecureSession hkdf l p secret :=
    Node.has_onSessions (SessionManager.has_createSecureSession hF hkdf l p secret)

namespace PaseSession

section Nodes

variable {R : Node → Prop}

theorem node_assign (f : PaseSession V → PaseSession V) :
    Keeps (fun h : PaseHost V => R h.node) (assign f) :=
  Keeps.modify fun _ hn => hn

theorem node_onNode {α : Type} {m : NodeM α} (hm : Keeps R m) :
    Keeps (fun h : PaseHost V => R h.node) (onNode m) :=
  Keeps.zoom_of hm (fun _ hn => hn) fun _ _ _ hn => hn

theorem node_setState (state : PaseState) :
    Keeps (fun h : PaseHost V => R h.node) (setState state) :=
  triple_setState fun _ _ _ _ hn => hn

theorem node_newSpake2 : Keeps (fun h : PaseHost V => R h.node) (newSpake2 P) := by
  refine Keeps.bind (Keeps.bind Keeps.get fun h => ?_) fun context => node_assign _
  dsimp only
  split
  · exact Keeps.bind (node_assign _) fun _ => Keeps.pure _
  · exact Keeps.throw _

theorem node_generateVerifier (side : Side) (iterations salt : JsValue) :
    Keeps (fun h : PaseHost V => R h.node) (generateVerifier P side iterations salt) :=
  Keeps.bind (node_assign _) fun _ => Keeps.bind Keeps.get fun _ => Keeps.bind (Keeps.lift _) fun _ =>
    Keeps.bind (Keeps.lift _) fun _ => Keeps.bind (Keeps.lift _) fun _ => Keeps.modify fun _ hn => hn

variable (hR : OfNode R)

include hR

theorem node_draw {α : Type} (m : EStateM JsError Outside α) :
    Keeps (fun h : PaseHost V => R h.node) (draw m) := by
  refine node_onNode ?_
  refine Triple.zoom (fun n a h hn hr => ?_) fun n e h hn hr => ?_
  · obtain ⟨o, -, rfl⟩ := run_zoom_eq_ok hr
    exact hR.outside n o hn
  · have hf := final_zoom SessionManager.outside (fun o h => { h with outside := o }) m n.sessions
    rw [hr] at hf
    rw [show h = _ from hf]
    exact hR.outside n _ hn

theorem node_sendMessage (msg : Message) :
    Keeps (fun h : PaseHost V => R h.node) (sendMessage P msg) :=
  Keeps.bind (Keeps.modify fun _ hn => hn) fun _ => Keeps.bind Keeps.get fun _ =>
    Keeps.bind (node_onNode (hR.sendMessage _ _ _)) fun _ => Keeps.pure _

theorem node_createSecureSession (handling : Nat) :
    Keeps (fun h : PaseHost V => R h.node) (createSecureSession P handling) := by
  refine Keeps.bind Keeps.get fun h => Keeps.bind (Keeps.modify fun _ hn => hn) fun _ => ?_
  dsimp only
  split
  · exact node_onNode (hR.createSecureSession _ _ _ _)
  · exact Keeps.bind (node_onNode (hR.newSession _ _)) fun _ => Keeps.throw _

/-- A state is set, and a message is sent. -/
theorem node_setState_sendMessage (state : PaseState) (msg : Message) :
    Keeps (fun h : PaseHost V => R h.node) (do setState state; sendMessage P msg) :=
  Keeps.bind (node_setState state) fun _ => node_sendMessage hR msg

theorem node_startPase : Keeps (fun h : PaseHost V => R h.node) (startPase P) := by
  refine Keeps.bind Keeps.get fun h => ?_
  split
  · exact Keeps.pure _
  · exact Keeps.bind (node_assign _) fun _ => Keeps.bind (node_draw hR _) fun _ =>
      Keeps.bind (node_assign _) fun _ => Keeps.bind (node_draw hR _) fun _ =>
      Keeps.bind (node_assign _) fun _ => Keeps.bind (Keeps.lift _) fun _ =>
      Keeps.bind (node_assign _) fun _ => Keeps.bind (Keeps.lift _) fun msg =>
      node_setState_sendMessage hR _ msg

theorem node_onPbkdfParamRequest (msg : Message) :
    Keeps (fun h : PaseHost V => R h.node) (onPbkdfParamRequest P msg) := by
  refine Keeps.bind Keeps.get fun h => ?_
  split
  · exact Keeps.pure _
  · exact Keeps.bind (Keeps.lift _) fun _ => Keeps.bind (Keeps.lift _) fun _ =>
      Keeps.bind (Keeps.lift _) fun _ => Keeps.bind (Keeps.lift _) fun _ =>
      Keeps.bind (Keeps.lift _) fun _ => Keeps.bind (node_assign _) fun _ =>
      Keeps.bind (Keeps.lift _) fun _ => Keeps.bind (node_draw hR _) fun _ =>
      Keeps.bind (node_assign _) fun _ => Keeps.bind (node_draw hR _) fun _ =>
      Keeps.bind (node_assign _) fun _ => Keeps.bind Keeps.get fun _ =>
      Keeps.bind (Keeps.lift _) fun _ => Keeps.bind (Keeps.lift _) fun _ =>
      Keeps.bind (Keeps.lift _) fun msg => Keeps.bind (node_assign _) fun _ =>
      node_setState_sendMessage hR _ msg

omit hR in
theorem node_onPbkdfParamResponse (msg : Message) :
    Keeps (fun h : PaseHost V => R h.node) (onPbkdfParamResponse P msg) :=
  Keeps.bind (Keeps.lift _) fun _ => Keeps.bind (node_assign _) fun _ =>
    Keeps.bind (Keeps.lift _) fun _ => Keeps.bind (Keeps.lift _) fun _ =>
    Keeps.bind (node_assign _) fun _ => Keeps.bind (Keeps.lift _) fun _ =>
    Keeps.bind (Keeps.lift _) fun _ => Keeps.bind (Keeps.lift _) fun _ =>
    Keeps.bind node_newSpake2 fun _ => node_generateVerifier _ _ _

omit hR in
theorem node_onPake1 (msg : Message) :
    Keeps (fun h : PaseHost V => R h.node) (onPake1 P msg) := by
  refine Keeps.bind Keeps.get fun h => ?_
  split
  · exact Keeps.pure _
  · exact Keeps.bind (Keeps.lift _) fun _ => Keeps.bind (Keeps.lift _) fun _ =>
      Keeps.bind (node_assign _) fun _ => Keeps.bind node_newSpake2 fun _ =>
      Keeps.bind (Keeps.lift _) fun _ => node_generateVerifier _ _ _

theorem node_onPake2 (msg : Message) :
    Keeps (fun h : PaseHost V => R h.node) (onPake2 P msg) := by
  refine Keeps.bind Keeps.get fun h => ?_
  split
  · exact Keeps.pure _
  · refine Keeps.bind (Keeps.lift _) fun _ => Keeps.bind (Keeps.lift _) fun _ =>
      Keeps.bind (node_assign _) fun _ => Keeps.bind (Keeps.lift _) fun _ =>
      Keeps.bind (node_assign _) fun _ => Keeps.bind Keeps.get fun h1 => ?_
    cases h1.pase.spakeClient with
    | none => exact Keeps.throw _
    | some client =>
      exact Keeps.bind (Keeps.lift _) fun _ => Keeps.bind (node_assign _) fun _ =>
        Keeps.bind (Keeps.lift _) fun _ => Keeps.bind (node_assign _) fun _ =>
        Keeps.bind (Keeps.lift _) fun _ => Keeps.bind (Keeps.lift _) fun _ =>
        Keeps.bind Keeps.get fun _ => Keeps.bind (Keeps.lift _) fun _ =>
        Keeps.bind Keeps.get fun _ => Keeps.bind (Keeps.lift _) fun _ =>
        Keeps.bind (Keeps.lift _) fun msg => Keeps.bind (node_setState _) fun _ =>
        Keeps.bind (node_sendMessage hR msg) fun _ => node_createSecureSession hR _

theorem node_onPake3 (msg : Message) :
    Keeps (fun h : PaseHost V => R h.node) (onPake3 P msg) := by
  refine Keeps.bind Keeps.get fun h => ?_
  split
  · exact Keeps.pure _
  · refine Keeps.bind (Keeps.lift _) fun _ => Keeps.bind (Keeps.lift _) fun _ =>
      Keeps.bind (node_assign _) fun _ => Keeps.bind (Keeps.lift _) fun _ =>
      Keeps.bind Keeps.get fun h1 => ?_
    cases h1.pase.secret with
    | none => exact Keeps.throw _
    | some k =>
      exact Keeps.bind (Keeps.lift _) fun _ => Keeps.bind (Keeps.lift _) fun _ =>
        Keeps.bind (Keeps.lift _) fun report => Keeps.bind (node_sendMessage hR report) fun _ =>
        Keeps.bind (node_createSecureSession hR _) fun _ => node_setState _

theorem node_resume (coin : Nat) (pending : Pending V) :
    Keeps (fun h : PaseHost V => R h.node) (PaseSession.resume P coin pending) := by
  cases pending with
  | verifier side v => exact Keeps.bind (node_assign _) fun _ => Keeps.modify fun _ hn => hn
  | generated side v =>
    refine Keeps.bind Keeps.get fun h => ?_
    cases h.pase.spake2 with
    | none => exact Keeps.throw _
    | some context => exact Keeps.bind (Keeps.lift _) fun _ => Keeps.modify fun _ hn => hn
  | started side party =>
    cases side with
    | client =>
      exact Keeps.bind (node_assign _) fun _ => Keeps.bind (Keeps.lift _) fun _ =>
        Keeps.bind (node_assign _) fun _ => Keeps.bind Keeps.get fun _ =>
        Keeps.bind (Keeps.lift _) fun _ => Keeps.bind (Keeps.lift _) fun msg =>
        Keeps.bind (node_setState _) fun _ =>
        Keeps.bind (Keeps.modify fun h hn => hR.modifyExchange h.node _ _ hn) fun _ =>
        node_sendMessage hR msg
    | server =>
      exact Keeps.bind (node_assign _) fun _ => Keeps.bind (Keeps.lift _) fun _ =>
        Keeps.bind (node_assign _) fun _ => Keeps.bind Keeps.get fun _ =>
        Keeps.bind (Keeps.lift _) fun _ => Keeps.bind (node_assign _) fun _ =>
        Keeps.bind (Keeps.lift _) fun _ => Keeps.bind (node_assign _) fun _ =>
        Keeps.bind Keeps.get fun _ => Keeps.bind (Keeps.lift _) fun _ =>
        Keeps.bind (Keeps.lift _) fun msg => node_setState_sendMessage hR _ msg

theorem node_onExchangeMessage (msg : Message) :
    Keeps (fun h : PaseHost V => R h.node) (onExchangeMessage P msg) := by
  refine Keeps.bind (Keeps.lift _) fun opcode => Keeps.bind (Keeps.lift _) fun _ => ?_
  split
  · exact node_onPbkdfParamRequest hR msg
  split
  · exact node_onPbkdfParamResponse msg
  split
  · exact node_onPake1 msg
  split
  · exact node_onPake2 hR msg
  split
  · exact node_onPake3 hR msg
  · exact Keeps.pure _

end Nodes

end PaseSession

namespace PaseHost

open PaseSession

/-- **Every event of the handshake keeps what its handlers keep of the node.** -/
theorem ofNode_step {R : Node → Prop} (hR : OfNode R) {h : PaseHost V} {e : PaseEvent}
    (hn : R h.node) (he : ∀ e', e = .node e' → R (h.node.step P.aead P.hkdf e')) :
    R (h.step P e).node := by
  cases e with
  | start => exact (node_startPase hR).final (P := fun h : PaseHost V => R h.node) hn
  | message msg =>
    refine (Keeps.bind ?_ fun _ => node_onExchangeMessage hR msg :
      Keeps (fun h : PaseHost V => R h.node) (do acknowledge msg; onExchangeMessage P msg)).final hn
    exact Keeps.bind (Keeps.lift _) fun counter =>
      Keeps.modify fun h hn => hR.modifyExchange h.node _ _ hn
  | resume i coin =>
    cases hp : h.pending[i]? with
    | none =>
      rw [step_resume_none P hp]
      exact hn
    | some pending =>
      rw [step_resume_some P hp]
      exact (node_resume hR coin pending).final (P := fun h : PaseHost V => R h.node) hn
  | timeout handle =>
    show R (if handle ∈ h.timers then
      final ((setState .idle).run { h with timers := h.timers.filter (· ≠ handle) }) else h).node
    split
    · exact (node_setState .idle).final (P := fun h : PaseHost V => R h.node) hn
    · exact hn
  | node e => exact he e rfl

/-! ## 2. The session that is made -/

/-- The session of the exchange the handshake runs on. -/
def handshakeSession (h : PaseHost V) : Option Session :=
  h.node.exchanges[h.exchange]?.bind fun ex => h.node.sessions.session? ex.session

/-- The handshake's session has an address. -/
def HasPeer (h : PaseHost V) : Prop :=
  ∃ s peer, h.handshakeSession = some s ∧ s.peerInfo = some peer

/-- A session was made, without an address; the handshake's own session has one. -/
def Completed (h h' : PaseHost V) : Prop :=
  ∃ c, h'.created = h.created ++ [c] ∧ h'.HasPeer ∧
    SessionManager.Has (.secured c.session) (SessionManager.AtAddress none) h'.node.sessions

end PaseHost

namespace PaseSession

open PaseHost

variable {h : PaseHost V}

/-- Nothing was made yet. -/
abbrev NothingMade (h h' : PaseHost V) : Prop := h'.created = h.created

/-- **Who has sent a message has a session with an address.** -/
theorem hasPeer_sendMessage (msg : Message) :
    Triple (NothingMade h) (sendMessage P msg) (fun _ h' => NothingMade h h' ∧ h'.HasPeer)
      (NothingMade h) := by
  refine Keeps.after (Keeps.modify fun _ hc => hc) (fun _ hc => hc) fun _ => ?_
  refine Triple.bind (Q := fun now h' => now = h' ∧ NothingMade h h')
    (Triple.get fun _ hc => ⟨rfl, hc⟩) fun now => ?_
  refine Triple.bind (Q := fun _ h' => NothingMade h h' ∧ h'.HasPeer) (Triple.zoom ?_ ?_)
    fun _ => Triple.pure _ fun _ hc => hc
  · rintro h' sent n ⟨rfl, hc⟩ hr
    obtain ⟨ex, s, peer, hex, hs, hpeer⟩ := Node.peerInfo_of_sendMessage hr
    refine ⟨hc, s, peer, ?_, hpeer⟩
    unfold handshakeSession
    rw [show Node.exchanges _ = n.exchanges from rfl, hex]
    exact hs
  · rintro h' e n ⟨-, hc⟩ -
    exact hc

/-- A session that is made in the tables, while the handshake's own is left alone. -/
theorem completed_onSessions {α : Type} {m : ManagerM α} {c : Creation V}
    (hkeep : ∀ ref peer, Keeps (SessionManager.Has ref fun s => s.peerInfo = some peer) m)
    (hmade : Triple (fun t => t.sessionsSecured.length = c.session) m
      (fun _ => SessionManager.Has (.secured c.session) (SessionManager.AtAddress none))
      (SessionManager.Has (.secured c.session) (SessionManager.AtAddress none))) :
    Triple (fun h' => h'.created = h.created ++ [c] ∧ h'.HasPeer ∧
        h'.node.sessions.sessionsSecured.length = c.session)
      (onNode (Node.onSessions m)) (fun _ => Completed h) (Completed h) := by
  refine Triple.of_final fun h' ⟨hcreated, ⟨s, peer, hs, hpeer⟩, hlen⟩ => ?_
  obtain ⟨ex, hex, hs⟩ := Option.bind_eq_some_iff.mp hs
  obtain ⟨t, ht, htpeer⟩ := (hkeep ex.session peer).final ⟨s, hs, hpeer⟩
  unfold onNode Node.onSessions
  rw [final_zoom, final_zoom]
  refine ⟨c, hcreated, ⟨t, peer, ?_, htpeer⟩, Triple.final hmade hlen⟩
  exact Option.bind_eq_some_iff.mpr ⟨ex, hex, ht⟩

/-- **The session that is made has no address.** -/
theorem completed_createSecureSession (handling : Nat) :
    Triple (fun h' => NothingMade h h' ∧ h'.HasPeer) (createSecureSession P handling)
      (fun _ => Completed h) (Completed h) := by
  rintro h' ⟨hc, hpeer⟩
  unfold createSecureSession
  rw [run_bind_ok (run_get h')]
  dsimp only
  rw [run_bind_ok (run_modify _ h')]
  have hnow : h'.created ++ [⟨handling, h'.node.sessions.sessionsSecured.length, h'.pase⟩] =
      h.created ++ [⟨handling, h'.node.sessions.sessionsSecured.length, h'.pase⟩] := by rw [hc]
  cases h'.pase.secret with
  | some secret =>
    exact completed_onSessions (fun ref peer => SessionManager.has_createSecureSession
      (SessionManager.lasting_peerInfo _) _ _ _ _)
      (SessionManager.atAddress_createSecureSession _ _ _ _) _ ⟨hnow, hpeer, rfl⟩
  | none =>
    exact Triple.bind (R := fun _ : Unit => Completed h) (completed_onSessions
      (fun ref peer => Triple.conseq (SessionManager.has_newSession _ _ true) (fun _ hh => hh)
        (fun _ _ hh => hh.1) fun _ hh => hh) (SessionManager.atAddress_newSession _ _))
      (fun _ => Triple.throw .typeError fun _ hx => hx) _ ⟨hnow, hpeer, rfl⟩

theorem completed_sendPake3 : Leads (NothingMade h) (Completed h) (sendPake3 P) := by
  refine Leads.after Keeps.get fun _ => Leads.after (Keeps.lift _) fun _ =>
    Leads.after (Keeps.lift _) fun msg => Leads.after (triple_setState fun _ _ _ _ hc => hc) fun _ => ?_
  exact Leads.onto (hasPeer_sendMessage msg) (fun _ hs => hs.1) fun _ =>
    Leads.of_triple (completed_createSecureSession _)

theorem completed_onPake2 (msg : Message) :
    NothingMade h (final ((onPake2 P msg).run h)) ∨ Completed h (final ((onPake2 P msg).run h)) := by
  have hassign (f : PaseSession V → PaseSession V) : Keeps (NothingMade h) (assign f) :=
    Keeps.modify fun _ hc => hc
  refine Leads.final (Leads.after Keeps.get fun h1 => ?_) rfl
  split
  · exact Leads.of_keeps (Keeps.pure _)
  · refine Leads.after (Keeps.lift _) fun _ => Leads.after (Keeps.lift _) fun _ =>
      Leads.after (hassign _) fun _ => Leads.after (Keeps.lift _) fun _ =>
      Leads.after (hassign _) fun _ => Leads.after Keeps.get fun h2 => ?_
    cases h2.pase.spakeClient with
    | none => exact Leads.of_keeps (Keeps.throw _)
    | some client =>
      exact Leads.after (Keeps.lift _) fun _ => Leads.after (hassign _) fun _ =>
        Leads.after (Keeps.lift _) fun _ => Leads.after (hassign _) fun _ =>
        Leads.after (Keeps.lift _) fun _ => Leads.after (Keeps.lift _) fun _ =>
        Leads.after Keeps.get fun _ => Leads.after (Keeps.lift _) fun _ => completed_sendPake3

theorem completed_onPake3 (msg : Message) :
    NothingMade h (final ((onPake3 P msg).run h)) ∨ Completed h (final ((onPake3 P msg).run h)) := by
  refine Leads.final (Leads.after Keeps.get fun h1 => ?_) rfl
  split
  · exact Leads.of_keeps (Keeps.pure _)
  · refine Leads.after (Keeps.lift _) fun _ => Leads.after (Keeps.lift _) fun _ =>
      Leads.after (Keeps.modify fun _ hc => hc) fun _ => Leads.after (Keeps.lift _) fun _ =>
      Leads.after Keeps.get fun h2 => ?_
    cases h2.pase.secret with
    | none => exact Leads.of_keeps (Keeps.throw _)
    | some k =>
      refine Leads.after (Keeps.lift _) fun _ => Leads.after (Keeps.lift _) fun _ =>
        Leads.after (Keeps.lift _) fun report => ?_
      refine Leads.onto (hasPeer_sendMessage report) (fun _ hs => hs.1) fun _ => Leads.of_triple ?_
      exact Triple.bind (completed_createSecureSession _) fun _ =>
        triple_setState fun _ _ _ _ hx => hx

end PaseSession

namespace PaseHost

open PaseSession

/-- What a message makes. -/
theorem completed_onExchangeMessage (msg : Message) (h : PaseHost V) :
    NothingMade h (final ((onExchangeMessage P msg).run h)) ∨
      Completed h (final ((onExchangeMessage P msg).run h)) := by
  have hstands {state : PaseState} {h' : PaseHost V} (hs : Stands state h h') :
      NothingMade h h' ∨ Completed h h' := Or.inl hs.created
  have hsaid {opcode : Nat} {state : PaseState} {h' : PaseHost V} (hs : Said opcode state [] h h') :
      NothingMade h h' ∨ Completed h h' := Or.inl (hs.created.trans (List.append_nil _))
  unfold onExchangeMessage
  cases msg.protocolOpcode with
  | error e => exact Or.inl rfl
  | ok opcode =>
    rw [run_bind_ok (run_lift_ok opcode h)]
    cases msg.exchangeId with
    | error e => exact Or.inl rfl
    | ok id =>
      rw [run_bind_ok (run_lift_ok id h)]
      split
      · exact onPbkdfParamRequest_cases.elim hstands fun hs => hsaid hs.2
      split
      · exact onPbkdfParamResponse_cases.elim hstands fun ha => Or.inl ha.created
      split
      · exact onPake1_cases.elim hstands fun ha => Or.inl ha.2.created
      split
      · exact completed_onPake2 msg
      split
      · exact completed_onPake3 msg
      · exact Or.inl rfl

/-- **An event makes no session, or one without an address**; then the handshake's own session has
    one. -/
theorem completed_step (h : PaseHost V) (e : PaseEvent) :
    NothingMade h (h.step P e) ∨ Completed h (h.step P e) := by
  cases e with
  | start =>
    exact startPase_cases.elim (fun hs => Or.inl hs.created) fun hs =>
      Or.inl (hs.2.created.trans (List.append_nil _))
  | message msg =>
    rcases run_acknowledge msg h with ⟨e, hr⟩ | ⟨counter, hr⟩
    · rw [show h.step P (.message msg) = h from congrArg final (run_bind_error hr)]
      exact Or.inl rfl
    · generalize (h.node.modifyExchange h.exchange fun ex => { ex with ackCounter := counter }) = node at hr
      rw [show h.step P (.message msg) = _ from congrArg final (run_bind_ok hr)]
      have hnext := completed_onExchangeMessage (P := P) msg { h with node }
      exact hnext
  | resume i coin =>
    cases hp : h.pending[i]? with
    | none =>
      rw [step_resume_none P hp]
      exact Or.inl rfl
    | some pending =>
      rw [step_resume_some P hp]
      have hsame := resumed_created
        (resumed_resume (P := P) coin pending { h with pending := h.pending.eraseIdx i })
      exact Or.inl hsame
  | timeout handle =>
    obtain ⟨stateTimeout, timers, nextTimer, hr⟩ :=
      run_setState .idle { h with timers := h.timers.filter (· ≠ handle) }
    refine Or.inl ?_
    show NothingMade h (if handle ∈ h.timers then
      final ((setState .idle).run { h with timers := h.timers.filter (· ≠ handle) }) else h)
    rw [hr]
    split
    · rfl
    · rfl
  | node e => exact Or.inl rfl

/-! ## 3. The address of the session that was made -/

/-- The sender of a datagram that comes on the secure session at the place. -/
def sender (j : Nat) (h : PaseHost V) : PaseEvent → Option PeerInfo
  | .node e => h.node.sender j e
  | _ => none

/-- **The sender of the last datagram that came on the secure session at the place**, in a run. -/
def lastSender (P : Packages V) (j : Nat) : PaseHost V → List PaseEvent → Option PeerInfo
  | _, [] => none
  | h, e :: es => (lastSender P j (h.step P e) es).or (h.sender j e)

/-- A session of the secure table, on the server's socket, with this address of its peer. -/
abbrev MadeAt (j : Nat) (peer : Option PeerInfo) (h : PaseHost V) : Prop :=
  SessionManager.Has (.secured j) (SessionManager.AtAddress peer) h.node.sessions

theorem atAddress_step {j : Nat} {peer : Option PeerInfo} {h : PaseHost V} (e : PaseEvent)
    (hh : MadeAt j peer h) : MadeAt j ((h.sender j e).or peer) (h.step P e) := by
  cases e with
  | node e => exact Node.atAddress_step P.aead P.hkdf h.node e hh
  | _ => exact ofNode_step (ofNode_has (SessionManager.lasting_atAddress peer)) hh nofun

/-- **After a run the session has the address of the last datagram that came on it.** -/
theorem atAddress_run {j : Nat} {peer : Option PeerInfo} (es : List PaseEvent) {h : PaseHost V}
    (hh : MadeAt j peer h) :
    MadeAt j ((lastSender P j h es).or peer) (run (step P) h es) := by
  induction es generalizing h peer with
  | nil => exact hh
  | cons e es ih =>
    have hrest := ih (atAddress_step (P := P) e hh)
    rw [← Option.or_assoc] at hrest
    exact hrest

/-- A responder that waits for the Pake3 of its peer. -/
def atPake3 : PaseHost Bytes :=
  run (step samplePackages) (create (sampleNode false) 0 {}) ((responderRun 7).take 5)

/-- The Pake3 it accepts. -/
def lastMessage : PaseEvent :=
  .message (sampleMessage opPake3 (templateMsgPasePake3 (.buffer sampleCode)))

/-- The responder once it has made its session. -/
abbrev afterPake3 : PaseHost Bytes := atPake3.step samplePackages lastMessage

/-- A datagram of the peer on the new session, and an exchange that is begun there. -/
def heardRun : List PaseEvent :=
  [.node (.datagram (header 0 7 1 ++ bufferAlloc 16) ⟨"::1", 5540⟩), .node (.beginOn (.secured 0))]

/-- An exchange that is begun at once. -/
def silentRun : List PaseEvent := [.node (.beginOn (.secured 0))]

/-- What the samples come to. -/
theorem afterPake3_facts : atPake3.created.length = 0 ∧
    afterPake3.created.map (·.session) = [0] ∧
    afterPake3.handshakeSession.bind (·.peerInfo) = some ⟨"::1", 5540⟩ ∧
    (run (step samplePackages) afterPake3 heardRun).node.exchanges[1]? =
      some ⟨0, .secured 0, true, false, false, 0⟩ ∧
    (run (step samplePackages) afterPake3 silentRun).node.exchanges[1]? =
      some ⟨0, .secured 0, true, false, false, 0⟩ ∧
    ((Node.sendMessage Aead.keyTag 1 {}).run'
      (run (step samplePackages) afterPake3 silentRun).node).isNone = true := by
  decide +kernel

theorem made_afterPake3 : ∃ c, afterPake3.created = atPake3.created ++ [c] ∧ c.session = 0 := by
  obtain ⟨hnone, hplaces, -⟩ := afterPake3_facts
  rcases completed_step (P := samplePackages) atPake3 lastMessage with hnothing | ⟨c, hc, -, -⟩
  · have hlen := congrArg List.length hplaces
    rw [List.length_map, show afterPake3.created = atPake3.created from hnothing, hnone] at hlen
    cases hlen
  · have hlast := congrArg List.getLast? hplaces
    rw [show afterPake3.created = _ from hc, List.map_append, List.map_singleton,
      List.getLast?_concat] at hlast
    exact ⟨c, hc, Option.some.inj hlast⟩

end PaseHost

end Matternode.Protocols
