/-
  File:      Matternode/Protocols/PaseLockstep.lean
  Subject:   Two PaseSessions side by side: what their handlers do in both.

  A handler reads its object, the flags of its exchange and the session of it, and what is drawn. A
  relation of two hosts that is kept by what handlers are made of, is kept by every handler.

  * `HostMoves` -- such a relation;
  * `lock_setState`, `lock_sendMessage`, `lock_newSpake2` -- what the handlers are made of;
  * `lock_onExchangeMessage`, `lock_resume`, `HostMoves.step` -- **every event of the handshake keeps
    it**, with one message sent at most;
  * `Stable`, `Stable.step` -- **a property that is kept by what handlers are made of, is kept by
    every event**.
-/
import Matternode.Protocols.PaseRounds

namespace Matternode.Protocols

open Base Js Messaging Tlv

variable {V : Type} {P : Packages V}

/-! ## 1. Two hosts -/

namespace PaseHost

/-- The same object, timers, awaiting handlers and log. -/
structure SameOwn (h h' : PaseHost V) : Prop where
  pase : h'.pase = h.pase
  timers : h'.timers = h.timers
  nextTimer : h'.nextTimer = h.nextTimer
  pending : h'.pending = h.pending
  sent : h'.sent = h.sent

theorem SameOwn.refl (h : PaseHost V) : SameOwn h h := ⟨rfl, rfl, rfl, rfl, rfl⟩

/-- All but these is as it was. -/
structure SameRest (h g : PaseHost V) : Prop where
  node : g.node = h.node
  exchange : g.exchange = h.exchange
  created : g.created = h.created

/-- The session is made, with four bytes drawn for its counter. -/
def creates (h : PaseHost V) (handling : Nat) (s : Session) : PaseHost V :=
  { h with
    node := (h.node.push s).withEntropy fun j => h.node.sessions.outside.entropy (4 + j)
    created := h.created ++ [⟨handling, h.node.sessions.sessionsSecured.length, h.pase⟩] }

/-- The session that `createSecureSession` makes, with a secret or without. -/
def makes (P : Packages V) (h : PaseHost V) : Session :=
  match h.pase.secret with
  | some secret => Node.keyedSession P.hkdf (PaseSession.localId h.pase) (PaseSession.peerId h.pase)
      secret.Ke h.node.sessions.outside.entropy
  | none => Node.freshSession (PaseSession.localId h.pase) (PaseSession.peerId h.pase)
      h.node.sessions.outside.entropy

end PaseHost

/-- A message of a protocol, as an exchange is handed it. -/
def OfContent (msg : Message) : Prop := ∃ c : Content, c.InRange ∧ msg = c.message

theorem ofContent_protocolMessage {opcode : Nat} (h : opcode < 256) {payload : Bytes}
    {msg : Message} (hmsg : protocolMessage opcode payload = .ok msg) : OfContent msg := by
  rw [StatusReport.protocolMessage_content h payload] at hmsg
  exact ⟨⟨secureChannel, opcode, payload⟩, ⟨by show 0 < 65536; decide, h⟩, (Except.ok.inj hmsg).symm⟩

/-- The exchange is handed a message; what became of it is not looked at. -/
def PaseSession.transmit (P : Packages V) (msg : Message) : PaseM V Unit := do
  let _ ← onNode (Node.sendMessage P.aead (← get).exchange msg)

open PaseHost in
/-- A relation of two hosts that what is done in both keeps, as long as messages may go out: `k` of
    them. -/
structure HostMoves (P : Packages V) (Q : Nat → PaseHost V → PaseHost V → Prop) : Prop where
  weaken : ∀ {k : Nat} {h h' : PaseHost V}, Q (k + 1) h h' → Q k h h'
  same : ∀ {k : Nat} {h h' : PaseHost V}, Q k h h' → SameOwn h h'
  own : ∀ {k : Nat} {h h' g g' : PaseHost V}, Q k h h' → SameRest h g → SameRest h' g' →
    SameOwn g g' → Q k g g'
  entropy : ∀ {k : Nat} {h h' : PaseHost V}, Q k h h' →
    h'.node.sessions.outside.entropy = h.node.sessions.outside.entropy
  draw : ∀ {k : Nat} {h h' : PaseHost V} (e : Nat → UInt8), Q k h h' →
    Q k { h with node := h.node.withEntropy e } { h' with node := h'.node.withEntropy e }
  modifyExchange : ∀ {k : Nat} {h h' : PaseHost V} {f : Exchange → Exchange}, Exchange.Stays f →
    Q k h h' → Q k { h with node := h.node.modifyExchange h.exchange f }
      { h' with node := h'.node.modifyExchange h'.exchange f }
  transmit : ∀ {k : Nat} {c : Content}, c.InRange → Lockstep (Q (k + 1)) (Q k)
    (PaseSession.transmit P c.message) (PaseSession.transmit P c.message)
  creates : ∀ {k : Nat} {h h' : PaseHost V} (handling : Nat), Q k h h' →
    Q k (h.creates handling (h.makes P)) (h'.creates handling (h'.makes P))

namespace PaseSession

section Together

variable {Q : Nat → PaseHost V → PaseHost V → Prop} {k : Nat} (hQ : HostMoves P Q)

include hQ

/-! ## 2. What handlers are made of -/

/-- What changes the host's own fields in the same way. -/
theorem lock_own {f : PaseHost V → PaseHost V} (hkeep : ∀ h, PaseHost.SameRest h (f h))
    (hsame : ∀ h h' : PaseHost V, PaseHost.SameOwn h h' → PaseHost.SameOwn (f h) (f h')) :
    Lockstep (Q k) (Q k) (modify f : PaseM V PUnit) (modify f : PaseM V PUnit) :=
  Lockstep.modify fun h h' ha => hQ.own ha (hkeep h) (hkeep h') (hsame h h' (hQ.same ha))

theorem lock_assign (f : PaseSession V → PaseSession V) :
    Lockstep (Q k) (Q k) (assign f) (assign f) :=
  lock_own hQ (fun _ => ⟨rfl, rfl, rfl⟩) fun _ _ hs => { hs with pase := congrArg f hs.pase }

theorem lock_await (pending : Pending V) :
    Lockstep (Q k) (Q k)
      (modify fun h => { h with pending := h.pending ++ [pending] } : PaseM V PUnit)
      (modify fun h => { h with pending := h.pending ++ [pending] } : PaseM V PUnit) :=
  lock_own hQ (fun _ => ⟨rfl, rfl, rfl⟩) fun _ _ hs =>
    { hs with pending := congrArg (· ++ [pending]) hs.pending }

theorem lock_clearTimeout :
    Lockstep (Q k) (Q k) (clearTimeout : PaseM V Unit) clearTimeout := by
  refine lock_own hQ (fun h => ?_) fun h h' hs => ?_
  · cases h.pase.stateTimeout with
    | none => exact ⟨rfl, rfl, rfl⟩
    | some handle => exact ⟨rfl, rfl, rfl⟩
  · rw [hs.pase]
    cases h.pase.stateTimeout with
    | none => exact hs
    | some handle =>
      exact ⟨rfl, congrArg (List.filter (· ≠ handle)) hs.timers, hs.nextTimer, hs.pending, hs.sent⟩

theorem lock_setTimeout :
    Lockstep (Q k) (Q k) (setTimeout : PaseM V Unit) setTimeout := by
  refine Lockstep.before (lock_clearTimeout hQ) fun _ =>
    lock_own hQ (fun _ => ⟨rfl, rfl, rfl⟩) fun h h' hs => ?_
  rw [hs.pase, hs.timers, hs.nextTimer]
  exact { hs with pase := rfl, timers := rfl, nextTimer := rfl }

theorem lock_setState (state : PaseState) :
    Lockstep (Q k) (Q k) (setState state : PaseM V Unit) (setState state) := by
  refine Lockstep.before (lock_assign hQ _) fun _ => ?_
  split
  · exact lock_clearTimeout hQ
  · exact lock_setTimeout hQ

theorem lock_newSpake2 : Lockstep (Q k) (Q k) (newSpake2 P) (newSpake2 P) := by
  refine Lockstep.before (Lockstep.after_get fun h h' ha => ?_) fun _ => lock_assign hQ _
  dsimp only
  rw [(hQ.same ha).pase]
  split
  · exact Lockstep.before (lock_assign hQ _) fun _ => Lockstep.pure _ fun _ _ ha => ha
  · exact Lockstep.throw _ fun _ _ ha => ha

theorem lock_generateVerifier (side : Side) (iterations salt : JsValue) :
    Lockstep (Q k) (Q k) (generateVerifier P side iterations salt)
      (generateVerifier P side iterations salt) := by
  refine Lockstep.before (lock_assign hQ _) fun _ => Lockstep.after_get fun h h' ha => ?_
  dsimp only
  rw [(hQ.same ha).pase]
  exact Lockstep.after_lift (fun _ _ h => h) fun _ _ => Lockstep.after_lift (fun _ _ h => h)
    fun _ _ => Lockstep.after_lift (fun _ _ h => h) fun v _ => lock_await hQ _

/-! ## 3. What handlers do with their node -/

/-- What is drawn is made of the bytes that come next. -/
def Draws {α : Type} (m : EStateM JsError Outside α) : Prop :=
  ∃ (a : (Nat → UInt8) → α) (next : (Nat → UInt8) → Nat → UInt8), ∀ o : Outside,
    m.run o = .ok (a o.entropy) { o with entropy := next o.entropy }

omit hQ in
theorem draws_randomBytes (length : Nat) : Draws (randomBytes length) :=
  ⟨fun e => (List.range length).map e, fun e j => e (length + j), Session.randomBytes_run length⟩

omit hQ in
theorem draws_randomU16 : Draws randomU16 :=
  ⟨fun e => ofBE ((List.range 2).map e), fun e j => e (2 + j), fun _ => rfl⟩

theorem lock_draw {α : Type} {m : EStateM JsError Outside α} (hm : Draws m) :
    Lockstep (Q k) (Q k) (draw m : PaseM V α) (draw m) := by
  obtain ⟨a, next, hrun⟩ := hm
  have hdraw (h : PaseHost V) : (draw m : PaseM V α).run h = .ok (a h.node.sessions.outside.entropy)
      { h with node := h.node.withEntropy (next h.node.sessions.outside.entropy) } :=
    run_zoom_ok (run_zoom_ok (run_zoom_ok (hrun _)))
  intro h h' ha
  rw [hdraw, hdraw, hQ.entropy ha]
  exact ⟨rfl, hQ.draw _ ha⟩

theorem lock_modifyExchange {f : Exchange → Exchange} (hf : Exchange.Stays f) :
    Lockstep (Q k) (Q k)
      (modify fun h => { h with node := h.node.modifyExchange h.exchange f } : PaseM V PUnit)
      (modify fun h => { h with node := h.node.modifyExchange h.exchange f } : PaseM V PUnit) :=
  Lockstep.modify fun _ _ ha => hQ.modifyExchange hf ha

/-- **A message goes out on both sides**, or on none. -/
theorem lock_sendMessage {msg : Message} (hmsg : OfContent msg) :
    Lockstep (Q (k + 1)) (Q k) (sendMessage P msg) (sendMessage P msg) := by
  obtain ⟨c, hc, rfl⟩ := hmsg
  refine Lockstep.bind (Q := Q (k + 1)) ?_ (fun _ _ => hQ.weaken) fun _ => hQ.transmit hc
  exact lock_own hQ (fun _ => ⟨rfl, rfl, rfl⟩) fun _ _ hs =>
    { hs with sent := congrArg (· ++ [c.message]) hs.sent }

omit hQ in
theorem run_createSecureSession_eq (handling : Nat) (h : PaseHost V) :
    (createSecureSession P handling).run h = match h.pase.secret with
      | some _ => .ok () (h.creates handling (h.makes P))
      | none => .error .typeError (h.creates handling (h.makes P)) := by
  unfold createSecureSession PaseHost.makes localId peerId
  rw [run_bind_ok (run_get h), run_bind_ok (run_modify _ h)]
  cases h.pase.localRole with
  | initiator =>
    cases h.pase.secret with
    | some secret => exact run_zoom_ok (Node.run_createSecureSession P.hkdf _ _ secret.Ke h.node)
    | none => exact run_bind_ok (run_zoom_ok (Node.run_newSession _ _ h.node))
  | responder =>
    cases h.pase.secret with
    | some secret => exact run_zoom_ok (Node.run_createSecureSession P.hkdf _ _ secret.Ke h.node)
    | none => exact run_bind_ok (run_zoom_ok (Node.run_newSession _ _ h.node))

/-- **A session is made on both sides.** -/
theorem lock_createSecureSession (handling : Nat) :
    Lockstep (Q k) (Q k) (createSecureSession P handling) (createSecureSession P handling) := by
  intro h h' ha
  rw [run_createSecureSession_eq, run_createSecureSession_eq, (hQ.same ha).pase]
  cases h.pase.secret with
  | some secret => exact ⟨rfl, hQ.creates handling ha⟩
  | none => exact ⟨rfl, hQ.creates handling ha⟩

/-! ## 4. The handlers -/

theorem lock_say (state : PaseState) {msg : Message} (hmsg : OfContent msg) :
    Lockstep (Q (k + 1)) (Q k) (do setState state; sendMessage P msg)
      (do setState state; sendMessage P msg) :=
  Lockstep.after (lock_setState hQ state) (fun _ _ => hQ.weaken) fun _ =>
    lock_sendMessage hQ hmsg

theorem lock_startPase :
    Lockstep (Q (k + 1)) (Q k) (startPase P) (startPase P) := by
  have hw : ∀ h h' : PaseHost V, Q (k + 1) h h' → Q k h h' :=
    fun _ _ => hQ.weaken
  refine Lockstep.after_get fun h h' ha => ?_
  rw [(hQ.same ha).pase]
  split
  · exact Lockstep.pure _ hw
  · exact Lockstep.after (lock_assign hQ _) hw fun _ => Lockstep.after (lock_draw hQ draws_randomU16) hw
      fun _ => Lockstep.after (lock_assign hQ _) hw fun _ =>
      Lockstep.after (lock_draw hQ (draws_randomBytes 32)) hw fun _ =>
      Lockstep.after (lock_assign hQ _) hw fun _ => Lockstep.after_lift hw fun _ _ =>
      Lockstep.after (lock_assign hQ _) hw fun _ => Lockstep.after_lift hw fun _ hmsg =>
      lock_say hQ _ (ofContent_protocolMessage (by decide) hmsg)

theorem lock_sendPbkdfParamResponse :
    Lockstep (Q (k + 1)) (Q k) (sendPbkdfParamResponse P)
      (sendPbkdfParamResponse P) := by
  have hw : ∀ h h' : PaseHost V, Q (k + 1) h h' → Q k h h' :=
    fun _ _ => hQ.weaken
  refine Lockstep.after (lock_draw hQ (draws_randomBytes 32)) hw fun _ =>
    Lockstep.after (lock_assign hQ _) hw fun _ => Lockstep.after (lock_draw hQ draws_randomU16) hw
      fun _ => Lockstep.after (lock_assign hQ _) hw fun _ => Lockstep.after_get fun h h' ha => ?_
  dsimp only
  rw [(hQ.same ha).pase]
  exact Lockstep.after_lift hw fun _ _ => Lockstep.after_lift hw fun _ _ =>
    Lockstep.after_lift hw fun _ hmsg => Lockstep.after (lock_assign hQ _) hw fun _ =>
    lock_say hQ _ (ofContent_protocolMessage (by decide) hmsg)

theorem lock_onPbkdfParamRequest (msg : Message) :
    Lockstep (Q (k + 1)) (Q k) (onPbkdfParamRequest P msg)
      (onPbkdfParamRequest P msg) := by
  have hw : ∀ h h' : PaseHost V, Q (k + 1) h h' → Q k h h' :=
    fun _ _ => hQ.weaken
  refine Lockstep.after_get fun h h' ha => ?_
  rw [(hQ.same ha).pase]
  split
  · exact Lockstep.pure _ hw
  · exact Lockstep.after_lift hw fun _ _ => Lockstep.after_lift hw fun _ _ =>
      Lockstep.after_lift hw fun _ _ => Lockstep.after_lift hw fun _ _ =>
      Lockstep.after_lift hw fun _ _ => Lockstep.after (lock_assign hQ _) hw fun _ =>
      Lockstep.after_lift hw fun _ _ => lock_sendPbkdfParamResponse hQ

theorem lock_onPbkdfParamResponse (msg : Message) :
    Lockstep (Q k) (Q k) (onPbkdfParamResponse P msg)
      (onPbkdfParamResponse P msg) := by
  have hw : ∀ h h' : PaseHost V, Q k h h' → Q k h h' := fun _ _ ha => ha
  exact Lockstep.after_lift hw fun _ _ => Lockstep.after (lock_assign hQ _) hw fun _ =>
    Lockstep.after_lift hw fun _ _ => Lockstep.after_lift hw fun _ _ =>
    Lockstep.after (lock_assign hQ _) hw fun _ => Lockstep.after_lift hw fun _ _ =>
    Lockstep.after_lift hw fun _ _ => Lockstep.after_lift hw fun _ _ =>
    Lockstep.after (lock_newSpake2 hQ) hw fun _ => lock_generateVerifier hQ _ _ _

theorem lock_onPake1 (msg : Message) :
    Lockstep (Q k) (Q k) (onPake1 P msg) (onPake1 P msg) := by
  have hw : ∀ h h' : PaseHost V, Q k h h' → Q k h h' := fun _ _ ha => ha
  refine Lockstep.after_get fun h h' ha => ?_
  rw [(hQ.same ha).pase]
  split
  · exact Lockstep.pure _ hw
  · exact Lockstep.after_lift hw fun _ _ => Lockstep.after_lift hw fun _ _ =>
      Lockstep.after (lock_assign hQ _) hw fun _ => Lockstep.after (lock_newSpake2 hQ) hw fun _ =>
      Lockstep.after_lift hw fun _ _ => lock_generateVerifier hQ _ _ _

theorem lock_sendPake1 :
    Lockstep (Q (k + 1)) (Q k) (sendPake1 P) (sendPake1 P) := by
  have hw : ∀ h h' : PaseHost V, Q (k + 1) h h' → Q k h h' :=
    fun _ _ => hQ.weaken
  refine Lockstep.after_get fun h h' ha => ?_
  rw [(hQ.same ha).pase]
  exact Lockstep.after_lift hw fun _ _ => Lockstep.after_lift hw fun _ hmsg =>
    Lockstep.after (lock_setState hQ _) hw fun _ =>
    Lockstep.after (lock_modifyExchange hQ Exchange.stays_isAck) hw fun _ =>
    lock_sendMessage hQ (ofContent_protocolMessage (by decide) hmsg)

theorem lock_sendPake2 :
    Lockstep (Q (k + 1)) (Q k) (sendPake2 P) (sendPake2 P) := by
  have hw : ∀ h h' : PaseHost V, Q (k + 1) h h' → Q k h h' :=
    fun _ _ => hQ.weaken
  refine Lockstep.after_get fun h h' ha => ?_
  dsimp only
  rw [(hQ.same ha).pase]
  exact Lockstep.after_lift hw fun _ _ => Lockstep.after_lift hw fun _ hmsg =>
    lock_say hQ _ (ofContent_protocolMessage (by decide) hmsg)

theorem lock_sendPake3 :
    Lockstep (Q (k + 1)) (Q k) (sendPake3 P) (sendPake3 P) := by
  have hw : ∀ h h' : PaseHost V, Q (k + 1) h h' → Q k h h' :=
    fun _ _ => hQ.weaken
  refine Lockstep.after_get fun h h' ha => ?_
  rw [(hQ.same ha).pase]
  exact Lockstep.after_lift hw fun _ _ => Lockstep.after_lift hw fun _ hmsg =>
    Lockstep.after (lock_setState hQ _) hw fun _ =>
    Lockstep.before (lock_sendMessage hQ (ofContent_protocolMessage (by decide) hmsg)) fun _ =>
    lock_createSecureSession hQ _

theorem lock_onPake2 (msg : Message) :
    Lockstep (Q (k + 1)) (Q k) (onPake2 P msg) (onPake2 P msg) := by
  have hw : ∀ h h' : PaseHost V, Q (k + 1) h h' → Q k h h' :=
    fun _ _ => hQ.weaken
  refine Lockstep.after_get fun h h' ha => ?_
  rw [(hQ.same ha).pase]
  split
  · exact Lockstep.pure _ hw
  · refine Lockstep.after_lift hw fun _ _ => Lockstep.after_lift hw fun _ _ =>
      Lockstep.after (lock_assign hQ _) hw fun _ => Lockstep.after_lift hw fun _ _ =>
      Lockstep.after (lock_assign hQ _) hw fun _ => Lockstep.after_get fun h₁ h₁' ha₁ => ?_
    rw [(hQ.same ha₁).pase]
    cases h₁.pase.spakeClient with
    | none => exact Lockstep.throw _ hw
    | some client =>
      refine Lockstep.after_lift hw fun _ _ => Lockstep.after (lock_assign hQ _) hw fun _ =>
        Lockstep.after_lift hw fun _ _ => Lockstep.after (lock_assign hQ _) hw fun _ =>
        Lockstep.after_lift hw fun _ _ => Lockstep.after_lift hw fun _ _ =>
        Lockstep.after_get fun h₂ h₂' ha₂ => ?_
      rw [(hQ.same ha₂).pase]
      exact Lockstep.after_lift hw fun _ _ => lock_sendPake3 hQ

theorem lock_onPake3 (msg : Message) :
    Lockstep (Q (k + 1)) (Q k) (onPake3 P msg) (onPake3 P msg) := by
  have hw : ∀ h h' : PaseHost V, Q (k + 1) h h' → Q k h h' :=
    fun _ _ => hQ.weaken
  refine Lockstep.after_get fun h h' ha => ?_
  rw [(hQ.same ha).pase]
  split
  · exact Lockstep.pure _ hw
  · refine Lockstep.after_lift hw fun _ _ => Lockstep.after_lift hw fun _ _ =>
      Lockstep.after (lock_assign hQ _) hw fun _ => Lockstep.after_lift hw fun _ _ =>
      Lockstep.after_get fun h₁ h₁' ha₁ => ?_
    rw [(hQ.same ha₁).pase]
    cases h₁.pase.secret with
    | none => exact Lockstep.throw _ hw
    | some secret =>
      exact Lockstep.after_lift hw fun _ _ => Lockstep.after_lift hw fun _ _ =>
        Lockstep.after_lift hw fun _ hmsg =>
        Lockstep.before (lock_sendMessage hQ (ofContent_protocolMessage (by decide) hmsg)) fun _ =>
        Lockstep.before (lock_createSecureSession hQ _) fun _ => lock_setState hQ _

theorem lock_resume (coin : Nat) (pending : Pending V) :
    Lockstep (Q (k + 1)) (Q k) (PaseSession.resume P coin pending)
      (PaseSession.resume P coin pending) := by
  have hw : ∀ h h' : PaseHost V, Q (k + 1) h h' → Q k h h' :=
    fun _ _ => hQ.weaken
  cases pending with
  | verifier side v =>
    exact Lockstep.after (lock_assign hQ _) hw fun _ => Lockstep.mono (lock_await hQ _) hw
  | generated side v =>
    refine Lockstep.after_get fun h h' ha => ?_
    rw [(hQ.same ha).pase]
    cases h.pase.spake2 with
    | none => exact Lockstep.throw _ hw
    | some context =>
      exact Lockstep.after_lift hw fun _ _ => Lockstep.mono (lock_await hQ _) hw
  | started side party =>
    cases side with
    | client =>
      exact Lockstep.after (lock_assign hQ _) hw fun _ => Lockstep.after_lift hw fun _ _ =>
        Lockstep.after (lock_assign hQ _) hw fun _ => lock_sendPake1 hQ
    | server =>
      refine Lockstep.after (lock_assign hQ _) hw fun _ => Lockstep.after_lift hw fun _ _ =>
        Lockstep.after (lock_assign hQ _) hw fun _ => Lockstep.after_get fun h h' ha => ?_
      dsimp only
      rw [(hQ.same ha).pase]
      exact Lockstep.after_lift hw fun _ _ => Lockstep.after (lock_assign hQ _) hw fun _ =>
        Lockstep.after_lift hw fun _ _ => Lockstep.after (lock_assign hQ _) hw fun _ =>
        lock_sendPake2 hQ

theorem lock_onExchangeMessage (msg : Message) :
    Lockstep (Q (k + 1)) (Q k) (onExchangeMessage P msg)
      (onExchangeMessage P msg) := by
  have hw : ∀ h h' : PaseHost V, Q (k + 1) h h' → Q k h h' :=
    fun _ _ => hQ.weaken
  refine Lockstep.after_lift hw fun opcode _ => Lockstep.after_lift hw fun _ _ => ?_
  split
  · exact lock_onPbkdfParamRequest hQ msg
  split
  · exact Lockstep.mono (lock_onPbkdfParamResponse hQ msg) hw
  split
  · exact Lockstep.mono (lock_onPake1 hQ msg) hw
  split
  · exact lock_onPake2 hQ msg
  split
  · exact lock_onPake3 hQ msg
  · exact Lockstep.pure _ hw

theorem lock_acknowledge (msg : Message) :
    Lockstep (Q k) (Q k) (acknowledge msg : PaseM V Unit) (acknowledge msg) :=
  Lockstep.after_lift (fun _ _ ha => ha) fun _ hcounter =>
    lock_modifyExchange hQ (Exchange.stays_ackCounter (readUIntLE_lt hcounter))

end Together

end PaseSession

/-! ## 5. Events -/

/-- What the exchange's own events are: all but those of the node. -/
def PaseHost.Own : PaseEvent → Prop
  | .node _ => False
  | _ => True

open PaseHost PaseSession in
/-- **Every event of the handshake takes both on together**, with one message sent at most. -/
theorem HostMoves.step {Q : Nat → PaseHost V → PaseHost V → Prop} (hQ : HostMoves P Q) {k : Nat}
    {h h' : PaseHost V} {e : PaseEvent} (he : Own e) (ha : Q (k + 1) h h') :
    Q k (h.step P e) (h'.step P e) := by
  have hs := hQ.same ha
  cases e with
  | start => exact (lock_startPase hQ).final ha
  | message msg =>
    exact (Lockstep.after (lock_acknowledge hQ msg) (fun _ _ => hQ.weaken) fun _ =>
      lock_onExchangeMessage hQ msg).final ha
  | resume place coin =>
    cases hp : h.pending[place]? with
    | none =>
      rw [step_resume_none P hp, step_resume_none P (by rw [hs.pending, hp])]
      exact hQ.weaken ha
    | some pending =>
      rw [step_resume_some P hp, step_resume_some P (by rw [hs.pending, hp])]
      exact (lock_resume hQ coin pending).final (hQ.own ha ⟨rfl, rfl, rfl⟩ ⟨rfl, rfl, rfl⟩
        { hs with pending := congrArg (·.eraseIdx place) hs.pending })
  | timeout handle =>
    show Q k
      (if handle ∈ h.timers then
        final ((setState .idle).run { h with timers := h.timers.filter (· ≠ handle) }) else h)
      (if handle ∈ h'.timers then
        final ((setState .idle).run { h' with timers := h'.timers.filter (· ≠ handle) }) else h')
    rw [hs.timers]
    split
    · exact (lock_setState hQ .idle).final (hQ.own (hQ.weaken ha) ⟨rfl, rfl, rfl⟩ ⟨rfl, rfl, rfl⟩
        { hs with timers := rfl })
    · exact hQ.weaken ha
  | node e => exact he.elim

/-! ## 6. One host -/

namespace PaseHost

/-- A property of a host that is kept by what handlers are made of. -/
structure Stable (P : Packages V) (I : PaseHost V → Prop) : Prop where
  own : ∀ {h g : PaseHost V}, I h → SameRest h g → I g
  draw : ∀ {h : PaseHost V} (e : Nat → UInt8), I h → I { h with node := h.node.withEntropy e }
  modifyExchange : ∀ {h : PaseHost V} {f : Exchange → Exchange}, Exchange.Stays f → I h →
    I { h with node := h.node.modifyExchange h.exchange f }
  transmit : ∀ {h : PaseHost V} (msg : Message), I h →
    I { h with node := final ((Node.sendMessage P.aead h.exchange msg).run h.node) }
  creates : ∀ {h : PaseHost V} (handling : Nat), I h → I (h.creates handling (h.makes P))

/-- What is left of a host that handed over a message. -/
theorem final_transmit (msg : Message) (h : PaseHost V) :
    final ((PaseSession.transmit P msg).run h) =
      { h with node := final ((Node.sendMessage P.aead h.exchange msg).run h.node) } := by
  unfold PaseSession.transmit
  rw [run_bind_ok (run_get h), final_bind_pure]
  exact final_zoom _ _ _ h

namespace Stable

variable {I : PaseHost V → Prop} (hI : Stable P I)

include hI

/-- Side by side with itself a host keeps what it keeps. -/
theorem moves : HostMoves P fun _ h h' => h' = h ∧ I h where
  weaken := fun ha => ha
  same := fun ha => ha.1 ▸ SameOwn.refl _
  own := by
    intro k h h' g g' ha hg hg' hs
    obtain ⟨rfl, hi⟩ := ha
    refine ⟨?_, hI.own hi hg⟩
    have hnode := hg'.node.trans hg.node.symm
    have hexchange := hg'.exchange.trans hg.exchange.symm
    have hcreated := hg'.created.trans hg.created.symm
    cases g
    cases g'
    obtain ⟨rfl, rfl, rfl, rfl, rfl⟩ := hs
    dsimp only at hnode hexchange hcreated
    rw [hnode, hexchange, hcreated]
  entropy := fun ha => by rw [ha.1]
  draw := fun e ha => ⟨by rw [ha.1], hI.draw e ha.2⟩
  modifyExchange := fun hf ha => ⟨by rw [ha.1], hI.modifyExchange hf ha.2⟩
  transmit := by
    intro k c hc
    refine Lockstep.diagonal (Triple.of_final fun h hi => ?_)
    rw [final_transmit]
    exact hI.transmit _ hi
  creates := fun handling ha => ⟨by rw [ha.1], hI.creates handling ha.2⟩

/-- **Every event of the handshake keeps it.** -/
theorem step {e : PaseEvent} (he : Own e) {h : PaseHost V} (hi : I h) : I (h.step P e) :=
  (HostMoves.step hI.moves (k := 0) he ⟨rfl, hi⟩).2

theorem onExchangeMessage {msg : Message} {h : PaseHost V} (hi : I h) :
    I (final ((PaseSession.onExchangeMessage P msg).run h)) :=
  ((PaseSession.lock_onExchangeMessage hI.moves (k := 0) msg).final ⟨rfl, hi⟩).2

end Stable

end PaseHost

end Matternode.Protocols
