/-
  File:      Matternode/Protocols/PaseIds.lean
  Subject:   The ids of the sessions a PASE handshake makes, and the frames sent on them.

  Whether a frame is encrypted is read back from the session id in its header. A session whose
  peer id is in 1..65535 encrypts all it sends; an id of 0 sends all in the clear. The ids come from
  random draws and from the peer.

  * `InRange`, `EncryptedOnly`, `encryptedOnly_of_inRange`;
  * `Made` -- every session made is there, with ids in range;
  * `Ids` -- who waits for Pake1, Pake2 or Pake3, or awaits, has both ids in range;
  * `ValidIds` -- no draw of an id is 0, and the ids of the peer are in range;
  * `encrypted_of_validIds` -- **in runs of such, every session made sends encrypted frames only**.
-/
import Matternode.Protocols.PaseEffect

namespace Matternode.Protocols

open Base Js Messaging Tlv

/-! ## 1. Ids in range -/

/-- The whole number an id is. -/
def idValue : JsValue → Option Int
  | .number (.int n) => some n
  | .bigint n => some n
  | _ => none

/-- An id in 1..65535. -/
def InRange (v : JsValue) : Prop := ∃ n, idValue v = some n ∧ 1 ≤ n ∧ n ≤ 65535

/-- The frames are outputs of `MsgCodec.encrypt` under keys of the session. -/
def Encrypted (A : Aead) (s : Session) (frames : List Transmission) : Prop :=
  ∀ t ∈ frames, ∃ c plain index, s.cryptoContext = some c ∧
    t.frame = MsgCodec.encrypt A plain (c.keys index)

/-- **What `sendMessage` hands to the transport, once PeerInfo is set, is the output of
    `MsgCodec.encrypt`.** -/
def EncryptedOnly (A : Aead) (s : Session) : Prop :=
  ∀ peerInfo msg o, ∃ frames : List Transmission,
    (final ((Session.sendMessage A msg).run
        ⟨{ s with peerInfo := some peerInfo }, o⟩)).outside.transmitted = o.transmitted ++ frames ∧
      Encrypted A s frames

theorem inRange_nat {n : Nat} (hlow : n ≠ 0) (hhigh : n < 65536) : InRange (.nat n) :=
  ⟨n, rfl, by omega, by omega⟩

/-- The number a session id is written as. -/
theorem toNumber_of_inRange {v : JsValue} {x : Number} (hv : InRange v) (hx : v.toNumber = .ok x) :
    x.toInteger.toNat % 65536 ≠ 0 := by
  obtain ⟨n, hn, hlow, hhigh⟩ := hv
  unfold idValue at hn
  split at hn
  · cases hn
    cases hx
    rw [Number.int_toInteger]
    omega
  · cases hx
  · cases hn

section Encrypted

variable {A : Aead} {s : Session} {o : Outside}

/-- Nothing handed over. -/
theorem nothing_sent {st : SendState} (h : st.outside.transmitted = o.transmitted) :
    ∃ frames : List Transmission, st.outside.transmitted = o.transmitted ++ frames ∧
      Encrypted A s frames :=
  ⟨[], by rw [h, List.append_nil], fun _ ht => absurd ht List.not_mem_nil⟩

/-- A message that counts as encrypted goes out encrypted, or not at all. -/
theorem sendStamped_encryptedOnly {m : Message} {st : SendState} (hm : m.isEncrypted = .ok true)
    (hst : st.outside.transmitted = o.transmitted)
    (hctx : st.session.cryptoContext = s.cryptoContext) :
    ∃ frames : List Transmission,
      (final ((Session.sendStamped A m).run st)).outside.transmitted = o.transmitted ++ frames ∧
        Encrypted A s frames := by
  rw [Session.sendStamped_encrypted hm]
  cases hI : m.iflag with
  | error e =>
    have hrun : (Session.encryptMessage A m).run st = .error e st := by
      unfold Session.encryptMessage
      rw [hI]
      rfl
    rw [run_bind_error hrun]
    exact nothing_sent hst
  | ok iflag =>
    cases hc : st.session.cryptoContext with
    | none =>
      have hrun : (Session.encryptMessage A m).run st = .error .typeError st := by
        unfold Session.encryptMessage
        rw [hI, run_bind_ok (run_lift_ok iflag st), run_bind_ok (run_get st), hc]
        rfl
      rw [run_bind_error hrun]
      exact nothing_sent hst
    | some c =>
      rw [run_bind_ok (Session.encryptMessage_some hI hc)]
      cases hp : st.session.peerInfo with
      | none =>
        rw [run_bind_error (Session.transmit_none (by exact hp) _)]
        exact nothing_sent hst
      | some peer =>
        rw [run_bind_ok (Session.transmit_some (by exact hp) _)]
        refine ⟨[_], congrArg (· ++ _) hst, fun t ht => ?_⟩
        rw [List.mem_singleton.mp ht]
        exact ⟨c, m.buffer, Session.keyIndex iflag, hctx.symm.trans hc, rfl⟩

/-- **A session whose peer id is in range sends encrypted frames only.** -/
theorem encryptedOnly_of_inRange (hid : InRange s.peerSessionId) : EncryptedOnly A s := by
  intro peerInfo msg o
  let st : SendState := ⟨{ s with peerInfo := some peerInfo }, o⟩
  cases haddr : st.session.address msg with
  | error e =>
    rw [Session.sendMessage_address_error haddr]
    exact nothing_sent rfl
  | ok m1 =>
    cases hcounter : m1.setMessageCounter (.nat st.session.messageCounter) with
    | error e =>
      rw [Session.sendMessage_stamp_error haddr hcounter]
      exact nothing_sent rfl
    | ok m =>
      have hstamp : st.session.stamp msg = .ok m := by
        unfold Session.stamp
        rw [haddr]
        exact hcounter
      rw [Session.sendMessage_stamped hstamp]
      obtain ⟨x, hx, -, -, rfl⟩ := stamp_eq_ok hstamp
      refine sendStamped_encryptedOnly ?_ rfl rfl
      rw [headed_isEncrypted rfl, decide_eq_true (toNumber_of_inRange hid hx)]

end Encrypted

/-! ## 2. The sessions made -/

variable {V : Type} {P : Packages V}

/-- A secure session with both ids in range. -/
structure Numbered (s : Session) : Prop where
  secure : s.secure = true
  localSessionId : InRange s.localSessionId
  peerSessionId : InRange s.peerSessionId

/-- Every session of the list is there, and numbered. -/
def MadeAt (created : List (Creation V)) (m : SessionManager) : Prop :=
  ∀ c ∈ created, ∃ s, m.sessionsSecured[c.session]? = some s ∧ Numbered s

theorem numbered_same {s t : Session} (hs : Numbered s) (h : SessionManager.SameIds s t) :
    Numbered t :=
  ⟨h.secure.trans hs.secure, h.localSessionId ▸ hs.localSessionId,
    h.peerSessionId ▸ hs.peerSessionId⟩

theorem stable_madeAt (created : List (Creation V)) : SessionManager.Stable (MadeAt created) where
  modifySession := by
    intro h f ref hf hm c hc
    obtain ⟨s, hs, hnum⟩ := hm c hc
    have hget := SessionManager.session?_modifySession h f ref (.secured c.session)
    rw [show h.session? (.secured c.session) = some s from hs] at hget
    refine ⟨_, hget, ?_⟩
    split
    · rename_i heq
      exact numbered_same hnum (hf s (heq ▸ hs))
    · exact hnum
  pushSecured := by
    intro h s l p hnew hm c hc
    obtain ⟨t, ht, hnum⟩ := hm c hc
    exact ⟨t, by rw [List.getElem?_append_left (List.getElem?_eq_some_iff.mp ht).1, ht], hnum⟩
  pushUnsecured := fun _ hm => hm
  outside := fun _ hm => hm

/-- A session with ids in range takes the next place. -/
theorem madeAt_newSession {created : List (Creation V)} {m : SessionManager}
    (hm : MadeAt created m) {c : Creation V} (hc : c.session = m.sessionsSecured.length)
    {l p : JsValue} (hl : InRange l) (hp : InRange p) :
    ∃ ref m', (SessionManager.newSession l p).run m = .ok ref m' ∧ MadeAt (created ++ [c]) m' := by
  obtain ⟨s, o, hnew, hr⟩ := SessionManager.newSession_secured l p m
  refine ⟨_, _, hr, SessionManager.forall_mem_append_one ?_ ⟨s, ?_, hnew.secure,
    hnew.localSessionId.symm ▸ hl, hnew.peerSessionId.symm ▸ hp⟩⟩
  · exact (stable_madeAt created).outside o ((stable_madeAt created).pushSecured hnew hm)
  · rw [hc]
    exact List.getElem?_concat_length

theorem madeAt_createSecureSession {created : List (Creation V)} {m : SessionManager}
    (hm : MadeAt created m) {c : Creation V} (hc : c.session = m.sessionsSecured.length)
    {l p : JsValue} (hl : InRange l) (hp : InRange p) (hkdf : SessionCryptoContext.Hkdf)
    (secret : Bytes) :
    MadeAt (created ++ [c])
      (final ((SessionManager.createSecureSession hkdf l p secret).run m)) := by
  obtain ⟨ref, m', hr, hm'⟩ := madeAt_newSession hm hc hl hp
  unfold SessionManager.createSecureSession
  rw [run_bind_ok hr]
  exact (SessionManager.keeps_initPaseSession (stable_madeAt _).settled hkdf secret ref).final hm'

/-! ## 3. What a handler keeps -/

/-- The sessions made are there, and `K`. -/
def Keeping (K : PaseHost V → Prop) (h : PaseHost V) : Prop :=
  MadeAt h.created h.node.sessions ∧ K h

/-- Both ids in range. -/
def BothInRange (h : PaseHost V) : Prop :=
  InRange h.pase.initiatorSessionId ∧ InRange h.pase.responderSessionId

/-- A request sent or received has its id in range. -/
def RequestInRange (h : PaseHost V) : Prop :=
  h.pase.pbkdfRequest.isSome = true → InRange h.pase.initiatorSessionId

/-- The ids of a handshake: both in range, or nothing has come to need the second. -/
def IdsOf (h : PaseHost V) : Prop :=
  BothInRange h ∨ h.pending = [] ∧
    (h.pase.state = .idle ∨ h.pase.state = .awaitPbkdfParamRsp) ∧ RequestInRange h

/-- What holds of the object and the handlers that await, whatever the node does and was sent. -/
structure OfPase (K : PaseHost V → Prop) : Prop where
  node : ∀ h node, K h → K { h with node }
  sent : ∀ h sent, K h → K { h with sent }

theorem ofPase_both : OfPase (V := V) BothInRange := ⟨fun _ _ hk => hk, fun _ _ hk => hk⟩

theorem idsOf_of_both (h : PaseHost V) (hk : Keeping BothInRange h) : Keeping IdsOf h :=
  ⟨hk.1, Or.inl hk.2⟩

namespace PaseSession

section Keepers

variable {K : PaseHost V → Prop}

theorem keeping_assign {f : PaseSession V → PaseSession V}
    (hf : ∀ h, K h → K { h with pase := f h.pase }) :
    Keeps (Keeping K) (assign f) :=
  Keeps.modify fun h hk => ⟨hk.1, hf h hk.2⟩

theorem keeping_setState (state : PaseState) {K' : PaseHost V → Prop}
    (hK : ∀ h stateTimeout timers nextTimer, K h →
      K' { h with pase := { h.pase with state, stateTimeout }, timers, nextTimer }) :
    Triple (Keeping K) (setState state) (fun _ => Keeping K') (Keeping K) :=
  triple_setState fun h _ _ _ hk => ⟨hk.1, hK h _ _ _ hk.2⟩

/-- Whatever the node does that is stable. -/
theorem keeping_onNode {α : Type} {m : NodeM α}
    (hm : ∀ created : List (Creation V), Keeps (fun n => MadeAt created n.sessions) m)
    (hK : OfPase K) : Keeps (Keeping K) (onNode m : PaseM V α) :=
  Triple.zoom (fun h _ node hk hr => ⟨Triple.ok (hm h.created) hk.1 hr, hK.node h node hk.2⟩)
    fun h _ node hk hr => ⟨Triple.error (hm h.created) hk.1 hr, hK.node h node hk.2⟩

theorem keeping_sendMessage (msg : Message) (hK : OfPase K) :
    Keeps (Keeping K) (sendMessage P msg) :=
  Keeps.bind (Keeps.modify fun h hk => ⟨hk.1, hK.sent h _ hk.2⟩) fun _ =>
    Keeps.bind Keeps.get fun h => Keeps.bind (keeping_onNode (fun created =>
      Node.keeps_sendMessage (stable_madeAt created) P.aead h.exchange msg) hK) fun _ => Keeps.pure _

theorem keeping_draw {α : Type} (m : EStateM JsError Outside α) (hK : OfPase K) :
    Keeps (Keeping K) (draw m : PaseM V α) :=
  keeping_onNode (fun created => Node.keeps_onSessions (Keeps.zoom m fun _ o hm =>
    (stable_madeAt created).outside o hm)) hK

/-- What is drawn comes from what is outside. -/
theorem triple_draw {α : Type} {m : EStateM JsError Outside α} {o : Outside} (hK : OfPase K) :
    Triple (Keeping fun h => K h ∧ h.node.sessions.outside = o) (draw m : PaseM V α)
      (fun a => Keeping fun h => K h ∧ m.run o = .ok a h.node.sessions.outside) (Keeping K) := by
  rintro h ⟨hm, hk, rfl⟩
  cases hr : (draw m : PaseM V α).run h with
  | ok a h' =>
    obtain ⟨node, hnode, rfl⟩ := run_zoom_eq_ok hr
    obtain ⟨sessions, hs, rfl⟩ := run_zoom_eq_ok hnode
    obtain ⟨o, ho, rfl⟩ := run_zoom_eq_ok hs
    exact ⟨(stable_madeAt h.created).outside o hm, hK.node h _ hk, ho⟩
  | error e h' => exact Triple.error (keeping_draw m hK) ⟨hm, hk⟩ hr

theorem randomU16_lt {o o' : Outside} {id : Nat} (h : randomU16.run o = .ok id o') : id < 65536 := by
  have hrun : randomU16.run o = .ok (ofBE ((List.range 2).map o.entropy))
      { o with entropy := fun i => o.entropy (2 + i) } := rfl
  have hlt := ofBE_lt ((List.range 2).map o.entropy)
  rw [List.length_map, List.length_range] at hlt
  rw [← (EStateM.Result.ok.inj (hrun.symm.trans h)).1]
  exact hlt.trans_eq (by decide)

theorem keeping_newSpake2
    (hf : ∀ h spakeContext spake2,
      K h → K { h with pase := { h.pase with spakeContext, spake2 } }) :
    Keeps (Keeping K) (newSpake2 P) := by
  refine Keeps.bind (Keeps.bind Keeps.get fun h => ?_) fun context =>
    keeping_assign fun h hk => hf h h.pase.spakeContext (some context) hk
  dsimp only
  split
  · exact Keeps.bind (keeping_assign fun h hk => hf h _ h.pase.spake2 hk) fun _ => Keeps.pure _
  · exact Keeps.throw _

end Keepers

/-! ## 4. Handlers with both ids in range -/

theorem keeping_generateVerifier (side : Side) (iterations salt : JsValue) :
    Keeps (Keeping BothInRange) (generateVerifier P side iterations salt) :=
  Keeps.bind (keeping_assign fun _ hk => hk) fun _ => Keeps.bind Keeps.get fun _ => Keeps.bind (Keeps.lift _) fun _ =>
    Keeps.bind (Keeps.lift _) fun _ => Keeps.bind (Keeps.lift _) fun _ => Keeps.modify fun _ hk => hk

/-- A state is set, and a message is sent. -/
theorem keeping_setState_sendMessage (state : PaseState) (msg : Message) :
    Keeps (Keeping BothInRange) (do setState state; sendMessage P msg) :=
  Keeps.bind (keeping_setState state fun _ _ _ _ hk => hk) fun _ => keeping_sendMessage msg ofPase_both

theorem keeping_sendPake1 : Keeps (Keeping BothInRange) (sendPake1 P) :=
  Keeps.bind Keeps.get fun _ => Keeps.bind (Keeps.lift _) fun _ => Keeps.bind (Keeps.lift _) fun msg =>
    Keeps.bind (keeping_setState _ fun _ _ _ _ hk => hk) fun _ =>
    Keeps.bind (Keeps.modify fun _ hk => hk) fun _ => keeping_sendMessage msg ofPase_both

theorem keeping_sendPake2 : Keeps (Keeping BothInRange) (sendPake2 P) :=
  Keeps.bind Keeps.get fun _ => Keeps.bind (Keeps.lift _) fun _ => Keeps.bind (Keeps.lift _) fun msg =>
    keeping_setState_sendMessage _ msg

/-- **A session made with both ids in range is numbered.** -/
theorem keeping_createSecureSession (handling : Nat) :
    Keeps (Keeping BothInRange) (createSecureSession P handling) := by
  refine Keeps.of_final fun h ⟨hm, hinit, hresp⟩ => ?_
  let c : Creation V :=
    { handling, session := h.node.sessions.sessionsSecured.length, pase := h.pase }
  have hnode (l p : JsValue) (hl : InRange l) (hp : InRange p) (Ke : Bytes) :
      Keeping BothInRange (final ((onNode (Node.onSessions
        (SessionManager.createSecureSession P.hkdf l p Ke)) : PaseM V Unit).run
          { h with created := h.created ++ [c] })) := by
    unfold onNode Node.onSessions
    rw [final_zoom, final_zoom]
    exact ⟨madeAt_createSecureSession hm rfl hl hp P.hkdf Ke, hinit, hresp⟩
  have hnone (l p : JsValue) (hl : InRange l) (hp : InRange p) :
      Keeping BothInRange (final ((do
        let _ ← onNode (Node.onSessions (SessionManager.newSession l p))
        throw .typeError : PaseM V Unit).run { h with created := h.created ++ [c] })) := by
    obtain ⟨ref, m', hr, hm'⟩ := madeAt_newSession (c := c) hm rfl hl hp
    have hnew : (onNode (Node.onSessions (SessionManager.newSession l p)) : PaseM V SessionRef).run
        { h with created := h.created ++ [c] } = .ok ref
          { h with created := h.created ++ [c], node := { h.node with sessions := m' } } :=
      run_zoom_ok (run_zoom_ok hr)
    rw [run_bind_ok hnew]
    exact ⟨hm', hinit, hresp⟩
  unfold createSecureSession
  rw [run_bind_ok (run_get h)]
  dsimp only
  rw [run_bind_ok (run_modify _ h)]
  cases h.pase.localRole with
  | initiator =>
    cases h.pase.secret with
    | some secret => exact hnode _ _ hinit hresp secret.Ke
    | none => exact hnone _ _ hinit hresp
  | responder =>
    cases h.pase.secret with
    | some secret => exact hnode _ _ hresp hinit secret.Ke
    | none => exact hnone _ _ hresp hinit

theorem keeping_sendPake3 : Keeps (Keeping BothInRange) (sendPake3 P) :=
  Keeps.bind Keeps.get fun _ => Keeps.bind (Keeps.lift _) fun _ => Keeps.bind (Keeps.lift _) fun msg =>
    Keeps.bind (keeping_setState _ fun _ _ _ _ hk => hk) fun _ =>
    Keeps.bind (keeping_sendMessage msg ofPase_both) fun _ => keeping_createSecureSession _

section Late

variable {h : PaseHost V} {msg : Message}

theorem keeping_onPake1 (hb : h.pase.state = .awaitPake1 → Keeping BothInRange h)
    (hi : Keeping IdsOf h) : Keeping IdsOf (final ((onPake1 P msg).run h)) :=
  guarded_final hi fun hs => idsOf_of_both _ (Keeps.final (Keeps.bind (Keeps.lift _) fun _ =>
    Keeps.bind (Keeps.lift _) fun _ => Keeps.bind (keeping_assign fun _ hk => hk) fun _ =>
    Keeps.bind (keeping_newSpake2 fun _ _ _ hk => hk) fun _ => Keeps.bind (Keeps.lift _) fun _ =>
    keeping_generateVerifier _ _ _) (hb hs))

theorem keeping_onPake2 (hb : h.pase.state = .awaitPake2 → Keeping BothInRange h)
    (hi : Keeping IdsOf h) : Keeping IdsOf (final ((onPake2 P msg).run h)) := by
  refine guarded_final hi fun hs => idsOf_of_both _ (Keeps.final ?_ (hb hs))
  refine Keeps.bind (Keeps.lift _) fun _ => Keeps.bind (Keeps.lift _) fun _ =>
    Keeps.bind (keeping_assign fun _ hk => hk) fun _ => Keeps.bind (Keeps.lift _) fun _ =>
    Keeps.bind (keeping_assign fun _ hk => hk) fun _ => Keeps.bind Keeps.get fun h1 => ?_
  cases h1.pase.spakeClient with
  | none => exact Keeps.throw _
  | some client =>
    exact Keeps.bind (Keeps.lift _) fun _ => Keeps.bind (keeping_assign fun _ hk => hk) fun _ =>
      Keeps.bind (Keeps.lift _) fun _ => Keeps.bind (keeping_assign fun _ hk => hk) fun _ =>
      Keeps.bind (Keeps.lift _) fun _ => Keeps.bind (Keeps.lift _) fun _ =>
      Keeps.bind Keeps.get fun _ => Keeps.bind (Keeps.lift _) fun _ => keeping_sendPake3

theorem keeping_onPake3 (hb : h.pase.state = .awaitPake3 → Keeping BothInRange h)
    (hi : Keeping IdsOf h) : Keeping IdsOf (final ((onPake3 P msg).run h)) := by
  refine guarded_final hi fun hs => idsOf_of_both _ (Keeps.final ?_ (hb hs))
  refine Keeps.bind (Keeps.lift _) fun _ => Keeps.bind (Keeps.lift _) fun _ =>
    Keeps.bind (keeping_assign fun _ hk => hk) fun _ => Keeps.bind (Keeps.lift _) fun _ => Keeps.bind Keeps.get fun h1 => ?_
  cases h1.pase.secret with
  | none => exact Keeps.throw _
  | some k =>
    exact Keeps.bind (Keeps.lift _) fun _ => Keeps.bind (Keeps.lift _) fun _ =>
      Keeps.bind (Keeps.lift _) fun report => Keeps.bind (keeping_sendMessage report ofPase_both) fun _ =>
      Keeps.bind (keeping_createSecureSession _) fun _ => keeping_setState _ fun _ _ _ _ hk => hk

end Late

theorem keeping_resume (coin : Nat) (pending : Pending V) :
    Keeps (Keeping BothInRange) (PaseSession.resume P coin pending) := by
  cases pending with
  | verifier side v => exact Keeps.bind (keeping_assign fun _ hk => hk) fun _ => Keeps.modify fun _ hk => hk
  | generated side v =>
    refine Keeps.bind Keeps.get fun h1 => ?_
    cases h1.pase.spake2 with
    | none => exact Keeps.throw _
    | some context => exact Keeps.bind (Keeps.lift _) fun _ => Keeps.modify fun _ hk => hk
  | started side party =>
    cases side with
    | client =>
      exact Keeps.bind (keeping_assign fun _ hk => hk) fun _ => Keeps.bind (Keeps.lift _) fun _ =>
        Keeps.bind (keeping_assign fun _ hk => hk) fun _ => keeping_sendPake1
    | server =>
      exact Keeps.bind (keeping_assign fun _ hk => hk) fun _ => Keeps.bind (Keeps.lift _) fun _ =>
        Keeps.bind (keeping_assign fun _ hk => hk) fun _ => Keeps.bind Keeps.get fun _ =>
        Keeps.bind (Keeps.lift _) fun _ => Keeps.bind (keeping_assign fun _ hk => hk) fun _ =>
        Keeps.bind (Keeps.lift _) fun _ => Keeps.bind (keeping_assign fun _ hk => hk) fun _ => keeping_sendPake2

/-! ## 5. Handlers that set an id -/

/-- The ids of a handshake, with the initiator's in range. -/
def InitiatorInRange (h : PaseHost V) : Prop := IdsOf h ∧ InRange h.pase.initiatorSessionId

theorem ofPase_idsOf : OfPase (V := V) IdsOf := ⟨fun _ _ hk => hk, fun _ _ hk => hk⟩

theorem ofPase_initiator : OfPase (V := V) InitiatorInRange := ⟨fun _ _ hk => hk, fun _ _ hk => hk⟩

/-- An id in range that is set for the initiator. -/
theorem initiatorInRange_assign {h : PaseHost V} {id : JsValue} (hid : InRange id) (hi : IdsOf h)
    {p : PaseSession V} (hinit : p.initiatorSessionId = id)
    (hresp : p.responderSessionId = h.pase.responderSessionId) (hstate : p.state = h.pase.state) :
    InitiatorInRange { h with pase := p } := by
  have hin : InRange p.initiatorSessionId := hinit ▸ hid
  refine ⟨?_, hin⟩
  rcases hi with ⟨-, hr⟩ | ⟨hp, hs, -⟩
  · exact Or.inl ⟨hin, (congrArg InRange hresp).mpr hr⟩
  · refine Or.inr ⟨hp, ?_, fun _ => hin⟩
    show p.state = _ ∨ p.state = _
    rwa [hstate]

/-- **A request that draws an id other than 0** leaves the ids in range. -/
theorem keeping_sendPbkdfParamRequest {o : Outside}
    (hdraw : ∀ id o', randomU16.run o = .ok id o' → id ≠ 0) :
    Triple (Keeping fun h => IdsOf h ∧ h.node.sessions.outside = o) (sendPbkdfParamRequest P)
      (fun _ => Keeping IdsOf) (Keeping IdsOf) := by
  refine Keeps.after (keeping_assign fun _ hk => hk) (fun _ hk => ⟨hk.1, hk.2.1⟩) fun _ =>
    Triple.bind (triple_draw ofPase_idsOf) fun id => ?_
  refine Triple.bind (Q := fun _ => Keeping InitiatorInRange) (Triple.modify ?_) fun _ => ?_
  · rintro h ⟨hm, hi, hr⟩
    exact ⟨hm, initiatorInRange_assign (inRange_nat (hdraw id _ hr) (randomU16_lt hr)) hi rfl rfl rfl⟩
  · have hweak (h : PaseHost V) (hk : Keeping InitiatorInRange h) : Keeping IdsOf h := ⟨hk.1, hk.2.1⟩
    refine Triple.conseq (P := Keeping InitiatorInRange) (Q := fun _ => Keeping InitiatorInRange)
      (E := Keeping InitiatorInRange) ?_ (fun _ hk => hk) (fun _ => hweak) hweak
    refine Keeps.bind (keeping_draw _ ofPase_initiator) fun random =>
      Keeps.bind (keeping_assign fun _ hk => hk) fun _ =>
      Keeps.bind (Keeps.lift _) fun payload => Keeps.bind (keeping_assign fun h hk => ?_) fun _ =>
      Keeps.bind (Keeps.lift _) fun msg =>
      Keeps.bind (keeping_setState _ fun h _ _ _ hk => ⟨?_, hk.2⟩) fun _ =>
      keeping_sendMessage msg ofPase_initiator
    · exact initiatorInRange_assign hk.2 hk.1 rfl rfl rfl
    · exact hk.1.imp_right fun hearly => ⟨hearly.1, Or.inr rfl, hearly.2.2⟩

/-- A response that draws an id other than 0 has both ids in range. -/
theorem keeping_sendPbkdfParamResponse {o : Outside}
    (hdraw : ∀ id o', (do let _ ← randomBytes 32; randomU16 : EStateM JsError Outside Nat).run o =
      .ok id o' → id ≠ 0) :
    Triple (Keeping fun h => InitiatorInRange h ∧ h.node.sessions.outside = o)
      (sendPbkdfParamResponse P) (fun _ => Keeping IdsOf) (Keeping IdsOf) := by
  let o1 : Outside := { o with entropy := fun i => o.entropy (32 + i) }
  have hrandom := Session.randomBytes_run 32 o
  have hinit (h : PaseHost V) (hk : Keeping InitiatorInRange h) : Keeping IdsOf h := ⟨hk.1, hk.2.1⟩
  refine Triple.bind (Q := fun _ => Keeping fun h => InitiatorInRange h ∧ h.node.sessions.outside = o1)
    (Triple.conseq (triple_draw ofPase_initiator) (fun _ hk => hk) ?_ hinit) fun random => ?_
  · rintro a h ⟨hm, hi, hr⟩
    exact ⟨hm, hi, (EStateM.Result.ok.inj (hrandom.symm.trans hr)).2.symm⟩
  refine Keeps.after (keeping_assign fun _ hk => hk) (fun h hk => hinit h ⟨hk.1, hk.2.1⟩) fun _ =>
    Triple.bind (Triple.conseq (triple_draw ofPase_initiator) (fun _ hk => hk)
      (fun _ _ hk => hk) hinit) fun id => ?_
  refine Triple.bind (Q := fun _ => Keeping BothInRange) (Triple.modify ?_) fun _ => ?_
  · rintro h ⟨hm, hi, hr⟩
    have hid := hdraw id _ ((run_bind_ok hrandom).trans hr)
    exact ⟨hm, hi.2, inRange_nat hid (randomU16_lt hr)⟩
  · refine Triple.conseq (P := Keeping BothInRange) (Q := fun _ => Keeping BothInRange)
      (E := Keeping BothInRange) ?_ (fun _ hk => hk) (fun _ => idsOf_of_both) idsOf_of_both
    exact Keeps.bind Keeps.get fun _ => Keeps.bind (Keeps.lift _) fun _ =>
      Keeps.bind (Keeps.lift _) fun _ => Keeps.bind (Keeps.lift _) fun msg =>
      Keeps.bind (keeping_assign fun _ hk => hk) fun _ => keeping_setState_sendMessage _ msg

/-- The id a ParamRequest carries. -/
def requestId (msg : Message) : Except JsError JsValue := do
  let tlvJson ← decodeFields (← msg.appPayload) mapMsgPasePbkdfParamRequest
  Parser.get tlvJson "initiatorSessionId"

/-- The id a ParamResponse carries. -/
def responseId (msg : Message) : Except JsError JsValue := do
  let tlvJson ← decodeFields (← msg.appPayload) mapMsgPasePbkdfParamResponse
  Parser.get tlvJson "responderSessionId"

section Early

variable {h : PaseHost V} {msg : Message}

theorem keeping_startPase (hi : Keeping IdsOf h)
    (hdraw : h.pase.state = .idle →
      ∀ id o', randomU16.run h.node.sessions.outside = .ok id o' → id ≠ 0) :
    Keeping IdsOf (final ((startPase P).run h)) :=
  guarded_final hi fun hs =>
    (keeping_sendPbkdfParamRequest (hdraw hs)).final ⟨hi.1, hi.2, rfl⟩

/-- A ParamRequest with an id in range, answered with one that is not 0. -/
theorem keeping_onPbkdfParamRequest (hi : Keeping IdsOf h)
    (hid : h.pase.state = .idle → ∀ id, requestId msg = .ok id → InRange id)
    (hdraw : h.pase.state = .idle → ∀ id o',
      (do let _ ← randomBytes 32; randomU16 : EStateM JsError Outside Nat).run
        h.node.sessions.outside = .ok id o' → id ≠ 0) :
    Keeping IdsOf (final ((onPbkdfParamRequest P msg).run h)) := by
  refine guarded_final hi fun hs => Triple.final (P := Keeping fun h' =>
    IdsOf h' ∧ h'.node.sessions.outside = h.node.sessions.outside) ?_ ⟨hi.1, hi.2, rfl⟩
  have hweak (h' : PaseHost V) (hk : Keeping (fun h' =>
      IdsOf h' ∧ h'.node.sessions.outside = h.node.sessions.outside) h') : Keeping IdsOf h' :=
    ⟨hk.1, hk.2.1⟩
  refine Triple.after_lift hweak fun tlv htlv => Triple.after_lift hweak fun tlvJson hjson =>
    Keeps.after (Keeps.lift _) hweak fun random => Triple.after_lift hweak fun id hget =>
    Keeps.after (Keeps.lift _) hweak fun passcodeId => ?_
  have hin : InRange id := by
    refine hid hs id ?_
    unfold requestId
    rw [htlv]
    show (decodeFields tlv mapMsgPasePbkdfParamRequest >>= _) = _
    rw [hjson]
    exact hget
  refine Triple.bind (Q := fun _ => Keeping fun h' =>
    InitiatorInRange h' ∧ h'.node.sessions.outside = h.node.sessions.outside) (Triple.modify ?_)
    fun _ => Keeps.after (Keeps.lift _) (fun h' hk => ⟨hk.1, hk.2.1.1⟩) fun _ =>
      keeping_sendPbkdfParamResponse (hdraw hs)
  rintro h' ⟨hm, hids, ho⟩
  exact ⟨hm, initiatorInRange_assign hin hids rfl rfl rfl, ho⟩

/-- A context needs a request, so both ids are in range once there is one. -/
theorem both_newSpake2 :
    Triple (Keeping fun h : PaseHost V => IdsOf h ∧ InRange h.pase.responderSessionId) (newSpake2 P)
      (fun _ => Keeping BothInRange) (Keeping IdsOf) := by
  refine Triple.bind (Q := fun _ => Keeping BothInRange) (Triple.bind (Q := fun h h' => h = h' ∧
    Keeping (fun h => IdsOf h ∧ InRange h.pase.responderSessionId) h) (Triple.get fun h hk =>
      ⟨rfl, hk⟩) fun h => ?_) fun context => Triple.modify fun h hk => hk
  dsimp only
  split
  · rename_i request response hrequest hresponse
    refine Triple.bind (Q := fun _ => Keeping BothInRange) (Triple.modify ?_) fun _ =>
      Triple.pure _ fun _ hk => hk
    rintro h' ⟨rfl, hm, hi, hresp⟩
    refine ⟨hm, ?_, hresp⟩
    rcases hi with ⟨hinit, -⟩ | ⟨-, -, hrange⟩
    · exact hinit
    · exact hrange (by rw [hrequest]; rfl)
  · refine Triple.throw _ ?_
    rintro h' ⟨rfl, hm, hi, -⟩
    exact ⟨hm, hi⟩

/-- A ParamResponse with an id in range. -/
theorem keeping_onPbkdfParamResponse (hi : Keeping IdsOf h)
    (hid : ∀ id, responseId msg = .ok id → InRange id) :
    Keeping IdsOf (final ((onPbkdfParamResponse P msg).run h)) := by
  refine Triple.final (P := Keeping IdsOf) ?_ hi
  refine Triple.after_lift (fun _ hk => hk) fun tlv htlv =>
    Keeps.after (keeping_assign fun _ hk => hk) (fun _ hk => hk) fun _ =>
    Triple.after_lift (fun _ hk => hk) fun tlvJson hjson =>
    Triple.after_lift (fun _ hk => hk) fun id hget => ?_
  have hin : InRange id := by
    refine hid id ?_
    unfold responseId
    rw [htlv]
    show (decodeFields tlv mapMsgPasePbkdfParamResponse >>= _) = _
    rw [hjson]
    exact hget
  have hweak (h : PaseHost V) (hk : Keeping (fun h : PaseHost V =>
      IdsOf h ∧ InRange h.pase.responderSessionId) h) : Keeping IdsOf h := ⟨hk.1, hk.2.1⟩
  refine Triple.bind (Q := fun _ => Keeping fun h : PaseHost V =>
    IdsOf h ∧ InRange h.pase.responderSessionId) (Triple.modify fun h hk => ⟨hk.1, ?_, hin⟩) fun _ => ?_
  · exact hk.2.imp (fun hb => ⟨hb.1, hin⟩) fun hearly => hearly
  · refine Keeps.after (Keeps.lift _) hweak fun params => Keeps.after (Keeps.lift _) hweak fun _ =>
      Keeps.after (Keeps.lift _) hweak fun _ => Triple.bind both_newSpake2 fun _ => ?_
    exact Triple.conseq (keeping_generateVerifier _ _ _) (fun _ hk => hk) (fun _ => idsOf_of_both)
      idsOf_of_both

end Early

end PaseSession

/-! ## 6. Runs -/

namespace PaseHost

open PaseSession

/-- **No draw of an id is 0, and the ids of the peer are in range.** -/
def ValidIds (h : PaseHost V) : PaseEvent → Prop
  | .start => h.pase.state = .idle →
      ∀ id o, randomU16.run h.node.sessions.outside = .ok id o → id ≠ 0
  | .message msg =>
    (msg.protocolOpcode = .ok opParamRequest → h.pase.state = .idle →
      (∀ id, requestId msg = .ok id → InRange id) ∧
        ∀ id o, (do let _ ← randomBytes 32; randomU16 : EStateM JsError Outside Nat).run
          h.node.sessions.outside = .ok id o → id ≠ 0) ∧
      (msg.protocolOpcode = .ok opParamResponse → ∀ id, responseId msg = .ok id → InRange id)
  | _ => True

/-- In the states past a ParamResponse, and while a handler awaits, both ids are in range. -/
theorem both_of_state {h : PaseHost V} (hi : Keeping IdsOf h)
    (hlate : h.pending ≠ [] ∨ h.pase.state ≠ .idle ∧ h.pase.state ≠ .awaitPbkdfParamRsp) :
    Keeping BothInRange h := by
  refine ⟨hi.1, hi.2.resolve_right ?_⟩
  rintro ⟨hp, hs, -⟩
  rcases hlate with hne | ⟨hidle, hrsp⟩
  · exact hne hp
  · exact hs.elim hidle hrsp

theorem keeping_onExchangeMessage {h : PaseHost V} {msg : Message} (hi : Keeping IdsOf h)
    (hv : ValidIds h (.message msg)) :
    Keeping IdsOf (final ((onExchangeMessage P msg).run h)) := by
  have hlate {state : PaseState} (hidle : state ≠ .idle) (hrsp : state ≠ .awaitPbkdfParamRsp)
      (hs : h.pase.state = state) : Keeping BothInRange h :=
    both_of_state hi (Or.inr (hs ▸ ⟨hidle, hrsp⟩))
  unfold onExchangeMessage
  cases hop : msg.protocolOpcode with
  | error e => exact hi
  | ok opcode =>
    rw [run_bind_ok (run_lift_ok opcode h)]
    cases msg.exchangeId with
    | error e => exact hi
    | ok id =>
      rw [run_bind_ok (run_lift_ok id h)]
      split
      · rename_i heq
        have hreq := hv.1 (heq ▸ hop)
        exact keeping_onPbkdfParamRequest hi (fun hs => (hreq hs).1) fun hs => (hreq hs).2
      split
      · rename_i heq
        exact keeping_onPbkdfParamResponse hi (hv.2 (heq ▸ hop))
      split
      · exact keeping_onPake1 (hlate nofun nofun) hi
      split
      · exact keeping_onPake2 (hlate nofun nofun) hi
      split
      · exact keeping_onPake3 (hlate nofun nofun) hi
      · exact hi

/-- **Every event with valid ids keeps the sessions made numbered.** -/
theorem keeping_step {h : PaseHost V} {e : PaseEvent} (hi : Keeping IdsOf h) (hv : ValidIds h e) :
    Keeping IdsOf (h.step P e) := by
  cases e with
  | start => exact keeping_startPase hi hv
  | message msg =>
    show Keeping IdsOf (final ((acknowledge msg >>= fun _ => onExchangeMessage P msg).run h))
    rcases run_acknowledge msg h with ⟨e, hr⟩ | ⟨counter, hr⟩
    · rw [run_bind_error hr]
      exact hi
    · rw [run_bind_ok hr]
      exact keeping_onExchangeMessage hi hv
  | resume i coin =>
    cases hp : h.pending[i]? with
    | none =>
      rw [step_resume_none P hp]
      exact hi
    | some pending =>
      rw [step_resume_some P hp]
      have hne : h.pending ≠ [] := List.ne_nil_of_mem (List.mem_of_getElem? hp)
      have hb := both_of_state hi (Or.inl hne)
      exact idsOf_of_both _ ((keeping_resume coin pending).final (by exact hb))
  | timeout handle =>
    obtain ⟨stateTimeout, timers, nextTimer, hr⟩ :=
      run_setState .idle { h with timers := h.timers.filter (· ≠ handle) }
    show Keeping IdsOf (if handle ∈ h.timers then
      final ((setState .idle).run { h with timers := h.timers.filter (· ≠ handle) }) else h)
    rw [hr]
    split
    · exact ⟨hi.1, hi.2.imp_right fun hearly => ⟨hearly.1, Or.inl rfl, hearly.2.2⟩⟩
    · exact hi
  | node e => exact ⟨Node.stable_step (stable_madeAt h.created) P.aead P.hkdf h.node e hi.1, hi.2⟩

/-- **In a run with valid ids, every session made has both ids in range and sends encrypted frames
    only**, then and later. -/
theorem encrypted_of_validIds (P : Packages V) (n : Node) (exchange : Nat) (params : PbkdfParams)
    (es : List PaseEvent) (hes : Along (step P) ValidIds (create n exchange params) es) :
    ∀ c ∈ (run (step P) (create n exchange params) es).created,
      ∃ s, (run (step P) (create n exchange params) es).node.sessions.sessionsSecured[c.session]? =
          some s ∧ s.secure = true ∧ InRange s.localSessionId ∧ InRange s.peerSessionId ∧
        EncryptedOnly P.aead s := by
  have hrun := (along_invariant (step P) (I := Keeping IdsOf) (Q := fun _ _ => True)
    (fun _ _ hi hv => keeping_step hi hv) (fun _ _ _ _ => trivial)
    ⟨fun _ hc => absurd hc List.not_mem_nil, Or.inr ⟨rfl, Or.inl rfl, by exact fun hsome => by cases hsome⟩⟩ hes).2
  intro c hc
  obtain ⟨s, hs, hnum⟩ := hrun.1 c hc
  exact ⟨s, hs, hnum.secure, hnum.localSessionId, hnum.peerSessionId,
    encryptedOnly_of_inRange hnum.peerSessionId⟩

/-- A draw with a known answer. -/
theorem ne_zero_of_run' {m : EStateM JsError Outside Nat} {o : Outside} {n : Nat}
    (h : m.run' o = some n) (hn : n ≠ 0) : ∀ id o', m.run o = .ok id o' → id ≠ 0 := by
  intro id o' hr
  have hrun : m.run' o = some id := by
    unfold EStateM.run'
    rw [hr]
  rw [hrun] at h
  rwa [Option.some.inj h]

/-- A responder whose peer has the id 7. -/
theorem encrypted_of_validIds_responder :
    let h : PaseHost Bytes := create (sampleNode false) 0 {}
    (run (step samplePackages) h (responderRun 7)).created.length = 1 ∧
      ∀ c ∈ (run (step samplePackages) h (responderRun 7)).created,
        ∃ s, (run (step samplePackages) h (responderRun 7)).node.sessions.sessionsSecured[c.session]? =
            some s ∧ s.secure = true ∧ InRange s.localSessionId ∧ InRange s.peerSessionId ∧
          EncryptedOnly Aead.keyTag s := by
  refine ⟨by decide +kernel, encrypted_of_validIds samplePackages (sampleNode false) 0 {}
    (responderRun 7) ⟨⟨fun _ _ => ⟨?_, ?_⟩, fun hop => absurd hop (by decide +kernel)⟩,
      ⟨fun hop => absurd hop (by decide +kernel), fun hop => absurd hop (by decide +kernel)⟩, trivial,
      trivial, trivial,
      ⟨fun hop => absurd hop (by decide +kernel), fun hop => absurd hop (by decide +kernel)⟩,
      trivial⟩⟩
  · intro id hid
    have hvalue : (requestId (sampleRequest 7)).toOption.bind idValue = some 7 := by decide +kernel
    rw [hid] at hvalue
    exact ⟨7, hvalue, by decide, by decide⟩
  · exact ne_zero_of_run' (n := 0x2122) (by decide +kernel) (by decide)

/-- The session a responder makes with a peer that has the id 0. -/
def zeroSession : Option Session :=
  (run (step samplePackages) (create (sampleNode false) 0 {}) (responderRun 0)).node.sessions
    |>.sessionsSecured[0]?

/-- The frames a session hands over for a request, once it has an address. -/
def sentOn (s : Session) : List Bytes :=
  (final ((Session.sendMessage Aead.keyTag { buffer := List.replicate 8 0 ++ [1, 2, 0, 0, 1, 0] }).run
    ⟨{ s with peerInfo := some ⟨"::1", 5540⟩ }, { entropy := fun _ => 1 }⟩)).outside.transmitted.map
      (·.frame)

/-- **A peer with the id 0 has a secure session send in the clear.** -/
theorem plaintext_session :
    ∃ s, zeroSession = some s ∧ s.secure = true ∧ ¬ InRange s.peerSessionId ∧
      ¬ EncryptedOnly Aead.keyTag s := by
  have hfacts : zeroSession.map (fun s => ((s.secure, idValue s.peerSessionId),
      s.cryptoContext.map (fun c => [c.i2rKey, c.r2iKey, c.attestationChallenge]), sentOn s)) =
      some ((true, some 0), some (List.replicate 3 (List.replicate 16 7)),
        [[4, 0, 0, 0, 39, 37, 36, 3, 1, 1, 1, 1, 1, 1, 1, 1, 1, 2, 0, 0, 1, 0]]) := by decide +kernel
  obtain ⟨s, hs, hvalues⟩ := Option.map_eq_some_iff.mp hfacts
  obtain ⟨hid, hrest⟩ := Prod.mk.inj hvalues
  obtain ⟨hsecure, hvalue⟩ := Prod.mk.inj hid
  obtain ⟨hkeys, hsent⟩ := Prod.mk.inj hrest
  refine ⟨s, hs, hsecure, ?_, fun hall => ?_⟩
  · rintro ⟨n, hn, hlow, -⟩
    cases hvalue.symm.trans hn
    exact absurd hlow (by decide)
  · obtain ⟨frames, htransmitted, hencrypted⟩ := hall ⟨"::1", 5540⟩
      { buffer := List.replicate 8 0 ++ [1, 2, 0, 0, 1, 0] } { entropy := fun _ => 1 }
    unfold sentOn at hsent
    rw [htransmitted, List.nil_append] at hsent
    obtain ⟨t, rfl, hframe⟩ := List.map_eq_singleton_iff.mp hsent
    obtain ⟨c, plain, index, hc, henc⟩ := hencrypted t (List.mem_singleton.mpr rfl)
    rw [hc] at hkeys
    have hkey : c.keys index = List.replicate 16 7 := by
      have hlist : [c.i2rKey, c.r2iKey, c.attestationChallenge] =
          [List.replicate 16 7, List.replicate 16 7, List.replicate 16 7] := Option.some.inj hkeys
      obtain ⟨h0, h12⟩ := List.cons.inj hlist
      obtain ⟨h1, h2⟩ := List.cons.inj h12
      match index with
      | 0 => exact h0
      | 1 => exact h1
      | _ + 2 => exact (List.cons.inj h2).1
    rw [hframe, hkey] at henc
    have hlast := congrArg List.getLast? henc
    have htag : (MsgCodec.encrypt Aead.keyTag plain (List.replicate 16 7)).getLast? = some 7 := by
      unfold MsgCodec.encrypt
      rw [List.getLast?_append]
      rfl
    rw [htag] at hlast
    cases hlast

end PaseHost

end Matternode.Protocols
