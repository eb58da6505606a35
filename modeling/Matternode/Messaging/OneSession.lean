/-
  File:      Matternode/Messaging/OneSession.lean
  Subject:   What happens to one session while its node runs.

  A session object is changed by what is sent on it, by the keys it is given, and by the datagrams it
  is found for. New sessions, and all that is done with other sessions, leave it alone.

  * `Has` -- the session at a place has a property; `Lasting` -- one that sending and keys leave;
  * `has_…` -- **what does not look for the session leaves it**;
  * `receiver` -- the secure session a datagram is found for;
  * `AtAddress`, `atAddress_step` -- **a secure session has the address of the last datagram that came
    on it**.
-/
import Matternode.Messaging.Searchable
import Matternode.Messaging.Dispatch

namespace Matternode.Messaging

open Base Js

/-! ## 1. The node id of the peer -/

namespace Session

/-- `Q` holds of the node id of the session in hand. -/
abbrev NodeIdHas (Q : Option Nat → Prop) (st : SendState) : Prop := Q st.session.peerNodeId

section NodeId

variable {Q : Option Nat → Prop}

theorem nodeId_encryptMessage (A : Aead) (msg : Message) :
    Keeps (NodeIdHas Q) (encryptMessage A msg) := by
  refine Keeps.bind (Keeps.lift _) fun iflag => Keeps.bind Keeps.get fun st => ?_
  cases st.session.cryptoContext with
  | none => exact Keeps.throw _
  | some c => exact Keeps.bind (Keeps.modify fun _ hst => hst) fun _ => Keeps.pure _

theorem nodeId_transmit (buf : Bytes) : Keeps (NodeIdHas Q) (transmit buf) := by
  refine Keeps.bind Keeps.get fun st => ?_
  cases st.session.peerInfo with
  | none => exact Keeps.throw _
  | some peer => exact Keeps.modify fun _ hst => hst

variable (halloc : Keeps (NodeIdHas Q) allocatePeerNodeId)

include halloc

theorem nodeId_addressUnencrypted (msg : Message) :
    Keeps (NodeIdHas Q) (addressUnencrypted msg) := by
  refine Keeps.bind (Keeps.lift _) fun iflag => ?_
  split
  · exact Keeps.bind halloc fun _ => Keeps.bind Keeps.get fun _ =>
      Keeps.bind (Keeps.lift _) fun _ => Keeps.pure _
  · refine Keeps.bind Keeps.get fun _ => ?_
    split
    · exact Keeps.bind Keeps.get fun _ => Keeps.bind (Keeps.lift _) fun _ => Keeps.pure _
    · exact Keeps.throw _

/-- **Sending keeps of the node id what its allocation keeps.** -/
theorem nodeId_sendMessage (A : Aead) (msg : Message) :
    Keeps (NodeIdHas Q) (sendMessage A msg) := by
  refine Keeps.bind Keeps.get fun _ => Keeps.bind (Keeps.lift _) fun m => ?_
  refine Keeps.bind Keeps.get fun _ => Keeps.bind (Keeps.modify fun _ hst => hst) fun _ => ?_
  refine Keeps.bind (Keeps.lift _) fun m => Keeps.bind (Keeps.modify fun _ hst => hst) fun _ => ?_
  refine Keeps.bind (Keeps.lift _) fun encrypted => ?_
  have hrest (sent : Message × Bytes) :
      Keeps (NodeIdHas Q) (do transmit sent.2; return sent.1 : SendM Message) :=
    Keeps.bind (nodeId_transmit sent.2) fun _ => Keeps.pure _
  cases encrypted with
  | true => exact Keeps.bind (nodeId_encryptMessage A m) hrest
  | false => exact Keeps.bind (nodeId_addressUnencrypted halloc m) hrest

end NodeId

/-- A node id that there is has 64 bits. -/
def NodeIdFits (nodeId : Option Nat) : Prop := ∀ id, nodeId = some id → id < 2 ^ 64

theorem fits_allocatePeerNodeId : Keeps (NodeIdHas NodeIdFits) allocatePeerNodeId := by
  refine Keeps.bind Keeps.get fun s => ?_
  split
  · exact Keeps.pure ()
  · refine Triple.bind (Q := fun id st => id < 2 ^ 64 ∧ NodeIdFits st.session.peerNodeId)
      (Triple.zoom ?_ fun t e o ht _ => ht) fun id => Triple.modify fun t ht id' hid => ?_
    · intro t id o ht hr
      rw [randomU64_run] at hr
      cases hr
      have hlt := ofBE_lt ((List.range 8).map t.outside.entropy)
      rw [List.length_map, List.length_range] at hlt
      exact ⟨hlt.trans_eq (by decide), ht⟩
    · rw [← Option.some.inj hid]
      exact ht.1

end Session

/-! ## 2. One session -/

namespace SessionManager

/-- The session at the place has the property. -/
def Has (ref : SessionRef) (F : Session → Prop) (h : SessionManager) : Prop :=
  ∃ s, h.session? ref = some s ∧ F s

/-- A property that survives what is sent on a session, the keys it is given, and a datagram but for
    its sender. -/
structure Lasting (F : Session → Prop) : Prop where
  counted : ∀ {s : Session} (peerMessageCounter metricRxCount : Nat), F s →
    F { s with peerMessageCounter, metricRxCount }
  sent : ∀ (A : Aead) (msg : Message), Keeps (fun st => F st.session) (Session.sendMessage A msg)
  keyed : ∀ {hkdf : SessionCryptoContext.Hkdf} {s t : Session} {secret salt info : Bytes},
    s.initFromSecret hkdf secret salt info = .ok t → F s → F t

section Having

variable {ref ref' : SessionRef} {F : Session → Prop}

theorem Has.modifySession {h : SessionManager} (hh : Has ref F h) {f : Session → Session}
    (hf : ref' = ref → ∀ s, h.session? ref = some s → F s → F (f s)) :
    Has ref F (h.modifySession f ref') := by
  obtain ⟨s, hs, hF⟩ := hh
  have hget := session?_modifySession h f ref' ref
  rw [hs] at hget
  by_cases href : ref' = ref
  · rw [if_pos href] at hget
    exact ⟨f s, hget, hf href s hs hF⟩
  · rw [if_neg href] at hget
    exact ⟨s, hget, hF⟩

/-- A change of another session, or one that leaves the property. -/
theorem has_modify {f : Session → Session} (hf : ref' = ref → ∀ s, F s → F (f s)) :
    Keeps (Has ref F) (modify fun h => h.modifySession f ref' : ManagerM PUnit) :=
  Keeps.modify fun _ hh => hh.modifySession fun href s _ => hf href s

/-- A session at the end of a table takes no place that is taken. -/
theorem Has.ne_of_none {h : SessionManager} (hh : Has ref F h) (hnone : h.session? ref' = none) :
    ref' ≠ ref := by
  rintro rfl
  obtain ⟨s, hs, -⟩ := hh
  rw [hs] at hnone
  cases hnone

/-- A new session is another one. -/
theorem has_newSession (l p : JsValue) (isSecure : Bool) :
    Triple (Has ref F) (newSession l p isSecure) (fun ref' h => Has ref F h ∧ ref' ≠ ref)
      (Has ref F) := by
  intro h hh
  have hfree : h.session? (.secured h.sessionsSecured.length) = none ∧
      h.session? (.unsecured h.sessionsUnsecured.length) = none :=
    ⟨List.getElem?_eq_none (Nat.le_refl _), List.getElem?_eq_none (Nat.le_refl _)⟩
  have hne := And.imp hh.ne_of_none hh.ne_of_none hfree
  obtain ⟨s, hs, hF⟩ := hh
  cases isSecure with
  | true =>
    obtain ⟨t, o, -, hr⟩ := newSession_secured l p h
    rw [hr]
    refine ⟨⟨s, ?_, hF⟩, hne.1⟩
    cases ref with
    | secured i => exact (List.getElem?_append_left (List.getElem?_eq_some_iff.mp hs).1).trans hs
    | unsecured i => exact hs
  | false =>
    obtain ⟨t, o, -, hr⟩ := newSession_unsecured l p h
    rw [hr]
    refine ⟨⟨s, ?_, hF⟩, hne.2⟩
    cases ref with
    | secured i => exact hs
    | unsecured i => exact (List.getElem?_append_left (List.getElem?_eq_some_iff.mp hs).1).trans hs

theorem has_learnPeer (hne : ref' ≠ ref) (msg : Message) : Keeps (Has ref F) (learnPeer ref' msg) :=
  Keeps.bind (Keeps.lift _) fun _ => has_modify fun href => absurd href hne

theorem has_updatePeer (hF : Lasting F) {msg : Message}
    (hpeer : ref' = ref → ∀ s, F s → F { s with peerInfo := msg.peerInfo }) :
    Keeps (Has ref F) (updatePeer ref' msg) := by
  refine Keeps.bind (has_modify hpeer) fun _ => Keeps.bind (Keeps.lift _) fun counter => ?_
  exact Keeps.bind (has_modify fun _ s hs => hF.counted counter s.metricRxCount hs) fun _ =>
    has_modify fun _ s hs => hF.counted s.peerMessageCounter (s.metricRxCount + 1) hs

/-- **What is sent on a session leaves it the property.** -/
theorem has_sendOn (hF : Lasting F) (A : Aead) (ref' : SessionRef) (msg : Message) :
    Keeps (Has ref F) (sendOn A ref' msg) := by
  refine Triple.bind (Q := fun t h => t = h ∧ Has ref F h) (Triple.get fun h hh => ⟨rfl, hh⟩)
    fun t => ?_
  cases hs : t.session? ref' with
  | none => exact Triple.throw _ fun h hh => hh.2
  | some s =>
    have hset (h : SessionManager) (st : SendState) (hh : t = h ∧ Has ref F h)
        (hsent : F s → F st.session) :
        Has ref F { h.modifySession (fun _ => st.session) ref' with outside := st.outside } := by
      obtain ⟨rfl, hh⟩ := hh
      have hmod : Has ref F (t.modifySession (fun _ => st.session) ref') := by
        refine hh.modifySession fun href s' hs' hF' => ?_
        rw [← href, hs] at hs'
        exact hsent (Option.some.inj hs' ▸ hF')
      cases ref with
      | secured i => exact hmod
      | unsecured i => exact hmod
    refine Triple.zoom (fun h sent st hh hr => hset h st hh fun hF' => ?_)
      fun h e st hh hr => hset h st hh fun hF' => ?_
    · exact (hF.sent A msg).ok hF' hr
    · exact (hF.sent A msg).error hF' hr

theorem has_initPaseSession (hF : Lasting F) (hkdf : SessionCryptoContext.Hkdf) (secret : Bytes)
    (ref' : SessionRef) : Keeps (Has ref F) (initPaseSession hkdf secret ref') := by
  refine Triple.bind (Q := fun t h => t = h ∧ Has ref F h) (Triple.get fun h hh => ⟨rfl, hh⟩)
    fun t => ?_
  cases hs : t.session? ref' with
  | none => exact Triple.throw _ fun h hh => hh.2
  | some s =>
    refine Triple.after_lift (fun _ hh => hh.2) fun s' hinit => Triple.modify ?_
    rintro h ⟨rfl, hh⟩
    refine hh.modifySession fun href s₀ hs₀ hF₀ => hF.keyed hinit ?_
    rw [← href, hs] at hs₀
    exact Option.some.inj hs₀ ▸ hF₀

/-- **A session that a handshake makes is another one.** -/
theorem has_createSecureSession (hF : Lasting F) (hkdf : SessionCryptoContext.Hkdf) (l p : JsValue)
    (secret : Bytes) : Keeps (Has ref F) (createSecureSession hkdf l p secret) :=
  Triple.bind (Triple.conseq (has_newSession l p true) (fun _ hh => hh) (fun _ _ hh => hh.1)
    fun _ hh => hh) fun ref' => has_initPaseSession hF hkdf secret ref'

/-! ## 3. Datagrams -/

/-- A secure datagram that the session is not found for. -/
theorem has_onSecureMessage (hF : Lasting F) (A : Aead) (buf : Bytes) (peerInfo : PeerInfo)
    {h₀ : SessionManager} (hne : ∀ id j, (received buf peerInfo).sessionId = .ok id →
      h₀.getSecureSession id = some j → SessionRef.secured j ≠ ref) :
    Triple (fun h => h = h₀ ∧ Has ref F h) (onSecureMessage A buf peerInfo)
      (fun _ => Has ref F) (Has ref F) := by
  refine Triple.bind (Q := fun ref' h => Has ref F h ∧ ref' ≠ ref) ?_ fun ref' => ?_
  · refine Triple.after_lift (fun _ hh => hh.2) fun id hid => ?_
    rintro h ⟨rfl, hh⟩
    rw [run_bind_ok (run_get h)]
    cases hfound : h.getSecureSession id with
    | some j => exact ⟨hh, hne id j hid hfound⟩
    | none =>
      refine Triple.bind (has_newSession _ _ true) (fun ref' => ?_) h hh
      rintro h' ⟨hh', hne'⟩
      exact Triple.bind (has_learnPeer hne' _) (fun _ => Triple.pure _ fun _ hh'' => ⟨hh'', hne'⟩)
        h' hh'
  · rintro h ⟨hh, hne'⟩
    exact Keeps.bind Keeps.get (fun _ => Keeps.bind (Keeps.lift _) fun _ =>
      Keeps.bind (has_updatePeer hF fun href => absurd href hne') fun _ => Keeps.pure _) h hh

/-- An unsecured datagram goes to an unsecured session. -/
theorem has_onUnsecuredMessage {j : Nat} (hF : Lasting F) (msg : Message) (peerInfo : PeerInfo) :
    Keeps (Has (.secured j) F) (onUnsecuredMessage msg peerInfo) := by
  have hlearn (i : Nat) : Triple (Has (.secured j) F)
      (do learnPeer (.unsecured i) msg; return .unsecured i : ManagerM SessionRef)
      (fun ref' h => Has (.secured j) F h ∧ ref' ≠ .secured j) (Has (.secured j) F) := by
    have hne : SessionRef.unsecured i ≠ .secured j := nofun
    exact Triple.bind (has_learnPeer hne msg) fun _ => Triple.pure _ fun _ hh => ⟨hh, hne⟩
  refine Triple.bind (Q := fun ref' h => Has (.secured j) F h ∧ ref' ≠ .secured j) ?_ fun ref' => ?_
  · refine Keeps.after (Keeps.lift _) (fun _ hh => hh) fun peerNodeId => ?_
    refine Keeps.after Keeps.get (fun _ hh => hh) fun h => ?_
    refine Keeps.after (Keeps.lift _) (fun _ hh => hh) fun found => ?_
    cases found with
    | some i =>
      dsimp only
      split
      · exact hlearn i
      · exact Triple.pure _ fun _ hh => ⟨hh, nofun⟩
    | none =>
      refine Triple.bind (has_newSession _ _ false) fun ref' => ?_
      rintro h' ⟨hh, hne⟩
      exact Triple.bind (has_learnPeer hne msg) (fun _ => Triple.pure _ fun _ hh' => ⟨hh', hne⟩) h' hh
  · rintro h ⟨hh, hne⟩
    exact Keeps.bind (has_updatePeer hF fun href => absurd href hne) (fun _ => Keeps.pure _) h hh

end Having

/-- The secure session a datagram is found for, if there is one. -/
def receiver (h : SessionManager) (buf : Bytes) (peerInfo : PeerInfo) : Option Nat :=
  match (rawMessage buf peerInfo).isUnencrypted, (rawMessage buf peerInfo).sessionId with
  | .ok false, .ok id => h.getSecureSession id
  | _, _ => none

theorem receiver_eq_some {h : SessionManager} {buf : Bytes} {peerInfo : PeerInfo} {j : Nat} :
    h.receiver buf peerInfo = some j ↔ (rawMessage buf peerInfo).isUnencrypted = .ok false ∧
      ∃ id, (rawMessage buf peerInfo).sessionId = .ok id ∧ h.getSecureSession id = some j := by
  unfold receiver
  constructor
  · intro hr
    split at hr
    · rename_i id hu hid
      exact ⟨hu, id, hid, hr⟩
    · cases hr
  · rintro ⟨hu, id, hid, hr⟩
    rw [hu, hid]
    exact hr

/-- **A datagram that is found for another session**, or for none, leaves this one. -/
theorem has_onMessage {j : Nat} {F : Session → Prop} (hF : Lasting F) (A : Aead) {buf : Bytes}
    {peerInfo : PeerInfo} {h : SessionManager} (hh : Has (.secured j) F h)
    (hne : h.receiver buf peerInfo ≠ some j) :
    Has (.secured j) F (final ((onMessage A buf peerInfo).run h)) := by
  cases hu : (rawMessage buf peerInfo).isUnencrypted with
  | error e =>
    simp only [onMessage, hu]
    exact hh
  | ok unencrypted =>
    simp only [onMessage, hu]
    rw [run_bind_ok (run_lift_ok unencrypted h)]
    cases unencrypted with
    | true => exact (has_onUnsecuredMessage hF _ peerInfo).final hh
    | false =>
      refine Triple.final (has_onSecureMessage hF A buf peerInfo fun id k hid hfound => ?_) ⟨rfl, hh⟩
      rintro heq
      cases heq
      exact hne (receiver_eq_some.mpr ⟨hu, id, hid, hfound⟩)

/-! ## 4. The address of a secure session -/

/-- A secure session on the server's socket, with this address of its peer. -/
structure AtAddress (peerInfo : Option PeerInfo) (s : Session) : Prop where
  secure : s.secure = true
  transport : s.transport = .server
  peerInfo : s.peerInfo = peerInfo
  nodeId : Session.NodeIdFits s.peerNodeId

theorem lasting_atAddress (peerInfo : Option PeerInfo) : Lasting (AtAddress peerInfo) where
  counted _ _ hs := ⟨hs.secure, hs.transport, hs.peerInfo, hs.nodeId⟩
  sent A msg := Keeps.of_final fun st hst => by
    have hnode := (Session.nodeId_sendMessage Session.fits_allocatePeerNodeId A msg).final hst.nodeId
    obtain ⟨counter, tx, id, hsame⟩ :=
      (Session.sameBut_sendMessage A st.session msg).final (Session.SameBut.refl st)
    unfold Session.NodeIdHas at hnode
    rw [hsame] at hnode ⊢
    exact ⟨hst.secure, hst.transport, hst.peerInfo, hnode⟩
  keyed hinit hs := by
    unfold Session.initFromSecret at hinit
    split at hinit
    · cases hinit
      exact ⟨hs.secure, hs.transport, hs.peerInfo, hs.nodeId⟩
    · cases hinit

/-- The address alone. -/
theorem lasting_peerInfo (peerInfo : Option PeerInfo) : Lasting fun s => s.peerInfo = peerInfo where
  counted _ _ hs := hs
  sent A msg := Keeps.of_final fun st hst => by
    obtain ⟨counter, tx, id, hsame⟩ :=
      (Session.sameBut_sendMessage A st.session msg).final (Session.SameBut.refl st)
    rw [hsame]
    exact hst
  keyed hinit hs := (peerInfo_initFromSecret hinit).trans hs

/-- **A new secure session has no address.** -/
theorem atAddress_newSession {j : Nat} (l p : JsValue) :
    Triple (fun h => h.sessionsSecured.length = j) (newSession l p)
      (fun _ => Has (.secured j) (AtAddress none)) (Has (.secured j) (AtAddress none)) := by
  rintro h rfl
  exact ⟨_, List.getElem?_concat_length, rfl, rfl, rfl, nofun⟩

theorem atAddress_createSecureSession {j : Nat} (hkdf : SessionCryptoContext.Hkdf) (l p : JsValue)
    (secret : Bytes) : Triple (fun h => h.sessionsSecured.length = j)
      (createSecureSession hkdf l p secret) (fun _ => Has (.secured j) (AtAddress none))
      (Has (.secured j) (AtAddress none)) :=
  Triple.bind (atAddress_newSession l p) fun ref =>
    has_initPaseSession (lasting_atAddress none) hkdf secret ref

/-- **A datagram that the session is found for leaves its sender there.** -/
theorem atAddress_onMessage {j : Nat} {peer : Option PeerInfo} (A : Aead) {buf : Bytes}
    {peerInfo : PeerInfo} {h : SessionManager} (hh : Has (.secured j) (AtAddress peer) h)
    (hr : h.receiver buf peerInfo = some j) :
    Has (.secured j) (AtAddress (some peerInfo)) (final ((onMessage A buf peerInfo).run h)) := by
  obtain ⟨hu, id, hid, hfound⟩ := receiver_eq_some.mp hr
  obtain ⟨s, hs, hat⟩ := hh
  obtain ⟨c, hc⟩ := Option.isSome_iff_exists.mp (s.context.trans hat.secure)
  rw [onSecureMessage_found hu hid hfound hs hc]
  have hmod (f : Session → Session) (hf : AtAddress (some peerInfo) (f s)) :
      Has (.secured j) (AtAddress (some peerInfo)) (h.modifySession f (.secured j)) := by
    refine ⟨f s, ?_, hf⟩
    rw [session?_modifySession, hs, if_pos rfl]
    rfl
  cases hcounter : (opened A s c buf peerInfo).messageCounter with
  | ok counter =>
    rw [dispatch_ok hcounter]
    exact hmod _ ⟨hat.secure, hat.transport, rfl, hat.nodeId⟩
  | error e =>
    rw [dispatch_error hcounter]
    exact hmod _ ⟨hat.secure, hat.transport, rfl, hat.nodeId⟩

end SessionManager

/-! ## 5. The events of a node -/

namespace Node

section Having

variable {ref : SessionRef} {F : Session → Prop}

theorem has_onSessions {α : Type} {m : ManagerM α} (hm : Keeps (SessionManager.Has ref F) m) :
    Keeps (fun n : Node => SessionManager.Has ref F n.sessions) (onSessions m) :=
  Keeps.zoom_of hm (fun _ hn => hn) fun _ _ _ hh => hh

theorem has_sendMessage (hF : SessionManager.Lasting F) (A : Aead) (i : Nat) (msg : Message) :
    Keeps (fun n : Node => SessionManager.Has ref F n.sessions) (sendMessage A i msg) := by
  refine Keeps.bind Keeps.get fun n => ?_
  cases n.exchanges[i]? with
  | none => exact Keeps.throw _
  | some ex =>
    exact Keeps.bind (Keeps.lift _) fun msg => Keeps.bind (Keeps.lift _) fun _ =>
      has_onSessions (SessionManager.has_sendOn hF A ex.session msg)

/-- What a datagram does to the sessions. -/
theorem final_onDatagram_sessions (A : Aead) (buf : Bytes) (peerInfo : PeerInfo) (n : Node) :
    (final ((onDatagram A buf peerInfo).run n)).sessions =
      final ((SessionManager.onMessage A buf peerInfo).run n.sessions) := by
  unfold onDatagram
  cases hon : (SessionManager.onMessage A buf peerInfo).run n.sessions with
  | ok e h =>
    have hrun : (onSessions (SessionManager.onMessage A buf peerInfo)).run n =
        .ok e { n with sessions := h } := run_zoom_ok hon
    rw [run_bind_ok hrun, sessions_onSessionMessage]
    rfl
  | error e h =>
    have hrun : (onSessions (SessionManager.onMessage A buf peerInfo)).run n =
        .error e { n with sessions := h } := run_zoom_error hon
    rw [run_bind_error hrun]
    rfl

/-- **Every event but a datagram leaves the session the property.** -/
theorem has_step (hF : SessionManager.Lasting F) (A : Aead) (hkdf : SessionCryptoContext.Hkdf)
    {n : Node} {e : NodeEvent} (hn : SessionManager.Has ref F n.sessions)
    (he : ∀ buf peerInfo, e ≠ .datagram buf peerInfo) :
    SessionManager.Has ref F (step A hkdf n e).sessions := by
  cases e with
  | datagram buf peerInfo => exact absurd rfl (he buf peerInfo)
  | handshake l p secret =>
    exact (has_onSessions (SessionManager.has_createSecureSession hF hkdf l p secret)).final hn
  | begin transport peerInfo =>
    obtain ⟨s, o, hrun⟩ := newExchangeTo_run transport peerInfo n
    show SessionManager.Has ref F (final ((newExchangeTo transport peerInfo).run n)).sessions
    rw [hrun]
    obtain ⟨t, ht, hFt⟩ := hn
    have hlast : n.sessions.session? (.unsecured n.sessions.sessionsUnsecured.length) = none :=
      List.getElem?_eq_none (Nat.le_refl _)
    have hne := SessionManager.Has.ne_of_none ⟨t, ht, hFt⟩ hlast
    have hpush : SessionManager.Has ref F { n.sessions with
        sessionsUnsecured := n.sessions.sessionsUnsecured ++ [s], outside := o } := by
      refine ⟨t, ?_, hFt⟩
      cases ref with
      | secured i => exact ht
      | unsecured i => exact (List.getElem?_append_left (List.getElem?_eq_some_iff.mp ht).1).trans ht
    exact hpush.modifySession fun href => absurd href hne
  | beginOn ref => exact hn
  | setFlags i isReliable isAck => exact hn
  | send i msg => exact (has_sendMessage hF A i msg).final hn

end Having

/-- The sender of a datagram that comes on the secure session at the place. -/
def sender (j : Nat) (n : Node) : NodeEvent → Option PeerInfo
  | .datagram buf peerInfo =>
    if n.sessions.receiver buf peerInfo = some j then some peerInfo else none
  | _ => none

/-- **Every event leaves a secure session the address it has**, unless it is a datagram that comes on
    the session: then it is its sender's. -/
theorem atAddress_step {j : Nat} {peer : Option PeerInfo} (A : Aead)
    (hkdf : SessionCryptoContext.Hkdf) (n : Node) (e : NodeEvent)
    (hn : SessionManager.Has (.secured j) (SessionManager.AtAddress peer) n.sessions) :
    SessionManager.Has (.secured j) (SessionManager.AtAddress ((n.sender j e).or peer))
      (step A hkdf n e).sessions := by
  have hlasting := SessionManager.lasting_atAddress peer
  cases e with
  | datagram buf peerInfo =>
    show SessionManager.Has _ _ (final ((onDatagram A buf peerInfo).run n)).sessions
    rw [final_onDatagram_sessions]
    dsimp only [sender]
    split
    · rename_i hr
      exact SessionManager.atAddress_onMessage A hn hr
    · rename_i hr
      exact SessionManager.has_onMessage hlasting A hn hr
  | _ => exact has_step hlasting A hkdf hn nofun

end Node

end Matternode.Messaging
