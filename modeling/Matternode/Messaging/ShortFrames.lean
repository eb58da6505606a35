/-
  File:      Matternode/Messaging/ShortFrames.lean
  Subject:   Datagrams that are too short for the fields their flags announce.

  A getter of Message throws where the buffer ends before its field, and nothing between the socket
  and the handlers catches. Before that the tables may have changed: a session is made before its
  source node id is read, and takes the address before the counter is read.

  * `announcedLength`, `IsComplete` -- the length a frame needs for what its flags announce;
  * `frameRead` -- the frame as it is read: as it came, or decrypted;
  * `Heard` -- a session that has heard one datagram more;
  * `onMessage_ok_changes` -- **a datagram that is handled always changes the session tables**;
  * `onMessage_ok_of_complete`, `onSessionMessage_ok` -- a complete frame is handled;
  * `handles_iff` -- **in every state reached, a datagram is handled as it should exactly when its
    frame is complete.**
-/
import Matternode.Messaging.Dispatch
import Matternode.Messaging.Searchable

namespace Matternode.Messaging

open Base Js

/-! ## 1. What the flags announce -/

namespace Message

/-- The header with its node ids, the exchange header, the vendor id and the acknowledged counter,
    as far as the flags announce them. -/
def announcedLength (m : Message) : Except JsError Nat := do
  let offset ← m.payloadOffset
  let vendor ← m.vflag
  let ack ← m.aflag
  return offset + exchangeHeaderMinSize + (if vendor then 2 else 0) +
    (if ack then ackCounterSize else 0)

/-- A frame that is long enough for what its flags announce. -/
def IsComplete (m : Message) : Prop := ∃ n, m.announcedLength = .ok n ∧ n ≤ m.buffer.length

/-- A complete frame holds its exchange header. -/
theorem IsComplete.offset {m : Message} (h : m.IsComplete) :
    ∃ off, m.payloadOffset = .ok off ∧ off + 6 ≤ m.buffer.length := by
  obtain ⟨n, hn, hlen⟩ := h
  obtain ⟨off, hoff, hrest⟩ := bind_eq_ok hn
  obtain ⟨vendor, -, hrest⟩ := bind_eq_ok hrest
  obtain ⟨ack, -, hret⟩ := bind_eq_ok hrest
  refine ⟨off, hoff, ?_⟩
  have hsum := Except.ok.inj hret
  unfold exchangeHeaderMinSize at hsum
  omega

theorem IsComplete.protocolId {m : Message} (h : m.IsComplete) :
    ∃ protocolId, m.protocolId = .ok protocolId := by
  obtain ⟨off, hoff, hlen⟩ := h.offset
  have hpay : m.payload = .ok (m.buffer.drop off) := by
    unfold payload
    rw [hoff]
    exact congrArg Except.ok (subarrayFrom_nat ..)
  have hread : readUInt16LE (m.buffer.drop off) 4 = .ok _ :=
    readUIntLE_of_le (by rw [List.length_drop]; omega)
  unfold Message.protocolId
  rw [hpay]
  exact ⟨_, hread⟩

theorem IsComplete.iflag {m : Message} (h : m.IsComplete) : ∃ iflag, m.iflag = .ok iflag := by
  obtain ⟨protocolId, hp⟩ := h.protocolId
  obtain ⟨-, ⟨flags, hflags⟩, -⟩ := protocolId_eq_ok hp
  unfold Message.iflag exchangeFlag
  rw [hflags]
  exact ⟨_, rfl⟩

/-- The destination stands before the payload. -/
theorem IsComplete.destinationNodeId {m : Message} (h : m.IsComplete) :
    ∃ destination, m.destinationNodeId = .ok destination := by
  obtain ⟨off, hoff, hlen⟩ := h.offset
  obtain ⟨b, hb, hrest⟩ := bind_eq_ok hoff
  obtain ⟨dsiz, hdsiz, hret⟩ := bind_eq_ok hrest
  have hdest : m.destinationOffset = .ok (messageHeaderMinSize + if b then messageNodeIdSize else 0) := by
    unfold destinationOffset
    rw [hb]
    rfl
  unfold Message.destinationNodeId
  rw [hdsiz, hdest]
  by_cases hone : dsiz = 1
  · have hsum := Except.ok.inj hret
    rw [if_pos hone] at hsum
    have hread : readBigUInt64LE m.buffer (messageHeaderMinSize + if b then messageNodeIdSize else 0) =
        .ok _ := readUIntLE_of_le (by unfold messageNodeIdSize; omega)
    simp only [bind, Except.bind, if_pos hone]
    exact ⟨_, hread⟩
  · simp only [bind, Except.bind, if_neg hone]
    exact ⟨_, rfl⟩

end Message

namespace SessionManager

/-! ## 2. The frame as it is read -/

/-- The key a secure datagram is opened with: of the session found with its id, or of a new one. -/
def openingKey (h : SessionManager) (id : Nat) : Bytes :=
  ((h.getSecureSession id).bind (h.sessionsSecured[·]?)).elim (SessionCryptoContext.default.keys 0)
    fun s => (s.cryptoContext.getD .default).keys (if s.initiator then 1 else 0)

/-- The frame that is handed on: as it came, or decrypted where it authenticates. -/
def frameRead (A : Aead) (h : SessionManager) (buf : Bytes) (peerInfo : PeerInfo) :
    Except JsError Message := do
  if ← (rawMessage buf peerInfo).isUnencrypted then return rawMessage buf peerInfo
  else
    let id ← (received buf peerInfo).sessionId
    return { received buf peerInfo with
      buffer := (MsgCodec.decrypt A buf (h.openingKey id)).getD buf }

/-! ## 3. A datagram that is handled changes the tables -/

/-- Every session of the first tables stands in the second, and has heard no less. -/
def Hears (h h' : SessionManager) : Prop :=
  ∀ ref s, h.session? ref = some s →
    ∃ s', h'.session? ref = some s' ∧ s.metricRxCount ≤ s'.metricRxCount

theorem Hears.refl (h : SessionManager) : Hears h h := fun _ s hs => ⟨s, hs, Nat.le_refl _⟩

/-- A change that does not take back what a session has heard. -/
theorem Hears.modifySession {h h' : SessionManager} (hh : Hears h h') {f : Session → Session}
    (hf : ∀ s, s.metricRxCount ≤ (f s).metricRxCount) (ref : SessionRef) :
    Hears h (h'.modifySession f ref) := by
  intro ref' s hs
  obtain ⟨s', hs', hle⟩ := hh ref' s hs
  rw [session?_modifySession, hs']
  by_cases heq : ref = ref'
  · exact ⟨f s', by simp [heq], hle.trans (hf s')⟩
  · exact ⟨s', by simp [heq], hle⟩

theorem hears_modify (h : SessionManager) {f : Session → Session}
    (hf : ∀ s, s.metricRxCount ≤ (f s).metricRxCount) (ref : SessionRef) :
    Keeps (Hears h) (modify fun h => h.modifySession f ref : ManagerM PUnit) :=
  Keeps.modify fun _ hh => hh.modifySession hf ref

theorem hears_newSession (h : SessionManager) (l p : JsValue) (isSecure : Bool) :
    Keeps (Hears h) (newSession l p isSecure) := by
  intro h' hh
  cases isSecure with
  | true =>
    obtain ⟨t, o, -, hr⟩ := newSession_secured l p h'
    rw [hr]
    intro ref s hs
    obtain ⟨s', hs', hle⟩ := hh ref s hs
    refine ⟨s', ?_, hle⟩
    cases ref with
    | secured i => exact (List.getElem?_append_left (List.getElem?_eq_some_iff.mp hs').1).trans hs'
    | unsecured i => exact hs'
  | false =>
    obtain ⟨t, o, -, hr⟩ := newSession_unsecured l p h'
    rw [hr]
    intro ref s hs
    obtain ⟨s', hs', hle⟩ := hh ref s hs
    refine ⟨s', ?_, hle⟩
    cases ref with
    | secured i => exact hs'
    | unsecured i => exact (List.getElem?_append_left (List.getElem?_eq_some_iff.mp hs').1).trans hs'

theorem hears_learnPeer (h : SessionManager) (ref : SessionRef) (msg : Message) :
    Keeps (Hears h) (learnPeer ref msg) :=
  Keeps.bind (Keeps.lift _) fun source =>
    hears_modify h (f := fun s => { s with peerNodeId := some source }) (fun _ => Nat.le_refl _) ref

theorem hears_unsecuredSessionFor (h : SessionManager) (msg : Message) (peerInfo : PeerInfo) :
    Keeps (Hears h) (unsecuredSessionFor msg peerInfo) := by
  refine Keeps.bind (Keeps.lift _) fun peerNodeId => Keeps.bind Keeps.get fun t => ?_
  refine Keeps.bind (Keeps.lift _) fun found => ?_
  cases found with
  | some i =>
    dsimp only
    split
    · exact Keeps.bind (hears_learnPeer h _ msg) fun _ => Keeps.pure _
    · exact Keeps.pure _
  | none =>
    exact Keeps.bind (hears_newSession h _ _ _) fun ref =>
      Keeps.bind (hears_learnPeer h ref msg) fun _ => Keeps.pure _

theorem hears_secureSessionFor (h : SessionManager) (msg : Message) :
    Keeps (Hears h) (secureSessionFor msg) := by
  refine Keeps.bind (Keeps.lift _) fun sessionId => Keeps.bind Keeps.get fun t => ?_
  cases t.getSecureSession sessionId with
  | some i => exact Keeps.pure _
  | none =>
    exact Keeps.bind (hears_newSession h _ _ _) fun ref =>
      Keeps.bind (hears_learnPeer h ref msg) fun _ => Keeps.pure _

/-- The session has heard more in the second tables than in the first, if it stood there. -/
def Heard (h : SessionManager) (ref : SessionRef) (h' : SessionManager) : Prop :=
  ∀ s, h.session? ref = some s → ∃ s', h'.session? ref = some s' ∧
    s.metricRxCount < s'.metricRxCount

theorem heard_updatePeer (h : SessionManager) (ref : SessionRef) (msg : Message) :
    Triple (Hears h) (updatePeer ref msg) (fun _ => Heard h ref) fun _ => True := by
  intro h' hh
  cases hc : msg.messageCounter with
  | error e =>
    rw [updatePeer_error hc]
    trivial
  | ok counter =>
    rw [updatePeer_ok hc]
    intro s hs
    obtain ⟨s', hs', hle⟩ := hh ref s hs
    refine ⟨hear msg counter s', ?_, Nat.lt_succ_of_le hle⟩
    rw [session?_modifySession, hs']
    simp

/-- The session of a datagram that is handled has heard it. -/
theorem heard_onMessage (A : Aead) (h : SessionManager) (buf : Bytes) (peerInfo : PeerInfo) :
    Triple (Hears h) (onMessage A buf peerInfo) (fun e => Heard h e.session) fun _ => True := by
  refine Triple.after_lift (fun _ _ => trivial) fun unencrypted _ => ?_
  have hafter (ref : SessionRef) (name : EventName) (msg : Message) : Triple (Hears h)
      (do updatePeer ref msg; return ⟨name, msg, ref⟩ : ManagerM Emission)
      (fun e => Heard h e.session) fun _ => True :=
    Triple.bind (heard_updatePeer h ref msg) fun _ => Triple.pure _ fun _ hh => hh
  cases unencrypted with
  | true =>
    exact Keeps.after (hears_unsecuredSessionFor h _ peerInfo) (fun _ _ => trivial) fun ref =>
      hafter ref _ _
  | false =>
    refine Keeps.after (hears_secureSessionFor h _) (fun _ _ => trivial) fun ref => ?_
    refine Keeps.after Keeps.get (fun _ _ => trivial) fun t => ?_
    exact Triple.after_lift (fun _ _ => trivial) fun decrypted _ => hafter ref _ _

/-- A datagram that is handled goes to a session of the tables. -/
theorem session_of_onMessage {A : Aead} {h h' : SessionManager} (hw : h.WellFormed) {buf : Bytes}
    {peerInfo : PeerInfo} {e : Emission} (hrun : (onMessage A buf peerInfo).run h = .ok e h') :
    ∃ s, h'.session? e.session = some s := by
  obtain ⟨unencrypted, t, hu, -⟩ := run_bind_eq_ok hrun
  obtain ⟨hm, -⟩ := run_lift_eq_ok hu
  cases unencrypted with
  | true =>
    obtain ⟨-, -, -, -, -, -, hs⟩ := onMessage_unsecured_eq_ok hm hrun
    exact hs
  | false =>
    obtain ⟨k, s, hk, hs⟩ := onMessage_secure_eq_ok hw hm hrun
    exact ⟨s, hk ▸ hs⟩

/-- **A datagram that is handled changes the session tables**: its session has heard it. -/
theorem onMessage_ok_changes {A : Aead} {h h' : SessionManager} (hw : h.WellFormed) {buf : Bytes}
    {peerInfo : PeerInfo} {e : Emission} (hrun : (onMessage A buf peerInfo).run h = .ok e h') :
    ¬ (h'.sessionsSecured = h.sessionsSecured ∧ h'.sessionsUnsecured = h.sessionsUnsecured) := by
  rintro ⟨hsec, hunsec⟩
  have hsame : h'.session? e.session = h.session? e.session := by
    cases e.session with
    | secured i => exact congrArg (·[i]?) hsec
    | unsecured i => exact congrArg (·[i]?) hunsec
  obtain ⟨s, hs⟩ := session_of_onMessage hw hrun
  obtain ⟨s', hs', hlt⟩ := (heard_onMessage A h buf peerInfo).ok (Hears.refl h) hrun s (hsame ▸ hs)
  rw [hs] at hs'
  cases hs'
  exact Nat.lt_irrefl _ hlt

/-! ## 4. A complete frame is handled -/

theorem onMessage_ok_of_complete {A : Aead} (hA : A.TagSized) {h : SessionManager}
    (hw : h.WellFormed) (hsearch : h.Searchable) {buf : Bytes} {peerInfo : PeerInfo} {m : Message}
    (hm : h.frameRead A buf peerInfo = .ok m) (hc : m.IsComplete) :
    ∃ e h', (onMessage A buf peerInfo).run h = .ok e h' ∧ e.msg = m := by
  obtain ⟨protocolId, hp⟩ := hc.protocolId
  obtain ⟨-, -, -, h8, source, hsource⟩ := Message.protocolId_eq_ok hp
  obtain ⟨counter, hcounter⟩ := Message.messageCounter_of_le h8
  obtain ⟨unencrypted, hu, hrest⟩ := bind_eq_ok hm
  cases unencrypted with
  | true =>
    cases hrest
    obtain ⟨iflag, hi⟩ := hc.iflag
    obtain ⟨destination, hdest⟩ := hc.destinationNodeId
    obtain ⟨peerNodeId, hpeer⟩ : ∃ id, unsecuredPeer (rawMessage buf peerInfo) = .ok id := by
      unfold unsecuredPeer
      rw [hi]
      cases iflag with
      | true => exact ⟨source, hsource⟩
      | false => exact ⟨destination, hdest⟩
    obtain ⟨found, hfound⟩ := hsearch.getUnsecureSession peerInfo peerNodeId
    obtain ⟨h', hrun⟩ := onMessage_unsecured_ok (A := A) hu hpeer hfound hsource hcounter
    exact ⟨_, h', hrun, rfl⟩
  | false =>
    obtain ⟨id, hid, hret⟩ := bind_eq_ok hrest
    have hu' : (received buf peerInfo).isUnencrypted = .ok false := hu
    cases hfound : h.getSecureSession id with
    | some i =>
      obtain ⟨⟨s, hs, -⟩, -⟩ := getSecureSession_eq_some.mp hfound
      obtain ⟨c, hctx⟩ := hw.cryptoContext hs
      have hopened : opened A s c buf peerInfo = m := by
        rw [← Except.ok.inj hret]
        simp [opened, openingKey, hfound, hs, hctx]
      rw [onSecureMessage_found hu' hid hfound hs hctx, hopened, dispatch_ok hcounter]
      exact ⟨_, _, rfl, rfl⟩
    | none =>
      -- the source node id of the frame as it came, which a new session is to learn
      obtain ⟨source', hsrc⟩ : ∃ id, (received buf peerInfo).sourceNodeId = .ok id := by
        by_cases h16 : 16 ≤ buf.length
        · obtain ⟨b, hb⟩ := Message.sflag_of_pos (m := received buf peerInfo)
            (show 0 < buf.length by omega)
          exact Message.sourceNodeId_of_le hb fun _ => h16
        · have hshort : m = received buf peerInfo := by
            rw [← Except.ok.inj hret, MsgCodec.decrypt_of_short hA (by omega)]
            rfl
          exact ⟨source, hshort ▸ hsource⟩
      obtain ⟨s, o, hnew, hrun⟩ := onSecureMessage_new (A := A) hu' hid hfound hsrc
      have hopened : opened A s .default buf peerInfo = m := by
        rw [← Except.ok.inj hret]
        simp [opened, openingKey, hfound, hnew.initiator]
      rw [hrun, hopened, dispatch_ok hcounter]
      exact ⟨_, _, rfl, rfl⟩

end SessionManager

namespace Node

theorem onSessionMessage_ok {n : Node} {msg : Message} (ref : SessionRef) (hc : msg.IsComplete) :
    ∃ d n', (onSessionMessage msg ref).run n = .ok d n' := by
  obtain ⟨protocolId, hp⟩ := hc.protocolId
  obtain ⟨⟨exchangeId, hx⟩, -, -, h8, -⟩ := Message.protocolId_eq_ok hp
  obtain ⟨sessionId, hs⟩ := Message.sessionId_of_le (show 3 ≤ msg.buffer.length by omega)
  obtain ⟨iflag, hi⟩ := hc.iflag
  rcases getExchange_cases hs hx hi with ⟨i, ex, -, -, hfound⟩ | ⟨-, hnone⟩
  · obtain ⟨counter, -, hrun⟩ := onSessionMessage_found hs hx hi hfound
    exact ⟨_, _, hrun⟩
  · cases iflag with
    | false => exact ⟨_, _, onSessionMessage_dropped hs hx hi hnone⟩
    | true =>
      obtain ⟨counter, rflag, hrun⟩ := onSessionMessage_created hs hx hi hnone hp
      exact ⟨_, _, hrun⟩

/-! ## 5. Every datagram in every state -/

/-- The frame is too short for the fields its flags announce, as far as they can be read. -/
def TooShort (A : Aead) (n : Node) (buf : Bytes) (peerInfo : PeerInfo) : Prop :=
  ¬ ∃ m, n.sessions.frameRead A buf peerInfo = .ok m ∧ m.IsComplete

/-- The handler returns, and a frame that is too short is dropped with every table as it was. -/
def Handles (A : Aead) (n : Node) (buf : Bytes) (peerInfo : PeerInfo) : Prop :=
  ∃ d n', (onDatagram A buf peerInfo).run n = .ok d n' ∧
    (n.TooShort A buf peerInfo →
      n'.sessions.sessionsSecured = n.sessions.sessionsSecured ∧
      n'.sessions.sessionsUnsecured = n.sessions.sessionsUnsecured ∧ n'.exchanges = n.exchanges)

theorem handles_iff_of_wellFormed {A : Aead} (hA : A.TagSized) {n : Node} (hw : n.WellFormed)
    (hsearch : n.Searchable) (buf : Bytes) (peerInfo : PeerInfo) :
    n.Handles A buf peerInfo ↔ ¬ n.TooShort A buf peerInfo := by
  constructor
  · rintro ⟨d, n', hrun, hdropped⟩ hshort
    obtain ⟨hsec, hunsec, -⟩ := hdropped hshort
    obtain ⟨e, n1, hsession, hrest⟩ := run_bind_eq_ok hrun
    obtain ⟨h1, hmsg, rfl⟩ := run_zoom_eq_ok hsession
    have hkept := sessions_onSessionMessage e.msg e.session { n with sessions := h1 }
    rw [hrest] at hkept
    simp only [final_ok] at hkept
    rw [hkept] at hsec hunsec
    exact SessionManager.onMessage_ok_changes hw hmsg ⟨hsec, hunsec⟩
  · intro hlong
    obtain ⟨m, hm, hc⟩ := not_not.mp hlong
    obtain ⟨e, h', hmsg, rfl⟩ :=
      SessionManager.onMessage_ok_of_complete hA hw hsearch hm hc
    have hsession : (onSessions (SessionManager.onMessage A buf peerInfo)).run n =
        .ok e { n with sessions := h' } := run_zoom_ok hmsg
    obtain ⟨d, n', hrun⟩ := onSessionMessage_ok (n := { n with sessions := h' })
      e.session hc
    exact ⟨d, n', (run_bind_ok hsession).trans hrun, fun hshort => absurd hshort hlong⟩

/-- **In every state of every run, a datagram is handled as it should exactly when its frame is not
    too short**: a frame that is either throws or changes the session tables. -/
theorem handles_iff {A : Aead} (hA : A.TagSized) (hkdf : SessionCryptoContext.Hkdf)
    (entropy : Nat → UInt8) (es : List NodeEvent) (buf : Bytes) (peerInfo : PeerInfo) :
    (run (step A hkdf) (init entropy) es).Handles A buf peerInfo ↔
      ¬ (run (step A hkdf) (init entropy) es).TooShort A buf peerInfo := by
  have hw := run_invariant (step A hkdf) (wellFormed_step A hkdf) (wellFormed_init entropy) es
  have hsearch := run_invariant (step A hkdf) (searchable_step A hkdf)
    (show (init entropy).Searchable from SessionManager.searchable_init entropy) es
  exact handles_iff_of_wellFormed hA hw hsearch buf peerInfo

theorem handles_iff_sample :
    (run (step Aead.keyTag SessionManager.sampleHkdf) (init fun _ => 0)
      [.handshake (.nat 1) (.nat 1) []]).Handles Aead.keyTag SessionManager.sampleDatagram
      samplePeer :=
  (handles_iff Aead.keyTag_tagSized SessionManager.sampleHkdf (fun _ => 0) _ _ _).mpr
    (not_not.mpr ⟨_, rfl, _, rfl, by decide⟩)

/-- **A datagram of four bytes** with a session id begins a session, and its counter is missing. -/
theorem short_datagram_throws :
    ¬ ∀ (A : Aead) (hkdf : SessionCryptoContext.Hkdf) (entropy : Nat → UInt8)
        (es : List NodeEvent) (buf : Bytes) (peerInfo : PeerInfo), A.TagSized →
        (run (step A hkdf) (init entropy) es).Handles A buf peerInfo := by
  intro hclaim
  obtain ⟨d, n', hrun, -⟩ := hclaim Aead.keyTag SessionManager.sampleHkdf (fun _ => 0) []
    [0, 1, 0, 0] samplePeer Aead.keyTag_tagSized
  have herror : ∃ n', (onDatagram Aead.keyTag [0, 1, 0, 0] samplePeer).run (init fun _ => 0) =
      .error .rangeError n' := ⟨_, rfl⟩
  obtain ⟨n'', hn⟩ := herror
  exact absurd (hrun.symm.trans hn) nofun

end Node

end Matternode.Messaging
