/-
  File:      Matternode/Messaging/Replies.lean
  Subject:   Where the messages go of an exchange that an unsecured datagram began.

  A session notes the source of a datagram as the node id of its peer, and `sendMessage` asks whether
  there is one by its truth value. The id 0 is not taken for one, and the line that would say so
  names a variable that is not declared.

  * `KnowsPeer`, `knows_step` -- a session keeps the address and the node id of its peer in every
    run, unless the id is 0;
  * `Answering`, `answering_step` -- an exchange keeps its session and its role;
  * `RepliesTo`, `CanAnswer`, `repliesTo_iff` -- **when a message goes back to the requester**.
-/
import Matternode.Messaging.OneSession
import Matternode.Messaging.Wire

namespace Matternode.Messaging

open Base Js

/-! ## 1. A peer that is known -/

namespace Session

variable {nodeId : Nat}

/-- No id is allocated where there is one, unless it is 0. -/
theorem names_allocatePeerNodeId (hpos : 0 < nodeId) :
    Keeps (NodeIdHas (· = some nodeId)) allocatePeerNodeId := by
  intro st hst
  have hid : st.session.peerNodeId = some nodeId := hst
  have hhas : st.session.hasPeerNodeId = true := by
    unfold hasPeerNodeId
    rw [hid, Option.getD_some, decide_eq_true_eq]
    omega
  unfold allocatePeerNodeId
  rw [run_bind_ok (run_get st), hhas]
  exact hst

end Session

namespace SessionManager

/-- A session with the address and the node id of a peer. -/
abbrev Knows (peer : PeerInfo) (nodeId : Nat) (s : Session) : Prop :=
  s.peerInfo = some peer ∧ s.peerNodeId = some nodeId

/-- The unsecured session at this place has the address and the node id of a peer. -/
def KnowsPeer (i : Nat) (peer : PeerInfo) (nodeId : Nat) (h : SessionManager) : Prop :=
  Has (.unsecured i) (Knows peer nodeId) h

section Knowing

variable {i : Nat} {peer : PeerInfo} {nodeId : Nat}

/-- **Sending leaves a peer known**, unless its node id is 0. -/
theorem lasting_knows (hpos : 0 < nodeId) : Lasting (Knows peer nodeId) where
  counted _ _ hs := hs
  sent A msg := Keeps.of_final fun st hst => by
    have hnode := (Session.nodeId_sendMessage (Session.names_allocatePeerNodeId hpos) A msg).final hst.2
    obtain ⟨counter, tx, id, hsame⟩ :=
      (Session.sameBut_sendMessage A st.session msg).final (Session.SameBut.refl st)
    refine ⟨?_, hnode⟩
    rw [hsame]
    exact hst.1
  keyed hinit hs := by
    unfold Session.initFromSecret at hinit
    split at hinit
    · cases hinit
      exact hs
    · cases hinit

/-- **A datagram goes to the session only if it comes from its peer's address.** -/
theorem knows_unsecuredSessionFor (msg : Message) (peerInfo : PeerInfo) :
    Triple (KnowsPeer i peer nodeId) (unsecuredSessionFor msg peerInfo)
      (fun ref h => KnowsPeer i peer nodeId h ∧ (ref = .unsecured i → peerInfo = peer))
      (KnowsPeer i peer nodeId) := by
  refine Triple.after_lift (fun _ hh => hh) fun peerNodeId _ => ?_
  refine Triple.bind (Q := fun t h => t = h ∧ KnowsPeer i peer nodeId h)
    (Triple.get fun h hh => ⟨rfl, hh⟩) fun t => ?_
  refine Triple.after_lift (fun _ hh => hh.2) fun found hfound => ?_
  cases found with
  | none =>
    refine Triple.bind (Triple.conseq (has_newSession _ _ false) (fun _ hh => hh.2)
      (fun _ _ hh => hh) fun _ hh => hh) fun ref => ?_
    rintro h ⟨hh, hne⟩
    exact Triple.bind (has_learnPeer hne msg) (fun _ => Triple.pure _ fun _ hh' =>
      ⟨hh', fun href => absurd href hne⟩) h hh
  | some j =>
    obtain ⟨s, hs, hinfo, -⟩ := findUnsecure_eq_ok hfound
    dsimp only
    cases hid : t.sessionsUnsecured[j]?.bind (·.peerNodeId) with
    | none =>
      -- the session that knows its peer is not the one that learns it
      rintro h ⟨rfl, hh⟩
      have hne : SessionRef.unsecured j ≠ .unsecured i := by
        intro heq
        cases heq
        obtain ⟨s', hs', -, hnode⟩ := hh
        rw [show t.sessionsUnsecured[i]? = some s' from hs', Option.bind_some, hnode] at hid
        cases hid
      exact Triple.bind (has_learnPeer hne msg) (fun _ => Triple.pure _ fun _ hh' =>
        ⟨hh', fun href => absurd href hne⟩) t hh
    | some id =>
      refine Triple.pure _ fun h hh => ⟨hh.2, fun heq => ?_⟩
      cases heq
      obtain ⟨rfl, s', hs', hpeer, -⟩ := hh
      rw [← Option.some.inj (hs.symm.trans hs'), hinfo] at hpeer
      exact Option.some.inj hpeer

/-- **A datagram of any bytes leaves a peer known.** -/
theorem knows_onMessage (hpos : 0 < nodeId) (A : Aead) (buf : Bytes) (peerInfo : PeerInfo) :
    Keeps (KnowsPeer i peer nodeId) (onMessage A buf peerInfo) := by
  refine Keeps.bind (Keeps.lift _) fun unencrypted => ?_
  cases unencrypted with
  | true =>
    refine Triple.bind (knows_unsecuredSessionFor _ peerInfo) fun ref => ?_
    rintro h ⟨hh, hpeer⟩
    exact Keeps.bind (has_updatePeer (lasting_knows hpos) fun href s hs =>
      ⟨congrArg some (hpeer href), hs.2⟩) (fun _ => Keeps.pure _) h hh
  | false =>
    intro h hh
    exact has_onSecureMessage (lasting_knows hpos) A buf peerInfo (fun _ _ _ _ heq => by cases heq) h
      ⟨rfl, hh⟩

end Knowing

/-! ## 2. The datagram that asks -/

section Asking

variable {h h' : SessionManager} {msg : Message} {peerInfo : PeerInfo} {nodeId : Nat}

/-- The session that is answered has the source for the node id of its peer. -/
theorem unsecuredSessionFor_names {ref : SessionRef} (hi : msg.iflag = .ok true)
    (hsrc : msg.sourceNodeId = .ok nodeId)
    (hrun : (unsecuredSessionFor msg peerInfo).run h = .ok ref h') :
    ∃ j s, ref = .unsecured j ∧ h'.session? (.unsecured j) = some s ∧
      s.peerNodeId = some nodeId := by
  have hpeer : unsecuredPeer msg = .ok nodeId := by
    unfold unsecuredPeer
    rw [hi]
    exact hsrc
  unfold unsecuredSessionFor at hrun
  rw [hpeer, run_bind_ok (run_lift_ok nodeId h), run_bind_ok (run_get h)] at hrun
  obtain ⟨found, t, hl, hgo⟩ := run_bind_eq_ok hrun
  obtain ⟨hfound, ht⟩ := run_lift_eq_ok hl
  rw [ht] at hgo
  cases found with
  | none =>
    obtain ⟨s, o, -, hnew⟩ :=
      newSession_unsecured (.nat unsecuredSessionId) (.nat unsecuredSessionId) h
    dsimp only at hgo
    rw [newUnsecuredSession, run_bind_ok hnew, run_bind_ok (learnPeer_ok hsrc)] at hgo
    cases hgo
    refine ⟨_, { s with peerNodeId := some nodeId }, rfl, ?_, rfl⟩
    rw [session?_modifySession, if_pos rfl]
    exact congrArg (Option.map _) List.getElem?_concat_length
  | some j =>
    obtain ⟨s, hs, -, hid⟩ := findUnsecure_eq_ok hfound
    dsimp only at hgo
    rw [hs, Option.bind_some] at hgo
    rcases hid with hid | hid
    · rw [hid] at hgo
      cases hgo
      exact ⟨j, s, rfl, hs, hid⟩
    · rw [hid] at hgo
      dsimp only at hgo
      rw [run_bind_ok (learnPeer_ok hsrc)] at hgo
      cases hgo
      refine ⟨j, { s with peerNodeId := some nodeId }, rfl, ?_, rfl⟩
      rw [session?_modifySession, if_pos rfl]
      exact congrArg (Option.map _) hs

/-- **An unsecured datagram of an initiator is emitted with a session that knows its sender.** -/
theorem knowsPeer_onMessage {A : Aead} {buf : Bytes} {e : Emission}
    (hu : (rawMessage buf peerInfo).isUnencrypted = .ok true)
    (hi : (rawMessage buf peerInfo).iflag = .ok true)
    (hsrc : (rawMessage buf peerInfo).sourceNodeId = .ok nodeId)
    (hrun : (onMessage A buf peerInfo).run h = .ok e h') :
    e.msg = rawMessage buf peerInfo ∧ ∃ j, e.session = .unsecured j ∧
      KnowsPeer j peerInfo nodeId h' := by
  simp only [onMessage, hu] at hrun
  rw [run_bind_ok (run_lift_ok true h)] at hrun
  obtain ⟨ref, h1, hfor, hrest⟩ := run_bind_eq_ok hrun
  obtain ⟨_, h2, hup, hret⟩ := run_bind_eq_ok hrest
  cases hret
  obtain ⟨j, s, rfl, hs, hnode⟩ := unsecuredSessionFor_names hi hsrc hfor
  refine ⟨rfl, j, rfl, ?_⟩
  cases hcounter : (rawMessage buf peerInfo).messageCounter with
  | error e' =>
    rw [updatePeer_error hcounter] at hup
    cases hup
  | ok counter =>
    rw [updatePeer_ok hcounter] at hup
    cases hup
    refine ⟨hear (rawMessage buf peerInfo) counter s, ?_, rfl, hnode⟩
    have hget := session?_modifySession h1 (hear (rawMessage buf peerInfo) counter)
      (.unsecured j) (.unsecured j)
    rw [hs, if_pos rfl] at hget
    exact hget

end Asking

/-- The unsecured sessions have the session id 0 for their peers too. -/
def Unsecured (h : SessionManager) : Prop :=
  ∀ s ∈ h.sessionsUnsecured, s.peerSessionId = .nat unsecuredSessionId

theorem stable_unsecured : Stable Unsecured where
  modifySession := by
    intro h f ref hf hh
    cases ref with
    | secured i => exact hh
    | unsecured i =>
      exact forall_mem_modify (fun s hs hid => (hf s hs).peerSessionId.trans hid) hh
  pushSecured _ hh := hh
  pushUnsecured hs hh := forall_mem_append_one hh hs.peerSessionId
  outside _ hh := hh

end SessionManager

namespace Node

/-! ## 3. What every run keeps -/

section Runs

variable {j : Nat} {peer : PeerInfo} {nodeId : Nat}

/-- **Every event leaves a peer known**, unless its node id is 0. -/
theorem knows_step (hpos : 0 < nodeId) (A : Aead) (hkdf : SessionCryptoContext.Hkdf) (n : Node)
    (e : NodeEvent) (hn : SessionManager.KnowsPeer j peer nodeId n.sessions) :
    SessionManager.KnowsPeer j peer nodeId (step A hkdf n e).sessions := by
  cases e with
  | datagram buf peerInfo =>
    show SessionManager.KnowsPeer j peer nodeId (final ((onDatagram A buf peerInfo).run n)).sessions
    rw [final_onDatagram_sessions]
    exact (SessionManager.knows_onMessage hpos A buf peerInfo).final hn
  | _ => exact has_step (SessionManager.lasting_knows hpos) A hkdf hn nofun

/-- The exchange at this place answers a peer on a session. -/
def Answering (i : Nat) (ref : SessionRef) (n : Node) : Prop :=
  ∃ ex, n.exchanges[i]? = some ex ∧ ex.session = ref ∧ ex.isInitiator = false ∧
    ex.exchangeId < 65536 ∧ ex.ackCounter < 2 ^ 32

variable {i : Nat} {ref : SessionRef}

theorem Answering.modifyExchange {n : Node} (hn : n.Answering i ref) {f : Exchange → Exchange}
    (hf : ∀ ex, ex.ackCounter < 2 ^ 32 → (f ex).session = ex.session ∧
      (f ex).isInitiator = ex.isInitiator ∧ (f ex).exchangeId = ex.exchangeId ∧
      (f ex).ackCounter < 2 ^ 32) (k : Nat) : (n.modifyExchange k f).Answering i ref := by
  obtain ⟨ex, hex, href, hrole, hx, hcounter⟩ := hn
  have hget : (n.modifyExchange k f).exchanges[i]? =
      some (if k = i then f ex else ex) := by
    unfold Node.modifyExchange
    rw [List.getElem?_modify, hex]
    split <;> rfl
  refine ⟨_, hget, ?_⟩
  split
  · obtain ⟨h1, h2, h3, h4⟩ := hf ex hcounter
    exact ⟨h1.trans href, h2.trans hrole, h3.trans_lt hx, h4⟩
  · exact ⟨href, hrole, hx, hcounter⟩

theorem Answering.push {n : Node} (hn : n.Answering i ref) {m : Node} {ex : Exchange}
    (hm : m.exchanges = n.exchanges ++ [ex]) : m.Answering i ref := by
  obtain ⟨ex', hex, hrest⟩ := hn
  refine ⟨ex', ?_, hrest⟩
  rw [hm, List.getElem?_append_left (List.getElem?_eq_some_iff.mp hex).1, hex]

theorem answering_onSessions {α : Type} (m : ManagerM α) : Keeps (Answering i ref) (onSessions m) :=
  Keeps.zoom m fun _ _ hn => hn

/-- **Every event leaves an exchange its session and its role.** -/
theorem answering_step (A : Aead) (hkdf : SessionCryptoContext.Hkdf) (n : Node) (e : NodeEvent)
    (hn : n.Answering i ref) : (step A hkdf n e).Answering i ref := by
  cases e with
  | datagram buf peerInfo =>
    refine (Keeps.bind (answering_onSessions _) fun em => Keeps.of_final fun n' hn' => ?_ :
      Keeps (Answering i ref) (onDatagram A buf peerInfo)).final hn
    rcases onSessionMessage_cases n' em.msg em.session with ⟨k, ex, -, -, counter, hc, hrun⟩ |
      ⟨exchangeId, protocolId, counter, rflag, -, -, -, hrun⟩ | hrun | ⟨err, hrun⟩
    · rw [hrun]
      have hcounter : counter < 2 ^ 32 := readUIntLE_lt hc
      exact hn'.modifyExchange (f := fun ex => { ex with ackCounter := counter })
        (fun ex _ => ⟨rfl, rfl, rfl, hcounter⟩) k
    · rw [hrun]
      exact hn'.push rfl
    · rw [hrun]
      exact hn'
    · rw [hrun]
      exact hn'
  | handshake l p secret => exact (answering_onSessions _).final hn
  | begin transport peerInfo =>
    obtain ⟨s, o, hrun⟩ := newExchangeTo_run transport peerInfo n
    show (final ((newExchangeTo transport peerInfo).run n)).Answering i ref
    rw [hrun]
    exact hn.push rfl
  | beginOn ref' => exact hn.push rfl
  | setFlags k isReliable isAck =>
    exact hn.modifyExchange (f := fun ex => { ex with isReliable := isReliable, isAck := isAck })
      (fun ex hcounter => ⟨rfl, rfl, rfl, hcounter⟩) k
  | send k msg =>
    refine (Keeps.bind Keeps.get fun n' => ?_ :
      Keeps (Answering i ref) (sendMessage A k msg)).final hn
    cases n'.exchanges[k]? with
    | none => exact Keeps.throw _
    | some ex =>
      exact Keeps.bind (Keeps.lift _) fun msg => Keeps.bind (Keeps.lift _) fun _ =>
        answering_onSessions _

end Runs

/-! ## 4. Replies -/

/-- **The message goes back to the requester**: it is transmitted to the address, with the node id as
    its destination and no source. -/
def RepliesTo (A : Aead) (n : Node) (i : Nat) (msg : Message) (peer : PeerInfo) (nodeId : Nat) :
    Prop :=
  ∃ sent n' transport frame, (sendMessage A i msg).run n = .ok sent n' ∧
    n'.sessions.outside.transmitted =
      n.sessions.outside.transmitted ++ [⟨transport, peer, frame⟩] ∧
    Message.sflag { buffer := frame } = .ok false ∧
    Message.dsiz { buffer := frame } = .ok destinationTypeNodeId ∧
    Message.destinationNodeId { buffer := frame } = .ok nodeId

end Node

/-- **A message that an exchange can answer with**: its header fits where the payload stands, and with
    it in place the byte behind the message header has no I flag. -/
def Exchange.CanAnswer (ex : Exchange) (msg : Message) : Prop :=
  ∃ off, msg.payloadOffset = .ok off ∧ off + 4 ≤ msg.buffer.length ∧
    (ex.isAck = true → off + exchangeHeaderMinSize ≤ msg.buffer.length) ∧
    beginsOdd ((ex.put off msg.buffer).drop 8) = false ∧
    (msg.hasDestination = true → 16 ≤ msg.buffer.length + ex.ackBytes.length)

/-- **Every message that announces nothing is one**, on an exchange its peer began. -/
theorem canAnswer_fresh {ex : Exchange} {msg : Message} (hrole : ex.isInitiator = false)
    (hoff : msg.payloadOffset = .ok 8) (hdest : msg.hasDestination = false)
    (hlen : messageHeaderMinSize + exchangeHeaderMinSize ≤ msg.buffer.length) : ex.CanAnswer msg := by
  unfold messageHeaderMinSize exchangeHeaderMinSize at hlen
  refine ⟨8, hoff, by omega, fun _ => hlen, ?_, fun htrue => ?_⟩
  · rw [ex.beginsOdd_put (by omega), hrole]
  · rw [hdest] at htrue
    cases htrue

/-- Where the byte behind the message header has no I flag, the destination is written. -/
theorem wire_answers_iff {ex : Exchange} {s : Session} {nodeId : Nat} {msg : Message}
    (hid : s.peerSessionId = .nat unsecuredSessionId) (hx : ex.exchangeId < 65536)
    (hack : ex.ackCounter < 2 ^ 32) (hnode : nodeId < 2 ^ 64) :
    (∃ sent, ex.wire s nodeId msg = .ok sent ∧
      Message.sflag { buffer := sent.buffer } = .ok false) ↔
      s.messageCounter < 2 ^ 32 ∧ ex.CanAnswer msg := by
  constructor
  · rintro ⟨sent, hw, hsflag⟩
    obtain ⟨-, hcounter, -, off, hoff, hlen, hroom, rest, hrest, hrem, rfl⟩ :=
      (wire_eq_ok_iff hid).mp hw
    have hsource : beginsOdd rest = false := Except.ok.inj ((named_sflag rfl).symm.trans hsflag)
    have h8 := le_payloadOffset hoff
    have hput : (ex.put off msg.buffer).length = msg.buffer.length := Exchange.length_put hlen
    refine ⟨hcounter, off, hoff, hlen, fun htrue => (hroom htrue).1, ?_, fun hdest => ?_⟩
    · rw [← hsource, hrest, ex.beginsOdd_acked h8 (by omega)]
    · rw [hsource] at hrem
      have hlong := hrem hdest
      rw [hrest, List.length_drop, ex.length_acked, hput] at hlong
      rw [ex.length_ackBytes]
      omega
  · rintro ⟨hcounter, off, hoff, hlen, hroom, hodd, hdest⟩
    have h8 := le_payloadOffset hoff
    have hput : (ex.put off msg.buffer).length = msg.buffer.length := Exchange.length_put hlen
    have hsource : beginsOdd ((ex.acked off (ex.put off msg.buffer)).drop 8) = false := by
      rw [ex.beginsOdd_acked h8 (by omega), hodd]
    refine ⟨_, (wire_eq_ok_iff hid).mpr ⟨hx, hcounter, hnode, off, hoff, hlen,
      fun htrue => ⟨hroom htrue, hack⟩, _, rfl, fun hrem => ?_, rfl⟩, ?_⟩
    · rw [hsource] at hrem
      have hlong := hdest hrem
      rw [ex.length_ackBytes] at hlong
      rw [List.length_drop, ex.length_acked, hput]
      omega
    · rw [← hsource]
      exact named_sflag rfl

namespace Node

section Sending

variable {n : Node} {i : Nat} {ex : Exchange} {s : Session} {peer : PeerInfo} {nodeId : Nat}

/-- **On an exchange whose session knows its peer**, a message goes back to it exactly when the
    exchange can answer with it. -/
theorem repliesTo_iff_of_peered (A : Aead) (h : PeeredExchange n i ex s peer nodeId)
    (hx : ex.exchangeId < 65536) (hack : ex.ackCounter < 2 ^ 32) (hnode : nodeId < 2 ^ 64)
    (msg : Message) :
    RepliesTo A n i msg peer nodeId ↔ s.messageCounter < 2 ^ 32 ∧ ex.CanAnswer msg := by
  rw [← wire_answers_iff h.peerSessionId hx hack hnode]
  constructor
  · rintro ⟨sent, n', transport, frame, hrun, htx, hsflag, -, -⟩
    have hw := wire_of_sendMessage h hrun
    have hto := sendMessage_of_wire A h hw
    rw [hrun] at hto
    cases hto
    have hone : n.sessions.outside.transmitted ++ [⟨s.transport, peer, sent.buffer⟩] =
      n.sessions.outside.transmitted ++ [⟨transport, peer, frame⟩] := htx
    cases List.append_cancel_left hone
    exact ⟨sent, hw, hsflag⟩
  · rintro ⟨sent, hw, hsflag⟩
    obtain ⟨-, -, -, off, -, -, -, rest, -, -, hsent⟩ := (wire_eq_ok_iff h.peerSessionId).mp hw
    have hbuf : Message.buffer { buffer := sent.buffer } =
        (msg.named (beginsOdd rest) nodeId s.messageCounter rest).buffer := by
      rw [hsent]
    have hsource : beginsOdd rest = false :=
      Except.ok.inj ((named_sflag hbuf).symm.trans hsflag)
    refine ⟨sent, _, s.transport, sent.buffer, sendMessage_of_wire A h hw, rfl, hsflag, ?_, ?_⟩
    · rw [named_dsiz hbuf, hsource]
      rfl
    · exact named_destination hbuf hsource hnode

/-- **No message goes back to the node id 0.** -/
theorem not_repliesTo_zero (A : Aead) (hex : n.exchanges[i]? = some ex)
    (hids : ∀ s, n.sessions.session? ex.session = some s →
      s.peerSessionId = .nat unsecuredSessionId) (msg : Message) :
    ¬ RepliesTo A n i msg peer 0 := by
  rintro ⟨sent, n', transport, frame, hrun, htx, hsflag, -, hdest⟩
  obtain ⟨s, m1, st, hs, haddr, hsend, hout⟩ := sendMessage_eq_ok hex hrun
  have hid := hids s hs
  obtain ⟨-, off, hoff, hlen, -, hm1⟩ := address_eq_ok_iff.mp haddr
  obtain ⟨m2, hstamp, hsend⟩ := Session.sendMessage_eq_ok hsend
  obtain ⟨x, hx, -, -, hm2⟩ := stamp_eq_ok hstamp
  rw [show Session.peerSessionId _ = _ from hid] at hx
  cases hx
  have hbuf : m2.buffer = stampedHeader 0 s.messageCounter ++ m1.buffer.drop 8 := by
    rw [hm2]
    rfl
  have hrest : 1 ≤ (m1.buffer.drop 8).length := by
    have h8 := le_payloadOffset hoff
    rw [hm1, List.length_drop, ex.length_acked, Exchange.length_put hlen]
    omega
  obtain ⟨frame', st1, peer', haddressed, hun, -, hst⟩ :=
    Session.sendStamped_unencrypted_ok (Session.isEncrypted_of_stamp hid hstamp) hsend
  have hframe : frame' = frame := by
    rw [hout, hst] at htx
    have hone : st1.outside.transmitted ++ [⟨st1.session.transport, peer', frame'⟩] =
      n.sessions.outside.transmitted ++ [⟨transport, peer, frame⟩] := htx
    rw [hun.transmitted] at hone
    cases List.append_cancel_left hone
    rfl
  obtain ⟨id, hlt, hpos, hsent, hmade⟩ := Session.addressUnencrypted_eq_ok hbuf hrest haddressed
  have hnamed : Message.buffer { buffer := frame } =
      (m2.named (beginsOdd (m1.buffer.drop 8)) id s.messageCounter (m1.buffer.drop 8)).buffer := by
    rw [← hframe, hmade, hsent]
  have hsource : beginsOdd (m1.buffer.drop 8) = false :=
    Except.ok.inj ((named_sflag hnamed).symm.trans hsflag)
  have hzero := Except.ok.inj ((named_destination hnamed hsource hlt).symm.trans hdest)
  have hnonzero := hpos hsource
  omega

end Sending

/-- The exchange at this place can answer with the message. -/
def CanAnswer (n : Node) (i : Nat) (msg : Message) : Prop :=
  ∃ ex s, n.exchanges[i]? = some ex ∧ n.sessions.session? ex.session = some s ∧
    s.messageCounter < 2 ^ 32 ∧ ex.CanAnswer msg

/-- A source node id has 64 bits; an absent one is read as `NODE_ID_ANY`. -/
theorem sourceNodeId_lt {m : Message} {nodeId : Nat} (h : m.sourceNodeId = .ok nodeId) :
    nodeId < 2 ^ 64 := by
  obtain ⟨sflag, -, h⟩ := bind_eq_ok h
  cases sflag with
  | true => exact readUIntLE_lt h
  | false =>
    cases h
    decide

/-- A datagram of an initiator that begins an exchange: the exchange answers on a session that knows
    its sender. -/
theorem answering_onDatagram {A : Aead} {n n' : Node} {buf : Bytes} {peerInfo : PeerInfo}
    {nodeId protocolId i : Nat} {m : Message}
    (hu : (rawMessage buf peerInfo).isUnencrypted = .ok true)
    (hsrc : (rawMessage buf peerInfo).sourceNodeId = .ok nodeId)
    (hrun : (onDatagram A buf peerInfo).run n = .ok (.protocol protocolId m i) n') :
    ∃ j, n'.Answering i (.unsecured j) ∧
      SessionManager.KnowsPeer j peerInfo nodeId n'.sessions := by
  obtain ⟨e, n1, he, hmsg⟩ := run_bind_eq_ok hrun
  obtain ⟨h', hon, rfl⟩ := run_zoom_eq_ok he
  obtain ⟨hemsg, -⟩ := SessionManager.onMessage_unsecured_eq_ok hu hon
  obtain ⟨-, hi, -, -, hses, ex, hex, hexs, hrole, hx, hcounter⟩ := onSessionMessage_protocol hmsg
  rw [hemsg] at hi
  obtain ⟨-, j, href, hknows⟩ := SessionManager.knowsPeer_onMessage hu hi hsrc hon
  obtain ⟨payload, -, hread⟩ := bind_eq_ok hx
  refine ⟨j, ⟨ex, hex, hexs.trans href, hrole, readUIntLE_lt hread, readUIntLE_lt hcounter⟩, ?_⟩
  rw [hses]
  exact hknows

/-- **Replies go back to the requester exactly when its node id is not 0**: after a run of any events
    a datagram begins an exchange, and after any further events a message is sent on it that the
    exchange can answer with. -/
theorem repliesTo_iff (A : Aead) (hkdf : SessionCryptoContext.Hkdf) (entropy : Nat → UInt8)
    (es fs : List NodeEvent) {n' : Node} {buf : Bytes} {peerInfo : PeerInfo}
    {nodeId protocolId i : Nat} {m : Message}
    (hu : (rawMessage buf peerInfo).isUnencrypted = .ok true)
    (hsrc : (rawMessage buf peerInfo).sourceNodeId = .ok nodeId)
    (hrun : (onDatagram A buf peerInfo).run (run (step A hkdf) (init entropy) es) =
      .ok (.protocol protocolId m i) n') (msg : Message) :
    RepliesTo A (run (step A hkdf) n' fs) i msg peerInfo nodeId ↔
      nodeId ≠ 0 ∧ (run (step A hkdf) n' fs).CanAnswer i msg := by
  obtain ⟨j, hans, hknows⟩ := answering_onDatagram hu hsrc hrun
  have hopened : (step A hkdf (run (step A hkdf) (init entropy) es) (.datagram buf peerInfo)) = n' := by
    show final ((onDatagram A buf peerInfo).run _) = n'
    rw [hrun]
    rfl
  have hstep := stable_step SessionManager.stable_unsecured A hkdf
  have hinit : (init entropy).sessions.Unsecured := List.forall_mem_nil _
  have hids : (run (step A hkdf) n' fs).sessions.Unsecured := by
    rw [← hopened]
    exact run_invariant (step A hkdf) hstep
      (hstep _ _ (run_invariant (step A hkdf) hstep hinit es)) fs
  obtain ⟨ex, hex, href, hrole, hx, hack⟩ := run_invariant (step A hkdf) (answering_step A hkdf) hans fs
  rcases Nat.eq_zero_or_pos nodeId with rfl | hpos
  · refine iff_of_false (not_repliesTo_zero A hex (fun s hs => ?_) msg) fun h => h.1 rfl
    rw [href] at hs
    exact hids s (List.mem_of_getElem? hs)
  · obtain ⟨s, hs, hpeer, hnode⟩ := run_invariant (step A hkdf) (knows_step hpos A hkdf) hknows fs
    have hs' : (run (step A hkdf) n' fs).sessions.session? ex.session = some s := by
      rw [href]
      exact hs
    have hpeered : PeeredExchange (run (step A hkdf) n' fs) i ex s peerInfo nodeId :=
      ⟨hex, hs', hids s (List.mem_of_getElem? hs), hpeer, hnode, hpos⟩
    refine (repliesTo_iff_of_peered A hpeered hx hack (sourceNodeId_lt hsrc) msg).trans ?_
    constructor
    · intro h
      exact ⟨by omega, ex, s, hex, hs', h⟩
    · rintro ⟨-, ex', s', hex', hs'', h⟩
      obtain rfl := Option.some.inj (hex.symm.trans hex')
      obtain rfl := Option.some.inj (hs'.symm.trans hs'')
      exact h

/-- A request of the node with this id, with one exchange header and nothing else. -/
def requestFrom (nodeId : Nat) : Bytes :=
  header 4 0 1 ++ (toLE 8 nodeId ++ exchangeHeader 1 0 258 0)

/-- A new node after a request. -/
def afterRequest (nodeId : Nat) : Node :=
  step Aead.keyTag SessionManager.sampleHkdf (init fun _ => 0)
    (.datagram (requestFrom nodeId) samplePeer)

/-- The node 5 is answered with a new message. -/
theorem repliesTo_iff_sample : RepliesTo Aead.keyTag (afterRequest 5) 0 {} samplePeer 5 :=
  (repliesTo_iff Aead.keyTag SessionManager.sampleHkdf (fun _ => 0) [] [] (by decide) (by decide)
    (show (onDatagram Aead.keyTag (requestFrom 5) samplePeer).run (init fun _ => 0) =
      .ok (.protocol 0 (rawMessage (requestFrom 5) samplePeer) 0) (afterRequest 5) from rfl) {}).mpr
    ⟨by decide, _, _, rfl, rfl, by decide, canAnswer_fresh rfl rfl rfl (by decide)⟩

/-- **A request of the node 0** is not answered: the send throws. -/
theorem reply_to_zero : (rawMessage (requestFrom 0) samplePeer).sourceNodeId = .ok 0 ∧
    (onDatagram Aead.keyTag (requestFrom 0) samplePeer).run (init fun _ => 0) =
      .ok (.protocol 0 (rawMessage (requestFrom 0) samplePeer) 0) (afterRequest 0) ∧
    ¬ RepliesTo Aead.keyTag (afterRequest 0) 0 {} samplePeer 0 := by
  refine ⟨by decide, rfl, ?_⟩
  rintro ⟨sent, n', transport, frame, hrun, -⟩
  have hthrows : ∃ n', (sendMessage Aead.keyTag 0 {}).run (afterRequest 0) =
      .error .referenceError n' := ⟨_, rfl⟩
  obtain ⟨n'', herror⟩ := hthrows
  exact absurd (hrun.symm.trans herror) nofun

end Node

end Matternode.Messaging
