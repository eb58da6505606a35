/-
  File:      Matternode/Messaging/Transmission.lean
  Subject:   When a call of `sendMessage` transmits, on any exchange and any session.

  A call writes the header of the exchange and of the session, encrypts the message or addresses it in
  the clear, and hands one frame to the session's transport, for the session's address. Each of these
  may throw.

  * `CanName`, `addressUnencrypted_answers_iff` -- when a message in the clear is addressed;
  * `CanSend` -- what the message, the exchange and the session have to be;
  * `TransmitsTo`, `transmitsTo_iff` -- **a call transmits exactly when** they are, and the session
    has an address.
-/
import Matternode.Messaging.OneSession
import Matternode.Messaging.Wire

namespace Matternode.Messaging

open Base Js

/-! ## 1. Messages in the clear -/

namespace Session

/-- A message in the clear can name a node: its own, where the byte behind the message header has the
    I flag, else its peer, if that is known; a field that it remembers has its eight bytes. -/
def CanName (s : Session) (msg : Message) (rest : Bytes) : Prop :=
  (beginsOdd rest = false → s.hasPeerNodeId = true) ∧
    (msg.remembers (beginsOdd rest) = true → 8 ≤ rest.length)

/-- A node id is there once it was allocated. -/
theorem run_allocatePeerNodeId {st : SendState} (hfits : NodeIdFits st.session.peerNodeId) :
    ∃ st', allocatePeerNodeId.run st = .ok () st' ∧ st'.session.peerNodeId.getD 0 < 2 ^ 64 := by
  have hkept := fits_allocatePeerNodeId st hfits
  have hget (o : Option Nat) (ho : NodeIdFits o) : o.getD 0 < 2 ^ 64 := by
    cases o with
    | none => exact Nat.pow_pos (by decide)
    | some id => exact ho id rfl
  cases hrun : allocatePeerNodeId.run st with
  | ok u st' =>
    rw [hrun] at hkept
    exact ⟨st', rfl, hget _ hkept⟩
  | error e st' =>
    unfold allocatePeerNodeId at hrun
    rw [run_bind_ok (run_get st)] at hrun
    split at hrun
    · cases hrun
    · cases hrun

/-- **A message in the clear is addressed exactly when it can name a node.** -/
theorem addressUnencrypted_answers_iff {st : SendState} {m : Message} {counter : Nat} {rest : Bytes}
    (hm : m.buffer = stampedHeader 0 counter ++ rest) (hrest : 1 ≤ rest.length)
    (hfits : NodeIdFits st.session.peerNodeId) :
    (∃ r st', (addressUnencrypted m).run st = .ok r st') ↔ st.session.CanName m rest := by
  have hlift {x : Except JsError Message} {st' : SendState} : (∃ r st'',
      (do let msg ← lift x; return (msg, msg.buffer) : SendM (Message × Bytes)).run st' =
        .ok r st'') ↔ ∃ m', x = .ok m' := by
    cases x with
    | ok m' => exact ⟨fun _ => ⟨m', rfl⟩, fun _ => ⟨_, _, rfl⟩⟩
    | error e =>
      refine ⟨fun ⟨r, st'', hr⟩ => ?_, fun ⟨m', hm'⟩ => by cases hm'⟩
      rw [run_bind_error (run_lift_error e st')] at hr
      cases hr
  unfold addressUnencrypted CanName
  rw [stamped_iflag hm hrest, run_bind_ok (run_lift_ok _ st)]
  cases hodd : beginsOdd rest with
  | true =>
    obtain ⟨st1, halloc, hlt⟩ := run_allocatePeerNodeId hfits
    rw [if_pos rfl, run_bind_ok halloc, run_bind_ok (run_get st1)]
    refine hlift.trans ⟨fun ⟨m', hm'⟩ => ?_, fun h => ?_⟩
    · exact ⟨nofun, ((fromNode_eq_ok_iff hm).mp hm').2.1⟩
    · exact ⟨_, (fromNode_eq_ok_iff hm).mpr ⟨hlt, h.2, rfl⟩⟩
  | false =>
    rw [if_neg (by decide), run_bind_ok (run_get st)]
    by_cases hhas : st.session.hasPeerNodeId = true
    · rw [if_pos hhas, run_bind_ok (run_get st)]
      have hlt : st.session.peerNodeId.getD 0 < 2 ^ 64 := by
        cases hid : st.session.peerNodeId with
        | none => exact Nat.pow_pos (by decide)
        | some id => exact hfits id hid
      refine hlift.trans ⟨fun ⟨m', hm'⟩ => ?_, fun h => ?_⟩
      · exact ⟨fun _ => hhas, ((toNode_eq_ok_iff hm).mp hm').2.1⟩
      · exact ⟨_, (toNode_eq_ok_iff hm).mpr ⟨hlt, h.2, rfl⟩⟩
    · rw [if_neg hhas]
      refine iff_of_false ?_ fun h => hhas (h.1 rfl)
      rintro ⟨r, st', hr⟩
      cases hr

end Session

/-! ## 2. One frame -/

/-- **A message that can be sent**: the exchange's header fits where the payload stands, the ids and
    the counters fit their fields, and where the session id is 0, so that it goes out in the clear, it
    can name a node. -/
def Exchange.CanSend (ex : Exchange) (s : Session) (msg : Message) : Prop :=
  ex.exchangeId < 65536 ∧ s.messageCounter < 2 ^ 32 ∧
    ∃ off id, msg.payloadOffset = .ok off ∧ off + 4 ≤ msg.buffer.length ∧
      (ex.isAck = true → off + exchangeHeaderMinSize ≤ msg.buffer.length ∧ ex.ackCounter < 2 ^ 32) ∧
      headerId s.peerSessionId = some id ∧
      (id = 0 → s.CanName msg ((ex.acked off (ex.put off msg.buffer)).drop 8))

namespace Node

/-- The message is sent without a throw, as one frame, on the transport and to the address. -/
def TransmitsTo (A : Aead) (n : Node) (i : Nat) (msg : Message) (transport : Transport)
    (peer : PeerInfo) : Prop :=
  ∃ sent n' frame, (sendMessage A i msg).run n = .ok sent n' ∧
    n'.sessions.outside.transmitted =
      n.sessions.outside.transmitted ++ [⟨transport, peer, frame⟩]

section Transmitting

variable {n : Node} {i : Nat} {ex : Exchange} {s : Session}

/-- What was stamped goes out as one frame, exactly when the session has an address and a message in
    the clear can name a node. -/
theorem sendStamped_transmits_iff (A : Aead) {st : SendState} {m : Message} {id counter : Nat}
    {rest : Bytes} (hm : m.buffer = stampedHeader id counter ++ rest) (hid : id < 65536)
    (hrest : 1 ≤ rest.length) (hsecure : st.session.secure = true)
    (hfits : Session.NodeIdFits st.session.peerNodeId) (transport : Transport) (peer : PeerInfo) :
    (∃ sent st' frame, (Session.sendStamped A m).run st = .ok sent st' ∧
      st'.outside.transmitted = st.outside.transmitted ++ [⟨transport, peer, frame⟩]) ↔
      st.session.transport = transport ∧ st.session.peerInfo = some peer ∧
        (id = 0 → st.session.CanName m rest) := by
  have henc := headed_isEncrypted hm
  rw [Nat.mod_eq_of_lt hid] at henc
  by_cases hzero : id = 0
  · rw [hzero] at hm
    rw [hzero, decide_eq_false (by omega)] at henc
    have hanswers := Session.addressUnencrypted_answers_iff hm hrest hfits
    constructor
    · rintro ⟨sent, st', frame, hrun, htx⟩
      obtain ⟨frame', st1, peer', haddressed, hun, hpeer, rfl⟩ :=
        Session.sendStamped_unencrypted_ok henc hrun
      have hone : st1.outside.transmitted ++ [⟨st1.session.transport, peer', frame'⟩] =
        st.outside.transmitted ++ [⟨transport, peer, frame⟩] := htx
      rw [hun.transmitted, hun.session] at hone
      cases List.append_cancel_left hone
      exact ⟨rfl, hpeer, fun _ => hanswers.mp ⟨_, _, haddressed⟩⟩
    · rintro ⟨rfl, hpeer, hname⟩
      obtain ⟨⟨sent, frame⟩, st1, haddressed⟩ := hanswers.mpr (hname hzero)
      have hun := (Session.unsent_addressUnencrypted st m).ok (Session.Unsent.refl st) haddressed
      have hpeer1 : st1.session.peerInfo = some peer := by
        rw [hun.session]
        exact hpeer
      refine ⟨sent, Session.handOver st1 peer frame, frame, ?_, ?_⟩
      · rw [Session.sendStamped_unencrypted henc, run_bind_ok haddressed,
          run_bind_ok (Session.transmit_some hpeer1 _)]
        rfl
      · show st1.outside.transmitted ++ [⟨st1.session.transport, peer, frame⟩] = _
        rw [hun.transmitted, hun.session]
  · rw [decide_eq_true hzero] at henc
    constructor
    · rintro ⟨sent, st', frame, hrun, htx⟩
      obtain ⟨iflag, c, peer', -, -, hpeer, -, rfl⟩ := Session.sendStamped_encrypted_ok henc hrun
      cases List.append_cancel_left htx
      exact ⟨rfl, hpeer, fun hid' => absurd hid' hzero⟩
    · rintro ⟨rfl, hpeer, -⟩
      obtain ⟨c, hc⟩ := Option.isSome_iff_exists.mp (st.session.context.trans hsecure)
      have hI := stamped_iflag hm hrest
      let frame := MsgCodec.encrypt A m.buffer (c.keys (Session.keyIndex (beginsOdd rest)))
      refine ⟨{ m with encrypted := some frame }, Session.handOver (Session.callCipher st
        (Session.cipherCallOf c m (beginsOdd rest))) peer frame, frame, ?_, rfl⟩
      rw [Session.sendStamped_encrypted henc, run_bind_ok (Session.encryptMessage_some hI hc),
        run_bind_ok (Session.transmit_some (by exact hpeer) _)]
      rfl

/-- **A call transmits exactly when the message can be sent** and the session has the address. -/
theorem transmitsTo_iff (A : Aead) (hex : n.exchanges[i]? = some ex)
    (hs : n.sessions.session? ex.session = some s) (hsecure : s.secure = true)
    (hfits : Session.NodeIdFits s.peerNodeId) (msg : Message) (transport : Transport)
    (peer : PeerInfo) :
    TransmitsTo A n i msg transport peer ↔
      s.transport = transport ∧ s.peerInfo = some peer ∧ ex.CanSend s msg := by
  have hrest {off : Nat} (hoff : msg.payloadOffset = .ok off) (hlen : off + 4 ≤ msg.buffer.length) :
      8 ≤ (ex.acked off (ex.put off msg.buffer)).length ∧
        1 ≤ ((ex.acked off (ex.put off msg.buffer)).drop 8).length := by
    have h8 := le_payloadOffset hoff
    rw [List.length_drop, ex.length_acked, Exchange.length_put hlen]
    omega
  constructor
  · rintro ⟨sent, n', frame, hrun, htx⟩
    obtain ⟨s', m, st, hs', haddr, hsend, rfl⟩ := sendMessage_eq_ok hex hrun
    obtain rfl := Option.some.inj (hs.symm.trans hs')
    obtain ⟨hx, off, hoff, hlen, hack, rfl⟩ := address_eq_ok_iff.mp haddr
    obtain ⟨m2, hstamp, hsend⟩ := Session.sendMessage_eq_ok hsend
    obtain ⟨id, hid, hcounter, -, rfl⟩ := Session.stamp_eq_ok_iff.mp hstamp
    obtain ⟨htransport, hpeer, hname⟩ := (sendStamped_transmits_iff A rfl (headerId_lt hid)
      (hrest hoff hlen).2 hsecure hfits transport peer).mp ⟨sent, st, frame, hsend, htx⟩
    exact ⟨htransport, hpeer, hx, hcounter, off, id, hoff, hlen, hack, hid, hname⟩
  · rintro ⟨htransport, hpeer, hx, hcounter, off, id, hoff, hlen, hack, hid, hname⟩
    obtain ⟨h8, h1⟩ := hrest hoff hlen
    have hstamp : s.stamp { msg with buffer := ex.acked off (ex.put off msg.buffer) } = .ok _ :=
      Session.stamp_eq_ok_iff.mpr ⟨id, hid, hcounter, h8, rfl⟩
    have haddr := address_eq_ok_iff.mpr ⟨hx, off, hoff, hlen, hack, rfl⟩
    let st₀ : SendState := Session.countTx (Session.takeCounter ⟨s, n.sessions.outside⟩)
    have hbuf : Message.buffer { msg with
        buffer := stampedHeader id s.messageCounter ++
          (ex.acked off (ex.put off msg.buffer)).drop 8 } = _ := rfl
    obtain ⟨sent, st, frame, hsend, htx⟩ := (sendStamped_transmits_iff A hbuf (headerId_lt hid) h1
      (show st₀.session.secure = true from hsecure) hfits transport peer).mpr
        ⟨htransport, hpeer, hname⟩
    refine ⟨sent, _, frame, sendMessage_of_session hex hs haddr
      ((Session.sendMessage_stamped hstamp).trans hsend), htx⟩

end Transmitting

/-- The exchange at this place can send the message. -/
def CanSend (n : Node) (i : Nat) (msg : Message) : Prop :=
  ∃ ex s, n.exchanges[i]? = some ex ∧ n.sessions.session? ex.session = some s ∧ ex.CanSend s msg

end Node

/-! ## 3. Who has sent -/

/-- A session that sent has an address. -/
theorem Session.peerInfo_of_sendMessage {A : Aead} {st st' : SendState} {msg sent : Message}
    (h : (Session.sendMessage A msg).run st = .ok sent st') :
    ∃ peer, st'.session.peerInfo = some peer := by
  obtain ⟨counter, tx, id, hsame⟩ :=
    (Session.sameBut_sendMessage A st.session msg).ok (Session.SameBut.refl st) h
  obtain ⟨m, -, hsend⟩ := Session.sendMessage_eq_ok h
  cases henc : m.isEncrypted with
  | error e =>
    unfold Session.sendStamped at hsend
    rw [henc, run_bind_error (run_lift_error e _)] at hsend
    cases hsend
  | ok encrypted =>
    cases encrypted with
    | true =>
      obtain ⟨-, -, peer, -, -, hpeer, -⟩ := Session.sendStamped_encrypted_ok henc hsend
      exact ⟨peer, by rw [hsame]; exact hpeer⟩
    | false =>
      obtain ⟨-, -, peer, -, -, hpeer, -⟩ := Session.sendStamped_unencrypted_ok henc hsend
      exact ⟨peer, by rw [hsame]; exact hpeer⟩

/-- **An exchange that sent is there, on a session that has an address.** -/
theorem Node.peerInfo_of_sendMessage {A : Aead} {n n' : Node} {i : Nat} {msg sent : Message}
    (h : (sendMessage A i msg).run n = .ok sent n') : ∃ ex s peer, n'.exchanges[i]? = some ex ∧
      n'.sessions.session? ex.session = some s ∧ s.peerInfo = some peer := by
  cases hex : n.exchanges[i]? with
  | none =>
    unfold sendMessage at h
    rw [run_bind_ok (run_get n), hex] at h
    cases h
  | some ex =>
    obtain ⟨s, m, st, hs, -, hsend, rfl⟩ := sendMessage_eq_ok hex h
    obtain ⟨peer, hpeer⟩ := Session.peerInfo_of_sendMessage hsend
    refine ⟨ex, st.session, peer, hex, ?_, hpeer⟩
    have hget := SessionManager.session?_modifySession n.sessions (fun _ => st.session) ex.session
      ex.session
    rw [hs, if_pos rfl] at hget
    cases hr : ex.session with
    | secured j =>
      rw [hr] at hget
      exact hget
    | unsecured j =>
      rw [hr] at hget
      exact hget

end Matternode.Messaging
