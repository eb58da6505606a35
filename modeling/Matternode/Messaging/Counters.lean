/-
  File:      Matternode/Messaging/Counters.lean
  Subject:   Two sessions that differ in their counters send alike.

  A session stamps its counter on every message. What follows depends on the session id in the
  header, on the I flag and on what the session knows, and not on the counter, once it fits its field.

  * `SameButCounters`, `SendsAlike` -- such sessions, and such states to send from;
  * `fromNode_alike`, `toNode_alike`, `lock_addressUnencrypted` -- the parts of a run, side by side;
  * `sendMessage_alike` -- **both send, or both throw the same**;
  * `Spares`, `sendMessage_spared` -- **what draws no node id** leaves all but the counters;
  * `Transmission.SameButCounter`, `SameButCounters.transmission` -- what goes out in the clear.
-/
import Matternode.Base.Lockstep
import Matternode.Messaging.Wire

namespace Matternode.Messaging

open Base Js

namespace Session

/-! ## 1. Two sessions -/

/-- The other session is the same but for its counters. -/
def SameButCounters (s s' : Session) : Prop :=
  s' = { s with messageCounter := s'.messageCounter, metricTxCount := s'.metricTxCount }

namespace SameButCounters

variable {s s' : Session} (h : s.SameButCounters s')

include h

theorem transport : s'.transport = s.transport := by rw [h]

theorem peerInfo : s'.peerInfo = s.peerInfo := by rw [h]

theorem peerNodeId : s'.peerNodeId = s.peerNodeId := by rw [h]

theorem cryptoContext : s'.cryptoContext = s.cryptoContext := by rw [h]

theorem peerSessionId : s'.peerSessionId = s.peerSessionId := by rw [h]

end SameButCounters

theorem SameButCounters.between {s t u : Session} (h : s.SameButCounters t)
    (h' : s.SameButCounters u) : t.SameButCounters u := by
  unfold SameButCounters at h h' ⊢
  rw [h, h']

theorem SameButCounters.trans {s t u : Session} (h : s.SameButCounters t)
    (h' : t.SameButCounters u) : s.SameButCounters u := by
  unfold SameButCounters at h h' ⊢
  rw [h', h]

/-- Two states to send from, with these counters: what is outside may differ but for the bytes that
    are drawn next. -/
structure SendsAlike (counter counter' : Nat) (st st' : SendState) : Prop where
  session : st.session.SameButCounters st'.session
  counter : st.session.messageCounter = counter
  counter' : st'.session.messageCounter = counter'
  entropy : st'.outside.entropy = st.outside.entropy

variable {A : Aead} {m m' : Message} {id counter counter' : Nat} {rest : Bytes}

namespace SendsAlike

variable {st st' : SendState} (h : SendsAlike counter counter' st st')

include h

theorem peerInfo : st'.session.peerInfo = st.session.peerInfo := h.session.peerInfo

theorem peerNodeId : st'.session.peerNodeId = st.session.peerNodeId := h.session.peerNodeId

theorem cryptoContext : st'.session.cryptoContext = st.session.cryptoContext :=
  h.session.cryptoContext

theorem peerSessionId : st'.session.peerSessionId = st.session.peerSessionId :=
  h.session.peerSessionId

theorem withOutside {o o' : Outside} (ho : o'.entropy = o.entropy) :
    SendsAlike counter counter' { st with outside := o } { st' with outside := o' } :=
  ⟨h.session, h.counter, h.counter', ho⟩

/-- A node id that both are given. -/
theorem withPeerNodeId (peerNodeId : Option Nat) :
    SendsAlike counter counter' { st with session.peerNodeId := peerNodeId }
      { st' with session.peerNodeId := peerNodeId } := by
  refine ⟨?_, h.counter, h.counter', h.entropy⟩
  have hs := h.session
  unfold SameButCounters at hs ⊢
  dsimp only
  rw [hs]

/-- The counter is taken, and the transmission counted. -/
theorem counted : SendsAlike (counter + 1) (counter' + 1) (countTx (takeCounter st))
    (countTx (takeCounter st')) := by
  refine ⟨?_, congrArg (· + 1) h.counter, congrArg (· + 1) h.counter', h.entropy⟩
  have hs := h.session
  unfold SameButCounters at hs ⊢
  unfold countTx takeCounter
  dsimp only
  rw [hs]

end SendsAlike

/-! ## 2. Naming a node -/

/-- A node id of more than eight bytes is not written. -/
theorem fromNode_unfit {nodeId : Nat} (hm : m.buffer = stampedHeader id counter ++ rest)
    (hnode : ¬ nodeId < 2 ^ 64) : fromNode nodeId m = .error .rangeError := by
  have hdsiz : m.setDsiz destinationTypeOmit = .ok m := by
    rw [setDsiz_headed hm]
    exact congrArg (fun b => Except.ok { m with buffer := b }) hm.symm
  have hs : Message.sflag { m with buffer := header 4 id counter ++ rest } = .ok true := by
    rw [headed_sflag rfl]
    rfl
  have hwrite (bs : Bytes) : writeBigUInt64LE bs nodeId messageHeaderMinSize = .error .rangeError :=
    if_pos (.inr (by omega))
  unfold fromNode
  rw [hdsiz]
  dsimp only [bind, Except.bind]
  rw [setSflag_headed hm]
  show Message.setSourceNodeId { m with buffer := header 4 id counter ++ rest } _ = _
  unfold Message.setSourceNodeId
  rw [hs]
  simp only [bind, Except.bind, JsValue.toBigInt, Message.write, hwrite, if_true]

theorem toNode_unfit {nodeId : Nat} (hm : m.buffer = stampedHeader id counter ++ rest)
    (hdest : m.hasDestination = false) (hnode : ¬ nodeId < 2 ^ 64) :
    toNode nodeId m = .error .rangeError := by
  have hsflag : m.setSflag sourceTypeOmit = .ok m := by
    rw [setSflag_headed hm]
    exact congrArg (fun b => Except.ok { m with buffer := b }) hm.symm
  have hz : Message.dsiz { m with buffer := header 1 id counter ++ rest } = .ok 1 := by
    rw [headed_dsiz rfl]
    rfl
  have hoff : Message.destinationOffset { m with buffer := header 1 id counter ++ rest } =
      .ok 8 := by
    unfold Message.destinationOffset
    rw [headed_sflag rfl]
    rfl
  have hwrite (bs : Bytes) : writeBigUInt64LE bs nodeId 8 = .error .rangeError :=
    if_pos (.inr (by omega))
  unfold toNode
  rw [hsflag]
  dsimp only [bind, Except.bind]
  rw [setDsiz_headed hm]
  show Message.setDestinationNodeId { m with buffer := header 1 id counter ++ rest } _ = _
  unfold Message.setDestinationNodeId
  rw [hoff, hz]
  simp only [bind, Except.bind, JsValue.toBigInt, Message.write, hwrite, Message.insertDestination,
    hdest]
  rfl

section Naming

variable (hm : m.buffer = stampedHeader id counter ++ rest)
  (hm' : m'.buffer = stampedHeader id counter' ++ rest)

include hm hm'

/-- **Two messages that differ in their counters** both take the node id, or throw the same. -/
theorem fromNode_alike (hsource : m.hasSource = false) (hsource' : m'.hasSource = false)
    (nodeId : Nat) : (fromNode nodeId m).map (fun _ => ()) =
      (fromNode nodeId m').map fun _ => () := by
  by_cases hnode : nodeId < 2 ^ 64
  · rw [fromNode_stamped hm hsource hnode, fromNode_stamped hm' hsource' hnode]
    rfl
  · rw [fromNode_unfit hm hnode, fromNode_unfit hm' hnode]

theorem toNode_alike (hdest : m.hasDestination = false) (hdest' : m'.hasDestination = false)
    (nodeId : Nat) : (toNode nodeId m).map (fun _ => ()) =
      (toNode nodeId m').map fun _ => () := by
  by_cases hnode : nodeId < 2 ^ 64
  · rw [toNode_stamped hm hdest hnode, toNode_stamped hm' hdest' hnode]
    rfl
  · rw [toNode_unfit hm hdest hnode, toNode_unfit hm' hdest' hnode]

end Naming

/-! ## 3. Sending, side by side -/

theorem lock_transmit (buf buf' : Bytes) : Lockstep (SendsAlike counter counter')
    (SendsAlike counter counter') (transmit buf) (transmit buf') := by
  refine Lockstep.after_get fun st st' h => ?_
  rw [h.peerInfo]
  cases st.session.peerInfo with
  | none => exact Lockstep.throw _ fun _ _ h => h
  | some peer => exact Lockstep.modify fun _ _ h => h.withOutside h.entropy

theorem lock_allocatePeerNodeId : Lockstep (SendsAlike counter counter')
    (SendsAlike counter counter') allocatePeerNodeId allocatePeerNodeId := by
  refine Lockstep.after_get fun st st' h => ?_
  unfold hasPeerNodeId
  rw [h.peerNodeId]
  split
  · exact Lockstep.pure _ fun _ _ h => h
  · refine Lockstep.before (Lockstep.zoom (N := fun _ _ o o' => o'.entropy = o.entropy)
      (fun st st' h => ?_) fun _ _ _ _ h ho => h.withOutside ho) fun id =>
        Lockstep.modify fun _ _ h => h.withPeerNodeId _
    rw [randomU64_run, randomU64_run, h.entropy]
    exact ⟨rfl, rfl⟩

section Locks

variable {iflag : Bool} (hi : m.iflag = .ok iflag) (hi' : m'.iflag = .ok iflag)

include hi hi'

theorem lock_encryptMessage : Lockstep (SendsAlike counter counter') (SendsAlike counter counter')
    (do let r ← encryptMessage A m; transmit r.2)
    (do let r ← encryptMessage A m'; transmit r.2) := by
  unfold encryptMessage
  rw [hi, hi']
  simp only [bind_assoc]
  refine Lockstep.after_lift (fun _ _ h => h) fun _ _ => Lockstep.after_get fun st st' h => ?_
  rw [h.cryptoContext]
  cases st.session.cryptoContext with
  | none =>
    exact Lockstep.before (Lockstep.throw _ fun _ _ h => h) fun _ => lock_transmit _ _
  | some c =>
    simp only [bind_assoc, pure_bind]
    exact Lockstep.before (Lockstep.modify fun _ _ h => h.withOutside h.entropy) fun _ =>
      lock_transmit _ _

theorem lock_addressUnencrypted
    (hfrom : ∀ id, (fromNode id m).map (fun _ => ()) = (fromNode id m').map fun _ => ())
    (hto : ∀ id, (toNode id m).map (fun _ => ()) = (toNode id m').map fun _ => ()) :
    Lockstep (SendsAlike counter counter') (SendsAlike counter counter')
      (do let r ← addressUnencrypted m; transmit r.2)
      (do let r ← addressUnencrypted m'; transmit r.2) := by
  unfold addressUnencrypted
  rw [hi, hi']
  simp only [bind_assoc]
  refine Lockstep.after_lift (fun _ _ h => h) fun initiator _ => ?_
  cases initiator with
  | true =>
    simp only [if_true, bind_assoc, pure_bind]
    refine Lockstep.before lock_allocatePeerNodeId fun _ => Lockstep.after_get fun st st' h => ?_
    rw [h.peerNodeId]
    exact Lockstep.after_lifts (hfrom _) (fun _ _ h => h) fun _ _ => lock_transmit _ _
  | false =>
    simp only [Bool.false_eq_true, if_false, bind_assoc]
    refine Lockstep.after_get fun st st' h => ?_
    unfold hasPeerNodeId
    rw [h.peerNodeId]
    split
    · simp only [bind_assoc, pure_bind]
      refine Lockstep.after_get fun st st' h => ?_
      rw [h.peerNodeId]
      exact Lockstep.after_lifts (hto _) (fun _ _ h => h) fun _ _ => lock_transmit _ _
    · exact Lockstep.before (Lockstep.throw _ fun _ _ h => h) fun _ => lock_transmit _ _

end Locks

/-- What is stamped with another counter goes out alike. -/
theorem lock_sendStamped (hm : m.buffer = stampedHeader id counter ++ rest)
    (hm' : m'.buffer = stampedHeader id counter' ++ rest) {a b : Nat} (hrest : 1 ≤ rest.length)
    (hsource : m.hasSource = false) (hsource' : m'.hasSource = false)
    (hdest : m.hasDestination = false) (hdest' : m'.hasDestination = false) :
    Lockstep (SendsAlike a b) (SendsAlike a b)
      (do let _ ← sendStamped A m) (do let _ ← sendStamped A m') := by
  have hi := stamped_iflag hm hrest
  have hi' := stamped_iflag hm' hrest
  unfold sendStamped
  rw [headed_isEncrypted hm, headed_isEncrypted hm']
  simp only [bind_assoc]
  refine Lockstep.after_lift (fun _ _ h => h) fun encrypted _ => ?_
  cases encrypted with
  | true =>
    simp only [if_true, bind_assoc, pure_bind, bind_pure_unit]
    exact lock_encryptMessage hi hi'
  | false =>
    simp only [Bool.false_eq_true, if_false, bind_assoc, pure_bind, bind_pure_unit]
    exact lock_addressUnencrypted hi hi' (fromNode_alike hm hm' hsource hsource')
      (toNode_alike hm hm' hdest hdest')

/-- **Sessions that differ in their counters send alike**, as long as both counters fit: a message
    is sent on both, or both throw the same, and both have taken a counter or none. -/
theorem sendMessage_alike (A : Aead) {msg : Message} (hlen : 9 ≤ msg.buffer.length)
    (hsource : msg.hasSource = false) (hdest : msg.hasDestination = false) {st st' : SendState}
    (h : SendsAlike counter counter' st st') (hc : counter < 2 ^ 32) (hc' : counter' < 2 ^ 32) :
    ∃ k ≤ 1, Together (SendsAlike (counter + k) (counter' + k))
      ((do let _ ← sendMessage A msg : SendM Unit).run st)
      ((do let _ ← sendMessage A msg : SendM Unit).run st') := by
  have haddr' : st'.session.address msg = st.session.address msg := by
    unfold address
    rw [h.peerSessionId]
  cases haddr : st.session.address msg with
  | error e =>
    refine ⟨0, Nat.zero_le _, ?_⟩
    rw [run_bind_error (sendMessage_address_error haddr),
      run_bind_error (sendMessage_address_error (haddr'.trans haddr))]
    exact ⟨rfl, h⟩
  | ok m =>
    obtain ⟨id, hid⟩ := headerId_of_address haddr
    have hstamp (s : Session) (hid : headerId s.peerSessionId = some id)
        (hlt : s.messageCounter < 2 ^ 32) : ∃ m : Message, s.stamp msg = .ok m ∧
          m.buffer = stampedHeader id s.messageCounter ++ msg.buffer.drop 8 ∧
          m.hasSource = false ∧ m.hasDestination = false :=
      ⟨_, stamp_eq_ok_iff.mpr ⟨id, hid, hlt, Nat.le_of_succ_le hlen, rfl⟩, rfl, hsource, hdest⟩
    obtain ⟨m1, h1, hm1, hs1, hd1⟩ := hstamp st.session hid (h.counter.trans_lt hc)
    obtain ⟨m2, h2, hm2, hs2, hd2⟩ := hstamp st'.session (h.peerSessionId ▸ hid)
      (h.counter'.trans_lt hc')
    have hrest : 1 ≤ (msg.buffer.drop 8).length := by
      rw [List.length_drop]
      omega
    refine ⟨1, le_rfl, ?_⟩
    rw [run_bind_congr (sendMessage_stamped h1), run_bind_congr (sendMessage_stamped h2)]
    exact lock_sendStamped hm1 hm2 hrest hs1 hs2 hd1 hd2 _ _ h.counted

/-! ## 4. What draws no node id -/

/-- The session draws no node id for a message with the I flag, or without: it knows its peer, its
    header goes with an encrypted message, or the message is a responder's. -/
def Spares (s : Session) (iflag : Bool) : Prop :=
  s.hasPeerNodeId = true ∨ headerId s.peerSessionId ≠ some 0 ∨ iflag = false

instance (s : Session) (iflag : Bool) : Decidable (s.Spares iflag) :=
  inferInstanceAs (Decidable (_ ∨ _ ∨ _))

/-- It is about what the counters leave. -/
theorem SameButCounters.spares {s s' : Session} (h : s.SameButCounters s') {iflag : Bool}
    (hs : s.Spares iflag) : s'.Spares iflag := by
  unfold SameButCounters at h
  unfold Spares hasPeerNodeId at hs ⊢
  rw [h]
  exact hs

/-- The session in hand. -/
abbrev Is (s : Session) (st : SendState) : Prop := st.session = s

section Spared

variable {s : Session}

theorem is_transmit (buf : Bytes) : Keeps (Is s) (transmit buf) := by
  refine Keeps.bind Keeps.get fun st => ?_
  cases st.session.peerInfo with
  | none => exact Keeps.throw _
  | some peer => exact Keeps.modify fun _ hst => hst

theorem is_encryptMessage : Keeps (Is s) (encryptMessage A m) := by
  refine Keeps.bind (Keeps.lift _) fun iflag => Keeps.bind Keeps.get fun st => ?_
  cases st.session.cryptoContext with
  | none => exact Keeps.throw _
  | some c => exact Keeps.bind (Keeps.modify fun _ hst => hst) fun _ => Keeps.pure _

theorem is_addressUnencrypted {iflag : Bool} (hi : m.iflag = .ok iflag)
    (hs : s.hasPeerNodeId = true ∨ iflag = false) : Keeps (Is s) (addressUnencrypted m) := by
  unfold addressUnencrypted
  rw [hi]
  refine Triple.after_lift (fun _ h => h) fun initiator hinitiator => ?_
  cases initiator with
  | true =>
    have hhas : s.hasPeerNodeId = true := hs.resolve_right fun h => by
      rw [Except.ok.inj hinitiator] at h
      cases h
    have halloc : Keeps (Is s) allocatePeerNodeId := Keeps.of_final fun st hst => by
      unfold allocatePeerNodeId
      rw [run_bind_ok (run_get st), if_pos (by rw [hst, hhas])]
      exact hst
    exact Keeps.bind halloc fun _ => Keeps.bind Keeps.get fun _ =>
      Keeps.bind (Keeps.lift _) fun _ => Keeps.pure _
  | false =>
    refine Keeps.bind Keeps.get fun st => ?_
    split
    · exact Keeps.bind Keeps.get fun _ => Keeps.bind (Keeps.lift _) fun _ => Keeps.pure _
    · exact Keeps.throw _

/-- A stamped message leaves the session as it is, where none is drawn. -/
theorem is_sendStamped (A : Aead) (hm : m.buffer = stampedHeader id counter ++ rest)
    (hrest : 1 ≤ rest.length) (hid : id < 65536)
    (hs : id = 0 → s.hasPeerNodeId = true ∨ beginsOdd rest = false) :
    Keeps (Is s) (sendStamped A m) := by
  have hthen (r : Message × Bytes) : Keeps (Is s) (do transmit r.2; return r.1 : SendM Message) :=
    Keeps.bind (is_transmit r.2) fun _ => Keeps.pure r.1
  unfold sendStamped
  rw [headed_isEncrypted hm, Nat.mod_eq_of_lt hid]
  refine Triple.after_lift (fun _ h => h) fun encrypted hencrypted => ?_
  cases encrypted with
  | true => exact Keeps.bind is_encryptMessage hthen
  | false =>
    have hzero : id = 0 := by simpa using hencrypted
    exact Keeps.bind (is_addressUnencrypted (stamped_iflag hm hrest) (hs hzero)) hthen

/-- **A message that draws no node id** leaves its session but for the counters, which only grow. -/
theorem sendMessage_spared (A : Aead) {msg : Message} (hlen : 9 ≤ msg.buffer.length)
    {st : SendState} (hs : st.session.Spares (beginsOdd (msg.buffer.drop 8))) :
    let after := (final ((sendMessage A msg).run st)).session
    st.session.SameButCounters after ∧ st.session.messageCounter ≤ after.messageCounter := by
  have hrest : 1 ≤ (msg.buffer.drop 8).length := by
    rw [List.length_drop]
    omega
  cases haddr : st.session.address msg with
  | error e =>
    rw [sendMessage_address_error haddr]
    exact ⟨rfl, le_rfl⟩
  | ok m =>
    cases hcount : m.setMessageCounter (.nat st.session.messageCounter) with
    | error e =>
      rw [sendMessage_stamp_error haddr hcount]
      exact ⟨rfl, Nat.le_succ _⟩
    | ok m1 =>
      have hstamp : st.session.stamp msg = .ok m1 := by
        unfold stamp
        rw [haddr]
        exact hcount
      obtain ⟨id, hid, -, -, rfl⟩ := stamp_eq_ok_iff.mp hstamp
      have hkeeps := @is_sendStamped { msg with
        buffer := stampedHeader id st.session.messageCounter ++ msg.buffer.drop 8 } id
        st.session.messageCounter (msg.buffer.drop 8) (countTx (takeCounter st)).session A rfl hrest
        (headerId_lt hid) fun hzero => hs.imp_right fun h => h.resolve_left fun h => h (hzero ▸ hid)
      rw [sendMessage_stamped hstamp]
      have hend : (final ((sendStamped A { msg with
          buffer := stampedHeader id st.session.messageCounter ++ msg.buffer.drop 8 }).run
            (countTx (takeCounter st)))).session = (countTx (takeCounter st)).session :=
        hkeeps.final rfl
      dsimp only
      rw [hend]
      exact ⟨rfl, Nat.le_succ _⟩

end Spared

end Session

/-! ## 5. Frames -/

/-- The other transmission is the same, but for the bytes of the message counter. -/
structure Transmission.SameButCounter (t t' : Transmission) : Prop where
  transport : t'.transport = t.transport
  peer : t'.peer = t.peer
  before : t'.frame.take 4 = t.frame.take 4
  behind : t'.frame.drop 8 = t.frame.drop 8

theorem Transmission.SameButCounter.refl (t : Transmission) : t.SameButCounter t :=
  ⟨rfl, rfl, rfl, rfl⟩

theorem take_header (flags : UInt8) (id counter : Nat) (rest : Bytes) :
    (header flags id counter ++ rest).take 4 = flags :: (toLE 2 id ++ [0]) := by
  have hsplit : header flags id counter ++ rest =
      (flags :: (toLE 2 id ++ [0])) ++ (toLE 4 counter ++ rest) := by
    simp [header]
  rw [hsplit]
  exact List.take_left' (by simp)

/-- **A message in the clear goes out as the same frame**, but for the counter, on sessions that
    differ in their counters. -/
theorem Session.SameButCounters.transmission {s s' : Session} (h : s.SameButCounters s')
    {peer peer' : PeerInfo} (hpeer : s.peerInfo = some peer) (hpeer' : s'.peerInfo = some peer')
    {id id' : Nat} (hid : s.peerNodeId = some id) (hid' : s'.peerNodeId = some id') (ex : Exchange)
    (c : Content) :
    Transmission.SameButCounter ⟨s.transport, peer, clearFrame ex id s.messageCounter c⟩
      ⟨s'.transport, peer', clearFrame ex id' s'.messageCounter c⟩ := by
  obtain rfl := Option.some.inj (hid'.symm.trans (h.peerNodeId.trans hid))
  obtain rfl := Option.some.inj (hpeer'.symm.trans (h.peerInfo.trans hpeer))
  refine ⟨h.transport, rfl, ?_, ?_⟩
  · exact (take_header ..).trans (take_header ..).symm
  · exact (List.drop_left' (length_header ..)).trans (List.drop_left' (length_header ..)).symm

end Matternode.Messaging
