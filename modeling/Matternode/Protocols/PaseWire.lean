/-
  File:      Matternode/Protocols/PaseWire.lean
  Subject:   A PASE handshake between two whole nodes, over a network that carries their frames.

  A frame that a node hands over goes to the other as a datagram, from whatever that node has done
  before. The PaseSessions of the two exchanges do what two PaseSessions do that get each other's
  messages.

  * `Follows` -- a node does on an exchange what a PaseSession with a node of its own does;
  * `Follows.message`, `Follows.resume` -- **it does so when a frame of the other end comes**;
  * `Link`, `Link.step` -- two nodes, and the network between two of their exchanges;
  * `established_over_link` -- **the shell's command makes one session on both**, from any two runs.
-/
import Matternode.Protocols.Hosting
import Matternode.Protocols.PaseAgreement

namespace Matternode.Protocols

open Base Js Messaging Tlv

variable {V : Type}

/-! ## 1. Messages -/

section Messages

variable (P : Packages V)

/-- A handler reads the bytes of a message only. -/
theorem onExchangeMessage_rawMessage (frame : Bytes) (peer : PeerInfo) :
    PaseSession.onExchangeMessage P (rawMessage frame peer) =
      PaseSession.onExchangeMessage P { buffer := frame } := rfl

/-- A message that comes is acknowledged first. -/
theorem step_message_acknowledged {h : PaseHost V} {msg : Message} {counter : Nat}
    (hcounter : msg.messageCounter = .ok counter) :
    h.step P (.message msg) = final ((PaseSession.onExchangeMessage P msg).run { h with
      node := h.node.modifyExchange h.exchange fun ex => { ex with ackCounter := counter } }) := by
  have hack : (PaseSession.acknowledge msg : PaseM V Unit).run h = .ok () { h with
      node := h.node.modifyExchange h.exchange fun ex => { ex with ackCounter := counter } } := by
    unfold PaseSession.acknowledge
    rw [run_bind_ok (run_lift_of hcounter h)]
    rfl
  show final ((PaseSession.acknowledge msg >>= fun _ => PaseSession.onExchangeMessage P msg).run h) = _
  rw [run_bind_ok hack]

end Messages

/-! ## 2. A node that follows -/

namespace Device

variable {W : Surroundings V} {D : Device V} {i j k nodeId exchangeId : Nat} {peer : PeerInfo}
  {isInitiator : Bool} {old : List Transmission} {h : PaseHost V}

/-- The PaseSession of the exchange is as the other, whose node heard nothing. -/
def Follows (i j : Nat) (peer : PeerInfo) (nodeId exchangeId : Nat) (isInitiator : Bool)
    (old : List Transmission) (k : Nat) (D : Device V) (h : PaseHost V) : Prop :=
  ∃ h', D.Hosts i h' ∧ Alike (Node.Echoes i j peer nodeId exchangeId isInitiator old) i k h h'

/-- The same was handed over. -/
theorem Follows.streams (hD : Follows i j peer nodeId exchangeId isInitiator old k D h) :
    (D.protocol.streams i).transmitted = h.transmitted := by
  obtain ⟨h', hhosts, -, hnode⟩ := hD
  have houtside : D.protocol.streams i = h'.node.sessions.outside :=
    congrArg (fun n : Node => n.sessions.outside) hhosts.node
  rw [houtside, hnode.outside]
  rfl

theorem Follows.secured (hD : Follows i j peer nodeId exchangeId isInitiator old k D h) :
    D.node.sessions.sessionsSecured = h.secured := by
  obtain ⟨h', hhosts, -, hnode⟩ := hD
  have hsecured : D.node.sessions.sessionsSecured = h'.node.sessions.sessionsSecured := by
    rw [← hhosts.node]
    rfl
  exact hsecured.trans hnode.secured

/-- The PaseSession is the same. -/
theorem Follows.pase (hD : Follows i j peer nodeId exchangeId isInitiator old k D h) :
    ∃ p, D.protocol.on i = [p] ∧ p.pase = h.pase := by
  obtain ⟨h', hhosts, hsame, -⟩ := hD
  exact ⟨h'.entry, hhosts.only, hsame.pase⟩

/-- What was handed over since is said to the peer. -/
theorem Follows.said (hD : Follows i j peer nodeId exchangeId isInitiator old k D h)
    {before : List Transmission} {t : Transmission} (ht : h.transmitted = before ++ [t])
    (hle : old.length ≤ before.length) : Node.Said peer nodeId exchangeId isInitiator t := by
  obtain ⟨h', -, -, hnode⟩ := hD
  obtain ⟨new, hnew, hsaid⟩ := hnode.left.said
  refine hsaid t ?_
  have hlast : (old ++ new).getLast? = some t := by
    rw [← hnew, show h.node.sessions.outside.transmitted = before ++ [t] from ht,
      List.getLast?_concat]
  have hne : new ≠ [] := by
    intro hempty
    have hlen := congrArg List.length (hnew.symm.trans ht)
    rw [hempty] at hlen
    simp at hlen
    omega
  rw [List.getLast?_append_of_ne_nil _ hne] at hlast
  exact List.mem_of_getLast? hlast

/-- **A frame of the other end comes.** -/
theorem Follows.message (hD : Follows i j peer nodeId exchangeId isInitiator old (k + 1) D h)
    (hpos : 0 < nodeId) (hnode : nodeId < 2 ^ 64) (hx : exchangeId < 65536) {t : Transmission}
    {peer' : PeerInfo} (ht : Node.Said peer' nodeId exchangeId (!isInitiator) t) :
    Follows i j peer nodeId exchangeId isInitiator old k (D.step W (.datagram t.frame peer))
      (h.step W.packages (.message { buffer := t.frame })) := by
  obtain ⟨h', hhosts, hsame, hechoes⟩ := hD
  obtain ⟨c, -, hframe⟩ := ht.frame
  have hears : D.node.Hears i j peer nodeId exchangeId isInitiator := by
    have heq : h'.node = D.protocol.nodeOf i := hhosts.node.symm
    have hright := hechoes.right.hears
    rw [heq] at hright
    exact hright.congr rfl rfl
  obtain ⟨counter, hlt, hcounter, hrun⟩ := hears.frame W.packages.aead hx hnode hframe
  have hmessage := hhosts.message hrun
  have hnodes : (D.node.heard i j (rawMessage t.frame peer) counter).withOutside
      (D.protocol.streams i) = h'.node.heard i j (rawMessage t.frame peer) counter := by
    rw [← hhosts.node]
    rfl
  rw [hnodes, onExchangeMessage_rawMessage] at hmessage
  refine ⟨_, hmessage, ?_⟩
  have hcounter' : ({ buffer := t.frame } : Message).messageCounter = .ok counter := hcounter
  rw [step_message_acknowledged W.packages hcounter']
  have hheard : Alike (Node.Echoes i j peer nodeId exchangeId isInitiator old) i (k + 1)
      { h with node := h.node.modifyExchange h.exchange fun ex => { ex with ackCounter := counter } }
      { h' with node := h'.node.heard i j (rawMessage t.frame peer) counter } := by
    refine ⟨hsame.withNode List.prefix_rfl List.prefix_rfl, ?_⟩
    rw [hsame.exchange]
    exact hechoes.heard rfl hlt
  exact (PaseSession.lock_onExchangeMessage
    (moves_alike (Node.moves_echoes W.packages.aead hpos)) _).final hheard

/-- **What was awaited comes.** -/
theorem Follows.resume (hD : Follows i j peer nodeId exchangeId isInitiator old (k + 1) D h)
    (hpos : 0 < nodeId) (coin : Nat) :
    Follows i j peer nodeId exchangeId isInitiator old k (D.step W (.resume i 0 0 coin))
      (h.step W.packages (.resume 0 coin)) := by
  obtain ⟨h', hhosts, halike⟩ := hD
  exact ⟨_, hhosts.resume 0 coin,
    (moves_alike (Node.moves_echoes W.packages.aead hpos)).step (e := .resume 0 coin) trivial halike⟩

/-- All that was awaited comes, one after the other. -/
theorem Follows.awaited (hD : Follows i j peer nodeId exchangeId isInitiator old (k + 3) D h)
    (hpos : 0 < nodeId) (coin : Nat) :
    Follows i j peer nodeId exchangeId isInitiator old k
      (run (Device.step W) D (List.replicate 3 (.resume i 0 0 coin)))
      (run (PaseHost.step W.packages) h (PaseHost.awaited coin)) :=
  ((hD.resume hpos coin).resume hpos coin).resume hpos coin

end Device

/-! ## 3. The first frames -/

namespace PaseSession

variable {P : Packages V}

/-- What is left of a host that sent a message. -/
theorem sendMessage_leaves (msg : Message) (h : PaseHost V) :
    final ((sendMessage P msg).run h) = { h with
      sent := h.sent ++ [msg]
      node := final ((Node.sendMessage P.aead h.exchange msg).run h.node) } := by
  unfold sendMessage
  rw [run_bind_ok (run_modify _ h)]
  exact PaseHost.final_transmit msg _

/-- **What a request is drawn and made of**: 34 bytes, and then it goes out. -/
theorem step_start_node {h : PaseHost V} (hidle : h.pase.state = .idle) :
    ∃ payload, (h.step P .start).node = final ((Node.sendMessage P.aead h.exchange
        (contentOf opParamRequest payload).message).run
          (h.node.withEntropy fun j => h.node.sessions.outside.entropy (34 + j))) ∧
      (h.step P .start).created = h.created ∧ (h.step P .start).exchange = h.exchange := by
  let o := h.node.sessions.outside
  let id := ofBE ((List.range 2).map o.entropy)
  let random : ByteString := ⟨(List.range 32).map fun j => o.entropy (2 + j), by
    rw [List.length_map, List.length_range]
    decide⟩
  have hdrawn : randomU16.run o = .ok id { o with entropy := fun j => o.entropy (2 + j) } := rfl
  have hrandom := Session.randomBytes_run 32 { o with entropy := fun j => o.entropy (2 + j) }
  obtain ⟨payload, -, hpayload, -⟩ := request_readsBack random (randomU16_lt hdrawn)
  have hmsg := StatusReport.protocolMessage_content (show opParamRequest < 256 by decide) payload
  have hdraw := run_draw (V := V) (m := randomU16)
    (h := { h with pase := { h.pase with localRole := .initiator } }) hdrawn
  have hdraw' := run_draw (V := V) (m := randomBytes 32) (h := { h with
    pase := { h.pase with localRole := .initiator, initiatorSessionId := .nat id }
    node := { h.node with sessions := { h.node.sessions with
      outside := { o with entropy := fun j => o.entropy (2 + j) } } } }) hrandom
  have hentropy : (fun j => o.entropy (2 + (32 + j))) = fun j => o.entropy (34 + j) := by
    funext j
    rw [← Nat.add_assoc]
  refine ⟨payload, ?_⟩
  have hstep : h.step P .start = final ((do
      setState .awaitPbkdfParamRsp
      sendMessage P (contentOf opParamRequest payload).message : PaseM V Unit).run { h with
        pase := { h.pase with
          localRole := .initiator, initiatorSessionId := .nat id
          initiatorRandom := .buffer random.bytes, passcodeId := .nat 0, pbkdfRequest := some payload }
        node := h.node.withEntropy fun j => o.entropy (2 + (32 + j)) }) := by
    show final ((startPase P).run h) = _
    unfold startPase
    rw [run_bind_ok (run_get h), if_neg (not_not.mpr hidle)]
    unfold sendPbkdfParamRequest
    rw [assign, run_bind_ok (run_modify _ h), run_bind_ok hdraw, assign,
      run_bind_ok (run_modify _ _), run_bind_ok hdraw', assign, run_bind_ok (run_modify _ _),
      run_bind_ok (run_lift_of hpayload _), assign, run_bind_ok (run_modify _ _),
      run_bind_ok (run_lift_of hmsg _)]
    rfl
  rw [hentropy] at hstep
  obtain ⟨stateTimeout, timers, nextTimer, hset⟩ := run_setState .awaitPbkdfParamRsp { h with
    pase := { h.pase with
      localRole := .initiator, initiatorSessionId := .nat id
      initiatorRandom := .buffer random.bytes, passcodeId := .nat 0, pbkdfRequest := some payload }
    node := h.node.withEntropy fun j => o.entropy (34 + j) }
  rw [hstep, run_bind_ok hset, sendMessage_leaves]
  exact ⟨rfl, rfl, rfl⟩

end PaseSession

namespace Device

variable {W : Surroundings V} {Free : Nat → Identity → Prop} {D : Device V} {peer : PeerInfo}
  {c : Content}

/-- The bytes that the node id of a handshake is drawn of: those after the session id and the random of
    its request. -/
def nextNodeId (D : Device V) : Nat :=
  drawnNodeId fun j => (D.protocol.streams D.node.exchanges.length).entropy (34 + j)

/-- The PaseSession that begins a handshake here, before it does. -/
def caller (D : Device V) (peer : PeerInfo) : PaseHost V :=
  .create ((D.node.dialled peer).withOutside (D.protocol.streams D.node.exchanges.length))
    D.node.exchanges.length D.protocol.params

theorem caller_speaks (hx : D.node.nextExchangeId < 65536) {k : Nat} (hk : k ≤ 2 ^ 31) :
    ((D.node.dialled peer).withOutside (D.protocol.streams D.node.exchanges.length)).Speaks
      D.node.exchanges.length k := by
  obtain ⟨ex, s, hex, href, hs, hconv, -⟩ := Node.dialled_last D.node peer (f := id)
    (D.protocol.streams D.node.exchanges.length) ⟨fun _ => rfl, fun _ => rfl, fun _ => rfl,
      fun _ h => h⟩ hx hk
  refine ⟨ex, _, s, ?_, href, hs, hconv⟩
  rw [← hex]
  unfold Node.modifyExchange
  rw [List.modify_id]

/-- **The shell's command hands over a request**, and the exchange goes on as its PaseSession. -/
theorem follows_pase (hD : D.Kept W Free) (hseated : D.node.Seated) (hx : D.node.nextExchangeId < 65536)
    (hpos : 0 < D.nextNodeId) (hnone : findContact peer D.nextNodeId D.node.contacts = .ok none)
    {k : Nat} (hk : k < 2 ^ 31) :
    let i := D.node.exchanges.length
    let old := (D.protocol.streams i).transmitted
    Follows i D.node.contacts.length peer D.nextNodeId D.node.nextExchangeId true old k
        (D.step W (.pase peer)) ((D.caller peer).step W.packages .start) ∧
      ∃ payload t, ((D.caller peer).step W.packages .start).transmitted = old ++ [t] ∧
        t.peer = peer ∧ Node.FrameOf D.nextNodeId D.node.nextExchangeId true
          (contentOf opParamRequest payload) t.frame := by
  intro i old
  obtain ⟨payload, hnode, hcreated, hexchange⟩ :=
    PaseSession.step_start_node (P := W.packages) (h := D.caller peer) rfl
  obtain ⟨htalks, t, ht, hpeer, hframe⟩ := Node.sendMessage_dialled D.node peer
    (o := { D.protocol.streams i with entropy := fun j => (D.protocol.streams i).entropy (34 + j) })
    W.packages.aead hseated hx hpos hnone Exchange.stays_isReliable
    (content_inRange (show opParamRequest < 256 by decide) payload) hk
  have hsame := hnode
  rw [show (D.caller peer).exchange = i from rfl] at hsame
  refine ⟨⟨_, hosts_pase hD peer, SameHost.refl hexchange ?_, ?_⟩, payload, t, ?_, hpeer, hframe⟩
  · show Stand _ ((D.caller peer).step W.packages .start).created
    rw [hcreated]
    exact fun c hc => absurd hc List.not_mem_nil
  · show Node.Echoes _ _ _ _ _ _ _ _ ((D.caller peer).step W.packages .start).node
      ((D.caller peer).step W.packages .start).node
    rw [hsame]
    exact htalks.echoes
  · show ((D.caller peer).step W.packages .start).node.sessions.outside.transmitted = _
    rw [hsame]
    exact ht

/-- The PaseSession that a first frame begins here, before it does anything. -/
def callee (D : Device V) (frame : Bytes) (peer : PeerInfo) (nodeId exchangeId counter : Nat)
    (rflag : Bool) : Node :=
  (D.node.begun (rawMessage frame peer) nodeId exchangeId counter rflag).withOutside
    (D.protocol.streams D.node.exchanges.length)

/-- **A first request makes a PaseSession that answers it**, on an exchange that hears the peer. -/
theorem follows_begun (hD : D.Kept W Free) (hseated : D.node.Seated) {nodeId exchangeId : Nat}
    {payload frame : Bytes} (hframe : Node.FrameOf nodeId exchangeId true
      (contentOf opParamRequest payload) frame) (hpos : 0 < nodeId) (hnode : nodeId < 2 ^ 64)
    (hx : exchangeId < 65536) (hnone : findContact peer nodeId D.node.contacts = .ok none) {k : Nat}
    (hk : k < 2 ^ 31) :
    let i := D.node.exchanges.length
    ∃ counter rflag, let m := D.callee frame peer nodeId exchangeId counter rflag
      m.Speaks i (k + 1) ∧ Follows i D.node.contacts.length peer nodeId exchangeId false
        (D.protocol.streams i).transmitted k (D.step W (.datagram frame peer))
        ((PaseHost.create m i D.protocol.params).step W.packages (.message { buffer := frame })) := by
  intro i
  have hc := content_inRange (show opParamRequest < 256 by decide) payload
  obtain ⟨ex, counter, rfl, rfl, hrole, hcounter⟩ := hframe
  let frame := clearFrame ex nodeId counter (contentOf opParamRequest payload)
  have hcarried : (contentOf opParamRequest payload).CarriedBy (rawMessage frame peer) :=
    Node.carriedBy_rawMessage peer hc hx hcounter
  obtain ⟨id, hid⟩ := hcarried.exchangeId
  obtain ⟨rflag, hrun⟩ := Node.run_onDatagram_begins W.packages.aead hseated hnone hc hx hrole hnode
    hcounter
  refine ⟨counter, rflag, ?_, ?_⟩
  · exact Node.speaks_begun D.node rfl hpos hnode hx hcounter (Nat.succ_le_of_lt hk)
  let m := D.callee frame peer nodeId ex.exchangeId counter rflag
  have hhosts := hosts_begun hD hrun hcarried.protocolOpcode hid
  have hmcounter : ({ buffer := frame } : Message).messageCounter = .ok counter :=
    headed_messageCounter rfl hcounter
  -- the exchange was begun with the counter of the message
  have hacknowledged : (PaseHost.create (V := V) m i D.protocol.params).node.modifyExchange i
      (fun ex => { ex with ackCounter := counter }) =
        (PaseHost.create (V := V) m i D.protocol.params).node := by
    have hlast : (PaseHost.create (V := V) m i D.protocol.params).node.exchanges[i]? =
        some { Node.remoteExchange (.unsecured D.node.sessions.sessionsUnsecured.length) ex.exchangeId
          counter rflag with isReliable := true } := by
      show ((D.node.exchanges ++ [_]).modify D.node.exchanges.length _)[D.node.exchanges.length]? = _
      rw [List.getElem?_modify_eq, List.getElem?_concat_length]
      rfl
    exact Node.modifyExchange_self hlast rfl
  have hstep : (PaseHost.create m i D.protocol.params).step W.packages (.message { buffer := frame }) =
      final ((PaseSession.onExchangeMessage W.packages (rawMessage frame peer)).run
        (.create m i D.protocol.params)) := by
    rw [step_message_acknowledged W.packages hmcounter, onExchangeMessage_rawMessage,
      show (PaseHost.create m i D.protocol.params : PaseHost V).exchange = i from rfl, hacknowledged]
    rfl
  have htalks : m.Talks i D.node.contacts.length peer nodeId ex.exchangeId false
      (D.protocol.streams i).transmitted (k + 1) := by
    refine ⟨?_, Node.speaks_begun D.node rfl hpos hnode hx hcounter (Nat.succ_le_of_lt hk), [],
      (List.append_nil _).symm, fun t ht => absurd ht List.not_mem_nil⟩
    exact (Node.hears_begun D.node hseated hnone rfl).congr rfl rfl
  have hR : Node.Moves W.packages.aead i (Node.Echoes i D.node.contacts.length peer nodeId ex.exchangeId
      false (D.protocol.streams i).transmitted) := Node.moves_echoes W.packages.aead hpos
  refine ⟨_, hhosts, ?_⟩
  rw [hstep]
  exact (PaseSession.lock_onExchangeMessage (moves_alike hR) _).final
    (alike_create hR htalks.echoes D.protocol.params)

end Device

/-! ## 4. Two nodes -/

/-- Two nodes, and a network that carries in order what an exchange of each hands over to the address
    of the other. -/
structure Link (V : Type) where
  left : Device V
  right : Device V
  leftAddress : PeerInfo
  rightAddress : PeerInfo
  leftExchange : Nat
  rightExchange : Nat
  /-- How many of the frames of the exchanges were carried. -/
  fromLeft : Nat
  fromRight : Nat

inductive LinkEvent where
  /-- The shell's command on the left, with the address of the right. -/
  | pase
  | toRight
  | toLeft
  /-- What a handler of the exchange on this side awaited has come. -/
  | leftResumes (coin : Nat)
  | rightResumes (coin : Nat)

namespace Link

/-- One event. A frame for another address goes elsewhere. -/
def step (W W' : Surroundings V) (L : Link V) : LinkEvent → Link V
  | .pase => { L with left := L.left.step W (.pase L.rightAddress) }
  | .toRight =>
    match (L.left.protocol.streams L.leftExchange).transmitted[L.fromLeft]? with
    | some t => { L with
        right := if t.peer = L.rightAddress then L.right.step W' (.datagram t.frame L.leftAddress)
          else L.right
        fromLeft := L.fromLeft + 1 }
    | none => L
  | .toLeft =>
    match (L.right.protocol.streams L.rightExchange).transmitted[L.fromRight]? with
    | some t => { L with
        left := if t.peer = L.leftAddress then L.left.step W (.datagram t.frame L.rightAddress)
          else L.left
        fromRight := L.fromRight + 1 }
    | none => L
  | .leftResumes coin => { L with left := L.left.step W (.resume L.leftExchange 0 0 coin) }
  | .rightResumes coin => { L with right := L.right.step W' (.resume L.rightExchange 0 0 coin) }

/-- The two nodes are joined; the exchanges are those that they begin next. -/
def join (A B : Device V) (leftAddress rightAddress : PeerInfo) : Link V where
  left := A
  right := B
  leftAddress
  rightAddress
  leftExchange := A.node.exchanges.length
  rightExchange := B.node.exchanges.length
  fromLeft := (A.protocol.streams A.node.exchanges.length).transmitted.length
  fromRight := (B.protocol.streams B.node.exchanges.length).transmitted.length

/-- The events of a handshake; `a` and `b` are what the two sides draw. -/
def handshake (a b : Nat) : List LinkEvent :=
  [.pase, .toRight, .toLeft] ++ List.replicate 3 (.leftResumes a) ++
    [.toRight] ++ List.replicate 3 (.rightResumes b) ++ [.toLeft, .toRight]

section Steps

variable {W W' : Surroundings V} {L : Link V} {before : List Transmission} {t : Transmission}

/-- The frame that was handed over last is carried. -/
theorem step_toRight (ht : (L.left.protocol.streams L.leftExchange).transmitted = before ++ [t])
    (hlen : L.fromLeft = before.length) (hpeer : t.peer = L.rightAddress) :
    L.step W W' .toRight = { L with
      right := L.right.step W' (.datagram t.frame L.leftAddress), fromLeft := before.length + 1 } := by
  unfold step
  rw [hlen, ht, List.getElem?_concat_length]
  dsimp only
  rw [if_pos hpeer]

theorem step_toLeft (ht : (L.right.protocol.streams L.rightExchange).transmitted = before ++ [t])
    (hlen : L.fromRight = before.length) (hpeer : t.peer = L.leftAddress) :
    L.step W W' .toLeft = { L with
      left := L.left.step W (.datagram t.frame L.rightAddress), fromRight := before.length + 1 } := by
  unfold step
  rw [hlen, ht, List.getElem?_concat_length]
  dsimp only
  rw [if_pos hpeer]

end Steps

end Link

/-! ## 5. The handshake -/

/-- **One secure session more on both**, with mirrored ids and the same keys; both PaseSessions are
    done, and the five messages of the handshake were carried. The report that the right node hands
    over last is not. -/
structure Established (P : Packages V) (A B : Device V) (L : Link V) : Prop where
  idle : (∃ p, L.left.protocol.on L.leftExchange = [p] ∧ p.pase.state = .idle) ∧
    ∃ p, L.right.protocol.on L.rightExchange = [p] ∧ p.pase.state = .idle
  sessions : ∃ s t Ke,
    L.left.node.sessions.sessionsSecured = A.node.sessions.sessionsSecured ++ [s] ∧
    L.right.node.sessions.sessionsSecured = B.node.sessions.sessionsSecured ++ [t] ∧
    s.localSessionId = t.peerSessionId ∧ s.peerSessionId = t.localSessionId ∧
    s.cryptoContext = some (PaseSession.sessionKeys P Ke) ∧
    t.cryptoContext = some (PaseSession.sessionKeys P Ke)
  carried : L.fromLeft = (A.protocol.streams L.leftExchange).transmitted.length + 3 ∧
    L.fromRight = (B.protocol.streams L.rightExchange).transmitted.length + 2

section Handshake

open PaseSession Handshake

variable {W W' : Surroundings V} {Free Free' : Nat → Identity → Prop} {A B : Device V}
  {l r : PeerInfo} {a b passcode iterations : Nat} {salt : ByteString}

/-- **The handshake of two nodes that know nothing of each other.** -/
theorem established (hW : W'.packages = W.packages) (hP : W.packages.Agrees)
    (hA : A.Kept W Free) (hB : B.Kept W' Free') (hseatedA : A.node.Seated) (hseatedB : B.node.Seated)
    (hx : A.node.nextExchangeId < 65536) (hpos : 0 < A.nextNodeId)
    (hnewA : findContact r A.nextNodeId A.node.contacts = .ok none)
    (hnewB : findContact l A.nextNodeId B.node.contacts = .ok none)
    (hp : A.protocol.params.paircode = .nat passcode)
    (hq : B.protocol.params.Hold passcode iterations salt) (hpasscode : passcode < 2 ^ 32)
    (hone : 1 ≤ iterations) (hmax : iterations < 2 ^ 31) :
    Established W.packages A B (run (Link.step W W') (.join A B l r) (Link.handshake a b)) := by
  obtain ⟨P', sign', daPrivateKey'⟩ := W'
  obtain rfl : P' = W.packages := hW
  let P := W.packages
  let W' : Surroundings V := ⟨P, sign', daPrivateKey'⟩
  let e := A.node.exchanges.length
  let f := B.node.exchanges.length
  let oldA := (A.protocol.streams e).transmitted
  let oldB := (B.protocol.streams f).transmitted
  have hnode : A.nextNodeId < 2 ^ 64 := drawnNodeId_lt _
  obtain ⟨v, hv⟩ := deriveVerifier_ok hP salt hpasscode hone hmax
  -- the two PaseSessions, as if each had a node of its own
  obtain ⟨hfA1, payload, t₁, ht₁, hp₁, hframe₁⟩ :=
    A.follows_pase hA hseatedA hx hpos hnewA (k := 8) (by decide)
  obtain ⟨counter, rflag, hspeaks, hfB1⟩ :=
    B.follows_begun hB hseatedB hframe₁ hpos hnode hx hnewB (k := 8) (by decide)
  let m := B.callee t₁.frame l A.nextNodeId A.node.nextExchangeId counter rflag
  let i : PaseHost V := A.caller r
  let s : PaseHost V := .create m f B.protocol.params
  obtain ⟨x, hdelivered, hagreed, -⟩ := honest_agreed (P := P) (a := a) (b := b) hP
    (Device.caller_speaks (D := A) hx (by decide)) (hspeaks.mono (by decide)) hp hq
    (by omega) hv
  replace hdelivered : x.Delivered P a b i s := hdelivered
  replace hagreed : Agreed P i s (x.initiator3 P a i) (x.responder3 P b s) := hagreed
  obtain ⟨t₁', ht₁', hx₁⟩ := hdelivered.request
  obtain ⟨t₂, ht₂, hx₂⟩ := hdelivered.response
  obtain ⟨t₃, ht₃, hx₃⟩ := hdelivered.pake1
  obtain ⟨t₄, ht₄, hx₄⟩ := hdelivered.pake2
  obtain ⟨t₅, ht₅, hx₅⟩ := hdelivered.pake3
  obtain rfl : t₁' = t₁ :=
    List.singleton_injective (List.append_cancel_left (ht₁'.symm.trans ht₁))
  let A₁ := A.step W (.pase r)
  let B₁ := B.step W' (.datagram t₁'.frame l)
  let A₂ := A₁.step W (.datagram t₂.frame r)
  let A₃ := run (Device.step W) A₂ (List.replicate 3 (.resume e 0 0 a))
  let B₂ := B₁.step W' (.datagram t₃.frame l)
  let B₃ := run (Device.step W') B₂ (List.replicate 3 (.resume f 0 0 b))
  let A₄ := A₃.step W (.datagram t₄.frame r)
  let B₄ := B₃.step W' (.datagram t₅.frame l)
  -- each node goes on as its PaseSession
  have hB1 : B₁.Follows f B.node.contacts.length l A.nextNodeId A.node.nextExchangeId false oldB 8
      (x.responder1 P s) := by
    unfold responder1
    rw [hx₁]
    exact hfB1
  have hsaid₂ := hB1.said ht₂ (Nat.le_refl _)
  have hA3 : A₃.Follows e A.node.contacts.length r A.nextNodeId A.node.nextExchangeId true oldA 4
      (x.initiator2 P a i) := by
    have hA2 := hfA1.message (W := W) (k := 7) hpos hnode hx hsaid₂
    rw [← hx₂] at hA2
    exact hA2.awaited (k := 4) hpos a
  have hlen₃ : oldA.length ≤ (initiator1 P i).transmitted.length := by
    rw [ht₁', List.length_append]
    exact Nat.le_add_right _ _
  have hsaid₃ := hA3.said ht₃ hlen₃
  have hB3 : B₃.Follows f B.node.contacts.length l A.nextNodeId A.node.nextExchangeId false oldB 4
      (x.responder2 P b s) := by
    have hB2 := hB1.message (W := W') (k := 7) hpos hnode hx hsaid₃
    rw [← hx₃] at hB2
    exact hB2.awaited (W := W') (k := 4) hpos b
  have hlen₄ : oldB.length ≤ (x.responder1 P s).transmitted.length := by
    rw [ht₂, List.length_append]
    exact Nat.le_add_right _ _
  have hsaid₄ := hB3.said ht₄ hlen₄
  have hA4 : A₄.Follows e A.node.contacts.length r A.nextNodeId A.node.nextExchangeId true oldA 3
      (x.initiator3 P a i) := by
    have hA4 := hA3.message (W := W) (k := 3) hpos hnode hx hsaid₄
    rw [← hx₄] at hA4
    exact hA4
  have hlen₅ : oldA.length ≤ (x.initiator2 P a i).transmitted.length := by
    rw [ht₃, List.length_append]
    exact hlen₃.trans (Nat.le_add_right _ _)
  have hsaid₅ := hA4.said ht₅ hlen₅
  have hB4 : B₄.Follows f B.node.contacts.length l A.nextNodeId A.node.nextExchangeId false oldB 3
      (x.responder3 P b s) := by
    have hB4 := hB3.message (W := W') (k := 3) hpos hnode hx hsaid₅
    rw [← hx₅] at hB4
    exact hB4
  -- the network carries each frame once it is handed over
  let L₁ : Link V := { Link.join A B l r with left := A₁ }
  let L₂ : Link V := { L₁ with right := B₁, fromLeft := oldA.length + 1 }
  let L₃ : Link V := { L₂ with left := A₂, fromRight := oldB.length + 1 }
  let L₄ : Link V := { L₃ with left := A₃ }
  let L₅ : Link V := { L₄ with right := B₂, fromLeft := (initiator1 P i).transmitted.length + 1 }
  let L₆ : Link V := { L₅ with right := B₃ }
  let L₇ : Link V := { L₆ with left := A₄, fromRight := (x.responder1 P s).transmitted.length + 1 }
  let L₈ : Link V :=
    { L₇ with right := B₄, fromLeft := (x.initiator2 P a i).transmitted.length + 1 }
  have hrun : run (Link.step W W') (.join A B l r) (Link.handshake a b) = L₈ := by
    have h₂ : L₁.step W W' .toRight = L₂ := Link.step_toRight (hfA1.streams.trans ht₁') rfl hp₁
    have h₃ : L₂.step W W' .toLeft = L₃ := Link.step_toLeft (hB1.streams.trans ht₂) rfl hsaid₂.peer
    have h₅ : L₄.step W W' .toRight = L₅ :=
      Link.step_toRight (hA3.streams.trans ht₃) (by rw [ht₁', List.length_append]; rfl) hsaid₃.peer
    have h₇ : L₆.step W W' .toLeft = L₇ :=
      Link.step_toLeft (hB3.streams.trans ht₄) (by rw [ht₂, List.length_append]; rfl) hsaid₄.peer
    have h₈ : L₇.step W W' .toRight = L₈ :=
      Link.step_toRight (hA4.streams.trans ht₅) (by rw [ht₃, List.length_append]; rfl) hsaid₅.peer
    have hbegin : run (Link.step W W') (.join A B l r) [.pase, .toRight, .toLeft] = L₃ := by
      rw [run_cons, show (Link.join A B l r).step W W' .pase = L₁ from rfl, run_cons, h₂, run_cons, h₃,
        run_nil]
    have hleft : run (Link.step W W') L₃ (List.replicate 3 (.leftResumes a)) = L₄ := rfl
    have hpake₁ : run (Link.step W W') L₄ [.toRight] = L₅ := by rw [run_cons, h₅, run_nil]
    have hright : run (Link.step W W') L₅ (List.replicate 3 (.rightResumes b)) = L₆ := rfl
    have hend : run (Link.step W W') L₆ [.toLeft, .toRight] = L₈ := by
      rw [run_cons, h₇, run_cons, h₈, run_nil]
    unfold Link.handshake
    rw [run_append, run_append, run_append, run_append, hbegin, hleft, hpake₁, hright, hend]
  rw [hrun]
  obtain ⟨p, hpA, hpaseA⟩ := hA4.pase
  obtain ⟨p', hpB, hpaseB⟩ := hB4.pase
  obtain ⟨sA, sB, Ke, hsecuredA, hsecuredB, hlocal, hpeer, -, -, hkeysA, hkeysB⟩ := hagreed.sessions
  refine ⟨⟨⟨p, hpA, hpaseA ▸ hagreed.idle.1⟩, p', hpB, hpaseB ▸ hagreed.idle.2⟩,
    ⟨sA, sB, Ke, hA4.secured.trans hsecuredA, hB4.secured.trans hsecuredB, hlocal, hpeer, hkeysA,
      hkeysB⟩, ?_, ?_⟩
  · show (x.initiator2 P a i).transmitted.length + 1 = oldA.length + 3
    rw [ht₃, ht₁', List.length_append, List.length_append]
    rfl
  · show (x.responder1 P s).transmitted.length + 1 = oldB.length + 2
    rw [ht₂, List.length_append]
    rfl

/-- **The shell's command makes a session**, whatever the two nodes have done before: if neither has a
    session with the other's address and the node id that is drawn, what the packages promise, and the
    same passcode on both, the handshake over the network leaves both with one secure session more, of
    the same keys. -/
theorem established_over_link (hW : W'.packages = W.packages) (hP : W.packages.Agrees)
    (entropy entropy' : Nat → UInt8) (streams streams' : Nat → Outside) (p q : PbkdfParams)
    (es es' : List DeviceEvent) (l r : PeerInfo) (a b : Nat) :
    let A : Device V := run (Device.step W) (.init entropy streams p) es
    let B : Device V := run (Device.step W') (.init entropy' streams' q) es'
    A.node.nextExchangeId < 65536 → 0 < A.nextNodeId →
    findContact r A.nextNodeId A.node.contacts = .ok none →
    findContact l A.nextNodeId B.node.contacts = .ok none →
    p.paircode = .nat passcode → q.Hold passcode iterations salt → passcode < 2 ^ 32 →
    1 ≤ iterations → iterations < 2 ^ 31 →
    Established W.packages A B (run (Link.step W W') (.join A B l r) (Link.handshake a b)) := by
  intro A B hx hpos hnewA hnewB hp hq hpasscode hone hmax
  have hparamsA : A.protocol.params = p := Device.params_run es
  have hparamsB : B.protocol.params = q := Device.params_run es'
  exact established hW hP (Device.prefix_run (Device.kept_init W _ entropy streams p) es).1
    (Device.prefix_run (Device.kept_init W' _ entropy' streams' q) es').1
    (Device.seated_run W entropy streams p es) (Device.seated_run W' entropy' streams' q es') hx hpos
    hnewA hnewB (hparamsA ▸ hp) (hparamsB ▸ hq) hpasscode hone hmax

/-- Two new nodes with the default parameters. -/
theorem established_over_link_first :
    let W : Surroundings Bytes := ⟨samplePackages, fun _ _ => ⟨[], by decide⟩, []⟩
    let stream : Outside := { entropy := fun j => UInt8.ofNat (j + 1) }
    let D : Device Bytes := .init stream.entropy fun _ => stream
    Established samplePackages D D
      (run (Link.step W W) (.join D D ⟨"::1", 5540⟩ ⟨"::2", 5540⟩) (Link.handshake 1 2)) := by
  intro W stream D
  exact @established_over_link Bytes W W 20202021 1000 _ rfl samplePackages_agrees stream.entropy
    stream.entropy (fun _ => stream) (fun _ => stream) {} {} [] [] ⟨"::1", 5540⟩ ⟨"::2", 5540⟩ 1 2
    (by decide) (by decide) rfl rfl rfl hold_defaults (by decide) (by decide) (by decide)

end Handshake

end Matternode.Protocols
