/-
  File:      Matternode/Messaging/Correspondence.lean
  Subject:   One end of an unsecured exchange, and the frames that come from the other end.

  A datagram in the clear is looked up by the address it comes from and by the node id it names, and
  then by its exchange id and its role. Two ends that know one node id find each other's frames.

  * `Contact`, `Node.contacts`, `Node.keys` -- what sessions and exchanges are searched by;
  * `Hears` -- frames of the other end come to this exchange;
  * `Hears.run_onDatagram` -- **they do**, and change nothing that is searched by;
  * `run_onDatagram_begins` -- the first frame begins the exchange at the other end;
  * `Said`, `Talks`, `moves_talks` -- **what is done on the exchange says frames of it only**;
  * `named`, `sendMessage_dialled` -- the first message on an exchange that the node begins itself;
  * `Echoes`, `moves_echoes` -- **a node that hears the other end says what one that does not says**.
-/
import Matternode.Messaging.Parallel

namespace Matternode.Messaging

open Base Js

/-! ## 1. What is searched by -/

/-- Whom a session is with: the address and the node id of its peer, and its own id. -/
structure Contact where
  peerInfo : Option PeerInfo
  peerNodeId : Option Nat
  localSessionId : JsValue

def Session.contact (s : Session) : Contact := ⟨s.peerInfo, s.peerNodeId, s.localSessionId⟩

/-- The search of `getUnsecureSession` looks at contacts only. -/
def findContact (peerInfo : PeerInfo) (peerNodeId : Nat) :
    List Contact → Except JsError (Option Nat)
  | [] => .ok none
  | c :: cs =>
    match c.peerInfo with
    | none => .error .typeError
    | some info =>
      if info.address = peerInfo.address ∧ info.port = peerInfo.port ∧
          (c.peerNodeId = some peerNodeId ∨ c.peerNodeId = none) then .ok (some 0)
      else (findContact peerInfo peerNodeId cs).map (·.map (· + 1))

section Search

variable {peer : PeerInfo} {nodeId : Nat}

theorem findUnsecure_eq_findContact (l : List Session) :
    SessionManager.findUnsecure peer nodeId l = findContact peer nodeId (l.map Session.contact) := by
  induction l with
  | nil => rfl
  | cons s ss ih =>
    rw [List.map_cons]
    unfold SessionManager.findUnsecure findContact
    rw [ih]
    rfl

/-- **A contact that is new is found where it is put**, last. -/
theorem findContact_append {l : List Contact} (hnone : findContact peer nodeId l = .ok none)
    (id : JsValue) : findContact peer nodeId (l ++ [⟨some peer, some nodeId, id⟩]) =
      .ok (some l.length) := by
  induction l with
  | nil =>
    show findContact peer nodeId [⟨some peer, some nodeId, id⟩] = _
    unfold findContact
    exact if_pos ⟨rfl, rfl, .inl rfl⟩
  | cons c cs ih =>
    rw [List.cons_append]
    unfold findContact at hnone ⊢
    cases hinfo : c.peerInfo with
    | none =>
      rw [hinfo] at hnone
      cases hnone
    | some info =>
      rw [hinfo] at hnone
      dsimp only at hnone ⊢
      split at hnone
      · cases hnone
      · rename_i hother
        rw [if_neg hother]
        cases hrest : findContact peer nodeId cs with
        | error e =>
          rw [hrest] at hnone
          cases hnone
        | ok found =>
          rw [hrest] at hnone
          cases found with
          | some k => cases hnone
          | none =>
            rw [ih hrest]
            rfl

end Search

namespace Node

def contacts (n : Node) : List Contact := n.sessions.sessionsUnsecured.map Session.contact

/-- The keys of the exchanges, in order. -/
def keys (n : Node) : List ExchangeKey := n.exchanges.map Exchange.key

/-- The exchanges are on sessions that there are, as far as these are unsecured. -/
def Seated (n : Node) : Prop :=
  ∀ key ∈ n.keys, ∀ j, key.session = .unsecured j → j < n.contacts.length

/-- **What comes from the peer's address, with this node id and this exchange id**, comes to the
    exchange `i`, on the session `j`. -/
structure Hears (n : Node) (i j : Nat) (peer : PeerInfo) (nodeId exchangeId : Nat)
    (isInitiator : Bool) : Prop where
  found : findContact peer nodeId n.contacts = .ok (some j)
  contact : n.contacts[j]? = some ⟨some peer, some nodeId, .nat unsecuredSessionId⟩
  matched : n.keys.findIdx? (· = ⟨.unsecured j, exchangeId, isInitiator⟩) = some i

variable {n n' : Node} {i j : Nat} {peer : PeerInfo} {nodeId exchangeId : Nat} {isInitiator : Bool}

theorem Hears.congr (h : n.Hears i j peer nodeId exchangeId isInitiator)
    (hcontacts : n'.contacts = n.contacts) (hkeys : n'.keys = n.keys) :
    n'.Hears i j peer nodeId exchangeId isInitiator :=
  ⟨hcontacts ▸ h.found, hcontacts ▸ h.contact, hkeys ▸ h.matched⟩

theorem contacts_getElem? (n : Node) (j : Nat) :
    n.contacts[j]? = n.sessions.sessionsUnsecured[j]?.map Session.contact :=
  List.getElem?_map ..

/-- **A new exchange on a new session hears**, where no contact was the peer's. -/
theorem hears_last (hseated : n.Seated) (hnone : findContact peer nodeId n.contacts = .ok none)
    (hcontacts : n'.contacts = n.contacts ++ [⟨some peer, some nodeId, .nat unsecuredSessionId⟩])
    (hkeys : n'.keys = n.keys ++ [⟨.unsecured n.contacts.length, exchangeId, isInitiator⟩]) :
    n'.Hears n.keys.length n.contacts.length peer nodeId exchangeId isInitiator where
  found := by
    rw [hcontacts]
    exact findContact_append hnone _
  contact := by
    rw [hcontacts]
    exact List.getElem?_concat_length
  matched := by
    rw [hkeys, List.findIdx?_append]
    have hold : n.keys.findIdx? (fun key => decide
        (key = ⟨.unsecured n.contacts.length, exchangeId, isInitiator⟩)) = none := by
      refine List.findIdx?_eq_none_iff.mpr fun key hkey => decide_eq_false fun heq => ?_
      exact absurd (hseated key hkey n.contacts.length (by rw [heq])) (Nat.lt_irrefl _)
    rw [hold]
    simp

/-! ## 2. Hearing -/

/-- The exchange and the session after a datagram that came to them. -/
def heard (n : Node) (i j : Nat) (msg : Message) (counter : Nat) : Node :=
  ({ n with sessions := n.sessions.modifySession (SessionManager.hear msg counter) (.unsecured j) } :
    Node).modifyExchange i fun ex => { ex with ackCounter := counter }

/-- A change that leaves the exchange leaves the node. -/
theorem modifyExchange_self {n : Node} {i : Nat} {ex : Exchange} {f : Exchange → Exchange}
    (hex : n.exchanges[i]? = some ex) (hf : f ex = ex) : n.modifyExchange i f = n := by
  have hsame : n.exchanges.modify i f = n.exchanges := by
    refine List.ext_getElem? fun k => ?_
    by_cases hik : i = k
    · rw [← hik, List.getElem?_modify_eq, hex, Option.map_eq_map, Option.map_some, hf]
    · rw [List.getElem?_modify_ne _ _ hik]
  unfold modifyExchange
  rw [hsame]

theorem keys_modifyExchange (n : Node) (i : Nat) {f : Exchange → Exchange}
    (hf : Exchange.Stays f) : (n.modifyExchange i f).keys = n.keys :=
  map_key_modify fun ex _ => by
    unfold Exchange.key
    rw [hf.session, hf.exchangeId, hf.isInitiator]

theorem keys_heard (n : Node) (i j : Nat) (msg : Message) {counter : Nat}
    (hcounter : counter < 2 ^ 32) : (n.heard i j msg counter).keys = n.keys :=
  keys_modifyExchange _ i (Exchange.stays_ackCounter hcounter)

theorem contacts_heard {msg : Message} (hmsg : msg.peerInfo = some peer) (i counter : Nat)
    (hcontact : n.contacts[j]? = some ⟨some peer, some nodeId, .nat unsecuredSessionId⟩) :
    (n.heard i j msg counter).contacts = n.contacts := by
  refine map_key_modify fun s hs => ?_
  rw [contacts_getElem?, hs] at hcontact
  have hpeer : s.peerInfo = some peer := congrArg Contact.peerInfo (Option.some.inj hcontact)
  unfold Session.contact SessionManager.hear
  rw [hmsg, hpeer]

/-- Messages on an unsecured session are matched by their key. -/
theorem getExchange_unsecured
    (hcontact : n.contacts[j]? = some ⟨some peer, some nodeId, .nat unsecuredSessionId⟩)
    (exchangeId : Nat) (iflag : Bool) :
    n.getExchange (.unsecured j) exchangeId unsecuredSessionId iflag =
      n.keys.findIdx? (· = ⟨.unsecured j, exchangeId, !iflag⟩) := by
  rw [contacts_getElem?] at hcontact
  obtain ⟨s, hs, hcontact⟩ := Option.map_eq_some_iff.mp hcontact
  have hown : OwnId n.sessions (.unsecured j) unsecuredSessionId := by
    refine ⟨s, hs, ?_⟩
    rw [show s.localSessionId = .nat unsecuredSessionId from congrArg Contact.localSessionId hcontact]
    decide
  unfold getExchange keys
  rw [List.findIdx?_map]
  congr 1
  funext ex
  exact Bool.eq_iff_iff.mpr ((matchMessage_iff hown).trans (decide_eq_true_iff).symm)

section Datagram

variable {ex : Exchange} {c : Content} {counter : Nat}

/-- The node id that a frame of an exchange is looked up by. -/
theorem unsecuredPeer_clearFrame {m : Message} (hbuf : m.buffer = clearFrame ex nodeId counter c)
    (hnode : nodeId < 2 ^ 64) : SessionManager.unsecuredPeer m = .ok nodeId := by
  unfold SessionManager.unsecuredPeer
  rw [clearFrame_iflag hbuf]
  cases hrole : ex.isInitiator with
  | true => exact (clearFrame_source hbuf hrole hnode).2.2
  | false => exact (clearFrame_destination hbuf hrole hnode).2.2

/-- What a frame of an exchange reads as, in its headers. -/
theorem clearFrame_ids {m : Message} (hbuf : m.buffer = clearFrame ex nodeId counter c)
    (hx : ex.exchangeId < 65536) : m.sessionId = .ok unsecuredSessionId ∧
      m.exchangeId = .ok ex.exchangeId ∧ m.iflag = .ok ex.isInitiator :=
  ⟨headed_sessionId hbuf,
    exchangeId_eq (clearFrame_buffer hbuf) (clearFrame_payloadOffset hbuf) hx, clearFrame_iflag hbuf⟩

/-- **A frame of the other end comes to the exchange.** -/
theorem Hears.run_onDatagram (h : n.Hears i j peer nodeId exchangeId isInitiator) (A : Aead)
    (hx : ex.exchangeId = exchangeId) (hlt : exchangeId < 65536)
    (hrole : ex.isInitiator = !isInitiator) (hnode : nodeId < 2 ^ 64) (hcounter : counter < 2 ^ 32) :
    let msg := rawMessage (clearFrame ex nodeId counter c) peer
    (onDatagram A (clearFrame ex nodeId counter c) peer).run n =
      .ok (.exchange i msg) (n.heard i j msg counter) := by
  intro msg
  have hbuf : msg.buffer = clearFrame ex nodeId counter c := rfl
  have hread : msg.messageCounter = .ok counter := headed_messageCounter hbuf hcounter
  obtain ⟨hsession, hexchange, hiflag⟩ := clearFrame_ids hbuf (hx ▸ hlt)
  have hknown : n.sessions.sessionsUnsecured[j]?.bind (·.peerNodeId) = some nodeId := by
    obtain ⟨s, hs, hcontact⟩ := Option.map_eq_some_iff.mp (contacts_getElem? n j ▸ h.contact)
    rw [hs]
    exact congrArg Contact.peerNodeId hcontact
  have hfound : n.sessions.getUnsecureSession peer nodeId = .ok (some j) :=
    (findUnsecure_eq_findContact _).trans h.found
  have hfor : (SessionManager.unsecuredSessionFor msg peer).run n.sessions =
      .ok (.unsecured j) n.sessions := by
    unfold SessionManager.unsecuredSessionFor
    rw [run_bind_ok (run_lift_of (unsecuredPeer_clearFrame hbuf hnode) _), run_bind_ok (run_get _),
      run_bind_ok (run_lift_of hfound _)]
    dsimp only
    rw [hknown]
    rfl
  let received : Node := { n with
    sessions := n.sessions.modifySession (SessionManager.hear msg counter) (.unsecured j) }
  have hmessage : (SessionManager.onMessage A (clearFrame ex nodeId counter c) peer).run n.sessions =
      .ok ⟨.messageUnsecured, msg, .unsecured j⟩ received.sessions := by
    unfold SessionManager.onMessage
    rw [run_bind_ok (run_lift_of (clearFrame_isUnencrypted hbuf) _)]
    show (SessionManager.onUnsecuredMessage msg peer).run n.sessions = _
    unfold SessionManager.onUnsecuredMessage
    rw [run_bind_ok hfor, run_bind_ok (SessionManager.updatePeer_ok hread)]
    rfl
  have hcontacts : received.contacts = n.contacts := contacts_heard (i := i) rfl counter h.contact
  have hmatched : received.getExchange (.unsecured j) ex.exchangeId unsecuredSessionId
      ex.isInitiator = some i := by
    rw [getExchange_unsecured (hcontacts ▸ h.contact), hx, hrole, Bool.not_not]
    exact h.matched
  obtain ⟨counter', hread', hdelivered⟩ := onSessionMessage_found hsession hexchange hiflag hmatched
  obtain rfl : counter = counter' := Except.ok.inj (hread.symm.trans hread')
  have hreceived : (onSessions (SessionManager.onMessage A (clearFrame ex nodeId counter c) peer)).run n =
      .ok ⟨.messageUnsecured, msg, .unsecured j⟩ received := run_zoom_ok hmessage
  unfold onDatagram
  rw [run_bind_ok hreceived]
  exact hdelivered

/-- What a message made of the frame is read as. -/
theorem carriedBy_rawMessage (peer : PeerInfo) (hc : c.InRange) (hx : ex.exchangeId < 65536)
    (hcounter : counter < 2 ^ 32) :
    c.CarriedBy (rawMessage (clearFrame ex nodeId counter c) peer) := by
  have hbuf : (rawMessage (clearFrame ex nodeId counter c) peer).buffer =
      clearFrame ex nodeId counter c := rfl
  refine ⟨?_, ⟨_, (clearFrame_ids hbuf hx).2.1⟩, ⟨counter, headed_messageCounter hbuf hcounter, hcounter⟩,
    clearFrame_appPayload hbuf⟩
  exact protocolOpcode_eq (clearFrame_buffer hbuf) (clearFrame_payloadOffset hbuf) hc.opcode

end Datagram

/-! ## 3. The first frame -/

/-- A new unsecured session, of the bytes that are drawn for its counter. -/
def plainSession (e : Nat → UInt8) : Session where
  localSessionId := .nat unsecuredSessionId
  peerSessionId := .nat unsecuredSessionId
  secure := false
  messageCounter := (ofBE ((List.range 4).map e) &&& 0x0FFFFFFF) + 1
  cryptoContext := none
  context := Option.isSome_none

theorem messageCounter_plainSession (e : Nat → UInt8) : (plainSession e).messageCounter ≤ 2 ^ 28 :=
  Nat.succ_le_succ Nat.and_le_right

theorem run_newUnsecuredSession (h : SessionManager) :
    SessionManager.newUnsecuredSession.run h = .ok (.unsecured h.sessionsUnsecured.length) { h with
      sessionsUnsecured := h.sessionsUnsecured ++ [plainSession h.outside.entropy]
      outside := { h.outside with entropy := fun i => h.outside.entropy (4 + i) } } := rfl

/-- The node after the first frame of an exchange. -/
def begun (n : Node) (msg : Message) (nodeId exchangeId counter : Nat) (rflag : Bool) : Node :=
  { n with
    sessions := { n.sessions with
      sessionsUnsecured := n.sessions.sessionsUnsecured ++ [SessionManager.hear msg counter
        { plainSession n.sessions.outside.entropy with peerNodeId := some nodeId }]
      outside := { n.sessions.outside with entropy := fun i => n.sessions.outside.entropy (4 + i) } }
    exchanges := n.exchanges ++ [remoteExchange (.unsecured n.sessions.sessionsUnsecured.length)
      exchangeId counter rflag] }

section Begun

variable {ex : Exchange} {c : Content} {counter : Nat}

theorem getExchange_none (hseated : n.Seated) (hj : n.contacts.length ≤ j) (exchangeId : Nat)
    {m : SessionManager} (sessionId : Nat) (iflag : Bool) :
    ({ n with sessions := m } : Node).getExchange (.unsecured j) exchangeId sessionId iflag = none := by
  refine List.findIdx?_eq_none_iff.mpr fun ex hex => ?_
  refine Bool.eq_false_iff.mpr fun hm => ?_
  have hkey := congrArg ExchangeKey.session (key_of_matchMessage hm)
  exact absurd (hseated ex.key (List.mem_map_of_mem hex) j hkey) (by omega)

/-- **The first frame of an exchange that a peer begins** goes to its protocol, on a new session. -/
theorem run_onDatagram_begins (A : Aead) (hseated : n.Seated)
    (hnone : findContact peer nodeId n.contacts = .ok none) (hc : c.InRange)
    (hx : ex.exchangeId < 65536) (hrole : ex.isInitiator = true) (hnode : nodeId < 2 ^ 64)
    (hcounter : counter < 2 ^ 32) :
    let msg := rawMessage (clearFrame ex nodeId counter c) peer
    ∃ rflag, (onDatagram A (clearFrame ex nodeId counter c) peer).run n =
      .ok (.protocol c.protocolId msg n.exchanges.length)
        (n.begun msg nodeId ex.exchangeId counter rflag) := by
  intro msg
  have hbuf : msg.buffer = clearFrame ex nodeId counter c := rfl
  have hread : msg.messageCounter = .ok counter := headed_messageCounter hbuf hcounter
  obtain ⟨hsession, hexchange, hiflag⟩ := clearFrame_ids hbuf hx
  have hsource : msg.sourceNodeId = .ok nodeId := (clearFrame_source hbuf hrole hnode).2.2
  have hfound : n.sessions.getUnsecureSession peer nodeId = .ok none :=
    (findUnsecure_eq_findContact _).trans hnone
  let j := n.sessions.sessionsUnsecured.length
  let made : SessionManager := { n.sessions with
    sessionsUnsecured := n.sessions.sessionsUnsecured ++ [plainSession n.sessions.outside.entropy]
    outside := { n.sessions.outside with entropy := fun i => n.sessions.outside.entropy (4 + i) } }
  let learned := made.modifySession (fun s => { s with peerNodeId := some nodeId }) (.unsecured j)
  have hfor : (SessionManager.unsecuredSessionFor msg peer).run n.sessions =
      .ok (.unsecured j) learned := by
    unfold SessionManager.unsecuredSessionFor
    rw [run_bind_ok (run_lift_of (unsecuredPeer_clearFrame hbuf hnode) _), run_bind_ok (run_get _),
      run_bind_ok (run_lift_of hfound _)]
    dsimp only
    rw [run_bind_ok (run_newUnsecuredSession _), run_bind_ok (SessionManager.learnPeer_ok hsource)]
    rfl
  let received : Node := { n with
    sessions := learned.modifySession (SessionManager.hear msg counter) (.unsecured j) }
  have hmessage : (SessionManager.onMessage A (clearFrame ex nodeId counter c) peer).run n.sessions =
      .ok ⟨.messageUnsecured, msg, .unsecured j⟩ received.sessions := by
    unfold SessionManager.onMessage
    rw [run_bind_ok (run_lift_of (clearFrame_isUnencrypted hbuf) _)]
    show (SessionManager.onUnsecuredMessage msg peer).run n.sessions = _
    unfold SessionManager.onUnsecuredMessage
    rw [run_bind_ok hfor, run_bind_ok (SessionManager.updatePeer_ok hread)]
    rfl
  have hreceived : (onSessions (SessionManager.onMessage A (clearFrame ex nodeId counter c) peer)).run n =
      .ok ⟨.messageUnsecured, msg, .unsecured j⟩ received := run_zoom_ok hmessage
  have hnew : received.getExchange (.unsecured j) ex.exchangeId unsecuredSessionId true = none :=
    getExchange_none hseated (le_of_eq (List.length_map ..)) _ _ _
  obtain ⟨counter', rflag, hrun⟩ := onSessionMessage_created hsession hexchange (hrole ▸ hiflag) hnew
    (protocolId_eq (clearFrame_buffer hbuf) (clearFrame_payloadOffset hbuf) hc.protocolId)
  obtain ⟨-, -, -, -, -, ex', hex', -, -, -, hread'⟩ := onSessionMessage_protocol hrun
  have hcounter' : counter' = counter := by
    rw [List.getElem?_concat_length] at hex'
    rw [← Option.some.inj hex', hread] at hread'
    exact (Except.ok.inj hread').symm
  refine ⟨rflag, ?_⟩
  unfold onDatagram
  rw [run_bind_ok hreceived, hrun, hcounter']
  have hsessions : received.sessions = (n.begun msg nodeId ex.exchangeId counter rflag).sessions := by
    simp only [received, learned, made, j, begun, SessionManager.modifySession, modify_append_one]
  have hbegun : ({ received with
      exchanges := received.exchanges ++ [remoteExchange (.unsecured j) ex.exchangeId counter rflag] } :
        Node) = n.begun msg nodeId ex.exchangeId counter rflag := by
    show ({ n with sessions := received.sessions, exchanges := _ } : Node) = _
    rw [hsessions]
    rfl
  rw [hbegun]

variable {msg : Message} {rflag : Bool}

theorem contacts_begun (n : Node) (hmsg : msg.peerInfo = some peer) :
    (n.begun msg nodeId exchangeId counter rflag).contacts =
      n.contacts ++ [⟨some peer, some nodeId, .nat unsecuredSessionId⟩] := by
  unfold contacts begun
  rw [List.map_append, List.map_singleton, ← hmsg]
  rfl

theorem keys_begun (n : Node) : (n.begun msg nodeId exchangeId counter rflag).keys =
    n.keys ++ [⟨.unsecured n.contacts.length, exchangeId, false⟩] := by
  unfold keys begun contacts
  rw [List.map_append, List.map_singleton, List.length_map]
  rfl

/-- It hears the peer from then on. -/
theorem hears_begun (n : Node) (hseated : n.Seated)
    (hnone : findContact peer nodeId n.contacts = .ok none) (hmsg : msg.peerInfo = some peer) :
    (n.begun msg nodeId exchangeId counter rflag).Hears n.exchanges.length n.contacts.length peer nodeId
      exchangeId false := by
  have hlen : n.keys.length = n.exchanges.length := List.length_map ..
  exact hlen ▸ hears_last hseated hnone (contacts_begun n hmsg) (keys_begun n)

/-- **The exchange that a first frame began** can answer it. -/
theorem speaks_begun (n : Node) (hmsg : msg.peerInfo = some peer) (hpos : 0 < nodeId)
    (hnode : nodeId < 2 ^ 64) (hx : exchangeId < 65536) (hcounter : counter < 2 ^ 32) {k : Nat}
    (hk : k ≤ 2 ^ 31) :
    (n.begun msg nodeId exchangeId counter rflag).Speaks n.exchanges.length k := by
  refine ⟨_, n.sessions.sessionsUnsecured.length, _, List.getElem?_concat_length, rfl,
    List.getElem?_concat_length, ?_⟩
  constructor
  case peerSessionId => rfl
  case peerInfo => exact ⟨peer, hmsg⟩
  case nodeId_fits =>
    intro id hid
    rw [← Option.some.inj hid]
    exact hnode
  case responds =>
    intro _
    show decide ((some nodeId).getD 0 ≠ 0) = true
    rw [Option.getD_some, decide_eq_true_eq]
    omega
  case counter_le =>
    have hle := messageCounter_plainSession n.sessions.outside.entropy
    show (plainSession n.sessions.outside.entropy).messageCounter + k ≤ 2 ^ 32
    omega
  case exchangeId_lt => exact hx
  case ackCounter_lt => exact hcounter

end Begun

/-! ## 4. Saying -/

/-- A frame with this node id, of an exchange with this id and role, that carries the content. -/
def FrameOf (nodeId exchangeId : Nat) (isInitiator : Bool) (c : Content) (frame : Bytes) : Prop :=
  ∃ ex counter, frame = clearFrame ex nodeId counter c ∧ ex.exchangeId = exchangeId ∧
    ex.isInitiator = isInitiator ∧ counter < 2 ^ 32

/-- A frame of the exchange, to the peer's address. -/
structure Said (peer : PeerInfo) (nodeId exchangeId : Nat) (isInitiator : Bool) (t : Transmission) :
    Prop where
  peer : t.peer = peer
  frame : ∃ c, c.InRange ∧ FrameOf nodeId exchangeId isInitiator c t.frame

/-- The exchange hears its peer, can send `k` messages, and all that was handed over since `old` is
    its own. -/
structure Talks (n : Node) (i j : Nat) (peer : PeerInfo) (nodeId exchangeId : Nat)
    (isInitiator : Bool) (old : List Transmission) (k : Nat) : Prop where
  hears : n.Hears i j peer nodeId exchangeId isInitiator
  speaks : n.Speaks i k
  said : ∃ new, n.sessions.outside.transmitted = old ++ new ∧
    ∀ t ∈ new, Said peer nodeId exchangeId isInitiator t

/-- **A frame of the other end comes to the exchange**, with some counter. -/
theorem Hears.frame (h : n.Hears i j peer nodeId exchangeId isInitiator) (A : Aead)
    (hlt : exchangeId < 65536) (hnode : nodeId < 2 ^ 64) {c : Content} {frame : Bytes}
    (hframe : FrameOf nodeId exchangeId (!isInitiator) c frame) :
    ∃ counter < 2 ^ 32, (rawMessage frame peer).messageCounter = .ok counter ∧
      (onDatagram A frame peer).run n = .ok (.exchange i (rawMessage frame peer))
        (n.heard i j (rawMessage frame peer) counter) := by
  obtain ⟨ex, counter, rfl, hx, hrole, hcounter⟩ := hframe
  exact ⟨counter, hcounter, headed_messageCounter rfl hcounter,
    h.run_onDatagram A hx hlt hrole hnode hcounter⟩

variable {old : List Transmission} {k : Nat}

theorem Speaks.weaken (h : n.Speaks i (k + 1)) : n.Speaks i k := by
  obtain ⟨ex, j, s, hex, href, hs, hconv⟩ := h
  exact ⟨ex, j, s, hex, href, hs, hconv.weaken⟩

theorem Speaks.mono (h : n.Speaks i k) {l : Nat} (hle : l ≤ k) : n.Speaks i l := by
  obtain ⟨ex, j, s, hex, href, hs, hconv⟩ := h
  have hcounter := hconv.counter_le
  exact ⟨ex, j, s, hex, href, hs, { hconv with counter_le := by omega }⟩

namespace Talks

theorem weaken (h : n.Talks i j peer nodeId exchangeId isInitiator old (k + 1)) :
    n.Talks i j peer nodeId exchangeId isInitiator old k :=
  ⟨h.hears, h.speaks.weaken, h.said⟩

/-- The exchange and its session, as they stand in their tables. -/
theorem clearExchange (h : n.Talks i j peer nodeId exchangeId isInitiator old (k + 1))
    (hpos : 0 < nodeId) : ∃ ex s, ClearExchange n i ex s peer nodeId ∧ ex.session = .unsecured j ∧
      ex.exchangeId = exchangeId ∧ ex.isInitiator = isInitiator := by
  obtain ⟨ex, m, s, hex, href, hs, hconv⟩ := h.speaks
  have hkey : ex.key = ⟨.unsecured j, exchangeId, isInitiator⟩ := by
    obtain ⟨hlt, hmatched, -⟩ := List.findIdx?_eq_some_iff_getElem.mp h.hears.matched
    have hget : n.keys[i]? = some ex.key := by
      unfold keys
      rw [List.getElem?_map, hex]
      rfl
    rw [List.getElem?_eq_getElem hlt] at hget
    rw [← Option.some.inj hget]
    exact of_decide_eq_true hmatched
  unfold Exchange.key at hkey
  obtain ⟨hsession, hx, hrole⟩ := ExchangeKey.mk.injEq .. ▸ hkey
  obtain rfl : m = j := by
    rw [href] at hsession
    exact SessionRef.unsecured.inj hsession
  have hcontact := h.hears.contact
  rw [contacts_getElem?, hs] at hcontact
  have hcontact : s.contact = _ := Option.some.inj hcontact
  have hpeerNodeId : s.peerNodeId = some nodeId := congrArg Contact.peerNodeId hcontact
  refine ⟨ex, s, ?_, href, hx, hrole⟩
  constructor
  case exchange => exact hex
  case session =>
    rw [href]
    exact hs
  case peerSessionId => exact hconv.peerSessionId
  case peerInfo => exact congrArg Contact.peerInfo hcontact
  case peerNodeId => exact hpeerNodeId
  case nodeId_pos => exact hpos
  case nodeId_lt => exact hconv.nodeId_fits nodeId hpeerNodeId
  case counter_lt =>
    have hle := hconv.counter_le
    omega
  case exchangeId_lt => exact hconv.exchangeId_lt
  case ackCounter_lt => exact hconv.ackCounter_lt

/-- **A message that is sent is said**, and leaves what is searched by. -/
theorem sendMessage (h : n.Talks i j peer nodeId exchangeId isInitiator old (k + 1))
    (hpos : 0 < nodeId) (A : Aead) {c : Content} (hc : c.InRange) :
    ∃ sent n' t, (Node.sendMessage A i c.message).run n = .ok sent n' ∧
      n'.sessions.outside.transmitted = n.sessions.outside.transmitted ++ [t] ∧
      t.peer = peer ∧ FrameOf nodeId exchangeId isInitiator c t.frame ∧
      n'.Talks i j peer nodeId exchangeId isInitiator old k := by
  obtain ⟨ex, s, hclear, href, hx, hrole⟩ := h.clearExchange hpos
  obtain ⟨sent, hrun⟩ := sendMessage_clearFrame A hclear c
  obtain ⟨sent', n', t, hrun', -, -, hspeaks, -⟩ := h.speaks.sendMessage A hc
  rw [hrun] at hrun'
  cases hrun'
  have hframe : FrameOf nodeId exchangeId isInitiator c (clearFrame ex nodeId s.messageCounter c) :=
    ⟨ex, s.messageCounter, rfl, hx, hrole, hclear.counter_lt⟩
  refine ⟨sent, _, ⟨s.transport, peer, _⟩, hrun, rfl, rfl, hframe, ?_, hspeaks, ?_⟩
  · refine h.hears.congr ?_ rfl
    rw [href]
    refine map_key_modify fun s' hs' => ?_
    have hs : n.sessions.sessionsUnsecured[j]? = some s := by
      have := hclear.session
      rwa [href] at this
    rw [Option.some.inj (hs'.symm.trans hs)]
    rfl
  · obtain ⟨new, hnew, hsaid⟩ := h.said
    refine ⟨new ++ [⟨s.transport, peer, clearFrame ex nodeId s.messageCounter c⟩], ?_, ?_⟩
    · show n.sessions.outside.transmitted ++ _ = _
      rw [hnew, List.append_assoc]
    · intro t ht
      rcases List.mem_append.mp ht with ht | ht
      · exact hsaid t ht
      · rw [List.mem_singleton.mp ht]
        exact ⟨rfl, c, hc, hframe⟩

/-- What comes is heard, and leaves what was said. -/
theorem heard (h : n.Talks i j peer nodeId exchangeId isInitiator old k) {msg : Message}
    (hmsg : msg.peerInfo = some peer) {counter : Nat} (hcounter : counter < 2 ^ 32) :
    (n.heard i j msg counter).Talks i j peer nodeId exchangeId isInitiator old k := by
  refine ⟨h.hears.congr (contacts_heard hmsg i counter h.hears.contact) (keys_heard n i j msg hcounter),
    ?_, h.said⟩
  refine Speaks.modifyExchange ?_ (Exchange.stays_ackCounter hcounter)
  obtain ⟨ex, m, s, hex, href, hs, hconv⟩ := h.speaks
  by_cases hjm : j = m
  · subst hjm
    refine ⟨ex, j, SessionManager.hear msg counter s, hex, href, ?_, { hconv with peerInfo := ⟨peer, hmsg⟩ }⟩
    show (n.sessions.sessionsUnsecured.modify j _)[j]? = _
    rw [List.getElem?_modify_eq, hs]
    rfl
  · refine ⟨ex, m, s, hex, href, ?_, hconv⟩
    show (n.sessions.sessionsUnsecured.modify j _)[m]? = _
    rw [List.getElem?_modify_ne _ _ hjm, hs]

end Talks

/-- **Whatever is done on the exchange, it talks.** -/
theorem moves_talks (A : Aead) (hpos : 0 < nodeId) : Moves A i fun k n n' =>
    n' = n ∧ n.Talks i j peer nodeId exchangeId isInitiator old k where
  weaken h := ⟨h.1, h.2.weaken⟩
  entropy h := by rw [h.1]
  draw e h := by
    obtain ⟨rfl, hears, speaks, said⟩ := h
    exact ⟨rfl, hears.congr rfl rfl, speaks, said⟩
  push s h := by
    obtain ⟨rfl, hears, speaks, said⟩ := h
    exact ⟨rfl, hears.congr rfl rfl, speaks, said⟩
  modifyExchange hf h := by
    obtain ⟨rfl, hears, speaks, said⟩ := h
    exact ⟨rfl, hears.congr rfl (keys_modifyExchange _ i hf), speaks.modifyExchange hf, said⟩
  send := by
    intro k c hc
    have hsend : Triple (fun n => n.Talks i j peer nodeId exchangeId isInitiator old (k + 1))
        (sendMessage A i c.message)
        (fun _ n => n.Talks i j peer nodeId exchangeId isInitiator old k)
        fun n => n.Talks i j peer nodeId exchangeId isInitiator old k := by
      intro n h
      obtain ⟨sent, n', t, hrun, -, -, -, htalks⟩ := h.sendMessage hpos A hc
      rw [hrun]
      exact htalks
    exact Lockstep.diagonal (Triple.bind hsend fun _ => Triple.pure _ fun _ h => h)

/-! ## 5. The first message of an initiator -/

end Node

/-- The node id that is drawn for a session that has none. -/
def drawnNodeId (e : Nat → UInt8) : Nat := ofBE ((List.range 8).map e)

theorem drawnNodeId_lt (e : Nat → UInt8) : drawnNodeId e < 2 ^ 64 := by
  have hlt := ofBE_lt ((List.range 8).map e)
  rw [List.length_map, List.length_range] at hlt
  exact hlt.trans_eq (by decide)

/-- The session with the id that it would draw. -/
def SendState.named (st : SendState) : SendState where
  session := { st.session with peerNodeId := some (drawnNodeId st.outside.entropy) }
  outside := { st.outside with entropy := fun i => st.outside.entropy (8 + i) }

namespace Node

/-- The node with the id drawn for the session at the place. -/
def named (n : Node) (j : Nat) : Node :=
  { n with sessions := { n.sessions with
      sessionsUnsecured := n.sessions.sessionsUnsecured.modify j fun s =>
        { s with peerNodeId := some (drawnNodeId n.sessions.outside.entropy) }
      outside := { n.sessions.outside with entropy := fun i => n.sessions.outside.entropy (8 + i) } } }

section Naming

variable {st : SendState} {s : Session} {ex : Exchange} {c : Content}

/-- **An initiator's message goes out as if the id had been there.** -/
theorem run_sendMessage_named (A : Aead) (hid : st.session.peerSessionId = .nat unsecuredSessionId)
    (hcounter : st.session.messageCounter < 2 ^ 32) (hrole : ex.isInitiator = true)
    (hnone : st.session.peerNodeId = none) (hpos : 0 < drawnNodeId st.outside.entropy) :
    let msg := newMessage ex.flags c.opcode ex.exchangeId c.protocolId (ex.ackBytes ++ c.body)
    (Session.sendMessage A msg).run st = (Session.sendMessage A msg).run st.named := by
  intro msg
  let rest := exchangeHeader ex.flags c.opcode ex.exchangeId c.protocolId ++ (ex.ackBytes ++ c.body)
  let m : Message := { msg with buffer := stampedHeader 0 st.session.messageCounter ++ rest }
  have hstamp (s : Session) (hpeer : s.peerSessionId = .nat unsecuredSessionId)
      (hsame : s.messageCounter = st.session.messageCounter) : s.stamp msg = .ok m := by
    have hlen : 8 ≤ msg.buffer.length := by
      show 8 ≤ (stampedHeader 0 0 ++ rest).length
      rw [List.length_append, length_header]
      omega
    have hdrop : msg.buffer.drop 8 = rest := List.drop_left' (length_header 0 0 0)
    rw [Session.stamp_ok hpeer (by decide) (hsame ▸ hcounter) hlen, hdrop, hsame]
    rfl
  have hiflag : m.iflag = .ok true := by
    have hbuf : m.buffer = stampedHeader 0 st.session.messageCounter ++ rest := rfl
    unfold Message.iflag Message.exchangeFlag
    rw [exchangeFlags_eq hbuf (stamped_payloadOffset hbuf) (flagBits_lt _ _ _), Exchange.flags, hrole]
    cases ex.isAck <;> cases ex.isReliable <;> rfl
  have hknown : st.named.session.hasPeerNodeId = true := by
    show decide ((some (drawnNodeId st.outside.entropy)).getD 0 ≠ 0) = true
    rw [Option.getD_some, decide_eq_true_eq]
    omega
  have hunknown : st.session.hasPeerNodeId = false := by
    unfold Session.hasPeerNodeId
    rw [hnone]
    rfl
  let sent := Session.countTx (Session.takeCounter st)
  let sent' := Session.countTx (Session.takeCounter st.named)
  have hallocate : Session.allocatePeerNodeId.run sent = .ok () sent' := by
    have hfalse : ¬ sent.session.hasPeerNodeId = true := by
      rw [show sent.session.hasPeerNodeId = false from hunknown]
      decide
    unfold Session.allocatePeerNodeId
    rw [run_bind_ok (run_get sent), if_neg hfalse]
    rfl
  have hallocate' : Session.allocatePeerNodeId.run sent' = .ok () sent' := by
    unfold Session.allocatePeerNodeId
    rw [run_bind_ok (run_get sent'), if_pos (show sent'.session.hasPeerNodeId = true from hknown)]
    rfl
  have hencrypted : m.isEncrypted = .ok false := headed_isEncrypted (m := m) rfl
  have haddress : (Session.addressUnencrypted m).run sent = (Session.addressUnencrypted m).run sent' := by
    unfold Session.addressUnencrypted
    rw [run_bind_ok (run_lift_of hiflag sent), run_bind_ok (run_lift_of hiflag sent'), if_pos rfl,
      run_bind_ok hallocate, run_bind_ok hallocate']
  rw [Session.sendMessage_stamped (hstamp st.session hid rfl),
    Session.sendMessage_stamped (hstamp st.named.session hid rfl),
    Session.sendStamped_unencrypted hencrypted, Session.sendStamped_unencrypted hencrypted]
  exact run_bind_congr haddress

/-- The node with the id drawn, and then the message: nothing else is changed. -/
theorem sentOn_named (n : Node) (j : Nat) (st : SendState) :
    (n.named j).sentOn (.unsecured j) st = n.sentOn (.unsecured j) st := by
  unfold named sentOn SessionManager.modifySession
  dsimp only
  rw [List.modify_modify_eq]
  rfl

/-- **The first message of an initiator on its session goes out as if the session had its id.** -/
theorem sendMessage_named (A : Aead) {n : Node} {i j : Nat} {s : Session} {k : Nat}
    (hex : n.exchanges[i]? = some ex) (href : ex.session = .unsecured j)
    (hs : n.sessions.sessionsUnsecured[j]? = some s) (hconv : Conversation ex s (k + 1))
    (hrole : ex.isInitiator = true) (hnone : s.peerNodeId = none)
    (hpos : 0 < drawnNodeId n.sessions.outside.entropy) (c : Content) :
    (sendMessage A i c.message).run n = (sendMessage A i c.message).run (n.named j) := by
  let s' : Session := { s with peerNodeId := some (drawnNodeId n.sessions.outside.entropy) }
  have hon : n.OnSession i ex s := ⟨hex, by rw [href]; exact hs⟩
  have hs' : (n.named j).sessions.sessionsUnsecured[j]? = some s' := by
    show (n.sessions.sessionsUnsecured.modify j _)[j]? = _
    rw [List.getElem?_modify_eq, hs]
    rfl
  have hon' : (n.named j).OnSession i ex s' := ⟨hex, by rw [href]; exact hs'⟩
  have hcounter : s.messageCounter < 2 ^ 32 := by
    have hle := hconv.counter_le
    omega
  have hhanded : handed ex c.message =
      .ok (newMessage ex.flags c.opcode ex.exchangeId c.protocolId (ex.ackBytes ++ c.body)) := by
    unfold handed Content.message
    rw [address_new hconv.exchangeId_lt hconv.ackCounter_lt]
    rfl
  let st : SendState := ⟨s, n.sessions.outside⟩
  have hsend : (Session.sendMessage A (newMessage ex.flags c.opcode ex.exchangeId c.protocolId
        (ex.ackBytes ++ c.body))).run st =
      (Session.sendMessage A (newMessage ex.flags c.opcode ex.exchangeId c.protocolId
        (ex.ackBytes ++ c.body))).run st.named :=
    run_sendMessage_named A hconv.peerSessionId hcounter hrole hnone hpos
  rw [run_sendMessage_onSession A hon, run_sendMessage_onSession A hon', hhanded]
  dsimp only
  rw [hsend, href]
  simp only [sentOn_named]
  rfl

end Naming

/-! ## 6. Beginning an exchange -/

/-- The node after an exchange was begun to an address. -/
def dialled (n : Node) (peer : PeerInfo) : Node where
  sessions := { n.sessions with
    sessionsUnsecured := n.sessions.sessionsUnsecured ++
      [{ plainSession n.sessions.outside.entropy with transport := .client, peerInfo := some peer }]
    outside := { n.sessions.outside with entropy := fun i => n.sessions.outside.entropy (4 + i) } }
  exchanges := n.exchanges ++ [n.localExchange (.unsecured n.sessions.sessionsUnsecured.length)]
  nextExchangeId := n.nextExchangeId + 1

theorem run_newExchangeTo_client (n : Node) (peer : PeerInfo) :
    (newExchangeTo .client peer).run n = .ok n.exchanges.length (n.dialled peer) := by
  let ref : SessionRef := .unsecured n.sessions.sessionsUnsecured.length
  let m : Node :=
    { sessions := { n.sessions with
        sessionsUnsecured := n.sessions.sessionsUnsecured ++ [plainSession n.sessions.outside.entropy]
        outside := { n.sessions.outside with
          entropy := fun i => n.sessions.outside.entropy (4 + i) } }
      exchanges := n.exchanges ++ [n.localExchange ref]
      nextExchangeId := n.nextExchangeId + 1 }
  have hsession : (onSessions SessionManager.newUnsecuredSession).run n =
      .ok ref { n with sessions := m.sessions } := run_zoom_ok (run_newUnsecuredSession n.sessions)
  have hnew : newExchange.run n = .ok n.exchanges.length m := by
    unfold newExchange
    rw [run_bind_ok hsession]
    rfl
  have hlast : m.exchanges[n.exchanges.length]? = some (n.localExchange ref) :=
    List.getElem?_concat_length
  have haddressed : m.sessions.modifySession
      (fun s => { s with transport := .client, peerInfo := some peer }) ref =
        (n.dialled peer).sessions := by
    simp only [m, ref, dialled, SessionManager.modifySession, modify_append_one]
  unfold newExchangeTo
  rw [run_bind_ok hnew, run_bind_ok (run_get m), hlast]
  show EStateM.Result.ok _ ({ m with sessions := _ } : Node) = _
  rw [show (n.localExchange ref).session = ref from rfl, haddressed]
  rfl

section Dialled

variable (n : Node) (peer : PeerInfo) {o : Outside} {f : Exchange → Exchange}

theorem keys_dialled : (n.dialled peer).keys =
    n.keys ++ [⟨.unsecured n.contacts.length, n.nextExchangeId, true⟩] := by
  unfold keys dialled contacts
  rw [List.map_append, List.map_singleton, List.length_map]
  rfl

/-- The contact, once its node id is drawn. -/
theorem contacts_dialled (o : Outside) :
    (((n.dialled peer).withOutside o).named n.contacts.length).contacts =
      n.contacts ++ [⟨some peer, some (drawnNodeId o.entropy), .nat unsecuredSessionId⟩] := by
  have hlen : n.contacts.length = n.sessions.sessionsUnsecured.length := List.length_map ..
  unfold contacts named withOutside dialled
  dsimp only
  rw [List.length_map, modify_append_one, List.map_append]
  rfl

/-- The exchange that was begun last, and its session: no node id is drawn yet. -/
theorem dialled_last (o : Outside) (hf : Exchange.Stays f) (hx : n.nextExchangeId < 65536) {k : Nat}
    (hk : k ≤ 2 ^ 31) :
    let m := ((n.dialled peer).withOutside o).modifyExchange n.exchanges.length f
    ∃ ex s, m.exchanges[n.exchanges.length]? = some ex ∧ ex.session = .unsecured n.contacts.length ∧
      m.sessions.sessionsUnsecured[n.contacts.length]? = some s ∧ Conversation ex s k ∧
      ex.isInitiator = true ∧ s.peerNodeId = none := by
  have hlen : n.contacts.length = n.sessions.sessionsUnsecured.length := List.length_map ..
  have hrole : (f (n.localExchange (.unsecured n.sessions.sessionsUnsecured.length))).isInitiator =
      true := hf.isInitiator _
  refine ⟨f (n.localExchange (.unsecured n.sessions.sessionsUnsecured.length)),
    { plainSession n.sessions.outside.entropy with transport := .client, peerInfo := some peer },
    ?_, ?_, ?_, ?_, hrole, rfl⟩
  · show ((n.exchanges ++ [_]).modify n.exchanges.length f)[n.exchanges.length]? = _
    rw [List.getElem?_modify_eq, List.getElem?_concat_length]
    rfl
  · exact (hf.session _).trans (congrArg SessionRef.unsecured hlen.symm)
  · rw [hlen]
    exact List.getElem?_concat_length
  constructor
  case peerSessionId => rfl
  case peerInfo => exact ⟨peer, rfl⟩
  case nodeId_fits => exact fun id hid => nomatch hid
  case responds => exact fun hresponder => absurd (hrole.symm.trans hresponder) (by decide)
  case counter_le =>
    have hle := messageCounter_plainSession n.sessions.outside.entropy
    show (plainSession n.sessions.outside.entropy).messageCounter + k ≤ 2 ^ 32
    omega
  case exchangeId_lt => exact (hf.exchangeId _).trans_lt hx
  case ackCounter_lt => exact hf.ackCounter _ (by show 0 < 2 ^ 32; decide)

/-- **The first message on a new exchange is said**, and the exchange hears its peer, where no contact
    was the peer's. -/
theorem sendMessage_dialled (A : Aead) (hseated : n.Seated) (hx : n.nextExchangeId < 65536)
    (hpos : 0 < drawnNodeId o.entropy)
    (hnone : findContact peer (drawnNodeId o.entropy) n.contacts = .ok none)
    (hf : Exchange.Stays f) {c : Content} (hc : c.InRange) {k : Nat} (hk : k < 2 ^ 31) :
    let m := final ((sendMessage A n.exchanges.length c.message).run
      (((n.dialled peer).withOutside o).modifyExchange n.exchanges.length f))
    m.Talks n.exchanges.length n.contacts.length peer (drawnNodeId o.entropy) n.nextExchangeId true
        o.transmitted k ∧
      ∃ t, m.sessions.outside.transmitted = o.transmitted ++ [t] ∧
        t.peer = peer ∧ FrameOf (drawnNodeId o.entropy) n.nextExchangeId true c t.frame := by
  let m := ((n.dialled peer).withOutside o).modifyExchange n.exchanges.length f
  let j := n.contacts.length
  obtain ⟨ex, s, hex, href, hs, hconv, hrole, hnew⟩ :=
    dialled_last n peer o hf hx (k := k + 1) (Nat.succ_le_of_lt hk)
  have hfirst := sendMessage_named A hex href hs hconv hrole hnew hpos c
  have hkeys : (m.named j).keys =
      n.keys ++ [⟨.unsecured n.contacts.length, n.nextExchangeId, true⟩] :=
    (keys_modifyExchange _ _ hf).trans (keys_dialled n peer)
  have hlenKeys : n.keys.length = n.exchanges.length := List.length_map ..
  have hears : (m.named j).Hears n.exchanges.length j peer (drawnNodeId o.entropy)
      n.nextExchangeId true :=
    hlenKeys ▸ hears_last hseated hnone (contacts_dialled n peer o) hkeys
  have hspeaks : (m.named j).Speaks n.exchanges.length (k + 1) := by
    refine ⟨ex, j, { s with peerNodeId := some (drawnNodeId o.entropy) }, hex, href, ?_, ?_⟩
    · show (m.sessions.sessionsUnsecured.modify j _)[j]? = _
      rw [List.getElem?_modify_eq, hs]
      rfl
    · refine { hconv with nodeId_fits := ?_, responds := ?_ }
      · intro id hid
        rw [← Option.some.inj hid]
        exact drawnNodeId_lt _
      · exact fun hresponder => absurd (hrole.symm.trans hresponder) (by decide)
  have htalks : (m.named j).Talks n.exchanges.length j peer (drawnNodeId o.entropy)
      n.nextExchangeId true o.transmitted (k + 1) :=
    ⟨hears, hspeaks, [], (List.append_nil _).symm, fun t ht => absurd ht List.not_mem_nil⟩
  obtain ⟨sent, n', t, hrun, htransmitted, hpeer, hframe, htalks'⟩ := htalks.sendMessage hpos A hc
  rw [hfirst, hrun]
  exact ⟨htalks', t, htransmitted, hpeer, hframe⟩

end Dialled

end Node

/-! ## 7. Two nodes, of which one hears -/

/-- What a message that is sent on the session is made with. -/
def Session.outgoing (s : Session) : Nat × Transport := (s.messageCounter, s.transport)

namespace Node

section Echoes

variable {n n' : Node} {i j k nodeId exchangeId : Nat} {peer : PeerInfo} {isInitiator : Bool}
  {old : List Transmission}

/-- On both nodes the exchange talks; they differ in what was heard. -/
structure Echoes (i j : Nat) (peer : PeerInfo) (nodeId exchangeId : Nat) (isInitiator : Bool)
    (old : List Transmission) (k : Nat) (n n' : Node) : Prop where
  left : n.Talks i j peer nodeId exchangeId isInitiator old k
  right : n'.Talks i j peer nodeId exchangeId isInitiator old k
  outside : n'.sessions.outside = n.sessions.outside
  secured : n'.sessions.sessionsSecured = n.sessions.sessionsSecured
  exchange : n'.exchanges[i]? = n.exchanges[i]?
  outgoing : n'.sessions.sessionsUnsecured[j]?.map Session.outgoing =
    n.sessions.sessionsUnsecured[j]?.map Session.outgoing

theorem Talks.echoes (h : n.Talks i j peer nodeId exchangeId isInitiator old k) :
    Echoes i j peer nodeId exchangeId isInitiator old k n n := ⟨h, h, rfl, rfl, rfl, rfl⟩

/-- What is heard on the right, with the ack counter that goes with it on the left. -/
theorem Echoes.heard (h : Echoes i j peer nodeId exchangeId isInitiator old k n n') {msg : Message}
    (hmsg : msg.peerInfo = some peer) {counter : Nat} (hcounter : counter < 2 ^ 32) :
    Echoes i j peer nodeId exchangeId isInitiator old k
      (n.modifyExchange i fun ex => { ex with ackCounter := counter }) (n'.heard i j msg counter) where
  left := ⟨h.left.hears.congr rfl (keys_modifyExchange n i (Exchange.stays_ackCounter hcounter)),
    h.left.speaks.modifyExchange (Exchange.stays_ackCounter hcounter), h.left.said⟩
  right := h.right.heard hmsg hcounter
  outside := h.outside
  secured := h.secured
  exchange := by
    show (n'.exchanges.modify i _)[i]? = (n.exchanges.modify i _)[i]?
    rw [List.getElem?_modify_eq, List.getElem?_modify_eq, h.exchange]
  outgoing := by
    show (n'.sessions.sessionsUnsecured.modify j _)[j]?.map Session.outgoing = _
    rw [List.getElem?_modify_eq]
    refine Eq.trans ?_ h.outgoing
    cases n'.sessions.sessionsUnsecured[j]? <;> rfl

/-- **Whatever is done on the exchange is done on both**, and the same goes out. -/
theorem moves_echoes (A : Aead) (hpos : 0 < nodeId) :
    Moves A i (Echoes i j peer nodeId exchangeId isInitiator old) where
  weaken h := ⟨h.left.weaken, h.right.weaken, h.outside, h.secured, h.exchange, h.outgoing⟩
  entropy h := by rw [h.outside]
  draw e h :=
    { h with
      left := ((moves_talks A hpos).draw e ⟨rfl, h.left⟩).2
      right := ((moves_talks A hpos).draw e ⟨rfl, h.right⟩).2
      outside := congrArg (fun o : Outside => { o with entropy := e }) h.outside }
  push s h :=
    { h with
      left := ((moves_talks A hpos).push s ⟨rfl, h.left⟩).2
      right := ((moves_talks A hpos).push s ⟨rfl, h.right⟩).2
      secured := congrArg (· ++ [s]) h.secured }
  modifyExchange := by
    intro k n n' f hf h
    refine { h with
      left := ((moves_talks A hpos).modifyExchange hf ⟨rfl, h.left⟩).2
      right := ((moves_talks A hpos).modifyExchange hf ⟨rfl, h.right⟩).2
      exchange := ?_ }
    show (n'.exchanges.modify i f)[i]? = (n.exchanges.modify i f)[i]?
    rw [List.getElem?_modify_eq, List.getElem?_modify_eq, h.exchange]
  send := by
    intro k c hc n n' h
    obtain ⟨sent, m, -, hrun, -, -, -, htalks⟩ := h.left.sendMessage hpos A hc
    obtain ⟨sent', m', -, hrun', -, -, -, htalks'⟩ := h.right.sendMessage hpos A hc
    rw [run_bind_ok hrun, run_bind_ok hrun']
    -- both frames are made of the same
    obtain ⟨ex, s, hclear, href, -, -⟩ := h.left.clearExchange hpos
    obtain ⟨ex', s', hclear', href', -, -⟩ := h.right.clearExchange hpos
    obtain rfl : ex' = ex :=
      Option.some.inj (hclear'.exchange.symm.trans (h.exchange.trans hclear.exchange))
    have hs : n.sessions.sessionsUnsecured[j]? = some s := by
      have hget := hclear.session
      rwa [href] at hget
    have hs' : n'.sessions.sessionsUnsecured[j]? = some s' := by
      have hget := hclear'.session
      rwa [href] at hget
    have houtgoing : s'.outgoing = s.outgoing := by
      have hmap := h.outgoing
      rw [hs, hs'] at hmap
      exact Option.some.inj hmap
    have hcounter : s'.messageCounter = s.messageCounter := congrArg Prod.fst houtgoing
    have htransport : s'.transport = s.transport := congrArg Prod.snd houtgoing
    obtain ⟨_, hsend⟩ := sendMessage_clearFrame A hclear c
    obtain ⟨_, hsend'⟩ := sendMessage_clearFrame A hclear' c
    rw [hrun] at hsend
    rw [hrun'] at hsend'
    obtain ⟨-, rfl⟩ := EStateM.Result.ok.inj hsend
    obtain ⟨-, rfl⟩ := EStateM.Result.ok.inj hsend'
    rw [href] at htalks htalks' ⊢
    refine ⟨rfl, htalks, htalks', ?_, h.secured, h.exchange, ?_⟩
    · unfold SessionManager.transmitOn
      dsimp only
      rw [h.outside, hcounter, htransport]
    · show (n'.sessions.sessionsUnsecured.modify j _)[j]?.map Session.outgoing =
        (n.sessions.sessionsUnsecured.modify j _)[j]?.map Session.outgoing
      rw [List.getElem?_modify_eq, List.getElem?_modify_eq, hs, hs']
      show some (s'.messageCounter + 1, s'.transport) = some (s.messageCounter + 1, s.transport)
      rw [hcounter, htransport]

end Echoes

end Node

end Matternode.Messaging
