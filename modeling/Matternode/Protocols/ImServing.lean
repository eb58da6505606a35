/-
  File:      Matternode/Protocols/ImServing.lean
  Subject:   The read and invoke requests whose handlers return.

  * `reportDataSize` -- how long a ReportData is;
  * `Returns` -- a handler returns: the trace line is written, nothing throws, and the cipher takes
    what is sent;
  * `ReadServed`, `InvokeServed` -- what a handler is for: it returns, skips what is unknown and
    answers the rest;
  * `Arrives` -- the datagram that a request comes in;
  * `request_served_iff` -- **both handlers do so exactly when** no value is read as a bigint, the
    payload nests no deeper than the stack, every endpoint that is named is in the table, every
    cluster and command that is found has a handler that does not throw, the session's counter fits
    its field for every message sent, and no reply is longer than the cipher takes.
-/
import Matternode.Js.Json
import Matternode.Protocols.ImSending

namespace Matternode.Protocols.InteractionModel

open Base Js Tlv Messaging Clusters

/-! ## 1. How long a ReportData is -/

def idSize (id : Option Nat) : Nat := id.elim 0 numberSize

/-- A report: its ids, each in as few bytes as hold it, and the attribute's value. -/
def reportSize (m : PathIds × Nat) : Nat :=
  8 + numberSize 0x79cea838 + (idSize m.1.nodeId + numberSize m.2 + idSize m.1.clusterId +
    idSize m.1.attributeId) +
    (valueElement ((m.1.attributeAt m.2).elim .undefined Attribute.value)).wire.length

/-- The ReportData for the paths: one report for each endpoint that has the attribute. -/
def reportDataSize (paths : List PathIds) : Nat :=
  5 + ((paths.flatMap PathIds.reported).map reportSize).sum

section Sizes

theorem length_idElements {id : Option Nat} (tag : UInt8) (h : ∀ n ∈ id, n < 2 ^ 32) :
    (forestWire (idElements tag id)).length = idSize id := by
  cases id with
  | none => rfl
  | some n =>
    have hn : n < 2 ^ 32 := h n rfl
    unfold idElements
    rw [Option.toList_some, List.map_cons, List.map_nil, forestWire, forestWire, List.append_nil,
      length_unsigned tag (by omega)]
    rfl

theorem Reports.length {e : Element} {m : PathIds × Nat} (h : Reports e m) :
    e.wire.length = reportSize m := by
  have hversion := length_unsigned 0 (n := 0x79cea838) (by decide)
  have hendpoint : (forestWire (idElements 2 (some m.2))).length = idSize (some m.2) :=
    length_idElements 2 fun n hn => by
      cases hn
      exact h.endpoint
  rw [h.element]
  unfold reportOf reportElement pathElement
  simp only [length_container, forestWire, List.length_append, List.length_nil, forestWire_append,
    Option.toList_none, Option.toList_some, List.length_singleton, hendpoint,
    length_idElements 1 h.small.nodeId, length_idElements 3 h.small.clusterId,
    length_idElements 4 h.small.attributeId]
  rw [show (Element.leaf (some 0) (.unsigned 0x79cea838)).wire.length = _ from hversion]
  unfold reportSize idSize
  rw [Option.elim_some]
  omega

/-- **The reports of the paths make a ReportData** of that size. -/
theorem length_reportData {es : List Element} {paths : List PathIds}
    (h : List.Forall₂ Reports es (paths.flatMap PathIds.reported)) :
    (reportDataElement es).wire.length = reportDataSize paths := by
  have hsum : (forestWire es).length = ((paths.flatMap PathIds.reported).map reportSize).sum := by
    generalize paths.flatMap PathIds.reported = ms at h
    induction h with
    | nil => rfl
    | cons hreports _ ih =>
      rw [forestWire, List.length_append, hreports.length, ih, List.map_cons, List.sum_cons]
  unfold reportDataElement reportDataSize
  rw [length_container, forestWire, forestWire, List.append_nil, length_container, hsum]
  simp only [Option.toList_none, Option.toList_some, List.length_nil, List.length_singleton]
  omega

end Sizes

/-! ## 2. Requests that are served -/

/-- `logger.trace(JSON.stringify(result))` writes its line, on a stack of so many calls. -/
def Traced (stack : Nat) (tlv : Bytes) : Prop :=
  ∀ result, decode tlv = .ok result →
    ∃ text, JSON.stringify stack JSON.keep (JsValue.array result).plain = .ok text

/-- What the payload is decoded to nests no deeper than the stack. -/
def Nests (stack : Nat) (tlv : Bytes) : Prop :=
  ∀ result, decode tlv = .ok result → (JsValue.array result).plain.calls ≤ stack

/-- **The line is written** for a value without bigints that nests no deeper than the stack. -/
theorem traced_iff {stack : Nat} {tlv : Bytes} :
    Traced stack tlv ↔ NoBigint tlv ∧ Nests stack tlv := by
  unfold Traced NoBigint Nests
  rw [← forall_and]
  refine forall_congr' fun result => ?_
  rw [← imp_and]
  exact imp_congr_right fun _ => JSON.stringify_plain_iff

/-- **The handler of a message returns**: the line with its payload is written, nothing throws, and
    the cipher takes what is sent. -/
structure Returns (stack : Nat) (handler : ImM Unit) (msg : Message) (st st' : ImState) : Prop where
  traced : ∀ tlv, msg.appPayload = .ok tlv → Traced stack tlv
  run : handler.run st = .ok () st'
  took : st.node.sessions.outside.Took st'.node.sessions.outside

/-- A path with the ids is asked for on the endpoint. -/
def PathIds.On (p : PathIds) (endpoint : Nat) : Prop :=
  p.endpointId.elim (endpoint ∈ endpointIds) (· = endpoint)

/-- **What `onReadRequest` is for**: it returns and sends one ReportData, with a report of every
    attribute that a path finds, and no others. -/
def ReadServed (A : Aead) (stack : Nat) (st : ImState) (msg : Message) (i : Nat) (ex : Exchange)
    (s : Session) (peer : PeerInfo) (id : Nat) (keys : SessionCryptoContext)
    (paths : List PathIds) : Prop :=
  ∃ st' reports, Returns stack (onReadRequest A msg i) msg st st' ∧
    st'.node.sessions.outside.transmitted = st.node.sessions.outside.transmitted ++
      [s.secureFrame A ex peer id keys
        (content reportDataOpcode (reportDataElement reports).wire)] ∧
    (∀ p ∈ paths, ∀ endpoint, p.On endpoint → (p.attributeAt endpoint).isSome →
      ∃ e ∈ reports, Reports e (p, endpoint)) ∧
    ∀ e ∈ reports, ∃ p ∈ paths, ∃ endpoint, p.On endpoint ∧ (p.attributeAt endpoint).isSome ∧
      Reports e (p, endpoint)

/-- **What `onInvokeCommandRequest` is for**: it returns, skips the commands that are unknown, and
    answers the others, one response after the other. -/
def InvokeServed (A : Aead) (sign : Sign) (stack : Nat) (st : ImState) (msg : Message) (i : Nat)
    (ex : Exchange) (s : Session) (peer : PeerInfo) (id : Nat) (keys : SessionCryptoContext)
    (commands : List CommandIds) : Prop :=
  ∃ (st' : ImState) (answers : List Answer),
    Returns stack (onInvokeCommandRequest A sign msg i) msg st st' ∧
    answers.map Answer.reaction = commands.map CommandIds.reaction ∧
    st'.node.sessions.outside.transmitted = st.node.sessions.outside.transmitted ++
      Session.secureFrames A ex peer id keys s (answers.flatMap Answer.contents)

/-- A ReadRequest or an InvokeRequest, by the ids it names. -/
inductive ImRequest where
  | read (paths : List PathIds)
  | invoke (commands : List CommandIds)

namespace ImRequest

def IsPayload (tlv : Bytes) : ImRequest → Prop
  | .read paths => IsReadRequest tlv paths
  | .invoke commands => IsInvokeRequest tlv commands

def Served (A : Aead) (sign : Sign) (stack : Nat) (st : ImState) (msg : Message) (i : Nat)
    (ex : Exchange) (s : Session) (peer : PeerInfo) (id : Nat) (keys : SessionCryptoContext) :
    ImRequest → Prop
  | .read paths => ReadServed A stack st msg i ex s peer id keys paths
  | .invoke commands => InvokeServed A sign stack st msg i ex s peer id keys commands

/-- What its ids name is in the tables with handlers that do not throw, the session's counter fits
    its field for every message sent, and the exchange has room for what is sent. -/
def Answerable (sign : Sign) (tlv : Bytes) (ex : Exchange) (s : Session)
    (keys : SessionCryptoContext) : ImRequest → Prop
  | .read paths =>
    (∀ p ∈ paths, p.Readable) ∧ s.messageCounter < 2 ^ 32 ∧ reportDataSize paths ≤ ex.room
  | .invoke commands =>
    (∀ p ∈ commands, p.Answered tlv) ∧ CounterFits s commands ∧
      ∀ p ∈ commands, p.ReplyFits sign keys.attestationChallenge tlv ex.room

end ImRequest

/-- **A datagram on a secure session has come**: it begins an exchange of the protocol, and its
    message is handed to the handlers in the state that it left. -/
structure Arrives (A : Aead) (n : Node) (buf : Bytes) (peer : PeerInfo) (id : Nat) (msg : Message)
    (i : Nat) (st : ImState) : Prop where
  wellFormed : n.WellFormed
  encrypted : (rawMessage buf peer).isUnencrypted = .ok false
  sessionId : (rawMessage buf peer).sessionId = .ok id
  id_pos : 0 < id
  delivered : (Node.onDatagram A buf peer).run n = .ok (.protocol protocolId msg i) st.node

section Serving

variable {st : ImState} {msg : Message} {i : Nat} {ex : Exchange} {s : Session} {peer : PeerInfo}
  {id : Nat} {keys : SessionCryptoContext} {tlv : Bytes}

/-- The places that a path is reported on are those it is asked for on. -/
theorem mem_reported_iff {p : PathIds} {endpoint : Nat} : (p, endpoint) ∈ p.reported ↔
    p.On endpoint ∧ (p.attributeAt endpoint).isSome := by
  unfold PathIds.reported PathIds.reportsOn PathIds.On
  rw [List.mem_map]
  constructor
  · rintro ⟨e, he, heq⟩
    cases heq
    obtain ⟨hmem, hsome⟩ := List.mem_filter.mp he
    refine ⟨?_, hsome⟩
    cases hp : p.endpointId with
    | none =>
      rw [hp, Option.elim_none] at hmem
      rw [Option.elim_none, endpointIds_eq]
      simp only [List.mem_cons, List.not_mem_nil, or_false] at hmem ⊢
      omega
    | some e =>
      rw [hp, Option.elim_some] at hmem
      rw [Option.elim_some]
      exact (List.mem_singleton.mp hmem).symm
  · rintro ⟨hon, hsome⟩
    refine ⟨endpoint, List.mem_filter.mpr ⟨?_, hsome⟩, rfl⟩
    cases hp : p.endpointId with
    | none =>
      rw [hp, Option.elim_none, endpointIds_eq] at hon
      rw [Option.elim_none]
      simp only [List.mem_cons, List.not_mem_nil, or_false] at hon ⊢
      omega
    | some e =>
      rw [hp, Option.elim_some] at hon
      rw [Option.elim_some, hon]
      exact List.mem_singleton_self _

/-- Lists that are related have a partner for each of their entries. -/
theorem exists_of_forall₂ {α β : Type} {R : α → β → Prop} {as : List α} {bs : List β}
    (h : List.Forall₂ R as bs) {a : α} (ha : a ∈ as) : ∃ b ∈ bs, R a b := by
  induction h with
  | nil => cases ha
  | cons hab _ ih =>
    rcases List.mem_cons.mp ha with rfl | ha
    · exact ⟨_, List.mem_cons_self .., hab⟩
    · obtain ⟨b, hb, hrel⟩ := ih ha
      exact ⟨b, List.mem_cons_of_mem _ hb, hrel⟩

theorem fst_of_mem_reported {p : PathIds} {m : PathIds × Nat} (h : m ∈ p.reported) : p = m.1 := by
  obtain ⟨endpoint, -, rfl⟩ := List.mem_map.mp h
  rfl

/-- **A read is served exactly when** its payload is traced, its paths are readable, the counter
    fits, and there is room for the reports. -/
theorem readServed_iff (A : Aead) (stack : Nat) (h : SecureExchange st.node i ex s peer id)
    (hkeys : s.cryptoContext = some keys) (hmsg : msg.appPayload = .ok tlv) {paths : List PathIds}
    (hrequest : IsReadRequest tlv paths) :
    ReadServed A stack st msg i ex s peer id keys paths ↔
      NoBigint tlv ∧ Nests stack tlv ∧ (∀ p ∈ paths, p.Readable) ∧ s.messageCounter < 2 ^ 32 ∧
        reportDataSize paths ≤ ex.room := by
  have hrun : (onReadRequest A msg i).run st =
      (do send A i reportDataOpcode (← lift (reportData tlv)) : ImM Unit).run st := by
    unfold onReadRequest
    rw [hmsg, run_bind_ok (run_lift_ok tlv st)]
  have hsent (hno : NoBigint tlv) (hread : ∀ p ∈ paths, p.Readable)
      (hcounter : s.messageCounter < 2 ^ 32) :
      ∃ es st', List.Forall₂ Reports es (paths.flatMap PathIds.reported) ∧
        (onReadRequest A msg i).run st = .ok () st' ∧ Carried A i ex peer id keys st s st'
          [content reportDataOpcode (reportDataElement es).wire] := by
    obtain ⟨es, hes, hdata⟩ := reportData_ok hrequest hno hread
    obtain ⟨keys', n', hkeys', hsend, hafter, htransmitted, hciphered⟩ := run_send_ok (A := A) h
      hcounter (show reportDataOpcode < 256 by decide) (reportDataElement es).wire
    cases hkeys.symm.trans hkeys'
    refine ⟨es, st.withNode n', hes, ?_, hafter, htransmitted, hciphered⟩
    rw [hrun, hdata, run_bind_ok (run_lift_ok _ st)]
    exact hsend
  have hroom {es : List Element} {st' : ImState}
      (hes : List.Forall₂ Reports es (paths.flatMap PathIds.reported))
      (hcarried : Carried A i ex peer id keys st s st'
        [content reportDataOpcode (reportDataElement es).wire]) :
      st.node.sessions.outside.Took st'.node.sessions.outside ↔ reportDataSize paths ≤ ex.room := by
    rw [hcarried.took_iff, List.forall_mem_singleton, ← length_reportData hes]
    rfl
  constructor
  · rintro ⟨st', reports, hreturns, -⟩
    obtain ⟨hno, hnests⟩ := traced_iff.mp (hreturns.traced tlv hmsg)
    have hok := hreturns.run
    rw [hrun] at hok
    have hread : ∀ p ∈ paths, p.Readable := by
      by_contra hall
      obtain ⟨e, he⟩ := reportData_error hrequest hno hall
      rw [he, run_bind_error (run_lift_error e st)] at hok
      cases hok
    have hcounter : s.messageCounter < 2 ^ 32 := by
      by_contra hfull
      obtain ⟨es, -, hdata⟩ := reportData_ok hrequest hno hread
      obtain ⟨e, st1, hsend⟩ := run_send_full (A := A) h (Nat.le_of_not_lt hfull)
        (show reportDataOpcode < 256 by decide) (reportDataElement es).wire
      rw [hdata, run_bind_ok (run_lift_ok _ st), hsend] at hok
      cases hok
    obtain ⟨es, st1, hes, hrun', hcarried⟩ := hsent hno hread hcounter
    cases hreturns.run.symm.trans hrun'
    exact ⟨hno, hnests, hread, hcounter, (hroom hes hcarried).mp hreturns.took⟩
  · rintro ⟨hno, hnests, hread, hcounter, hfits⟩
    obtain ⟨es, st', hes, hrun', hcarried⟩ := hsent hno hread hcounter
    refine ⟨st', es, ⟨fun tlv' hmsg' => ?_, hrun', (hroom hes hcarried).mpr hfits⟩,
      hcarried.transmitted, ?_, ?_⟩
    · cases hmsg.symm.trans hmsg'
      exact traced_iff.mpr ⟨hno, hnests⟩
    · intro p hp endpoint hon hsome
      have hmem : (p, endpoint) ∈ paths.flatMap PathIds.reported :=
        List.mem_flatMap.mpr ⟨p, hp, mem_reported_iff.mpr ⟨hon, hsome⟩⟩
      exact exists_of_forall₂ hes.flip hmem
    · intro e he
      obtain ⟨m, hm, hreports⟩ := exists_of_forall₂ hes he
      obtain ⟨p, hp, hmem⟩ := List.mem_flatMap.mp hm
      obtain rfl := fst_of_mem_reported hmem
      obtain ⟨hon, hsome⟩ := mem_reported_iff.mp hmem
      exact ⟨m.1, hp, m.2, hon, hsome, hreports⟩

/-- A bigint anywhere makes the commands unreadable. -/
theorem commandList_of_bigint (hbig : ¬ NoBigint tlv) : commandList tlv = .error .typeError := by
  obtain ⟨result, hdecode, hthrows⟩ := stringify_of_bigint hbig
  unfold commandList
  rw [hdecode]
  simp only [bind, Except.bind, hthrows]

/-- The commands of a request. -/
theorem commandList_ok {commands : List CommandIds} (hrequest : IsInvokeRequest tlv commands)
    (hno : NoBigint tlv) : ∃ entries, commandList tlv = .ok (entries.map (·.value)) ∧
      List.Forall₂ NamesCommand entries commands ∧ entriesHaveBigint entries = false := by
  obtain ⟨top, rest, params, entries, hdecode, htop, hparams, hentries⟩ := hrequest
  have hresult := hno _ hdecode
  refine ⟨entries, ?_, hentries, entriesHaveBigint_list hresult htop hparams⟩
  unfold commandList
  rw [hdecode]
  simp only [bind, Except.bind, stringify, hresult, JsValue.valueAt, List.getElem?_cons_zero,
    Option.elim_some, htop, findTag, hparams]
  rfl

/-- **An invocation is served exactly when** its payload is traced, its commands are answered, the
    counter fits, and there is room for the replies. -/
theorem invokeServed_iff (A : Aead) (sign : Sign) (stack : Nat)
    (h : SecureExchange st.node i ex s peer id) (hkeys : s.cryptoContext = some keys)
    (hmsg : msg.appPayload = .ok tlv) (hshort : tlv.length < 2 ^ 31) {commands : List CommandIds}
    (hrequest : IsInvokeRequest tlv commands) :
    InvokeServed A sign stack st msg i ex s peer id keys commands ↔
      NoBigint tlv ∧ Nests stack tlv ∧ (∀ p ∈ commands, p.Answered tlv) ∧ CounterFits s commands ∧
        ∀ p ∈ commands, p.ReplyFits sign keys.attestationChallenge tlv ex.room := by
  have hrun : (onInvokeCommandRequest A sign msg i).run st =
      (do handleCommands A sign i tlv (← lift (commandList tlv)) : ImM Unit).run st := by
    unfold onInvokeCommandRequest
    rw [hmsg, run_bind_ok (run_lift_ok tlv st)]
  constructor
  · rintro ⟨st', -, hreturns, -⟩
    obtain ⟨hno, hnests⟩ := traced_iff.mp (hreturns.traced tlv hmsg)
    have hok := hreturns.run
    obtain ⟨entries, hlist, hnames, hbig⟩ := commandList_ok hrequest hno
    rw [hrun, hlist, run_bind_ok (run_lift_ok _ st)] at hok
    obtain ⟨hanswered, hcounter⟩ := answered_of_handleCommands hnames hbig hno hshort h hkeys hok
    obtain ⟨st1, answers, hhandle, -, hcarried, hfits⟩ := handleCommands_ok A sign
      hnames hbig hno hshort hanswered h hkeys hcounter
    cases hok.symm.trans hhandle
    exact ⟨hno, hnests, hanswered, hcounter, hfits.mp (hcarried.took_iff.mp hreturns.took)⟩
  · rintro ⟨hno, hnests, hanswered, hcounter, hroom⟩
    obtain ⟨entries, hlist, hnames, hbig⟩ := commandList_ok hrequest hno
    obtain ⟨st', answers, hhandle, hmap, hcarried, hfits⟩ := handleCommands_ok A sign
      hnames hbig hno hshort hanswered h hkeys hcounter
    refine ⟨st', answers, ⟨fun tlv' hmsg' => ?_, ?_, hcarried.took_iff.mpr (hfits.mpr hroom)⟩, hmap,
      hcarried.transmitted⟩
    · cases hmsg.symm.trans hmsg'
      exact traced_iff.mpr ⟨hno, hnests⟩
    · rw [hrun, hlist, run_bind_ok (run_lift_ok _ st)]
      exact hhandle

/-- A request on an exchange of a secure session. -/
theorem served_iff (A : Aead) (sign : Sign) (stack : Nat)
    (h : SecureExchange st.node i ex s peer id) (hkeys : s.cryptoContext = some keys)
    (hmsg : msg.appPayload = .ok tlv) (hshort : tlv.length < 2 ^ 31) {request : ImRequest}
    (hrequest : request.IsPayload tlv) :
    request.Served A sign stack st msg i ex s peer id keys ↔
      NoBigint tlv ∧ Nests stack tlv ∧ request.Answerable sign tlv ex s keys := by
  cases request with
  | read paths => exact readServed_iff A stack h hkeys hmsg hrequest
  | invoke commands => exact invokeServed_iff A sign stack h hkeys hmsg hshort hrequest

/-- **A request that comes on a secure session is served exactly when** no value is read as a
    bigint, the payload nests no deeper than the stack, every endpoint that is named is in the table,
    every cluster and command that is found has a handler that does not throw, the session's counter
    fits its field for every message sent, and the exchange has room for what is sent. -/
theorem request_served_iff (sign : Sign) (stack : Nat) {A : Aead} {n : Node} {buf : Bytes}
    (h : Arrives A n buf peer id msg i st) (hmsg : msg.appPayload = .ok tlv)
    (hshort : tlv.length < 2 ^ 31) {request : ImRequest} (hrequest : request.IsPayload tlv) :
    ∃ ex s keys, SecureExchange st.node i ex s peer id ∧ s.cryptoContext = some keys ∧
      (request.Served A sign stack st msg i ex s peer id keys ↔
        NoBigint tlv ∧ Nests stack tlv ∧ request.Answerable sign tlv ex s keys) := by
  obtain ⟨ex, s, hex⟩ :=
    secureExchange_onDatagram h.wellFormed h.encrypted h.sessionId h.id_pos h.delivered
  obtain ⟨keys, hkeys⟩ := Option.isSome_iff_exists.mp (s.context.trans hex.secure)
  exact ⟨ex, s, keys, hex, hkeys, served_iff A sign stack hex hkeys hmsg hshort hrequest⟩

end Serving

/-! ## 3. Samples -/

/-- A signature that is the message's first bytes. -/
def sampleSign : Sign := fun message _ =>
  ⟨message.take 64, (List.length_take_le 64 message).trans_lt (by decide)⟩

/-- A node with a secure session. -/
def sampleNode : Node :=
  run (Node.step Aead.keyTag SessionManager.sampleHkdf) (.init fun _ => 0)
    [.handshake (.nat 1) (.nat 1) []]

/-- The bytes of the first message of exchange 1, a ReadRequest. -/
def sampleFrame (reads : List AttributeRead) : Bytes :=
  stampedHeader 1 5 ++ [1, 2, 1, 0, 1, 0] ++ readRequest reads

/-- What the session's peer sends for it. -/
def sampleRequest (reads : List AttributeRead) : Bytes :=
  MsgCodec.encrypt Aead.keyTag (sampleFrame reads) (List.replicate 16 7)

/-- The message that is read from it. -/
def sampleMessage (reads : List AttributeRead) : Message :=
  { received (sampleRequest reads) samplePeer with buffer := sampleFrame reads }

/-- The state that the request leaves to the handlers. -/
def sampleArrived (reads : List AttributeRead) : ImState where
  node := final ((Node.onDatagram Aead.keyTag (sampleRequest reads) samplePeer).run sampleNode)

theorem wellFormed_sampleNode : sampleNode.WellFormed :=
  run_invariant _ (Node.wellFormed_step Aead.keyTag SessionManager.sampleHkdf)
    (Node.wellFormed_init fun _ => 0) _

theorem arrives_sampleReads :
    Arrives Aead.keyTag sampleNode (sampleRequest sampleReads) samplePeer 1
      (sampleMessage sampleReads) 0 (sampleArrived sampleReads) :=
  ⟨wellFormed_sampleNode, rfl, rfl, by decide, rfl⟩

/-- The paths of the sample are read: what is known is reported, and the rest is skipped. -/
theorem request_served_iff_sample :
    ∃ ex s keys, SecureExchange (sampleArrived sampleReads).node 0 ex s samplePeer 1 ∧
      s.cryptoContext = some keys ∧
      (ImRequest.read (sampleReads.map AttributeRead.ids)).Served Aead.keyTag sampleSign 11
        (sampleArrived sampleReads) (sampleMessage sampleReads) 0 ex s samplePeer 1 keys := by
  obtain ⟨ex, s, keys, hex, hkeys, hserved⟩ := request_served_iff sampleSign 11 arrives_sampleReads
    (show (sampleMessage sampleReads).appPayload = .ok (readRequest sampleReads) from rfl)
    (by decide) (show (ImRequest.read (sampleReads.map AttributeRead.ids)).IsPayload
      (readRequest sampleReads) from isReadRequest_sampleReads)
  have hnone : NoBigint (readRequest sampleReads) ∧ Nests 11 (readRequest sampleReads) := by
    unfold NoBigint Nests readRequest
    rw [decode_forestWire]
    refine ⟨fun result h => ?_, fun result h => ?_⟩
    · cases h
      rfl
    · cases h
      decide
  have hcounter : s.messageCounter < 2 ^ 32 := by
    have hs := hex.session
    cases Option.some.inj (hex.exchange.symm.trans rfl)
    cases Option.some.inj (hs.symm.trans rfl)
    decide
  exact ⟨ex, s, keys, hex, hkeys, hserved.mpr ⟨hnone.1, hnone.2,
    readable_of_supported supported_sampleReads, hcounter, le_trans (by decide) ex.room_le⟩⟩

/-- VendorID on an endpoint that is not there. -/
def strayRead : AttributeRead := { endpointId := some 9, clusterId := 40, attributeId := 2 }

/-- **A read of an endpoint that is not in the table is not served.** -/
theorem strayRead_not_served :
    Arrives Aead.keyTag sampleNode (sampleRequest [strayRead]) samplePeer 1
        (sampleMessage [strayRead]) 0 (sampleArrived [strayRead]) ∧
      (sampleMessage [strayRead]).appPayload = .ok (readRequest [strayRead]) ∧
      IsReadRequest (readRequest [strayRead]) [strayRead.ids] ∧
      ∃ ex s keys, SecureExchange (sampleArrived [strayRead]).node 0 ex s samplePeer 1 ∧
        s.cryptoContext = some keys ∧ ∀ stack, ¬ (ImRequest.read [strayRead.ids]).Served
          Aead.keyTag sampleSign stack (sampleArrived [strayRead]) (sampleMessage [strayRead]) 0
          ex s samplePeer 1 keys := by
  have harrives : Arrives Aead.keyTag sampleNode (sampleRequest [strayRead]) samplePeer 1
      (sampleMessage [strayRead]) 0 (sampleArrived [strayRead]) :=
    ⟨wellFormed_sampleNode, rfl, rfl, by decide, rfl⟩
  have hrequest : IsReadRequest (readRequest [strayRead]) [strayRead.ids] :=
    ⟨_, _, _, _, decode_forestWire _, rfl, rfl,
      .cons ⟨_, rfl, .absent, .number (n := 9) (by decide), .number (n := 40) (by decide),
        .number (n := 2) (by decide)⟩ .nil⟩
  obtain ⟨ex, s, hex⟩ := secureExchange_onDatagram harrives.wellFormed harrives.encrypted
    harrives.sessionId harrives.id_pos harrives.delivered
  obtain ⟨keys, hkeys⟩ := Option.isSome_iff_exists.mp (s.context.trans hex.secure)
  refine ⟨harrives, rfl, hrequest, ex, s, keys, hex, hkeys, fun stack hserved => ?_⟩
  obtain ⟨-, -, hread, -⟩ := (readServed_iff Aead.keyTag stack hex hkeys
    (show (sampleMessage [strayRead]).appPayload = .ok (readRequest [strayRead]) from rfl)
    hrequest).mp hserved
  have hknown := (hread _ (List.mem_singleton_self _)).known 9 rfl
  rw [endpointIds_eq] at hknown
  exact absurd hknown (by decide)

end Matternode.Protocols.InteractionModel
