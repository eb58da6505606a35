/-
  File:      Matternode/Protocols/PaseRounds.lean
  Subject:   The rounds of a PASE handshake, each through the frames of its exchange.

  * `Handed`, `Quiet` -- what a round leaves of the node;
  * `step_start`, `step_request`, `run_response`, `run_pake1`, `step_pake2`, `step_pake3` -- **what each
    round sends and keeps**, given what the packages answer;
  * `deriveVerifier` -- the verifier of either side, whose failure ends the round in silence;
  * `MakesSession` -- the session that the last two rounds make.
-/
import Matternode.Messaging.Parallel
import Matternode.Protocols.PaseIds
import Matternode.Protocols.PaseMessages

namespace Matternode.Protocols

open Base Js Messaging Tlv

variable {V : Type}

/-! ## 1. Sending -/

/-- The frames handed to the transport. -/
def PaseHost.transmitted (h : PaseHost V) : List Transmission :=
  h.node.sessions.outside.transmitted

/-- The secure sessions of the host's node. -/
def PaseHost.secured (h : PaseHost V) : List Session := h.node.sessions.sessionsSecured

/-- What a handler awaits comes: the verifier, what `generateVerifier` answers, the party. -/
def PaseHost.awaited (coin : Nat) : List PaseEvent := [.resume 0 coin, .resume 0 coin, .resume 0 coin]

/-- What a message of the handshake holds. -/
abbrev contentOf (opcode : Nat) (payload : Bytes) : Content := ⟨secureChannel, opcode, payload⟩

theorem content_inRange {opcode : Nat} (h : opcode < 256) (payload : Bytes) :
    (contentOf opcode payload).InRange := ⟨by show 0 < 65536; decide, h⟩

/-- A message went out as one frame that carries it, and `k` may follow. -/
structure Handed (n n' : Node) (i k : Nat) (c : Content) (t : Transmission) : Prop where
  transmitted : n'.sessions.outside.transmitted = n.sessions.outside.transmitted ++ [t]
  carried : c.CarriedBy { buffer := t.frame }
  speaks : n'.Speaks i k
  secured : n'.sessions.sessionsSecured = n.sessions.sessionsSecured

/-- Nothing went out, and the exchange can send as before. -/
structure Quiet (n n' : Node) (i k : Nat) : Prop where
  transmitted : n'.sessions.outside.transmitted = n.sessions.outside.transmitted
  speaks : n'.Speaks i k
  secured : n'.sessions.sessionsSecured = n.sessions.sessionsSecured

theorem Handed.after {n n' n'' : Node} {i k : Nat} {c : Content} {t : Transmission}
    (hq : Quiet n n' i (k + 1)) (hh : Handed n' n'' i k c t) : Handed n n'' i k c t :=
  ⟨hq.transmitted ▸ hh.transmitted, hh.carried, hh.speaks, hh.secured.trans hq.secured⟩

namespace PaseSession

variable {P : Packages V} {h : PaseHost V} {k : Nat} {c : Content}

theorem run_sendMessage (hs : h.node.Speaks h.exchange (k + 1)) (hc : c.InRange) :
    ∃ node t, Handed h.node node h.exchange k c t ∧ (sendMessage P c.message).run h =
      .ok () { h with node, sent := h.sent ++ [c.message] } := by
  obtain ⟨sent, node, t, hrun, htx, hcarried, hspeaks, hsecured⟩ := hs.sendMessage P.aead hc
  refine ⟨node, t, ⟨htx, hcarried, hspeaks, hsecured⟩, ?_⟩
  unfold sendMessage
  rw [run_bind_ok (run_modify _ h), run_bind_ok (run_get _)]
  exact run_bind_ok (run_zoom_ok hrun)

/-- A state is set, and a message goes out. -/
theorem run_say (state : PaseState) (hs : h.node.Speaks h.exchange (k + 1)) (hc : c.InRange) :
    ∃ node t stateTimeout timers nextTimer, Handed h.node node h.exchange k c t ∧
      (do setState state; sendMessage P c.message : PaseM V Unit).run h = .ok () { h with
        pase := { h.pase with state, stateTimeout }
        node, timers, nextTimer, sent := h.sent ++ [c.message] } := by
  obtain ⟨stateTimeout, timers, nextTimer, hset⟩ := run_setState state h
  obtain ⟨node, t, hhanded, hsend⟩ := run_sendMessage (P := P)
    (h := { h with pase := { h.pase with state, stateTimeout }, timers, nextTimer }) hs hc
  exact ⟨node, t, stateTimeout, timers, nextTimer, hhanded, (run_bind_ok hset).trans hsend⟩

/-- What is drawn changes what is outside. -/
theorem run_draw {α : Type} {m : EStateM JsError Outside α} {a : α} {o : Outside}
    (hm : m.run h.node.sessions.outside = .ok a o) :
    (draw m : PaseM V α).run h = .ok a { h with
      node := { h.node with sessions := { h.node.sessions with outside := o } } } :=
  run_zoom_ok (run_zoom_ok (run_zoom_ok hm))

theorem run_randomU16 (o : Outside) :
    ∃ id entropy, id < 65536 ∧ randomU16.run o = .ok id { o with entropy } := by
  have hrun : randomU16.run o = .ok (ofBE ((List.range 2).map o.entropy))
      { o with entropy := fun i => o.entropy (2 + i) } := rfl
  exact ⟨_, _, randomU16_lt hrun, hrun⟩

theorem run_random32 (o : Outside) : ∃ (random : ByteString) (entropy : Nat → UInt8),
    (randomBytes 32).run o = .ok random.bytes { o with entropy } :=
  ⟨⟨(List.range 32).map o.entropy, by rw [List.length_map, List.length_range]; decide⟩, _,
    Session.randomBytes_run 32 o⟩

/-- **A message that comes is acknowledged**, and goes to the handler of its opcode. -/
theorem step_carried {msg : Message} (hc : c.CarriedBy msg) (hs : h.node.Speaks h.exchange k) :
    ∃ node, Quiet h.node node h.exchange k ∧ h.step P (.message msg) = final
      ((if c.opcode = opParamRequest then onPbkdfParamRequest P msg
        else if c.opcode = opParamResponse then onPbkdfParamResponse P msg
        else if c.opcode = opPake1 then onPake1 P msg
        else if c.opcode = opPake2 then onPake2 P msg
        else if c.opcode = opPake3 then onPake3 P msg
        else return : PaseM V Unit).run { h with node }) := by
  obtain ⟨counter, hcounter, hlt⟩ := hc.messageCounter
  obtain ⟨id, hid⟩ := hc.exchangeId
  have hack : (acknowledge msg : PaseM V Unit).run h = .ok () { h with
      node := h.node.modifyExchange h.exchange fun ex => { ex with ackCounter := counter } } := by
    unfold acknowledge
    rw [run_bind_ok (run_lift_of hcounter h)]
    rfl
  refine ⟨h.node.modifyExchange h.exchange fun ex => { ex with ackCounter := counter },
    ⟨rfl, hs.modifyExchange (Exchange.stays_ackCounter hlt), rfl⟩, ?_⟩
  show final ((acknowledge msg >>= fun _ => onExchangeMessage P msg).run h) = _
  rw [run_bind_ok hack]
  unfold onExchangeMessage
  rw [run_bind_ok (run_lift_of hc.protocolOpcode _), run_bind_ok (run_lift_of hid _)]

/-! ## 2. The initiator asks -/

/-- **An initiator sends its request**, and keeps the bytes it sent. -/
theorem step_start (hidle : h.pase.state = .idle) (hs : h.node.Speaks h.exchange (k + 1)) :
    ∃ (id : Nat) (random : ByteString) (payload : Bytes) (t : Transmission) (node : Node)
      (stateTimeout : Option Nat) (timers : List Nat) (nextTimer : Nat) (sent : List Message),
      id < 65536 ∧
      encodeBuffer (templateMsgPasePbkdfParamRequest (.buffer random.bytes) (.nat id) (.nat 0)
        4000 300) = .ok payload ∧
      Handed h.node node h.exchange k (contentOf opParamRequest payload) t ∧
      h.step P .start = { h with
        pase := { h.pase with
          state := .awaitPbkdfParamRsp, stateTimeout, localRole := .initiator
          initiatorSessionId := .nat id, initiatorRandom := .buffer random.bytes
          passcodeId := .nat 0, pbkdfRequest := some payload }
        node, timers, nextTimer, sent } := by
  obtain ⟨id, entropy, hid, hdrawn⟩ := run_randomU16 h.node.sessions.outside
  obtain ⟨random, entropy', hrandom⟩ := run_random32 { h.node.sessions.outside with entropy }
  obtain ⟨payload, -, hpayload, -⟩ := request_readsBack random hid
  have hmsg := StatusReport.protocolMessage_content (show opParamRequest < 256 by decide) payload
  let asked : PaseHost V := { h with
    pase := { h.pase with
      localRole := .initiator, initiatorSessionId := .nat id
      initiatorRandom := .buffer random.bytes, passcodeId := .nat 0, pbkdfRequest := some payload }
    node := { h.node with sessions := { h.node.sessions with
      outside := { h.node.sessions.outside with entropy := entropy' } } } }
  have hasked : asked.node.Speaks asked.exchange (k + 1) := hs
  obtain ⟨node, t, stateTimeout, timers, nextTimer, hhanded, hsay⟩ := run_say (P := P)
    .awaitPbkdfParamRsp hasked (content_inRange (show opParamRequest < 256 by decide) payload)
  refine ⟨id, random, payload, t, node, stateTimeout, timers, nextTimer,
    h.sent ++ [(contentOf opParamRequest payload).message], hid, hpayload,
    ⟨hhanded.transmitted, hhanded.carried, hhanded.speaks, hhanded.secured⟩, ?_⟩
  have hdraw := run_draw (V := V) (m := randomU16)
    (h := { h with pase := { h.pase with localRole := .initiator } }) hdrawn
  have hdraw' := run_draw (V := V) (m := randomBytes 32) (h := { h with
    pase := { h.pase with localRole := .initiator, initiatorSessionId := .nat id }
    node := { h.node with sessions := { h.node.sessions with
      outside := { h.node.sessions.outside with entropy } } } }) hrandom
  show final ((startPase P).run h) = _
  unfold startPase
  rw [run_bind_ok (run_get h), if_neg (not_not.mpr hidle)]
  unfold sendPbkdfParamRequest
  rw [assign, run_bind_ok (run_modify _ h), run_bind_ok hdraw, assign,
    run_bind_ok (run_modify _ _), run_bind_ok hdraw', assign, run_bind_ok (run_modify _ _),
    run_bind_ok (run_lift_of hpayload _), assign, run_bind_ok (run_modify _ _),
    run_bind_ok (run_lift_of hmsg _)]
  exact congrArg final hsay

/-! ## 3. The responder answers -/

section Request

variable {msg : Message} {id iterations : Nat} {random salt : ByteString} {request : Bytes}

/-- A responder in IDLE reads the request, draws its own id, and writes its response. -/
theorem step_request_writes (hidle : h.pase.state = .idle) (hs : h.node.Speaks h.exchange k)
    (hid : id < 65536)
    (hrequest : encodeBuffer (templateMsgPasePbkdfParamRequest (.buffer random.bytes) (.nat id)
      (.nat 0) 4000 300) = .ok request)
    (hcarried : (contentOf opParamRequest request).CarriedBy msg)
    (hiterations : h.pase.paramIterations = .nat iterations)
    (hsalt : h.pase.paramSaltHex = hexText salt.bytes) :
    ∃ (id' : Nat) (random' : ByteString) (node : Node), id' < 65536 ∧ Quiet h.node node h.exchange k ∧
      h.step P (.message msg) = final ((do
        let payload ← lift (encodeBuffer (templateMsgPasePbkdfParamResponse (hexText random.bytes)
          (hexText random'.bytes) (.nat id') (.nat iterations) (hexText salt.bytes)))
        let msg ← lift (protocolMessage opParamResponse payload)
        assign fun p => { p with pbkdfResponse := some payload }
        setState .awaitPake1
        sendMessage P msg : PaseM V Unit).run { h with
          node
          pase := { h.pase with
            localRole := .responder, initiatorRandom := .buffer random.bytes
            initiatorSessionId := .nat id, passcodeId := .nat 0, pbkdfRequest := some request
            responderRandom := .buffer random'.bytes, responderSessionId := .nat id' } }) := by
  obtain ⟨payload, tlvJson, hpayload, hdecoded, hrandom, hsessionId, hpasscodeId⟩ :=
    request_readsBack random hid
  obtain rfl : payload = request := Except.ok.inj (hpayload.symm.trans hrequest)
  obtain ⟨node, hquiet, hstep⟩ := step_carried (P := P) hcarried hs
  have htext : (JsValue.buffer random.bytes).toStringHex =
      .ok (String.ofList (toHex random.bytes)) := rfl
  obtain ⟨random', entropy, hdrawn⟩ := run_random32 node.sessions.outside
  obtain ⟨id', entropy', hid', hdrawn'⟩ := run_randomU16 { node.sessions.outside with entropy }
  let read : PaseSession V := { h.pase with
    localRole := .responder, initiatorRandom := .buffer random.bytes, initiatorSessionId := .nat id
    passcodeId := .nat 0, pbkdfRequest := some payload }
  have hdraw := run_draw (V := V) (m := randomBytes 32) (h := { h with node, pase := read }) hdrawn
  have hdraw' := run_draw (V := V) (m := randomU16) (h := { h with
    pase := { read with responderRandom := .buffer random'.bytes }
    node := { node with sessions := { node.sessions with
      outside := { node.sessions.outside with entropy } } } }) hdrawn'
  refine ⟨id', random', { node with sessions := { node.sessions with
    outside := { node.sessions.outside with entropy := entropy' } } }, hid',
    ⟨hquiet.transmitted, hquiet.speaks, hquiet.secured⟩, ?_⟩
  rw [hstep]
  show final ((onPbkdfParamRequest P msg).run { h with node }) = _
  unfold onPbkdfParamRequest
  rw [run_bind_ok (run_get _), if_neg (not_not.mpr hidle), run_bind_ok (run_lift_of hcarried.appPayload _),
    run_bind_ok (run_lift_of hdecoded _), run_bind_ok (run_lift_of hrandom _),
    run_bind_ok (run_lift_of hsessionId _), run_bind_ok (run_lift_of hpasscodeId _), assign,
    run_bind_ok (run_modify _ _), run_bind_ok (run_lift_of htext _)]
  unfold sendPbkdfParamResponse
  rw [run_bind_ok hdraw, assign, run_bind_ok (run_modify _ _), run_bind_ok hdraw', assign,
    run_bind_ok (run_modify _ _), run_bind_ok (run_get _)]
  dsimp only
  rw [run_bind_ok (run_lift_of htext _), hiterations, hsalt]
  rfl

/-- **A responder in IDLE answers a request**, and keeps the bytes it got and the bytes it sent. -/
theorem step_request (hidle : h.pase.state = .idle) (hs : h.node.Speaks h.exchange (k + 1))
    (hid : id < 65536)
    (hrequest : encodeBuffer (templateMsgPasePbkdfParamRequest (.buffer random.bytes) (.nat id)
      (.nat 0) 4000 300) = .ok request)
    (hcarried : (contentOf opParamRequest request).CarriedBy msg)
    (hiterations : h.pase.paramIterations = .nat iterations)
    (hsalt : h.pase.paramSaltHex = hexText salt.bytes) (hlt : iterations < 2 ^ 64) :
    ∃ (id' : Nat) (random' : ByteString) (payload : Bytes) (t : Transmission) (node : Node)
      (stateTimeout : Option Nat) (timers : List Nat) (nextTimer : Nat) (sent : List Message),
      id' < 65536 ∧
      encodeBuffer (templateMsgPasePbkdfParamResponse (hexText random.bytes) (hexText random'.bytes)
        (.nat id') (.nat iterations) (hexText salt.bytes)) = .ok payload ∧
      Handed h.node node h.exchange k (contentOf opParamResponse payload) t ∧
      h.step P (.message msg) = { h with
        pase := { h.pase with
          state := .awaitPake1, stateTimeout, localRole := .responder
          initiatorRandom := .buffer random.bytes, initiatorSessionId := .nat id
          passcodeId := .nat 0, pbkdfRequest := some request
          responderRandom := .buffer random'.bytes, responderSessionId := .nat id'
          pbkdfResponse := some payload }
        node, timers, nextTimer, sent } := by
  obtain ⟨id', random', node, hid', hquiet, hstep⟩ := step_request_writes (P := P) hidle hs hid hrequest
    hcarried hiterations hsalt
  obtain ⟨payload, -, -, hpayload, -⟩ := response_readsBack random random' salt hid' hlt
  have hmsg := StatusReport.protocolMessage_content (show opParamResponse < 256 by decide) payload
  let written : PaseHost V := { h with
    node
    pase := { h.pase with
      localRole := .responder, initiatorRandom := .buffer random.bytes
      initiatorSessionId := .nat id, passcodeId := .nat 0, pbkdfRequest := some request
      responderRandom := .buffer random'.bytes, responderSessionId := .nat id'
      pbkdfResponse := some payload } }
  obtain ⟨node', t, stateTimeout, timers, nextTimer, hhanded, hsay⟩ := run_say (P := P) (h := written)
    .awaitPake1 hquiet.speaks (content_inRange (show opParamResponse < 256 by decide) payload)
  refine ⟨id', random', payload, t, node', stateTimeout, timers, nextTimer,
    h.sent ++ [(contentOf opParamResponse payload).message], hid', hpayload, hhanded.after hquiet, ?_⟩
  rw [hstep, run_bind_ok (run_lift_of hpayload _), run_bind_ok (run_lift_of hmsg _), assign,
    run_bind_ok (run_modify _ _)]
  exact congrArg final hsay

/-- A responder whose iteration count has no place in a response sends nothing. -/
theorem step_request_silent (hidle : h.pase.state = .idle) (hs : h.node.Speaks h.exchange k)
    (hid : id < 65536)
    (hrequest : encodeBuffer (templateMsgPasePbkdfParamRequest (.buffer random.bytes) (.nat id)
      (.nat 0) 4000 300) = .ok request)
    (hcarried : (contentOf opParamRequest request).CarriedBy msg)
    (hiterations : h.pase.paramIterations = .nat iterations)
    (hsalt : h.pase.paramSaltHex = hexText salt.bytes) (hbig : 2 ^ 64 ≤ iterations) :
    (h.step P (.message msg)).transmitted = h.transmitted := by
  obtain ⟨id', random', node, hid', hquiet, hstep⟩ := step_request_writes (P := P) hidle hs hid hrequest
    hcarried hiterations hsalt
  obtain ⟨e, he⟩ := response_throws random random' salt hid' hbig
  rw [hstep, he, run_bind_error (run_lift_error e _)]
  exact hquiet.transmitted

end Request

/-! ## 4. The verifier -/

/-- The verifier that `generateVerifier` awaits. -/
def deriveVerifier (P : Packages V) (paircode salt iterations : JsValue) : Except JsError V := do
  let passcode ← writeUInt32LE (bufferAlloc 4) paircode 0
  let w0sw1s ← pbkdf2Sync P passcode salt iterations keyLen
  P.computeVerifierFromSecret (subarray w0sw1s 0 (keyLen / 2 : Nat))
    (subarray w0sw1s (keyLen / 2 : Nat) keyLen)

/-- The script of `generateVerifier` from its parameters on. -/
def awaitVerifier (P : Packages V) (side : Side) (paircode salt iterations : JsValue) :
    PaseM V Unit := do
  let v ← lift (deriveVerifier P paircode salt iterations)
  modify fun h => { h with pending := h.pending ++ [.verifier side v] }

/-- From its parameters on, `generateVerifier` derives a verifier and awaits it. -/
theorem run_awaitVerifier (side : Side) (paircode salt iterations : JsValue) (h : PaseHost V) :
    (do
      let passcode ← lift (writeUInt32LE (bufferAlloc 4) paircode 0)
      let w0sw1s ← lift (pbkdf2Sync P passcode salt iterations keyLen)
      let v ← lift (P.computeVerifierFromSecret (subarray w0sw1s 0 (keyLen / 2 : Nat))
        (subarray w0sw1s (keyLen / 2 : Nat) keyLen))
      modify fun h => { h with pending := h.pending ++ [.verifier side v] } : PaseM V Unit).run h =
      (awaitVerifier P side paircode salt iterations).run h := by
  unfold awaitVerifier deriveVerifier
  simp only [← lift_bind]

theorem run_generateVerifier_given (side : Side) {iterations salt : JsValue}
    (hiterations : iterations ≠ .undefined) (hsalt : salt ≠ .undefined) (h : PaseHost V) :
    (generateVerifier P side iterations salt).run h =
      (awaitVerifier P side h.pase.paramPaircode salt iterations).run { h with
        pase := { h.pase with paramIterations := iterations, paramSalt := salt } } := by
  unfold generateVerifier
  rw [assign, run_bind_ok (run_modify _ h), run_bind_ok (run_get _)]
  -- neither is undefined, so both are taken
  simp only []
  exact run_awaitVerifier side h.pase.paramPaircode salt iterations _

theorem run_generateVerifier_own (side : Side) (h : PaseHost V) :
    (generateVerifier P side).run h =
      (awaitVerifier P side h.pase.paramPaircode h.pase.paramSalt h.pase.paramIterations).run h := by
  unfold generateVerifier
  rw [assign, run_bind_ok (run_modify _ h), run_bind_ok (run_get _)]
  exact run_awaitVerifier side h.pase.paramPaircode h.pase.paramSalt h.pase.paramIterations h

/-! ## 5. What a handler awaits -/

/-- The party that a side of the handshake starts. -/
def startParty (P : Packages V) (context : Bytes) (v : V) (coin : Nat) : Side → Except JsError Party
  | .client => P.startClient context v coin
  | .server => P.startServer context v coin

/-- **What an awaiting handler awaits comes, one after the other.** -/
theorem run_awaited {side : Side} {v : V} {context : Bytes} {coin : Nat} {party : Party}
    (hpending : h.pending = [.verifier side v]) (hcontext : h.pase.spake2 = some context)
    (hparty : startParty P context v coin side = .ok party) :
    run (PaseHost.step P) h (PaseHost.awaited coin) =
      final ((resume P coin (.started side party)).run { h with
        pase := { h.pase with spakeVerifier := some v }, pending := [] }) := by
  let h1 : PaseHost V := { h with
    pase := { h.pase with spakeVerifier := some v }, pending := [.generated side v] }
  have hverifier : h.step P (.resume 0 coin) = h1 := by
    have hp : h.pending[0]? = some (.verifier side v) := by rw [hpending]; rfl
    rw [PaseHost.step_resume_some P hp, hpending]
    rfl
  have hgenerated : h1.step P (.resume 0 coin) = { h1 with pending := [.started side party] } := by
    rw [PaseHost.step_resume_some P (show h1.pending[0]? = some (.generated side v) from rfl)]
    show final ((resumeGenerated P side v coin).run { h1 with pending := [] }) = _
    unfold resumeGenerated
    rw [run_bind_ok (run_get _)]
    simp only [show h1.pase.spake2 = some context from hcontext]
    cases side with
    | client =>
      have hstart : P.startClient context v coin = .ok party := hparty
      exact congrArg final (run_bind_ok (run_lift_of hstart _))
    | server =>
      have hstart : P.startServer context v coin = .ok party := hparty
      exact congrArg final (run_bind_ok (run_lift_of hstart _))
  unfold PaseHost.awaited
  rw [run_cons, run_cons, run_cons, run_nil, hverifier, hgenerated]
  rw [PaseHost.step_resume_some P (show ({ h1 with pending := [.started side party] } :
    PaseHost V).pending[0]? = some (.started side party) from rfl)]
  rfl

/-- No handler awaits. -/
theorem run_awaited_none (hpending : h.pending = []) (coin : Nat) :
    run (PaseHost.step P) h (PaseHost.awaited coin) = h := by
  have hnone : h.step P (.resume 0 coin) = h :=
    PaseHost.step_resume_none P (by rw [hpending]; rfl) coin
  unfold PaseHost.awaited
  rw [run_cons, run_cons, run_cons, run_nil, hnone, hnone, hnone]

theorem final_awaitVerifier {side : Side} {paircode salt iterations : JsValue} {v : V}
    (hv : deriveVerifier P paircode salt iterations = .ok v) (h : PaseHost V) :
    final ((awaitVerifier P side paircode salt iterations).run h) =
      { h with pending := h.pending ++ [.verifier side v] } := by
  unfold awaitVerifier
  rw [run_bind_ok (run_lift_of hv h)]
  rfl

/-- Without a verifier the handler ends. -/
theorem final_awaitVerifier_error {side : Side} {paircode salt iterations : JsValue} {e : JsError}
    (he : deriveVerifier P paircode salt iterations = .error e) (h : PaseHost V) :
    final ((awaitVerifier P side paircode salt iterations).run h) = h := by
  unfold awaitVerifier
  rw [he, run_bind_error (run_lift_error e h)]
  rfl

/-! ## 6. Pake1 -/

section Pake1

variable {msg : Message} {request response payload : Bytes} {id' iterations coin : Nat}
  {random random' salt pA : ByteString}

/-- The iteration count, as the initiator reads it. -/
abbrev countRead (iterations : Nat) : JsValue := (Leaf.unsigned (UInt64.ofNat iterations)).value

theorem countRead_ne (iterations : Nat) : countRead iterations ≠ .undefined := by
  intro h
  simp only [countRead, Leaf.value, integerValue] at h
  split at h <;> cases h

/-- The initiator once it has read a response. -/
def heard (P : Packages V) (h : PaseHost V) (node : Node) (request response : Bytes)
    (id' iterations : Nat) (salt : ByteString) : PaseHost V :=
  let context := P.sha256 (utf8Encode paseContextSalt.toList ++ request ++ response)
  { h with
    node
    pase := { h.pase with
      pbkdfResponse := some response, responderSessionId := .nat id'
      spakeContext := some context, spake2 := some context
      paramIterations := countRead iterations, paramSalt := .buffer salt.bytes } }

/-- **An initiator reads a response**, and takes the context and the parameters from it. -/
theorem step_response (hs : h.node.Speaks h.exchange k) (hid' : id' < 65536)
    (hlt : iterations < 2 ^ 64)
    (hresponse : encodeBuffer (templateMsgPasePbkdfParamResponse (hexText random.bytes)
      (hexText random'.bytes) (.nat id') (.nat iterations) (hexText salt.bytes)) = .ok response)
    (hcarried : (contentOf opParamResponse response).CarriedBy msg)
    (hrequest : h.pase.pbkdfRequest = some request) :
    ∃ node, Quiet h.node node h.exchange k ∧ h.step P (.message msg) =
      final ((awaitVerifier P .client h.pase.paramPaircode (.buffer salt.bytes)
        (countRead iterations)).run (heard P h node request response id' iterations salt)) := by
  obtain ⟨payload, tlvJson, pbkdfParameters, hpayload, hdecoded, hsessionId, hparameters, hcount,
    hsalt⟩ := response_readsBack random random' salt hid' hlt
  obtain rfl : payload = response := Except.ok.inj (hpayload.symm.trans hresponse)
  obtain ⟨node, hquiet, hstep⟩ := step_carried (P := P) hcarried hs
  refine ⟨node, hquiet, ?_⟩
  rw [hstep]
  show final ((onPbkdfParamResponse P msg).run { h with node }) = _
  have hspake := run_newSpake2 (P := P) (h := { h with
    node, pase := { h.pase with pbkdfResponse := some payload, responderSessionId := .nat id' } })
    hrequest rfl
  unfold onPbkdfParamResponse
  rw [run_bind_ok (run_lift_of hcarried.appPayload _), assign, run_bind_ok (run_modify _ _),
    run_bind_ok (run_lift_of hdecoded _), run_bind_ok (run_lift_of hsessionId _), assign,
    run_bind_ok (run_modify _ _), run_bind_ok (run_lift_of hparameters _),
    run_bind_ok (run_lift_of hcount _), run_bind_ok (run_lift_of hsalt _), run_bind_ok hspake,
    run_generateVerifier_given .client (countRead_ne iterations) (by simp)]
  rfl

/-- **The client's point goes out.** -/
theorem final_resumeClient (coin : Nat) {client : Party}
    (hpoint : P.encodePoint client.getMessage = .ok pA.bytes)
    (hs : h.node.Speaks h.exchange (k + 1)) :
    ∃ (payload : Bytes) (t : Transmission) (node : Node) (stateTimeout : Option Nat)
      (timers : List Nat) (nextTimer : Nat) (sent : List Message),
      encodeBuffer (templateMsgPasePake1 (hexText pA.bytes)) = .ok payload ∧
      Handed h.node node h.exchange k (contentOf opPake1 payload) t ∧
      final ((resume P coin (.started .client client)).run h) = { h with
        pase := { h.pase with
          state := .awaitPake2, stateTimeout, spakeClient := some client, pA := hexText pA.bytes }
        node, timers, nextTimer, sent } := by
  obtain ⟨payload, hpayload, -⟩ := pake1_readsBack pA
  have hmsg := StatusReport.protocolMessage_content (show opPake1 < 256 by decide) payload
  let pointed : PaseHost V := { h with
    pase := { h.pase with spakeClient := some client, pA := hexText pA.bytes } }
  obtain ⟨stateTimeout, timers, nextTimer, hset⟩ := run_setState .awaitPake2 pointed
  have hack : (h.node.modifyExchange h.exchange fun ex => { ex with isAck := true }).Speaks
      h.exchange (k + 1) := hs.modifyExchange Exchange.stays_isAck
  obtain ⟨node, t, hhanded, hsend⟩ := run_sendMessage (P := P) (h := { pointed with
    pase := { pointed.pase with state := .awaitPake2, stateTimeout }
    timers, nextTimer
    node := h.node.modifyExchange h.exchange fun ex => { ex with isAck := true } }) hack
    (content_inRange (show opPake1 < 256 by decide) payload)
  refine ⟨payload, t, node, stateTimeout, timers, nextTimer,
    h.sent ++ [(contentOf opPake1 payload).message], hpayload,
    ⟨hhanded.transmitted, hhanded.carried, hhanded.speaks, hhanded.secured⟩, ?_⟩
  show final ((resumeClient P client).run h) = _
  unfold resumeClient
  rw [assign, run_bind_ok (run_modify _ h), run_bind_ok (run_lift_of hpoint _), assign,
    run_bind_ok (run_modify _ _)]
  unfold sendPake1
  rw [run_bind_ok (run_get _), run_bind_ok (run_lift_of hpayload _), run_bind_ok (run_lift_of hmsg _),
    run_bind_ok hset, run_bind_ok (run_modify _ _)]
  exact congrArg final hsend

/-- **A responder in AWAIT_PAKE1 reads the point**, and makes the context. -/
theorem step_pake1 (hstate : h.pase.state = .awaitPake1) (hs : h.node.Speaks h.exchange k)
    (hpayload : encodeBuffer (templateMsgPasePake1 (hexText pA.bytes)) = .ok payload)
    (hcarried : (contentOf opPake1 payload).CarriedBy msg)
    (hrequest : h.pase.pbkdfRequest = some request)
    (hresponse : h.pase.pbkdfResponse = some response) :
    let context := P.sha256 (utf8Encode paseContextSalt.toList ++ request ++ response)
    ∃ node, Quiet h.node node h.exchange k ∧ h.step P (.message msg) =
      final ((awaitVerifier P .server h.pase.paramPaircode h.pase.paramSalt
        h.pase.paramIterations).run { h with
          node
          pase := { h.pase with
            pA := .buffer pA.bytes, spakeContext := some context, spake2 := some context } }) := by
  intro context
  obtain ⟨payload', hpayload', hdecoded⟩ := pake1_readsBack pA
  obtain rfl : payload' = payload := Except.ok.inj (hpayload'.symm.trans hpayload)
  obtain ⟨node, hquiet, hstep⟩ := step_carried (P := P) hcarried hs
  refine ⟨node, hquiet, ?_⟩
  rw [hstep]
  show final ((onPake1 P msg).run { h with node }) = _
  have hspake := run_newSpake2 (P := P) (h := { h with
    node, pase := { h.pase with pA := .buffer pA.bytes } }) hrequest hresponse
  have htext : (JsValue.buffer pA.bytes).toStringHex = .ok (String.ofList (toHex pA.bytes)) := rfl
  unfold onPake1
  rw [run_bind_ok (run_get _), if_neg (not_not.mpr hstate), run_bind_ok (run_lift_of hcarried.appPayload _),
    run_bind_ok (run_lift_of hdecoded _), assign, run_bind_ok (run_modify _ _), run_bind_ok hspake,
    run_bind_ok (run_lift_of htext _), run_generateVerifier_own]

end Pake1

/-! ## 7. Pake2 -/

section Pake2

variable {msg : Message} {payload : Bytes} {coin : Nat} {pA pB cA cB : ByteString}
  {client server : Party} {l : SharedSecret}

/-- **The server's point and code go out.** -/
theorem final_resumeServer_sends (coin : Nat) (hpA : h.pase.pA = .buffer pA.bytes)
    (hpoint : P.encodePoint server.getMessage = .ok pB.bytes)
    (hfinish : server.finish (.buffer pA.bytes) = .ok l)
    (hcode : P.mac (.buffer pA.bytes) l.KcB = .ok cB.bytes)
    (hs : h.node.Speaks h.exchange (k + 1)) :
    ∃ (payload : Bytes) (t : Transmission) (node : Node) (stateTimeout : Option Nat)
      (timers : List Nat) (nextTimer : Nat) (sent : List Message),
      encodeBuffer (templateMsgPasePake2 (hexText pB.bytes) (hexText cB.bytes)) = .ok payload ∧
      Handed h.node node h.exchange k (contentOf opPake2 payload) t ∧
      final ((resume P coin (.started .server server)).run h) = { h with
        pase := { h.pase with
          state := .awaitPake3, stateTimeout, spakeServer := some server
          pB := hexText pB.bytes, secret := some l, cB := hexText cB.bytes }
        node, timers, nextTimer, sent } := by
  obtain ⟨payload, hpayload, -⟩ := pake2_readsBack pB cB
  have hmsg := StatusReport.protocolMessage_content (show opPake2 < 256 by decide) payload
  obtain ⟨node, t, stateTimeout, timers, nextTimer, hhanded, hsay⟩ := run_say (P := P) (h := { h with
    pase := { h.pase with
      spakeServer := some server, pB := hexText pB.bytes, secret := some l
      cB := hexText cB.bytes } }) .awaitPake3 hs
    (content_inRange (show opPake2 < 256 by decide) payload)
  refine ⟨payload, t, node, stateTimeout, timers, nextTimer,
    h.sent ++ [(contentOf opPake2 payload).message], hpayload,
    ⟨hhanded.transmitted, hhanded.carried, hhanded.speaks, hhanded.secured⟩, ?_⟩
  rw [← hpA] at hfinish hcode
  show final ((resumeServer P server).run h) = _
  unfold resumeServer
  rw [assign, run_bind_ok (run_modify _ h), run_bind_ok (run_lift_of hpoint _), assign,
    run_bind_ok (run_modify _ _), run_bind_ok (run_get _), run_bind_ok (run_lift_of hfinish _), assign,
    run_bind_ok (run_modify _ _), run_bind_ok (run_lift_of hcode _), assign,
    run_bind_ok (run_modify _ _)]
  unfold sendPake2
  rw [run_bind_ok (run_get _), run_bind_ok (run_lift_of hpayload _), run_bind_ok (run_lift_of hmsg _)]
  exact congrArg final hsay

end Pake2

/-! ## 8. The session -/

/-- The keys of a session of the handshake. -/
abbrev sessionKeys (P : Packages V) (Ke : Bytes) : SessionCryptoContext :=
  .initFromSecret P.hkdf Ke [] (utf8Encode "SessionKeys".toList)

/-- One secure session more, with these ids and keys; nothing went out. -/
structure MakesSession (P : Packages V) (n n' : Node) (s : Session) (localId peerId : JsValue)
    (Ke : Bytes) : Prop where
  secured : n'.sessions.sessionsSecured = n.sessions.sessionsSecured ++ [s]
  localSessionId : s.localSessionId = localId
  peerSessionId : s.peerSessionId = peerId
  cryptoContext : s.cryptoContext = some (sessionKeys P Ke)
  transmitted : n'.sessions.outside.transmitted = n.sessions.outside.transmitted

/-- The ids of the own and of the other side. -/
def localId (p : PaseSession V) : JsValue :=
  match p.localRole with
  | .initiator => p.initiatorSessionId
  | .responder => p.responderSessionId

def peerId (p : PaseSession V) : JsValue :=
  match p.localRole with
  | .initiator => p.responderSessionId
  | .responder => p.initiatorSessionId

/-- A new session stands last in its table, with the keys of its secret. -/
theorem run_newSecureSession (n : Node) (l p : JsValue) (Ke : Bytes) :
    ∃ n' s, MakesSession P n n' s l p Ke ∧
      (Node.onSessions (SessionManager.createSecureSession P.hkdf l p Ke)).run n = .ok () n' := by
  refine ⟨_, Node.keyedSession P.hkdf l p Ke n.sessions.outside.entropy, ?_,
    Node.run_createSecureSession P.hkdf l p Ke n⟩
  exact ⟨rfl, rfl, rfl, rfl, rfl⟩

/-- **A session is made of the secret**, with the ids by role. -/
theorem run_createSecureSession {l : SharedSecret} (hsecret : h.pase.secret = some l)
    (handling : Nat) :
    ∃ node s c, MakesSession P h.node node s (localId h.pase) (peerId h.pase) l.Ke ∧
      (createSecureSession P handling).run h =
        .ok () { h with node, created := h.created ++ [c] } := by
  obtain ⟨node, s, hmakes, hrun⟩ :=
    run_newSecureSession (P := P) h.node (localId h.pase) (peerId h.pase) l.Ke
  refine ⟨node, s, ⟨handling, h.node.sessions.sessionsSecured.length, h.pase⟩, hmakes, ?_⟩
  unfold createSecureSession
  rw [run_bind_ok (run_get h), run_bind_ok (run_modify _ h), hsecret]
  unfold localId peerId at hrun
  cases hrole : h.pase.localRole with
  | initiator =>
    rw [hrole] at hrun
    exact run_zoom_ok hrun
  | responder =>
    rw [hrole] at hrun
    exact run_zoom_ok hrun

/-! ## 9. The last two messages -/

section Last

variable {msg : Message} {payload : Bytes} {pA pB cA cB : ByteString} {client : Party}
  {l : SharedSecret}

/-- **An initiator in AWAIT_PAKE2 confirms**, and makes its session. -/
theorem step_pake2 (hstate : h.pase.state = .awaitPake2) (hs : h.node.Speaks h.exchange (k + 1))
    (hpayload : encodeBuffer (templateMsgPasePake2 (hexText pB.bytes) (hexText cB.bytes)) =
      .ok payload)
    (hcarried : (contentOf opPake2 payload).CarriedBy msg)
    (hclient : h.pase.spakeClient = some client) (hpA : h.pase.pA = hexText pA.bytes)
    (hfinish : client.finish (.buffer pB.bytes) = .ok l)
    (hcode : P.mac (.buffer pB.bytes) l.KcA = .ok cA.bytes) :
    ∃ (payload : Bytes) (t : Transmission) (said node : Node) (s : Session)
      (stateTimeout : Option Nat) (timers : List Nat) (nextTimer : Nat) (sent : List Message)
      (c : Creation V),
      encodeBuffer (templateMsgPasePake3 (hexText cA.bytes)) = .ok payload ∧
      Handed h.node said h.exchange k (contentOf opPake3 payload) t ∧
      MakesSession P said node s (localId h.pase) (peerId h.pase) l.Ke ∧
      h.step P (.message msg) = { h with
        pase := { h.pase with
          state := .idle, stateTimeout, pB := .buffer pB.bytes, cB := .buffer cB.bytes
          secret := some l, cA := hexText cA.bytes }
        node, timers, nextTimer, sent, created := h.created ++ [c] } := by
  obtain ⟨payload', hpayload', hdecodedB, hdecodedC⟩ := pake2_readsBack pB cB
  obtain rfl : payload' = payload := Except.ok.inj (hpayload'.symm.trans hpayload)
  obtain ⟨payload, hpayload, -⟩ := pake3_readsBack cA
  have hmsg := StatusReport.protocolMessage_content (show opPake3 < 256 by decide) payload
  obtain ⟨node, hquiet, hstep⟩ := step_carried (P := P) hcarried hs
  let finished : PaseHost V := { h with
    node
    pase := { h.pase with
      pB := .buffer pB.bytes, cB := .buffer cB.bytes, secret := some l, cA := hexText cA.bytes } }
  obtain ⟨stateTimeout, timers, nextTimer, hset⟩ := run_setState .idle finished
  obtain ⟨said, t, hhanded, hsend⟩ := run_sendMessage (P := P) (h := { finished with
    pase := { finished.pase with state := .idle, stateTimeout }, timers, nextTimer }) hquiet.speaks
    (content_inRange (show opPake3 < 256 by decide) payload)
  let sent := h.sent ++ [(contentOf opPake3 payload).message]
  obtain ⟨node', s, c, hmakes, hcreate⟩ := run_createSecureSession (P := P) (l := l) (h := { finished with
    pase := { finished.pase with state := .idle, stateTimeout }
    node := said, timers, nextTimer, sent }) rfl opPake2
  refine ⟨payload, t, said, node', s, stateTimeout, timers, nextTimer, sent, c, hpayload,
    hhanded.after hquiet, hmakes, ?_⟩
  rw [hstep]
  show final ((onPake2 P msg).run { h with node }) = _
  have htextB : (JsValue.buffer pB.bytes).toStringHex = .ok (String.ofList (toHex pB.bytes)) := rfl
  have htextC : (JsValue.buffer cB.bytes).toStringHex = .ok (String.ofList (toHex cB.bytes)) := rfl
  have htextA : h.pase.pA.toStringHex = .ok (String.ofList (toHex pA.bytes)) := by rw [hpA]; rfl
  unfold onPake2
  rw [run_bind_ok (run_get _), if_neg (not_not.mpr hstate), run_bind_ok (run_lift_of hcarried.appPayload _),
    run_bind_ok (run_lift_of hdecodedB _), assign, run_bind_ok (run_modify _ _),
    run_bind_ok (run_lift_of hdecodedC _), assign, run_bind_ok (run_modify _ _),
    run_bind_ok (run_get _)]
  dsimp only
  split
  · rename_i hnone
    rw [hclient] at hnone
    cases hnone
  rename_i client' hclient'
  obtain rfl := Option.some.inj (hclient'.symm.trans hclient)
  rw [run_bind_ok (run_lift_of hfinish _), assign, run_bind_ok (run_modify _ _),
    run_bind_ok (run_lift_of hcode _), assign, run_bind_ok (run_modify _ _),
    run_bind_ok (run_lift_of htextB _), run_bind_ok (run_lift_of htextC _), run_bind_ok (run_get _),
    run_bind_ok (run_lift_of htextA _)]
  unfold sendPake3
  rw [run_bind_ok (run_get _), run_bind_ok (run_lift_of hpayload _), run_bind_ok (run_lift_of hmsg _),
    run_bind_ok hset, run_bind_ok hsend]
  exact congrArg final hcreate

/-- **A responder in AWAIT_PAKE3 accepts the code**, reports, and makes its session. -/
theorem step_pake3 (hstate : h.pase.state = .awaitPake3) (hs : h.node.Speaks h.exchange (k + 1))
    (hpayload : encodeBuffer (templateMsgPasePake3 (hexText cA.bytes)) = .ok payload)
    (hcarried : (contentOf opPake3 payload).CarriedBy msg) (hsecret : h.pase.secret = some l)
    (hverify : l.verifyHash (.buffer cA.bytes) = .ok ()) :
    ∃ (node : Node) (s : Session) (stateTimeout : Option Nat) (timers : List Nat) (nextTimer : Nat)
      (sent : List Message) (c : Creation V),
      node.sessions.sessionsSecured = h.node.sessions.sessionsSecured ++ [s] ∧
      s.localSessionId = localId h.pase ∧ s.peerSessionId = peerId h.pase ∧
      s.cryptoContext = some (sessionKeys P l.Ke) ∧
      h.step P (.message msg) = { h with
        pase := { h.pase with state := .idle, stateTimeout, cA := .buffer cA.bytes }
        node, timers, nextTimer, sent, created := h.created ++ [c] } := by
  obtain ⟨payload', hpayload', hdecoded⟩ := pake3_readsBack cA
  obtain rfl : payload' = payload := Except.ok.inj (hpayload'.symm.trans hpayload)
  have hstatus : statusPayload 0 secureChannel 0 = .ok (bufferAlloc 8) := by decide +kernel
  have hreport := StatusReport.protocolMessage_content (show opStatusReport < 256 by decide)
    (bufferAlloc 8)
  obtain ⟨node, hquiet, hstep⟩ := step_carried (P := P) hcarried hs
  let accepted : PaseHost V := { h with node, pase := { h.pase with cA := .buffer cA.bytes } }
  obtain ⟨said, t, hhanded, hsend⟩ := run_sendMessage (P := P) (h := accepted) hquiet.speaks
    (content_inRange (show opStatusReport < 256 by decide) (bufferAlloc 8))
  let sent := h.sent ++ [(contentOf opStatusReport (bufferAlloc 8)).message]
  obtain ⟨node', s, c, hmakes, hcreate⟩ := run_createSecureSession (P := P) (l := l)
    (h := { accepted with node := said, sent }) hsecret opPake3
  obtain ⟨stateTimeout, timers, nextTimer, hset⟩ := run_setState .idle
    { accepted with node := node', sent, created := h.created ++ [c] }
  refine ⟨node', s, stateTimeout, timers, nextTimer, sent, c, ?_, hmakes.localSessionId,
    hmakes.peerSessionId, hmakes.cryptoContext, ?_⟩
  · rw [hmakes.secured, hhanded.secured, hquiet.secured]
  rw [hstep]
  show final ((onPake3 P msg).run { h with node }) = _
  have htext : (JsValue.buffer cA.bytes).toStringHex = .ok (String.ofList (toHex cA.bytes)) := rfl
  unfold onPake3
  rw [run_bind_ok (run_get _), if_neg (not_not.mpr hstate), run_bind_ok (run_lift_of hcarried.appPayload _),
    run_bind_ok (run_lift_of hdecoded _), assign, run_bind_ok (run_modify _ _),
    run_bind_ok (run_lift_of htext _), run_bind_ok (run_get _)]
  dsimp only
  split
  · rename_i hnone
    rw [hsecret] at hnone
    cases hnone
  rename_i l' hl
  obtain rfl := Option.some.inj (hl.symm.trans hsecret)
  rw [run_bind_ok (run_lift_of hverify _), run_bind_ok (run_lift_of hstatus _),
    run_bind_ok (run_lift_of hreport _), run_bind_ok hsend, run_bind_ok hcreate]
  exact congrArg final hset

end Last

/-! ## 10. What a host does with a message and what it awaits -/

section Rounds

variable {msg : Message} {request response payload : Bytes} {id' iterations coin : Nat}
  {random random' salt pA pB cB : ByteString} {v : V} {client server : Party} {l : SharedSecret}

/-- **An initiator answers a response with its point.** -/
theorem run_response (hpending : h.pending = []) (hs : h.node.Speaks h.exchange (k + 1))
    (hid' : id' < 65536) (hlt : iterations < 2 ^ 64)
    (hresponse : encodeBuffer (templateMsgPasePbkdfParamResponse (hexText random.bytes)
      (hexText random'.bytes) (.nat id') (.nat iterations) (hexText salt.bytes)) = .ok response)
    (hcarried : (contentOf opParamResponse response).CarriedBy msg)
    (hrequest : h.pase.pbkdfRequest = some request)
    (hv : deriveVerifier P h.pase.paramPaircode (.buffer salt.bytes) (countRead iterations) = .ok v)
    (hclient : P.startClient
      (P.sha256 (utf8Encode paseContextSalt.toList ++ request ++ response)) v coin = .ok client)
    (hpoint : P.encodePoint client.getMessage = .ok pA.bytes) :
    ∃ (payload : Bytes) (t : Transmission) (heardIn node : Node) (stateTimeout : Option Nat)
      (timers : List Nat) (nextTimer : Nat) (sent : List Message),
      encodeBuffer (templateMsgPasePake1 (hexText pA.bytes)) = .ok payload ∧
      Handed h.node node h.exchange k (contentOf opPake1 payload) t ∧
      run (PaseHost.step P) h (.message msg :: PaseHost.awaited coin) =
        { heard P h heardIn request response id' iterations salt with
          pase := { (heard P h heardIn request response id' iterations salt).pase with
            state := .awaitPake2, stateTimeout, spakeVerifier := some v, spakeClient := some client
            pA := hexText pA.bytes }
          node, timers, nextTimer, sent, pending := [] } := by
  obtain ⟨heardIn, hquiet, hstep⟩ := step_response (P := P) hs hid' hlt hresponse hcarried hrequest
  have hawaits := hstep.trans (final_awaitVerifier hv _)
  let awaiting : PaseHost V := { heard P h heardIn request response id' iterations salt with
    pending := [.verifier .client v] }
  have hawaiting : h.step P (.message msg) = awaiting := by
    rw [hawaits]
    show { heard P h heardIn request response id' iterations salt with
      pending := h.pending ++ [.verifier .client v] } = awaiting
    rw [hpending]
    rfl
  obtain ⟨payload, t, node, stateTimeout, timers, nextTimer, sent, hpayload, hhanded, hresume⟩ :=
    final_resumeClient (P := P) (h := { awaiting with
      pase := { awaiting.pase with spakeVerifier := some v }, pending := [] }) coin hpoint hquiet.speaks
  refine ⟨payload, t, heardIn, node, stateTimeout, timers, nextTimer, sent, hpayload,
    hhanded.after hquiet, ?_⟩
  rw [run_cons, hawaiting, run_awaited (h := awaiting) rfl rfl hclient]
  exact hresume

/-- Without a verifier nothing goes out. -/
theorem run_response_silent (hpending : h.pending = []) (hs : h.node.Speaks h.exchange k)
    (hid' : id' < 65536) (hlt : iterations < 2 ^ 64)
    (hresponse : encodeBuffer (templateMsgPasePbkdfParamResponse (hexText random.bytes)
      (hexText random'.bytes) (.nat id') (.nat iterations) (hexText salt.bytes)) = .ok response)
    (hcarried : (contentOf opParamResponse response).CarriedBy msg)
    (hrequest : h.pase.pbkdfRequest = some request) {e : JsError}
    (he : deriveVerifier P h.pase.paramPaircode (.buffer salt.bytes) (countRead iterations) =
      .error e) :
    (run (PaseHost.step P) h (.message msg :: PaseHost.awaited coin)).transmitted =
      h.transmitted := by
  obtain ⟨heardIn, hquiet, hstep⟩ := step_response (P := P) hs hid' hlt hresponse hcarried hrequest
  rw [run_cons, hstep.trans (final_awaitVerifier_error he _),
    run_awaited_none (show (heard P h heardIn request response id' iterations salt).pending = []
      from hpending)]
  exact hquiet.transmitted

/-- **A responder answers a point with its own, and its code.** -/
theorem run_pake1 (hpending : h.pending = []) (hstate : h.pase.state = .awaitPake1)
    (hs : h.node.Speaks h.exchange (k + 1))
    (hpayload : encodeBuffer (templateMsgPasePake1 (hexText pA.bytes)) = .ok payload)
    (hcarried : (contentOf opPake1 payload).CarriedBy msg)
    (hrequest : h.pase.pbkdfRequest = some request)
    (hresponse : h.pase.pbkdfResponse = some response)
    (hv : deriveVerifier P h.pase.paramPaircode h.pase.paramSalt h.pase.paramIterations = .ok v)
    (hserver : P.startServer
      (P.sha256 (utf8Encode paseContextSalt.toList ++ request ++ response)) v coin = .ok server)
    (hpoint : P.encodePoint server.getMessage = .ok pB.bytes)
    (hfinish : server.finish (.buffer pA.bytes) = .ok l)
    (hcode : P.mac (.buffer pA.bytes) l.KcB = .ok cB.bytes) :
    let context := P.sha256 (utf8Encode paseContextSalt.toList ++ request ++ response)
    ∃ (payload : Bytes) (t : Transmission) (node : Node) (stateTimeout : Option Nat)
      (timers : List Nat) (nextTimer : Nat) (sent : List Message),
      encodeBuffer (templateMsgPasePake2 (hexText pB.bytes) (hexText cB.bytes)) = .ok payload ∧
      Handed h.node node h.exchange k (contentOf opPake2 payload) t ∧
      run (PaseHost.step P) h (.message msg :: PaseHost.awaited coin) = { h with
        pase := { h.pase with
          state := .awaitPake3, stateTimeout, pA := .buffer pA.bytes, spakeContext := some context
          spake2 := some context, spakeVerifier := some v, spakeServer := some server
          pB := hexText pB.bytes, secret := some l, cB := hexText cB.bytes }
        node, timers, nextTimer, sent, pending := [] } := by
  intro context
  obtain ⟨node, hquiet, hstep⟩ := step_pake1 (P := P) hstate hs hpayload hcarried hrequest hresponse
  let awaiting : PaseHost V := { h with
    node
    pase := { h.pase with
      pA := .buffer pA.bytes, spakeContext := some context, spake2 := some context }
    pending := [.verifier .server v] }
  have hawaiting : h.step P (.message msg) = awaiting := by
    rw [hstep, final_awaitVerifier hv, hpending]
    rfl
  obtain ⟨payload, t, node, stateTimeout, timers, nextTimer, sent, hpayload, hhanded, hresume⟩ :=
    final_resumeServer_sends (P := P) (h := { awaiting with
      pase := { awaiting.pase with spakeVerifier := some v }, pending := [] }) coin rfl hpoint hfinish
      hcode hquiet.speaks
  refine ⟨payload, t, node, stateTimeout, timers, nextTimer, sent, hpayload,
    hhanded.after hquiet, ?_⟩
  rw [run_cons, hawaiting, run_awaited (h := awaiting) rfl rfl hserver]
  exact hresume

end Rounds

end PaseSession

end Matternode.Protocols
