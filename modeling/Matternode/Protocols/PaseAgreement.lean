/-
  File:      Matternode/Protocols/PaseAgreement.lean
  Subject:   An honest run of a PASE handshake: both sides make the same session.

  * `Packages.Agrees` -- what the handshake relies on of spake2;
  * `Handshake`, `Delivered` -- the five messages, each made of the frame that the other side handed
    over;
  * `Agreed` -- what both sides then have;
  * `agreement` -- **whenever the five messages are delivered, both sides agree**, and they are
    delivered whatever the passcode, the iteration count and the salt are, as far as these can be
    hashed.
-/
import Matternode.Protocols.PaseRounds

namespace Matternode.Protocols

open Base Js Messaging Tlv

variable {V : Type}

/-! ## 1. The packages -/

/-- A client and a server of spake2 derive the same keys, each from the other's point, and the server
    accepts the code of the client. -/
structure PartiesAgree (P : Packages V) (client server : Party) (pA pB cA cB : ByteString)
    (k l : SharedSecret) : Prop where
  pointA : P.encodePoint client.getMessage = .ok pA.bytes
  pointB : P.encodePoint server.getMessage = .ok pB.bytes
  clientFinish : client.finish (.buffer pB.bytes) = .ok k
  serverFinish : server.finish (.buffer pA.bytes) = .ok l
  Ke : k.Ke = l.Ke
  KcA : k.KcA = l.KcA
  KcB : k.KcB = l.KcB
  codeA : P.mac (.buffer pB.bytes) k.KcA = .ok cA.bytes
  codeB : P.mac (.buffer pA.bytes) l.KcB = .ok cB.bytes
  verifyHash : ∀ code, P.mac (.buffer pB.bytes) l.KcA = .ok code → l.verifyHash (.buffer code) = .ok ()

/-- With one verifier and one context a client and a server agree, whatever they draw. -/
structure Packages.Agrees (P : Packages V) : Prop where
  verifier : ∀ w0s w1s, ∃ v, P.computeVerifierFromSecret w0s w1s = .ok v
  parties : ∀ context v a b, ∃ client server pA pB cA cB k l,
    P.startClient context v a = .ok client ∧ P.startServer context v b = .ok server ∧
      PartiesAgree P client server pA pB cA cB k l

/-- The bytes of a point, which the object holds as a buffer or as its hexadecimal text. -/
def pointBytes : JsValue → Bytes
  | .buffer bs => bs
  | .string text => fromHex text.toList
  | _ => []

@[simp] theorem pointBytes_hexText (bs : Bytes) : pointBytes (hexText bs) = bs := by
  simp [pointBytes, hexText]

/-- What a responder answers to a client's point `pA`, if spake2 started it with the context and the
    verifier of that client: its own point, and the code of `pA` under its own KcB. -/
def ServerAnswers (P : Packages V) (client : Party) (pA : Bytes) (pB cB : JsValue) : Prop :=
  ∃ context v a b server l point code,
    P.startClient context v a = .ok client ∧ P.encodePoint client.getMessage = .ok pA ∧
    P.startServer context v b = .ok server ∧ P.encodePoint server.getMessage = .ok point ∧
    server.finish (.buffer pA) = .ok l ∧ P.mac (.buffer pA) l.KcB = .ok code ∧
    pB = .buffer point ∧ cB = .buffer code

/-- A Pake2 that is worked on, and can be read, is what a responder answers to the object's client. -/
def PaseHost.AnsweredByServer (P : Packages V) (h : PaseHost V) : PaseEvent → Prop
  | .message msg => msg.protocolOpcode = .ok opPake2 → h.pase.state = .awaitPake2 →
      ∀ tlv pB cB client, msg.appPayload = .ok tlv → decodeAt tlv 0 = .ok pB →
        decodeAt tlv 1 = .ok cB → h.pase.spakeClient = some client →
          ServerAnswers P client (pointBytes h.pase.pA) pB cB
  | _ => True

/-! ## 2. The handshake -/

/-- One frame more was handed over, and the message is made of it. -/
def Transmits (h h' : PaseHost V) (msg : Message) : Prop :=
  ∃ t, h'.transmitted = h.transmitted ++ [t] ∧ msg = { buffer := t.frame }

/-- The messages of a handshake. -/
structure Handshake where
  request : Message
  response : Message
  pake1 : Message
  pake2 : Message
  pake3 : Message

namespace Handshake

open PaseHost

variable (P : Packages V) (coin : Nat) (x : Handshake) (h : PaseHost V)

/-- The initiator, once it has sent its request. -/
def initiator1 : PaseHost V := h.step P .start

def initiator2 : PaseHost V :=
  run (step P) (initiator1 P h) (.message x.response :: PaseHost.awaited coin)

def initiator3 : PaseHost V := (initiator2 P coin x h).step P (.message x.pake2)

/-- The responder, once it has got the request. -/
def responder1 : PaseHost V := h.step P (.message x.request)

def responder2 : PaseHost V :=
  run (step P) (responder1 P x h) (.message x.pake1 :: PaseHost.awaited coin)

def responder3 : PaseHost V := (responder2 P coin x h).step P (.message x.pake3)

/-- **Each message is what the other side handed over**, once and in order; `a` and `b` are what
    the parties draw. -/
structure Delivered (a b : Nat) (i r : PaseHost V) : Prop where
  request : Transmits i (initiator1 P i) x.request
  response : Transmits r (responder1 P x r) x.response
  pake1 : Transmits (initiator1 P i) (initiator2 P a x i) x.pake1
  pake2 : Transmits (responder1 P x r) (responder2 P b x r) x.pake2
  pake3 : Transmits (initiator2 P a x i) (initiator3 P a x i) x.pake3

end Handshake

/-- What `computeContext` hashes. -/
def contextBytes (p : PaseSession V) : Option Bytes :=
  match p.pbkdfRequest, p.pbkdfResponse with
  | some request, some response => some (utf8Encode paseContextSalt.toList ++ request ++ response)
  | _, _ => none

/-- **Both sides made one session**: its ids mirrored, from the same context and the same key. -/
structure Agreed (P : Packages V) (i r i' r' : PaseHost V) : Prop where
  idle : i'.pase.state = .idle ∧ r'.pase.state = .idle
  created : (∃ c, i'.created = i.created ++ [c]) ∧ ∃ c, r'.created = r.created ++ [c]
  context : ∃ bytes, contextBytes i'.pase = some bytes ∧ contextBytes r'.pase = some bytes ∧
    i'.pase.spake2 = some (P.sha256 bytes) ∧ r'.pase.spake2 = some (P.sha256 bytes)
  sessions : ∃ s t Ke, i'.secured = i.secured ++ [s] ∧ r'.secured = r.secured ++ [t] ∧
    s.localSessionId = t.peerSessionId ∧ s.peerSessionId = t.localSessionId ∧
    (∃ k, i'.pase.secret = some k ∧ k.Ke = Ke) ∧ (∃ l, r'.pase.secret = some l ∧ l.Ke = Ke) ∧
    s.cryptoContext = some (.initFromSecret P.hkdf Ke [] (utf8Encode "SessionKeys".toList)) ∧
    t.cryptoContext = some (.initFromSecret P.hkdf Ke [] (utf8Encode "SessionKeys".toList))

/-! ## 3. The parameters -/

/-- The PBKDF parameters of a host: its salt is held as text or as bytes, and in hexadecimal. -/
structure PbkdfParams.Hold (q : PbkdfParams) (passcode iterations : Nat) (salt : ByteString) :
    Prop where
  paircode : q.paircode = .nat passcode
  iterations : q.iterations = .nat iterations
  held : q.salt = .buffer salt.bytes ∨
    ∃ text, q.salt = .string text ∧ utf8Encode text.toList = salt.bytes
  saltHex : q.saltHex = hexText salt.bytes

section Parameters

open PaseSession

variable {P : Packages V} {q : PbkdfParams} {passcode iterations : Nat} {salt : ByteString}

/-- Both ways to hold a salt derive the same. -/
theorem deriveVerifier_salt (hq : q.Hold passcode iterations salt) (paircode count : JsValue) :
    deriveVerifier P paircode q.salt count = deriveVerifier P paircode (.buffer salt.bytes) count := by
  have hsame (password : Bytes) : pbkdf2Sync P password q.salt count keyLen =
      pbkdf2Sync P password (.buffer salt.bytes) count keyLen := by
    rcases hq.held with hsalt | ⟨text, hsalt, hbytes⟩
    · rw [hsalt]
    · rw [hsalt]
      unfold pbkdf2Sync
      dsimp only
      rw [hbytes]
  unfold deriveVerifier
  simp only [hsame]

theorem countRead_eq (h : iterations < 2 ^ 32) : countRead iterations = .nat iterations :=
  value_unsigned h

/-- A verifier is derived of a number only: no bigint is an iteration count. -/
theorem countRead_of_derived {paircode : JsValue} {v : V} (hlt : iterations < 2 ^ 64)
    (hv : deriveVerifier P paircode (.buffer salt.bytes) (countRead iterations) = .ok v) :
    countRead iterations = .nat iterations := by
  by_cases hsmall : iterations < 2 ^ 32
  · exact countRead_eq hsmall
  have hnat : (UInt64.ofNat iterations).toNat = iterations := by
    rw [UInt64.toNat_ofNat', Nat.mod_eq_of_lt hlt]
  have hbig : countRead iterations = .bigint iterations := by
    have hwidth : unsignedWidth iterations = 3 := by
      unfold unsignedWidth
      rw [if_neg (by omega), if_neg (by omega), if_neg (by omega)]
    simp only [countRead, Leaf.value, hnat, integerValue, hwidth, if_true]
  rw [hbig] at hv
  obtain ⟨passcode, -, hv⟩ := bind_eq_ok hv
  obtain ⟨w0sw1s, hsecrets, -⟩ := bind_eq_ok hv
  cases hsecrets

/-- **Four bytes of passcode and an iteration count that PBKDF2 takes derive a verifier.** -/
theorem deriveVerifier_ok (hP : P.Agrees) (salt : ByteString) (hpasscode : passcode < 2 ^ 32)
    (hone : 1 ≤ iterations) (hmax : iterations < 2 ^ 31) :
    ∃ v, deriveVerifier P (.nat passcode) (.buffer salt.bytes) (countRead iterations) = .ok v := by
  have hwrite : writeUInt32LE (bufferAlloc 4) (.nat passcode) 0 = _ :=
    writeUIntLE_nat hpasscode (by simp [bufferAlloc])
  have hinteger : (Number.int (iterations : Int)).isInteger = true := rfl
  rw [countRead_eq (by omega)]
  unfold deriveVerifier
  rw [hwrite]
  simp only [bind, Except.bind, pbkdf2Sync]
  rw [if_pos ⟨hinteger, by rw [Number.int_toInteger]; omega, by rw [Number.int_toInteger]; omega⟩]
  exact hP.verifier _ _

end Parameters

/-! ## 4. The run -/

theorem Transmits.unique {h h' : PaseHost V} {msg msg' : Message} (hm : Transmits h h' msg)
    (hm' : Transmits h h' msg') : msg = msg' := by
  obtain ⟨t, ht, rfl⟩ := hm
  obtain ⟨t', ht', rfl⟩ := hm'
  rw [ht] at ht'
  rw [List.singleton_injective (List.append_cancel_left ht')]

theorem not_transmits {h h' : PaseHost V} {msg : Message} (hsame : h'.transmitted = h.transmitted) :
    ¬ Transmits h h' msg := by
  rintro ⟨t, ht, -⟩
  rw [hsame] at ht
  exact absurd (congrArg List.length ht) (by simp)

/-- The messages of a run are those of its hosts. -/
theorem Handshake.Delivered.unique {P : Packages V} {a b : Nat} {i r : PaseHost V} {x y : Handshake}
    (hx : x.Delivered P a b i r) (hy : y.Delivered P a b i r) : x = y := by
  obtain ⟨request, response, pake1, pake2, pake3⟩ := x
  obtain ⟨request', response', pake1', pake2', pake3'⟩ := y
  obtain rfl : request = request' := hx.request.unique hy.request
  obtain rfl : response = response' := hx.response.unique hy.response
  obtain rfl : pake1 = pake1' := hx.pake1.unique hy.pake1
  obtain rfl : pake2 = pake2' := hx.pake2.unique hy.pake2
  obtain rfl : pake3 = pake3' := hx.pake3.unique hy.pake3
  rfl

section Run

open PaseSession Handshake

variable {P : Packages V} {a b : Nat} {n m : Node} {e f passcode iterations : Nat}
  {p q : PbkdfParams} {salt : ByteString}

theorem speaks_create {k : Nat} (hn : n.Speaks e k) (params : PbkdfParams) :
    (PaseHost.create (V := V) n e params).node.Speaks e k :=
  hn.modifyExchange Exchange.stays_isReliable

/-- **With a verifier the messages are delivered, and both sides agree**; the initiator's point is
    answered by a server of spake2. -/
theorem honest_agreed (hP : P.Agrees) (hn : n.Speaks e 3) (hm : m.Speaks f 3)
    (hp : p.paircode = .nat passcode) (hq : q.Hold passcode iterations salt)
    (hlt : iterations < 2 ^ 64) {v : V}
    (hv : deriveVerifier P (.nat passcode) (.buffer salt.bytes) (countRead iterations) = .ok v) :
    ∃ x : Handshake, x.Delivered P a b (.create n e p) (.create m f q) ∧
      Agreed P (.create n e p) (.create m f q) (x.initiator3 P a (.create n e p))
        (x.responder3 P b (.create m f q)) ∧
      (x.initiator2 P a (.create n e p)).AnsweredByServer P (.message x.pake2) := by
  let i : PaseHost V := .create n e p
  let r : PaseHost V := .create m f q
  have hv' : deriveVerifier P q.paircode q.salt q.iterations = .ok v := by
    rw [deriveVerifier_salt hq, hq.paircode, hq.iterations, ← countRead_of_derived hlt hv]
    exact hv
  -- ParamRequest and ParamResponse
  obtain ⟨id, random, request, t1, ni1, sto1, tm1, nt1, sent1, hid, hrequest, hh1, hi1⟩ :=
    step_start (P := P) (h := i) rfl (speaks_create hn p)
  obtain ⟨id', random', response, t2, nr1, sto2, tm2, nt2, sent2, hid', hresponse, hh2, hr1⟩ :=
    step_request (P := P) (h := r) rfl (speaks_create hm q) hid hrequest hh1.carried hq.iterations
      hq.saltHex hlt
  generalize hi1' : i.step P .start = i1 at hi1
  generalize hr1' : r.step P (.message { buffer := t1.frame }) = r1 at hr1
  let bytes := utf8Encode paseContextSalt.toList ++ request ++ response
  obtain ⟨client, server, pA, pB, cA, cB, k, l, hclient, hserver, hagree⟩ :=
    hP.parties (P.sha256 bytes) v a b
  -- Pake1
  have hpaircode : i1.pase.paramPaircode = .nat passcode := by
    rw [hi1]
    exact hp
  obtain ⟨payload3, t3, ni2', ni2, sto3, tm3, nt3, sent3, hpayload3, hh3, hi2⟩ :=
    run_response (P := P) (h := i1) (k := 1) (by rw [hi1]; rfl) (by rw [hi1]; exact hh1.speaks) hid' hlt
      hresponse hh2.carried (by rw [hi1]) (hpaircode ▸ hv) hclient hagree.pointA
  -- Pake2
  obtain ⟨payload4, t4, nr2, sto4, tm4, nt4, sent4, hpayload4, hh4, hr2⟩ :=
    run_pake1 (P := P) (h := r1) (k := 1) (by rw [hr1]; rfl) (by rw [hr1]) (by rw [hr1]; exact hh2.speaks)
      hpayload3 hh3.carried (by rw [hr1]) (by rw [hr1]) (by rw [hr1]; exact hv') hserver hagree.pointB
      hagree.serverFinish hagree.codeB
  generalize hi2' : run (PaseHost.step P) i1
    (.message { buffer := t2.frame } :: PaseHost.awaited a) = i2 at hi2
  generalize hr2' : run (PaseHost.step P) r1
    (.message { buffer := t3.frame } :: PaseHost.awaited b) = r2 at hr2
  -- Pake3
  obtain ⟨payload5, t5, ni3', ni3, s, sto5, tm5, nt5, sent5, c, hpayload5, hh5, hs5, hi3⟩ :=
    step_pake2 (P := P) (h := i2) (k := 0) (by rw [hi2]) (by rw [hi2]; exact hh3.speaks) hpayload4
      hh4.carried (by rw [hi2]) (by rw [hi2]) hagree.clientFinish hagree.codeA
  obtain ⟨nr3, t, sto6, tm6, nt6, sent6, d, hs6, hl6, hp6, hc6, hr3⟩ :=
    step_pake3 (P := P) (h := r2) (k := 0) (by rw [hr2]) (by rw [hr2]; exact hh4.speaks) hpayload5
      hh5.carried (by rw [hr2]) (hagree.verifyHash cA.bytes (hagree.KcA ▸ hagree.codeA))
  let x : Handshake := ⟨{ buffer := t1.frame }, { buffer := t2.frame }, { buffer := t3.frame },
    { buffer := t4.frame }, { buffer := t5.frame }⟩
  have hI1 : initiator1 P i = i1 := hi1'
  have hR1 : x.responder1 P r = r1 := hr1'
  have hI2 : x.initiator2 P a i = i2 := by
    unfold initiator2
    rw [hI1]
    exact hi2'
  have hR2 : x.responder2 P b r = r2 := by
    unfold responder2
    rw [hR1]
    exact hr2'
  have hI3 : x.initiator3 P a i = i2.step P (.message { buffer := t4.frame }) := by
    unfold initiator3
    rw [hI2]
  have hR3 : x.responder3 P b r = r2.step P (.message { buffer := t5.frame }) := by
    unfold responder3
    rw [hR2]
  have hdelivered : x.Delivered P a b i r := by
    refine ⟨⟨t1, ?_, rfl⟩, ⟨t2, ?_, rfl⟩, ⟨t3, ?_, rfl⟩, ⟨t4, ?_, rfl⟩, ⟨t5, ?_, rfl⟩⟩
    · rw [hI1, hi1]
      exact hh1.transmitted
    · rw [hR1, hr1]
      exact hh2.transmitted
    · rw [hI1, hI2, hi2]
      exact hh3.transmitted
    · rw [hR1, hR2, hr2]
      exact hh4.transmitted
    · rw [hI2, hI3, hi3]
      exact hs5.transmitted.trans hh5.transmitted
  have hsecuredI : i2.node.sessions.sessionsSecured = i.node.sessions.sessionsSecured := by
    rw [hi2]
    refine hh3.secured.trans ?_
    rw [hi1]
    exact hh1.secured
  have hsecuredR : r2.node.sessions.sessionsSecured = r.node.sessions.sessionsSecured := by
    rw [hr2]
    refine hh4.secured.trans ?_
    rw [hr1]
    exact hh2.secured
  have hidsI : localId i2.pase = .nat id ∧ peerId i2.pase = .nat id' := by
    rw [hi2, hi1]
    exact ⟨rfl, rfl⟩
  have hidsR : localId r2.pase = .nat id' ∧ peerId r2.pase = .nat id := by
    rw [hr2, hr1]
    exact ⟨rfl, rfl⟩
  have hanswered : i2.AnsweredByServer P (.message { buffer := t4.frame }) := by
    intro _ _ tlv pB' cB' client' htlv hpB hcB hclient'
    obtain ⟨payload, hpayload, hreadB, hreadC⟩ := pake2_readsBack pB cB
    obtain rfl := Except.ok.inj (hpayload.symm.trans hpayload4)
    obtain rfl := Except.ok.inj (hh4.carried.appPayload.symm.trans htlv)
    obtain rfl := Except.ok.inj (hreadB.symm.trans hpB)
    obtain rfl := Except.ok.inj (hreadC.symm.trans hcB)
    rw [hi2] at hclient' ⊢
    obtain rfl := Option.some.inj hclient'
    exact ⟨_, v, a, b, server, l, _, _, hclient, by simpa using hagree.pointA, hserver, hagree.pointB,
      by simpa using hagree.serverFinish, by simpa using hagree.codeB, rfl, rfl⟩
  refine ⟨x, hdelivered, ?_, by rw [hI2]; exact hanswered⟩
  rw [hI3, hR3]
  refine ⟨⟨by rw [hi3], by rw [hr3]⟩, ⟨⟨c, ?_⟩, ⟨d, ?_⟩⟩, ⟨bytes, ?_, ?_, ?_, ?_⟩,
    s, t, k.Ke, ?_, ?_, ?_, ?_, ⟨k, ?_, rfl⟩, ⟨l, ?_, hagree.Ke.symm⟩, hs5.cryptoContext, ?_⟩
  · rw [hi3, hi2, hi1]
    rfl
  · rw [hr3, hr2, hr1]
  · rw [hi3, hi2, hi1]
    rfl
  · rw [hr3, hr2, hr1]
    rfl
  · rw [hi3, hi2]
    rfl
  · rw [hr3, hr2]
  · rw [hi3]
    refine hs5.secured.trans ?_
    rw [hh5.secured, hsecuredI]
    rfl
  · rw [hr3]
    refine hs6.trans ?_
    rw [hsecuredR]
    rfl
  · rw [hs5.localSessionId, hp6, hidsI.1, hidsR.2]
  · rw [hs5.peerSessionId, hl6, hidsI.2, hidsR.1]
  · rw [hi3]
  · rw [hr3, hr2]
  · rw [hagree.Ke]
    exact hc6

/-- A run whose messages are all delivered has derived a verifier. -/
theorem derived_of_delivered {x : Handshake} (hn : n.Speaks e 3) (hm : m.Speaks f 3)
    (hp : p.paircode = .nat passcode) (hq : q.Hold passcode iterations salt)
    (hx : x.Delivered P a b (.create n e p) (.create m f q)) :
    iterations < 2 ^ 64 ∧ ∃ v,
      deriveVerifier P (.nat passcode) (.buffer salt.bytes) (countRead iterations) = .ok v := by
  let i : PaseHost V := .create n e p
  let r : PaseHost V := .create m f q
  obtain ⟨id, random, request, t1, ni1, sto1, tm1, nt1, sent1, hid, hrequest, hh1, hi1⟩ :=
    step_start (P := P) (h := i) rfl (speaks_create hn p)
  have hfirst : x.request = { buffer := t1.frame } := by
    refine hx.request.unique ⟨t1, ?_, rfl⟩
    show (i.step P .start).transmitted = _
    rw [hi1]
    exact hh1.transmitted
  have hcarried : (contentOf opParamRequest request).CarriedBy x.request := by
    rw [hfirst]
    exact hh1.carried
  have hlt : iterations < 2 ^ 64 := by
    by_contra hbig
    exact not_transmits (step_request_silent (h := r) rfl (speaks_create hm q) hid hrequest hcarried
      hq.iterations hq.saltHex (Nat.le_of_not_lt hbig)) hx.response
  obtain ⟨id', random', response, t2, nr1, sto2, tm2, nt2, sent2, hid', hresponse, hh2, hr1⟩ :=
    step_request (P := P) (h := r) rfl (speaks_create hm q) hid hrequest hcarried hq.iterations
      hq.saltHex hlt
  have hsecond : x.response = { buffer := t2.frame } := by
    refine hx.response.unique ⟨t2, ?_, rfl⟩
    show (r.step P (.message x.request)).transmitted = _
    rw [hr1]
    exact hh2.transmitted
  refine ⟨hlt, ?_⟩
  cases hv : deriveVerifier P (.nat passcode) (.buffer salt.bytes) (countRead iterations) with
  | ok v => exact ⟨v, rfl⟩
  | error err =>
    have hpaircode : (i.step P .start).pase.paramPaircode = .nat passcode := by
      rw [hi1]
      exact hp
    exact absurd hx.pake1 (not_transmits (run_response_silent (P := P) (h := i.step P .start) (k := 2)
      (by rw [hi1]; rfl) (by rw [hi1]; exact hh1.speaks) hid' hlt hresponse
      (by rw [hsecond]; exact hh2.carried) (by rw [hi1]) (hpaircode ▸ hv)))

/-- **PASE agreement.** Whatever the passcode, the iteration count and the salt are, and whatever is
    drawn: where the five messages are delivered, both sides agree. And they are delivered, if the
    passcode has four bytes and PBKDF2 takes the iteration count. -/
theorem agreement (P : Packages V) (hP : P.Agrees) (a b : Nat) (hn : n.Speaks e 3)
    (hm : m.Speaks f 3) (hp : p.paircode = .nat passcode) (hq : q.Hold passcode iterations salt) :
    (∀ x : Handshake, x.Delivered P a b (.create n e p) (.create m f q) →
      Agreed P (.create n e p) (.create m f q) (x.initiator3 P a (.create n e p))
        (x.responder3 P b (.create m f q))) ∧
    (passcode < 2 ^ 32 → 1 ≤ iterations → iterations < 2 ^ 31 →
      ∃ x : Handshake, x.Delivered P a b (.create n e p) (.create m f q)) := by
  constructor
  · intro x hx
    obtain ⟨hlt, v, hv⟩ := derived_of_delivered hn hm hp hq hx
    obtain ⟨y, hy, hagreed, -⟩ := honest_agreed (a := a) (b := b) hP hn hm hp hq hlt hv
    rw [hx.unique hy]
    exact hagreed
  · intro hpasscode hone hmax
    obtain ⟨v, hv⟩ := deriveVerifier_ok hP salt hpasscode hone hmax
    obtain ⟨y, hy, -⟩ := honest_agreed (a := a) (b := b) hP hn hm hp hq (by omega) hv
    exact ⟨y, hy⟩

/-- The parties of the samples agree: each derives its keys from the context and the verifier. -/
theorem samplePackages_agrees : samplePackages.Agrees where
  verifier w0s w1s := ⟨w0s ++ w1s, rfl⟩
  parties context v a b := by
    have hpoint (coin : Nat) : (sampleParty context v coin).getMessage.length < 2 ^ 32 :=
      (List.length_cons.trans (congrArg (· + 1) List.length_replicate)).trans_lt (by decide)
    have hcode (secret : Bytes) : (sampleMac secret).length < 2 ^ 32 :=
      (List.length_take_le 32 _).trans_lt (by decide)
    refine ⟨sampleParty context v a, sampleParty context v b, ⟨_, hpoint a⟩, ⟨_, hpoint b⟩,
      ⟨sampleMac (0 :: v), hcode _⟩, ⟨sampleMac (1 :: v), hcode _⟩, _, _, rfl, rfl,
      ⟨rfl, rfl, rfl, rfl, rfl, rfl, rfl, rfl, rfl, ?_⟩⟩
    intro code hmac
    rw [← Except.ok.inj hmac]
    exact if_pos rfl

/-- `SPAKE2P Key Salt` -/
def sampleSalt : ByteString := ⟨utf8Encode "SPAKE2P Key Salt".toList, by decide⟩

theorem hold_defaults : ({} : PbkdfParams).Hold 20202021 1000 sampleSalt :=
  ⟨rfl, rfl, .inr ⟨_, rfl, rfl⟩, rfl⟩

theorem sampleNode_speaks (isInitiator : Bool) : (sampleNode isInitiator).Speaks 0 3 := by
  refine ⟨_, 0, _, rfl, rfl, rfl, ?_⟩
  constructor
  case peerSessionId => rfl
  case peerInfo => exact ⟨_, rfl⟩
  case nodeId_fits =>
    intro id hid
    rw [← Option.some.inj hid]
    decide
  case responds => exact fun _ => rfl
  all_goals decide +revert

/-- Two hosts with the default parameters agree. -/
theorem agreement_defaults :
    let i : PaseHost Bytes := .create (sampleNode true) 0 {}
    let r : PaseHost Bytes := .create (sampleNode false) 0 {}
    ∃ x : Handshake, x.Delivered samplePackages 1 2 i r ∧
      Agreed samplePackages i r (x.initiator3 samplePackages 1 i)
        (x.responder3 samplePackages 2 r) := by
  have hboth := agreement (p := {}) samplePackages samplePackages_agrees 1 2
    (sampleNode_speaks true) (sampleNode_speaks false) rfl hold_defaults
  obtain ⟨x, hx⟩ := hboth.2 (by decide) (by decide) (by decide)
  exact ⟨x, hx, hboth.1 x hx⟩

end Run

end Matternode.Protocols
