/-
  File:      Matternode/Messaging/Nonces.lean
  Subject:   When two endpoints of a session encrypt different frames under one key and nonce.

  The nonce of a frame a session stamps is its counter and eight zeros: the session adds no source
  node id, so nothing in the nonce says who sent the frame. Each endpoint counts from its own
  random start, and the key goes by the I flag, which both endpoints set in exchanges they open.

  * `Sending`, `Session.sending` -- what a session makes of a message that it encrypts: counter,
    session id, I flag, and the bytes behind the header;
  * `sendMessage_effect` -- **a call of `sendMessage` makes the cipher call of its `Sending`** and
    takes the counter, whether it answers or throws;
  * `run_calls` -- what both endpoints have called after any interleaving of their messages;
  * `noNonceReuse_iff` -- **no two different frames share key and nonce exactly when** messages of
    the two endpoints with one counter and one key have one session id and the same bytes behind it.
-/
import Matternode.Base.Machine
import Matternode.Messaging.ClearFrames
import Matternode.Messaging.KeyAgreement

namespace Matternode.Messaging

open Base Js

/-! ## 1. One message -/

/-- A message that is encrypted: its counter, the session id of its header, its I flag, and the
    bytes behind the header. -/
structure Sending where
  counter : Nat
  sessionId : Nat
  iflag : Bool
  body : Bytes
  deriving DecidableEq, Repr

namespace Session

/-- What a session makes of a message, if it encrypts it: its id is not 0, its counter has 32 bits,
    and there is a byte with flags behind the header. -/
def sending (s : Session) (msg : Message) : Option Sending :=
  (headerId s.peerSessionId).bind fun id =>
    if id ≠ 0 ∧ s.messageCounter < 2 ^ 32 ∧ 8 < msg.buffer.length then
      some ⟨s.messageCounter, id, beginsOdd (msg.buffer.drop 8), msg.buffer.drop 8⟩
    else none

/-- The session after `sendMessage`, as far as later messages are stamped by it: a message whose
    header can be written up to its session id takes the counter. -/
def advance (s : Session) (msg : Message) : Session :=
  if (headerId s.peerSessionId).isSome ∧ 4 ≤ msg.buffer.length then
    { s with messageCounter := s.messageCounter + 1 }
  else s

end Session

/-- The nonce of a stamped frame. -/
def counterNonce (counter : Nat) : Bytes := 0 :: toLE 4 counter ++ toLE 8 0

/-- The stamped frame. -/
def Sending.frame (x : Sending) : Bytes := stampedHeader x.sessionId x.counter ++ x.body

/-- The call of the cipher for a sending. -/
def Sending.call (c : SessionCryptoContext) (x : Sending) : Ciphered :=
  ⟨c.keys (Session.keyIndex x.iflag), counterNonce x.counter, x.frame⟩

/-- The two sessions stamp and encrypt alike. -/
structure SendsAlike (s t : Session) : Prop where
  peerSessionId : s.peerSessionId = t.peerSessionId
  messageCounter : s.messageCounter = t.messageCounter
  cryptoContext : s.cryptoContext = t.cryptoContext

theorem SendsAlike.refl (s : Session) : SendsAlike s s := ⟨rfl, rfl, rfl⟩

theorem SendsAlike.trans {s t u : Session} (h : SendsAlike s t) (h' : SendsAlike t u) :
    SendsAlike s u :=
  ⟨h.peerSessionId.trans h'.peerSessionId, h.messageCounter.trans h'.messageCounter,
    h.cryptoContext.trans h'.cryptoContext⟩

theorem SendsAlike.sending {s t : Session} (h : SendsAlike s t) (msg : Message) :
    s.sending msg = t.sending msg := by
  unfold Session.sending
  rw [h.peerSessionId, h.messageCounter]

theorem SendsAlike.advance {s t : Session} (h : SendsAlike s t) (msg : Message) :
    SendsAlike (s.advance msg) (t.advance msg) := by
  have hid : headerId s.peerSessionId = headerId t.peerSessionId := congrArg _ h.peerSessionId
  unfold Session.advance
  rw [hid]
  split
  · exact ⟨h.peerSessionId, congrArg (· + 1) h.messageCounter, h.cryptoContext⟩
  · exact h

namespace Session

section Headers

variable {s : Session} {msg m : Message} {id : Nat}

/-- **When the header is written** up to its session id. -/
theorem address_ok_iff :
    (∃ m, s.address msg = .ok m) ↔ (headerId s.peerSessionId).isSome ∧ 4 ≤ msg.buffer.length := by
  constructor
  · rintro ⟨m, h⟩
    obtain ⟨id, hid⟩ := headerId_of_address h
    obtain ⟨m1, h1, h⟩ := bind_eq_ok h
    obtain ⟨m2, h2, -⟩ := bind_eq_ok h
    obtain ⟨buf1, hw1, rfl⟩ := write_ok h1
    obtain ⟨buf2, hw2, rfl⟩ := write_ok h2
    obtain ⟨flags, -, hfirst, rfl⟩ := writeUIntLE_ok hw1
    obtain ⟨-, -, hlen, -⟩ := writeUIntLE_ok hw2
    have hsame : (overwrite msg.buffer 0 (toLE 1 flags.toInteger.toNat)).length =
        msg.buffer.length := length_overwrite (by rwa [length_toLE])
    exact ⟨by rw [hid]; rfl, hlen.trans hsame.le⟩
  · rintro ⟨hsome, hlen⟩
    obtain ⟨id, hid⟩ := Option.isSome_iff_exists.mp hsome
    exact ⟨_, address_ok hid hlen⟩

theorem advance_of_address {m : Message} (h : s.address msg = .ok m) :
    s.advance msg = { s with messageCounter := s.messageCounter + 1 } :=
  if_pos (address_ok_iff.mp ⟨m, h⟩)

/-- A message that is not stamped is not encrypted. -/
theorem sending_of_stamp_error {e : JsError} (h : s.stamp msg = .error e) :
    s.sending msg = none := by
  unfold sending
  rw [Option.bind_eq_none_iff]
  intro id hid
  refine if_neg fun hcond => ?_
  cases h.symm.trans (stamp_eq_ok_iff.mpr ⟨id, hid, hcond.2.1, by omega, rfl⟩)

/-- What is made of a message that is stamped. -/
theorem sending_of_stamp (hid : headerId s.peerSessionId = some id)
    (hcounter : s.messageCounter < 2 ^ 32) : s.sending msg = if id ≠ 0 ∧ 8 < msg.buffer.length then
      some ⟨s.messageCounter, id, beginsOdd (msg.buffer.drop 8), msg.buffer.drop 8⟩ else none := by
  unfold sending
  rw [hid, Option.bind_some]
  simp only [hcounter, true_and]

end Headers

end Session

namespace Session

variable {A : Aead} {st : SendState} {msg m : Message} {c : SessionCryptoContext}

/-- Handing a frame over calls no cipher and leaves the session. -/
theorem transmit_final (st : SendState) (buf : Bytes) :
    (final ((transmit buf).run st)).outside.ciphered = st.outside.ciphered ∧
      (final ((transmit buf).run st)).session = st.session := by
  cases hpeer : st.session.peerInfo with
  | none =>
    rw [transmit_none hpeer]
    exact ⟨rfl, rfl⟩
  | some peer =>
    rw [transmit_some hpeer]
    exact ⟨rfl, rfl⟩

/-- What follows an answered first part of `sendStamped`. -/
theorem transmit_pure_final (buf : Bytes) (m : Message) :
    final ((do transmit buf; pure m : SendM Message).run st) = final ((transmit buf).run st) := by
  cases htr : (transmit buf).run st with
  | ok u st' =>
    rw [run_bind_ok htr]
    rfl
  | error e st' =>
    rw [run_bind_error htr]
    rfl

/-- The cipher calls of a stamped message, by whether it is encrypted and its I flag. -/
def stampedCalls (c : SessionCryptoContext) (m : Message) :
    Bool → Except JsError Bool → List Ciphered
  | true, .ok b => [cipherCallOf c m b]
  | _, _ => []

/-- The cipher calls of a stamped message, and the session after it. -/
theorem sendStamped_effect (A : Aead) (st : SendState) (hc : st.session.cryptoContext = some c)
    {encrypted : Bool} (henc : m.isEncrypted = .ok encrypted) :
    (final ((sendStamped A m).run st)).outside.ciphered =
        st.outside.ciphered ++ stampedCalls c m encrypted m.iflag ∧
      SendsAlike (final ((sendStamped A m).run st)).session st.session := by
  cases encrypted with
  | false =>
    rw [sendStamped_unencrypted henc]
    cases haddr : (addressUnencrypted m).run st with
    | ok r st1 =>
      have hun := (unsent_addressUnencrypted st m).ok (Unsent.refl st) haddr
      obtain ⟨hciph, hsess⟩ := transmit_final st1 r.2
      rw [run_bind_ok haddr, transmit_pure_final, hciph, hsess, hun.session, hun.ciphered]
      exact ⟨(List.append_nil _).symm, ⟨rfl, rfl, rfl⟩⟩
    | error e st1 =>
      have hun := (unsent_addressUnencrypted st m).error (Unsent.refl st) haddr
      rw [run_bind_error haddr, final_error, hun.session, hun.ciphered]
      exact ⟨(List.append_nil _).symm, ⟨rfl, rfl, rfl⟩⟩
  | true =>
    rw [sendStamped_encrypted henc]
    cases hflag : m.iflag with
    | ok b =>
      obtain ⟨hciph, hsess⟩ := transmit_final (callCipher st (cipherCallOf c m b))
        (MsgCodec.encrypt A m.buffer (c.keys (keyIndex b)))
      rw [run_bind_ok (encryptMessage_some hflag hc), transmit_pure_final, hciph, hsess]
      exact ⟨rfl, SendsAlike.refl _⟩
    | error e =>
      have hfail : (encryptMessage A m).run st = .error e st := by
        unfold encryptMessage
        rw [hflag]
        exact run_bind_error (run_lift_error e st)
      rw [run_bind_error hfail, final_error]
      exact ⟨(List.append_nil _).symm, SendsAlike.refl _⟩

/-- **A call of `sendMessage` makes the cipher call of its sending**, and takes its counter. -/
theorem sendMessage_effect (A : Aead) (st : SendState) (msg : Message)
    {c : SessionCryptoContext} (hc : st.session.cryptoContext = some c) :
    (final ((sendMessage A msg).run st)).outside.ciphered =
        st.outside.ciphered ++ ((st.session.sending msg).map (Sending.call c)).toList ∧
      SendsAlike (final ((sendMessage A msg).run st)).session (st.session.advance msg) := by
  cases haddr : st.session.address msg with
  | error e =>
    have hstamp : st.session.stamp msg = .error e := by
      unfold stamp
      rw [haddr]
      rfl
    have hstays : st.session.advance msg = st.session := by
      refine if_neg fun hcond => ?_
      obtain ⟨m, hm⟩ := address_ok_iff.mpr hcond
      cases haddr.symm.trans hm
    rw [sendMessage_address_error haddr, sending_of_stamp_error hstamp, hstays]
    exact ⟨(List.append_nil _).symm, SendsAlike.refl _⟩
  | ok m₁ =>
    rw [advance_of_address haddr]
    cases hcounter : m₁.setMessageCounter (.nat st.session.messageCounter) with
    | error e =>
      have hstamp : st.session.stamp msg = .error e := by
        unfold stamp
        rw [haddr]
        exact hcounter
      rw [sendMessage_stamp_error haddr hcounter, sending_of_stamp_error hstamp]
      exact ⟨(List.append_nil _).symm, ⟨rfl, rfl, rfl⟩⟩
    | ok m =>
      have hstamp : st.session.stamp msg = .ok m := by
        unfold stamp
        rw [haddr]
        exact hcounter
      obtain ⟨id, hid, hfits, -, hm⟩ := stamp_eq_ok_iff.mp hstamp
      have hbuf : m.buffer = stampedHeader id st.session.messageCounter ++ msg.buffer.drop 8 := by
        rw [hm]
      obtain ⟨hciph, hsess⟩ :=
        sendStamped_effect A (countTx (takeCounter st)) hc (headed_isEncrypted hbuf)
      rw [sendMessage_stamped hstamp, hciph, sending_of_stamp hid hfits,
        Nat.mod_eq_of_lt (headerId_lt hid)]
      refine ⟨congrArg (st.outside.ciphered ++ ·) ?_, hsess.trans ⟨rfl, rfl, rfl⟩⟩
      by_cases hzero : id = 0
      · rw [if_neg (fun h => h.1 hzero), decide_eq_false (not_not.mpr hzero)]
        rfl
      rw [decide_eq_true hzero]
      by_cases hlen : 8 < msg.buffer.length
      · have hflag := stamped_iflag hbuf (by rw [List.length_drop]; omega)
        rw [if_pos ⟨hzero, hlen⟩, hflag]
        simp only [stampedCalls, Option.map_some, Option.toList_some, Sending.call, Sending.frame,
          cipherCallOf, stamped_nonce hbuf, counterNonce]
        rw [hbuf]
      · -- there is no flag to be read behind the header
        have hnone : msg.buffer.drop 8 = [] := List.drop_eq_nil_of_le (by omega)
        rw [if_neg (fun h => hlen h.2), stamped_iflag_nil (hbuf.trans (congrArg _ hnone))]
        rfl

end Session

/-! ## 2. The messages of one endpoint -/

/-- What a session makes of the messages it sends one after the other. -/
def Session.sendings (s : Session) : List Message → List Sending
  | [] => []
  | msg :: msgs => (s.sending msg).toList ++ (s.advance msg).sendings msgs

theorem SendsAlike.sendings {s t : Session} (h : SendsAlike s t) (msgs : List Message) :
    s.sendings msgs = t.sendings msgs := by
  induction msgs generalizing s t with
  | nil => rfl
  | cons msg msgs ih => rw [Session.sendings, Session.sendings, h.sending, ih (h.advance msg)]

/-- A sending has the counter of its session, a counter of 32 bits and an id of two bytes, and the
    session goes on. -/
theorem sending_counter {s : Session} {msg : Message} {x : Sending} (h : s.sending msg = some x) :
    x.counter = s.messageCounter ∧ x.counter < 2 ^ 32 ∧ x.sessionId < 65536 ∧
      (s.advance msg).messageCounter = s.messageCounter + 1 := by
  obtain ⟨id, hid, hx⟩ := Option.bind_eq_some_iff.mp h
  split at hx
  · rename_i hcond
    cases hx
    have hadvance : s.advance msg = { s with messageCounter := s.messageCounter + 1 } :=
      if_pos ⟨by rw [hid]; rfl, by omega⟩
    exact ⟨rfl, hcond.2.1, headerId_lt hid, by rw [hadvance]⟩
  · cases hx

theorem advance_counter_le (s : Session) (msg : Message) :
    s.messageCounter ≤ (s.advance msg).messageCounter := by
  unfold Session.advance
  split
  · exact Nat.le_succ _
  · exact Nat.le_refl _

theorem sendings_counter {s : Session} {msgs : List Message} {x : Sending}
    (h : x ∈ s.sendings msgs) :
    s.messageCounter ≤ x.counter ∧ x.counter < 2 ^ 32 ∧ x.sessionId < 65536 := by
  induction msgs generalizing s with
  | nil => cases h
  | cons msg msgs ih =>
    rcases List.mem_append.mp h with h | h
    · obtain ⟨heq, hlt, hid, -⟩ := sending_counter (Option.mem_toList.mp h)
      exact ⟨heq.ge, hlt, hid⟩
    · obtain ⟨hge, hlt, hid⟩ := ih h
      exact ⟨(advance_counter_le s msg).trans hge, hlt, hid⟩

/-- **An endpoint never takes a counter twice**: two of its sendings with one counter are one. -/
theorem sendings_counter_inj {s : Session} {msgs : List Message} {x y : Sending}
    (hx : x ∈ s.sendings msgs) (hy : y ∈ s.sendings msgs) (h : x.counter = y.counter) : x = y := by
  induction msgs generalizing s with
  | nil => cases hx
  | cons msg msgs ih =>
    rcases List.mem_append.mp hx with hx | hx <;> rcases List.mem_append.mp hy with hy | hy
    · exact Option.some.inj ((Option.mem_toList.mp hx).symm.trans (Option.mem_toList.mp hy))
    · obtain ⟨heq, -, -, hnext⟩ := sending_counter (Option.mem_toList.mp hx)
      have hge := (sendings_counter hy).1
      omega
    · obtain ⟨heq, -, -, hnext⟩ := sending_counter (Option.mem_toList.mp hy)
      have hge := (sendings_counter hx).1
      omega
    · exact ih hx hy

theorem counterNonce_inj {m n : Nat} (hm : m < 2 ^ 32) (hn : n < 2 ^ 32)
    (h : counterNonce m = counterNonce n) : m = n := by
  unfold counterNonce at h
  have h4 := (List.append_inj_left h (by simp))
  exact toLE_injective (by omega) (by omega) (List.cons.inj h4).2

/-! ## 3. Both endpoints -/

/-- The two endpoints of a session. -/
inductive End where
  | a | b
  deriving DecidableEq, Repr

structure Ends where
  a : SendState
  b : SendState

/-- One endpoint sends a message. -/
def Ends.step (A : Aead) (e : Ends) : End × Message → Ends
  | (.a, msg) => { e with a := final ((Session.sendMessage A msg).run e.a) }
  | (.b, msg) => { e with b := final ((Session.sendMessage A msg).run e.b) }

/-- The messages of one endpoint in a run of both. -/
def sentBy (x : End) (es : List (End × Message)) : List Message :=
  (es.filter (·.1 = x)).map (·.2)

/-- The cipher calls of both endpoints. -/
def Ends.calls (e : Ends) : List Ciphered := e.a.outside.ciphered ++ e.b.outside.ciphered

/-- **What both endpoints have called after any interleaving of their messages.** -/
theorem run_calls (A : Aead) {c : SessionCryptoContext} (es : List (End × Message)) (e : Ends)
    (ha : e.a.session.cryptoContext = some c) (hb : e.b.session.cryptoContext = some c) :
    (run (Ends.step A) e es).a.outside.ciphered = e.a.outside.ciphered ++
        (e.a.session.sendings (sentBy .a es)).map (Sending.call c) ∧
      (run (Ends.step A) e es).b.outside.ciphered = e.b.outside.ciphered ++
        (e.b.session.sendings (sentBy .b es)).map (Sending.call c) := by
  induction es generalizing e with
  | nil => simp [sentBy, Session.sendings]
  | cons ev es ih =>
    obtain ⟨x, msg⟩ := ev
    cases x with
    | a =>
      obtain ⟨hciph, hsess⟩ := Session.sendMessage_effect A e.a msg ha
      have hctx : (e.a.session.advance msg).cryptoContext = some c := by
        unfold Session.advance
        split <;> exact ha
      obtain ⟨iha, ihb⟩ := ih (e.step A (.a, msg)) (hsess.cryptoContext.trans hctx) hb
      refine ⟨?_, ihb⟩
      rw [run_cons, iha]
      show (final ((Session.sendMessage A msg).run e.a)).outside.ciphered ++ _ = _
      rw [hciph, List.append_assoc, show sentBy .a ((.a, msg) :: es) = msg :: sentBy .a es from rfl,
        Session.sendings, List.map_append, ← hsess.sendings]
      congr 2
      cases e.a.session.sending msg <;> rfl
    | b =>
      obtain ⟨hciph, hsess⟩ := Session.sendMessage_effect A e.b msg hb
      have hctx : (e.b.session.advance msg).cryptoContext = some c := by
        unfold Session.advance
        split <;> exact hb
      obtain ⟨iha, ihb⟩ := ih (e.step A (.b, msg)) ha (hsess.cryptoContext.trans hctx)
      refine ⟨iha, ?_⟩
      rw [run_cons, ihb]
      show (final ((Session.sendMessage A msg).run e.b)).outside.ciphered ++ _ = _
      rw [hciph, List.append_assoc, show sentBy .b ((.b, msg) :: es) = msg :: sentBy .b es from rfl,
        Session.sendings, List.map_append, ← hsess.sendings]
      congr 2
      cases e.b.session.sending msg <;> rfl

/-- No two different frames are encrypted with one key and nonce. -/
def NoNonceReuse (calls : List Ciphered) : Prop :=
  ∀ x ∈ calls, ∀ y ∈ calls, x.key = y.key → x.nonce = y.nonce → x.frame = y.frame

/-- Frames of one counter are equal where their ids and their bytes behind the header are. -/
theorem frame_eq_iff {x y : Sending} (hcounter : x.counter = y.counter) (hx : x.sessionId < 65536)
    (hy : y.sessionId < 65536) :
    x.frame = y.frame ↔ x.sessionId = y.sessionId ∧ x.body = y.body := by
  unfold Sending.frame
  rw [hcounter]
  constructor
  · intro h
    have hheader := List.append_inj_left h (by rw [length_header, length_header])
    have hbody := List.append_inj_right h (by rw [length_header, length_header])
    have hid : toLE 2 x.sessionId = toLE 2 y.sessionId :=
      List.append_inj_left (List.cons.inj hheader).2 (by rw [length_toLE, length_toLE])
    exact ⟨toLE_injective hx hy hid, hbody⟩
  · rintro ⟨hid, hbody⟩
    rw [hid, hbody]

/-- **No two different frames share key and nonce exactly when** a message of the one endpoint and a
    message of the other that are encrypted with the same counter and the same key have the same
    session id in their headers, and the same bytes behind them. -/
theorem noNonceReuse_iff (A : Aead) {c : SessionCryptoContext} {e : Ends}
    (ha : e.a.session.cryptoContext = some c) (hb : e.b.session.cryptoContext = some c)
    (hna : e.a.outside.ciphered = []) (hnb : e.b.outside.ciphered = [])
    (es : List (End × Message)) :
    NoNonceReuse (run (Ends.step A) e es).calls ↔
      ∀ x ∈ e.a.session.sendings (sentBy .a es), ∀ y ∈ e.b.session.sendings (sentBy .b es),
        x.counter = y.counter →
        c.keys (Session.keyIndex x.iflag) = c.keys (Session.keyIndex y.iflag) →
        x.sessionId = y.sessionId ∧ x.body = y.body := by
  obtain ⟨hcallsA, hcallsB⟩ := run_calls A es e ha hb
  unfold Ends.calls NoNonceReuse
  rw [hcallsA, hcallsB, hna, hnb, List.nil_append, List.nil_append]
  constructor
  · intro h x hx y hy hcounter hkey
    rw [← frame_eq_iff hcounter (sendings_counter hx).2.2 (sendings_counter hy).2.2]
    exact h _ (List.mem_append_left _ (List.mem_map_of_mem hx))
      _ (List.mem_append_right _ (List.mem_map_of_mem hy)) hkey (congrArg counterNonce hcounter)
  · intro h x hx y hy hkey hnonce
    rcases List.mem_append.mp hx with hx | hx <;> rcases List.mem_append.mp hy with hy | hy <;>
      obtain ⟨u, hu, rfl⟩ := List.mem_map.mp hx <;> obtain ⟨v, hv, rfl⟩ := List.mem_map.mp hy <;>
      have hcounter : u.counter = v.counter :=
        counterNonce_inj (sendings_counter hu).2.1 (sendings_counter hv).2.1 hnonce <;>
      have hframe := frame_eq_iff hcounter (sendings_counter hu).2.2 (sendings_counter hv).2.2
    · rw [sendings_counter_inj hu hv hcounter]
    · exact hframe.mpr (h u hu v hv hcounter hkey)
    · obtain ⟨hid, hbody⟩ := h v hv u hu hcounter.symm hkey.symm
      exact hframe.mpr ⟨hid.symm, hbody.symm⟩
    · rw [sendings_counter_inj hu hv hcounter]

/-- Two endpoints that have drawn counters apart send a request each: no nonce is used twice. -/
theorem noNonceReuse_apart :
    NoNonceReuse (run (Ends.step Aead.keyTag)
        ⟨⟨sampleSession 7 9, sampleOutside⟩,
          ⟨{ sampleSession 9 7 with messageCounter := 5 }, sampleOutside⟩⟩
        [(.a, sampleMessage 1), (.b, sampleMessage 1)]).calls :=
  (noNonceReuse_iff Aead.keyTag rfl rfl rfl rfl _).mpr (by decide)

/-- **Two endpoints that have drawn the same counter encrypt their requests alike.** -/
theorem nonceReuse_same_counter :
    ¬ NoNonceReuse (run (Ends.step Aead.keyTag)
        ⟨⟨sampleSession 7 9, sampleOutside⟩, ⟨sampleSession 9 7, sampleOutside⟩⟩
        [(.a, sampleMessage 1), (.b, sampleMessage 1)]).calls := by
  intro h
  have hframe := h _ (List.mem_cons_self) _ (List.mem_cons_of_mem _ List.mem_cons_self)
    (by decide) (by decide)
  exact absurd hframe (by decide)

end Matternode.Messaging
