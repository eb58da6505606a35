/-
  File:      Matternode/Messaging/Dispatch.lean
  Subject:   The session a secure datagram is dispatched with.

  Every end of a session writes its peer's id for it into the datagrams it sends, and SessionManager
  looks a datagram's id up among the ids **peers** gave their sessions: it finds the session a
  datagram is addressed to only where the two ids are equal.

  * `dispatchedWith` -- the event a datagram ends in, and its session;
  * `updatePeer_ok`, `updatePeer_error` -- what a datagram leaves on its session;
  * `onSecureMessage_found`, `onSecureMessage_new` -- the run of a secure datagram, by whether its
    id is found;
  * `datagrams_dispatched_iff` -- **in every run, a secure datagram is dispatched with the session it
    is addressed to exactly when** that session is the first the id is found with.
-/
import Matternode.Base.Keyed
import Matternode.Messaging.KeyAgreement
import Matternode.Messaging.SessionManager

namespace Matternode.Messaging

open Base Js

namespace SessionManager

/-! ## 1. What a datagram leaves on its session -/

/-- A session after a datagram with this counter. -/
def hear (msg : Message) (counter : Nat) (s : Session) : Session :=
  { s with
    peerInfo := msg.peerInfo
    peerMessageCounter := counter
    metricRxCount := s.metricRxCount + 1 }

theorem modifySession_modifySession (h : SessionManager) (f g : Session → Session)
    (ref : SessionRef) :
    (h.modifySession f ref).modifySession g ref = h.modifySession (g ∘ f) ref := by
  cases ref with
  | secured i => exact congrArg (fun l => { h with sessionsSecured := l }) (List.modify_modify_eq ..)
  | unsecured i =>
    exact congrArg (fun l => { h with sessionsUnsecured := l }) (List.modify_modify_eq ..)

section Hearing

variable {h : SessionManager} {ref : SessionRef} {msg : Message}

theorem updatePeer_ok {counter : Nat} (hc : msg.messageCounter = .ok counter) :
    (updatePeer ref msg).run h = .ok () (h.modifySession (hear msg counter) ref) := by
  unfold updatePeer
  rw [hc, run_bind_ok (run_modify _ h), run_bind_ok (run_lift_ok counter _),
    run_bind_ok (run_modify _ _), run_modify, modifySession_modifySession,
    modifySession_modifySession]
  rfl

theorem updatePeer_error {e : JsError} (hc : msg.messageCounter = .error e) :
    (updatePeer ref msg).run h =
      .error e (h.modifySession (fun s => { s with peerInfo := msg.peerInfo }) ref) := by
  unfold updatePeer
  rw [hc, run_bind_ok (run_modify _ h)]
  exact run_bind_error (run_lift_error e _)

end Hearing

/-! ## 2. The run of a secure datagram -/

/-- The first session of the secure table whose **peer's** id is the one given. -/
def FirstWith (h : SessionManager) (id i : Nat) : Prop :=
  (∃ s, h.sessionsSecured[i]? = some s ∧ s.peerSessionId.strictEqNat id) ∧
    ∀ j < i, ∀ s, h.sessionsSecured[j]? = some s → ¬ s.peerSessionId.strictEqNat id

theorem getSecureSession_eq_some {h : SessionManager} {id i : Nat} :
    h.getSecureSession id = some i ↔ h.FirstWith id i := by
  unfold getSecureSession FirstWith
  rw [List.findIdx?_eq_some_iff_getElem]
  constructor
  · rintro ⟨hi, hp, hfirst⟩
    refine ⟨⟨_, List.getElem?_eq_getElem hi, hp⟩, fun j hj s hs => ?_⟩
    obtain ⟨hjlen, rfl⟩ := List.getElem?_eq_some_iff.mp hs
    exact hfirst j hj
  · rintro ⟨⟨s, hs, hp⟩, hfirst⟩
    obtain ⟨hi, rfl⟩ := List.getElem?_eq_some_iff.mp hs
    exact ⟨hi, hp, fun j hj => hfirst j hj _ (List.getElem?_eq_getElem (hj.trans hi))⟩

/-- The message `decryptMessage` leaves: decrypted, or as it came. -/
def opened (A : Aead) (s : Session) (c : SessionCryptoContext) (buf : Bytes)
    (peerInfo : PeerInfo) : Message :=
  { received buf peerInfo with
    buffer := (MsgCodec.decrypt A buf (c.keys (if s.initiator then 1 else 0))).getD buf }

/-- What `onSecureMessage` does once it has decrypted. -/
def dispatch (ref : SessionRef) (msg : Message) : ManagerM Emission := do
  updatePeer ref msg
  return ⟨.message, msg, ref⟩

section Secure

variable {A : Aead} {h : SessionManager} {buf : Bytes} {peerInfo : PeerInfo} {id i : Nat}
  {s : Session} {c : SessionCryptoContext}

theorem dispatch_ok {ref : SessionRef} {msg : Message} {counter : Nat}
    (hc : msg.messageCounter = .ok counter) :
    (dispatch ref msg).run h =
      .ok ⟨.message, msg, ref⟩ (h.modifySession (hear msg counter) ref) := by
  unfold dispatch
  rw [run_bind_ok (updatePeer_ok hc)]
  rfl

theorem dispatch_error {ref : SessionRef} {msg : Message} {e : JsError}
    (hc : msg.messageCounter = .error e) :
    (dispatch ref msg).run h =
      .error e (h.modifySession (fun s => { s with peerInfo := msg.peerInfo }) ref) :=
  run_bind_error (updatePeer_error hc)

theorem onMessage_secure (hm : (received buf peerInfo).isUnencrypted = .ok false) :
    (onMessage A buf peerInfo).run h = (onSecureMessage A buf peerInfo).run h := by
  have hraw : (rawMessage buf peerInfo).isUnencrypted = .ok false := hm
  simp only [onMessage, hraw]
  exact run_bind_ok (run_lift_ok false h)

theorem secureSessionFor_found (hid : (received buf peerInfo).sessionId = .ok id)
    (hfound : h.getSecureSession id = some i) :
    (secureSessionFor (received buf peerInfo)).run h = .ok (.secured i) h := by
  unfold secureSessionFor
  rw [hid, run_bind_ok (run_lift_ok id h), run_bind_ok (run_get h), hfound]
  rfl

/-- The part of `onSecureMessage` after the session is chosen. -/
theorem onSecureMessage_of_session {h' : SessionManager} {ref : SessionRef}
    (href : (secureSessionFor (received buf peerInfo)).run h = .ok ref h')
    (hs : h'.session? ref = some s) (hc : s.cryptoContext = some c)
    (hm : (received buf peerInfo).isUnencrypted = .ok false) :
    (onSecureMessage A buf peerInfo).run h =
      (dispatch ref (opened A s c buf peerInfo)).run h' := by
  unfold onSecureMessage
  rw [run_bind_ok href, run_bind_ok (run_get h'), hs]
  simp only [Session.decryptMessage_received hc hm]
  exact run_bind_ok (run_lift_ok _ h')

/-- **A datagram whose id is found** goes to the session it is found with. -/
theorem onSecureMessage_found (hm : (received buf peerInfo).isUnencrypted = .ok false)
    (hid : (received buf peerInfo).sessionId = .ok id)
    (hfound : h.getSecureSession id = some i) (hs : h.sessionsSecured[i]? = some s)
    (hc : s.cryptoContext = some c) :
    (onMessage A buf peerInfo).run h =
      (dispatch (.secured i) (opened A s c buf peerInfo)).run h := by
  rw [onMessage_secure hm]
  exact onSecureMessage_of_session (secureSessionFor_found hid hfound) hs hc hm

/-- A new secure session at the end of its table. -/
def pushSecured (h : SessionManager) (s : Session) (o : Outside) : SessionManager :=
  { h with sessionsSecured := h.sessionsSecured ++ [s], outside := o }

theorem pushSecured_session? (h : SessionManager) (s : Session) (o : Outside) :
    (h.pushSecured s o).session? (.secured h.sessionsSecured.length) = some s :=
  List.getElem?_concat_length

theorem modifySession_pushSecured (h : SessionManager) (s : Session) (o : Outside)
    (f : Session → Session) :
    (h.pushSecured s o).modifySession f (.secured h.sessionsSecured.length) =
      h.pushSecured (f s) o :=
  congrArg (fun l => { h with sessionsSecured := l, outside := o })
    (modify_append_one f h.sessionsSecured s)

/-- A datagram whose id is not found, and whose source node id is missing, leaves a new session
    only. -/
theorem onSecureMessage_new_error (hm : (received buf peerInfo).isUnencrypted = .ok false)
    (hid : (received buf peerInfo).sessionId = .ok id)
    (hnone : h.getSecureSession id = none) {e : JsError}
    (hsrc : (received buf peerInfo).sourceNodeId = .error e) :
    ∃ s o, (onMessage A buf peerInfo).run h = .error e (h.pushSecured s o) := by
  obtain ⟨s, o, -, hnew⟩ := newSession_secured (.nat id) (.nat id) h
  refine ⟨s, o, ?_⟩
  rw [onMessage_secure hm]
  refine run_bind_error ?_
  unfold secureSessionFor
  rw [hid, run_bind_ok (run_lift_ok id h), run_bind_ok (run_get h), hnone]
  refine (run_bind_ok hnew).trans (run_bind_error ?_)
  unfold learnPeer
  rw [hsrc]
  exact run_bind_error (run_lift_error e _)

/-- **A datagram whose id is not found** goes to a new session with the default keys. -/
theorem onSecureMessage_new (hm : (received buf peerInfo).isUnencrypted = .ok false)
    (hid : (received buf peerInfo).sessionId = .ok id)
    (hnone : h.getSecureSession id = none) {source : Nat}
    (hsrc : (received buf peerInfo).sourceNodeId = .ok source) :
    ∃ s o, IsNew s (.nat id) (.nat id) true ∧ (onMessage A buf peerInfo).run h =
      (dispatch (.secured h.sessionsSecured.length) (opened A s .default buf peerInfo)).run
        (h.pushSecured s o) := by
  obtain ⟨s, o, hs, hnew⟩ := newSession_secured (.nat id) (.nat id) h
  have hs' : IsNew { s with peerNodeId := some source } (.nat id) (.nat id) true :=
    ⟨hs.localSessionId, hs.peerSessionId, hs.secure, hs.initiator, hs.cryptoContext⟩
  refine ⟨{ s with peerNodeId := some source }, o, hs', ?_⟩
  rw [onMessage_secure hm]
  refine onSecureMessage_of_session ?_ (pushSecured_session? ..) hs'.cryptoContext hm
  unfold secureSessionFor
  rw [hid, run_bind_ok (run_lift_ok id h), run_bind_ok (run_get h), hnone]
  refine (run_bind_ok hnew).trans ?_
  unfold learnPeer
  rw [hsrc]
  exact congrArg (EStateM.Result.ok _) (modifySession_pushSecured h s o _)

end Secure

/-- A secure datagram that is dispatched is so with a session of the secure table. -/
theorem onMessage_secure_eq_ok (hw : h.WellFormed)
    (hm : (received buf peerInfo).isUnencrypted = .ok false) {e : Emission} {h' : SessionManager}
    (hrun : (onMessage A buf peerInfo).run h = .ok e h') :
    ∃ k s, e.session = .secured k ∧ h'.session? (.secured k) = some s := by
  have hdispatch {t : SessionManager} {k : Nat} {u : Session} {msg : Message}
      (ht : t.session? (.secured k) = some u) (hd : (dispatch (.secured k) msg).run t = .ok e h') :
      ∃ k s, e.session = .secured k ∧ h'.session? (.secured k) = some s := by
    cases hcounter : msg.messageCounter with
    | error e' =>
      rw [dispatch_error hcounter] at hd
      cases hd
    | ok counter =>
      rw [dispatch_ok hcounter] at hd
      cases hd
      exact ⟨k, _, rfl, by rw [session?_modifySession, ht]; rfl⟩
  obtain ⟨id, hid⟩ := Message.sessionId_of_le
    ((Nat.le_succ 3).trans (Message.length_of_isUnencrypted hm))
  cases hfound : h.getSecureSession id with
  | some i =>
    obtain ⟨⟨s, hs, -⟩, -⟩ := getSecureSession_eq_some.mp hfound
    obtain ⟨c, hc⟩ := hw.cryptoContext hs
    rw [onSecureMessage_found hm hid hfound hs hc] at hrun
    exact hdispatch hs hrun
  | none =>
    cases hsrc : (received buf peerInfo).sourceNodeId with
    | error e' =>
      obtain ⟨s, o, hnew⟩ := onSecureMessage_new_error (A := A) hm hid hfound hsrc
      rw [hnew] at hrun
      cases hrun
    | ok source =>
      obtain ⟨s, o, -, hnew⟩ := onSecureMessage_new (A := A) hm hid hfound hsrc
      rw [hnew] at hrun
      exact hdispatch (pushSecured_session? h s o) hrun

/-! ## 3. The run of an unsecured datagram -/

section Unsecured

variable {h h' : SessionManager} {msg : Message} {peerInfo : PeerInfo} {ref : SessionRef}

theorem learnPeer_ok {source : Nat} (hsrc : msg.sourceNodeId = .ok source) :
    (learnPeer ref msg).run h =
      .ok () (h.modifySession (fun s => { s with peerNodeId := some source }) ref) := by
  unfold learnPeer
  rw [hsrc]
  exact run_bind_ok (run_lift_ok source h)

/-- The session that learned its peer is the one answered. -/
theorem learnPeer_return_eq_ok {r : SessionRef} {s : Session} (hs : h.session? r = some s)
    (hrun : (do learnPeer r msg; return r : ManagerM SessionRef).run h = .ok ref h') :
    ref = r ∧ ∃ s, h'.session? ref = some s := by
  obtain ⟨_, h1, hlearned, hret⟩ := run_bind_eq_ok hrun
  cases hret
  obtain ⟨source, h2, hsrc, hmod⟩ := run_bind_eq_ok hlearned
  obtain ⟨-, rfl⟩ := run_lift_eq_ok hsrc
  cases hmod
  exact ⟨rfl, _, by rw [session?_modifySession, hs]; rfl⟩

/-- The unsecured session a datagram goes to, once the look-up answered. -/
theorem unsecuredSessionFor_ok {peerNodeId source : Nat} {found : Option Nat}
    (hpeer : unsecuredPeer msg = .ok peerNodeId)
    (hfound : h.getUnsecureSession peerInfo peerNodeId = .ok found)
    (hsrc : msg.sourceNodeId = .ok source) :
    ∃ h', (unsecuredSessionFor msg peerInfo).run h =
      .ok (.unsecured (found.getD h.sessionsUnsecured.length)) h' := by
  unfold unsecuredSessionFor
  rw [hpeer, run_bind_ok (run_lift_ok peerNodeId h), run_bind_ok (run_get h), hfound,
    run_bind_ok (run_lift_ok found h)]
  cases found with
  | some i =>
    dsimp only [Option.getD_some]
    split
    · exact ⟨_, run_bind_ok (learnPeer_ok hsrc)⟩
    · exact ⟨_, rfl⟩
  | none =>
    obtain ⟨s, o, -, hnew⟩ :=
      newSession_unsecured (.nat unsecuredSessionId) (.nat unsecuredSessionId) h
    exact ⟨_, (run_bind_ok hnew).trans (run_bind_ok (learnPeer_ok hsrc))⟩

/-- A look-up that finds a session finds one with the address, and with the node id or none. -/
theorem findUnsecure_eq_ok {peerNodeId i : Nat} {ss : List Session}
    (hf : findUnsecure peerInfo peerNodeId ss = .ok (some i)) : ∃ s, ss[i]? = some s ∧
      s.peerInfo = some peerInfo ∧ (s.peerNodeId = some peerNodeId ∨ s.peerNodeId = none) := by
  induction ss generalizing i with
  | nil => cases hf
  | cons s ss ih =>
    unfold findUnsecure at hf
    split at hf
    · cases hf
    · rename_i info hinfo
      split at hf
      · rename_i hmatch
        obtain ⟨haddress, hport, hid⟩ := hmatch
        cases hf
        refine ⟨s, rfl, ?_, hid⟩
        rw [hinfo, PeerInfo.ext haddress hport]
      · cases hrest : findUnsecure peerInfo peerNodeId ss with
        | error e =>
          rw [hrest] at hf
          cases hf
        | ok found =>
          rw [hrest] at hf
          cases found with
          | none => cases hf
          | some j =>
            cases hf
            exact ih hrest

/-- **Where an unsecured datagram goes**: to the session its look-up finds, or to a new one. -/
theorem unsecuredSessionFor_eq_ok (hrun : (unsecuredSessionFor msg peerInfo).run h = .ok ref h') :
    ∃ peerNodeId found, unsecuredPeer msg = .ok peerNodeId ∧
      h.getUnsecureSession peerInfo peerNodeId = .ok found ∧
      ref = .unsecured (found.getD h.sessionsUnsecured.length) ∧
      ∃ s, h'.session? ref = some s := by
  obtain ⟨peerNodeId, t, hl, hrest⟩ := run_bind_eq_ok hrun
  obtain ⟨hpeer, rfl⟩ := run_lift_eq_ok hl
  rw [run_bind_ok (run_get t)] at hrest
  obtain ⟨found, t', hl', hgo⟩ := run_bind_eq_ok hrest
  obtain ⟨hfound, rfl⟩ := run_lift_eq_ok hl'
  refine ⟨peerNodeId, found, hpeer, hfound, ?_⟩
  cases found with
  | some i =>
    obtain ⟨s, hs, -⟩ := findUnsecure_eq_ok hfound
    dsimp only at hgo
    split at hgo
    · exact learnPeer_return_eq_ok (r := .unsecured i) hs hgo
    · cases hgo
      exact ⟨rfl, s, hs⟩
  | none =>
    obtain ⟨s, o, -, hnew⟩ :=
      newSession_unsecured (.nat unsecuredSessionId) (.nat unsecuredSessionId) t'
    have hlast : ({ t' with sessionsUnsecured := t'.sessionsUnsecured ++ [s], outside := o } :
        SessionManager).session? (.unsecured t'.sessionsUnsecured.length) = some s :=
      List.getElem?_concat_length
    obtain ⟨_, _, hmade, hlearn⟩ := run_bind_eq_ok hgo
    cases hnew.symm.trans hmade
    exact learnPeer_return_eq_ok hlast hlearn

/-- An unsecured datagram that is read through is emitted with its session. -/
theorem onMessage_unsecured_ok {A : Aead} {buf : Bytes} {peerNodeId source counter : Nat}
    {found : Option Nat} (hm : (rawMessage buf peerInfo).isUnencrypted = .ok true)
    (hpeer : unsecuredPeer (rawMessage buf peerInfo) = .ok peerNodeId)
    (hfound : h.getUnsecureSession peerInfo peerNodeId = .ok found)
    (hsrc : (rawMessage buf peerInfo).sourceNodeId = .ok source)
    (hcounter : (rawMessage buf peerInfo).messageCounter = .ok counter) :
    ∃ h', (onMessage A buf peerInfo).run h =
      .ok ⟨.messageUnsecured, rawMessage buf peerInfo,
        .unsecured (found.getD h.sessionsUnsecured.length)⟩ h' := by
  obtain ⟨h1, hrun⟩ := unsecuredSessionFor_ok hpeer hfound hsrc
  have hmsg : (onUnsecuredMessage (rawMessage buf peerInfo) peerInfo).run h = .ok _ _ :=
    (run_bind_ok hrun).trans (run_bind_ok (updatePeer_ok hcounter))
  simp only [onMessage, hm]
  exact ⟨_, (run_bind_ok (run_lift_ok true h)).trans hmsg⟩

/-- What an unsecured datagram that is emitted was read as. -/
theorem onMessage_unsecured_eq_ok {A : Aead} {buf : Bytes} {e : Emission}
    (hm : (rawMessage buf peerInfo).isUnencrypted = .ok true)
    (hrun : (onMessage A buf peerInfo).run h = .ok e h') :
    e.msg = rawMessage buf peerInfo ∧ ∃ peerNodeId found,
      unsecuredPeer (rawMessage buf peerInfo) = .ok peerNodeId ∧
      h.getUnsecureSession peerInfo peerNodeId = .ok found ∧
      e.session = .unsecured (found.getD h.sessionsUnsecured.length) ∧
      ∃ s, h'.session? e.session = some s := by
  simp only [onMessage, hm] at hrun
  rw [run_bind_ok (run_lift_ok true h)] at hrun
  obtain ⟨ref, h1, hfor, hrest⟩ := run_bind_eq_ok hrun
  obtain ⟨_, h2, hup, hret⟩ := run_bind_eq_ok hrest
  cases hret
  obtain ⟨peerNodeId, found, hpeer, hfound, href, s, hs⟩ := unsecuredSessionFor_eq_ok hfor
  refine ⟨rfl, peerNodeId, found, hpeer, hfound, href, ?_⟩
  cases hcounter : (rawMessage buf peerInfo).messageCounter with
  | error e' =>
    rw [updatePeer_error hcounter] at hup
    cases hup
  | ok counter =>
    rw [updatePeer_ok hcounter] at hup
    cases hup
    exact ⟨_, by rw [session?_modifySession, hs]; rfl⟩

end Unsecured

/-! ## 4. The session a datagram is dispatched with -/

/-- The event a datagram ends in and its session; none where the handler throws. -/
def dispatchedWith (A : Aead) (buf : Bytes) (peerInfo : PeerInfo) (h : SessionManager) :
    Option (EventName × SessionRef) :=
  match (onMessage A buf peerInfo).run h with
  | .ok e _ => some (e.name, e.session)
  | .error .. => none

section Dispatch

variable {A : Aead} {h : SessionManager} {buf : Bytes} {peerInfo : PeerInfo} {s : Session}
  {c : SessionCryptoContext}

theorem opened_counter_of_le (hlen : 8 ≤ buf.length) :
    ∃ counter, (opened A s c buf peerInfo).messageCounter = .ok counter := by
  apply Message.messageCounter_of_le
  show 8 ≤ ((MsgCodec.decrypt A buf (c.keys (if s.initiator then 1 else 0))).getD buf).length
  cases hd : MsgCodec.decrypt A buf (c.keys (if s.initiator then 1 else 0)) with
  | none => exact hlen
  | some plain => exact MsgCodec.length_of_decrypt hlen hd

theorem opened_counter_of_short (hA : A.TagSized) (hlen : buf.length < 8) :
    (opened A s c buf peerInfo).messageCounter = .error .rangeError := by
  apply Message.messageCounter_of_short
  show ((MsgCodec.decrypt A buf (c.keys (if s.initiator then 1 else 0))).getD buf).length < 8
  rw [MsgCodec.decrypt_of_short hA (by omega)]
  exact hlen

/-- A datagram addressed to a session: encrypted, with the session's **local** id. -/
structure IsAddressed (s : Session) (id : Nat) (buf : Bytes) (peerInfo : PeerInfo) : Prop where
  encrypted : (received buf peerInfo).isUnencrypted = .ok false
  sessionId : (received buf peerInfo).sessionId = .ok id
  localSessionId : s.localSessionId.strictEqNat id

/-- A datagram that is dispatched goes to the session its id is found with, or to a new one. -/
theorem dispatchedWith_secure (hA : A.TagSized) (hw : h.WellFormed) {id : Nat}
    (hm : (received buf peerInfo).isUnencrypted = .ok false)
    (hid : (received buf peerInfo).sessionId = .ok id) {i : Nat}
    (hi : i < h.sessionsSecured.length) :
    dispatchedWith A buf peerInfo h = some (.message, .secured i) ↔
      8 ≤ buf.length ∧ h.FirstWith id i := by
  rw [← getSecureSession_eq_some]
  unfold dispatchedWith
  cases hfound : h.getSecureSession id with
  | some j =>
    obtain ⟨⟨s, hs, -⟩, -⟩ := getSecureSession_eq_some.mp hfound
    obtain ⟨c, hc⟩ := hw.cryptoContext hs
    rw [onSecureMessage_found hm hid hfound hs hc]
    by_cases hlen : 8 ≤ buf.length
    · obtain ⟨counter, hcounter⟩ := opened_counter_of_le hlen
      rw [dispatch_ok hcounter]
      simp [hlen]
    · rw [dispatch_error (opened_counter_of_short hA (by omega))]
      simp [hlen]
  | none =>
    refine iff_of_false (fun hd => ?_) (by simp)
    cases hsrc : (received buf peerInfo).sourceNodeId with
    | error e =>
      obtain ⟨s, o, hrun⟩ := onSecureMessage_new_error (A := A) hm hid hfound hsrc
      rw [hrun] at hd
      cases hd
    | ok source =>
      obtain ⟨s, o, -, hrun⟩ := onSecureMessage_new (A := A) hm hid hfound hsrc
      rw [hrun] at hd
      cases hcounter : (opened A s .default buf peerInfo).messageCounter with
      | error e =>
        rw [dispatch_error hcounter] at hd
        cases hd
      | ok counter =>
        rw [dispatch_ok hcounter] at hd
        have hlast : h.sessionsSecured.length = i := by simpa using hd
        omega

end Dispatch

/-- **In every run, a secure datagram is dispatched with the session it is addressed to exactly
    when** it has a whole header, and that session is the first whose peer's id is the datagram's. -/
theorem datagrams_dispatched_iff {A : Aead} (hA : A.TagSized) (hkdf : SessionCryptoContext.Hkdf)
    (entropy : Nat → UInt8) (es : List ManagerEvent) :
    Along (step A hkdf) (fun h e => ∀ buf peerInfo i s id, e = .datagram buf peerInfo →
        h.sessionsSecured[i]? = some s → IsAddressed s id buf peerInfo →
        (dispatchedWith A buf peerInfo h = some (.message, .secured i) ↔
          8 ≤ buf.length ∧ h.FirstWith id i)) (init entropy) es := by
  refine along_of_invariant (step A hkdf) (wellFormed_step A hkdf) ?_ (wellFormed_init entropy) es
  rintro h e hw buf peerInfo i s id - hs haddr
  exact dispatchedWith_secure hA hw haddr.encrypted haddr.sessionId
    (List.getElem?_eq_some_iff.mp hs).1

/-! ## 5. A session whose ends took different ids -/

/-- A key derivation for sample runs. -/
def sampleHkdf : SessionCryptoContext.Hkdf := fun _ _ _ len => List.replicate len 7

/-- What the peer sends: its header has the id it was given, which is 1 here. -/
def sampleDatagram : Bytes :=
  MsgCodec.encrypt Aead.keyTag (stampedHeader 1 5 ++ [1, 2, 0, 0, 1, 0]) (List.replicate 16 7)

/-- A node after handshakes that took these local and peer ids. -/
def sampleManager (ids : List (Nat × Nat)) : SessionManager :=
  run (step Aead.keyTag sampleHkdf) (init fun _ => 0)
    (ids.map fun x => .handshake (.nat x.1) (.nat x.2) [])

theorem datagrams_dispatched_iff_sample :
    Along (step Aead.keyTag sampleHkdf) (fun h e => ∀ buf peerInfo i s id,
        e = .datagram buf peerInfo → h.sessionsSecured[i]? = some s → IsAddressed s id buf peerInfo →
        (dispatchedWith Aead.keyTag buf peerInfo h = some (.message, .secured i) ↔
          8 ≤ buf.length ∧ h.FirstWith id i)) (init fun _ => 0)
      [.handshake (.nat 1) (.nat 1) [], .datagram sampleDatagram samplePeer] :=
  datagrams_dispatched_iff Aead.keyTag_tagSized sampleHkdf (fun _ => 0) _

/-- **A datagram that is not dispatched with its session**: the handshake took 1 here and 2 at the
    peer, and the peer's datagram, with id 1, is dispatched with a new session. -/
theorem dispatched_elsewhere :
    ∃ s, (sampleManager [(1, 2)]).sessionsSecured[0]? = some s ∧
      IsAddressed s 1 sampleDatagram samplePeer ∧
      dispatchedWith Aead.keyTag sampleDatagram samplePeer (sampleManager [(1, 2)]) =
        some (.message, .secured 1) :=
  ⟨_, rfl, ⟨rfl, rfl, rfl⟩, rfl⟩

end SessionManager

end Matternode.Messaging
