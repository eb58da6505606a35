/-
  File:      Matternode/Messaging/Authentication.lean
  Subject:   What a secure datagram does that fails authentication.

  `decryptMessage` answers undefined for a message it refuses, and `onSecureMessage` does not look
  at its answer: the session takes the sender's address and counter, and the message goes on to its
  handlers with the bytes it came with. Only a read that throws keeps it from that.

  * `FailsAuthentication` -- a secure datagram that the key of its session refuses;
  * `Untouched` -- every session keeps its peer's address and message counter;
  * `StopsUnheard` -- the cases where a read throws before anything is changed or emitted;
  * `failed_atomic_iff` -- **in every run, a datagram that fails authentication emits no message and
    leaves every session untouched exactly when** it stops unheard.
-/
import Matternode.Messaging.Dispatch

namespace Matternode.Messaging

open Base Js

namespace SessionManager

/-! ## 1. A datagram that is refused -/

/-- The key `decryptMessage` tries on a session with this context. -/
def sessionKey (s : Session) : Option Bytes :=
  s.cryptoContext.map fun c => c.keys (if s.initiator then 1 else 0)

/-- The key a datagram with this id is tried under: of the session it is found with, or of a new
    one. -/
def triedKey (h : SessionManager) (id : Nat) : Option Bytes :=
  match h.getSecureSession id with
  | some i => h.sessionsSecured[i]?.bind sessionKey
  | none => some SessionCryptoContext.default.i2rKey

structure FailsAuthentication (A : Aead) (h : SessionManager) (buf : Bytes) (peerInfo : PeerInfo)
    (id : Nat) : Prop where
  encrypted : (received buf peerInfo).isUnencrypted = .ok false
  sessionId : (received buf peerInfo).sessionId = .ok id
  refused : ∀ key, h.triedKey id = some key → MsgCodec.decrypt A buf key = none

/-- Every session has the address and the counter it had. -/
def Untouched (h h' : SessionManager) : Prop :=
  ∀ ref s, h.session? ref = some s →
    ∃ s', h'.session? ref = some s' ∧ s'.peerInfo = s.peerInfo ∧
      s'.peerMessageCounter = s.peerMessageCounter

theorem Untouched.refl (h : SessionManager) : Untouched h h := fun _ s hs => ⟨s, hs, rfl, rfl⟩

/-- A new session touches none of the others. -/
theorem untouched_pushSecured (h : SessionManager) (s : Session) (o : Outside) :
    Untouched h (h.pushSecured s o) := by
  intro ref t ht
  refine ⟨t, ?_, rfl, rfl⟩
  cases ref with
  | secured i =>
    exact (List.getElem?_append_left (List.getElem?_eq_some_iff.mp ht).1).trans ht
  | unsecured i => exact ht

/-- A session that takes an address is untouched when it had that address. -/
theorem untouched_takePeer_iff {h : SessionManager} {ref : SessionRef} {s : Session}
    (hs : h.session? ref = some s) (peerInfo : Option PeerInfo) :
    Untouched h (h.modifySession (fun s => { s with peerInfo := peerInfo }) ref) ↔
      s.peerInfo = peerInfo := by
  constructor
  · intro h'
    obtain ⟨s', hs', hpeer, -⟩ := h' ref s hs
    rw [session?_modifySession, if_pos rfl, hs] at hs'
    cases hs'
    exact hpeer.symm
  · rintro hpeer ref' t ht
    rw [session?_modifySession, ht]
    refine ⟨_, rfl, ?_⟩
    split
    · rename_i heq
      subst heq
      obtain rfl : s = t := Option.some.inj (hs.symm.trans ht)
      exact ⟨hpeer.symm, rfl⟩
    · exact ⟨rfl, rfl⟩

/-- **The datagrams that change and emit nothing**: a read throws. Where the id is found, only the
    address is taken before; where it is not, only a new session is made. -/
def StopsUnheard (h : SessionManager) (buf : Bytes) (peerInfo : PeerInfo) (id : Nat) : Prop :=
  match h.getSecureSession id with
  | some i => buf.length < 8 ∧ ∃ s, h.sessionsSecured[i]? = some s ∧ s.peerInfo = some peerInfo
  | none => buf.length < 8 ∨ (received buf peerInfo).sflag = .ok true ∧ buf.length < 16

/-! ## 2. What a refused datagram does -/

section Refused

variable {A : Aead} {h : SessionManager} {buf : Bytes} {peerInfo : PeerInfo} {id : Nat}

/-- A message that is refused keeps its bytes. -/
theorem opened_of_refused {s : Session} {c : SessionCryptoContext}
    (hd : MsgCodec.decrypt A buf (c.keys (if s.initiator then 1 else 0)) = none) :
    opened A s c buf peerInfo = received buf peerInfo := by
  unfold opened
  rw [hd]
  rfl

/-- The run of a datagram that is dispatched without a whole header. -/
theorem dispatch_short (ref : SessionRef) (hlen : buf.length < 8) :
    (dispatch ref (received buf peerInfo)).run h =
      .error .rangeError (h.modifySession (fun s => { s with peerInfo := some peerInfo }) ref) :=
  dispatch_error (Message.messageCounter_of_short hlen)

/-- A datagram with a whole header is dispatched. -/
theorem dispatch_whole (h : SessionManager) (peerInfo : PeerInfo) (ref : SessionRef)
    (hlen : 8 ≤ buf.length) :
    ∃ h', (dispatch ref (received buf peerInfo)).run h =
      .ok ⟨.message, received buf peerInfo, ref⟩ h' := by
  obtain ⟨counter, hc⟩ := Message.messageCounter_of_le (m := received buf peerInfo) hlen
  exact ⟨_, dispatch_ok hc⟩

/-- The source node id is missing from a frame that announces one and is shorter than it. -/
theorem sourceNodeId_error (hpos : 0 < buf.length) {e : JsError}
    (hsrc : (received buf peerInfo).sourceNodeId = .error e) :
    (received buf peerInfo).sflag = .ok true ∧ buf.length < 16 := by
  obtain ⟨b, hb⟩ := Message.sflag_of_pos (m := received buf peerInfo) hpos
  by_contra hnot
  have hle : b = true → 16 ≤ buf.length := by
    rintro rfl
    by_contra hlt
    exact hnot ⟨hb, by omega⟩
  obtain ⟨source, hok⟩ := Message.sourceNodeId_of_le hb hle
  rw [hsrc] at hok
  cases hok

end Refused

/-- The datagram emits no message and touches no session there was. -/
def Atomic (A : Aead) (hkdf : SessionCryptoContext.Hkdf) (h : SessionManager) (buf : Bytes)
    (peerInfo : PeerInfo) : Prop :=
  (∀ ref, dispatchedWith A buf peerInfo h ≠ some (.message, ref)) ∧
    Untouched h (step A hkdf h (.datagram buf peerInfo))

section Step

variable {A : Aead} {hkdf : SessionCryptoContext.Hkdf} {h h' : SessionManager} {buf : Bytes}
  {peerInfo : PeerInfo} {id : Nat}

/-- A run that throws is atomic as far as it leaves the sessions. -/
theorem atomic_of_error {e : JsError} (hrun : (onMessage A buf peerInfo).run h = .error e h') :
    Atomic A hkdf h buf peerInfo ↔ Untouched h h' := by
  unfold Atomic dispatchedWith
  dsimp only [step]
  rw [hrun]
  exact ⟨fun hat => hat.2, fun hun => ⟨nofun, hun⟩⟩

/-- A run that emits a message is not. -/
theorem not_atomic_of_message {msg : Message} {ref : SessionRef}
    (hrun : (onMessage A buf peerInfo).run h = .ok ⟨.message, msg, ref⟩ h') :
    ¬ Atomic A hkdf h buf peerInfo := by
  rintro ⟨hno, -⟩
  apply hno ref
  unfold dispatchedWith
  rw [hrun]

/-- One datagram that fails authentication. -/
theorem failed_step_atomic_iff (hw : h.WellFormed)
    (hf : FailsAuthentication A h buf peerInfo id) :
    Atomic A hkdf h buf peerInfo ↔ StopsUnheard h buf peerInfo id := by
  have hlen4 : 4 ≤ buf.length := Message.length_of_isUnencrypted hf.encrypted
  cases hfound : h.getSecureSession id with
  | some i =>
    obtain ⟨⟨s, hs, -⟩, -⟩ := getSecureSession_eq_some.mp hfound
    obtain ⟨c, hc⟩ := hw.cryptoContext hs
    have hkey : h.triedKey id = some (c.keys (if s.initiator then 1 else 0)) := by
      simp only [triedKey, hfound, hs, Option.bind_some, sessionKey, hc, Option.map_some]
    have hrun := onSecureMessage_found (A := A) hf.encrypted hf.sessionId hfound hs hc
    rw [opened_of_refused (hf.refused _ hkey)] at hrun
    simp only [StopsUnheard, hfound, hs]
    by_cases hlen : buf.length < 8
    · rw [dispatch_short _ hlen] at hrun
      have hses : h.session? (.secured i) = some s := hs
      rw [atomic_of_error hrun, untouched_takePeer_iff hses]
      simp [hlen]
    · obtain ⟨h', hok⟩ := dispatch_whole h peerInfo (.secured i)
        (show 8 ≤ buf.length by omega)
      exact iff_of_false (not_atomic_of_message (hrun.trans hok)) fun hstop => hlen hstop.1
  | none =>
    have hkey : h.triedKey id = some SessionCryptoContext.default.i2rKey := by
      simp only [triedKey, hfound]
    simp only [StopsUnheard, hfound]
    cases hsrc : (received buf peerInfo).sourceNodeId with
    | error e =>
      obtain ⟨s, o, hrun⟩ := onSecureMessage_new_error (A := A) hf.encrypted hf.sessionId hfound hsrc
      rw [atomic_of_error hrun]
      exact iff_of_true (untouched_pushSecured h s o)
        (.inr (sourceNodeId_error (by omega) hsrc))
    | ok source =>
      obtain ⟨s, o, hs, hrun⟩ := onSecureMessage_new (A := A) hf.encrypted hf.sessionId hfound hsrc
      have hrefused : MsgCodec.decrypt A buf
          (SessionCryptoContext.default.keys (if s.initiator then 1 else 0)) = none := by
        rw [hs.initiator]
        exact hf.refused _ hkey
      rw [opened_of_refused hrefused] at hrun
      by_cases hlen : buf.length < 8
      · rw [dispatch_short _ hlen, modifySession_pushSecured] at hrun
        rw [atomic_of_error hrun]
        exact iff_of_true (untouched_pushSecured h _ o) (.inl hlen)
      · obtain ⟨h', hok⟩ := dispatch_whole (h.pushSecured s o) peerInfo
          (.secured h.sessionsSecured.length) (show 8 ≤ buf.length by omega)
        refine iff_of_false (not_atomic_of_message (hrun.trans hok)) ?_
        rintro (hshort | ⟨hflag, hshort⟩)
        · exact hlen hshort
        · rw [Message.sourceNodeId_of_short hflag hshort] at hsrc
          cases hsrc

end Step

/-- **In every run, a datagram that fails authentication is atomic exactly when** it stops
    unheard: otherwise its bytes are emitted as a message, or its address is taken. -/
theorem failed_atomic_iff (A : Aead) (hkdf : SessionCryptoContext.Hkdf) (entropy : Nat → UInt8)
    (es : List ManagerEvent) :
    Along (step A hkdf) (fun h e => ∀ buf peerInfo id, e = .datagram buf peerInfo →
        FailsAuthentication A h buf peerInfo id →
        (Atomic A hkdf h buf peerInfo ↔ StopsUnheard h buf peerInfo id)) (init entropy) es := by
  refine along_of_invariant (step A hkdf) (wellFormed_step A hkdf) ?_ (wellFormed_init entropy) es
  rintro h e hw buf peerInfo id - hf
  exact failed_step_atomic_iff hw hf

/-! ## 3. A forged datagram -/

/-- A header with the id of the session, and no tag that fits. -/
def forgedDatagram : Bytes := stampedHeader 1 9 ++ List.replicate 22 0

def otherPeer : PeerInfo := ⟨"::2", 5540⟩

/-- **A forged datagram that is not dropped**: it fails authentication, is emitted as a message of
    the session the handshake made, and its sender's address becomes the session's. -/
theorem forged_not_atomic :
    FailsAuthentication Aead.keyTag (sampleManager [(1, 1)]) forgedDatagram otherPeer 1 ∧
      dispatchedWith Aead.keyTag forgedDatagram otherPeer (sampleManager [(1, 1)]) =
        some (.message, .secured 0) ∧
      ¬ Untouched (sampleManager [(1, 1)])
        (step Aead.keyTag sampleHkdf (sampleManager [(1, 1)])
          (.datagram forgedDatagram otherPeer)) := by
  refine ⟨⟨rfl, rfl, fun key hkey => ?_⟩, rfl, fun h => ?_⟩
  · cases hkey
    rfl
  · obtain ⟨s', hs', hpeer, -⟩ := h (.secured 0) _ rfl
    cases hs'
    cases hpeer

end SessionManager

end Matternode.Messaging
