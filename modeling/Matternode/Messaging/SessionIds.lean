/-
  File:      Matternode/Messaging/SessionIds.lean
  Subject:   SessionManager: the local ids of the secure sessions.

  A handshake brings the id it drew, and a datagram that finds no session brings its own. Neither is
  compared with the ids of the sessions there are: the look-up before a session is made for a
  datagram compares the ids the **peers** gave their sessions.

  * `SameId` -- when two local ids are one;
  * `localIds`, `newIds`, `localIds_step` -- the ids of the table, and those an event brings;
  * `FreshIds` -- none of them is an id of the table;
  * `uniqueIds_iff_fresh` -- **the local ids are pairwise different after exactly the runs whose
    events bring fresh ids**;
  * `repeated_id` -- a datagram of the peer brings the id of its own session again.
-/
import Matternode.Messaging.Dispatch

namespace Matternode.Messaging

open Base Js Session

namespace SessionManager

/-! ## 1. Local ids -/

/-- The two ids are one: the same value, or the same number. -/
def SameId (a b : JsValue) : Prop :=
  a = b ∨ ∃ n : Nat, a.strictEqNat n = true ∧ b.strictEqNat n = true

/-- The local ids of the secure sessions, in the order of the table. -/
def localIds (h : SessionManager) : List JsValue := h.sessionsSecured.map Session.localSessionId

/-- No two secure sessions have one local id. -/
def UniqueIds (h : SessionManager) : Prop := h.localIds.Pairwise fun a b => ¬ SameId a b

/-- The id a secure datagram brings: its own, where no session is found for it. -/
def newIdOf (h : SessionManager) (msg : Message) : Except JsError (List JsValue) := do
  if ← msg.isUnencrypted then return []
  else
    let id ← msg.sessionId
    return if (h.getSecureSession id).isNone then [.nat id] else []

/-- The local ids of the sessions an event makes. -/
def newIds (h : SessionManager) : ManagerEvent → List JsValue
  | .datagram buf peerInfo => (h.newIdOf (rawMessage buf peerInfo)).toOption.getD []
  | .handshake l _ _ => [l]
  | .connect _ _ => []
  | .send _ _ => []

/-- **No session is made with a local id of the table.** -/
def FreshIds (h : SessionManager) (e : ManagerEvent) : Prop :=
  ∀ l ∈ h.newIds e, ∀ l' ∈ h.localIds, ¬ SameId l' l

/-! ## 2. The ids an event brings -/

/-- The local ids are these. -/
abbrev HasIds (ids : List JsValue) (h : SessionManager) : Prop := h.localIds = ids

theorem settled_hasIds (ids : List JsValue) : Settled (HasIds ids) where
  modifySession := by
    intro h f ref hf hh
    cases ref with
    | secured i =>
      exact (map_key_modify fun s hs => (hf s hs).localSessionId).trans hh
    | unsecured i => exact hh
  pushUnsecured _ hh := hh
  outside _ hh := hh

theorem hasIds_newSession (l p : JsValue) (ids : List JsValue) :
    Triple (HasIds ids) (newSession l p) (fun _ => HasIds (ids ++ [l])) (HasIds (ids ++ [l])) := by
  intro h hh
  obtain ⟨s, o, hs, hr⟩ := newSession_secured l p h
  rw [hr]
  show (h.sessionsSecured ++ [s]).map Session.localSessionId = ids ++ [l]
  rw [List.map_append, List.map_singleton, hs.localSessionId]
  exact congrArg (· ++ [l]) hh

theorem localIds_handshake (A : Aead) (hkdf : SessionCryptoContext.Hkdf) (h : SessionManager)
    (l p : JsValue) (secret : Bytes) :
    (step A hkdf h (.handshake l p secret)).localIds = h.localIds ++ [l] :=
  Triple.final (Triple.bind (hasIds_newSession l p h.localIds) fun ref =>
    keeps_initPaseSession (settled_hasIds _) hkdf secret ref) rfl

/-- **A secure datagram brings its id**, where no session is found for it. -/
theorem hasIds_secureSessionFor (h : SessionManager) {msg : Message} {id : Nat}
    (hid : msg.sessionId = .ok id) :
    let ids := h.localIds ++ if (h.getSecureSession id).isNone then [.nat id] else []
    Triple (fun t => t = h) (secureSessionFor msg) (fun _ => HasIds ids) (HasIds ids) := by
  intro ids t ht
  subst ht
  unfold secureSessionFor
  rw [hid, run_bind_ok (run_lift_ok id t), run_bind_ok (run_get t)]
  cases hfound : t.getSecureSession id with
  | some i =>
    have hids : HasIds ids t := by
      simp only [ids, hfound, Option.isNone_some, Bool.false_eq_true, if_false, List.append_nil]
    exact hids
  | none =>
    have hids : ids = t.localIds ++ [.nat id] := by
      simp only [ids, hfound, Option.isNone_none, if_true]
    rw [hids]
    exact Triple.bind (hasIds_newSession _ _ t.localIds) (fun ref =>
      Keeps.bind (keeps_learnPeer (settled_hasIds _) ref msg) fun _ => Keeps.pure _) t rfl

theorem localIds_datagram (A : Aead) (hkdf : SessionCryptoContext.Hkdf) (h : SessionManager)
    (buf : Bytes) (peerInfo : PeerInfo) :
    (step A hkdf h (.datagram buf peerInfo)).localIds =
      h.localIds ++ h.newIds (.datagram buf peerInfo) := by
  show (final ((lift (rawMessage buf peerInfo).isUnencrypted >>= fun unencrypted =>
    if unencrypted then onUnsecuredMessage (rawMessage buf peerInfo) peerInfo
    else onSecureMessage A buf peerInfo : ManagerM Emission).run h)).localIds = _
  simp only [newIds, newIdOf]
  cases hu : (rawMessage buf peerInfo).isUnencrypted with
  | error e =>
    rw [run_bind_error (run_lift_error e h)]
    exact (List.append_nil _).symm
  | ok unencrypted =>
    rw [run_bind_ok (run_lift_ok unencrypted h)]
    cases unencrypted with
    | true =>
      exact ((keeps_onUnsecuredMessage (settled_hasIds _) _ peerInfo).final rfl).trans
        (List.append_nil _).symm
    | false =>
      obtain ⟨id, hid⟩ := Message.sessionId_of_le
        ((Nat.le_succ 3).trans (Message.length_of_isUnencrypted hu))
      rw [hid]
      have hids : (received buf peerInfo).sessionId = .ok id := hid
      exact Triple.final (Triple.bind (hasIds_secureSessionFor h hids) fun ref =>
        keeps_afterSession (settled_hasIds _) A ref _) rfl

/-- **The ids of the table after an event** are those it had, and those the event brings. -/
theorem localIds_step (A : Aead) (hkdf : SessionCryptoContext.Hkdf) (h : SessionManager)
    (e : ManagerEvent) : (step A hkdf h e).localIds = h.localIds ++ h.newIds e := by
  cases e with
  | datagram buf peerInfo => exact localIds_datagram A hkdf h buf peerInfo
  | handshake l p secret => exact localIds_handshake A hkdf h l p secret
  | connect transport peerInfo =>
    exact ((keeps_newSessionTo (settled_hasIds _) transport peerInfo).final rfl).trans
      (List.append_nil _).symm
  | send ref msg =>
    exact ((keeps_sendOn (settled_hasIds _) A ref msg).final rfl).trans (List.append_nil _).symm

/-! ## 3. Runs -/

/-- An event brings one id at most. -/
theorem pairwise_newIds (h : SessionManager) (e : ManagerEvent) :
    (h.newIds e).Pairwise fun a b => ¬ SameId a b := by
  cases e with
  | handshake l p secret => exact List.pairwise_singleton ..
  | connect transport peerInfo => exact List.Pairwise.nil
  | send ref msg => exact List.Pairwise.nil
  | datagram buf peerInfo =>
    simp only [newIds, newIdOf]
    cases (rawMessage buf peerInfo).isUnencrypted with
    | error e => exact List.Pairwise.nil
    | ok unencrypted =>
      cases unencrypted with
      | true => exact List.Pairwise.nil
      | false =>
        cases (rawMessage buf peerInfo).sessionId with
        | error e => exact List.Pairwise.nil
        | ok id =>
          show (if (h.getSecureSession id).isNone then [JsValue.nat id] else []).Pairwise _
          split
          · exact List.pairwise_singleton ..
          · exact List.Pairwise.nil

theorem uniqueIds_step_iff (A : Aead) (hkdf : SessionCryptoContext.Hkdf) (h : SessionManager)
    (e : ManagerEvent) : UniqueIds (step A hkdf h e) ↔ UniqueIds h ∧ FreshIds h e := by
  unfold UniqueIds
  rw [localIds_step, List.pairwise_append]
  constructor
  · rintro ⟨hold, -, hcross⟩
    exact ⟨hold, fun l hl l' hl' => hcross l' hl' l hl⟩
  · rintro ⟨hold, hfresh⟩
    exact ⟨hold, pairwise_newIds h e, fun l' hl' l hl => hfresh l hl l' hl'⟩

theorem uniqueIds_run_iff (A : Aead) (hkdf : SessionCryptoContext.Hkdf) (h : SessionManager)
    (es : List ManagerEvent) :
    UniqueIds (run (step A hkdf) h es) ↔ UniqueIds h ∧ Along (step A hkdf) FreshIds h es := by
  induction es generalizing h with
  | nil => exact (and_iff_left trivial).symm
  | cons e es ih =>
    rw [run_cons, ih, uniqueIds_step_iff]
    exact and_assoc

/-- **The local ids of the secure sessions are pairwise different after exactly the runs** in which no
    session is made with a local id of the table. -/
theorem uniqueIds_iff_fresh (A : Aead) (hkdf : SessionCryptoContext.Hkdf) (entropy : Nat → UInt8)
    (es : List ManagerEvent) :
    UniqueIds (run (step A hkdf) (init entropy) es) ↔
      Along (step A hkdf) FreshIds (init entropy) es :=
  (uniqueIds_run_iff A hkdf (init entropy) es).trans (and_iff_right List.Pairwise.nil)

/-- **The peer's datagram makes a second session with the id of its own**: the handshake took 1 here
    and 2 at the peer, and the datagram, with id 1, is not found. -/
theorem repeated_id :
    ¬ UniqueIds (run (step Aead.keyTag sampleHkdf) (init fun _ => 0)
      [.handshake (.nat 1) (.nat 2) [], .datagram sampleDatagram samplePeer]) := by
  intro hunique
  have hids : (run (step Aead.keyTag sampleHkdf) (init fun _ => 0)
      [.handshake (.nat 1) (.nat 2) [], .datagram sampleDatagram samplePeer]).localIds =
      [.nat 1, .nat 1] := by
    rw [run_cons, run_cons, run_nil, localIds_step, localIds_step]
    rfl
  unfold UniqueIds at hunique
  rw [hids] at hunique
  exact (List.pairwise_cons.mp hunique).1 _ List.mem_cons_self (.inl rfl)

end SessionManager

end Matternode.Messaging
