/-
  File:      Matternode/Messaging/Seats.lean
  Subject:   Every exchange is on a session that there is.

  Sessions are put at the end of their tables and stay there. An exchange is begun on a session that
  was found or made.

  * `SessionManager.Seats` -- the tables have room for the reference;
  * `onMessage_seats` -- **what a datagram comes to is in the tables**;
  * `seated_onDatagram`, `seated_newExchangeTo`, `seated_sendMessage` -- **what a node does leaves its
    exchanges seated**.
-/
import Matternode.Messaging.Correspondence

namespace Matternode.Messaging

open Base Js

/-! ## 1. The tables -/

namespace SessionManager

/-- As far as the reference is to an unsecured session, it is there. -/
def Seats (h : SessionManager) (ref : SessionRef) : Prop :=
  ∀ j, ref = .unsecured j → j < h.sessionsUnsecured.length

variable {L : Nat}

/-- There are that many unsecured sessions at least. -/
def Wide (L : Nat) (h : SessionManager) : Prop := L ≤ h.sessionsUnsecured.length

theorem length_modifySession (h : SessionManager) (f : Session → Session) (ref : SessionRef) :
    (h.modifySession f ref).sessionsUnsecured.length = h.sessionsUnsecured.length := by
  cases ref with
  | secured i => rfl
  | unsecured i => exact List.length_modify ..

theorem Seats.modifySession {h : SessionManager} {ref : SessionRef} (hs : h.Seats ref)
    (f : Session → Session) (ref' : SessionRef) : (h.modifySession f ref').Seats ref :=
  fun j hj => (hs j hj).trans_eq (length_modifySession h f ref').symm

theorem stable_wide (L : Nat) : Stable (Wide L) where
  modifySession ref _ hw := hw.trans_eq (length_modifySession _ _ ref).symm
  pushSecured _ hw := hw
  pushUnsecured _ hw := hw.trans (Nat.le_of_lt (by rw [List.length_append]; exact Nat.lt_succ_self _))
  outside _ hw := hw

theorem seats_learnPeer (ref ref' : SessionRef) (msg : Message) :
    Keeps (fun h => Seats h ref) (learnPeer ref' msg) :=
  Keeps.bind (Keeps.lift _) fun _ => Keeps.modify fun _ hs => hs.modifySession _ _

theorem seats_updatePeer (ref ref' : SessionRef) (msg : Message) :
    Keeps (fun h => Seats h ref) (updatePeer ref' msg) :=
  Keeps.bind (Keeps.modify fun _ hs => hs.modifySession _ _) fun _ =>
    Keeps.bind (Keeps.lift _) fun _ => Keeps.bind (Keeps.modify fun _ hs => hs.modifySession _ _)
      fun _ => Keeps.modify fun _ hs => hs.modifySession _ _

/-- What is found is in the table. -/
theorem findUnsecure_lt {peerInfo : PeerInfo} {peerNodeId : Nat} {l : List Session} {i : Nat}
    (h : findUnsecure peerInfo peerNodeId l = .ok (some i)) : i < l.length := by
  induction l generalizing i with
  | nil => cases h
  | cons s ss ih =>
    unfold findUnsecure at h
    cases hinfo : s.peerInfo with
    | none =>
      rw [hinfo] at h
      cases h
    | some info =>
      rw [hinfo] at h
      dsimp only at h
      split at h
      · cases h
        exact Nat.succ_pos _
      · cases hrest : findUnsecure peerInfo peerNodeId ss with
        | error e =>
          rw [hrest] at h
          cases h
        | ok found =>
          rw [hrest] at h
          cases found with
          | none => cases h
          | some k =>
            cases h
            exact Nat.succ_lt_succ (ih hrest)

/-- The session of an unsecured datagram is found in the table, or is put last there. -/
theorem unsecuredSessionFor_seats (msg : Message) (peerInfo : PeerInfo) :
    Triple (fun _ => True) (unsecuredSessionFor msg peerInfo) (fun ref h => Seats h ref)
      fun _ => True := by
  refine Triple.after_lift (fun _ _ => trivial) fun nodeId _ => ?_
  refine Triple.bind (Q := fun h h' => h' = h) (Triple.get fun _ _ => rfl) fun h => ?_
  refine Triple.bind (Q := fun found h' => h' = h ∧ h.getUnsecureSession peerInfo nodeId = .ok found)
    (Triple.lift (fun found s hfound hs => ⟨hs, hfound⟩) fun _ _ _ _ => trivial) fun found => ?_
  cases found with
  | some i =>
    have hseats (s : SessionManager) (hs : s = h ∧ h.getUnsecureSession peerInfo nodeId = .ok (some i)) :
        s.Seats (.unsecured i) := by
      obtain ⟨rfl, hfound⟩ := hs
      intro j hj
      cases hj
      exact findUnsecure_lt hfound
    dsimp only
    split
    · refine Triple.bind (Q := fun _ h' => Seats h' (.unsecured i)) ?_
        fun _ => Triple.pure _ fun _ hs => hs
      exact (seats_learnPeer (.unsecured i) (.unsecured i) msg).conseq hseats (fun _ _ hs => hs)
        fun _ _ => trivial
    · exact Triple.pure _ hseats
  | none =>
    have hnew : Triple (fun _ => True) newUnsecuredSession (fun ref h => Seats h ref) fun _ => True := by
      intro h₀ _
      obtain ⟨s, o, -, hrun⟩ := newSession_unsecured (.nat unsecuredSessionId)
        (.nat unsecuredSessionId) h₀
      rw [show newUnsecuredSession.run h₀ = _ from hrun]
      intro j hj
      cases hj
      show _ < (h₀.sessionsUnsecured ++ [s]).length
      rw [List.length_append]
      exact Nat.lt_succ_self _
    refine Triple.bind (Q := fun ref h => Seats h ref)
      (hnew.conseq (fun _ _ => trivial) (fun _ _ hs => hs) fun _ hs => hs) fun ref => ?_
    refine Triple.bind (Q := fun _ h' => Seats h' ref) ?_ fun _ => Triple.pure _ fun _ hs => hs
    exact (seats_learnPeer ref ref msg).conseq (fun _ hs => hs) (fun _ _ hs => hs) fun _ _ => trivial

/-- **What a datagram comes to is in the tables.** -/
theorem onMessage_seats (A : Aead) (buf : Bytes) (peerInfo : PeerInfo) :
    Triple (fun _ => True) (onMessage A buf peerInfo) (fun e h => Seats h e.session)
      fun _ => True := by
  refine Triple.after_lift (fun _ _ => trivial) fun isUnencrypted _ => ?_
  cases isUnencrypted with
  | true =>
    refine Triple.bind (unsecuredSessionFor_seats _ peerInfo) fun ref => ?_
    refine Triple.bind (Q := fun _ h' => Seats h' ref) ?_ fun _ => Triple.pure _ fun _ hs => hs
    exact (seats_updatePeer ref ref _).conseq (fun _ hs => hs) (fun _ _ hs => hs) fun _ _ => trivial
  | false =>
    -- the session is of the other table
    have hsecured : Triple (fun _ => True) (secureSessionFor (received buf peerInfo))
        (fun ref _ => ∃ i, ref = .secured i) fun _ => True := by
      refine Triple.after_lift (fun _ _ => trivial) fun sessionId _ => ?_
      refine Triple.bind (Q := fun _ _ => True) (Triple.get fun _ _ => trivial) fun h => ?_
      cases h.getSecureSession sessionId with
      | some i => exact Triple.pure _ fun _ _ => ⟨i, rfl⟩
      | none =>
        refine Triple.bind (Q := fun ref _ => ∃ i, ref = .secured i) ?_ fun ref => ?_
        · intro h₀ _
          obtain ⟨s, o, -, hrun⟩ := newSession_secured (.nat sessionId) (.nat sessionId) h₀
          rw [hrun]
          exact ⟨_, rfl⟩
        · refine Triple.bind (Q := fun _ _ => ∃ i, ref = .secured i) ?_
            fun _ => Triple.pure _ fun _ hs => hs
          exact Triple.after_lift (fun _ _ => trivial) fun _ _ => Triple.modify fun _ hs => hs
    refine Triple.bind hsecured fun ref => ?_
    have hseats (h : SessionManager) (hs : ∃ i, ref = .secured i) : Seats h ref := by
      obtain ⟨i, rfl⟩ := hs
      intro j hj
      cases hj
    refine Triple.conseq (P := fun _ => ∃ i, ref = .secured i) (Q := fun e h => Seats h e.session)
      (E := fun _ => True) ?_ (fun _ hs => hs) (fun _ _ hs => hs) fun _ _ => trivial
    refine Triple.bind (Q := fun _ _ => ∃ i, ref = .secured i) (Triple.get fun _ hs => hs) fun h => ?_
    refine Triple.after_lift (fun _ _ => trivial) fun decrypted _ => ?_
    refine Triple.bind (Q := fun _ h' => Seats h' ref) ?_ fun _ => Triple.pure _ fun _ hs => hs
    exact (seats_updatePeer ref ref _).conseq hseats (fun _ _ hs => hs) fun _ _ => trivial

end SessionManager

/-! ## 2. A node -/

namespace Node

/-- The exchanges are seated, with that many unsecured sessions at least. -/
theorem seated_iff {n : Node} : n.Seated ↔ ∀ ex ∈ n.exchanges, n.sessions.Seats ex.session := by
  unfold Seated SessionManager.Seats contacts keys
  simp only [List.length_map, List.forall_mem_map]
  rfl

theorem Seated.wider {n n' : Node} (h : n.Seated) (hexchanges : n'.keys = n.keys)
    (hwide : n.contacts.length ≤ n'.contacts.length) : n'.Seated := by
  intro key hkey j hj
  exact (h key (hexchanges ▸ hkey) j hj).trans_le hwide

/-- An exchange more, on a session of the tables. -/
theorem Seated.append {n : Node} (h : n.Seated) {ex : Exchange} (hex : n.sessions.Seats ex.session)
    (nextExchangeId : Nat) :
    ({ n with exchanges := n.exchanges ++ [ex], nextExchangeId } : Node).Seated := by
  rw [seated_iff] at h ⊢
  intro ex' hmem
  rcases List.mem_append.mp hmem with hmem | hmem
  · exact h ex' hmem
  · rw [List.mem_singleton.mp hmem]
    exact hex

theorem seated_modifyExchange {n : Node} (h : n.Seated) (i : Nat) {f : Exchange → Exchange}
    (hf : ∀ ex, (f ex).session = ex.session) : (n.modifyExchange i f).Seated := by
  rw [seated_iff] at h ⊢
  intro ex hex
  obtain ⟨k, hk, hget⟩ := List.mem_iff_getElem.mp hex
  have hlt : k < n.exchanges.length := (List.length_modify ..).symm ▸ hk
  rw [← hget, show (n.modifyExchange i f).exchanges[k] = _ from List.getElem_modify ..]
  split
  · rw [hf]
    exact h _ (List.getElem_mem hlt)
  · exact h _ (List.getElem_mem hlt)

/-- Whatever leaves the exchanges and loses no session. -/
theorem seated_of_final {α : Type} {m : NodeM α}
    (hexchanges : ∀ xs, Keeps (fun n => n.exchanges = xs) m)
    (hwide : ∀ L, Keeps (fun n => SessionManager.Wide L n.sessions) m) : Keeps Seated m := by
  refine Keeps.of_final fun n hn => hn.wider ?_ ?_
  · exact congrArg (List.map Exchange.key) ((hexchanges n.exchanges).final rfl)
  · have hle := (hwide n.contacts.length).final (s := n) (le_of_eq (List.length_map ..))
    exact hle.trans_eq (List.length_map ..).symm

theorem seated_sendMessage (A : Aead) (i : Nat) (msg : Message) :
    Keeps Seated (sendMessage A i msg) :=
  seated_of_final (exchanges_sendMessage A i msg) fun L =>
    keeps_sendMessage (SessionManager.stable_wide L) A i msg

theorem seated_newExchangeTo (transport : Transport) (peerInfo : PeerInfo) :
    Keeps Seated (newExchangeTo transport peerInfo) := by
  intro n hn
  obtain ⟨s, o, hrun⟩ := newExchangeTo_run transport peerInfo n
  rw [hrun]
  let sessions := SessionManager.modifySession { n.sessions with
      sessionsUnsecured := n.sessions.sessionsUnsecured ++ [s], outside := o }
    (fun s => { s with transport := transport, peerInfo := some peerInfo })
    (.unsecured n.sessions.sessionsUnsecured.length)
  have hlen : sessions.sessionsUnsecured.length = n.sessions.sessionsUnsecured.length + 1 :=
    (SessionManager.length_modifySession _ _ _).trans (List.length_append ..)
  have hold : ({ n with sessions } : Node).Seated :=
    hn.wider rfl (by unfold contacts; rw [List.length_map, List.length_map, hlen]; exact Nat.le_succ _)
  refine hold.append (fun j hj => ?_) _
  cases hj
  exact (Nat.lt_succ_self _).trans_eq hlen.symm

/-- **A datagram begins an exchange on a session of the tables only.** -/
theorem seated_onDatagram (A : Aead) (buf : Bytes) (peerInfo : PeerInfo) :
    Keeps Seated (onDatagram A buf peerInfo) := by
  have hmessage : Triple Seated (onSessions (SessionManager.onMessage A buf peerInfo))
      (fun e n => n.Seated ∧ n.sessions.Seats e.session) Seated := by
    have hkeeps : Keeps Seated (onSessions (SessionManager.onMessage A buf peerInfo)) :=
      seated_of_final (fun xs => Keeps.zoom _ fun _ _ hn => hn) fun L =>
        keeps_onSessions (SessionManager.keeps_onMessage (SessionManager.stable_wide L) A buf peerInfo)
    have hseats : Triple (fun _ : Node => True)
        (onSessions (SessionManager.onMessage A buf peerInfo))
        (fun e n => n.sessions.Seats e.session) fun _ => True :=
      Triple.zoom (fun n e h _ hr => (SessionManager.onMessage_seats A buf peerInfo).ok trivial hr)
        fun _ _ _ _ _ => trivial
    exact (hkeeps.and hseats).conseq (fun _ hn => ⟨hn, trivial⟩) (fun _ _ hn => hn) fun _ hn => hn.1
  refine Triple.bind hmessage fun e => Triple.of_final fun n hn => ?_
  obtain ⟨hn, hseats⟩ := hn
  rcases onSessionMessage_cases n e.msg e.session with ⟨i, ex, -, -, counter, -, hrun⟩ |
    ⟨exchangeId, protocolId, counter, rflag, -, -, -, hrun⟩ | hrun | ⟨err, hrun⟩
  · rw [hrun]
    exact seated_modifyExchange hn i fun _ => rfl
  · rw [hrun]
    exact hn.append hseats _
  · rw [hrun]
    exact hn
  · rw [hrun]
    exact hn

theorem seated_init (entropy : Nat → UInt8) : (init entropy).Seated :=
  fun _ hkey => absurd hkey List.not_mem_nil

end Node

end Matternode.Messaging
