/-
  File:      Matternode/Messaging/Identities.lean
  Subject:   What the secure sessions of a node were made with, their ids and their keys.

  A session keeps its ids and keys whatever is sent on it and whatever comes for it, and its table
  only grows. Only two things make one: a handshake, and a datagram whose id no session has.

  * `Identity`, `SessionManager.identities` -- the ids and keys of the secure sessions, in order;
  * `keeps_identities_sendOn`, `keeps_identities_updatePeer`, … -- **what leaves them as they are**;
  * `MadeBy`, `onMessage_identities`, `Node.onDatagram_identities` -- **what a datagram adds**.
-/
import Matternode.Messaging.Searchable

namespace Matternode.Messaging

open Base Js

/-! ## 1. Identities -/

/-- What a session is made with: its ids, and then its keys. -/
structure Identity where
  localSessionId : JsValue
  peerSessionId : JsValue
  cryptoContext : Option SessionCryptoContext

def Session.identity (s : Session) : Identity :=
  ⟨s.localSessionId, s.peerSessionId, s.cryptoContext⟩

theorem Session.SameIdentity.identity {s t : Session} (h : Session.SameIdentity s t) :
    t.identity = s.identity := by
  unfold Session.identity
  rw [h.localSessionId, h.peerSessionId, h.cryptoContext]

namespace SessionManager

/-- What the secure sessions were made with. -/
def identities (h : SessionManager) : List Identity := h.sessionsSecured.map Session.identity

/-- A session that keeps its identity leaves those of the table. -/
theorem identities_modifySession {h : SessionManager} {ref : SessionRef} {f : Session → Session}
    (hf : ∀ s, h.session? ref = some s → (f s).identity = s.identity) :
    (h.modifySession f ref).identities = h.identities := by
  cases ref with
  | unsecured i => rfl
  | secured i => exact map_key_modify hf

/-! ## 2. What leaves them -/

section Leaving

variable {G : List Identity → Prop}

theorem keeps_identities_modify {f : Session → Session} (ref : SessionRef)
    (hf : ∀ s, (f s).identity = s.identity) :
    Keeps (fun h => G h.identities) (modify fun h => h.modifySession f ref : ManagerM PUnit) := by
  refine Keeps.modify fun h hh => ?_
  rw [identities_modifySession fun s _ => hf s]
  exact hh

theorem keeps_identities_updatePeer (ref : SessionRef) (msg : Message) :
    Keeps (fun h => G h.identities) (updatePeer ref msg) :=
  Keeps.bind (keeps_identities_modify ref fun _ => rfl) fun _ => Keeps.bind (Keeps.lift _) fun _ =>
    Keeps.bind (keeps_identities_modify ref fun _ => rfl) fun _ =>
      keeps_identities_modify ref fun _ => rfl

theorem keeps_identities_learnPeer (ref : SessionRef) (msg : Message) :
    Keeps (fun h => G h.identities) (learnPeer ref msg) :=
  Keeps.bind (Keeps.lift _) fun _ => keeps_identities_modify ref fun _ => rfl

theorem keeps_identities_newUnsecuredSession :
    Keeps (fun h => G h.identities) newUnsecuredSession := by
  intro h hh
  obtain ⟨s, o, -, hr⟩ := newSession_unsecured (.nat unsecuredSessionId) (.nat unsecuredSessionId) h
  rw [newUnsecuredSession, hr]
  exact hh

theorem keeps_identities_onUnsecuredMessage (msg : Message) (peerInfo : PeerInfo) :
    Keeps (fun h => G h.identities) (onUnsecuredMessage msg peerInfo) := by
  refine Keeps.bind (Keeps.bind (Keeps.lift _) fun peerNodeId => Keeps.bind Keeps.get fun h =>
    Keeps.bind (Keeps.lift _) fun found => ?_) fun ref =>
      Keeps.bind (keeps_identities_updatePeer ref msg) fun _ => Keeps.pure _
  cases found with
  | some i =>
    dsimp only
    split
    · exact Keeps.bind (keeps_identities_learnPeer _ msg) fun _ => Keeps.pure _
    · exact Keeps.pure _
  | none =>
    exact Keeps.bind keeps_identities_newUnsecuredSession fun ref =>
      Keeps.bind (keeps_identities_learnPeer ref msg) fun _ => Keeps.pure _

theorem keeps_identities_sendOn (A : Aead) (ref : SessionRef) (msg : Message) :
    Keeps (fun h => G h.identities) (sendOn A ref msg) := by
  refine Triple.bind (Q := fun t h => t = h ∧ G h.identities) (Triple.get fun h hh => ⟨rfl, hh⟩)
    fun t => ?_
  cases hs : t.session? ref with
  | none => exact Triple.throw _ fun h hh => hh.2
  | some s =>
    have hset (h : SessionManager) (st : SendState) (hh : t = h ∧ G h.identities)
        (hsame : Session.Same s st) :
        G (h.modifySession (fun _ => st.session) ref).identities := by
      obtain ⟨rfl, hh⟩ := hh
      rw [identities_modifySession fun s' hs' => ?_]
      · exact hh
      · rw [← Option.some.inj (hs.symm.trans hs')]
        exact hsame.identity
    have hsends := Session.same_sendMessage A s msg
    exact Triple.zoom (fun h _ st hh hr => hset h st hh (hsends.ok (Session.SameIdentity.refl s) hr))
      fun h _ st hh hr => hset h st hh (hsends.error (Session.SameIdentity.refl s) hr)

end Leaving

end SessionManager

/-! ## 3. What a datagram adds -/

/-- **As a datagram makes a session** beside those of `ids`: it is encrypted, none of them has its
    session id for its peer's, and the new one has that id twice, and the keys of a new context. -/
def Identity.MadeBy (buf : Bytes) (peerInfo : PeerInfo) (ids : List Identity) (identity : Identity) :
    Prop :=
  ∃ id, (rawMessage buf peerInfo).isUnencrypted = .ok false ∧
    (rawMessage buf peerInfo).sessionId = .ok id ∧
    (∀ other ∈ ids, other.peerSessionId.strictEqNat id = false) ∧
    identity = ⟨.nat id, .nat id, some .default⟩

/-- The identities are as they were, or there is one more, made as `made` says. -/
def Grows (made : Identity → Prop) (ids ids' : List Identity) : Prop :=
  ids' = ids ∨ ∃ identity, made identity ∧ ids' = ids ++ [identity]

/-- An id that the search does not find is no session's peer id. -/
theorem SessionManager.unknown_of_getSecureSession {h : SessionManager} {id : Nat}
    (hnone : h.getSecureSession id = none) :
    ∀ other ∈ h.identities, other.peerSessionId.strictEqNat id = false := by
  intro other hother
  obtain ⟨s, hs, rfl⟩ := List.mem_map.mp hother
  exact List.findIdx?_eq_none_iff.mp hnone s hs

theorem SessionManager.secureSessionFor_identities {made : Identity → Prop} (msg : Message)
    (ids : List Identity)
    (hmade : ∀ id, msg.sessionId = .ok id →
      (∀ other ∈ ids, other.peerSessionId.strictEqNat id = false) →
      made ⟨.nat id, .nat id, some .default⟩) :
    Triple (fun h => h.identities = ids) (secureSessionFor msg)
      (fun _ h => Grows made ids h.identities) fun h => Grows made ids h.identities := by
  refine Triple.after_lift (fun _ hh => .inl hh) fun sessionId hid => ?_
  refine Triple.bind (Q := fun t h => t = h ∧ h.identities = ids)
    (Triple.get fun h hh => ⟨rfl, hh⟩) fun t => ?_
  cases hfound : t.getSecureSession sessionId with
  | some i => exact Triple.pure _ fun _ hh => .inl hh.2
  | none =>
    refine Triple.bind (Q := fun _ (h : SessionManager) => Grows made ids h.identities) ?_
      fun ref => Keeps.bind (keeps_identities_learnPeer (G := Grows made ids) ref msg) fun _ =>
        Keeps.pure _
    rintro h ⟨rfl, hh⟩
    obtain ⟨s, o, hs, hr⟩ := newSession_secured (.nat sessionId) (.nat sessionId) t
    rw [hr]
    have hidentity : s.identity = ⟨.nat sessionId, .nat sessionId, some .default⟩ := by
      unfold Session.identity
      rw [hs.localSessionId, hs.peerSessionId, hs.cryptoContext]
      rfl
    refine .inr ⟨s.identity, ?_, ?_⟩
    · rw [hidentity]
      exact hmade sessionId hid (hh ▸ unknown_of_getSecureSession hfound)
    · show (t.sessionsSecured ++ [s]).map Session.identity = _
      rw [List.map_append, List.map_singleton]
      exact congrArg (· ++ [s.identity]) hh

/-- **A datagram makes one secure session at most**, where no session has its id. -/
theorem SessionManager.onMessage_identities (A : Aead) (buf : Bytes) (peerInfo : PeerInfo)
    (ids : List Identity) :
    Triple (fun h => h.identities = ids) (onMessage A buf peerInfo)
      (fun _ h => Grows (Identity.MadeBy buf peerInfo ids) ids h.identities)
      fun h => Grows (Identity.MadeBy buf peerInfo ids) ids h.identities := by
  refine Triple.after_lift (fun _ hh => .inl hh) fun unencrypted hflag => ?_
  cases unencrypted with
  | true =>
    exact Triple.conseq (keeps_identities_onUnsecuredMessage (G := (· = ids)) _ peerInfo)
      (fun _ hh => hh) (fun _ _ hh => .inl hh) fun _ hh => .inl hh
  | false =>
    have hmade (id : Nat) (hid : (received buf peerInfo).sessionId = .ok id)
        (hunknown : ∀ other ∈ ids, other.peerSessionId.strictEqNat id = false) :
        Identity.MadeBy buf peerInfo ids ⟨.nat id, .nat id, some .default⟩ :=
      ⟨id, hflag, hid, hunknown, rfl⟩
    exact Triple.bind (secureSessionFor_identities _ ids hmade) fun ref =>
      Keeps.bind Keeps.get fun _ => Keeps.bind (Keeps.lift _) fun _ =>
        Keeps.bind (keeps_identities_updatePeer (G := Grows _ ids) ref _) fun _ => Keeps.pure _

namespace Node

/-- What the secure sessions were made with. -/
def identities (n : Node) : List Identity := n.sessions.identities

@[simp] theorem length_identities (n : Node) :
    n.identities.length = n.sessions.sessionsSecured.length :=
  List.length_map ..

/-- What is sent leaves the identities. -/
theorem identities_sendMessage (A : Aead) (i : Nat) (msg : Message) (l : List Identity) :
    Keeps (fun n => n.identities = l) (sendMessage A i msg) := by
  refine Keeps.bind Keeps.get fun n => ?_
  cases n.exchanges[i]? with
  | none => exact Keeps.throw _
  | some ex =>
    exact Keeps.bind (Keeps.lift _) fun msg => Keeps.bind (Keeps.lift _) fun _ =>
      Keeps.zoom_of (SessionManager.keeps_identities_sendOn (G := (· = l)) A ex.session msg)
        (fun _ hn => hn) fun _ _ _ hn => hn

/-- **What a datagram adds to the secure sessions of a node.** -/
theorem onDatagram_identities (A : Aead) (buf : Bytes) (peerInfo : PeerInfo) (ids : List Identity) :
    Triple (fun n => n.identities = ids) (onDatagram A buf peerInfo)
      (fun _ n => Grows (Identity.MadeBy buf peerInfo ids) ids n.identities)
      fun n => Grows (Identity.MadeBy buf peerInfo ids) ids n.identities := by
  have hmessage := SessionManager.onMessage_identities A buf peerInfo ids
  refine Triple.bind (Q := fun _ (n : Node) => Grows (Identity.MadeBy buf peerInfo ids) ids n.identities)
    (Triple.zoom (fun n e h hn hr => hmessage.ok hn hr) fun n e h hn hr => hmessage.error hn hr)
    fun e => Keeps.of_final fun n hn => ?_
  have hsame := sessions_onSessionMessage e.msg e.session n
  unfold identities
  rw [hsame]
  exact hn

/-- A new exchange to an address leaves the identities. -/
theorem identities_newExchangeTo (transport : Transport) (peerInfo : PeerInfo) (l : List Identity) :
    Keeps (fun n => n.identities = l) (newExchangeTo transport peerInfo) := by
  refine Keeps.bind (Keeps.bind ?_ fun ref => Keeps.bind (fun _ hn => hn) fun _ _ hn => hn)
    fun i => Keeps.bind Keeps.get fun n => ?_
  · exact Keeps.zoom_of (SessionManager.keeps_identities_newUnsecuredSession (G := (· = l)))
      (fun _ hn => hn) fun _ _ _ hn => hn
  · cases n.exchanges[i]? with
    | none => exact Keeps.throw _
    | some ex =>
      refine Keeps.bind (Keeps.modify fun n hn => ?_) fun _ => Keeps.pure _
      refine Eq.trans (SessionManager.identities_modifySession ?_) hn
      exact fun _ _ => rfl

/-! ## 4. What is added to the exchanges -/

/-- What is sent leaves the table of exchanges. -/
theorem exchanges_sendMessage (A : Aead) (i : Nat) (msg : Message) (xs : List Exchange) :
    Keeps (fun n => n.exchanges = xs) (sendMessage A i msg) := by
  refine Keeps.bind Keeps.get fun n => ?_
  cases n.exchanges[i]? with
  | none => exact Keeps.throw _
  | some ex =>
    exact Keeps.bind (Keeps.lift _) fun msg => Keeps.bind (Keeps.lift _) fun _ =>
      Keeps.zoom _ fun _ _ hn => hn

/-- **A message of a protocol is the first of an exchange**, which stands last in its table. -/
theorem exchanges_onDatagram (A : Aead) (buf : Bytes) (peerInfo : PeerInfo) (k : Nat) :
    Triple (fun n => n.exchanges.length = k) (onDatagram A buf peerInfo)
      (fun d n => k ≤ n.exchanges.length ∧ ∀ protocolId msg i, d = .protocol protocolId msg i →
        i = k ∧ n.exchanges.length = k + 1)
      fun n => k ≤ n.exchanges.length := by
  refine Keeps.after (Keeps.zoom _ fun _ _ hn => hn) (fun n hn => hn.ge) fun e => ?_
  intro n hn
  rcases onSessionMessage_cases n e.msg e.session with ⟨i, ex, -, -, counter, -, hrun⟩ |
    ⟨exchangeId, protocolId, counter, rflag, -, -, -, hrun⟩ | hrun | ⟨err, hrun⟩
  · rw [hrun]
    refine ⟨hn.ge.trans_eq (List.length_modify ..).symm, ?_⟩
    intro protocolId msg i h
    cases h
  · rw [hrun]
    have hlen : (n.exchanges ++ [remoteExchange e.session exchangeId counter rflag]).length =
        k + 1 := by
      rw [List.length_append, List.length_singleton, hn]
    refine ⟨(Nat.le_succ k).trans_eq hlen.symm, ?_⟩
    intro protocolId' msg i h
    cases h
    exact ⟨hn, hlen⟩
  · rw [hrun]
    refine ⟨hn.ge, ?_⟩
    intro protocolId msg i h
    cases h
  · rw [hrun]
    exact hn.ge

/-- A new exchange to an address stands last in its table. -/
theorem exchanges_newExchangeTo (transport : Transport) (peerInfo : PeerInfo) (k : Nat) :
    Triple (fun n => n.exchanges.length = k) (newExchangeTo transport peerInfo)
      (fun i n => i = k ∧ n.exchanges.length = k + 1) fun n => k ≤ n.exchanges.length := by
  have hnew : Triple (fun n => n.exchanges.length = k) (newExchange)
      (fun i n => i = k ∧ n.exchanges.length = k + 1) fun n => k ≤ n.exchanges.length := by
    refine Keeps.after (Keeps.zoom _ fun _ _ hn => hn) (fun n hn => hn.ge) fun ref => ?_
    intro n hn
    have hlen : (n.exchanges ++ [n.localExchange ref]).length = k + 1 := by
      rw [List.length_append, List.length_singleton, hn]
    exact ⟨hn, hlen⟩
  refine Triple.bind hnew fun i => Keeps.after Keeps.get (fun n hn => ?_) fun n => ?_
  · omega
  · cases n.exchanges[i]? with
    | none => exact Triple.throw _ fun n hn => by omega
    | some ex =>
      exact Triple.bind (Q := fun _ n => i = k ∧ n.exchanges.length = k + 1)
        (Triple.modify fun _ hn => hn) fun _ => Triple.pure _ fun _ hn => hn

/-! ## 5. Changes of a node -/

/-- The node with something else outside. -/
def withOutside (n : Node) (o : Outside) : Node :=
  { n with sessions := { n.sessions with outside := o } }

def withEntropy (n : Node) (e : Nat → UInt8) : Node :=
  n.withOutside { n.sessions.outside with entropy := e }

/-- A secure session more. -/
def push (n : Node) (s : Session) : Node :=
  { n with sessions := { n.sessions with sessionsSecured := n.sessions.sessionsSecured ++ [s] } }

/-- A session after something was sent on it. -/
def sentOn (n : Node) (ref : SessionRef) (st : SendState) : Node :=
  { n with sessions :=
    { n.sessions.modifySession (fun _ => st.session) ref with outside := st.outside } }

theorem identities_push (n : Node) (s : Session) :
    (n.push s).identities = n.identities ++ [s.identity] := by
  unfold identities push SessionManager.identities
  rw [List.map_append, List.map_singleton]

end Node

end Matternode.Messaging
