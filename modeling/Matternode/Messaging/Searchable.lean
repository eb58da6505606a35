/-
  File:      Matternode/Messaging/Searchable.lean
  Subject:   The addresses of the unsecured sessions: `getUnsecureSession` can always search.

  The search reads the address of each session and throws where there is none. A new session stands
  in the table before it has its address, in `onUnsecuredMessage` and in the shell's `pase`; what
  comes in between must not throw.

  * `Searchable` -- every unsecured session has its address; `SearchableBut` -- all but one;
  * `searchable_onMessage` -- a datagram of any bytes keeps the table searchable: once its I flag
    is read, its source node id can be;
  * `searchable_step` -- **so does every event of a node**.
-/
import Matternode.Messaging.Routing

namespace Matternode.Messaging

open Base Js Session

namespace SessionManager

/-! ## 1. Searching -/

/-- Every unsecured session has its address. -/
def Searchable (h : SessionManager) : Prop := ∀ s ∈ h.sessionsUnsecured, s.peerInfo.isSome = true

/-- Every unsecured session but perhaps this one has its address. -/
def SearchableBut (ref : SessionRef) (h : SessionManager) : Prop :=
  ∀ i s, h.sessionsUnsecured[i]? = some s → SessionRef.unsecured i ≠ ref → s.peerInfo.isSome = true

/-- **A searchable table is searched to an answer.** -/
theorem Searchable.getUnsecureSession {h : SessionManager} (hh : h.Searchable) (peerInfo : PeerInfo)
    (peerNodeId : Nat) : ∃ found, h.getUnsecureSession peerInfo peerNodeId = .ok found := by
  have hlist : ∀ l : List Session, (∀ s ∈ l, s.peerInfo.isSome = true) →
      ∃ found, findUnsecure peerInfo peerNodeId l = .ok found := by
    intro l hl
    induction l with
    | nil => exact ⟨none, rfl⟩
    | cons s ss ih =>
      obtain ⟨found, hfound⟩ := ih fun t ht => hl t (List.mem_cons_of_mem s ht)
      obtain ⟨info, hinfo⟩ := Option.isSome_iff_exists.mp (hl s List.mem_cons_self)
      unfold findUnsecure
      rw [hinfo, hfound]
      dsimp only
      split
      · exact ⟨_, rfl⟩
      · exact ⟨_, rfl⟩
  exact hlist _ hh

theorem searchable_init (entropy : Nat → UInt8) : (init entropy).Searchable := nofun

theorem Searchable.but {h : SessionManager} (hh : h.Searchable) (ref : SessionRef) :
    h.SearchableBut ref :=
  fun _ s hs _ => hh s (List.mem_of_getElem? hs)

/-- A change that leaves the address of a session. -/
theorem Searchable.modifySession {h : SessionManager} (hh : h.Searchable) {f : Session → Session}
    {ref : SessionRef} (hf : ∀ s, h.session? ref = some s → s.peerInfo.isSome = true →
      (f s).peerInfo.isSome = true) : (h.modifySession f ref).Searchable := by
  cases ref with
  | secured i => exact hh
  | unsecured i => exact forall_mem_modify (fun s hs hsome => hf s hs hsome) hh

/-- A new session is the one without an address. -/
theorem Searchable.pushUnsecured {h : SessionManager} (hh : h.Searchable) (s : Session)
    (o : Outside) : SearchableBut (.unsecured h.sessionsUnsecured.length)
      { h with sessionsUnsecured := h.sessionsUnsecured ++ [s], outside := o } := by
  intro i t ht hne
  have hlt : i < (h.sessionsUnsecured ++ [s]).length := (List.getElem?_eq_some_iff.mp ht).1
  rw [List.length_append, List.length_singleton] at hlt
  have hi : i ≠ h.sessionsUnsecured.length := fun heq => hne (congrArg SessionRef.unsecured heq)
  rw [List.getElem?_append_left (by omega)] at ht
  exact hh t (List.mem_of_getElem? ht)

/-- The session gets its address. -/
theorem SearchableBut.setPeerInfo {h : SessionManager} {ref : SessionRef}
    (hh : h.SearchableBut ref) {f : Session → Session}
    (hf : ∀ s, (f s).peerInfo.isSome = true) : (h.modifySession f ref).Searchable := by
  intro s hs
  obtain ⟨i, hi⟩ := List.mem_iff_getElem?.mp hs
  have hget : (h.modifySession f ref).session? (.unsecured i) = some s := hi
  rw [session?_modifySession] at hget
  obtain ⟨t, ht, rfl⟩ := Option.map_eq_some_iff.mp hget
  split
  · exact hf t
  · rename_i hne
    exact hh i t ht fun heq => hne heq.symm

/-- A change of the one that may have none. -/
theorem SearchableBut.modifySession {h : SessionManager} {ref : SessionRef}
    (hh : h.SearchableBut ref) (f : Session → Session) :
    (h.modifySession f ref).SearchableBut ref := by
  intro i s hs hne
  have hget : (h.modifySession f ref).session? (.unsecured i) = some s := hs
  rw [session?_modifySession, if_neg fun heq => hne heq.symm] at hget
  obtain ⟨t, ht, rfl⟩ := Option.map_eq_some_iff.mp hget
  exact hh i t ht hne

/-! ## 2. Datagrams -/

theorem searchable_modify {f : Session → Session} (ref : SessionRef)
    (hf : ∀ s, s.peerInfo.isSome = true → (f s).peerInfo.isSome = true) :
    Keeps Searchable (modify fun h => h.modifySession f ref : ManagerM PUnit) :=
  Keeps.modify fun _ hh => hh.modifySession fun s _ => hf s

theorem searchable_newUnsecuredSession : Triple Searchable newUnsecuredSession
    SearchableBut Searchable := by
  intro h hh
  obtain ⟨s, o, -, hr⟩ :=
    newSession_unsecured (.nat unsecuredSessionId) (.nat unsecuredSessionId) h
  rw [newUnsecuredSession, hr]
  exact hh.pushUnsecured s o

theorem searchable_learnPeer (ref : SessionRef) (msg : Message) :
    Keeps Searchable (learnPeer ref msg) :=
  Keeps.bind (Keeps.lift _) fun _ => searchable_modify ref fun _ hs => hs

/-- What comes after a new session does not throw. -/
theorem searchableBut_learnPeer {ref : SessionRef} {msg : Message} {source : Nat}
    (hs : msg.sourceNodeId = .ok source) : Triple (SearchableBut ref) (learnPeer ref msg)
      (fun _ => SearchableBut ref) Searchable := by
  unfold learnPeer
  rw [hs]
  exact Triple.bind (Triple.lift (fun _ _ _ hh => hh) nofun) fun _ =>
    Triple.modify fun _ hh => hh.modifySession _

theorem searchable_unsecuredSessionFor (msg : Message) (peerInfo : PeerInfo) :
    Triple Searchable (unsecuredSessionFor msg peerInfo) SearchableBut Searchable := by
  refine Triple.after_lift (fun _ hh => hh) fun peerNodeId hpeer => ?_
  obtain ⟨iflag, hi, -⟩ := bind_eq_ok hpeer
  obtain ⟨source, hsource⟩ := (Message.header_of_iflag hi).2
  refine Keeps.after Keeps.get (fun _ hh => hh) fun h => ?_
  refine Triple.after_lift (fun _ hh => hh) fun found _ => ?_
  cases found with
  | some i =>
    dsimp only
    split
    · exact Keeps.after (searchable_learnPeer _ msg) (fun _ hh => hh) fun _ =>
        Triple.pure _ fun _ hh => hh.but _
    · exact Triple.pure _ fun _ hh => hh.but _
  | none =>
    refine Triple.bind searchable_newUnsecuredSession fun ref => ?_
    exact Triple.bind (searchableBut_learnPeer hsource) fun _ => Triple.pure _ fun _ hh => hh

/-- The address is set first of all. -/
theorem searchable_updatePeer {ref : SessionRef} {msg : Message}
    (hmsg : msg.peerInfo.isSome = true) :
    Triple (SearchableBut ref) (updatePeer ref msg) (fun _ => Searchable) Searchable := by
  refine Triple.bind (Q := fun _ => Searchable)
    (Triple.modify fun _ hh => hh.setPeerInfo fun _ => hmsg) fun _ => ?_
  exact Keeps.bind (Keeps.lift _) fun _ =>
    Keeps.bind (searchable_modify ref fun _ hs => hs) fun _ => searchable_modify ref fun _ hs => hs

theorem searchable_newSession (l p : JsValue) : Keeps Searchable (newSession l p) := by
  intro h hh
  obtain ⟨s, o, -, hr⟩ := newSession_secured l p h
  rw [hr]
  exact hh

theorem searchable_secureSessionFor (msg : Message) :
    Keeps Searchable (secureSessionFor msg) := by
  refine Keeps.bind (Keeps.lift _) fun sessionId => Keeps.bind Keeps.get fun h => ?_
  cases h.getSecureSession sessionId with
  | some i => exact Keeps.pure _
  | none =>
    exact Keeps.bind (searchable_newSession _ _) fun ref =>
      Keeps.bind (searchable_learnPeer ref msg) fun _ => Keeps.pure _

/-- Decryption leaves the address of a message. -/
theorem decryptMessage_peerInfo {A : Aead} {s : Session} {msg : Message}
    {r : Option Bytes × Message} (h : s.decryptMessage A msg = .ok r) :
    r.2.peerInfo = msg.peerInfo := by
  obtain ⟨unencrypted, -, h⟩ := bind_eq_ok h
  cases unencrypted with
  | true =>
    cases h
    rfl
  | false =>
    rw [if_neg (by decide)] at h
    split at h
    · split at h
      · cases h
        rfl
      · cases h
        rfl
    · cases h

/-- **A datagram of any bytes leaves the table searchable**, whether or not its handling throws. -/
theorem searchable_onMessage (A : Aead) (buf : Bytes) (peerInfo : PeerInfo) :
    Keeps Searchable (onMessage A buf peerInfo) := by
  refine Keeps.bind (Keeps.lift _) fun unencrypted => ?_
  cases unencrypted with
  | true =>
    exact Triple.bind (searchable_unsecuredSessionFor _ peerInfo) fun ref =>
      Triple.bind (searchable_updatePeer rfl) fun _ => Keeps.pure _
  | false =>
    refine Keeps.bind (searchable_secureSessionFor _) fun ref => Keeps.bind Keeps.get fun h => ?_
    refine Triple.after_lift (fun _ hh => hh) fun decrypted hdec => ?_
    have hinfo : decrypted.2.peerInfo = some peerInfo := by
      cases hs : h.session? ref with
      | none =>
        rw [hs] at hdec
        cases hdec
      | some s =>
        rw [hs] at hdec
        exact decryptMessage_peerInfo hdec
    refine Triple.bind (Triple.conseq (searchable_updatePeer ?_) (fun _ hh => hh.but ref)
      (fun _ _ hh => hh) fun _ hh => hh) fun _ => Keeps.pure _
    rw [hinfo]
    rfl

/-! ## 3. The other events -/

theorem searchable_sendOn (A : Aead) (ref : SessionRef) (msg : Message) :
    Keeps Searchable (sendOn A ref msg) := by
  refine Triple.bind (Q := fun t h => t = h ∧ Searchable h) (Triple.get fun h hh => ⟨rfl, hh⟩)
    fun t => ?_
  cases hs : t.session? ref with
  | none => exact Triple.throw _ fun h hh => hh.2
  | some s =>
    have hset (h : SessionManager) (st : SendState) (hh : t = h ∧ Searchable h)
        (hsame : SameBut s st) : Searchable
          { h.modifySession (fun _ => st.session) ref with outside := st.outside } := by
      obtain ⟨rfl, hh⟩ := hh
      obtain ⟨counter, tx, id, hst⟩ := hsame
      have hmod : Searchable (t.modifySession (fun _ => st.session) ref) := by
        refine hh.modifySession fun s' hs' hsome => ?_
        rw [hst]
        rwa [← Option.some.inj (hs.symm.trans hs')] at hsome
      exact hmod
    exact Triple.zoom
      (fun h sent st hh hr => hset h st hh ((sameBut_sendMessage A s msg).ok (SameBut.refl ⟨s, _⟩) hr))
      fun h e st hh hr => hset h st hh ((sameBut_sendMessage A s msg).error (SameBut.refl ⟨s, _⟩) hr)

/-- New keys leave the address of a session. -/
theorem peerInfo_initFromSecret {hkdf : SessionCryptoContext.Hkdf} {s t : Session}
    {secret salt info : Bytes} (ht : s.initFromSecret hkdf secret salt info = .ok t) :
    t.peerInfo = s.peerInfo := by
  unfold Session.initFromSecret at ht
  split at ht
  · cases ht
    rfl
  · cases ht

theorem searchable_initPaseSession (hkdf : SessionCryptoContext.Hkdf) (secret : Bytes)
    (ref : SessionRef) : Keeps Searchable (initPaseSession hkdf secret ref) := by
  refine Triple.bind (Q := fun t h => t = h ∧ Searchable h) (Triple.get fun h hh => ⟨rfl, hh⟩)
    fun t => ?_
  cases hs : t.session? ref with
  | none => exact Triple.throw _ fun h hh => hh.2
  | some s =>
    refine Triple.after_lift (fun _ hh => hh.2) fun s' hinit => Triple.modify ?_
    intro h hh
    obtain ⟨rfl, hh⟩ := hh
    refine hh.modifySession fun s₀ hs₀ hsome => ?_
    rw [peerInfo_initFromSecret hinit]
    rwa [← Option.some.inj (hs.symm.trans hs₀)] at hsome

theorem searchable_createSecureSession (hkdf : SessionCryptoContext.Hkdf) (l p : JsValue)
    (secret : Bytes) : Keeps Searchable (createSecureSession hkdf l p secret) :=
  Keeps.bind (searchable_newSession l p) fun ref => searchable_initPaseSession hkdf secret ref

end SessionManager

namespace Node

/-! ## 4. The events of a node -/

/-- The unsecured sessions of a node can be searched. -/
def Searchable (n : Node) : Prop := n.sessions.Searchable

theorem searchable_onSessions {α : Type} {m : ManagerM α} (hm : Keeps SessionManager.Searchable m) :
    Keeps Searchable (onSessions m) :=
  Keeps.zoom_of hm (fun _ hn => hn) fun _ _ _ hh => hh

/-- A message leaves the session tables as they are. -/
theorem sessions_onSessionMessage (msg : Message) (ref : SessionRef) (n : Node) :
    (final ((onSessionMessage msg ref).run n)).sessions = n.sessions := by
  rcases onSessionMessage_cases n msg ref with ⟨i, ex, -, -, counter, -, hrun⟩ |
    ⟨exchangeId, protocolId, counter, rflag, -, -, -, hrun⟩ | hrun | ⟨err, hrun⟩
  · rw [hrun]
    rfl
  · rw [hrun]
    rfl
  · rw [hrun]
    rfl
  · rw [hrun]
    rfl

theorem searchable_onDatagram (A : Aead) (buf : Bytes) (peerInfo : PeerInfo) :
    Keeps Searchable (onDatagram A buf peerInfo) := by
  refine Keeps.bind (searchable_onSessions (SessionManager.searchable_onMessage A buf peerInfo))
    fun e => Keeps.of_final fun n hn => ?_
  have hsame := sessions_onSessionMessage e.msg e.session n
  unfold Searchable
  rw [hsame]
  exact hn

theorem searchable_sendMessage (A : Aead) (i : Nat) (msg : Message) :
    Keeps Searchable (sendMessage A i msg) := by
  refine Keeps.bind Keeps.get fun n => ?_
  cases n.exchanges[i]? with
  | none => exact Keeps.throw _
  | some ex =>
    exact Keeps.bind (Keeps.lift _) fun msg => Keeps.bind (Keeps.lift _) fun _ =>
      searchable_onSessions (SessionManager.searchable_sendOn A ex.session msg)

/-- The run of a new exchange to an address: its session stands last in its table. -/
theorem newExchangeTo_run (transport : Transport) (peerInfo : PeerInfo) (n : Node) :
    ∃ s o, (newExchangeTo transport peerInfo).run n = .ok n.exchanges.length
      { sessions := SessionManager.modifySession { n.sessions with
          sessionsUnsecured := n.sessions.sessionsUnsecured ++ [s], outside := o }
          (fun s => { s with transport := transport, peerInfo := some peerInfo })
          (.unsecured n.sessions.sessionsUnsecured.length)
        exchanges := n.exchanges ++
          [n.localExchange (.unsecured n.sessions.sessionsUnsecured.length)]
        nextExchangeId := n.nextExchangeId + 1 } := by
  obtain ⟨s, o, -, hr⟩ := SessionManager.newSession_unsecured (.nat unsecuredSessionId)
    (.nat unsecuredSessionId) n.sessions
  let ref : SessionRef := .unsecured n.sessions.sessionsUnsecured.length
  let sessions : SessionManager := { n.sessions with
    sessionsUnsecured := n.sessions.sessionsUnsecured ++ [s], outside := o }
  let m : Node :=
    { sessions, exchanges := n.exchanges ++ [n.localExchange ref]
      nextExchangeId := n.nextExchangeId + 1 }
  have hsession : (onSessions SessionManager.newUnsecuredSession).run n =
      .ok ref { n with sessions } := run_zoom_ok hr
  have hnew : newExchange.run n = .ok n.exchanges.length m := by
    unfold newExchange
    rw [run_bind_ok hsession]
    rfl
  have hlast : m.exchanges[n.exchanges.length]? = some (n.localExchange ref) := by
    simp [m]
  refine ⟨s, o, ?_⟩
  unfold newExchangeTo
  rw [run_bind_ok hnew, run_bind_ok (run_get m), hlast]
  rfl

/-- **A new exchange to an address**: its session has the address before anything can throw. -/
theorem searchable_newExchangeTo (transport : Transport) (peerInfo : PeerInfo) :
    Keeps Searchable (newExchangeTo transport peerInfo) := by
  intro n hn
  obtain ⟨s, o, hrun⟩ := newExchangeTo_run transport peerInfo n
  rw [hrun]
  exact (SessionManager.Searchable.pushUnsecured hn s o).setPeerInfo fun _ => rfl

/-- **Every event of a node leaves its unsecured sessions searchable.** -/
theorem searchable_step (A : Aead) (hkdf : SessionCryptoContext.Hkdf) (n : Node) (e : NodeEvent)
    (hn : n.Searchable) : (step A hkdf n e).Searchable := by
  cases e with
  | datagram buf peerInfo => exact (searchable_onDatagram A buf peerInfo).final hn
  | handshake l p secret =>
    exact (searchable_onSessions (SessionManager.searchable_createSecureSession hkdf l p secret)).final
      hn
  | begin transport peerInfo => exact (searchable_newExchangeTo transport peerInfo).final hn
  | beginOn ref => exact hn
  | setFlags i isReliable isAck => exact hn
  | send i msg => exact (searchable_sendMessage A i msg).final hn

end Node

end Matternode.Messaging
