/-
  File:      Matternode/Messaging/SessionManager.lean
  Subject:   SessionManager: the two session tables, and the session a datagram goes to.

  A session is referred to by its place in its table; nothing leaves a table. The manager's state
  has what is outside with it. An event is emitted last, so the handler of a datagram answers the
  event it emits; where it throws, it emits none.

  * `getSecureSession`, `getUnsecureSession`, `newSession`;
  * `onUnsecuredMessage`, `onSecureMessage`, `onMessage`;
  * `ManagerEvent`, `SessionManager.step` -- what happens to the tables of a node: datagrams,
    sessions made by a handshake, sessions made to start one, messages sent;
  * `Settled` -- what survives every change that leaves a session's ids, and new unsecured sessions;
  * `Stable`, `stable_step` -- **what survives new sessions and changes that leave a session's ids
    survives every event**;
  * `WellFormed`, `wellFormed_step` -- each table holds its kind of session.
-/
import Matternode.Base.Machine
import Matternode.Messaging.Frames

namespace Matternode.Messaging

open Base Js Session

/-! ## 1. The tables -/

structure SessionManager where
  sessionsSecured : List Session := []
  sessionsUnsecured : List Session := []
  outside : Outside

/-- A session object. -/
inductive SessionRef where
  | secured (i : Nat)
  | unsecured (i : Nat)
  deriving DecidableEq, Repr

abbrev ManagerM := EStateM JsError SessionManager

namespace SessionManager

def session? (h : SessionManager) : SessionRef → Option Session
  | .secured i => h.sessionsSecured[i]?
  | .unsecured i => h.sessionsUnsecured[i]?

/-- A change of a session object. -/
def modifySession (h : SessionManager) (f : Session → Session) : SessionRef → SessionManager
  | .secured i => { h with sessionsSecured := h.sessionsSecured.modify i f }
  | .unsecured i => { h with sessionsUnsecured := h.sessionsUnsecured.modify i f }

/-- A change of one session leaves the others. -/
theorem session?_modifySession (h : SessionManager) (f : Session → Session)
    (ref ref' : SessionRef) :
    (h.modifySession f ref).session? ref' =
      (h.session? ref').map (if ref = ref' then f else id) := by
  cases ref <;> cases ref' <;>
    simp [modifySession, session?, List.getElem?_modify] <;> split <;> rfl

/-- `getSecureSession(sessionId)`: the first session with the id as its **peer's**. -/
def getSecureSession (h : SessionManager) (sessionId : Nat) : Option Nat :=
  h.sessionsSecured.findIdx? fun s => s.peerSessionId.strictEqNat sessionId

/-- The search of `getUnsecureSession`; a session without PeerInfo has no address to compare. -/
def findUnsecure (peerInfo : PeerInfo) (peerNodeId : Nat) :
    List Session → Except JsError (Option Nat)
  | [] => .ok none
  | s :: ss =>
    match s.peerInfo with
    | none => .error .typeError
    | some info =>
      if info.address = peerInfo.address ∧ info.port = peerInfo.port ∧
          (s.peerNodeId = some peerNodeId ∨ s.peerNodeId = none) then .ok (some 0)
      else (findUnsecure peerInfo peerNodeId ss).map (·.map (· + 1))

def getUnsecureSession (h : SessionManager) (peerInfo : PeerInfo) (peerNodeId : Nat) :
    Except JsError (Option Nat) :=
  findUnsecure peerInfo peerNodeId h.sessionsUnsecured

/-- `newSession(localSessionId, peerSessionId, isSecure)`. -/
def newSession (localSessionId peerSessionId : JsValue) (isSecure : Bool := true) :
    ManagerM SessionRef := do
  let session ← zoom SessionManager.outside (fun o h => { h with outside := o })
    (Session.new localSessionId peerSessionId isSecure)
  let h ← get
  if isSecure then
    set { h with sessionsSecured := h.sessionsSecured ++ [session] }
    return .secured h.sessionsSecured.length
  else
    set { h with sessionsUnsecured := h.sessionsUnsecured ++ [session] }
    return .unsecured h.sessionsUnsecured.length

def newUnsecuredSession : ManagerM SessionRef :=
  newSession (.nat unsecuredSessionId) (.nat unsecuredSessionId) false

/-! ## 2. Datagrams -/

inductive EventName where
  | message | messageUnsecured
  deriving DecidableEq, Repr

/-- `this.emit(name, msg, session)`. -/
structure Emission where
  name : EventName
  msg : Message
  session : SessionRef

/-- `session.PeerInfo = …; session.PeerMessageCounter = …; session.updateActivity()`. -/
def updatePeer (ref : SessionRef) (msg : Message) : ManagerM Unit := do
  modify fun h => h.modifySession (fun s => { s with peerInfo := msg.peerInfo }) ref
  let counter ← lift msg.messageCounter
  modify fun h => h.modifySession (fun s => { s with peerMessageCounter := counter }) ref
  modify fun h => h.modifySession Session.updateActivity ref

/-- `session.PeerNodeId = msg.SourceNodeId`. -/
def learnPeer (ref : SessionRef) (msg : Message) : ManagerM Unit := do
  let source ← lift msg.sourceNodeId
  modify fun h => h.modifySession (fun s => { s with peerNodeId := some source }) ref

/-- The node id an unsecured datagram is looked up by. -/
def unsecuredPeer (msg : Message) : Except JsError Nat := do
  if ← msg.iflag then msg.sourceNodeId else msg.destinationNodeId

/-- The session of an unsecured datagram: one with its address and node id, else a new one. -/
def unsecuredSessionFor (msg : Message) (peerInfo : PeerInfo) : ManagerM SessionRef := do
  let peerNodeId ← lift (unsecuredPeer msg)
  let h ← get
  match ← lift (h.getUnsecureSession peerInfo peerNodeId) with
  | some i =>
    match h.sessionsUnsecured[i]?.bind (·.peerNodeId) with
    | none =>
      learnPeer (.unsecured i) msg
      return .unsecured i
    | some _ => return .unsecured i
  | none =>
    let ref ← newUnsecuredSession
    learnPeer ref msg
    return ref

def onUnsecuredMessage (msg : Message) (peerInfo : PeerInfo) : ManagerM Emission := do
  let ref ← unsecuredSessionFor msg peerInfo
  updatePeer ref msg
  return ⟨.messageUnsecured, msg, ref⟩

/-- The session of a secure datagram: the first with the id as its peer's, else a new one with the
    keys of a new context. -/
def secureSessionFor (msg : Message) : ManagerM SessionRef := do
  let sessionId ← lift msg.sessionId
  match (← get).getSecureSession sessionId with
  | some i => return .secured i
  | none =>
    let ref ← newSession (.nat sessionId) (.nat sessionId)
    learnPeer ref msg
    return ref

/-- The answer of `decryptMessage` is not looked at: a message that fails authentication goes on
    with its buffer as it came. -/
def onSecureMessage (A : Aead) (buf : Bytes) (peerInfo : PeerInfo) : ManagerM Emission := do
  let msg := received buf peerInfo
  let ref ← secureSessionFor msg
  let decrypted ← lift (match (← get).session? ref with
    | some session => session.decryptMessage A msg
    | none => .error .typeError)
  let msg := decrypted.2
  updatePeer ref msg
  return ⟨.message, msg, ref⟩

def onMessage (A : Aead) (buf : Bytes) (peerInfo : PeerInfo) : ManagerM Emission := do
  let rawMsg := rawMessage buf peerInfo
  if ← lift rawMsg.isUnencrypted then onUnsecuredMessage rawMsg peerInfo
  else onSecureMessage A buf peerInfo

/-! ## 3. The machine -/

/-- `session.sendMessage(msg)` on a session of the tables. -/
def sendOn (A : Aead) (ref : SessionRef) (msg : Message) : ManagerM Message := do
  match (← get).session? ref with
  | none => throw .typeError
  | some session =>
    zoom (fun h => ⟨session, h.outside⟩)
      (fun st h => { h.modifySession (fun _ => st.session) ref with outside := st.outside })
      (Session.sendMessage A msg)

/-- `initPaseSession(session)`: the session takes the derived keys. -/
def initPaseSession (hkdf : SessionCryptoContext.Hkdf) (secret : Bytes) (ref : SessionRef) :
    ManagerM Unit := do
  match (← get).session? ref with
  | none => throw .typeError
  | some session =>
    let session ← lift (session.initFromSecret hkdf secret [] (utf8Encode "SessionKeys".toList))
    modify fun h => h.modifySession (fun _ => session) ref

/-- `createSecureSession()` of a handshake. -/
def createSecureSession (hkdf : SessionCryptoContext.Hkdf) (localSessionId peerSessionId : JsValue)
    (secret : Bytes) : ManagerM Unit := do
  let ref ← newSession localSessionId peerSessionId
  initPaseSession hkdf secret ref

/-- An unsecured session to start a handshake on, with its transport and address set. -/
def newSessionTo (transport : Transport) (peerInfo : PeerInfo) : ManagerM SessionRef := do
  let ref ← newUnsecuredSession
  modify fun h => h.modifySession
    (fun s => { s with transport := transport, peerInfo := some peerInfo }) ref
  return ref

inductive ManagerEvent where
  | datagram (buf : Bytes) (peerInfo : PeerInfo)
  | handshake (localSessionId peerSessionId : JsValue) (secret : Bytes)
  | connect (transport : Transport) (peerInfo : PeerInfo)
  | send (ref : SessionRef) (msg : Message)

/-- One event; what threw leaves what it changed. -/
def step (A : Aead) (hkdf : SessionCryptoContext.Hkdf) (h : SessionManager) :
    ManagerEvent → SessionManager
  | .datagram buf peerInfo => final ((onMessage A buf peerInfo).run h)
  | .handshake l p secret => final ((createSecureSession hkdf l p secret).run h)
  | .connect transport peerInfo => final ((newSessionTo transport peerInfo).run h)
  | .send ref msg => final ((sendOn A ref msg).run h)

/-- `new SessionManager(…)`. -/
def init (entropy : Nat → UInt8) : SessionManager := { outside := { entropy } }

/-! ## 4. What is stable -/

/-- The same ids, and secure or not as before. -/
structure SameIds (s t : Session) : Prop where
  localSessionId : t.localSessionId = s.localSessionId
  peerSessionId : t.peerSessionId = s.peerSessionId
  secure : t.secure = s.secure

/-- A session as `new Session(…)` makes it, but for its counter. -/
structure IsNew (s : Session) (l p : JsValue) (isSecure : Bool) : Prop where
  localSessionId : s.localSessionId = l
  peerSessionId : s.peerSessionId = p
  secure : s.secure = isSecure
  initiator : s.initiator = false
  cryptoContext : s.cryptoContext = if isSecure then some .default else none

/-- A property that survives what a manager does with its sessions: it makes new ones, and changes
    the others but for their ids. -/
structure Stable (R : SessionManager → Prop) : Prop where
  modifySession : ∀ {h : SessionManager} {f : Session → Session} (ref : SessionRef),
    (∀ s, h.session? ref = some s → SameIds s (f s)) → R h → R (h.modifySession f ref)
  pushSecured : ∀ {h : SessionManager} {s : Session} {l p : JsValue}, IsNew s l p true → R h →
    R { h with sessionsSecured := h.sessionsSecured ++ [s] }
  pushUnsecured : ∀ {h : SessionManager} {s : Session},
    IsNew s (.nat unsecuredSessionId) (.nat unsecuredSessionId) false → R h →
    R { h with sessionsUnsecured := h.sessionsUnsecured ++ [s] }
  outside : ∀ {h : SessionManager} (o : Outside), R h → R { h with outside := o }

/-- A new secure session stands last in its table. -/
theorem newSession_secured (l p : JsValue) (h : SessionManager) :
    ∃ s o, IsNew s l p true ∧ (newSession l p).run h =
      .ok (.secured h.sessionsSecured.length)
        { h with sessionsSecured := h.sessionsSecured ++ [s], outside := o } :=
  ⟨_, _, ⟨rfl, rfl, rfl, rfl, rfl⟩, rfl⟩

/-- A new unsecured session stands last in its table. -/
theorem newSession_unsecured (l p : JsValue) (h : SessionManager) :
    ∃ s o, IsNew s l p false ∧ (newSession l p false).run h =
      .ok (.unsecured h.sessionsUnsecured.length)
        { h with sessionsUnsecured := h.sessionsUnsecured ++ [s], outside := o } :=
  ⟨_, _, ⟨rfl, rfl, rfl, rfl, rfl⟩, rfl⟩

/-- New keys leave the ids of a session. -/
theorem sameIds_initFromSecret {hkdf : SessionCryptoContext.Hkdf} {s t : Session}
    {secret salt info : Bytes} (ht : s.initFromSecret hkdf secret salt info = .ok t) :
    SameIds s t := by
  unfold Session.initFromSecret at ht
  split at ht
  · cases ht
    exact ⟨rfl, rfl, rfl⟩
  · cases ht

/-- A property that survives what a manager does to the sessions there are, and new unsecured
    sessions. -/
structure Settled (R : SessionManager → Prop) : Prop where
  modifySession : ∀ {h : SessionManager} {f : Session → Session} (ref : SessionRef),
    (∀ s, h.session? ref = some s → SameIds s (f s)) → R h → R (h.modifySession f ref)
  pushUnsecured : ∀ {h : SessionManager} {s : Session},
    IsNew s (.nat unsecuredSessionId) (.nat unsecuredSessionId) false → R h →
    R { h with sessionsUnsecured := h.sessionsUnsecured ++ [s] }
  outside : ∀ {h : SessionManager} (o : Outside), R h → R { h with outside := o }

theorem Stable.settled {R : SessionManager → Prop} (hR : Stable R) : Settled R :=
  ⟨hR.modifySession, hR.pushUnsecured, hR.outside⟩

section Settling

variable {R : SessionManager → Prop} (hR : Settled R)

include hR

theorem keeps_modify {f : Session → Session} (ref : SessionRef)
    (hf : ∀ s, SameIds s (f s)) :
    Keeps R (modify fun h => h.modifySession f ref : ManagerM PUnit) :=
  Keeps.modify fun _ hh => hR.modifySession ref (fun s _ => hf s) hh

theorem keeps_newUnsecuredSession : Keeps R newUnsecuredSession := by
  intro h hh
  obtain ⟨s, o, hs, hr⟩ :=
    newSession_unsecured (.nat unsecuredSessionId) (.nat unsecuredSessionId) h
  rw [newUnsecuredSession, hr]
  exact hR.outside o (hR.pushUnsecured hs hh)

theorem keeps_updatePeer (ref : SessionRef) (msg : Message) : Keeps R (updatePeer ref msg) := by
  refine Keeps.bind (keeps_modify hR ref fun _ => ?_) fun _ => Keeps.bind (Keeps.lift _) fun _ =>
    Keeps.bind (keeps_modify hR ref fun _ => ?_) fun _ => keeps_modify hR ref fun _ => ?_
  · exact ⟨rfl, rfl, rfl⟩
  · exact ⟨rfl, rfl, rfl⟩
  · exact ⟨rfl, rfl, rfl⟩

theorem keeps_learnPeer (ref : SessionRef) (msg : Message) : Keeps R (learnPeer ref msg) :=
  Keeps.bind (Keeps.lift _) fun _ => keeps_modify hR ref fun _ => ⟨rfl, rfl, rfl⟩

theorem keeps_unsecuredSessionFor (msg : Message) (peerInfo : PeerInfo) :
    Keeps R (unsecuredSessionFor msg peerInfo) := by
  refine Keeps.bind (Keeps.lift _) fun peerNodeId => Keeps.bind Keeps.get fun h => ?_
  refine Keeps.bind (Keeps.lift _) fun found => ?_
  cases found with
  | some i =>
    dsimp only
    split
    · exact Keeps.bind (keeps_learnPeer hR _ msg) fun _ => Keeps.pure _
    · exact Keeps.pure _
  | none =>
    exact Keeps.bind (keeps_newUnsecuredSession hR) fun ref =>
      Keeps.bind (keeps_learnPeer hR ref msg) fun _ => Keeps.pure _

theorem keeps_onUnsecuredMessage (msg : Message) (peerInfo : PeerInfo) :
    Keeps R (onUnsecuredMessage msg peerInfo) :=
  Keeps.bind (keeps_unsecuredSessionFor hR msg peerInfo) fun ref =>
    Keeps.bind (keeps_updatePeer hR ref msg) fun _ => Keeps.pure _

/-- A secure datagram does nothing more, once it has its session. -/
theorem keeps_afterSession (A : Aead) (ref : SessionRef) (msg : Message) : Keeps R (do
    let decrypted ← lift (match (← get).session? ref with
      | some session => session.decryptMessage A msg
      | none => .error .typeError)
    let msg := decrypted.2
    updatePeer ref msg
    return ⟨.message, msg, ref⟩ : ManagerM Emission) :=
  Keeps.bind Keeps.get fun _ => Keeps.bind (Keeps.lift _) fun _ =>
    Keeps.bind (keeps_updatePeer hR ref _) fun _ => Keeps.pure _

/-- A message sent changes no session's ids. -/
theorem keeps_sendOn (A : Aead) (ref : SessionRef) (msg : Message) :
    Keeps R (sendOn A ref msg) := by
  refine Triple.bind (Q := fun t h => t = h ∧ R h) (Triple.get fun h hh => ⟨rfl, hh⟩) fun t => ?_
  cases hs : t.session? ref with
  | none => exact Triple.throw _ fun h hh => hh.2
  | some s =>
    have hset (h : SessionManager) (st : SendState) (hh : t = h ∧ R h) (hsame : Same s st) :
        R { h.modifySession (fun _ => st.session) ref with outside := st.outside } := by
      obtain ⟨rfl, hh⟩ := hh
      refine hR.outside st.outside (hR.modifySession ref (fun s' hs' => ?_) hh)
      rw [← Option.some.inj (hs.symm.trans hs')]
      exact ⟨hsame.localSessionId, hsame.peerSessionId, hsame.secure⟩
    exact Triple.zoom
      (fun h sent st hh hr => hset h st hh ((same_sendMessage A s msg).ok (SameIdentity.refl s) hr))
      fun h e st hh hr => hset h st hh ((same_sendMessage A s msg).error (SameIdentity.refl s) hr)

theorem keeps_initPaseSession (hkdf : SessionCryptoContext.Hkdf) (secret : Bytes)
    (ref : SessionRef) : Keeps R (initPaseSession hkdf secret ref) := by
  refine Triple.bind (Q := fun t h => t = h ∧ R h) (Triple.get fun h hh => ⟨rfl, hh⟩) fun t => ?_
  cases hs : t.session? ref with
  | none => exact Triple.throw _ fun h hh => hh.2
  | some s =>
    refine Triple.bind (Q := fun s' h => h.session? ref = some s ∧ SameIds s s' ∧ R h)
      (Triple.lift ?_ fun e h _ hh => hh.2) fun s' => Triple.modify ?_
    · rintro s' h hinit ⟨rfl, hh⟩
      exact ⟨hs, sameIds_initFromSecret hinit, hh⟩
    · rintro h ⟨hs', hsame, hh⟩
      refine hR.modifySession ref (fun s₀ hs₀ => ?_) hh
      rw [← Option.some.inj (hs'.symm.trans hs₀)]
      exact hsame

theorem keeps_newSessionTo (transport : Transport) (peerInfo : PeerInfo) :
    Keeps R (newSessionTo transport peerInfo) :=
  Keeps.bind (keeps_newUnsecuredSession hR) fun ref =>
    Keeps.bind (keeps_modify hR ref fun _ => ⟨rfl, rfl, rfl⟩) fun _ => Keeps.pure _

end Settling

section Stability

variable {R : SessionManager → Prop} (hR : Stable R)

include hR

theorem keeps_newSession (l p : JsValue) : Keeps R (newSession l p) := by
  intro h hh
  obtain ⟨s, o, hs, hr⟩ := newSession_secured l p h
  rw [hr]
  exact hR.outside o (hR.pushSecured hs hh)

theorem keeps_secureSessionFor (msg : Message) : Keeps R (secureSessionFor msg) := by
  refine Keeps.bind (Keeps.lift _) fun sessionId => Keeps.bind Keeps.get fun h => ?_
  cases h.getSecureSession sessionId with
  | some i => exact Keeps.pure _
  | none =>
    exact Keeps.bind (keeps_newSession hR _ _) fun ref =>
      Keeps.bind (keeps_learnPeer hR.settled ref msg) fun _ => Keeps.pure _

/-- A datagram changes no session's ids. -/
theorem keeps_onMessage (A : Aead) (buf : Bytes) (peerInfo : PeerInfo) :
    Keeps R (onMessage A buf peerInfo) := by
  refine Keeps.bind (Keeps.lift _) fun unencrypted => ?_
  cases unencrypted with
  | true => exact keeps_onUnsecuredMessage hR.settled _ peerInfo
  | false =>
    exact Keeps.bind (keeps_secureSessionFor hR _) fun ref =>
      keeps_afterSession hR.settled A ref _

theorem keeps_createSecureSession (hkdf : SessionCryptoContext.Hkdf) (l p : JsValue)
    (secret : Bytes) : Keeps R (createSecureSession hkdf l p secret) :=
  Keeps.bind (keeps_newSession hR l p) fun ref => keeps_initPaseSession hR.settled hkdf secret ref

/-- **What is stable is kept by every event.** -/
theorem stable_step (A : Aead) (hkdf : SessionCryptoContext.Hkdf) (h : SessionManager)
    (e : ManagerEvent) (hh : R h) : R (step A hkdf h e) := by
  cases e with
  | datagram buf peerInfo => exact (keeps_onMessage hR A buf peerInfo).final hh
  | handshake l p secret => exact (keeps_createSecureSession hR hkdf l p secret).final hh
  | connect transport peerInfo => exact (keeps_newSessionTo hR.settled transport peerInfo).final hh
  | send ref msg => exact (keeps_sendOn hR.settled A ref msg).final hh

end Stability

/-! ## 5. What every run keeps -/

/-- Each table holds its kind of session. -/
structure WellFormed (h : SessionManager) : Prop where
  secured : ∀ s ∈ h.sessionsSecured, s.secure = true
  unsecured : ∀ s ∈ h.sessionsUnsecured,
    s.secure = false ∧ s.localSessionId = .nat unsecuredSessionId

/-- A session of the secure table has a crypto context. -/
theorem WellFormed.cryptoContext {h : SessionManager} (hw : h.WellFormed) {i : Nat} {s : Session}
    (hs : h.sessionsSecured[i]? = some s) : ∃ c, s.cryptoContext = some c := by
  have hsome : s.cryptoContext.isSome := s.context.trans (hw.secured s (List.mem_of_getElem? hs))
  exact Option.isSome_iff_exists.mp hsome

theorem forall_mem_modify {α : Type} {P : α → Prop} {f : α → α} {l : List α} {i : Nat}
    (hf : ∀ a, l[i]? = some a → P a → P (f a)) (hl : ∀ a ∈ l, P a) : ∀ a ∈ l.modify i f, P a := by
  intro a ha
  obtain ⟨j, hj⟩ := List.mem_iff_getElem?.mp ha
  rw [List.getElem?_modify] at hj
  obtain ⟨b, hb, rfl⟩ := Option.map_eq_some_iff.mp hj
  have hPb := hl b (List.mem_of_getElem? hb)
  split
  · rename_i hij
    exact hf b (hij ▸ hb) hPb
  · exact hPb

theorem forall_mem_append_one {α : Type} {P : α → Prop} {l : List α} {a : α}
    (hl : ∀ b ∈ l, P b) (ha : P a) : ∀ b ∈ l ++ [a], P b := by
  intro b hb
  rcases List.mem_append.mp hb with hb | hb
  · exact hl b hb
  · rw [List.mem_singleton.mp hb]
    exact ha

theorem stable_wellFormed : Stable WellFormed where
  modifySession := by
    intro h f ref hf hw
    cases ref with
    | secured i =>
      exact ⟨forall_mem_modify (fun s hs hsec => (hf s hs).secure.trans hsec) hw.secured,
        hw.unsecured⟩
    | unsecured i =>
      exact ⟨hw.secured, forall_mem_modify (fun s hs hsec => ⟨(hf s hs).secure.trans hsec.1,
        (hf s hs).localSessionId.trans hsec.2⟩) hw.unsecured⟩
  pushSecured hs hw := ⟨forall_mem_append_one hw.secured hs.secure, hw.unsecured⟩
  pushUnsecured hs hw :=
    ⟨hw.secured, forall_mem_append_one hw.unsecured ⟨hs.secure, hs.localSessionId⟩⟩
  outside _ hw := ⟨hw.secured, hw.unsecured⟩

/-- Every event leaves each table its kind of session. -/
theorem wellFormed_step (A : Aead) (hkdf : SessionCryptoContext.Hkdf) (h : SessionManager)
    (e : ManagerEvent) (hw : h.WellFormed) : (step A hkdf h e).WellFormed :=
  stable_step stable_wellFormed A hkdf h e hw

theorem wellFormed_init (entropy : Nat → UInt8) : (init entropy).WellFormed where
  secured := nofun
  unsecured := nofun

end SessionManager

end Matternode.Messaging
