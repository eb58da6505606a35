/-
  File:      Matternode/Messaging/Parallel.lean
  Subject:   Exchanges of one node: what is done on the others leaves one as it is.

  Exchanges share the tables of their node. A table of sessions only grows, and what is sent changes
  the session it is sent on, so two exchanges meet in a session they both use, and there only.

  * `Moves` -- a relation between two states of a node that what is done on one exchange keeps;
  * `Apart`, `independent_apart` -- **an exchange whose session no other is on**;
  * `Shares`, `independent_shares` -- **an exchange whose unsecured session others may be on**, where
    the session knows its peer and has counters left;
  * `Beside`, `moves_beside`, `leaves_beside` -- **an exchange on any session**, as long as it has
    counters left for what goes out on it, and what others send draws no node id for its session.
-/
import Matternode.Messaging.Conversation
import Matternode.Messaging.Counters
import Matternode.Messaging.Identities

namespace Matternode.Messaging

open Base Js

namespace Node

/-! ## 1. Sessions that are made -/

/-- `new Session(l, p, true)`, of what is drawn. -/
def freshSession (l p : JsValue) (e : Nat → UInt8) : Session where
  localSessionId := l
  peerSessionId := p
  secure := true
  messageCounter := (ofBE ((List.range 4).map e) &&& 0x0FFFFFFF) + 1
  cryptoContext := some .default
  context := Option.isSome_some

/-- The session that a handshake makes of its secret. -/
def keyedSession (hkdf : SessionCryptoContext.Hkdf) (l p : JsValue) (secret : Bytes)
    (e : Nat → UInt8) : Session :=
  { freshSession l p e with
    cryptoContext := some (.initFromSecret hkdf secret [] (utf8Encode "SessionKeys".toList))
    context := rfl }

theorem run_newSession (l p : JsValue) (n : Node) :
    (onSessions (SessionManager.newSession l p)).run n =
      .ok (.secured n.sessions.sessionsSecured.length)
        ((n.push (freshSession l p n.sessions.outside.entropy)).withEntropy
          fun i => n.sessions.outside.entropy (4 + i)) :=
  rfl

/-- **A new session stands last in its table, with the keys of its secret.** -/
theorem run_createSecureSession (hkdf : SessionCryptoContext.Hkdf) (l p : JsValue)
    (secret : Bytes) (n : Node) :
    (onSessions (SessionManager.createSecureSession hkdf l p secret)).run n =
      .ok () ((n.push (keyedSession hkdf l p secret n.sessions.outside.entropy)).withEntropy
        fun i => n.sessions.outside.entropy (4 + i)) := by
  let m := n.sessions
  let s := freshSession l p m.outside.entropy
  let t := keyedSession hkdf l p secret m.outside.entropy
  let made : SessionManager := { m with
    sessionsSecured := m.sessionsSecured ++ [s]
    outside := { m.outside with entropy := fun i => m.outside.entropy (4 + i) } }
  have hnew : (SessionManager.newSession l p).run m =
      .ok (.secured m.sessionsSecured.length) made := rfl
  have hkeys : s.initFromSecret hkdf secret [] (utf8Encode "SessionKeys".toList) = .ok t := rfl
  have hget : made.session? (.secured m.sessionsSecured.length) = some s := by
    show (m.sessionsSecured ++ [s])[m.sessionsSecured.length]? = some s
    rw [List.getElem?_append_right le_rfl, Nat.sub_self]
    rfl
  have hinit : (SessionManager.initPaseSession hkdf secret (.secured m.sessionsSecured.length)).run
      made = .ok () { made with sessionsSecured := m.sessionsSecured ++ [t] } := by
    unfold SessionManager.initPaseSession
    rw [run_bind_ok (run_get made), hget]
    dsimp only
    rw [run_bind_ok (run_lift_of hkeys made), run_modify]
    simp only [SessionManager.modifySession, made, modify_append_one]
  refine run_zoom_ok ?_
  unfold SessionManager.createSecureSession
  rw [run_bind_ok hnew]
  exact hinit

/-! ## 2. Sending on a session -/

/-- An exchange, and the session it is on. -/
structure OnSession (n : Node) (i : Nat) (ex : Exchange) (s : Session) : Prop where
  exchange : n.exchanges[i]? = some ex
  session : n.sessions.session? ex.session = some s

variable {n : Node} {i j : Nat} {ex fx : Exchange} {s t : Session}

/-- What an exchange hands to its session. -/
def handed (ex : Exchange) (msg : Message) : Except JsError Message := do
  let msg ← ex.address msg
  let _ ← msg.sessionId
  return msg

/-- **A message is sent, or not, by what the exchange and its session are.** -/
theorem run_sendMessage_onSession (A : Aead) (h : n.OnSession i ex s) (msg : Message) :
    (sendMessage A i msg).run n = match handed ex msg with
      | .error e => .error e n
      | .ok msg => match (Session.sendMessage A msg).run ⟨s, n.sessions.outside⟩ with
        | .ok sent st => .ok sent (n.sentOn ex.session st)
        | .error e st => .error e (n.sentOn ex.session st) := by
  unfold sendMessage handed
  rw [run_bind_ok (run_get n), h.exchange]
  dsimp only
  cases haddress : ex.address msg with
  | error e => rfl
  | ok msg =>
    rw [run_bind_ok (run_lift_ok msg n)]
    cases hid : msg.sessionId with
    | error e =>
      simp only [bind, Except.bind, hid]
      rfl
    | ok id =>
      rw [run_bind_ok (run_lift_ok id n)]
      simp only [bind, Except.bind, hid, pure, Except.pure]
      cases hsend : (Session.sendMessage A msg).run ⟨s, n.sessions.outside⟩ with
      | ok sent st => exact run_zoom_ok (SessionManager.run_sendOn_ok h.session hsend)
      | error e st => exact run_zoom_error (SessionManager.run_sendOn_error h.session hsend)

/-! ## 3. What is done on an exchange -/

/-- A relation between two states of a node that what is done on the exchange keeps, as long as
    messages may go out on it: `k` of them. -/
structure Moves (A : Aead) (i : Nat) (R : Nat → Node → Node → Prop) : Prop where
  weaken : ∀ {k : Nat} {n n' : Node}, R (k + 1) n n' → R k n n'
  entropy : ∀ {k : Nat} {n n' : Node}, R k n n' →
    n'.sessions.outside.entropy = n.sessions.outside.entropy
  draw : ∀ {k : Nat} {n n' : Node} (e : Nat → UInt8), R k n n' →
    R k (n.withEntropy e) (n'.withEntropy e)
  push : ∀ {k : Nat} {n n' : Node} (s : Session), R k n n' → R k (n.push s) (n'.push s)
  modifyExchange : ∀ {k : Nat} {n n' : Node} {f : Exchange → Exchange}, Exchange.Stays f →
    R k n n' → R k (n.modifyExchange i f) (n'.modifyExchange i f)
  send : ∀ {k : Nat} {c : Content}, c.InRange → Lockstep (R (k + 1)) (R k)
    (do let _ ← sendMessage A i c.message) (do let _ ← sendMessage A i c.message)

/-- A property of a node that what is done on the exchange keeps, whatever is outside. -/
structure Leaves (A : Aead) (i : Nat) (F : Nat → Node → Prop) : Prop where
  weaken : ∀ {k : Nat} {n : Node}, F (k + 1) n → F k n
  outside : ∀ {k : Nat} {n : Node} (o : Outside), F k n → F k (n.withOutside o)
  push : ∀ {k : Nat} {n : Node} (s : Session), F k n → F k (n.push s)
  modifyExchange : ∀ {k : Nat} {n : Node} {f : Exchange → Exchange}, Exchange.Stays f → F k n →
    F k (n.modifyExchange i f)
  send : ∀ {k : Nat} {c : Content}, c.InRange →
    Triple (F (k + 1)) (sendMessage A i c.message) (fun _ => F k) (F k)

/-- Side by side with itself a node keeps what it keeps. -/
theorem Leaves.moves {A : Aead} {F : Nat → Node → Prop} (h : Leaves A i F) :
    Moves A i fun k n n' => n' = n ∧ F k n where
  weaken := fun hf => ⟨hf.1, h.weaken hf.2⟩
  entropy := fun hf => by rw [hf.1]
  draw := fun e hf => ⟨by rw [hf.1], h.outside _ hf.2⟩
  push := fun s hf => ⟨by rw [hf.1], h.push s hf.2⟩
  modifyExchange := fun hs hf => ⟨by rw [hf.1], h.modifyExchange hs hf.2⟩
  send := fun hc => Lockstep.diagonal
    (Triple.bind (h.send hc) fun _ => Triple.pure _ fun _ hf => hf)

/-- What is done on the exchange `i` keeps the relation, and what is done in the one node on another
    exchange of `J` does; what is outside is each exchange's own. -/
structure Independent (A : Aead) (i : Nat) (J : List Nat) (R : Nat → Node → Node → Prop) : Prop where
  own : Moves A i R
  other : ∀ j ∈ J, j ≠ i → ∀ (o : Outside) (n' : Node), Leaves A j fun k n => R k (n.withOutside o) n'

/-! ## 4. Other sessions -/

theorem session?_withOutside (n : Node) (o : Outside) (ref : SessionRef) :
    (n.withOutside o).sessions.session? ref = n.sessions.session? ref := by
  cases ref <;> rfl

namespace OnSession

theorem withOutside (h : n.OnSession i ex s) (o : Outside) : (n.withOutside o).OnSession i ex s :=
  ⟨h.exchange, (session?_withOutside n o ex.session).trans h.session⟩

theorem push (h : n.OnSession i ex s) (t : Session) : (n.push t).OnSession i ex s := by
  refine ⟨h.exchange, ?_⟩
  have hs := h.session
  cases href : ex.session with
  | unsecured m =>
    rw [href] at hs
    exact hs
  | secured m =>
    rw [href] at hs
    have hm : n.sessions.sessionsSecured[m]? = some s := hs
    show (n.sessions.sessionsSecured ++ [t])[m]? = some s
    rw [List.getElem?_append_left (List.getElem?_eq_some_iff.mp hm).1]
    exact hm

theorem modifyExchange (h : n.OnSession i ex s) {f : Exchange → Exchange}
    (hf : Exchange.Stays f) : (n.modifyExchange i f).OnSession i (f ex) s := by
  constructor
  · show (n.exchanges.modify i f)[i]? = _
    rw [List.getElem?_modify_eq, h.exchange]
    rfl
  · rw [hf.session]
    exact h.session

theorem modifyExchange_other (h : n.OnSession i ex s) (hij : j ≠ i) (f : Exchange → Exchange) :
    (n.modifyExchange j f).OnSession i ex s := by
  refine ⟨?_, h.session⟩
  show (n.exchanges.modify j f)[i]? = _
  rw [List.getElem?_modify_ne _ _ hij]
  exact h.exchange

theorem sentOn (h : n.OnSession i ex s) (st : SendState) :
    (n.sentOn ex.session st).OnSession i ex st.session := by
  refine ⟨h.exchange, ?_⟩
  have hget := SessionManager.session?_modifySession n.sessions (fun _ => st.session) ex.session
    ex.session
  rw [h.session, if_pos rfl] at hget
  cases href : ex.session <;> rw [href] at hget <;> exact hget

/-- What is sent on another session leaves this one. -/
theorem sentOn_other (h : n.OnSession i ex s) {ref : SessionRef} (hne : ref ≠ ex.session)
    (st : SendState) : (n.sentOn ref st).OnSession i ex s := by
  refine ⟨h.exchange, ?_⟩
  have hget := SessionManager.session?_modifySession n.sessions (fun _ => st.session) ref ex.session
  rw [h.session, if_neg hne] at hget
  cases ref <;> cases href : ex.session <;> rw [href] at hget <;> exact hget

/-- Whatever exchange is changed, this one has its session. -/
theorem modifyExchange_any (h : n.OnSession i ex s) (j : Nat) {f : Exchange → Exchange}
    (hf : Exchange.Stays f) :
    ∃ ex', (n.modifyExchange j f).OnSession i ex' s ∧ ex'.session = ex.session := by
  by_cases hij : j = i
  · exact ⟨f ex, hij ▸ h.modifyExchange hf, hf.session ex⟩
  · exact ⟨ex, h.modifyExchange_other hij f, rfl⟩

/-- Whatever session is sent on, the exchange is on its own. -/
theorem sentOn_any (h : n.OnSession i ex s) (ref : SessionRef) (st : SendState) :
    ∃ t, (n.sentOn ref st).OnSession i ex t := by
  by_cases href : ref = ex.session
  · exact ⟨st.session, href ▸ h.sentOn st⟩
  · exact ⟨s, h.sentOn_other href st⟩

end OnSession

/-- The exchange `i` and its session are the same in both, with the same outside; the other
    exchanges of `J` are on other sessions. -/
def Apart (i : Nat) (J : List Nat) (_ : Nat) (n n' : Node) : Prop :=
  ∃ ex s, n.OnSession i ex s ∧ n'.OnSession i ex s ∧ n'.sessions.outside = n.sessions.outside ∧
    ∀ j ∈ J, j ≠ i → ∃ fx t, n.OnSession j fx t ∧ fx.session ≠ ex.session

variable {J : List Nat}

theorem moves_apart (A : Aead) : Moves A i (Apart i J) where
  weaken := fun h => h
  entropy := by
    intro k n n' h
    obtain ⟨ex, s, -, -, ho, -⟩ := h
    rw [ho]
  draw := by
    intro k n n' e h
    obtain ⟨ex, s, hi, hi', ho, hJ⟩ := h
    refine ⟨ex, s, hi.withOutside _, hi'.withOutside _, ?_, fun j hj hne => ?_⟩
    · show { n'.sessions.outside with entropy := e } = { n.sessions.outside with entropy := e }
      rw [ho]
    · obtain ⟨fx, t, hfx, hother⟩ := hJ j hj hne
      exact ⟨fx, t, hfx.withOutside _, hother⟩
  push := by
    intro k n n' r h
    obtain ⟨ex, s, hi, hi', ho, hJ⟩ := h
    refine ⟨ex, s, hi.push r, hi'.push r, ho, fun j hj hne => ?_⟩
    obtain ⟨fx, t, hfx, hother⟩ := hJ j hj hne
    exact ⟨fx, t, hfx.push r, hother⟩
  modifyExchange := by
    intro k n n' f hf h
    obtain ⟨ex, s, hi, hi', ho, hJ⟩ := h
    refine ⟨f ex, s, hi.modifyExchange hf, hi'.modifyExchange hf, ho, fun j hj hne => ?_⟩
    obtain ⟨fx, t, hfx, hother⟩ := hJ j hj hne
    exact ⟨fx, t, hfx.modifyExchange_other (Ne.symm hne) f, by rwa [hf.session]⟩
  send := by
    intro k c hc
    refine Lockstep.before ?_ fun _ => Lockstep.pure _ fun _ _ h => h
    intro n n' h
    obtain ⟨ex, s, hi, hi', ho, hJ⟩ := h
    have hsent (st : SendState) : Apart i J k (n.sentOn ex.session st) (n'.sentOn ex.session st) := by
      refine ⟨ex, st.session, hi.sentOn st, hi'.sentOn st, rfl, fun j hj hne => ?_⟩
      obtain ⟨fx, t, hfx, hother⟩ := hJ j hj hne
      exact ⟨fx, t, hfx.sentOn_other hother.symm st, hother⟩
    rw [run_sendMessage_onSession A hi, run_sendMessage_onSession A hi', ho]
    cases handed ex c.message with
    | error e => exact ⟨rfl, ex, s, hi, hi', ho, hJ⟩
    | ok msg =>
      dsimp only
      cases (Session.sendMessage A msg).run ⟨s, n.sessions.outside⟩ with
      | ok sent st => exact ⟨rfl, hsent st⟩
      | error e st => exact ⟨rfl, hsent st⟩

theorem leaves_apart (A : Aead) (hj : j ∈ J) (hji : j ≠ i) (o : Outside) (n' : Node) :
    Leaves A j fun k n => Apart i J k (n.withOutside o) n' where
  weaken := fun h => h
  outside := fun _ h => h
  push := by
    intro k n r h
    obtain ⟨ex, s, hi, hi', ho, hJ⟩ := h
    refine ⟨ex, s, hi.push r, hi', ho, fun l hl hne => ?_⟩
    obtain ⟨fx, t, hfx, hother⟩ := hJ l hl hne
    exact ⟨fx, t, hfx.push r, hother⟩
  modifyExchange := by
    intro k n f hf h
    obtain ⟨ex, s, hi, hi', ho, hJ⟩ := h
    refine ⟨ex, s, hi.modifyExchange_other hji f, hi', ho, fun l hl hne => ?_⟩
    obtain ⟨fx, t, hfx, hother⟩ := hJ l hl hne
    obtain ⟨fx', hfx', hsame⟩ := hfx.modifyExchange_any j hf
    exact ⟨fx', t, hfx', by rwa [hsame]⟩
  send := by
    intro k c hc
    refine Triple.of_final fun n h => ?_
    obtain ⟨ex, s, hi, hi', ho, hJ⟩ := h
    obtain ⟨fx, t, hfx, hother⟩ := hJ j hj hji
    have hfx' : n.OnSession j fx t := hfx.withOutside n.sessions.outside
    have hsent (st : SendState) : Apart i J k ((n.sentOn fx.session st).withOutside o) n' := by
      refine ⟨ex, s, ?_, hi', ho, fun l hl hne => ?_⟩
      · exact ((hi.withOutside n.sessions.outside).sentOn_other hother st).withOutside o
      · obtain ⟨gx, r, hgx, hother'⟩ := hJ l hl hne
        obtain ⟨r', hgx'⟩ := (hgx.withOutside n.sessions.outside).sentOn_any fx.session st
        exact ⟨gx, r', hgx'.withOutside o, hother'⟩
    rw [run_sendMessage_onSession A hfx']
    cases handed fx c.message with
    | error e => exact ⟨ex, s, hi, hi', ho, hJ⟩
    | ok msg =>
      dsimp only
      cases (Session.sendMessage A msg).run ⟨t, _⟩ with
      | ok sent st => exact hsent st
      | error e st => exact hsent st

/-- **Exchanges on other sessions are not met.** -/
theorem independent_apart (A : Aead) : Independent A i J (Apart i J) :=
  ⟨moves_apart A, fun _ hj hji => leaves_apart A hj hji⟩

/-! ## 5. One session -/

/-- The exchange is on the unsecured session at the place, which knows its peer and has room for `k`
    messages. -/
structure Known (n : Node) (i k : Nat) (ex : Exchange) (m : Nat) (s : Session) : Prop where
  exchange : n.exchanges[i]? = some ex
  reference : ex.session = .unsecured m
  session : n.sessions.sessionsUnsecured[m]? = some s
  peer : s.hasPeerNodeId = true
  conversation : Conversation ex s k

namespace Known

variable {k m : Nat}

/-- It is about the exchanges and the unsecured sessions. -/
theorem congr {n' : Node} (h : n.Known i k ex m s) (hexchanges : n'.exchanges = n.exchanges)
    (hsessions : n'.sessions.sessionsUnsecured = n.sessions.sessionsUnsecured) :
    n'.Known i k ex m s :=
  ⟨by rw [hexchanges, h.exchange], h.reference, by rw [hsessions, h.session], h.peer,
    h.conversation⟩

theorem weaken (h : n.Known i (k + 1) ex m s) : n.Known i k ex m s :=
  ⟨h.exchange, h.reference, h.session, h.peer, h.conversation.weaken⟩

theorem modifyExchange (h : n.Known i k ex m s) {f : Exchange → Exchange}
    (hf : Exchange.Stays f) : (n.modifyExchange i f).Known i k (f ex) m s := by
  refine ⟨?_, (hf.session ex).trans h.reference, h.session, h.peer, h.conversation.modify hf⟩
  show (n.exchanges.modify i f)[i]? = _
  rw [List.getElem?_modify_eq, h.exchange]
  rfl

theorem modifyExchange_other (h : n.Known i k ex m s) (hij : j ≠ i) (f : Exchange → Exchange) :
    (n.modifyExchange j f).Known i k ex m s := by
  refine ⟨?_, h.reference, h.session, h.peer, h.conversation⟩
  show (n.exchanges.modify j f)[i]? = _
  rw [List.getElem?_modify_ne _ _ hij]
  exact h.exchange

theorem onSession (h : n.Known i k ex m s) : n.OnSession i ex s :=
  ⟨h.exchange, by
    rw [h.reference]
    exact h.session⟩

/-- What is sent on another session leaves this one. -/
theorem sentOn_other (h : n.Known i k ex m s) {ref : SessionRef} (hne : ref ≠ .unsecured m)
    (st : SendState) : (n.sentOn ref st).Known i k ex m s := by
  have hsession := (h.onSession.sentOn_other (h.reference.symm ▸ hne) st).session
  rw [h.reference] at hsession
  exact ⟨h.exchange, h.reference, hsession, h.peer, h.conversation⟩

/-- **A message goes out** as one frame: nothing is drawn, the session has taken a counter, and every
    exchange on it has room for one less. -/
theorem run_sendMessage (A : Aead) (h : n.Known i (k + 1) ex m s) (c : Content) :
    ∃ sent st id peer, s.peerNodeId = some id ∧ s.peerInfo = some peer ∧
      s.SameButCounters st.session ∧ st.outside.entropy = n.sessions.outside.entropy ∧
      st.outside.transmitted = n.sessions.outside.transmitted ++
        [⟨s.transport, peer, clearFrame ex id s.messageCounter c⟩] ∧
      (sendMessage A i c.message).run n = .ok sent (n.sentOn (.unsecured m) st) ∧
      ∀ (j : Nat) (fx : Exchange), n.Known j (k + 1) fx m s →
        (n.sentOn (.unsecured m) st).Known j k fx m st.session := by
  obtain ⟨sent, id, o, peer, hlt, hpeer, htx, hkept, hrun⟩ :=
    run_sendMessage_open A h.exchange h.reference h.session h.conversation c
  obtain ⟨hid, ho⟩ := hkept h.peer
  have hsame : s.SameButCounters { s.afterSend with peerNodeId := some id } := by
    rw [← hid]
    rfl
  refine ⟨sent, ⟨{ s.afterSend with peerNodeId := some id }, o⟩, id, peer, hid, hpeer, hsame, ho,
    htx, hrun, fun j fx hj => ?_⟩
  refine ⟨hj.exchange, hj.reference, ?_, ?_, hj.conversation.afterSend hlt fun _ => hid⟩
  · show (n.sessions.sessionsUnsecured.modify m _)[m]? = _
    rw [List.getElem?_modify_eq, h.session]
    rfl
  · have hhas := h.peer
    unfold Session.hasPeerNodeId at hhas
    rw [hid] at hhas
    exact hhas

end Known

/-- The other exchanges of `J` are each on some session; those on the unsecured session with the
    place, which the exchange `i` is on, have room for `k` messages there. -/
def RoomFor (J : List Nat) (n : Node) (k m : Nat) (s : Session) : Prop :=
  ∀ j ∈ J, ∃ fx t, n.OnSession j fx t ∧ (fx.session = .unsecured m → n.Known j k fx m s)

namespace RoomFor

variable {k m : Nat}

theorem weaken (h : RoomFor J n (k + 1) m s) : RoomFor J n k m s := by
  intro j hj
  obtain ⟨fx, t, hfx, hroom⟩ := h j hj
  exact ⟨fx, t, hfx, fun href => (hroom href).weaken⟩

theorem withOutside (h : RoomFor J n k m s) (o : Outside) : RoomFor J (n.withOutside o) k m s := by
  intro j hj
  obtain ⟨fx, t, hfx, hroom⟩ := h j hj
  exact ⟨fx, t, hfx.withOutside o, fun href => (hroom href).congr rfl rfl⟩

theorem push (h : RoomFor J n k m s) (r : Session) : RoomFor J (n.push r) k m s := by
  intro j hj
  obtain ⟨fx, t, hfx, hroom⟩ := h j hj
  exact ⟨fx, t, hfx.push r, fun href => (hroom href).congr rfl rfl⟩

theorem modifyExchange (h : RoomFor J n k m s) (i : Nat) {f : Exchange → Exchange}
    (hf : Exchange.Stays f) : RoomFor J (n.modifyExchange i f) k m s := by
  intro j hj
  obtain ⟨fx, t, hfx, hroom⟩ := h j hj
  by_cases hij : i = j
  · subst hij
    exact ⟨f fx, t, hfx.modifyExchange hf, fun href =>
      (hroom ((hf.session fx).symm.trans href)).modifyExchange hf⟩
  · exact ⟨fx, t, hfx.modifyExchange_other hij f, fun href =>
      (hroom href).modifyExchange_other hij f⟩

/-- A message on the session of the exchanges. -/
theorem sentOn (h : RoomFor J n (k + 1) m s) {st : SendState}
    (hroom : ∀ (j : Nat) (fx : Exchange), n.Known j (k + 1) fx m s →
      (n.sentOn (.unsecured m) st).Known j k fx m st.session) :
    RoomFor J (n.sentOn (.unsecured m) st) k m st.session := by
  intro j hj
  obtain ⟨fx, t, hfx, hknown⟩ := h j hj
  obtain ⟨t', hfx'⟩ := hfx.sentOn_any (.unsecured m) st
  exact ⟨fx, t', hfx', fun href => hroom j fx (hknown href)⟩

/-- A message on another session. -/
theorem sentOn_other (h : RoomFor J n k m s) {ref : SessionRef} (hne : ref ≠ .unsecured m)
    (st : SendState) : RoomFor J (n.sentOn ref st) k m s := by
  intro j hj
  obtain ⟨fx, t, hfx, hknown⟩ := h j hj
  obtain ⟨t', hfx'⟩ := hfx.sentOn_any ref st
  exact ⟨fx, t', hfx', fun href => (hknown href).sentOn_other hne st⟩

end RoomFor

/-- The exchange `i` is the same in both, with room for `k` messages on unsecured sessions that differ
    in their counters, and so have the exchanges of `J` that are on the first one. What was transmitted
    is the same but for the counters, and what is drawn next is the same. -/
def Shares (i : Nat) (J : List Nat) (k : Nat) (n n' : Node) : Prop :=
  ∃ ex m s s', n.Known i k ex m s ∧ n'.Known i k ex m s' ∧ s.SameButCounters s' ∧
    RoomFor J n k m s ∧ n'.sessions.outside.entropy = n.sessions.outside.entropy ∧
    List.Forall₂ Transmission.SameButCounter n.sessions.outside.transmitted
      n'.sessions.outside.transmitted

theorem Shares.weaken {k : Nat} {n' : Node} (h : Shares i J (k + 1) n n') : Shares i J k n n' := by
  obtain ⟨ex, m, s, s', hi, hi', hs, hJ, hout⟩ := h
  exact ⟨ex, m, s, s', hi.weaken, hi'.weaken, hs, hJ.weaken, hout⟩

/-- A message goes out on both. -/
theorem Shares.send (A : Aead) {k : Nat} {n' : Node} (h : Shares i J (k + 1) n n') (c : Content) :
    Together (Shares i J k) ((do let _ ← sendMessage A i c.message : NodeM Unit).run n)
      ((do let _ ← sendMessage A i c.message : NodeM Unit).run n') := by
  obtain ⟨ex, m, s, s', hi, hi', hs, hJ, ho, htx⟩ := h
  obtain ⟨sent, st, id, peer, hid, hpeer, hsame, hentropy, hsent, hrun, hroom⟩ :=
    hi.run_sendMessage A c
  obtain ⟨sent', st', id', peer', hid', hpeer', hsame', hentropy', hsent', hrun', hroom'⟩ :=
    hi'.run_sendMessage A c
  have hframes : List.Forall₂ Transmission.SameButCounter st.outside.transmitted
      st'.outside.transmitted := by
    rw [hsent, hsent']
    exact List.rel_append htx (.cons (hs.transmission hpeer hpeer' hid hid' ex c) .nil)
  rw [run_bind_ok hrun, run_bind_ok hrun']
  exact ⟨rfl, ex, m, st.session, st'.session, hroom i ex hi, hroom' i ex hi',
    hsame.between (hs.trans hsame'), hJ.sentOn hroom, hentropy'.trans (ho.trans hentropy.symm),
    hframes⟩

/-- What is sent on another exchange takes a counter of the session, if it is on it. -/
theorem Shares.send_other (A : Aead) {k : Nat} {n' : Node} {o : Outside} (hj : j ∈ J)
    (h : Shares i J (k + 1) (n.withOutside o) n') (c : Content) :
    Shares i J k ((final ((sendMessage A j c.message).run n)).withOutside o) n' := by
  have hkept := h.weaken
  obtain ⟨ex, m, s, s', hi, hi', hs, hJ, hout⟩ := h
  have hin : n.Known i (k + 1) ex m s := hi.congr rfl rfl
  have hJn : RoomFor J n (k + 1) m s := hJ.withOutside n.sessions.outside
  obtain ⟨fx, t, hfx, hknown⟩ := hJn j hj
  by_cases href : fx.session = .unsecured m
  · obtain ⟨sent, st, -, -, -, -, hsame, -, -, hrun, hroom⟩ := (hknown href).run_sendMessage A c
    rw [hrun]
    exact ⟨ex, m, st.session, s', (hroom i ex hin).congr rfl rfl, hi'.weaken, hsame.between hs,
      (hJn.sentOn hroom).withOutside o, hout⟩
  · have hsent (st : SendState) : Shares i J k ((n.sentOn fx.session st).withOutside o) n' :=
      ⟨ex, m, s, s', (hin.weaken.sentOn_other href st).congr rfl rfl, hi'.weaken, hs,
        (hJn.weaken.sentOn_other href st).withOutside o, hout⟩
    rw [run_sendMessage_onSession A hfx]
    cases handed fx c.message with
    | error e => exact hkept
    | ok msg =>
      dsimp only
      cases (Session.sendMessage A msg).run ⟨t, _⟩ with
      | ok sent st => exact hsent st
      | error e st => exact hsent st

theorem moves_shares (A : Aead) : Moves A i (Shares i J) where
  weaken := Shares.weaken
  entropy := by
    intro k n n' h
    obtain ⟨-, -, -, -, -, -, -, -, ho, -⟩ := h
    exact ho
  draw := by
    intro k n n' e h
    obtain ⟨ex, m, s, s', hi, hi', hs, hJ, -, htx⟩ := h
    exact ⟨ex, m, s, s', hi.congr rfl rfl, hi'.congr rfl rfl, hs, hJ.withOutside _, rfl, htx⟩
  push := by
    intro k n n' r h
    obtain ⟨ex, m, s, s', hi, hi', hs, hJ, hout⟩ := h
    exact ⟨ex, m, s, s', hi.congr rfl rfl, hi'.congr rfl rfl, hs, hJ.push r, hout⟩
  modifyExchange := by
    intro k n n' f hf h
    obtain ⟨ex, m, s, s', hi, hi', hs, hJ, hout⟩ := h
    exact ⟨f ex, m, s, s', hi.modifyExchange hf, hi'.modifyExchange hf, hs, hJ.modifyExchange i hf,
      hout⟩
  send := fun _ _ _ h => h.send A _

theorem leaves_shares (A : Aead) (hj : j ∈ J) (hji : j ≠ i) (o : Outside) (n' : Node) :
    Leaves A j fun k n => Shares i J k (n.withOutside o) n' where
  weaken := Shares.weaken
  outside := fun _ h => h
  push := by
    intro k n r h
    obtain ⟨ex, m, s, s', hi, hi', hs, hJ, hout⟩ := h
    exact ⟨ex, m, s, s', hi.congr rfl rfl, hi', hs, hJ.push r, hout⟩
  modifyExchange := by
    intro k n f hf h
    obtain ⟨ex, m, s, s', hi, hi', hs, hJ, hout⟩ := h
    exact ⟨ex, m, s, s', hi.modifyExchange_other hji f, hi', hs, hJ.modifyExchange j hf, hout⟩
  send := fun _ => Triple.of_final fun _ h => h.send_other A hj _

/-- **Exchanges on the same session are not met**, as long as every message can go out. -/
theorem independent_shares (A : Aead) : Independent A i J (Shares i J) :=
  ⟨moves_shares A, fun _ hj hji => leaves_shares A hj hji⟩

/-! ## 6. Any session -/

theorem OnSession.unique (h : n.OnSession i ex s) (h' : n.OnSession i fx t) : fx = ex ∧ t = s := by
  obtain rfl := Option.some.inj (h'.exchange.symm.trans h.exchange)
  exact ⟨rfl, Option.some.inj (h'.session.symm.trans h.session)⟩

/-- What an exchange hands to its session is a whole message, with the I flag of the exchange. -/
theorem handed_content {c : Content} {msg : Message} (h : handed ex c.message = .ok msg) :
    9 ≤ msg.buffer.length ∧ msg.hasSource = false ∧ msg.hasDestination = false ∧
      beginsOdd (msg.buffer.drop 8) = ex.isInitiator := by
  obtain ⟨msg', haddr, h⟩ := bind_eq_ok h
  obtain ⟨id, -, h⟩ := bind_eq_ok h
  obtain rfl := Except.ok.inj h
  obtain ⟨-, off, hoff, hlen, -, rfl⟩ := address_eq_ok_iff.mp haddr
  have hoff' : c.message.payloadOffset = .ok 8 := payloadOffset_new
  obtain rfl := Except.ok.inj (hoff'.symm.trans hoff)
  have hput : (ex.put 8 c.message.buffer).length = c.message.buffer.length :=
    Exchange.length_put hlen
  refine ⟨?_, rfl, rfl, ?_⟩
  · show 9 ≤ (ex.acked 8 (ex.put 8 c.message.buffer)).length
    rw [ex.length_acked, hput]
    omega
  · show beginsOdd ((ex.acked 8 (ex.put 8 c.message.buffer)).drop 8) = _
    rw [ex.beginsOdd_acked le_rfl (by omega), ex.beginsOdd_put (by omega)]

/-- The exchange `i` is the same in both, on sessions that differ in their counters, where the
    second has taken as many at most; `Q` holds of the first session. What is drawn next is the
    same. -/
def Beside (i : Nat) (J : List Nat) (Q : Session → Prop) (n n' : Node) : Prop :=
  ∃ ex s s', n.OnSession i ex s ∧ n'.OnSession i ex s' ∧ s.SameButCounters s' ∧
    s'.messageCounter ≤ s.messageCounter ∧ Q s ∧
    n'.sessions.outside.entropy = n.sessions.outside.entropy ∧
    ∀ j ∈ J, ∃ fx t, n.OnSession j fx t

/-- The session has counters for `k` messages. -/
abbrev Room (k : Nat) (s : Session) : Prop := s.messageCounter + k ≤ 2 ^ 32

theorem Beside.imp {Q Q' : Session → Prop} {n' : Node} (h : Beside i J Q n n')
    (hQ : ∀ s, Q s → Q' s) : Beside i J Q' n n' := by
  obtain ⟨ex, s, s', hi, hi', hs, hle, hq, ho, hJ⟩ := h
  exact ⟨ex, s, s', hi, hi', hs, hle, hQ s hq, ho, hJ⟩

theorem room_of_succ {k : Nat} (h : Room (k + 1) s) : Room k s := by
  unfold Room at h ⊢
  omega

/-- A message goes out on both, or on none. -/
theorem Beside.send (A : Aead) {k : Nat} {n' : Node} (h : Beside i J (Room (k + 1)) n n')
    (c : Content) : Together (Beside i J (Room k))
      ((do let _ ← sendMessage A i c.message : NodeM Unit).run n)
      ((do let _ ← sendMessage A i c.message : NodeM Unit).run n') := by
  have hkept := h.imp fun _ => room_of_succ
  obtain ⟨ex, s, s', hi, hi', hs, hle, hroom, ho, hJ⟩ := h
  have hrun := run_sendMessage_onSession A hi c.message
  have hrun' := run_sendMessage_onSession A hi' c.message
  cases hhand : handed ex c.message with
  | error e =>
    rw [hhand] at hrun hrun'
    rw [run_bind_error hrun, run_bind_error hrun']
    exact ⟨rfl, hkept⟩
  | ok msg =>
    obtain ⟨hlen, hsource, hdest, -⟩ := handed_content hhand
    unfold Room at hroom
    have hlt : s.messageCounter < 2 ^ 32 := by omega
    have hbefore : Session.SendsAlike s.messageCounter s'.messageCounter
        ⟨s, n.sessions.outside⟩ ⟨s', n'.sessions.outside⟩ := ⟨hs, rfl, rfl, ho⟩
    obtain ⟨a, ha, hsends⟩ := Session.sendMessage_alike A hlen hsource hdest hbefore hlt
      (hle.trans_lt hlt)
    have hafter (st st' : SendState)
        (h : Session.SendsAlike (s.messageCounter + a) (s'.messageCounter + a) st st') :
        Beside i J (Room k) (n.sentOn ex.session st) (n'.sentOn ex.session st') := by
      refine ⟨ex, st.session, st'.session, hi.sentOn st, hi'.sentOn st', h.session, ?_, ?_,
        h.entropy, fun j hj => ?_⟩
      · rw [h.counter, h.counter']
        omega
      · unfold Room
        rw [h.counter]
        omega
      · obtain ⟨fx, t, hfx⟩ := hJ j hj
        obtain ⟨t', hfx'⟩ := hfx.sentOn_any ex.session st
        exact ⟨fx, t', hfx'⟩
    rw [hhand] at hrun hrun'
    dsimp only at hrun hrun'
    obtain ⟨sent, sent', st, st', hsend, hsend', hst⟩ | ⟨e, st, st', hsend, hsend', hst⟩ :=
      hsends.of_discard
    · rw [hsend] at hrun
      rw [hsend'] at hrun'
      rw [run_bind_ok hrun, run_bind_ok hrun']
      exact ⟨rfl, hafter st st' hst⟩
    · rw [hsend] at hrun
      rw [hsend'] at hrun'
      rw [run_bind_error hrun, run_bind_error hrun']
      exact ⟨rfl, hafter st st' hst⟩

/-- **What is done on the exchange** goes for both, as long as its session has counters left. -/
theorem moves_beside (A : Aead) : Moves A i fun k => Beside i J (Room k) where
  weaken := fun h => h.imp fun _ => room_of_succ
  entropy := by
    intro k n n' h
    obtain ⟨-, -, -, -, -, -, -, -, ho, -⟩ := h
    exact ho
  draw := by
    intro k n n' e h
    obtain ⟨ex, s, s', hi, hi', hs, hle, hroom, -, hJ⟩ := h
    refine ⟨ex, s, s', hi.withOutside _, hi'.withOutside _, hs, hle, hroom, rfl, fun j hj => ?_⟩
    obtain ⟨fx, t, hfx⟩ := hJ j hj
    exact ⟨fx, t, hfx.withOutside _⟩
  push := by
    intro k n n' r h
    obtain ⟨ex, s, s', hi, hi', hs, hle, hroom, ho, hJ⟩ := h
    refine ⟨ex, s, s', hi.push r, hi'.push r, hs, hle, hroom, ho, fun j hj => ?_⟩
    obtain ⟨fx, t, hfx⟩ := hJ j hj
    exact ⟨fx, t, hfx.push r⟩
  modifyExchange := by
    intro k n n' f hf h
    obtain ⟨ex, s, s', hi, hi', hs, hle, hroom, ho, hJ⟩ := h
    refine ⟨f ex, s, s', hi.modifyExchange hf, hi'.modifyExchange hf, hs, hle, hroom, ho,
      fun j hj => ?_⟩
    obtain ⟨fx, t, hfx⟩ := hJ j hj
    obtain ⟨fx', hfx', -⟩ := hfx.modifyExchange_any i hf
    exact ⟨fx', t, hfx'⟩
  send := fun _ _ _ h => h.send A _

/-- The session of the exchange `i` draws no node id for what the exchange `j` sends. -/
def Spares (n : Node) (i j : Nat) : Prop :=
  ∀ ex ∈ n.exchanges[i]?, ∀ fx ∈ n.exchanges[j]?, fx.session = ex.session →
    ∀ s ∈ n.sessions.session? ex.session, s.Spares fx.isInitiator

instance (n : Node) (i j : Nat) : Decidable (n.Spares i j) := by
  unfold Spares
  infer_instance

/-- The session of the exchange has counters for `k` messages. -/
def HasRoom (n : Node) (i k : Nat) : Prop :=
  ∀ ex ∈ n.exchanges[i]?, ∀ s ∈ n.sessions.session? ex.session, Room k s

instance (n : Node) (i k : Nat) : Decidable (n.HasRoom i k) := by
  unfold HasRoom
  infer_instance

theorem Beside.room {Q : Session → Prop} {k : Nat} {n' : Node} (h : Beside i J Q n n')
    (hroom : n.HasRoom i k) : Beside i J (Room k) n n' := by
  obtain ⟨ex, s, s', hi, hi', hs, hle, -, ho, hJ⟩ := h
  exact ⟨ex, s, s', hi, hi', hs, hle, hroom ex hi.exchange s hi.session, ho, hJ⟩

/-- What the exchange `j` sends leaves the session of `i` but for its counters. -/
theorem Beside.send_other (A : Aead) {n' : Node} {o : Outside} (hj : j ∈ J)
    (h : Beside i J (fun _ => True) (n.withOutside o) n') (hspares : n.Spares i j) (c : Content) :
    let after := final ((sendMessage A j c.message).run n)
    Beside i J (fun _ => True) (after.withOutside o) n' ∧ after.Spares i j := by
  obtain ⟨ex, s, s', hi, hi', hs, hle, -, ho, hJ⟩ := h
  have hin : n.OnSession i ex s := hi.withOutside n.sessions.outside
  obtain ⟨fx, t, hfx⟩ := hJ j hj
  have hjn : n.OnSession j fx t := hfx.withOutside n.sessions.outside
  have hspare := hspares ex hin.exchange fx hjn.exchange
  have hkeep (st : SendState) {r : Session} (hr : (n.sentOn fx.session st).OnSession i ex r)
      (hsame : s.SameButCounters r) (hmore : s.messageCounter ≤ r.messageCounter) :
      Beside i J (fun _ => True) ((n.sentOn fx.session st).withOutside o) n' ∧
        (n.sentOn fx.session st).Spares i j := by
    refine ⟨⟨ex, r, s', hr.withOutside o, hi', hsame.between hs, hle.trans hmore, trivial, ho,
      fun l hl => ?_⟩, fun ex₁ hex₁ fx₁ hfx₁ href s₁ hs₁ => ?_⟩
    · obtain ⟨gx, u, hgx⟩ := hJ l hl
      obtain ⟨u', hgx'⟩ := (hgx.withOutside n.sessions.outside).sentOn_any fx.session st
      exact ⟨gx, u', hgx'.withOutside o⟩
    · obtain rfl := Option.some.inj (hex₁.symm.trans hr.exchange)
      obtain rfl := Option.some.inj (hfx₁.symm.trans hjn.exchange)
      obtain rfl := Option.some.inj (hs₁.symm.trans hr.session)
      exact hsame.spares (hspare href s hin.session)
  have hsent {msg : Message} (hhand : handed fx c.message = .ok msg) (st : SendState)
      (hst : final ((Session.sendMessage A msg).run ⟨t, n.sessions.outside⟩) = st) :
      Beside i J (fun _ => True) ((n.sentOn fx.session st).withOutside o) n' ∧
        (n.sentOn fx.session st).Spares i j := by
    by_cases href : fx.session = ex.session
    · -- on the session of `i`
      obtain rfl : t = s := Option.some.inj (hjn.session.symm.trans (href ▸ hin.session))
      obtain ⟨hlen, -, -, hodd⟩ := handed_content hhand
      have hbefore : (⟨t, n.sessions.outside⟩ : SendState).session.Spares
          (beginsOdd (msg.buffer.drop 8)) := by
        rw [hodd]
        exact hspare href t hin.session
      obtain ⟨hsame, hmore⟩ := Session.sendMessage_spared A hlen hbefore
      rw [hst] at hsame hmore
      exact hkeep st (href ▸ hin.sentOn st) hsame hmore
    · exact hkeep st (hin.sentOn_other href st) rfl le_rfl
  rw [run_sendMessage_onSession A hjn]
  cases hhand : handed fx c.message with
  | error e => exact ⟨⟨ex, s, s', hi, hi', hs, hle, trivial, ho, hJ⟩, hspares⟩
  | ok msg =>
    dsimp only
    cases hsend : (Session.sendMessage A msg).run ⟨t, n.sessions.outside⟩ with
    | ok sent st => exact hsent hhand st (by rw [hsend]; rfl)
    | error e st => exact hsent hhand st (by rw [hsend]; rfl)

/-- **What is done on another exchange** leaves both as they are, where no node id is drawn. -/
theorem leaves_beside (A : Aead) (hj : j ∈ J) (hji : j ≠ i) (o : Outside) (n' : Node) :
    Leaves A j fun _ n => Beside i J (fun _ => True) (n.withOutside o) n' ∧ n.Spares i j where
  weaken := fun h => h
  outside := by
    intro k n o' h
    refine ⟨h.1, fun ex hex fx hfx href s hs => h.2 ex hex fx hfx href s ?_⟩
    rwa [session?_withOutside] at hs
  push := by
    intro k n r h
    obtain ⟨⟨ex, s, s', hi, hi', hs, hle, -, ho, hJ⟩, hspares⟩ := h
    have hin : n.OnSession i ex s := hi.withOutside n.sessions.outside
    refine ⟨⟨ex, s, s', hi.push r, hi', hs, hle, trivial, ho, fun l hl => ?_⟩,
      fun ex₁ hex₁ fx hfx href s₁ hs₁ => ?_⟩
    · obtain ⟨gx, t, hgx⟩ := hJ l hl
      exact ⟨gx, t, hgx.push r⟩
    · obtain rfl := Option.some.inj (hex₁.symm.trans hin.exchange)
      obtain rfl := Option.some.inj (hs₁.symm.trans (hin.push r).session)
      exact hspares ex₁ hin.exchange fx hfx href s₁ hin.session
  modifyExchange := by
    intro k n f hf h
    obtain ⟨⟨ex, s, s', hi, hi', hs, hle, -, ho, hJ⟩, hspares⟩ := h
    have hin : n.OnSession i ex s := hi.withOutside n.sessions.outside
    refine ⟨⟨ex, s, s', hi.modifyExchange_other hji f, hi', hs, hle, trivial, ho,
      fun l hl => ?_⟩, fun ex₁ hex₁ fx₁ hfx₁ href s₁ hs₁ => ?_⟩
    · obtain ⟨gx, t, hgx⟩ := hJ l hl
      obtain ⟨gx', hgx', -⟩ := hgx.modifyExchange_any j hf
      exact ⟨gx', t, hgx'⟩
    · obtain ⟨fx, t, hfx⟩ := hJ j hj
      have hjn : n.OnSession j fx t := hfx.withOutside n.sessions.outside
      obtain rfl := Option.some.inj (hex₁.symm.trans (hin.modifyExchange_other hji f).exchange)
      obtain rfl := Option.some.inj (hfx₁.symm.trans (hjn.modifyExchange hf).exchange)
      rw [hf.session] at href
      rw [hf.isInitiator]
      exact hspares ex₁ hin.exchange fx hjn.exchange href s₁ hs₁
  send := fun _ => Triple.of_final fun _ h => h.1.send_other A hj h.2 _

end Node

end Matternode.Messaging
