/-
  File:      Matternode/Messaging/Routing.lean
  Subject:   ExchangeManager: the one exchange a message belongs to.

  The table of exchanges is searched for the first that matches. What makes the first the only one
  is nowhere stored: the ids of exchanges begun here come from a counter, those of exchanges begun
  by a peer from its messages, and the role tells the two apart.

  * `ExchangeKey` -- session, id and role; a message matches an exchange by its key
    (`matchMessage_iff`);
  * `onSessionMessage_found`, `_created`, `_dropped`, `_error` -- what a message can do;
  * `RoutingEvent`, `routingStep` -- the machine: exchanges begun, messages, the session tables;
  * `Routable`, `routable_step` -- the invariant: keys are unique, and ids begun here are counted;
  * `routing` -- **every message goes to the one exchange it belongs to**.
-/
import Matternode.Base.Keyed
import Matternode.Messaging.ClearFrames

namespace Matternode.Messaging

open Base Js

/-! ## 1. Keys -/

/-- What tells exchanges apart. -/
structure ExchangeKey where
  session : SessionRef
  exchangeId : Nat
  isInitiator : Bool
  deriving DecidableEq, Repr

def Exchange.key (ex : Exchange) : ExchangeKey := ⟨ex.session, ex.exchangeId, ex.isInitiator⟩

/-- The key of the exchange a message belongs to: its sender has the other role. -/
def messageKey (ref : SessionRef) (exchangeId : Nat) (iflag : Bool) : ExchangeKey :=
  ⟨ref, exchangeId, !iflag⟩

/-- A message matches only the exchange of its key. -/
theorem key_of_matchMessage {ex : Exchange} {h : SessionManager} {ref : SessionRef}
    {exchangeId sessionId : Nat} {iflag : Bool}
    (hm : ex.matchMessage h ref exchangeId sessionId iflag = true) :
    ex.key = messageKey ref exchangeId iflag := by
  unfold Exchange.matchMessage at hm
  simp only [Bool.and_eq_true, decide_eq_true_eq, bne_iff_ne, ne_eq] at hm
  obtain ⟨⟨⟨hid, -⟩, hrole⟩, href⟩ := hm
  unfold Exchange.key messageKey
  rw [← hid, ← href, Bool.eq_not.mpr (Ne.symm hrole)]

/-- The session id of a frame is the local id of its session. -/
def OwnId (h : SessionManager) (ref : SessionRef) (sessionId : Nat) : Prop :=
  ∃ s, h.session? ref = some s ∧ s.localSessionId.strictEqNat sessionId = true

/-- **A message whose frame carries its session's id matches by the key alone.** -/
theorem matchMessage_iff {ex : Exchange} {h : SessionManager} {ref : SessionRef}
    {exchangeId sessionId : Nat} {iflag : Bool} (hid : OwnId h ref sessionId) :
    ex.matchMessage h ref exchangeId sessionId iflag = true ↔
      ex.key = messageKey ref exchangeId iflag := by
  refine ⟨key_of_matchMessage, ?_⟩
  intro hkey
  obtain ⟨s, hs, heq⟩ := hid
  unfold Exchange.key messageKey at hkey
  simp only [ExchangeKey.mk.injEq] at hkey
  obtain ⟨href, hx, hrole⟩ := hkey
  unfold Exchange.matchMessage
  rw [href, hs, hx, hrole, Option.any_some, heq]
  cases iflag <;> simp

/-! ## 2. What a message does -/

/-- The exchange a message was delivered to. -/
def Delivery.exchange? : Delivery → Option Nat
  | .exchange i _ => some i
  | .protocol _ _ i => some i
  | .dropped => none

namespace Node

/-- The exchange matches the message. -/
def Matches (n : Node) (msg : Message) (ref : SessionRef) (ex : Exchange) : Prop :=
  ∃ sessionId exchangeId iflag, msg.sessionId = .ok sessionId ∧ msg.exchangeId = .ok exchangeId ∧
    msg.iflag = .ok iflag ∧ ex.matchMessage n.sessions ref exchangeId sessionId iflag = true

/-- The frame of the message carries the local id of its session. -/
def Carries (n : Node) (msg : Message) (ref : SessionRef) : Prop :=
  ∃ sessionId, msg.sessionId = .ok sessionId ∧ OwnId n.sessions ref sessionId

/-- **The message goes to an exchange of the table**, which notes its counter; nothing else
    changes. -/
def DeliveredTo (n : Node) (msg : Message) (ref : SessionRef) (i : Nat) : Prop :=
  ∃ counter, msg.messageCounter = .ok counter ∧ (onSessionMessage msg ref).run n =
    .ok (.exchange i msg) (n.modifyExchange i fun ex => { ex with ackCounter := counter })

section Runs

variable {n : Node} {msg : Message} {ref : SessionRef} {sessionId exchangeId : Nat}

theorem onSessionMessage_found {iflag : Bool} {i : Nat} (hs : msg.sessionId = .ok sessionId)
    (hx : msg.exchangeId = .ok exchangeId) (hi : msg.iflag = .ok iflag)
    (hfound : n.getExchange ref exchangeId sessionId iflag = some i) :
    DeliveredTo n msg ref i := by
  obtain ⟨counter, hc⟩ := Message.messageCounter_of_le (Message.header_of_exchangeId hx)
  refine ⟨counter, hc, ?_⟩
  unfold onSessionMessage
  rw [hs, run_bind_ok (run_lift_ok sessionId n), hx, run_bind_ok (run_lift_ok exchangeId n), hi,
    run_bind_ok (run_lift_ok iflag n), run_bind_ok (run_get n), hfound, hc]
  rfl

/-- The exchange a peer's message begins. -/
def remoteExchange (ref : SessionRef) (exchangeId counter : Nat) (rflag : Bool) : Exchange :=
  { exchangeId, session := ref, isInitiator := false, isReliable := rflag, isAck := rflag,
    ackCounter := counter }

theorem onSessionMessage_created {protocolId : Nat} (hs : msg.sessionId = .ok sessionId)
    (hx : msg.exchangeId = .ok exchangeId) (hi : msg.iflag = .ok true)
    (hnone : n.getExchange ref exchangeId sessionId true = none)
    (hp : msg.protocolId = .ok protocolId) :
    ∃ counter rflag, (onSessionMessage msg ref).run n =
      .ok (.protocol protocolId msg n.exchanges.length)
        { n with exchanges := n.exchanges ++ [remoteExchange ref exchangeId counter rflag] } := by
  obtain ⟨counter, hc⟩ := Message.messageCounter_of_le (Message.header_of_exchangeId hx)
  obtain ⟨-, ⟨flags, hflags⟩, -⟩ := Message.protocolId_eq_ok hp
  have hr : msg.rflag = .ok (decide (flags &&& 0x04 ≠ 0)) := by
    unfold Message.rflag Message.exchangeFlag
    rw [hflags]
    rfl
  have hnew : (newExchange (some ref) (some msg)).run n = .ok n.exchanges.length
      { n with exchanges := n.exchanges ++ [{ exchangeId, session := ref }] } := by
    simp only [newExchange, takeExchangeId, hx]
    rfl
  refine ⟨counter, decide (flags &&& 0x04 ≠ 0), ?_⟩
  unfold onSessionMessage
  rw [hs, run_bind_ok (run_lift_ok sessionId n), hx, run_bind_ok (run_lift_ok exchangeId n), hi,
    run_bind_ok (run_lift_ok true n), run_bind_ok (run_get n), hnone, hp, hr, hc]
  simp only [if_true]
  rw [run_bind_ok (run_lift_ok protocolId n), run_bind_ok hnew, run_bind_ok (run_lift_ok _ _),
    run_bind_ok (run_lift_ok counter _), run_bind_ok (run_modify _ _)]
  show EStateM.Result.ok _ (modifyExchange _ _ _) = _
  unfold modifyExchange
  rw [modify_append_one]
  rfl

theorem onSessionMessage_dropped (hs : msg.sessionId = .ok sessionId)
    (hx : msg.exchangeId = .ok exchangeId) (hi : msg.iflag = .ok false)
    (hnone : n.getExchange ref exchangeId sessionId false = none) :
    (onSessionMessage msg ref).run n = .ok .dropped n := by
  unfold onSessionMessage
  rw [hs, run_bind_ok (run_lift_ok sessionId n), hx, run_bind_ok (run_lift_ok exchangeId n), hi,
    run_bind_ok (run_lift_ok false n), run_bind_ok (run_get n), hnone]
  rfl

theorem matches_iff {ex : Exchange} {iflag : Bool} (hs : msg.sessionId = .ok sessionId)
    (hx : msg.exchangeId = .ok exchangeId) (hi : msg.iflag = .ok iflag) :
    n.Matches msg ref ex ↔ ex.matchMessage n.sessions ref exchangeId sessionId iflag = true := by
  constructor
  · rintro ⟨sessionId', exchangeId', iflag', hs', hx', hi', hm⟩
    rw [Except.ok.inj (hs.symm.trans hs'), Except.ok.inj (hx.symm.trans hx'),
      Except.ok.inj (hi.symm.trans hi')]
    exact hm
  · intro hm
    exact ⟨sessionId, exchangeId, iflag, hs, hx, hi, hm⟩

/-- The search answers an exchange that matches, where there is one. -/
theorem getExchange_cases {iflag : Bool} (hs : msg.sessionId = .ok sessionId)
    (hx : msg.exchangeId = .ok exchangeId) (hi : msg.iflag = .ok iflag) :
    (∃ i ex, n.exchanges[i]? = some ex ∧ n.Matches msg ref ex ∧
        n.getExchange ref exchangeId sessionId iflag = some i) ∨
      (∀ ex ∈ n.exchanges, ¬ n.Matches msg ref ex) ∧
        n.getExchange ref exchangeId sessionId iflag = none := by
  cases hfound : n.getExchange ref exchangeId sessionId iflag with
  | some i =>
    obtain ⟨hlt, hm, -⟩ := List.findIdx?_eq_some_iff_getElem.mp hfound
    exact .inl ⟨i, _, List.getElem?_eq_getElem hlt, (matches_iff hs hx hi).mpr hm, rfl⟩
  | none =>
    refine .inr ⟨?_, rfl⟩
    intro ex hex hm
    have hfalse := List.findIdx?_eq_none_iff.mp hfound ex hex
    rw [(matches_iff hs hx hi).mp hm] at hfalse
    cases hfalse

/-- **What a message does**: it goes to an exchange that matches, or begins one, or is dropped, or
    throws and changes nothing. -/
theorem onSessionMessage_cases (n : Node) (msg : Message) (ref : SessionRef) :
    (∃ i ex, n.exchanges[i]? = some ex ∧ n.Matches msg ref ex ∧ n.DeliveredTo msg ref i) ∨
    (∃ exchangeId protocolId counter rflag, msg.exchangeId = .ok exchangeId ∧
      msg.iflag = .ok true ∧ (∀ ex ∈ n.exchanges, ¬ n.Matches msg ref ex) ∧
      (onSessionMessage msg ref).run n = .ok (.protocol protocolId msg n.exchanges.length)
        { n with exchanges := n.exchanges ++ [remoteExchange ref exchangeId counter rflag] }) ∨
    (onSessionMessage msg ref).run n = .ok .dropped n ∨
    ∃ e, (onSessionMessage msg ref).run n = .error e n := by
  cases hs : msg.sessionId with
  | error e =>
    refine .inr (.inr (.inr ⟨e, ?_⟩))
    unfold onSessionMessage
    rw [hs]
    exact run_bind_error (run_lift_error e n)
  | ok sessionId =>
  cases hx : msg.exchangeId with
  | error e =>
    refine .inr (.inr (.inr ⟨e, ?_⟩))
    unfold onSessionMessage
    rw [hs, run_bind_ok (run_lift_ok sessionId n), hx]
    exact run_bind_error (run_lift_error e n)
  | ok exchangeId =>
  cases hi : msg.iflag with
  | error e =>
    refine .inr (.inr (.inr ⟨e, ?_⟩))
    unfold onSessionMessage
    rw [hs, run_bind_ok (run_lift_ok sessionId n), hx, run_bind_ok (run_lift_ok exchangeId n), hi]
    exact run_bind_error (run_lift_error e n)
  | ok iflag =>
  rcases getExchange_cases hs hx hi with ⟨i, ex, hex, hm, hfound⟩ | ⟨hno, hnone⟩
  · exact .inl ⟨i, ex, hex, hm, onSessionMessage_found hs hx hi hfound⟩
  · cases iflag with
    | false => exact .inr (.inr (.inl (onSessionMessage_dropped hs hx hi hnone)))
    | true =>
      cases hp : msg.protocolId with
      | ok protocolId =>
        obtain ⟨counter, rflag, hrun⟩ := onSessionMessage_created hs hx hi hnone hp
        exact .inr (.inl ⟨exchangeId, protocolId, counter, rflag, rfl, rfl, hno, hrun⟩)
      | error e =>
        refine .inr (.inr (.inr ⟨e, ?_⟩))
        unfold onSessionMessage
        rw [hs, run_bind_ok (run_lift_ok sessionId n), hx, run_bind_ok (run_lift_ok exchangeId n),
          hi, run_bind_ok (run_lift_ok true n), run_bind_ok (run_get n), hnone, hp]
        exact run_bind_error (run_lift_error e n)

end Runs

end Node

/-! ## 3. The machine -/

inductive RoutingEvent where
  | newExchange (session : SessionRef)
  | message (msg : Message) (session : SessionRef)
  /-- What else happens to an exchange, and to the session tables. -/
  | setFlags (i : Nat) (isReliable isAck : Bool)
  | tables (e : SessionManager.ManagerEvent)

namespace Node

/-- One event; what threw leaves what it changed. -/
def routingStep (A : Aead) (hkdf : SessionCryptoContext.Hkdf) (n : Node) : RoutingEvent → Node
  | .newExchange session => final ((newExchange (some session)).run n)
  | .message msg session => final ((onSessionMessage msg session).run n)
  | .setFlags i isReliable isAck =>
    n.modifyExchange i fun ex => { ex with isReliable := isReliable, isAck := isAck }
  | .tables e => { n with sessions := n.sessions.step A hkdf e }

/-- The frame of each message carries the local id of its session. -/
def Carried (n : Node) : RoutingEvent → Prop
  | .message msg session => n.Carries msg session
  | _ => True

/-- The exchange begun next here. -/
def localExchange (n : Node) (session : SessionRef) : Exchange :=
  { exchangeId := n.nextExchangeId, session }

theorem newExchange_run (n : Node) (session : SessionRef) :
    (newExchange (some session)).run n = .ok n.exchanges.length { n with
      exchanges := n.exchanges ++ [n.localExchange session]
      nextExchangeId := n.nextExchangeId + 1 } := rfl

/-! ## 4. The invariant -/

/-- **Each exchange has its key alone**, and those begun here have ids that were counted. -/
structure Routable (n : Node) : Prop where
  unique : UniqueKeys Exchange.key n.exchanges
  counted : ∀ ex ∈ n.exchanges, ex.isInitiator = true → ex.exchangeId < n.nextExchangeId

theorem routable_of_empty {n : Node} (h : n.exchanges = []) : n.Routable where
  unique := by
    rw [h]
    exact uniqueKeys_nil
  counted := by
    rw [h]
    nofun

theorem Routable.modifyExchange {n : Node} (h : n.Routable) {f : Exchange → Exchange}
    (hf : ∀ ex, (f ex).key = ex.key) (i : Nat) : (n.modifyExchange i f).Routable where
  unique := h.unique.modify fun ex _ => hf ex
  counted := by
    refine SessionManager.forall_mem_modify (fun ex _ hex hrole => ?_) h.counted
    have hkey := hf ex
    unfold Exchange.key at hkey
    simp only [ExchangeKey.mk.injEq] at hkey
    rw [hkey.2.2] at hrole
    rw [hkey.2.1]
    exact hex hrole

/-- An exchange begun here. -/
theorem Routable.pushLocal {n : Node} (h : n.Routable) (session : SessionRef) :
    ({ n with
      exchanges := n.exchanges ++ [n.localExchange session]
      nextExchangeId := n.nextExchangeId + 1 } : Node).Routable where
  unique := by
    refine h.unique.append_one ?_
    intro ex hex hkey
    unfold Exchange.key localExchange at hkey
    simp only [ExchangeKey.mk.injEq] at hkey
    have hlt := h.counted ex hex hkey.2.2
    omega
  counted := by
    refine SessionManager.forall_mem_append_one (fun ex hex hrole => ?_) fun _ => ?_
    · exact Nat.lt_succ_of_lt (h.counted ex hex hrole)
    · exact Nat.lt_succ_self _

/-- An exchange a peer begins, which none of the table matches. -/
theorem Routable.pushRemote {n : Node} (h : n.Routable) {ref : SessionRef}
    {exchangeId counter : Nat} {rflag : Bool}
    (hnew : ∀ ex ∈ n.exchanges, ex.key ≠ messageKey ref exchangeId true) :
    ({ n with exchanges := n.exchanges ++ [remoteExchange ref exchangeId counter rflag] } :
      Node).Routable where
  unique := h.unique.append_one hnew
  counted := SessionManager.forall_mem_append_one h.counted nofun

/-- **A step keeps the invariant, and each exchange at its place under its key.** -/
theorem routable_step (A : Aead) (hkdf : SessionCryptoContext.Hkdf) (n : Node) (e : RoutingEvent)
    (h : n.Routable) (he : n.Carried e) : (routingStep A hkdf n e).Routable ∧
      KeepsKeys Exchange.key n.exchanges (routingStep A hkdf n e).exchanges := by
  cases e with
  | newExchange session => exact ⟨h.pushLocal session, keepsKeys_append _ _⟩
  | setFlags i isReliable isAck =>
    refine ⟨h.modifyExchange ?_ i, keepsKeys_modify ?_⟩
    · exact fun _ => rfl
    · exact fun _ _ => rfl
  | tables e => exact ⟨⟨h.unique, h.counted⟩, KeepsKeys.refl _⟩
  | message msg session =>
    rcases onSessionMessage_cases n msg session with ⟨i, ex, -, -, counter, -, hrun⟩ |
      ⟨exchangeId, protocolId, counter, rflag, hx, hi, hno, hrun⟩ | hrun | ⟨err, hrun⟩
    · simp only [routingStep, hrun, final_ok]
      refine ⟨h.modifyExchange ?_ i, keepsKeys_modify ?_⟩
      · exact fun _ => rfl
      · exact fun _ _ => rfl
    · simp only [routingStep, hrun, final_ok]
      obtain ⟨sessionId, hs, hown⟩ := he
      refine ⟨h.pushRemote ?_, keepsKeys_append _ _⟩
      intro ex hex hkey
      exact hno ex hex ((matches_iff hs hx hi).mpr ((matchMessage_iff hown).mpr hkey))
    · simp only [routingStep, hrun, final_ok]
      exact ⟨h, KeepsKeys.refl _⟩
    · simp only [routingStep, hrun, final_error]
      exact ⟨h, KeepsKeys.refl _⟩

theorem routable_run (A : Aead) (hkdf : SessionCryptoContext.Hkdf) {n : Node}
    {es : List RoutingEvent} (h : n.Routable) (hes : Along (routingStep A hkdf) Carried n es) :
    (run (routingStep A hkdf) n es).Routable ∧
      KeepsKeys Exchange.key n.exchanges (run (routingStep A hkdf) n es).exchanges := by
  induction es generalizing n with
  | nil => exact ⟨h, KeepsKeys.refl _⟩
  | cons e es ih =>
    obtain ⟨hstep, hkeeps⟩ := routable_step A hkdf n e h hes.1
    obtain ⟨hrun, hkeeps'⟩ := ih hstep hes.2
    exact ⟨hrun, hkeeps.trans hkeeps'⟩

/-- What an event in the middle of a run leaves, the end of the run still has. -/
theorem keepsKeys_after (A : Aead) (hkdf : SessionCryptoContext.Hkdf) {n : Node}
    {before after : List RoutingEvent} {e : RoutingEvent} (h : n.Routable)
    (hes : Along (routingStep A hkdf) Carried n (before ++ e :: after)) :
    KeepsKeys Exchange.key
      (routingStep A hkdf (run (routingStep A hkdf) n before) e).exchanges
      (run (routingStep A hkdf) n (before ++ e :: after)).exchanges := by
  obtain ⟨hbefore, he, hafter⟩ := (along_append _).mp hes
  obtain ⟨hm, -⟩ := routable_run A hkdf h hbefore
  obtain ⟨hm', -⟩ := routable_step A hkdf _ e hm he
  rw [run_append, run_cons]
  exact (routable_run A hkdf hm' hafter).2

/-! ## 5. Routing -/

/-- No message matches two exchanges of the table. -/
def OneMatch (n : Node) : Prop :=
  ∀ (msg : Message) (ref : SessionRef) (i j : Nat) (ex ex' : Exchange),
    n.exchanges[i]? = some ex → n.exchanges[j]? = some ex' → n.Matches msg ref ex →
      n.Matches msg ref ex' → i = j

/-- The messages have the same exchange id and the same I flag. -/
def SameKey (msg msg' : Message) : Prop :=
  ∃ exchangeId iflag, msg.exchangeId = .ok exchangeId ∧ msg'.exchangeId = .ok exchangeId ∧
    msg.iflag = .ok iflag ∧ msg'.iflag = .ok iflag

theorem Routable.oneMatch {n : Node} (h : n.Routable) : n.OneMatch := by
  intro msg ref i j ex ex' hex hex' hm hm'
  obtain ⟨sessionId, exchangeId, iflag, hs, hx, hi, hm⟩ := hm
  have hkey := key_of_matchMessage hm
  have hkey' := key_of_matchMessage ((matches_iff hs hx hi).mp hm')
  exact h.unique.eq_of_key hex hex' (hkey.trans hkey'.symm)

/-- **A message goes to the exchange of its key.** -/
theorem Routable.deliveredTo {n : Node} (h : n.Routable) {msg : Message} {ref : SessionRef}
    (hc : n.Carries msg ref) {exchangeId i : Nat} {iflag : Bool} {ex : Exchange}
    (hx : msg.exchangeId = .ok exchangeId) (hi : msg.iflag = .ok iflag)
    (hex : n.exchanges[i]? = some ex) (hkey : ex.key = messageKey ref exchangeId iflag) :
    n.DeliveredTo msg ref i := by
  obtain ⟨sessionId, hs, hown⟩ := hc
  exact onSessionMessage_found hs hx hi
    (h.unique.findIdx?_eq (fun ex' _ => matchMessage_iff hown) hex hkey)

/-- An exchange that a message was delivered to has its key. -/
theorem key_of_delivered {n n' : Node} {msg : Message} {ref : SessionRef} {d : Delivery} {i : Nat}
    (hrun : (onSessionMessage msg ref).run n = .ok d n') (hd : d.exchange? = some i) :
    ∃ ex exchangeId iflag, n'.exchanges[i]? = some ex ∧ msg.exchangeId = .ok exchangeId ∧
      msg.iflag = .ok iflag ∧ ex.key = messageKey ref exchangeId iflag := by
  rcases onSessionMessage_cases n msg ref with ⟨j, ex, hex, hm, counter, -, hrun'⟩ |
    ⟨exchangeId, protocolId, counter, rflag, hx, hi, -, hrun'⟩ | hrun' | ⟨err, hrun'⟩
  · rw [hrun] at hrun'
    cases hrun'
    cases hd
    obtain ⟨sessionId, exchangeId, iflag, -, hx, hi, hm⟩ := hm
    refine ⟨{ ex with ackCounter := counter }, exchangeId, iflag, ?_, hx, hi,
      key_of_matchMessage hm⟩
    simp [modifyExchange, hex]
  · rw [hrun] at hrun'
    cases hrun'
    cases hd
    exact ⟨remoteExchange ref exchangeId counter rflag, exchangeId, true, by simp, hx, hi, rfl⟩
  · rw [hrun] at hrun'
    cases hrun'
    cases hd
  · rw [hrun] at hrun'
    cases hrun'

/-- A message whose key an earlier exchange had still goes there. -/
theorem deliveredTo_of_keepsKeys {n : Node} {exchanges : List Exchange} (h : n.Routable)
    (hkeeps : KeepsKeys Exchange.key exchanges n.exchanges) {msg : Message} {ref : SessionRef}
    (hc : n.Carries msg ref) {exchangeId i : Nat} {iflag : Bool} {ex : Exchange}
    (hx : msg.exchangeId = .ok exchangeId) (hi : msg.iflag = .ok iflag)
    (hex : exchanges[i]? = some ex) (hkey : ex.key = messageKey ref exchangeId iflag) :
    n.DeliveredTo msg ref i := by
  obtain ⟨ex', hex', hkey'⟩ := hkeeps.getElem? hex
  exact h.deliveredTo hc hx hi hex' (hkey'.trans hkey)

/-- A new exchange only for a message of an initiator that nothing matches. -/
theorem created_only {n : Node} {msg : Message} {ref : SessionRef}
    (hnew : n.exchanges.length < (final ((onSessionMessage msg ref).run n)).exchanges.length) :
    msg.iflag = .ok true ∧ ∀ ex ∈ n.exchanges, ¬ n.Matches msg ref ex := by
  rcases onSessionMessage_cases n msg ref with ⟨j, ex, -, -, counter, -, hrun⟩ |
    ⟨exchangeId, protocolId, counter, rflag, -, hi, hno, -⟩ | hrun | ⟨err, hrun⟩
  · rw [hrun, final_ok, modifyExchange, List.length_modify] at hnew
    omega
  · exact ⟨hi, hno⟩
  · rw [hrun, final_ok] at hnew
    omega
  · rw [hrun, final_error] at hnew
    omega

/-- A message of a responder that nothing matches is dropped. -/
theorem dropped_of_unmatched {n : Node} {msg : Message} {ref : SessionRef} {exchangeId : Nat}
    (hc : n.Carries msg ref) (hx : msg.exchangeId = .ok exchangeId) (hi : msg.iflag = .ok false)
    (hno : ∀ ex ∈ n.exchanges, ¬ n.Matches msg ref ex) :
    (onSessionMessage msg ref).run n = .ok .dropped n := by
  obtain ⟨sessionId, hs, -⟩ := hc
  rcases getExchange_cases hs hx hi with ⟨i, ex, hex, hm, -⟩ | ⟨-, hnone⟩
  · exact absurd hm (hno ex (List.mem_of_getElem? hex))
  · exact onSessionMessage_dropped hs hx hi hnone

/-- **Routing, in every run**: no message matches two exchanges; a message with the key of an earlier
    one that was delivered, or that answers an exchange begun here, goes to that one exchange; an
    exchange is made only for a message of an initiator that nothing matches; and a message of a
    responder that nothing matches is dropped. -/
theorem routing (A : Aead) (hkdf : SessionCryptoContext.Hkdf) {n₀ : Node}
    (hempty : n₀.exchanges = []) {es : List RoutingEvent}
    (hes : Along (routingStep A hkdf) Carried n₀ es) :
    let n := run (routingStep A hkdf) n₀ es
    n.OneMatch ∧
    (∀ before after msg ref d t i, es = before ++ .message msg ref :: after →
      (onSessionMessage msg ref).run (run (routingStep A hkdf) n₀ before) = .ok d t →
      d.exchange? = some i → ∀ msg', n.Carries msg' ref → SameKey msg msg' →
        n.DeliveredTo msg' ref i) ∧
    (∀ before after ref, es = before ++ .newExchange ref :: after →
      let m := run (routingStep A hkdf) n₀ before
      ∀ msg', n.Carries msg' ref → msg'.exchangeId = .ok m.nextExchangeId →
        msg'.iflag = .ok false → n.DeliveredTo msg' ref m.exchanges.length) ∧
    (∀ msg ref,
      n.exchanges.length < (final ((onSessionMessage msg ref).run n)).exchanges.length →
      msg.iflag = .ok true ∧ ∀ ex ∈ n.exchanges, ¬ n.Matches msg ref ex) ∧
    ∀ msg ref exchangeId, n.Carries msg ref → msg.exchangeId = .ok exchangeId →
      msg.iflag = .ok false → (∀ ex ∈ n.exchanges, ¬ n.Matches msg ref ex) →
      (onSessionMessage msg ref).run n = .ok .dropped n := by
  intro n
  have hstart : n₀.Routable := routable_of_empty hempty
  have hn : n.Routable := (routable_run A hkdf hstart hes).1
  refine ⟨hn.oneMatch, ?_, ?_, fun msg ref => created_only, fun msg ref exchangeId =>
    dropped_of_unmatched⟩
  · intro before after msg ref d t i hsplit hrun hd msg' hc hkey
    obtain ⟨exchangeId, iflag, hx, hx', hi, hi'⟩ := hkey
    obtain ⟨ex, exchangeId', iflag', hex, hx'', hi'', hexkey⟩ := key_of_delivered hrun hd
    cases Except.ok.inj (hx.symm.trans hx'')
    cases Except.ok.inj (hi.symm.trans hi'')
    rw [hsplit] at hes
    have hkeeps := keepsKeys_after A hkdf hstart hes
    simp only [routingStep, hrun, final_ok] at hkeeps
    rw [← hsplit] at hkeeps
    exact deliveredTo_of_keepsKeys hn hkeeps hc hx' hi' hex hexkey
  · intro before after ref hsplit m msg' hc hx hi
    rw [hsplit] at hes
    have hkeeps := keepsKeys_after A hkdf hstart hes
    simp only [routingStep, newExchange_run, final_ok] at hkeeps
    rw [← hsplit] at hkeeps
    have hex : (m.exchanges ++ [m.localExchange ref])[m.exchanges.length]? =
        some (m.localExchange ref) := by simp
    exact deliveredTo_of_keepsKeys hn hkeeps hc hx hi hex rfl

/-- A session to a peer, an exchange begun on it, and the peer's answer. -/
def answeredRun : List RoutingEvent :=
  [.tables (.connect .client ⟨"fe80::1", 5540⟩), .newExchange (.unsecured 0),
    .message (newMessage 0 7 0 0 []) (.unsecured 0)]

def newNode : Node := init fun _ => 0

theorem carried_answeredRun :
    Along (routingStep Aead.keyTag fun _ _ _ _ => []) Carried newNode answeredRun :=
  ⟨trivial, trivial, ⟨0, rfl, _, rfl, rfl⟩, trivial⟩

/-- The answer goes to the exchange begun here. -/
theorem routing_answered :
    let n := run (routingStep Aead.keyTag fun _ _ _ _ => []) newNode answeredRun
    n.OneMatch ∧ n.DeliveredTo (newMessage 0 7 0 0 []) (.unsecured 0) 0 := by
  intro n
  have hempty : newNode.exchanges = [] := rfl
  obtain ⟨hone, -, hlocal, -⟩ :=
    routing Aead.keyTag (fun _ _ _ _ => []) hempty carried_answeredRun
  have hsplit : answeredRun = [.tables (.connect .client ⟨"fe80::1", 5540⟩)] ++
      .newExchange (.unsecured 0) :: [.message (newMessage 0 7 0 0 []) (.unsecured 0)] := rfl
  exact ⟨hone, hlocal _ _ _ hsplit (newMessage 0 7 0 0 []) ⟨0, rfl, _, rfl, rfl⟩ rfl rfl⟩

end Node

end Matternode.Messaging
