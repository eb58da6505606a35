/-
  File:      Matternode/Protocols/SessionProtocol.lean
  Subject:   SessionProtocol: the PaseSessions of a node, each listening to its exchange.

  A PaseSession is made for an exchange, by who starts a handshake or for the ParamRequest that began
  the exchange. It subscribes to the exchange and stays in the table.

  * `PaseEntry` -- a PaseSession of the table;
  * `SessionProtocol` -- the table in its node; the handshakes of each exchange draw from a stream of
    their own, and keep what they hand over;
  * `getPase`, `newPase`, `onProtocolMessage`; `emit`, `onExchange` -- what listeners do;
  * `SessionProtocol.step` -- what happens on the exchanges;
  * `listeners_others`, `listeners_own` -- **what is emitted on an exchange is for its own listeners**.
-/
import Mathlib.Logic.Function.Basic
import Matternode.Protocols.PaseLockstep

namespace Matternode.Protocols

open Base Js Messaging

/-! ## 1. The table -/

/-- A PaseSession, with the timers and the awaiting handlers it has, and its logs. -/
structure PaseEntry (V : Type) where
  pase : PaseSession V
  exchange : Nat
  timers : List Nat := []
  nextTimer : Nat := 1
  pending : List (Pending V) := []
  sent : List Message := []
  created : List (Creation V) := []

variable {V : Type}

/-- The PaseSession in a node. -/
def PaseEntry.host (p : PaseEntry V) (n : Node) : PaseHost V := { p with node := n }

def PaseHost.entry (h : PaseHost V) : PaseEntry V := { h with }

/-- `_paseSessions` in its node; `params` is what the constructor of PaseSession takes. -/
structure SessionProtocol (V : Type) where
  node : Node
  paseSessions : List (PaseEntry V) := []
  params : PbkdfParams := {}
  /-- What the handshakes on an exchange draw, and what they handed over. -/
  streams : Nat → Outside

namespace SessionProtocol

variable (P : Packages V) (S : SessionProtocol V)

/-- The node, as the handshakes on the exchange find it. -/
def nodeOf (i : Nat) : Node := S.node.withOutside (S.streams i)

/-- The node as the handshakes on the exchange leave it, with the table. -/
def leave (i : Nat) (n : Node) (paseSessions : List (PaseEntry V)) : SessionProtocol V :=
  { S with
    node := n.withOutside S.node.sessions.outside
    paseSessions
    streams := Function.update S.streams i n.sessions.outside }

/-- `getPase(exchange)`. -/
def getPase (i : Nat) : Option (PaseEntry V) := S.paseSessions.find? (·.exchange = i)

/-- `newPase(exchange)`, and what is done with the new PaseSession at once. -/
def newPase (i : Nat) (f : PaseHost V → PaseHost V) : SessionProtocol V :=
  let h := f (.create (S.nodeOf i) i S.params)
  S.leave i h.node (S.paseSessions ++ [h.entry])

/-! ## 2. Listeners -/

/-- What the listeners of an exchange do, one after the other. Each gets its place among them, and
    answers whether the next one comes. -/
def listeners (i : Nat) (f : Nat → PaseHost V → PaseHost V × Bool) :
    Nat → Node → List (PaseEntry V) → Node × List (PaseEntry V)
  | _, n, [] => (n, [])
  | place, n, p :: ps =>
    if p.exchange = i then
      let r := f place (p.host n)
      let rest := if r.2 then listeners i f (place + 1) r.1.node ps else (r.1.node, ps)
      (rest.1, r.1.entry :: rest.2)
    else
      let rest := listeners i f place n ps
      (rest.1, p :: rest.2)

/-- The listeners of the exchange in the table. -/
def onListeners (i : Nat) (f : Nat → PaseHost V → PaseHost V × Bool) : SessionProtocol V :=
  let rest := listeners i f 0 (S.nodeOf i) S.paseSessions
  S.leave i rest.1 rest.2

/-- Three handlers are async: what they throw rejects a promise, and does not reach who emits. -/
def rejects (msg : Message) : Bool :=
  match msg.protocolOpcode with
  | .ok opcode => opcode ∈ [opParamResponse, opPake1, opPake2]
  | .error _ => false

/-- `pase.onExchangeMessage(msg, exchange)`, as a listener: an exception ends what is emitted. -/
def listen (msg : Message) (_ : Nat) (h : PaseHost V) : PaseHost V × Bool :=
  match (PaseSession.onExchangeMessage P msg).run h with
  | .ok _ h => (h, true)
  | .error _ h => (h, rejects msg)

/-- `exchange.emit("message", msg, exchange)`. -/
def emit (i : Nat) (msg : Message) : SessionProtocol V := S.onListeners i (listen P msg)

/-- A message of an exchange: `exchange.AckCounter = msg.MessageCounter`, and then it is emitted. -/
def onExchange (i : Nat) (msg : Message) : SessionProtocol V :=
  match msg.messageCounter with
  | .ok counter =>
    { S with
      node := S.node.modifyExchange i fun ex => { ex with ackCounter := counter } }.emit P i msg
  | .error _ => S

/-- An event of one listener alone. -/
def only (listener : Nat) (e : PaseEvent) (place : Nat) (h : PaseHost V) : PaseHost V × Bool :=
  (if place = listener then h.step P e else h, true)

/-- `onProtocolMessage(msg, exchange)`. -/
def onProtocolMessage (i : Nat) (msg : Message) : SessionProtocol V :=
  match msg.protocolOpcode, msg.exchangeId with
  | .ok opcode, .ok _ =>
    if opcode = opParamRequest then
      match S.getPase i with
      | none => S.newPase i fun h => final ((PaseSession.onExchangeMessage P msg).run h)
      | some _ => S
    else S
  | _, _ => S

end SessionProtocol

/-! ## 3. The machine -/

/-- What happens on an exchange. -/
inductive ProtocolEvent where
  /-- `newPase(exchange).startPase()`. -/
  | begin
  /-- The exchange manager emits the message to the protocol. -/
  | unsolicited (msg : Message)
  /-- A message of the exchange. -/
  | message (msg : Message)
  /-- What a handler of the listener with this place awaited has come. -/
  | resume (listener place coin : Nat)
  /-- A timer of the listener with this place runs out. -/
  | timeout (listener handle : Nat)

/-- An event on an exchange. -/
def SessionProtocol.step (P : Packages V) (S : SessionProtocol V) :
    Nat × ProtocolEvent → SessionProtocol V
  | (i, .begin) => S.newPase i (·.step P .start)
  | (i, .unsolicited msg) => S.onProtocolMessage P i msg
  | (i, .message msg) => S.onExchange P i msg
  | (i, .resume listener place coin) => S.onListeners i (only P listener (.resume place coin))
  | (i, .timeout listener handle) => S.onListeners i (only P listener (.timeout handle))

namespace SessionProtocol

/-! ## 4. Whom an event is for -/

variable {P : Packages V} {i j : Nat} {f : Nat → PaseHost V → PaseHost V × Bool}

theorem listeners_cons_of_eq {p : PaseEntry V} (hp : p.exchange = i) (place : Nat) (n : Node)
    (ps : List (PaseEntry V)) :
    listeners i f place n (p :: ps) =
      let r := f place (p.host n)
      let rest := if r.2 then listeners i f (place + 1) r.1.node ps else (r.1.node, ps)
      (rest.1, r.1.entry :: rest.2) := by
  conv_lhs => unfold listeners
  exact if_pos hp

theorem listeners_cons_of_ne {p : PaseEntry V} (hp : p.exchange ≠ i) (place : Nat) (n : Node)
    (ps : List (PaseEntry V)) :
    listeners i f place n (p :: ps) =
      ((listeners i f place n ps).1, p :: (listeners i f place n ps).2) := by
  conv_lhs => unfold listeners
  exact if_neg hp

/-- What listeners do leaves each on its exchange. -/
def KeepsExchange (f : Nat → PaseHost V → PaseHost V × Bool) : Prop :=
  ∀ place h, (f place h).1.exchange = h.exchange

/-- **The others of the table are left as they are.** -/
theorem listeners_others (hf : KeepsExchange f) (hij : i ≠ j) (place : Nat) (n : Node)
    (ps : List (PaseEntry V)) :
    (listeners i f place n ps).2.filter (·.exchange = j) = ps.filter (·.exchange = j) := by
  induction ps generalizing place n with
  | nil => rfl
  | cons p ps ih =>
    by_cases hp : p.exchange = i
    · have hhead : (f place (p.host n)).1.entry.exchange = i := (hf place (p.host n)).trans hp
      rw [listeners_cons_of_eq hp]
      dsimp only
      rw [List.filter_cons_of_neg (by simpa [hhead] using hij),
        List.filter_cons_of_neg (by simpa [hp] using hij)]
      split
      · exact ih _ _
      · rfl
    · rw [listeners_cons_of_ne hp, List.filter_cons, List.filter_cons, ih]

/-- **The exchange's own listeners do what they do alone.** -/
theorem listeners_own (hf : KeepsExchange f) (place : Nat) (n : Node) (ps : List (PaseEntry V)) :
    (listeners i f place n ps).1 = (listeners i f place n (ps.filter (·.exchange = i))).1 ∧
      (listeners i f place n ps).2.filter (·.exchange = i) =
        (listeners i f place n (ps.filter (·.exchange = i))).2 := by
  induction ps generalizing place n with
  | nil => exact ⟨rfl, rfl⟩
  | cons p ps ih =>
    by_cases hp : p.exchange = i
    · have hhead : (f place (p.host n)).1.entry.exchange = i := (hf place (p.host n)).trans hp
      rw [List.filter_cons_of_pos (by simpa using hp), listeners_cons_of_eq hp,
        listeners_cons_of_eq hp]
      dsimp only
      rw [List.filter_cons_of_pos (by simpa using hhead)]
      split
      · obtain ⟨hnode, htable⟩ := ih (place + 1) (f place (p.host n)).1.node
        exact ⟨hnode, congrArg _ htable⟩
      · exact ⟨rfl, rfl⟩
    · rw [List.filter_cons_of_neg (by simpa using hp), listeners_cons_of_ne hp,
        List.filter_cons_of_neg (by simpa using hp)]
      exact ih place n

end SessionProtocol

end Matternode.Protocols
