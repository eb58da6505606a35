/-
  File:      Matternode/Protocols/Shell.lean
  Subject:   The shell's `pase` command among the datagrams of a node.

  A command and a datagram are one event each, handled to the end or to where it throws. What a
  listener does with a datagram it is given are events of the node, in any order.

  * `doPase` -- the command: an exchange on a new unsecured session, and a handshake on it;
  * `ShellEvent`, `shellStep` -- the machine;
  * `unsecured_searchable` -- **in every run the unsecured sessions can be searched**.
-/
import Matternode.Messaging.Searchable
import Matternode.Protocols.PaseEffect

namespace Matternode.Protocols

open Base Js Messaging Tlv

variable {V : Type}

/-! ## 1. The command -/

/-- `doPase(args)`, with its options read: `newPase(exchange)` and `startPase()` on a new exchange. -/
def doPase (P : Packages V) (params : PbkdfParams) (peerInfo : PeerInfo) : NodeM Unit := do
  let i ← Node.newExchangeTo .client peerInfo
  zoom (fun n => (PaseHost.create n i params : PaseHost V)) (fun h _ => h.node)
    (PaseSession.startPase P)

/-- Random bytes drawn by the node. -/
def drawBytes (k : Nat) : NodeM Bytes :=
  Node.onSessions (zoom SessionManager.outside (fun o h => { h with outside := o }) (randomBytes k))

inductive ShellEvent where
  | datagram (buf : Bytes) (peerInfo : PeerInfo)
  | pase (params : PbkdfParams) (peerInfo : PeerInfo)
  /-- What a listener does with the node. -/
  | listener (e : NodeEvent)
  /-- Random bytes a listener draws. -/
  | draw (k : Nat)

/-- One event; what threw leaves what it changed. -/
def shellStep (P : Packages V) (n : Node) : ShellEvent → Node
  | .datagram buf peerInfo => final ((Node.onDatagram P.aead buf peerInfo).run n)
  | .pase params peerInfo => final ((doPase P params peerInfo).run n)
  | .listener e => n.step P.aead P.hkdf e
  | .draw k => final ((drawBytes k).run n)

/-! ## 2. What a handshake's start keeps -/

namespace PaseSession

variable {P : Packages V}

/-- The unsecured sessions of the node can be searched. -/
abbrev HostSearchable (h : PaseHost V) : Prop := h.node.Searchable

theorem searchable_onNode {α : Type} {m : NodeM α} (hm : Keeps Node.Searchable m) :
    Keeps HostSearchable (onNode m : PaseM V α) :=
  Keeps.zoom_of hm (fun _ hh => hh) fun _ _ _ hn => hn

theorem searchable_draw {α : Type} (m : EStateM JsError Outside α) :
    Keeps HostSearchable (draw m : PaseM V α) :=
  searchable_onNode (Node.searchable_onSessions (Keeps.zoom m fun _ _ hh => hh))

theorem searchable_assign (f : PaseSession V → PaseSession V) : Keeps HostSearchable (assign f) :=
  Keeps.modify fun _ hh => hh

theorem searchable_sendMessage (msg : Message) : Keeps HostSearchable (sendMessage P msg) :=
  Keeps.bind (Keeps.modify fun _ hh => hh) fun _ => Keeps.bind Keeps.get fun h =>
    Keeps.bind (searchable_onNode (Node.searchable_sendMessage P.aead h.exchange msg)) fun _ =>
      Keeps.pure _

theorem searchable_startPase : Keeps HostSearchable (startPase P) := by
  refine Keeps.bind Keeps.get fun h => ?_
  split
  · exact Keeps.pure _
  · exact Keeps.bind (searchable_assign _) fun _ => Keeps.bind (searchable_draw _) fun _ =>
      Keeps.bind (searchable_assign _) fun _ => Keeps.bind (searchable_draw _) fun _ =>
      Keeps.bind (searchable_assign _) fun _ => Keeps.bind (Keeps.lift _) fun _ =>
      Keeps.bind (searchable_assign _) fun _ => Keeps.bind (Keeps.lift _) fun msg =>
      Keeps.bind (triple_setState fun _ _ _ _ hh => hh) fun _ => searchable_sendMessage msg

end PaseSession

/-! ## 3. Runs -/

theorem searchable_doPase (P : Packages V) (params : PbkdfParams) (peerInfo : PeerInfo) :
    Keeps Node.Searchable (doPase P params peerInfo) :=
  Keeps.bind (Node.searchable_newExchangeTo .client peerInfo) fun _ =>
    Keeps.zoom_of PaseSession.searchable_startPase (fun _ hn => hn) fun _ _ _ hh => hh

theorem searchable_drawBytes (k : Nat) : Keeps Node.Searchable (drawBytes k) :=
  Node.searchable_onSessions (Keeps.zoom _ fun _ _ hh => hh)

theorem searchable_shellStep (P : Packages V) (n : Node) (e : ShellEvent) (hn : n.Searchable) :
    (shellStep P n e).Searchable := by
  cases e with
  | datagram buf peerInfo => exact (Node.searchable_onDatagram P.aead buf peerInfo).final hn
  | pase params peerInfo => exact (searchable_doPase P params peerInfo).final hn
  | listener e => exact Node.searchable_step P.aead P.hkdf n e hn
  | draw k => exact (searchable_drawBytes k).final hn

/-- **In every state of every run** each unsecured session has its address, and the search for one
    answers. -/
theorem unsecured_searchable (P : Packages V) (entropy : Nat → UInt8) (es : List ShellEvent) :
    let h := (run (shellStep P) (Node.init entropy) es).sessions
    (∀ s ∈ h.sessionsUnsecured, s.peerInfo.isSome = true) ∧
      ∀ peerInfo peerNodeId, ∃ found, h.getUnsecureSession peerInfo peerNodeId = .ok found := by
  intro h
  have hh : h.Searchable := run_invariant (shellStep P) (searchable_shellStep P)
    (show (Node.init entropy).Searchable from SessionManager.searchable_init entropy) es
  exact ⟨hh, hh.getUnsecureSession⟩

end Matternode.Protocols
