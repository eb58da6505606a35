/-
  File:      Matternode/Protocols/Device.lean
  Subject:   Node.js: the layers of a node put together.

  Node makes a SessionManager, an ExchangeManager over it, and two protocols over that; a datagram
  goes up through all of them. Random bytes come from streams, as if each exchange had its own; what
  nothing is known of is the same as what one stream gives.

  * `Device` -- the tables of the node and of its protocols;
  * `deliver`, `onDatagram` -- from a datagram to the handlers of the protocols;
  * `doPase` -- the shell's command;
  * `DeviceEvent`, `Device.step` -- **the machine of the whole node**.
-/
import Matternode.Protocols.ImCommand
import Matternode.Protocols.SessionProtocol

namespace Matternode.Protocols

open Base Js Messaging

variable {V : Type}

/-! ## 1. The layers -/

/-- SessionProtocol with its node, and what InteractionModel has besides. -/
structure Device (V : Type) where
  protocol : SessionProtocol V
  csrRequests : List (Nat × InteractionModel.CommandPath × JsValue) := []
  nocs : List JsValue := []

/-- What is outside the code: the packages, the signatures of elliptic, and the key of the store. -/
structure Surroundings (V : Type) where
  packages : Packages V
  sign : InteractionModel.Sign
  daPrivateKey : Bytes

namespace Device

def node (D : Device V) : Node := D.protocol.node

/-- `new Node()`. -/
def init (entropy : Nat → UInt8) (streams : Nat → Outside) (params : PbkdfParams := {}) :
    Device V where
  protocol := { node := .init entropy, streams, params }

def withNode (D : Device V) (n : Node) : Device V :=
  { D with protocol := { D.protocol with node := n } }

/-- A script of InteractionModel. -/
def onIm (D : Device V) (m : InteractionModel.ImM Unit) : Device V :=
  let st := final (m.run { node := D.node, csrRequests := D.csrRequests, nocs := D.nocs })
  { D.withNode st.node with csrRequests := st.csrRequests, nocs := st.nocs }

variable (W : Surroundings V) (D : Device V)

/-- InteractionModel's `onProtocolMessage(msg, exchange)`: eight of its ten handlers write to the log
    only. -/
def onImMessage (msg : Message) (i : Nat) : Device V :=
  match InteractionModel.onProtocolMessage msg with
  | .ok (some .onReadRequest) => D.onIm (InteractionModel.onReadRequest W.packages.aead msg i)
  | .ok (some .onInvokeCommandRequest) =>
    D.onIm (InteractionModel.onInvokeCommandRequest W.packages.aead W.sign msg i)
  | _ => D

/-- A message is emitted to its listeners. -/
def deliver : Delivery → Device V
  | .exchange i msg => { D with protocol := D.protocol.emit W.packages i msg }
  | .protocol protocolId msg i =>
    if protocolId = secureChannel then
      { D with protocol := D.protocol.onProtocolMessage W.packages i msg }
    else if protocolId = InteractionModel.protocolId then D.onImMessage W msg i
    else D
  | .dropped => D

/-- A datagram, from the socket to the handlers. -/
def onDatagram (buf : Bytes) (peerInfo : PeerInfo) : Device V :=
  match (Node.onDatagram W.packages.aead buf peerInfo).run D.node with
  | .ok delivery n => (D.withNode n).deliver W delivery
  | .error _ n => D.withNode n

/-- `doPase(args)`, with its options read. -/
def doPase (peerInfo : PeerInfo) : Device V :=
  match (Node.newExchangeTo .client peerInfo).run D.node with
  | .ok i n =>
    { D with protocol := { D.protocol with node := n }.newPase i (·.step W.packages .start) }
  | .error _ n => D.withNode n

end Device

/-! ## 2. The machine -/

inductive DeviceEvent where
  | datagram (buf : Bytes) (peerInfo : PeerInfo)
  /-- The shell's command. -/
  | pase (peerInfo : PeerInfo)
  /-- What a handler of a listener of the exchange awaited has come. -/
  | resume (exchange listener place coin : Nat)
  /-- A timer of a listener of the exchange runs out. -/
  | timeout (exchange listener handle : Nat)
  /-- The certificate request that is awaited first is there. -/
  | csr (csr : Bytes)

/-- One event; what threw leaves what it changed. -/
def Device.step (W : Surroundings V) (D : Device V) : DeviceEvent → Device V
  | .datagram buf peerInfo => D.onDatagram W buf peerInfo
  | .pase peerInfo => D.doPase W peerInfo
  | .resume exchange listener place coin =>
    { D with protocol := D.protocol.step W.packages (exchange, .resume listener place coin) }
  | .timeout exchange listener handle =>
    { D with protocol := D.protocol.step W.packages (exchange, .timeout listener handle) }
  | .csr csr => D.onIm (InteractionModel.resumeCsr W.packages.aead W.sign W.daPrivateKey csr)

end Matternode.Protocols
