/-
  File:      Matternode/Protocols/Hosting.lean
  Subject:   One PaseSession of a whole node.

  An event of an exchange that one PaseSession listens to does to it what the event does to a
  PaseSession with a node of its own.

  * `Node.Upheld`, `upheld_run` -- **what the operations of a node keep, every run of events keeps**;
  * `seated_run` -- the exchanges are seated, in every run;
  * `Hosts` -- the PaseSession of an exchange, with the node as it finds it;
  * `Hosts.resume`, `Hosts.message` -- **an event of its exchange takes it on**;
  * `hosts_pase`, `hosts_begun` -- it is made by the shell's command, or by a first message.
-/
import Matternode.Messaging.Seats
import Matternode.Protocols.Provenance

namespace Matternode.Messaging

open Base Js

/-! ## 1. What the operations of a node keep -/

/-- What a node keeps, whatever it does and whatever is outside. -/
structure Node.Upheld (A : Aead) (I : Node → Prop) : Prop where
  outside : ∀ {n : Node} (o : Outside), I n → I (n.withOutside o)
  push : ∀ {n : Node} (s : Session), I n → I (n.push s)
  modifyExchange : ∀ {n : Node} (i : Nat) {f : Exchange → Exchange}, Exchange.Stays f → I n →
    I (n.modifyExchange i f)
  send : ∀ i msg, Keeps I (Node.sendMessage A i msg)
  datagram : ∀ buf peerInfo, Keeps I (Node.onDatagram A buf peerInfo)
  dial : ∀ transport peerInfo, Keeps I (Node.newExchangeTo transport peerInfo)

theorem Node.upheld_seated (A : Aead) : Node.Upheld A Node.Seated where
  outside _ hn := hn
  push _ hn := hn
  modifyExchange i _ hf hn := Node.seated_modifyExchange hn i hf.session
  send := Node.seated_sendMessage A
  datagram := Node.seated_onDatagram A
  dial := Node.seated_newExchangeTo

end Matternode.Messaging

namespace Matternode.Protocols

open Base Js Messaging SessionProtocol

variable {V : Type} {P : Packages V} {I : Node → Prop}

/-- What handlers are made of keeps it. -/
theorem stable_upheld (hI : Node.Upheld P.aead I) : PaseHost.Stable P fun h => I h.node where
  own hi hg := hg.node ▸ hi
  draw _ hi := hI.outside _ hi
  modifyExchange hf hi := hI.modifyExchange _ hf hi
  transmit msg hi := (hI.send _ msg).final hi
  creates _ hi := hI.outside _ (hI.push _ hi)

theorem upheld_listeners (hI : Node.Upheld P.aead I) {f : Nat → PaseHost V → PaseHost V × Bool}
    (hf : Uniform P f) (i place : Nat) {n : Node} (ps : List (PaseEntry V)) (hn : I n) :
    I (listeners i f place n ps).1 := by
  induction ps generalizing place n with
  | nil => exact hn
  | cons p ps ih =>
    by_cases hp : p.exchange = i
    · rw [listeners_cons_of_eq hp]
      have hhead : I (f place (p.host n)).1.node := hf.keeps (stable_upheld hI) place (h := p.host n) hn
      dsimp only
      split
      · exact ih _ hhead
      · exact hhead
    · rw [listeners_cons_of_ne hp]
      exact ih place hn

namespace Device

variable {W : Surroundings V} {Free : Nat → Identity → Prop} {D : Device V}

section Upholding

variable (hI : Node.Upheld W.packages.aead I)

include hI

theorem upheld_onListeners (i : Nat) {f : Nat → PaseHost V → PaseHost V × Bool}
    (hf : Uniform W.packages f) (hD : I D.node) : I (D.protocol.onListeners i f).node :=
  hI.outside _ (upheld_listeners hI hf i 0 D.protocol.paseSessions (hI.outside _ hD))

theorem upheld_newPase (i : Nat) {f : PaseHost V → PaseHost V} (hf : UniformHost W.packages f)
    (hD : I D.node) : I (D.protocol.newPase i f).node := by
  have hcreate : I (PaseHost.create (V := V) (D.protocol.nodeOf i) i D.protocol.params).node :=
    hI.modifyExchange i Exchange.stays_isReliable (hI.outside _ hD)
  exact hI.outside _ (hf _ (stable_upheld hI).moves 0 _ _ ⟨rfl, hcreate⟩).2

theorem upheld_onIm {m : InteractionModel.ImM Unit}
    (hm : InteractionModel.Sends W.packages.aead m) (hD : I D.node) : I (D.onIm m).node :=
  (hm I hI.send).final (s := { node := D.node, csrRequests := D.csrRequests, nocs := D.nocs }) hD

theorem upheld_deliver (delivery : Delivery) (hD : I D.node) : I (D.deliver W delivery).node := by
  cases delivery with
  | exchange i msg => exact upheld_onListeners hI i (uniform_listen msg) hD
  | dropped => exact hD
  | protocol protocolId msg i =>
    unfold Device.deliver
    dsimp only
    split
    · unfold SessionProtocol.onProtocolMessage
      split
      · split
        · split
          · exact upheld_newPase hI i (uniformHost_onExchangeMessage msg) hD
          · exact hD
        · exact hD
      · exact hD
    · split
      · unfold Device.onImMessage
        split
        · exact upheld_onIm hI (InteractionModel.sends_onReadRequest msg i) hD
        · exact upheld_onIm hI (InteractionModel.sends_onInvokeCommandRequest msg i) hD
        · exact hD
      · exact hD

/-- **Every event keeps what the operations of the node keep.** -/
theorem upheld_step (e : DeviceEvent) (hD : I D.node) : I (D.step W e).node := by
  cases e with
  | datagram buf peerInfo =>
    show I (D.onDatagram W buf peerInfo).node
    unfold Device.onDatagram
    cases hrun : (Node.onDatagram W.packages.aead buf peerInfo).run D.node with
    | error e n => exact Triple.error (hI.datagram buf peerInfo) hD hrun
    | ok delivery n =>
      exact upheld_deliver hI delivery (D := D.withNode n) (Triple.ok (hI.datagram buf peerInfo) hD hrun)
  | pase peerInfo =>
    show I (D.doPase W peerInfo).node
    unfold Device.doPase
    cases hrun : (Node.newExchangeTo .client peerInfo).run D.node with
    | error e n => exact Triple.error (hI.dial .client peerInfo) hD hrun
    | ok i n =>
      exact upheld_newPase hI i uniformHost_start (D := D.withNode n)
        (Triple.ok (hI.dial .client peerInfo) hD hrun)
  | resume exchange listener place coin =>
    exact upheld_onListeners hI exchange (uniform_only listener (e := .resume place coin) trivial) hD
  | timeout exchange listener handle =>
    exact upheld_onListeners hI exchange (uniform_only listener (e := .timeout handle) trivial) hD
  | csr csr => exact upheld_onIm hI (InteractionModel.sends_resumeCsr W.daPrivateKey csr) hD

/-- **And so does every run.** -/
theorem upheld_run (es : List DeviceEvent) (hD : I D.node) : I (run (Device.step W) D es).node :=
  run_invariant (Device.step W) (I := fun D => I D.node) (fun _ e hs => upheld_step hI e hs) hD es

end Upholding

/-- The parameters of new PaseSessions are those that the node was made with. -/
theorem params_run (es : List DeviceEvent) :
    (run (Device.step W) D es).protocol.params = D.protocol.params := by
  refine run_invariant (Device.step W) (I := fun D' => D'.protocol.params = D.protocol.params)
    (fun D' e hs => Eq.trans ?_ hs) rfl es
  have hprotocol (S : SessionProtocol V) (i : Nat) (msg : Message) :
      (S.onProtocolMessage W.packages i msg).params = S.params := by
    unfold SessionProtocol.onProtocolMessage
    split
    · split
      · split <;> rfl
      · rfl
    · rfl
  cases e with
  | datagram buf peerInfo =>
    show (D'.onDatagram W buf peerInfo).protocol.params = _
    unfold Device.onDatagram
    split
    · rename_i delivery n hrun
      unfold Device.deliver
      cases delivery with
      | exchange i msg => rfl
      | dropped => rfl
      | protocol protocolId msg i =>
        dsimp only
        split
        · exact hprotocol _ i msg
        · split
          · unfold Device.onImMessage
            split <;> rfl
          · rfl
    · rfl
  | pase peerInfo =>
    show (D'.doPase W peerInfo).protocol.params = _
    unfold Device.doPase
    split <;> rfl
  | resume exchange listener place coin => rfl
  | timeout exchange listener handle => rfl
  | csr csr => rfl

theorem seated_run (W : Surroundings V) (entropy : Nat → UInt8) (streams : Nat → Outside)
    (params : PbkdfParams) (es : List DeviceEvent) :
    (run (Device.step W) (init entropy streams params) es).node.Seated :=
  upheld_run (Node.upheld_seated _) es (Node.seated_init entropy)

/-! ## 2. The PaseSession of an exchange -/

/-- The exchange has one PaseSession, in the node as it finds it. -/
structure Hosts (D : Device V) (i : Nat) (h : PaseHost V) : Prop where
  exchange : h.exchange = i
  only : D.protocol.on i = [h.entry]
  node : D.protocol.nodeOf i = h.node

variable {i : Nat} {h : PaseHost V}

/-- What its listeners do, the PaseSession does. -/
theorem Hosts.onListeners (hD : D.Hosts i h) {f : Nat → PaseHost V → PaseHost V × Bool}
    (hf : Uniform W.packages f) :
    ({ D with protocol := D.protocol.onListeners i f } : Device V).Hosts i (f 0 h).1 := by
  obtain ⟨hnode, htable⟩ := listeners_own (i := i) hf.keepsExchange 0 (D.protocol.nodeOf i)
    D.protocol.paseSessions
  have hone : D.protocol.paseSessions.filter (·.exchange = i) = [h.entry] := hD.only
  have hhost : h.entry.host (D.protocol.nodeOf i) = h := by
    rw [hD.node]
    rfl
  have hlisteners : listeners i f 0 (D.protocol.nodeOf i) [h.entry] =
      ((f 0 h).1.node, [(f 0 h).1.entry]) := by
    rw [listeners_cons_of_eq (show h.entry.exchange = i from hD.exchange), hhost]
    dsimp only
    split <;> rfl
  rw [hone, hlisteners] at hnode htable
  refine ⟨(hf.keepsExchange 0 h).trans hD.exchange, ?_, ?_⟩
  · exact htable
  · exact (nodeOf_leave D.protocol i _ _).trans hnode

/-- **What was awaited comes.** -/
theorem Hosts.resume (hD : D.Hosts i h) (place coin : Nat) :
    (D.step W (.resume i 0 place coin)).Hosts i (h.step W.packages (.resume place coin)) :=
  hD.onListeners (uniform_only 0 (e := .resume place coin) trivial)

/-- **A message of the exchange comes.** -/
theorem Hosts.message (hD : D.Hosts i h) {buf : Bytes} {peerInfo : PeerInfo} {msg : Message} {n : Node}
    (hrun : (Node.onDatagram W.packages.aead buf peerInfo).run D.node = .ok (.exchange i msg) n) :
    (D.step W (.datagram buf peerInfo)).Hosts i
      (final ((PaseSession.onExchangeMessage W.packages msg).run
        { h with node := n.withOutside (D.protocol.streams i) })) := by
  have hheard : (D.withNode n).Hosts i { h with node := n.withOutside (D.protocol.streams i) } :=
    ⟨hD.exchange, hD.only, rfl⟩
  have hlisten := hheard.onListeners (uniform_listen (P := W.packages) msg)
  have hstep : D.step W (.datagram buf peerInfo) =
      { D.withNode n with protocol := (D.withNode n).protocol.emit W.packages i msg } := by
    show D.onDatagram W buf peerInfo = _
    unfold Device.onDatagram
    rw [hrun]
    rfl
  have hfinal (h : PaseHost V) : (SessionProtocol.listen W.packages msg 0 h).1 =
      final ((PaseSession.onExchangeMessage W.packages msg).run h) := by
    unfold SessionProtocol.listen
    cases (PaseSession.onExchangeMessage W.packages msg).run h <;> rfl
  rw [hstep, ← hfinal]
  exact hlisten

/-! ## 3. A new PaseSession -/

theorem on_nil (hnone : D.protocol.getPase i = none) : D.protocol.on i = [] := by
  rw [getPase_eq, List.head?_eq_none_iff] at hnone
  exact hnone

theorem hosts_newPase (hnone : D.protocol.getPase i = none) {f : PaseHost V → PaseHost V}
    (hf : UniformHost W.packages f) :
    ({ D with protocol := D.protocol.newPase i f } : Device V).Hosts i
      (f (.create (D.protocol.nodeOf i) i D.protocol.params)) := by
  have hexchange := (hf.onward (D.protocol.nodeOf i) i D.protocol.params).exchange
  refine ⟨hexchange, ?_, nodeOf_leave ..⟩
  show (D.protocol.paseSessions ++ [_]).filter _ = _
  rw [List.filter_append, show D.protocol.paseSessions.filter (·.exchange = i) = [] from on_nil hnone,
    List.nil_append, List.filter_cons_of_pos, List.filter_nil]
  exact decide_eq_true hexchange

/-- **The shell's command makes a PaseSession** on a new exchange. -/
theorem hosts_pase (hD : D.Kept W Free) (peerInfo : PeerInfo) :
    let i := D.node.exchanges.length
    (D.step W (.pase peerInfo)).Hosts i ((PaseHost.create
      ((D.node.dialled peerInfo).withOutside (D.protocol.streams i)) i D.protocol.params).step
        W.packages .start) := by
  intro i
  have hstep : D.step W (.pase peerInfo) = { D.withNode (D.node.dialled peerInfo) with
      protocol := (D.withNode (D.node.dialled peerInfo)).protocol.newPase i
        (·.step W.packages .start) } := by
    show D.doPase W peerInfo = _
    unfold Device.doPase
    rw [Node.run_newExchangeTo_client]
    rfl
  rw [hstep]
  exact hosts_newPase (D := D.withNode (D.node.dialled peerInfo))
    (show D.protocol.getPase i = none from hD.getPase (Nat.le_refl _)) uniformHost_start

/-- **A first ParamRequest makes a PaseSession.** -/
theorem hosts_begun (hD : D.Kept W Free) {buf : Bytes} {peerInfo : PeerInfo} {msg : Message} {n : Node}
    {exchangeId : Nat} (hrun : (Node.onDatagram W.packages.aead buf peerInfo).run D.node =
      .ok (.protocol secureChannel msg D.node.exchanges.length) n)
    (hopcode : msg.protocolOpcode = .ok opParamRequest) (hid : msg.exchangeId = .ok exchangeId) :
    let i := D.node.exchanges.length
    (D.step W (.datagram buf peerInfo)).Hosts i
      (final ((PaseSession.onExchangeMessage W.packages msg).run
        (.create (n.withOutside (D.protocol.streams i)) i D.protocol.params))) := by
  intro i
  have hnone : D.protocol.getPase i = none := hD.getPase (Nat.le_refl _)
  have hnone' : (D.withNode n).protocol.getPase i = none := hnone
  have hstep : D.step W (.datagram buf peerInfo) = { D.withNode n with
      protocol := (D.withNode n).protocol.newPase i
        fun h => final ((PaseSession.onExchangeMessage W.packages msg).run h) } := by
    show D.onDatagram W buf peerInfo = _
    unfold Device.onDatagram
    rw [hrun]
    dsimp only
    unfold Device.deliver
    dsimp only
    rw [if_pos rfl]
    unfold SessionProtocol.onProtocolMessage
    rw [hopcode, hid]
    dsimp only
    rw [if_pos rfl, hnone']
  rw [hstep]
  exact hosts_newPase (D := D.withNode n) hnone' (uniformHost_onExchangeMessage msg)

end Device

end Matternode.Protocols
