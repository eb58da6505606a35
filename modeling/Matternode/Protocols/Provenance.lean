/-
  File:      Matternode/Protocols/Provenance.lean
  Subject:   Where the secure sessions and the PaseSessions of a node come from.

  Whatever datagrams come, a secure session is made by a handshake or by a datagram whose id no session
  has. A PaseSession is made for the first message of an exchange, or with the exchange.

  * `Made`, `stable_made` -- the sessions a handler makes are those it records;
  * `listeners_made`, `newPase_made` -- so are those of a table of PaseSessions;
  * `Sends` -- what InteractionModel does with the node is to send;
  * `Kept`, `kept_step` -- **what every event of the whole node keeps**;
  * `sessions_accounted` -- **the secure sessions, in every run**: each was made by one handshake, with
    its ids and the keys of its secret, or by a datagram whose id no session had, and none is lost or
    changed;
  * `one_pase_each` -- **the PaseSessions, in every run**: one for an exchange at most, so that
    SessionProtocol never finds one there is for an unsolicited message.
-/
import Matternode.Base.Keyed
import Matternode.Base.Ledger
import Matternode.Protocols.Device
import Matternode.Protocols.Interference

namespace Matternode.Protocols

open Base Js Messaging

variable {V : Type} {P : Packages V}

/-! ## 1. What a handler makes -/

/-- What the session is made with: the ids, and the keys of the secret; without a secret it is left
    with those of a new context. -/
def Creation.identity (P : Packages V) (c : Creation V) : Identity :=
  ⟨PaseSession.localId c.pase, PaseSession.peerId c.pase, some (match c.pase.secret with
    | some secret => .initFromSecret P.hkdf secret.Ke [] (utf8Encode "SessionKeys".toList)
    | none => .default)⟩

theorem identity_makes (h : PaseHost V) (handling session : Nat) :
    (Creation.mk handling session h.pase).identity P = (h.makes P).identity := by
  unfold Creation.identity PaseHost.makes
  cases h.pase.secret <;> rfl

/-- On the exchange still, with the sessions made that it recorded, and no exchange more. -/
structure Made (P : Packages V) (i : Nat) (n : Node) (created : List (Creation V)) (h : PaseHost V) :
    Prop where
  exchange : h.exchange = i
  exchanges : h.node.exchanges.length = n.exchanges.length
  made : ∃ new, h.created = created ++ new ∧
    Grown Creation.session (Creation.identity P) n.identities new h.node.identities

/-- **A handler makes the sessions that it records.** -/
theorem stable_made (P : Packages V) (i : Nat) (n : Node) (created : List (Creation V)) :
    PaseHost.Stable P (Made P i n created) where
  own := by
    intro h g hi hg
    obtain ⟨new, hcreated, hgrown⟩ := hi.made
    exact ⟨hg.exchange.trans hi.exchange, hg.node ▸ hi.exchanges,
      new, hg.created.trans hcreated, hg.node ▸ hgrown⟩
  draw _ hi := ⟨hi.exchange, hi.exchanges, hi.made⟩
  modifyExchange _ hi := ⟨hi.exchange, (List.length_modify ..).trans hi.exchanges, hi.made⟩
  transmit := by
    intro h msg hi
    have hexchanges := (Node.exchanges_sendMessage P.aead h.exchange msg h.node.exchanges).final rfl
    refine ⟨hi.exchange, (congrArg List.length hexchanges).trans hi.exchanges, ?_⟩
    rw [identities_transmit]
    exact hi.made
  creates := by
    intro h handling hi
    obtain ⟨new, hcreated, hgrown⟩ := hi.made
    let c : Creation V := ⟨handling, h.node.sessions.sessionsSecured.length, h.pase⟩
    refine ⟨hi.exchange, hi.exchanges, new ++ [c], ?_, ?_⟩
    · show h.created ++ [c] = _
      rw [hcreated, List.append_assoc]
    · rw [PaseHost.identities_creates, ← identity_makes h handling c.session]
      exact hgrown.put c (Node.length_identities _).symm

theorem Made.refl (P : Packages V) (h : PaseHost V) : Made P h.exchange h.node h.created h :=
  ⟨rfl, rfl, [], (List.append_nil _).symm, .refl⟩

namespace SessionProtocol

/-! ## 2. What a table of PaseSessions makes -/

/-- What the PaseSessions of a table recorded. -/
def creations (ps : List (PaseEntry V)) : List (Creation V) := ps.flatMap PaseEntry.created

/-- **The listeners of an exchange make the sessions that they record.** -/
theorem listeners_made {f : Nat → PaseHost V → PaseHost V × Bool} (hf : Uniform P f)
    (i place : Nat) (n : Node) (ps : List (PaseEntry V)) :
    (listeners i f place n ps).2.map PaseEntry.exchange = ps.map PaseEntry.exchange ∧
      (listeners i f place n ps).1.exchanges.length = n.exchanges.length ∧
      ∃ new, (creations (listeners i f place n ps).2).Perm (creations ps ++ new) ∧
        Grown Creation.session (Creation.identity P) n.identities new
          (listeners i f place n ps).1.identities := by
  induction ps generalizing place n with
  | nil => exact ⟨rfl, rfl, [], .refl _, .refl⟩
  | cons p ps ih =>
    by_cases hp : p.exchange = i
    · rw [listeners_cons_of_eq hp]
      have hhead := hf.keeps (stable_made P p.exchange n p.created) place (h := p.host n)
        (Made.refl P (p.host n))
      obtain ⟨new, hcreated, hgrown⟩ := hhead.made
      have hentry : (f place (p.host n)).1.entry.exchange = p.exchange := hhead.exchange
      have hlog : (f place (p.host n)).1.entry.created = p.created ++ new := hcreated
      dsimp only
      split
      · obtain ⟨hkeys, hlen, new', hperm, hgrown'⟩ := ih (place + 1) (f place (p.host n)).1.node
        refine ⟨?_, hlen.trans hhead.exchanges, new ++ new', ?_, hgrown.trans hgrown'⟩
        · rw [List.map_cons, List.map_cons, hentry, hkeys]
        · unfold creations at hperm ⊢
          rw [List.flatMap_cons, List.flatMap_cons, hlog]
          -- the new records of the head stand before those of the others
          refine ((List.Perm.refl _).append hperm).trans ?_
          rw [List.append_assoc, List.append_assoc]
          refine (List.Perm.refl _).append ?_
          rw [← List.append_assoc, ← List.append_assoc]
          exact List.perm_append_comm.append_right new'
      · refine ⟨?_, hhead.exchanges, new, ?_, hgrown⟩
        · rw [List.map_cons, List.map_cons, hentry]
        · unfold creations
          rw [List.flatMap_cons, List.flatMap_cons, hlog, List.append_assoc, List.append_assoc]
          exact (List.Perm.refl _).append List.perm_append_comm
    · rw [listeners_cons_of_ne hp]
      obtain ⟨hkeys, hlen, new, hperm, hgrown⟩ := ih place n
      refine ⟨?_, hlen, new, ?_, hgrown⟩
      · rw [List.map_cons, List.map_cons, hkeys]
      · unfold creations at hperm ⊢
        rw [List.flatMap_cons, List.flatMap_cons, List.append_assoc]
        exact (List.Perm.refl _).append hperm

/-- **A new PaseSession makes the sessions that it records.** -/
theorem newPase_made {f : PaseHost V → PaseHost V} (hf : UniformHost P f) (S : SessionProtocol V)
    (i : Nat) :
    (S.newPase i f).paseSessions.map PaseEntry.exchange =
        S.paseSessions.map PaseEntry.exchange ++ [i] ∧
      (S.newPase i f).node.exchanges.length = S.node.exchanges.length ∧
      ∃ new, creations (S.newPase i f).paseSessions = creations S.paseSessions ++ new ∧
        Grown Creation.session (Creation.identity P) S.node.identities new
          (S.newPase i f).node.identities := by
  have hcreate : Made P i (S.nodeOf i) [] (PaseHost.create (V := V) (S.nodeOf i) i S.params) :=
    ⟨rfl, List.length_modify .., [], rfl, .refl⟩
  have hhead := (hf _ (stable_made P i (S.nodeOf i) []).moves 0 _ _ ⟨rfl, hcreate⟩).2
  obtain ⟨new, hcreated, hgrown⟩ := hhead.made
  refine ⟨?_, hhead.exchanges, new, ?_, hgrown⟩
  · show (S.paseSessions ++ [_]).map PaseEntry.exchange = _
    rw [List.map_append, List.map_singleton]
    exact congrArg (S.paseSessions.map PaseEntry.exchange ++ [·]) hhead.exchange
  · show creations (S.paseSessions ++ [_]) = _
    unfold creations
    rw [List.flatMap_append, List.flatMap_singleton]
    exact congrArg _ hcreated

end SessionProtocol

/-! ## 3. What InteractionModel does -/

namespace InteractionModel

/-- All that the script does with the node is to send. -/
def Sends (A : Aead) {α : Type} (m : ImM α) : Prop :=
  ∀ I : Node → Prop, (∀ i msg, Keeps I (Node.sendMessage A i msg)) → Keeps (fun st => I st.node) m

variable {A : Aead} {sign : Sign}

theorem sends_send (i opcode : Nat) (payload : Bytes) : Sends A (send A i opcode payload) :=
  fun _ hI => Keeps.bind (Keeps.lift _) fun _ => Keeps.bind (Keeps.lift _) fun _ =>
    Keeps.bind (Keeps.zoom_of (hI i _) (fun _ hn => hn) fun _ _ _ hn => hn) fun _ => Keeps.pure _

theorem sends_carryOut (i : Nat) (answer : Answer) : Sends A (carryOut A i answer) := by
  intro I hI
  cases answer with
  | silent => exact Keeps.pure _
  | response data payload => exact sends_send i _ payload I hI
  | csr csrNonce commandPath => exact Keeps.modify fun _ hn => hn
  | noc nocTlv payload =>
    exact Keeps.bind (sends_send i _ payload I hI) fun _ => Keeps.modify fun _ hn => hn

theorem sends_handleCommands (i : Nat) (tlv : Bytes) (commands : List JsValue) :
    Sends A (handleCommands A sign i tlv commands) := by
  intro I hI
  induction commands with
  | nil => exact Keeps.pure _
  | cons command commands ih =>
    exact Keeps.bind Keeps.get fun _ => Keeps.bind (Keeps.lift _) fun answer =>
      Keeps.bind (sends_carryOut i answer I hI) fun _ => ih

theorem sends_onInvokeCommandRequest (msg : Message) (i : Nat) :
    Sends A (onInvokeCommandRequest A sign msg i) :=
  fun I hI => Keeps.bind (Keeps.lift _) fun tlv => Keeps.bind (Keeps.lift _) fun commands =>
    sends_handleCommands i tlv commands I hI

theorem sends_onReadRequest (msg : Message) (i : Nat) : Sends A (onReadRequest A msg i) :=
  fun I hI => Keeps.bind (Keeps.lift _) fun _ => Keeps.bind (Keeps.lift _) fun payload =>
    sends_send i _ payload I hI

theorem sends_resumeCsr (daPrivateKey csr : Bytes) : Sends A (resumeCsr A sign daPrivateKey csr) := by
  intro I hI
  refine Keeps.bind Keeps.get fun st => ?_
  split
  · exact Keeps.pure _
  · exact Keeps.bind (Keeps.modify fun _ hn => hn) fun _ => Keeps.bind Keeps.get fun _ =>
      Keeps.bind (Keeps.lift _) fun payload => sends_send _ _ payload I hI

end InteractionModel

/-! ## 4. The whole node -/

namespace Device

variable {W : Surroundings V} {D D' : Device V}

/-- The sessions that the PaseSessions recorded. -/
def creations (D : Device V) : List (Creation V) :=
  SessionProtocol.creations D.protocol.paseSessions

/-- A secure session that a datagram of the run made: no secure session had its id for its peer's
    then, and the new one stands after all that there were. -/
def OfDatagram (W : Surroundings V) (D₀ : Device V) (es : List DeviceEvent) (place : Nat)
    (identity : Identity) : Prop :=
  ∃ before buf peerInfo after, es = before ++ .datagram buf peerInfo :: after ∧
    (run (Device.step W) D₀ before).node.identities.length = place ∧
    identity.MadeBy buf peerInfo (run (Device.step W) D₀ before).node.identities

/-- Each secure session is one that a PaseSession recorded, with its ids and keys, or is `Free`. -/
def SessionsAccounted (W : Surroundings V) (Free : Nat → Identity → Prop) (D : Device V) : Prop :=
  Accounted Creation.session (Creation.identity W.packages) Free D.node.identities D.creations

variable {Free : Nat → Identity → Prop}

/-- **What every event keeps.** -/
structure Kept (W : Surroundings V) (Free : Nat → Identity → Prop) (D : Device V) : Prop where
  distinct : UniqueKeys PaseEntry.exchange D.protocol.paseSessions
  inTable : ∀ i ∈ D.protocol.paseSessions.map PaseEntry.exchange, i < D.node.exchanges.length
  accounted : SessionsAccounted W Free D

/-- Kept, with what there was of secure sessions first. -/
def Onto (W : Surroundings V) (Free : Nat → Identity → Prop) (D D' : Device V) : Prop :=
  D'.Kept W Free ∧ D.node.identities <+: D'.node.identities

theorem Kept.refl (h : D.Kept W Free) : Onto W Free D D := ⟨h, List.prefix_rfl⟩

theorem Onto.trans (h : Onto W Free D D') {D'' : Device V} (h' : Onto W Free D' D'') :
    Onto W Free D D'' :=
  ⟨h'.1, h.2.trans h'.2⟩

/-- The node goes on by itself, and what it makes is free at its place. -/
theorem Kept.withNode (h : D.Kept W Free) {n : Node}
    (hlen : D.node.exchanges.length ≤ n.exchanges.length) {made : Identity → Prop}
    (hgrows : Grows made D.node.identities n.identities)
    (hfree : ∀ identity, made identity → Free D.node.identities.length identity) :
    Onto W Free D (D.withNode n) := by
  refine ⟨⟨h.distinct, fun i hi => (h.inTable i hi).trans_le hlen, ?_⟩, ?_⟩
  · show Accounted _ _ _ n.identities D.creations
    rcases hgrows with hsame | ⟨identity, hmade, hnew⟩
    · rw [hsame]
      exact h.accounted
    · rw [hnew]
      exact h.accounted.free (hfree identity hmade)
  · show _ <+: n.identities
    rcases hgrows with hsame | ⟨identity, -, hnew⟩
    · rw [hsame]
    · rw [hnew]
      exact List.prefix_append _ _

/-- The node goes on by itself and makes nothing. -/
theorem Kept.withNode_same (h : D.Kept W Free) {n : Node}
    (hlen : D.node.exchanges.length ≤ n.exchanges.length)
    (hsame : n.identities = D.node.identities) : Onto W Free D (D.withNode n) := by
  have hgrows : Grows (fun _ => False) D.node.identities n.identities := .inl hsame
  exact h.withNode hlen hgrows fun _ hfalse => hfalse.elim

/-- A table of PaseSessions with more made. -/
theorem Kept.withProtocol (h : D.Kept W Free) {S : SessionProtocol V}
    (hdistinct : UniqueKeys PaseEntry.exchange S.paseSessions)
    (hin : ∀ i ∈ S.paseSessions.map PaseEntry.exchange, i < S.node.exchanges.length)
    {new : List (Creation V)}
    (hperm : (SessionProtocol.creations S.paseSessions).Perm (D.creations ++ new))
    (hgrown : Grown Creation.session (Creation.identity W.packages) D.node.identities new
      S.node.identities) : Onto W Free D { D with protocol := S } :=
  ⟨⟨hdistinct, hin, (h.accounted.grown hgrown).perm hperm.symm⟩, hgrown.isPrefix⟩

theorem Kept.onListeners (h : D.Kept W Free) (i : Nat) {f : Nat → PaseHost V → PaseHost V × Bool}
    (hf : SessionProtocol.Uniform W.packages f) :
    Onto W Free D { D with protocol := D.protocol.onListeners i f } := by
  obtain ⟨hkeys, hlen, new, hperm, hgrown⟩ := SessionProtocol.listeners_made hf i 0
    (D.protocol.nodeOf i) D.protocol.paseSessions
  refine h.withProtocol ?_ ?_ hperm hgrown
  · show (List.map _ _).Nodup
    exact hkeys.symm ▸ h.distinct
  · intro j hj
    exact (h.inTable j (hkeys ▸ hj)).trans_eq hlen.symm

theorem Kept.newPase (h : D.Kept W Free) {i : Nat}
    (hnew : i ∉ D.protocol.paseSessions.map PaseEntry.exchange) (hlt : i < D.node.exchanges.length)
    {f : PaseHost V → PaseHost V} (hf : SessionProtocol.UniformHost W.packages f) :
    Onto W Free D { D with protocol := D.protocol.newPase i f } := by
  obtain ⟨hkeys, hlen, new, hcreations, hgrown⟩ := SessionProtocol.newPase_made hf D.protocol i
  refine h.withProtocol ?_ ?_ (hcreations ▸ .refl _) hgrown
  · show (List.map _ _).Nodup
    rw [hkeys, List.nodup_append]
    refine ⟨h.distinct, List.nodup_singleton _, fun j hj k hk heq => ?_⟩
    rw [List.mem_singleton.mp hk] at heq
    exact hnew (heq ▸ hj)
  · intro j hj
    rw [hkeys, List.mem_append, List.mem_singleton] at hj
    rw [hlen]
    rcases hj with hj | rfl
    · exact h.inTable j hj
    · exact hlt

theorem Kept.onIm (h : D.Kept W Free) {m : InteractionModel.ImM Unit}
    (hm : InteractionModel.Sends W.packages.aead m) : Onto W Free D (D.onIm m) := by
  have hids := (hm _ fun i msg =>
    Node.identities_sendMessage W.packages.aead i msg D.node.identities).final
      (s := { node := D.node, csrRequests := D.csrRequests, nocs := D.nocs }) rfl
  have hexchanges := (hm _ fun i msg =>
    Node.exchanges_sendMessage W.packages.aead i msg D.node.exchanges).final
      (s := { node := D.node, csrRequests := D.csrRequests, nocs := D.nocs }) rfl
  -- the requests and certificates kept besides are nothing to these
  have hnode := h.withNode_same (congrArg List.length hexchanges).ge hids
  exact ⟨⟨hnode.1.distinct, hnode.1.inTable, hnode.1.accounted⟩, hnode.2⟩

/-! ## 5. Events -/

/-- An exchange that is not there has no PaseSession. -/
theorem Kept.getPase (h : D.Kept W Free) {i : Nat} (hi : D.node.exchanges.length ≤ i) :
    D.protocol.getPase i = none := by
  refine List.find?_eq_none.mpr fun p hp hexchange => ?_
  have hlt := h.inTable _ (List.mem_map_of_mem hp)
  rw [of_decide_eq_true hexchange] at hlt
  omega

theorem Kept.onImMessage (h : D.Kept W Free) (msg : Message) (i : Nat) :
    Onto W Free D (D.onImMessage W msg i) := by
  unfold Device.onImMessage
  split
  · exact h.onIm (InteractionModel.sends_onReadRequest msg i)
  · exact h.onIm (InteractionModel.sends_onInvokeCommandRequest msg i)
  · exact h.refl

/-- **A message is delivered**; an exchange whose first message it is has no PaseSession. -/
theorem Kept.deliver (h : D.Kept W Free) {delivery : Delivery}
    (hnew : ∀ protocolId msg i, delivery = .protocol protocolId msg i →
      i ∉ D.protocol.paseSessions.map PaseEntry.exchange ∧ i < D.node.exchanges.length) :
    Onto W Free D (D.deliver W delivery) := by
  cases delivery with
  | exchange i msg => exact h.onListeners i (SessionProtocol.uniform_listen msg)
  | dropped => exact h.refl
  | protocol protocolId msg i =>
    obtain ⟨hfresh, hlt⟩ := hnew protocolId msg i rfl
    unfold Device.deliver
    dsimp only
    split
    · unfold SessionProtocol.onProtocolMessage
      split
      · split
        · split
          · exact h.newPase hfresh hlt (SessionProtocol.uniformHost_onExchangeMessage msg)
          · exact h.refl
        · exact h.refl
      · exact h.refl
    · split
      · exact h.onImMessage msg i
      · exact h.refl

theorem Kept.onDatagram (h : D.Kept W Free) (buf : Bytes) (peerInfo : PeerInfo)
    (hfree : ∀ identity : Identity, identity.MadeBy buf peerInfo D.node.identities →
      Free D.node.identities.length identity) :
    Onto W Free D (D.onDatagram W buf peerInfo) := by
  have hids := Node.onDatagram_identities W.packages.aead buf peerInfo D.node.identities
  have hexchanges :=
    Node.exchanges_onDatagram W.packages.aead buf peerInfo D.node.exchanges.length
  unfold Device.onDatagram
  cases hrun : (Node.onDatagram W.packages.aead buf peerInfo).run D.node with
  | error e n => exact h.withNode (hexchanges.error rfl hrun) (hids.error rfl hrun) hfree
  | ok delivery n =>
    obtain ⟨hlen, hlast⟩ := hexchanges.ok rfl hrun
    have hnode := h.withNode hlen (hids.ok rfl hrun) hfree
    refine hnode.trans (hnode.1.deliver fun protocolId msg i hd => ?_)
    obtain ⟨rfl, hn⟩ := hlast protocolId msg i hd
    exact ⟨fun hmem => absurd (h.inTable _ hmem) (Nat.lt_irrefl _), hn ▸ Nat.lt_succ_self _⟩

theorem Kept.doPase (h : D.Kept W Free) (peerInfo : PeerInfo) : Onto W Free D (D.doPase W peerInfo) := by
  have hids := Node.identities_newExchangeTo .client peerInfo D.node.identities
  have hexchanges := Node.exchanges_newExchangeTo .client peerInfo D.node.exchanges.length
  unfold Device.doPase
  cases hrun : (Node.newExchangeTo .client peerInfo).run D.node with
  | error e n => exact h.withNode_same (hexchanges.error rfl hrun) (Triple.error hids rfl hrun)
  | ok i n =>
    obtain ⟨rfl, hn⟩ := hexchanges.ok rfl hrun
    have hnode := h.withNode_same (n := n) (by omega) (Triple.ok hids rfl hrun)
    refine hnode.trans (hnode.1.newPase ?_ ?_ SessionProtocol.uniformHost_start)
    · exact fun hmem => absurd (h.inTable _ hmem) (Nat.lt_irrefl _)
    · exact (Nat.lt_succ_self _).trans_eq hn.symm

/-- **Every event keeps it**, and only adds secure sessions. -/
theorem kept_step (e : DeviceEvent) (h : D.Kept W Free)
    (hfree : ∀ buf peerInfo, e = .datagram buf peerInfo → ∀ identity : Identity,
      identity.MadeBy buf peerInfo D.node.identities → Free D.node.identities.length identity) :
    Onto W Free D (D.step W e) := by
  cases e with
  | datagram buf peerInfo => exact h.onDatagram buf peerInfo (hfree buf peerInfo rfl)
  | pase peerInfo => exact h.doPase peerInfo
  | resume exchange listener place coin =>
    exact h.onListeners exchange
      (SessionProtocol.uniform_only listener (e := .resume place coin) trivial)
  | timeout exchange listener handle =>
    exact h.onListeners exchange
      (SessionProtocol.uniform_only listener (e := .timeout handle) trivial)
  | csr csr => exact h.onIm (InteractionModel.sends_resumeCsr W.daPrivateKey csr)

theorem kept_init (W : Surroundings V) (Free : Nat → Identity → Prop) (entropy : Nat → UInt8)
    (streams : Nat → Outside) (params : PbkdfParams) :
    (init entropy streams params : Device V).Kept W Free where
  distinct := uniqueKeys_nil
  inTable _ hi := absurd hi List.not_mem_nil
  accounted := .nil

/-- **What a run has made of datagrams, it keeps as that.** -/
theorem kept_run (D₀ : Device V) {es : List DeviceEvent} (h : D₀.Kept W (OfDatagram W D₀ es)) :
    (run (Device.step W) D₀ es).Kept W (OfDatagram W D₀ es) := by
  refine run_invariant_of_split (Device.step W) (fun before e after hes hbefore => ?_) h
  refine (kept_step e hbefore fun buf peerInfo he identity hmade => ?_).1
  exact ⟨before, buf, peerInfo, after, he ▸ hes, rfl, hmade⟩

/-- Every run only adds secure sessions. -/
theorem prefix_run (h : D.Kept W fun _ _ => True) (es : List DeviceEvent) :
    Onto W (fun _ _ => True) D (run (Device.step W) D es) :=
  run_invariant (Device.step W) (I := Onto W _ D)
    (fun _ e hs => hs.trans (kept_step e hs.1 fun _ _ _ _ _ => trivial)) h.refl es

/-! ## 6. Runs -/

/-- **Where the secure sessions come from, in every run**: each was made by one handshake that
    recorded it, with the handshake's ids and the keys of its secret, or by a datagram of the run whose
    id no secure session had, with that id twice and the fixed keys; and whatever comes after, it stays
    in its place with these. -/
theorem sessions_accounted (W : Surroundings V) (entropy : Nat → UInt8) (streams : Nat → Outside)
    (params : PbkdfParams) (es more : List DeviceEvent) :
    let D₀ : Device V := init entropy streams params
    SessionsAccounted W (OfDatagram W D₀ es) (run (Device.step W) D₀ es) ∧
      (run (Device.step W) D₀ es).node.identities <+:
        (run (Device.step W) D₀ (es ++ more)).node.identities := by
  intro D₀
  have hkept : (run (Device.step W) D₀ es).Kept W fun _ _ => True :=
    (prefix_run (kept_init W _ entropy streams params) es).1
  refine ⟨(kept_run D₀ (kept_init W _ entropy streams params)).accounted, ?_⟩
  rw [run_append]
  exact (prefix_run hkept more).2

/-- **One PaseSession for an exchange, in every run**: a message that begins an exchange finds none,
    so that SessionProtocol makes one, and no exchange has two that listen. -/
theorem one_pase_each (W : Surroundings V) (entropy : Nat → UInt8) (streams : Nat → Outside)
    (params : PbkdfParams) (es : List DeviceEvent) :
    let D₀ : Device V := init entropy streams params
    (∀ i, ((run (Device.step W) D₀ es).protocol.on i).length ≤ 1) ∧
      Along (Device.step W) (fun D e => ∀ buf peerInfo protocolId msg i n,
        e = .datagram buf peerInfo →
        (Node.onDatagram W.packages.aead buf peerInfo).run D.node = .ok (.protocol protocolId msg i) n →
        D.protocol.getPase i = none) D₀ es := by
  intro D₀
  have hD₀ : D₀.Kept W fun _ _ => True := kept_init W _ entropy streams params
  constructor
  · intro i
    exact (prefix_run hD₀ es).1.distinct.length_filter_le i
  · refine along_of_invariant (Device.step W) (I := fun D => Kept W (fun _ _ => True) D)
      (fun _ e hs => (kept_step e hs fun _ _ _ _ _ => trivial).1) (fun D e h => ?_) hD₀ es
    intro buf peerInfo protocolId msg i n _ hrun
    obtain ⟨-, hlast⟩ := (Node.exchanges_onDatagram W.packages.aead buf peerInfo
      D.node.exchanges.length).ok rfl hrun
    exact h.getPase (hlast protocolId msg i rfl).1.ge

end Device

end Matternode.Protocols
