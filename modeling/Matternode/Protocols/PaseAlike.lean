/-
  File:      Matternode/Protocols/PaseAlike.lean
  Subject:   One PaseSession in two nodes.

  The two nodes agree on the exchange of the PaseSession and on what is drawn, as far as a relation
  says; other sessions may stand in their tables before the ones this PaseSession made.

  * `SameHost` -- the same object, the same log and the same sessions made, at whatever places;
  * `Alike`, `moves_alike` -- **and two nodes that are related**: every event keeps both;
  * `Onward`, `stable_onward` -- the PaseSession stays on its exchange, and sessions are made only.
-/
import Matternode.Messaging.Parallel
import Matternode.Protocols.PaseLockstep

namespace Matternode.Protocols

open Base Js Messaging

variable {V : Type} {P : Packages V}

/-! ## 1. Sessions made -/

/-- What a session was made for, the object as it was, and what the session was made with. -/
def Creation.outcome (n : Node) (c : Creation V) : Nat × PaseSession V × Option Identity :=
  (c.handling, c.pase, n.identities[c.session]?)

/-- Each session made stands in its table. -/
def Stand (n : Node) (created : List (Creation V)) : Prop :=
  ∀ c ∈ created, c.session < n.identities.length

theorem Stand.mono {n m : Node} {created : List (Creation V)} (h : Stand n created)
    (hm : n.identities <+: m.identities) : Stand m created :=
  fun c hc => (h c hc).trans_le hm.length_le

/-- More sessions leave what a session was made with. -/
theorem Stand.outcome {n m : Node} {created : List (Creation V)} (h : Stand n created)
    (hm : n.identities <+: m.identities) :
    created.map (Creation.outcome m) = created.map (Creation.outcome n) := by
  refine List.map_congr_left fun c hc => ?_
  obtain ⟨l, hl⟩ := hm
  unfold Creation.outcome
  rw [← hl, List.getElem?_append_left (h c hc)]

/-! ## 2. The same PaseSession -/

/-- The same PaseSession on the exchange `i` of two nodes. -/
structure SameHost (i : Nat) (h h' : PaseHost V) : Prop extends PaseHost.SameOwn h h' where
  exchange : h.exchange = i
  exchange' : h'.exchange = i
  created : h'.created.map (Creation.outcome h'.node) = h.created.map (Creation.outcome h.node)
  stand : Stand h.node h.created
  stand' : Stand h'.node h'.created

theorem SameHost.refl {i : Nat} {h : PaseHost V} (hexchange : h.exchange = i)
    (hstand : Stand h.node h.created) : SameHost i h h :=
  ⟨.refl h, hexchange, hexchange, rfl, hstand, hstand⟩

/-- Nodes with more sessions. -/
theorem SameHost.withNode {i : Nat} {h h' : PaseHost V} (hs : SameHost i h h') {n n' : Node}
    (hn : h.node.identities <+: n.identities) (hn' : h'.node.identities <+: n'.identities) :
    SameHost i { h with node := n } { h' with node := n' } where
  toSameOwn := ⟨hs.pase, hs.timers, hs.nextTimer, hs.pending, hs.sent⟩
  exchange := hs.exchange
  exchange' := hs.exchange'
  created := (hs.stand'.outcome hn').trans (hs.created.trans (hs.stand.outcome hn).symm)
  stand := hs.stand.mono hn
  stand' := hs.stand'.mono hn'

namespace PaseHost

theorem identities_creates (h : PaseHost V) (handling : Nat) (s : Session) :
    (h.creates handling s).node.identities = h.node.identities ++ [s.identity] :=
  Node.identities_push h.node s

theorem creates_onto (h : PaseHost V) (handling : Nat) (s : Session) :
    h.node.identities <+: (h.creates handling s).node.identities := by
  rw [identities_creates]
  exact List.prefix_append _ _

/-- What was made is what was made before, and the new session. -/
theorem created_creates {h : PaseHost V} (hstand : Stand h.node h.created) (handling : Nat)
    (s : Session) :
    (h.creates handling s).created.map (Creation.outcome (h.creates handling s).node) =
      h.created.map (Creation.outcome h.node) ++ [(handling, h.pase, some s.identity)] := by
  have hlast : Creation.outcome (h.creates handling s).node
      ⟨handling, h.node.sessions.sessionsSecured.length, h.pase⟩ =
        (handling, h.pase, some s.identity) := by
    unfold Creation.outcome
    rw [identities_creates, ← Node.length_identities, List.getElem?_concat_length]
  show (h.created ++ [_]).map _ = _
  rw [List.map_append, hstand.outcome (creates_onto h handling s), List.map_singleton, hlast]

theorem stand_creates {h : PaseHost V} (hstand : Stand h.node h.created) (handling : Nat)
    (s : Session) : Stand (h.creates handling s).node (h.creates handling s).created := by
  intro c hc
  rcases List.mem_append.mp hc with hc | hc
  · exact hstand.mono (creates_onto h handling s) c hc
  · rw [List.mem_singleton.mp hc, identities_creates]
    simp

end PaseHost

theorem SameHost.creates {i : Nat} {h h' : PaseHost V} (hs : SameHost i h h') (handling : Nat)
    (s : Session) : SameHost i (h.creates handling s) (h'.creates handling s) where
  toSameOwn := ⟨hs.pase, hs.timers, hs.nextTimer, hs.pending, hs.sent⟩
  exchange := hs.exchange
  exchange' := hs.exchange'
  created := by
    rw [PaseHost.created_creates hs.stand', PaseHost.created_creates hs.stand, hs.created, hs.pase]
  stand := PaseHost.stand_creates hs.stand handling s
  stand' := PaseHost.stand_creates hs.stand' handling s

/-! ## 3. Two nodes -/

/-- The same object in two nodes that are related. -/
def Alike (R : Nat → Node → Node → Prop) (i k : Nat) (h h' : PaseHost V) : Prop :=
  SameHost i h h' ∧ R k h.node h'.node

/-- What is sent leaves the identities. -/
theorem identities_transmit (h : PaseHost V) (msg : Message) :
    (final ((Node.sendMessage P.aead h.exchange msg).run h.node)).identities = h.node.identities :=
  (Node.identities_sendMessage P.aead h.exchange msg h.node.identities).final rfl

/-- **Every event of the handshake takes both on together.** -/
theorem moves_alike {R : Nat → Node → Node → Prop} {i : Nat} (hR : Node.Moves P.aead i R) :
    HostMoves P (Alike R i) where
  weaken := fun ha => ⟨ha.1, hR.weaken ha.2⟩
  same := fun ha => ha.1.toSameOwn
  own := by
    intro k h h' g g' ha hg hg' hs
    refine ⟨⟨hs, hg.exchange.trans ha.1.exchange, hg'.exchange.trans ha.1.exchange', ?_, ?_, ?_⟩, ?_⟩
    · rw [hg'.created, hg'.node, hg.created, hg.node]
      exact ha.1.created
    · rw [hg.node, hg.created]
      exact ha.1.stand
    · rw [hg'.node, hg'.created]
      exact ha.1.stand'
    · rw [hg.node, hg'.node]
      exact ha.2
  entropy := fun ha => hR.entropy ha.2
  draw := fun e ha => ⟨ha.1.withNode List.prefix_rfl List.prefix_rfl, hR.draw e ha.2⟩
  modifyExchange := by
    intro k h h' f hf ha
    refine ⟨ha.1.withNode List.prefix_rfl List.prefix_rfl, ?_⟩
    show R k (h.node.modifyExchange h.exchange f) (h'.node.modifyExchange h'.exchange f)
    rw [ha.1.exchange, ha.1.exchange']
    exact hR.modifyExchange hf ha.2
  transmit := by
    intro k c hc
    refine Lockstep.after_get fun h h' ha => ?_
    rw [ha.1.exchange, ha.1.exchange', PaseSession.onNode, Lockstep.zoom_discard]
    have hids (l : List Identity) : Keeps (fun n => n.identities = l)
        (do let _ ← Node.sendMessage P.aead i c.message : NodeM Unit) :=
      Keeps.bind (Node.identities_sendMessage P.aead i c.message l) fun _ => Keeps.pure _
    refine Lockstep.zoom (N := fun h h' n n' => R k n n' ∧ n.identities = h.node.identities ∧
      n'.identities = h'.node.identities) (fun h h' ha => ?_) fun h h' n n' ha hnn => ?_
    · exact (hR.send hc).keeping (hids h.node.identities) (hids h'.node.identities) h.node h'.node
        ⟨ha.2, rfl, rfl⟩
    · obtain ⟨hnn, hn, hn'⟩ := hnn
      exact ⟨ha.1.withNode (hn ▸ List.prefix_rfl) (hn' ▸ List.prefix_rfl), hnn⟩
  creates := by
    intro k h h' handling ha
    have hmakes : h'.makes P = h.makes P := by
      unfold PaseHost.makes
      rw [ha.1.pase, hR.entropy ha.2]
    rw [hmakes]
    refine ⟨ha.1.creates handling _, ?_⟩
    show R k ((h.node.push _).withEntropy _) ((h'.node.push _).withEntropy _)
    rw [hR.entropy ha.2]
    exact hR.draw _ (hR.push _ ha.2)

/-- A new PaseSession is the same in both nodes. -/
theorem alike_create {A : Aead} {R : Nat → Node → Node → Prop} {i k : Nat} (hR : Node.Moves A i R)
    {n n' : Node} (hn : R k n n') (params : PbkdfParams) :
    Alike (V := V) R i k (.create n i params) (.create n' i params) := by
  refine ⟨⟨⟨rfl, rfl, rfl, rfl, rfl⟩, rfl, rfl, rfl, ?_, ?_⟩,
    hR.modifyExchange Exchange.stays_isReliable hn⟩
  · exact fun c hc => absurd hc List.not_mem_nil
  · exact fun c hc => absurd hc List.not_mem_nil

/-! ## 4. What any event leaves -/

/-- On the exchange still, with sessions made at most. -/
structure Onward (i : Nat) (n : Node) (h : PaseHost V) : Prop where
  exchange : h.exchange = i
  identities : n.identities <+: h.node.identities

theorem stable_onward (P : Packages V) (i : Nat) (n : Node) : PaseHost.Stable P (Onward i n) where
  own hi hg := ⟨hg.exchange.trans hi.exchange, hg.node ▸ hi.identities⟩
  draw _ hi := ⟨hi.exchange, hi.identities⟩
  modifyExchange _ hi := ⟨hi.exchange, hi.identities⟩
  transmit msg hi := ⟨hi.exchange, (identities_transmit _ msg).symm ▸ hi.identities⟩
  creates _ hi := ⟨hi.exchange, hi.identities.trans (PaseHost.creates_onto _ _ _)⟩

end Matternode.Protocols
