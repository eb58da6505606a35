/-
  File:      Matternode/Protocols/Interference.lean
  Subject:   Handshakes in parallel: what the others do does not change one.

  The run with all events, and the run with those of one exchange alone, go side by side: an event of
  the exchange is taken by both, and an event of another exchange by the one. Between them the
  exchange's own nodes stay related.

  * `Uniform` -- what a listener does is made of what handlers are made of;
  * `listeners_alike` -- the listeners of an exchange, in two nodes;
  * `Related`, `Related.own`, `Related.other` -- the two runs, and what an event does to them;
  * `related_run` -- **the whole runs**, as long as messages may go out;
  * `apart_not_interfering` -- **an exchange whose session no other is on**: everything is the same,
    the frames with it;
  * `shared_not_interfering` -- **an exchange whose unsecured session others are on**: its handshakes
    do the same, if the session knows its peer and has counters left, and its frames differ in the
    counters.
-/
import Matternode.Protocols.PaseAlike
import Matternode.Protocols.SessionProtocol

namespace Matternode.Protocols

open Base Js Messaging

variable {V : Type} {P : Packages V}

namespace SessionProtocol

/-! ## 1. Listeners -/

/-- What is done with a host goes for every relation that handlers keep. -/
def Uniform (P : Packages V) (f : Nat → PaseHost V → PaseHost V × Bool) : Prop :=
  ∀ (Q : Nat → PaseHost V → PaseHost V → Prop), HostMoves P Q →
    ∀ (place k : Nat) (h h' : PaseHost V), Q (k + 1) h h' →
      Q k (f place h).1 (f place h').1 ∧ (f place h').2 = (f place h).2

theorem uniform_listen (msg : Message) : Uniform P (listen P msg) := by
  intro Q hQ place k h h' hq
  obtain ⟨a, s, t, hr, hr', hst⟩ | ⟨e, s, t, hr, hr', hst⟩ :=
    (PaseSession.lock_onExchangeMessage hQ msg h h' hq).cases
  · unfold listen
    rw [hr, hr']
    exact ⟨hst, rfl⟩
  · unfold listen
    rw [hr, hr']
    exact ⟨hst, rfl⟩

theorem uniform_only (listener : Nat) {e : PaseEvent} (he : PaseHost.Own e) :
    Uniform P (only P listener e) := by
  intro Q hQ place k h h' hq
  refine ⟨?_, rfl⟩
  unfold only
  dsimp only
  split
  · exact hQ.step he hq
  · exact hQ.weaken hq

namespace Uniform

variable {f : Nat → PaseHost V → PaseHost V × Bool} (hf : Uniform P f)

include hf

theorem keeps {I : PaseHost V → Prop} (hI : PaseHost.Stable P I) (place : Nat) {h : PaseHost V}
    (hi : I h) : I (f place h).1 :=
  (hf _ hI.moves place 0 h h ⟨rfl, hi⟩).1.2

theorem onward (place : Nat) (h : PaseHost V) :
    Onward h.exchange h.node (f place h).1 :=
  hf.keeps (stable_onward P h.exchange h.node) place ⟨rfl, List.prefix_rfl⟩

theorem keepsExchange : KeepsExchange f := fun place h => (hf.onward place h).exchange

theorem identities_listeners (i place : Nat) (n : Node) (ps : List (PaseEntry V)) :
    n.identities <+: (listeners i f place n ps).1.identities := by
  induction ps generalizing place n with
  | nil => exact List.prefix_rfl
  | cons p ps ih =>
    by_cases hp : p.exchange = i
    · rw [listeners_cons_of_eq hp]
      have hhead := (hf.onward place (p.host n)).identities
      dsimp only
      split
      · exact hhead.trans (ih _ _)
      · exact hhead
    · rw [listeners_cons_of_ne hp]
      exact ih place n

end Uniform

/-- The entries of two tables, in their nodes. -/
def SameEntries (i : Nat) (n n' : Node) : List (PaseEntry V) → List (PaseEntry V) → Prop :=
  List.Forall₂ fun p p' => SameHost i (p.host n) (p'.host n')

theorem SameEntries.withNode {i : Nat} {n n' m m' : Node} {ps ps' : List (PaseEntry V)}
    (h : SameEntries i n n' ps ps') (hm : n.identities <+: m.identities)
    (hm' : n'.identities <+: m'.identities) : SameEntries i m m' ps ps' :=
  List.Forall₂.imp (fun _ _ hp => hp.withNode hm hm') h

theorem weaken_add {A : Aead} {R : Nat → Node → Node → Prop} {i : Nat} (hR : Node.Moves A i R)
    {k : Nat} (m : Nat) {n n' : Node} (h : R (k + m) n n') : R k n n' := by
  induction m with
  | zero => exact h
  | succ m ih => exact ih (hR.weaken h)

/-- **The listeners of an exchange do the same in both nodes**, with a message each at most. -/
theorem listeners_alike {R : Nat → Node → Node → Prop} {i : Nat} (hR : Node.Moves P.aead i R)
    {f : Nat → PaseHost V → PaseHost V × Bool} (hf : Uniform P f) {ps ps' : List (PaseEntry V)}
    (place k : Nat) {n n' : Node} (hn : R (k + ps.length) n n') (hps : SameEntries i n n' ps ps') :
    R k (listeners i f place n ps).1 (listeners i f place n' ps').1 ∧
      SameEntries i (listeners i f place n ps).1 (listeners i f place n' ps').1
        (listeners i f place n ps).2 (listeners i f place n' ps').2 := by
  induction ps generalizing place n n' ps' with
  | nil =>
    cases hps
    exact ⟨hn, .nil⟩
  | cons p ps ih =>
    cases hps with
    | cons hp hps =>
      rename_i p' ps'
      obtain ⟨hhead, hnext⟩ := hf _ (moves_alike hR) place (k + ps.length) _ _ ⟨hp, hn⟩
      have hgrown := (hf.onward place (p.host n)).identities
      have hgrown' := (hf.onward place (p'.host n')).identities
      rw [listeners_cons_of_eq hp.exchange, listeners_cons_of_eq hp.exchange']
      dsimp only
      rw [hnext]
      split
      · obtain ⟨hnode, hrest⟩ := ih (place + 1) hhead.2 (SameEntries.withNode hps hgrown hgrown')
        exact ⟨hnode, .cons (hhead.1.withNode (hf.identities_listeners _ _ _ _)
          (hf.identities_listeners _ _ _ _)) hrest⟩
      · exact ⟨weaken_add hR ps.length hhead.2,
          .cons hhead.1 (SameEntries.withNode hps hgrown hgrown')⟩

/-! ## 2. Two runs -/

/-- The PaseSessions of an exchange. -/
def on (S : SessionProtocol V) (i : Nat) : List (PaseEntry V) :=
  S.paseSessions.filter (·.exchange = i)

/-- On the exchange `i` the two are related, with `k` messages that may go out. -/
structure Related (R : Nat → Node → Node → Prop) (i k : Nat) (S T : SessionProtocol V) : Prop where
  params : T.params = S.params
  node : R k (S.nodeOf i) (T.nodeOf i)
  entries : SameEntries i (S.nodeOf i) (T.nodeOf i) (S.on i) (T.on i)

section Leaving

variable (S : SessionProtocol V) (i : Nat) (n : Node) (ps : List (PaseEntry V))

theorem streams_leave (j : Nat) (hij : i ≠ j) : (S.leave i n ps).streams j = S.streams j :=
  Function.update_of_ne hij.symm _ _

theorem nodeOf_leave : (S.leave i n ps).nodeOf i = n := by
  have hstream : (S.leave i n ps).streams i = n.sessions.outside := Function.update_self ..
  unfold nodeOf
  rw [hstream]
  rfl

theorem on_leave (j : Nat) : (S.leave i n ps).on j = ps.filter (·.exchange = j) := rfl

end Leaving

variable {R : Nat → Node → Node → Prop} {i k : Nat} {S T : SessionProtocol V}

theorem getPase_eq (S : SessionProtocol V) (i : Nat) : S.getPase i = (S.on i).head? :=
  (List.head?_filter ..).symm

/-- There is a PaseSession in both, or in none. -/
theorem Related.getPase (h : Related R i k S T) :
    (T.getPase i).isSome = (S.getPase i).isSome := by
  rw [getPase_eq, getPase_eq]
  have hentries := h.entries
  generalize S.on i = ps at hentries ⊢
  generalize T.on i = ps' at hentries ⊢
  cases hentries with
  | nil => rfl
  | cons _ _ => rfl

theorem Related.onListeners (hR : Node.Moves P.aead i R)
    {f : Nat → PaseHost V → PaseHost V × Bool} (hf : Uniform P f)
    (h : Related R i (k + (S.on i).length) S T) :
    Related R i k (S.onListeners i f) (T.onListeners i f) := by
  obtain ⟨hnode, htable⟩ := listeners_own (i := i) hf.keepsExchange 0 (S.nodeOf i) S.paseSessions
  obtain ⟨hnode', htable'⟩ := listeners_own (i := i) hf.keepsExchange 0 (T.nodeOf i) T.paseSessions
  obtain ⟨hn, hps⟩ := listeners_alike hR hf 0 k h.node h.entries
  unfold SessionProtocol.onListeners
  refine ⟨h.params, ?_, ?_⟩
  · rw [nodeOf_leave, nodeOf_leave, hnode, hnode']
    exact hn
  · rw [nodeOf_leave, nodeOf_leave, on_leave, on_leave, htable, htable', hnode, hnode']
    exact hps

/-- What is done with a new PaseSession goes for every relation that handlers keep. -/
def UniformHost (P : Packages V) (f : PaseHost V → PaseHost V) : Prop :=
  ∀ (Q : Nat → PaseHost V → PaseHost V → Prop), HostMoves P Q →
    ∀ (k : Nat) (h h' : PaseHost V), Q (k + 1) h h' → Q k (f h) (f h')

theorem uniformHost_start : UniformHost P (·.step P .start) :=
  fun _ hQ _ _ _ hq => hQ.step trivial hq

theorem uniformHost_onExchangeMessage (msg : Message) :
    UniformHost P fun h => final ((PaseSession.onExchangeMessage P msg).run h) :=
  fun _ hQ _ _ _ hq => (PaseSession.lock_onExchangeMessage hQ msg).final hq

theorem UniformHost.onward {f : PaseHost V → PaseHost V} (hf : UniformHost P f) (n : Node) (i : Nat)
    (params : PbkdfParams) : Onward i n (f (.create n i params)) :=
  (hf _ (stable_onward P i n).moves 0 _ _ ⟨rfl, rfl, List.prefix_rfl⟩).2

theorem on_newPase (hij : i ≠ j) {f : PaseHost V → PaseHost V} (hf : UniformHost P f) :
    (S.newPase i f).on j = S.on j := by
  unfold SessionProtocol.newPase
  dsimp only
  rw [on_leave, List.filter_append, List.filter_cons_of_neg, List.filter_nil, List.append_nil]
  · rfl
  · simpa [PaseHost.entry, (hf.onward (S.nodeOf i) i S.params).exchange] using hij

theorem Related.newPase (hR : Node.Moves P.aead i R) {f : PaseHost V → PaseHost V}
    (hf : UniformHost P f) (h : Related R i (k + 1) S T) :
    Related R i k (S.newPase i f) (T.newPase i f) := by
  have hnew := hf _ (moves_alike hR) k _ _ (alike_create hR h.node S.params)
  have hself (S : SessionProtocol V) : (S.newPase i f).on i =
      S.on i ++ [(f (.create (S.nodeOf i) i S.params)).entry] := by
    unfold SessionProtocol.newPase
    dsimp only
    rw [on_leave, List.filter_append, List.filter_cons_of_pos, List.filter_nil]
    · rfl
    · exact decide_eq_true (hf.onward (S.nodeOf i) i S.params).exchange
  have hnode (S : SessionProtocol V) : (S.newPase i f).nodeOf i =
      (f (.create (S.nodeOf i) i S.params)).node := nodeOf_leave ..
  refine ⟨h.params, ?_, ?_⟩
  · rw [hnode, hnode, h.params]
    exact hnew.2
  · rw [hnode, hnode, hself, hself, h.params]
    refine List.rel_append (SameEntries.withNode h.entries ?_ ?_) (.cons hnew.1 .nil)
    · exact (hf.onward (S.nodeOf i) i S.params).identities
    · exact (hf.onward (T.nodeOf i) i S.params).identities

/-- Fewer messages may go out. -/
theorem Related.weaken (hR : Node.Moves P.aead i R) (m : Nat) (h : Related R i (k + m) S T) :
    Related R i k S T :=
  ⟨h.params, weaken_add hR m h.node, h.entries⟩

theorem Related.weaken_le (hR : Node.Moves P.aead i R) {l : Nat} (hle : k ≤ l)
    (h : Related R i l S T) : Related R i k S T :=
  Related.weaken hR (l - k) (by rwa [Nat.add_sub_cancel' hle])

/-- As many messages may go out at an event: one of each listener, or of a new one. -/
def due (S : SessionProtocol V) (i : Nat) : Nat := max 1 (S.on i).length

theorem due_le (S : SessionProtocol V) (i : Nat) : S.due i ≤ S.paseSessions.length + 1 :=
  max_le (Nat.le_add_left ..) ((List.length_filter_le ..).trans (Nat.le_succ _))

/-- **An event of the exchange**, taken by both. -/
theorem Related.own (hR : Node.Moves P.aead i R) (e : ProtocolEvent)
    (h : Related R i (k + S.due i) S T) :
    Related R i k (S.step P (i, e)) (T.step P (i, e)) := by
  have hone : Related R i (k + 1) S T := h.weaken_le hR (Nat.add_le_add_left (le_max_left ..) k)
  have hall : Related R i (k + (S.on i).length) S T :=
    h.weaken_le hR (Nat.add_le_add_left (le_max_right ..) k)
  cases e with
  | begin => exact hone.newPase hR uniformHost_start
  | unsolicited msg =>
    show Related R i k (S.onProtocolMessage P i msg) (T.onProtocolMessage P i msg)
    unfold onProtocolMessage
    have hget := h.getPase
    cases msg.protocolOpcode with
    | error e => exact hone.weaken hR 1
    | ok opcode =>
      cases msg.exchangeId with
      | error e => exact hone.weaken hR 1
      | ok id =>
        dsimp only
        split
        · cases hS : S.getPase i with
          | none =>
            rw [hS] at hget
            rw [Option.isSome_eq_false_iff.mp hget |> Option.isNone_iff_eq_none.mp]
            exact hone.newPase hR (uniformHost_onExchangeMessage msg)
          | some p =>
            rw [hS] at hget
            obtain ⟨p', hp'⟩ := Option.isSome_iff_exists.mp hget
            rw [hp']
            exact hone.weaken hR 1
        · exact hone.weaken hR 1
  | message msg =>
    show Related R i k (S.onExchange P i msg) (T.onExchange P i msg)
    unfold onExchange
    cases hcounter : msg.messageCounter with
    | error e => exact hone.weaken hR 1
    | ok counter =>
      have hack := Exchange.stays_ackCounter (readUIntLE_lt hcounter)
      refine Related.onListeners hR (uniform_listen msg) ⟨h.params, ?_, ?_⟩
      · exact hR.modifyExchange hack hall.node
      · exact SameEntries.withNode hall.entries List.prefix_rfl List.prefix_rfl
  | resume listener place coin => exact hall.onListeners hR (uniform_only listener trivial)
  | timeout listener handle => exact hall.onListeners hR (uniform_only listener trivial)

/-! ## 3. The other exchanges -/

/-- What an event on the exchange `j` leaves. -/
structure Passes (j : Nat) (S S' : SessionProtocol V) : Prop where
  params : S'.params = S.params
  streams : ∀ i, j ≠ i → S'.streams i = S.streams i
  others : ∀ i, j ≠ i → S'.on i = S.on i
  identities : S.node.identities <+: S'.node.identities
  length_le : S'.paseSessions.length ≤ S.paseSessions.length + 1

theorem Passes.refl (j : Nat) (S : SessionProtocol V) : Passes j S S :=
  ⟨rfl, fun _ _ => rfl, fun _ _ => rfl, List.prefix_rfl, Nat.le_succ _⟩

theorem length_listeners (i : Nat) (f : Nat → PaseHost V → PaseHost V × Bool) (place : Nat)
    (n : Node) (ps : List (PaseEntry V)) : (listeners i f place n ps).2.length = ps.length := by
  induction ps generalizing place n with
  | nil => rfl
  | cons p ps ih =>
    by_cases hp : p.exchange = i
    · rw [listeners_cons_of_eq hp]
      dsimp only
      split
      · exact congrArg (· + 1) (ih _ _)
      · rfl
    · rw [listeners_cons_of_ne hp]
      exact congrArg (· + 1) (ih _ _)

theorem passes_onListeners (j : Nat) {f : Nat → PaseHost V → PaseHost V × Bool}
    (hf : Uniform P f) (S : SessionProtocol V) : Passes j S (S.onListeners j f) where
  params := rfl
  streams _ hij := streams_leave S j _ _ _ hij
  others _ hij := listeners_others hf.keepsExchange hij 0 _ _
  identities := hf.identities_listeners j 0 (S.nodeOf j) S.paseSessions
  length_le := (length_listeners ..).le.trans (Nat.le_succ _)

theorem passes_newPase (j : Nat) {f : PaseHost V → PaseHost V} (hf : UniformHost P f)
    (S : SessionProtocol V) : Passes j S (S.newPase j f) where
  params := rfl
  streams _ hij := streams_leave S j _ _ _ hij
  others _ hij := on_newPase hij hf
  identities := (hf.onward (S.nodeOf j) j S.params).identities
  length_le := by
    show (S.paseSessions ++ [_]).length ≤ _
    rw [List.length_append, List.length_singleton]

theorem passes_step (P : Packages V) (j : Nat) (e : ProtocolEvent) (S : SessionProtocol V) :
    Passes j S (S.step P (j, e)) := by
  cases e with
  | begin => exact passes_newPase j uniformHost_start S
  | unsolicited msg =>
    show Passes j S (S.onProtocolMessage P j msg)
    unfold onProtocolMessage
    split
    · split
      · split
        · exact passes_newPase j (uniformHost_onExchangeMessage msg) S
        · exact .refl j S
      · exact .refl j S
    · exact .refl j S
  | message msg =>
    show Passes j S (S.onExchange P j msg)
    unfold onExchange
    split
    · exact { passes_onListeners j (uniform_listen msg) { S with
        node := S.node.modifyExchange j fun ex => { ex with ackCounter := _ } } with }
    · exact .refl j S
  | resume listener place coin =>
    exact passes_onListeners j (uniform_only listener (e := .resume place coin) trivial) S
  | timeout listener handle =>
    exact passes_onListeners j (uniform_only listener (e := .timeout handle) trivial) S

/-- Every session that a PaseSession made stands in its table. -/
def Valid (S : SessionProtocol V) : Prop := ∀ p ∈ S.paseSessions, Stand S.node p.created

theorem mem_on {p : PaseEntry V} {i : Nat} : p ∈ S.on i ↔ p ∈ S.paseSessions ∧ p.exchange = i := by
  unfold on
  rw [List.mem_filter, decide_eq_true_iff]

/-- A valid table goes side by side with itself. -/
theorem Valid.related (hS : S.Valid) (hn : R k (S.nodeOf i) (S.nodeOf i)) : Related R i k S S := by
  refine ⟨rfl, hn, List.forall₂_same.mpr fun p hp => ?_⟩
  obtain ⟨hp, hexchange⟩ := mem_on.mp hp
  exact .refl hexchange (hS p hp)

theorem SameEntries.stand {i : Nat} {n n' : Node} {ps ps' : List (PaseEntry V)}
    (h : SameEntries i n n' ps ps') : ∀ p ∈ ps, Stand n p.created := by
  induction h with
  | nil => exact fun p hp => absurd hp List.not_mem_nil
  | cons hp _ ih =>
    intro q hq
    rcases List.mem_cons.mp hq with rfl | hq
    · exact hp.stand
    · exact ih q hq

/-- The table is valid after an event, if the entries of its exchange are. -/
theorem Passes.valid {j : Nat} {S S' : SessionProtocol V} (hpass : Passes j S S') (hS : S.Valid)
    (hown : ∀ p ∈ S'.on j, Stand S'.node p.created) : S'.Valid := by
  intro p hp
  by_cases hpj : p.exchange = j
  · exact hown p (mem_on.mpr ⟨hp, hpj⟩)
  · have hmem : p ∈ S'.on p.exchange := mem_on.mpr ⟨hp, rfl⟩
    rw [hpass.others _ (Ne.symm hpj)] at hmem
    exact (hS p (mem_on.mp hmem).1).mono hpass.identities

variable {J : List Nat}

/-- **What an event leaves**, in the node as its exchange finds it. -/
theorem Valid.step (hS : S.Valid) {j : Nat} {F : Nat → Node → Prop} (hF : Node.Leaves P.aead j F)
    (e : ProtocolEvent) (h : F (k + S.due j) (S.nodeOf j)) :
    F k ((S.step P (j, e)).nodeOf j) ∧ (S.step P (j, e)).Valid := by
  have hself := (hS.related (R := fun k n n' => n' = n ∧ F k n) (i := j) ⟨rfl, h⟩).own hF.moves e
  exact ⟨hself.node.2, (passes_step P j e S).valid hS hself.entries.stand⟩

/-- What another exchange leaves related is, as the exchange finds it. -/
theorem Related.passes {R' : Nat → Node → Node → Prop} {j l : Nat} (h : Related R i l S T)
    (hji : j ≠ i) (e : ProtocolEvent)
    (hnode : R' k (((S.step P (j, e)).nodeOf j).withOutside (S.streams i)) (T.nodeOf i)) :
    Related R' i k (S.step P (j, e)) T := by
  have hpass := passes_step P j e S
  refine ⟨h.params.trans hpass.params.symm, ?_, ?_⟩
  · have hstream : (S.step P (j, e)).nodeOf i =
        ((S.step P (j, e)).nodeOf j).withOutside (S.streams i) := by
      unfold nodeOf
      rw [hpass.streams i hji]
      rfl
    rw [hstream]
    exact hnode
  · rw [hpass.others i hji]
    exact SameEntries.withNode h.entries hpass.identities List.prefix_rfl

/-- **An event of another exchange**, taken by the one. -/
theorem Related.other (hI : Node.Independent P.aead i J R) (hS : S.Valid) {j : Nat} (hj : j ∈ J)
    (hji : j ≠ i) (e : ProtocolEvent) (h : Related R i (k + S.due j) S T) :
    Related R i k (S.step P (j, e)) T ∧ (S.step P (j, e)).Valid := by
  obtain ⟨hnode, hvalid⟩ := hS.step (hI.other j hj hji (S.streams i) (T.nodeOf i)) e h.node
  exact ⟨h.passes hji e hnode, hvalid⟩

/-! ## 4. Whole runs -/

/-- As many messages may go out in the events: one for each listener at each event. -/
def messages (S : SessionProtocol V) (es : List (Nat × ProtocolEvent)) : Nat :=
  es.length * (S.paseSessions.length + es.length)

/-- **The whole runs**: with all events, and with those of the exchange alone. -/
theorem related_run (hI : Node.Independent P.aead i J R) (es : List (Nat × ProtocolEvent))
    (hes : ∀ e ∈ es, e.1 ∈ J) (hS : S.Valid) (h : Related R i (S.messages es) S T) :
    Related R i 0 (run (step P) S es) (run (step P) T (es.filter (·.1 = i))) := by
  induction es generalizing S T with
  | nil => exact h.weaken_le hI.own (Nat.zero_le _)
  | cons e es ih =>
    obtain ⟨j, e⟩ := e
    have hpass := passes_step P j e S
    have hsplit : S.messages ((j, e) :: es) =
        es.length * (S.paseSessions.length + 1 + es.length) + es.length +
          (S.paseSessions.length + 1) := by
      unfold messages
      rw [List.length_cons]
      ring
    have hle : (S.step P (j, e)).messages es ≤
        es.length * (S.paseSessions.length + 1 + es.length) + es.length :=
      (Nat.mul_le_mul_left _ (Nat.add_le_add_right hpass.length_le _)).trans (Nat.le_add_right _ _)
    have hnow : Related R i (es.length * (S.paseSessions.length + 1 + es.length) + es.length +
        S.due j) S T :=
      h.weaken_le hI.own (hsplit ▸ Nat.add_le_add_left (S.due_le j) _)
    have hrest := fun e he => hes e (List.mem_cons_of_mem _ he)
    by_cases hji : j = i
    · subst hji
      rw [List.filter_cons_of_pos (by simp), run_cons, run_cons]
      have hown := hnow.own hI.own e
      exact ih hrest (hpass.valid hS hown.entries.stand) (hown.weaken_le hI.own hle)
    · rw [List.filter_cons_of_neg (by simpa using hji), run_cons]
      obtain ⟨hother, hvalid⟩ := hnow.other hI hS (hes _ List.mem_cons_self) hji e
      exact ih hrest hvalid (hother.weaken_le hI.own hle)

/-! ## 5. What does not change -/

/-- What a PaseSession has come to: the object, its timers and awaiting handlers, the messages it
    handed to its exchange, and the sessions it made, with their ids and keys. -/
structure Progress (V : Type) where
  pase : PaseSession V
  timers : List Nat
  pending : List (Pending V)
  sent : List Message
  created : List (Nat × PaseSession V × Option Identity)

/-- The PaseSessions of an exchange, with what they have come to. -/
def progress (S : SessionProtocol V) (i : Nat) : List (Progress V) :=
  (S.on i).map fun p =>
    ⟨p.pase, p.timers, p.pending, p.sent, p.created.map (Creation.outcome S.node)⟩

theorem Related.progress (h : Related R i k S T) : S.progress i = T.progress i := by
  unfold SessionProtocol.progress
  have hentries := h.entries
  generalize S.on i = ps at hentries
  generalize T.on i = ps' at hentries
  induction hentries with
  | nil => rfl
  | cons hp _ ih =>
    rename_i p p' ps ps' _
    have hcreated : p'.created.map (Creation.outcome T.node) =
        p.created.map (Creation.outcome S.node) := hp.created
    have hpase : p'.pase = p.pase := hp.pase
    have htimers : p'.timers = p.timers := hp.timers
    have hpending : p'.pending = p.pending := hp.pending
    have hsent : p'.sent = p.sent := hp.sent
    rw [List.map_cons, List.map_cons, ih, hcreated, hpase, htimers, hpending, hsent]

/-- An exchange whose session no other is on goes side by side with itself. -/
theorem apart_nodeOf {J : List Nat} {ex : Exchange} {s : Session} (hi : S.node.OnSession i ex s)
    (hJ : ∀ j ∈ J, j ≠ i → ∃ fx t, S.node.OnSession j fx t ∧ fx.session ≠ ex.session) :
    Node.Apart i J k (S.nodeOf i) (S.nodeOf i) := by
  refine ⟨ex, s, hi.withOutside _, hi.withOutside _, rfl, fun j hj hji => ?_⟩
  obtain ⟨fx, t, hfx, hne⟩ := hJ j hj hji
  exact ⟨fx, t, hfx.withOutside _, hne⟩

/-- **Handshakes on an exchange whose session no other is on go as if they were alone**: they draw
    and send the same, and make the same sessions. -/
theorem apart_not_interfering (P : Packages V) (S : SessionProtocol V) (hS : S.Valid)
    (J : List Nat) (es : List (Nat × ProtocolEvent)) (hes : ∀ e ∈ es, e.1 ∈ J) (i : Nat)
    (ex : Exchange) (s : Session) (hi : S.node.OnSession i ex s)
    (hJ : ∀ j ∈ J, j ≠ i → ∃ fx t, S.node.OnSession j fx t ∧ fx.session ≠ ex.session) :
    let alone := run (step P) S (es.filter (·.1 = i))
    (run (step P) S es).progress i = alone.progress i ∧
      (run (step P) S es).streams i = alone.streams i := by
  have hrun := related_run (Node.independent_apart P.aead) es hes hS
    (hS.related (apart_nodeOf hi hJ))
  obtain ⟨-, -, -, -, hstreams, -⟩ := hrun.node
  exact ⟨hrun.progress, hstreams.symm⟩

/-- A node with two exchanges that peers began, the first on the first session. -/
def pairNode (second : Nat) : Node :=
  let n := sampleNode false
  { n with
    sessions := { n.sessions with
      sessionsUnsecured := n.sessions.sessionsUnsecured ++ n.sessions.sessionsUnsecured }
    exchanges := n.exchanges ++ [{ exchangeId := 2, session := .unsecured second,
                                   isInitiator := false }] }

def pairSystem (second : Nat) : SessionProtocol Bytes where
  node := pairNode second
  streams i := { entropy := fun j => UInt8.ofNat (i + j + 1) }

/-- Two handshakes begin, one after the other. -/
def pairEvents : List (Nat × ProtocolEvent) :=
  [(0, .unsolicited (sampleRequest 5)), (1, .unsolicited (sampleRequest 6)),
    (0, .message (sampleMessage opPake1 (templateMsgPasePake1 (.buffer [4]))))]

theorem valid_pairSystem (second : Nat) : (pairSystem second).Valid :=
  fun _ hp => absurd hp List.not_mem_nil

theorem apart_not_interfering_pair :
    let all := run (step samplePackages) (pairSystem 1) pairEvents
    let alone := run (step samplePackages) (pairSystem 1) (pairEvents.filter (·.1 = 0))
    all.progress 0 = alone.progress 0 ∧ all.streams 0 = alone.streams 0 := by
  refine apart_not_interfering samplePackages (pairSystem 1) (valid_pairSystem 1) [0, 1] pairEvents
    (by decide) 0 _ _ ⟨rfl, rfl⟩ fun j hj hne => ?_
  obtain rfl : j = 1 := by simpa [hne] using hj
  exact ⟨_, _, ⟨rfl, rfl⟩, by decide⟩

/-- **Handshakes on an unsecured session that others are on** go as if they were alone, if the
    session knows its peer and has counters left: each message goes out as the same frame, but for its
    counter. -/
theorem shared_not_interfering (P : Packages V) (S : SessionProtocol V) (hS : S.Valid)
    (J : List Nat) (es : List (Nat × ProtocolEvent)) (hes : ∀ e ∈ es, e.1 ∈ J) (i : Nat)
    (ex : Exchange) (m : Nat) (s : Session) (hi : S.node.Known i (S.messages es) ex m s)
    (hJ : Node.RoomFor J S.node (S.messages es) m s) :
    let alone := run (step P) S (es.filter (·.1 = i))
    (run (step P) S es).progress i = alone.progress i ∧
      List.Forall₂ Transmission.SameButCounter ((run (step P) S es).streams i).transmitted
        (alone.streams i).transmitted := by
  have hself : Node.Shares i J (S.messages es) (S.nodeOf i) (S.nodeOf i) :=
    ⟨ex, m, s, s, hi.congr rfl rfl, hi.congr rfl rfl, rfl, hJ.withOutside _, rfl,
      List.forall₂_same.mpr fun _ _ => .refl _⟩
  have hrun := related_run (Node.independent_shares P.aead) es hes hS (hS.related hself)
  obtain ⟨-, -, -, -, -, -, -, -, -, hframes⟩ := hrun.node
  exact ⟨hrun.progress, hframes⟩

/-- An exchange of the pair that is on the first session has room there. -/
theorem known_pairNode {second j : Nat} {ex : Exchange} (hex : (pairNode second).exchanges[j]? = some ex)
    (href : ex.session = .unsecured 0) (hid : ex.exchangeId < 65536) (hack : ex.ackCounter = 0) :
    (pairNode second).Known j 9 ex 0
      ((sampleNode false).sessions.sessionsUnsecured.head (List.cons_ne_nil _ _)) := by
  refine ⟨hex, href, rfl, rfl, ⟨rfl, ⟨_, rfl⟩, ?_, fun _ => rfl, by decide, hid, ?_⟩⟩
  · intro id hid
    rw [← Option.some.inj hid]
    decide
  · rw [hack]
    decide

theorem shared_not_interfering_pair :
    let all := run (step samplePackages) (pairSystem 0) pairEvents
    let alone := run (step samplePackages) (pairSystem 0) (pairEvents.filter (·.1 = 0))
    all.progress 0 = alone.progress 0 ∧
      List.Forall₂ Transmission.SameButCounter (all.streams 0).transmitted
        (alone.streams 0).transmitted := by
  have hroom : Node.RoomFor [0, 1] (pairNode 0) 9 0
      ((sampleNode false).sessions.sessionsUnsecured.head (List.cons_ne_nil _ _)) := by
    intro j hj
    obtain rfl | rfl : j = 0 ∨ j = 1 := by simpa using hj
    · exact ⟨_, _, ⟨rfl, rfl⟩, fun _ => known_pairNode rfl rfl (by decide) rfl⟩
    · exact ⟨_, _, ⟨rfl, rfl⟩, fun _ => known_pairNode rfl rfl (by decide) rfl⟩
  exact shared_not_interfering samplePackages (pairSystem 0) (valid_pairSystem 0) [0, 1] pairEvents
    (by decide) 0 _ 0 _ (known_pairNode rfl rfl (by decide) rfl) hroom

end SessionProtocol

end Matternode.Protocols
