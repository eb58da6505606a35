/-
  File:      Matternode/Messaging/ExchangeTable.lean
  Subject:   ExchangeManager: entries that are deleted, and the ids of exchanges begun here.

  `deleteExchange` compares a property that Exchange does not declare, so every entry is equal to
  every exchange. The ids of exchanges begun here come from a counter that nothing bounds.

  * `ExchangeTable`, `deleteExchange` -- the table, as objects that stand in it once;
  * `deletesExactly_iff` -- **when the deletion removes its argument**;
  * `Numbered` -- the invariant: the ids begun here are those counted so far, each once;
  * `LocalIdsValid`, `localIdsValid_iff` -- **when every id begun here can be written**.
-/
import Matternode.Messaging.Routing

namespace Matternode.Messaging

open Base Js

/-! ## 1. The table -/

/-- `ex.ExchangeId`: the class has a field `_exchangeId`, and no property of this name. -/
def Exchange.exchangeIdProperty (_ : Exchange) : Option Nat := none

/-- An Exchange: which object it is, and its fields. -/
structure ExchangeObject where
  ref : Nat
  exchange : Exchange

/-- `_exchanges`: each object is pushed once, where it is made. -/
structure ExchangeTable where
  entries : List ExchangeObject
  distinct : (entries.map ExchangeObject.ref).Nodup

/-- The exchanges of a node, each in its place. -/
def Node.table (n : Node) : ExchangeTable where
  entries := n.exchanges.zipIdx.map fun (ex, i) => ⟨i, ex⟩
  distinct := by
    rw [List.map_map]
    show (n.exchanges.zipIdx.map Prod.snd).Nodup
    rw [List.zipIdx_map_snd]
    exact List.nodup_range'

namespace ExchangeTable

/-- `xs.findIndex(p)`. -/
def findIndex {α : Type} (p : α → Bool) (xs : List α) : Int :=
  match xs.findIdx? p with
  | some i => i
  | none => -1

/-- `xs.splice(start, 1)`: a negative start counts from the end. -/
def splice {α : Type} (xs : List α) (start : Int) : List α :=
  if start < 0 then xs.eraseIdx (xs.length + start).toNat else xs.eraseIdx start.toNat

theorem splice_sublist {α : Type} (xs : List α) (start : Int) : (splice xs start).Sublist xs := by
  unfold splice
  split
  · exact List.eraseIdx_sublist _ _
  · exact List.eraseIdx_sublist _ _

/-- `deleteExchange(exchange)`. -/
def deleteExchange (t : ExchangeTable) (exchange : ExchangeObject) : ExchangeTable where
  entries := splice t.entries (findIndex (fun ex =>
    ex.exchange.exchangeIdProperty = exchange.exchange.exchangeIdProperty) t.entries)
  distinct := ((splice_sublist _ _).map _).nodup t.distinct

/-- The deletion leaves the other entries, in their order. -/
def DeletesExactly (t : ExchangeTable) (exchange : ExchangeObject) : Prop :=
  (t.deleteExchange exchange).entries = t.entries.filter (·.ref ≠ exchange.ref)

/-- **The first entry goes, whatever is deleted.** -/
theorem deleteExchange_entries (t : ExchangeTable) (exchange : ExchangeObject) :
    (t.deleteExchange exchange).entries = t.entries.tail := by
  show splice t.entries _ = _
  cases t.entries with
  | nil => rfl
  | cons first others => rfl

/-- **The deletion removes its argument exactly when** that is the first entry, or there is none. -/
theorem deletesExactly_iff (t : ExchangeTable) (exchange : ExchangeObject) :
    t.DeletesExactly exchange ↔ ∀ first, t.entries.head? = some first → first.ref = exchange.ref := by
  unfold DeletesExactly
  rw [deleteExchange_entries]
  have hdistinct := t.distinct
  cases hentries : t.entries with
  | nil => exact iff_of_true rfl nofun
  | cons first others =>
    rw [hentries, List.map_cons, List.nodup_cons] at hdistinct
    have hhead : (∀ first', (first :: others).head? = some first' → first'.ref = exchange.ref) ↔
        first.ref = exchange.ref := by
      rw [List.head?_cons]
      exact ⟨fun h => h first rfl, fun h first' h' => Option.some.inj h' ▸ h⟩
    rw [hhead, List.tail_cons]
    by_cases hfirst : first.ref = exchange.ref
    · refine iff_of_true ?_ hfirst
      rw [List.filter_cons_of_neg (by simpa using hfirst)]
      refine (List.filter_eq_self.mpr fun ex hex => ?_).symm
      have hne : ex.ref ≠ first.ref := fun heq =>
        hdistinct.1 (heq ▸ List.mem_map_of_mem hex)
      simpa [← hfirst] using hne
    · refine iff_of_false ?_ hfirst
      rw [List.filter_cons_of_pos (by simpa using hfirst)]
      intro heq
      have hmem : first ∈ others := by
        have hkept : first ∈ first :: others.filter (·.ref ≠ exchange.ref) := List.mem_cons_self
        rw [← heq] at hkept
        exact hkept
      exact hdistinct.1 (List.mem_map_of_mem hmem)

/-- **Of two exchanges begun here the first is lost when the second is deleted.** -/
theorem first_deleted :
    let n := run (Node.step Aead.keyTag fun _ _ _ len => List.replicate len 7)
      (Node.init fun _ => 0) [.begin .client ⟨"::1", 5540⟩, .begin .client ⟨"::1", 5540⟩]
    ∃ second ∈ n.table.entries, ¬ n.table.DeletesExactly second := by
  intro n
  refine ⟨⟨1, { exchangeId := 1, session := .unsecured 1 }⟩, ?_, ?_⟩
  · have hentries : n.table.entries = [⟨0, { exchangeId := 0, session := .unsecured 0 }⟩,
        ⟨1, { exchangeId := 1, session := .unsecured 1 }⟩] := rfl
    rw [hentries]
    exact List.mem_cons_of_mem _ List.mem_cons_self
  · intro hexact
    have hlen := congrArg (List.map ExchangeObject.ref) hexact
    exact absurd hlen (by decide)

end ExchangeTable

/-! ## 2. Ids of exchanges begun here -/

/-- The id of an exchange that was begun here. -/
def Exchange.localId? (ex : Exchange) : Option Nat :=
  if ex.isInitiator then some ex.exchangeId else none

/-- The calls of `newExchange()` without a message. -/
def NodeEvent.begins : NodeEvent → Nat
  | .begin .. => 1
  | .beginOn _ => 1
  | _ => 0

namespace Node

/-- **The ids begun here are those counted so far**, each once and in order. -/
structure Numbered (k : Nat) (n : Node) : Prop where
  next : n.nextExchangeId = k
  ids : n.exchanges.filterMap Exchange.localId? = List.range k

variable {k : Nat} {n : Node}

theorem numbered_onSessions {α : Type} (m : ManagerM α) : Keeps (Numbered k) (onSessions m) :=
  Keeps.zoom m fun _ _ hn => ⟨hn.next, hn.ids⟩

theorem Numbered.modifyExchange (hn : n.Numbered k) {f : Exchange → Exchange}
    (hf : ∀ ex, (f ex).localId? = ex.localId?) (i : Nat) : (n.modifyExchange i f).Numbered k where
  next := hn.next
  ids := by
    have hmap : (n.exchanges.modify i f).map Exchange.localId? =
        n.exchanges.map Exchange.localId? := map_key_modify fun ex _ => hf ex
    show (n.exchanges.modify i f).filterMap (id ∘ Exchange.localId?) = _
    rw [← List.filterMap_map, hmap, List.filterMap_map]
    exact hn.ids

/-- An exchange that a peer began is not counted. -/
theorem Numbered.pushRemote (hn : n.Numbered k) {ex : Exchange} (hex : ex.isInitiator = false) :
    ({ n with exchanges := n.exchanges ++ [ex] } : Node).Numbered k where
  next := hn.next
  ids := by
    have hnone : ex.localId? = none := if_neg (by rw [hex]; decide)
    rw [List.filterMap_append, List.filterMap_cons_none hnone, List.filterMap_nil, List.append_nil]
    exact hn.ids

theorem Numbered.pushLocal (hn : n.Numbered k) (session : SessionRef) :
    ({ n with
      exchanges := n.exchanges ++ [n.localExchange session]
      nextExchangeId := n.nextExchangeId + 1 } : Node).Numbered (k + 1) where
  next := by rw [hn.next]
  ids := by
    have hsome : (n.localExchange session).localId? = some k := congrArg some hn.next
    rw [List.filterMap_append, List.filterMap_cons_some hsome, List.filterMap_nil, hn.ids,
      List.range_succ]

theorem numbered_onSessionMessage (msg : Message) (ref : SessionRef) :
    Keeps (Numbered k) (onSessionMessage msg ref) := by
  refine Keeps.of_final fun n hn => ?_
  rcases onSessionMessage_cases n msg ref with ⟨i, ex, -, -, counter, -, hrun⟩ |
    ⟨exchangeId, protocolId, counter, rflag, -, -, -, hrun⟩ | hrun | ⟨e, hrun⟩
  · rw [hrun]
    refine Numbered.modifyExchange hn ?_ i
    exact fun _ => rfl
  · rw [hrun]
    exact hn.pushRemote rfl
  · rw [hrun]
    exact hn
  · rw [hrun]
    exact hn

/-- An exchange on a session of its own. -/
theorem numbered_newExchangeTo (transport : Transport) (peerInfo : PeerInfo) (hn : n.Numbered k) :
    (final ((newExchangeTo transport peerInfo).run n)).Numbered (k + 1) := by
  obtain ⟨s, o, -, hsession⟩ := SessionManager.newSession_unsecured
    (.nat unsecuredSessionId) (.nat unsecuredSessionId) n.sessions
  have hopened : (onSessions SessionManager.newUnsecuredSession).run n = .ok
      (.unsecured n.sessions.sessionsUnsecured.length) { n with sessions := _ } :=
    run_zoom_ok hsession
  have hpush := ((numbered_onSessions _).ok hn hopened).pushLocal
    (.unsecured n.sessions.sessionsUnsecured.length)
  have hnew : (newExchange none).run n = .ok n.exchanges.length _ :=
    (run_bind_ok hopened).trans (newExchange_run _ _)
  unfold newExchangeTo
  rw [run_bind_ok hnew, run_bind_ok (run_get _), List.getElem?_concat_length]
  exact ⟨hpush.next, hpush.ids⟩

/-- **An event counts the ids that it begins.** -/
theorem numbered_step (A : Aead) (hkdf : SessionCryptoContext.Hkdf) (e : NodeEvent)
    (hn : n.Numbered k) : (step A hkdf n e).Numbered (k + e.begins) := by
  cases e with
  | datagram buf peerInfo =>
    have hkeeps : Keeps (Numbered k) (onDatagram A buf peerInfo) :=
      Keeps.bind (numbered_onSessions _) fun e => numbered_onSessionMessage e.msg e.session
    exact hkeeps.final hn
  | handshake l p secret => exact (numbered_onSessions _).final hn
  | begin transport peerInfo => exact numbered_newExchangeTo transport peerInfo hn
  | beginOn ref =>
    show (final ((newExchange (some ref)).run n)).Numbered (k + 1)
    rw [newExchange_run]
    exact hn.pushLocal ref
  | setFlags i isReliable isAck =>
    refine Numbered.modifyExchange hn ?_ i
    exact fun _ => rfl
  | send i msg =>
    have hkeeps : Keeps (Numbered k) (sendMessage A i msg) := by
      refine Keeps.bind Keeps.get fun n => ?_
      cases n.exchanges[i]? with
      | none => exact Keeps.throw _
      | some ex =>
        exact Keeps.bind (Keeps.lift _) fun msg => Keeps.bind (Keeps.lift _) fun _ =>
          numbered_onSessions _
    exact hkeeps.final hn

theorem numbered_run (A : Aead) (hkdf : SessionCryptoContext.Hkdf) (hn : n.Numbered k)
    (es : List NodeEvent) :
    (run (step A hkdf) n es).Numbered (k + (es.map NodeEvent.begins).sum) := by
  induction es generalizing n k with
  | nil => exact hn
  | cons e es ih =>
    rw [run_cons, List.map_cons, List.sum_cons, ← Nat.add_assoc]
    exact ih (numbered_step A hkdf e hn)

theorem numbered_init (entropy : Nat → UInt8) : (init entropy).Numbered 0 := ⟨rfl, rfl⟩

/-! ## 3. When they can be written -/

/-- Each id begun here is below 2^16, so that `sendMessage` can write it into any message with a
    payload of four bytes, and is no other's of the same session. -/
structure LocalIdsValid (n : Node) : Prop where
  below : ∀ ex ∈ n.exchanges, ex.isInitiator = true → ex.exchangeId < 65536
  written : ∀ ex ∈ n.exchanges, ex.isInitiator = true → ∀ (msg : Message) (off : Nat),
    msg.payloadOffset = .ok off → off + 4 ≤ msg.buffer.length →
      ∃ msg', msg.setExchangeId (.nat ex.exchangeId) = .ok msg'
  fresh : ∀ (i j : Nat) (ex ex' : Exchange), n.exchanges[i]? = some ex → n.exchanges[j]? = some ex' →
    i ≠ j → ex.isInitiator = true → ex'.isInitiator = true → ex.session = ex'.session →
      ex.exchangeId ≠ ex'.exchangeId

/-- No id is counted twice. -/
theorem Numbered.ne_of_lt (hn : n.Numbered k) {i j : Nat} {ex ex' : Exchange} (hij : i < j)
    (hi : n.exchanges[i]? = some ex) (hj : n.exchanges[j]? = some ex')
    (hlocal : ex.isInitiator = true) (hlocal' : ex'.isInitiator = true) :
    ex.exchangeId ≠ ex'.exchangeId := by
  have hpair : n.exchanges.Pairwise fun ex ex' => ∀ id, ex.localId? = some id →
      ∀ id', ex'.localId? = some id' → id ≠ id' := by
    rw [← List.pairwise_filterMap, hn.ids]
    exact List.nodup_range
  obtain ⟨hlt, rfl⟩ := List.getElem?_eq_some_iff.mp hi
  obtain ⟨hlt', rfl⟩ := List.getElem?_eq_some_iff.mp hj
  exact List.pairwise_iff_getElem.mp hpair i j hlt hlt' hij _ (if_pos hlocal) _ (if_pos hlocal')

/-- **Ids that were counted are valid** as long as they fit. -/
theorem Numbered.localIdsValid (hn : n.Numbered k) (hk : k ≤ 65536) : n.LocalIdsValid := by
  have hlt {ex : Exchange} (hex : ex ∈ n.exchanges) (hlocal : ex.isInitiator = true) :
      ex.exchangeId < k := by
    have hmem : ex.exchangeId ∈ n.exchanges.filterMap Exchange.localId? :=
      List.mem_filterMap.mpr ⟨ex, hex, if_pos hlocal⟩
    rw [hn.ids] at hmem
    exact List.mem_range.mp hmem
  refine ⟨fun ex hex hlocal => (hlt hex hlocal).trans_le hk, ?_, ?_⟩
  · intro ex hex hlocal msg off hoff hlen
    have hwrite : writeUInt16LE (msg.buffer.drop off) (.nat ex.exchangeId) 2 = .ok _ :=
      writeUIntLE_nat ((hlt hex hlocal).trans_le hk) (by rw [List.length_drop]; omega)
    unfold Message.setExchangeId Message.writePayload Message.payload
    rw [hoff]
    dsimp only [bind, Except.bind, pure, Except.pure]
    rw [subarrayFrom_nat, hwrite]
    exact ⟨_, rfl⟩
  · intro i j ex ex' hi hj hne hlocal hlocal' _ heq
    rcases Nat.lt_or_gt_of_ne hne with hij | hji
    · exact hn.ne_of_lt hij hi hj hlocal hlocal' heq
    · exact hn.ne_of_lt hji hj hi hlocal' hlocal heq.symm

theorem Numbered.le_of_below (hn : n.Numbered k) (h : n.LocalIdsValid) : k ≤ 65536 := by
  by_contra hlt
  have hmem : 65536 ∈ n.exchanges.filterMap Exchange.localId? := by
    rw [hn.ids]
    exact List.mem_range.mpr (by omega)
  obtain ⟨ex, hex, hid⟩ := List.mem_filterMap.mp hmem
  unfold Exchange.localId? at hid
  split at hid
  · rename_i hlocal
    have hbelow := h.below ex hex hlocal
    rw [Option.some.inj hid] at hbelow
    omega
  · cases hid

/-- **In every run, the ids begun here are valid exactly when** at most 65536 exchanges are begun. -/
theorem localIdsValid_iff (A : Aead) (hkdf : SessionCryptoContext.Hkdf) (entropy : Nat → UInt8)
    (es : List NodeEvent) :
    (run (step A hkdf) (init entropy) es).LocalIdsValid ↔
      (es.map NodeEvent.begins).sum ≤ 65536 := by
  have hn := numbered_run A hkdf (numbered_init entropy) es
  rw [Nat.zero_add] at hn
  exact ⟨hn.le_of_below, hn.localIdsValid⟩

theorem sum_begins (count : Nat) :
    ((List.replicate count (NodeEvent.beginOn (.unsecured 0))).map NodeEvent.begins).sum =
      count := by
  induction count with
  | zero => rfl
  | succ count ih =>
    rw [List.replicate_succ, List.map_cons, List.sum_cons, ih]
    exact Nat.add_comm 1 count

/-- **The exchange after 65536 others has an id that no message takes.** -/
theorem id_too_large :
    ¬ (run (step Aead.keyTag fun _ _ _ len => List.replicate len 7) (init fun _ => 0)
      (List.replicate 65537 (.beginOn (.unsecured 0)))).LocalIdsValid := by
  have hn := numbered_run Aead.keyTag (fun _ _ _ len => List.replicate len 7)
    (numbered_init fun _ => 0) (List.replicate 65537 (.beginOn (.unsecured 0)))
  rw [sum_begins, Nat.zero_add] at hn
  intro h
  exact absurd (hn.le_of_below h) (by decide)

end Node

end Matternode.Messaging
