/-
  File:      Matternode/Protocols/PaseEffect.lean
  Subject:   What each event of a PASE handshake can do.

  A handler works on the fields of its object before it sends; where it throws on the way, state,
  log and awaiting handlers are as they were. So each handler either stands where it stood, or does
  the one thing it is for (`Leads`):

  * `Stands`, `Said`, `Awaits`, `Makes` -- where it stands, what it has sent, that it awaits, what
    sessions it has made;
  * `onPbkdfParamRequest_cases`, …, `resumeServer_cases` -- what each handler does;
  * `Effect`, `step_effect` -- **what an event can do**, whatever the state and the message.
-/
import Matternode.Protocols.PaseSession

namespace Matternode.Protocols

open Base Js Messaging Tlv

/-! ## 1. Protocol messages -/

/-- The bytes of `protocolMessage`. -/
def protocolBytes (opcode : Nat) (payload : Bytes) : Bytes :=
  stampedHeader 0 0 ++ (0 :: UInt8.ofNat opcode :: 0 :: 0 :: 0 :: 0 :: payload)

theorem protocolMessage_eq {opcode : Nat} (h : opcode < 256) (payload : Bytes) :
    protocolMessage opcode payload = .ok { buffer := protocolBytes opcode payload } := by
  have hid : ({} : Message).setProtocolId (.nat secureChannel) = .ok {} := by decide +kernel
  have hop : ({} : Message).setProtocolOpcode (.nat opcode) =
      .ok { buffer := stampedHeader 0 0 ++ [0, UInt8.ofNat opcode, 0, 0, 0, 0] } := by
    have hw : writeUInt8 (bufferAlloc 6) (.nat opcode) 1 =
        .ok (overwrite (bufferAlloc 6) 1 (toLE 1 opcode)) := writeUIntLE_nat (by omega) (by decide)
    show (do
      let payload ← writeUInt8 (bufferAlloc 6) (.nat opcode) 1
      return ({ buffer := bufferAlloc 8 ++ payload } : Message) : Except JsError Message) = _
    rw [hw]
    simp [overwrite, toLE, bufferAlloc, Messaging.header]
  unfold protocolMessage
  simp only [hid, hop, bind, Except.bind]
  simp [Message.setAppPayload, protocolBytes, Messaging.header]
  rfl

/-- A message reads as the protocol message it was made as. -/
theorem protocolOpcode_of_eq {opcode : Nat} {payload : Bytes} {msg : Message} (h : opcode < 256)
    (hmsg : protocolMessage opcode payload = .ok msg) : msg.protocolOpcode = .ok opcode := by
  rw [protocolMessage_eq h] at hmsg
  cases hmsg
  unfold Message.protocolOpcode
  have hbuffer : protocolBytes opcode payload =
      stampedHeader 0 0 ++ (0 :: UInt8.ofNat opcode :: 0 :: 0 :: 0 :: 0 :: payload) := rfl
  rw [stamped_payload hbuffer]
  have hread := readUIntLE_at [0] [UInt8.ofNat opcode] (0 :: 0 :: 0 :: 0 :: payload) rfl
  have hop : ofLE [UInt8.ofNat opcode] = opcode := by
    simp [ofLE]
    omega
  rw [hop] at hread
  exact hread

/-! ## 2. Where a handler stands -/

variable {V : Type} {P : Packages V} {h : PaseHost V}

/-- In the state, with nothing more sent, awaited or made than before. -/
structure Stands (state : PaseState) (h h' : PaseHost V) : Prop where
  state : h'.pase.state = state
  pending : h'.pending = h.pending
  sent : h'.sent = h.sent
  created : h'.created = h.created

theorem Stands.refl (h : PaseHost V) : Stands h.pase.state h h := ⟨rfl, rfl, rfl, rfl⟩

/-- It has sent a message with the opcode and stands in the state; `made` are the sessions made. -/
structure Said (opcode : Nat) (state : PaseState) (made : List (Creation V)) (h h' : PaseHost V) :
    Prop where
  state : h'.pase.state = state
  pending : h'.pending = h.pending
  sent : ∃ msg : Message, msg.protocolOpcode = .ok opcode ∧ h'.sent = h.sent ++ [msg]
  created : h'.created = h.created ++ made

/-- A handler of the side now awaits. -/
structure Awaits (side : Side) (h h' : PaseHost V) : Prop where
  state : h'.pase.state = h.pase.state
  pending : ∃ pending : Pending V, pending.side = side ∧ h'.pending = h.pending ++ [pending]
  sent : h'.sent = h.sent
  created : h'.created = h.created

namespace PaseSession

section Standing

variable {state : PaseState}

theorem stands_assign {f : PaseSession V → PaseSession V} (hf : ∀ p, (f p).state = p.state) :
    Keeps (Stands state h) (assign f) :=
  Keeps.modify fun h' hs => ⟨(hf h'.pase).trans hs.state, hs.pending, hs.sent, hs.created⟩

theorem stands_onNode {α : Type} (m : NodeM α) :
    Keeps (Stands state h) (onNode m : PaseM V α) :=
  Keeps.zoom m fun _ _ hs => ⟨hs.state, hs.pending, hs.sent, hs.created⟩

theorem stands_draw {α : Type} (m : EStateM JsError Outside α) :
    Keeps (Stands state h) (draw m : PaseM V α) :=
  stands_onNode _

theorem stands_newSpake2 : Keeps (Stands state h) (newSpake2 P) := by
  refine Keeps.bind (Keeps.bind Keeps.get fun h' => ?_) fun context => stands_assign fun _ => rfl
  dsimp only
  split
  · exact Keeps.bind (stands_assign fun _ => rfl) fun _ => Keeps.pure _
  · exact Keeps.throw _

/-- A context is hashed from the two messages, and `spake2Plus` takes it. -/
theorem run_newSpake2 {request response : Bytes} (hrequest : h.pase.pbkdfRequest = some request)
    (hresponse : h.pase.pbkdfResponse = some response) :
    let context := P.sha256 (utf8Encode paseContextSalt.toList ++ request ++ response)
    (newSpake2 P).run h = .ok () { h with pase := { h.pase with
      spakeContext := some context, spake2 := some context } } := by
  intro context
  have hcontext : (computeContext P).run h =
      .ok context { h with pase := { h.pase with spakeContext := some context } } := by
    unfold computeContext
    rw [run_bind_ok (run_get h)]
    dsimp only
    split
    · rename_i request' response' hrequest' hresponse'
      obtain rfl := Option.some.inj (hrequest'.symm.trans hrequest)
      obtain rfl := Option.some.inj (hresponse'.symm.trans hresponse)
      rfl
    · rename_i hnone
      exact absurd hresponse (hnone _ _ hrequest)
  unfold newSpake2
  rw [run_bind_ok hcontext]
  rfl

/-- `setState` sets the state and the timer. -/
theorem run_setState (state : PaseState) (h : PaseHost V) :
    ∃ stateTimeout timers nextTimer, (setState state).run h =
      .ok () { h with pase := { h.pase with state, stateTimeout }, timers, nextTimer } := by
  have hclear (h : PaseHost V) :
      ∃ timers, clearTimeout.run h = .ok () { h with timers } := by
    unfold clearTimeout
    rw [run_modify]
    cases h.pase.stateTimeout with
    | none => exact ⟨h.timers, rfl⟩
    | some handle => exact ⟨_, rfl⟩
  obtain ⟨timers, ht⟩ := hclear { h with pase := { h.pase with state } }
  unfold setState
  rw [assign, run_bind_ok (run_modify _ h)]
  split
  · exact ⟨_, _, _, ht⟩
  · exact ⟨_, _, _, run_bind_ok ht⟩

theorem triple_setState {state : PaseState} {K X E : PaseHost V → Prop}
    (hX : ∀ h stateTimeout timers nextTimer, K h →
      X { h with pase := { h.pase with state, stateTimeout }, timers, nextTimer }) :
    Triple K (setState state) (fun _ => X) E := by
  intro h hK
  obtain ⟨stateTimeout, timers, nextTimer, hr⟩ := run_setState state h
  rw [hr]
  exact hX h stateTimeout timers nextTimer hK

/-- `setState` stands in the new state. -/
theorem stands_setState (state' : PaseState) (E : PaseHost V → Prop) :
    Triple (Stands state h) (setState state') (fun _ => Stands state' h) E :=
  triple_setState fun _ _ _ _ hs => ⟨rfl, hs.pending, hs.sent, hs.created⟩

/-- `sendMessage` says what it is given, whether or not the exchange throws. -/
theorem said_sendMessage {opcode : Nat} {msg : Message} (hmsg : msg.protocolOpcode = .ok opcode) :
    Triple (Stands state h) (sendMessage P msg) (fun _ => Said opcode state [] h)
      (Said opcode state [] h) := by
  refine Triple.bind (Q := fun _ => Said opcode state [] h)
    (Triple.modify fun h' hs => ⟨hs.state, hs.pending, ⟨msg, hmsg, by rw [hs.sent]⟩,
      by simp [hs.created]⟩) fun _ => ?_
  refine Keeps.bind Keeps.get fun h' => Keeps.bind ?_ fun _ => Keeps.pure _
  exact Keeps.zoom _ fun _ _ hs => ⟨hs.state, hs.pending, hs.sent, hs.created⟩

/-- A state is set, and a message is sent. -/
theorem said_setState {opcode : Nat} {msg : Message} (state' : PaseState)
    (hmsg : msg.protocolOpcode = .ok opcode) :
    Triple (Stands state h) (do setState state'; sendMessage P msg)
      (fun _ => Said opcode state' [] h) (Said opcode state' [] h) :=
  Triple.bind (stands_setState state' _) fun _ => said_sendMessage hmsg

end Standing

/-! ## 3. What each handler does -/

section Handlers

variable {msg : Message}

theorem leads_sendPbkdfParamRequest {state : PaseState} :
    Leads (Stands state h) (Said opParamRequest .awaitPbkdfParamRsp [] h)
      (sendPbkdfParamRequest P) :=
  Leads.after (stands_assign fun _ => rfl) fun _ => Leads.after (stands_draw _) fun _ =>
    Leads.after (stands_assign fun _ => rfl) fun _ => Leads.after (stands_draw _) fun _ =>
    Leads.after (stands_assign fun _ => rfl) fun _ => Leads.after (Keeps.lift _) fun _ =>
    Leads.after (stands_assign fun _ => rfl) fun _ => Leads.after_lift fun _ hmsg =>
    Leads.of_triple (said_setState _ (protocolOpcode_of_eq (by decide) hmsg))

theorem leads_sendPbkdfParamResponse {state : PaseState} :
    Leads (Stands state h) (Said opParamResponse .awaitPake1 [] h) (sendPbkdfParamResponse P) :=
  Leads.after (stands_draw _) fun _ => Leads.after (stands_assign fun _ => rfl) fun _ =>
    Leads.after (stands_draw _) fun _ => Leads.after (stands_assign fun _ => rfl) fun _ =>
    Leads.after Keeps.get fun _ => Leads.after (Keeps.lift _) fun _ =>
    Leads.after (Keeps.lift _) fun _ => Leads.after_lift fun _ hmsg =>
    Leads.after (stands_assign fun _ => rfl) fun _ =>
    Leads.of_triple (said_setState _ (protocolOpcode_of_eq (by decide) hmsg))

theorem leads_sendPake1 {state : PaseState} :
    Leads (Stands state h) (Said opPake1 .awaitPake2 [] h) (sendPake1 P) := by
  refine Leads.after Keeps.get fun _ => Leads.after (Keeps.lift _) fun _ =>
    Leads.after_lift fun _ hmsg => Leads.of_triple (Triple.bind (stands_setState _ _) fun _ => ?_)
  exact Triple.bind (Q := fun _ => Stands .awaitPake2 h)
    (Triple.modify fun _ hs => ⟨hs.state, hs.pending, hs.sent, hs.created⟩) fun _ =>
    said_sendMessage (protocolOpcode_of_eq (by decide) hmsg)

theorem leads_sendPake2 {state : PaseState} :
    Leads (Stands state h) (Said opPake2 .awaitPake3 [] h) (sendPake2 P) :=
  Leads.after Keeps.get fun _ => Leads.after (Keeps.lift _) fun _ =>
    Leads.after_lift fun _ hmsg =>
    Leads.of_triple (said_setState _ (protocolOpcode_of_eq (by decide) hmsg))

theorem leads_generateVerifier (side : Side) (iterations salt : JsValue) :
    Leads (Stands h.pase.state h) (Awaits side h) (generateVerifier P side iterations salt) :=
  Leads.after (stands_assign fun _ => rfl) fun _ => Leads.after Keeps.get fun _ =>
    Leads.after (Keeps.lift _) fun _ => Leads.after (Keeps.lift _) fun _ =>
    Leads.after_lift fun v _ => Leads.of_triple (Triple.modify fun _ hs =>
      ⟨hs.state, ⟨.verifier side v, rfl, by rw [hs.pending]⟩, hs.sent, hs.created⟩)

/-- What a handler guards with a state it does in no other state. -/
theorem guarded_elsewhere {state : PaseState} {body : PaseM V Unit} (hs : h.pase.state ≠ state) :
    (do if (← get).pase.state ≠ state then return else body : PaseM V Unit).run h = .ok () h := by
  rw [run_bind_ok (run_get h), if_pos hs]
  rfl

theorem guarded_final {state : PaseState} {body : PaseM V Unit} {F : PaseHost V → Prop} (hF : F h)
    (hbody : h.pase.state = state → F (final (body.run h))) :
    F (final ((do if (← get).pase.state ≠ state then return else body : PaseM V Unit).run h)) := by
  by_cases hs : h.pase.state = state
  · rw [run_bind_ok (run_get h), if_neg (not_not.mpr hs)]
    exact hbody hs
  · rw [guarded_elsewhere hs]
    exact hF

theorem guarded_cases {state : PaseState} {body : PaseM V Unit} {K X : PaseHost V → Prop} (hK : K h)
    (hbody : h.pase.state = state → Leads K X body) :
    let h' := final ((do if (← get).pase.state ≠ state then return else body : PaseM V Unit).run h)
    K h' ∨ h.pase.state = state ∧ X h' :=
  guarded_final (F := fun h' => K h' ∨ h.pase.state = state ∧ X h') (Or.inl hK) fun hs =>
    ((hbody hs).final hK).imp_right fun hx => ⟨hs, hx⟩

theorem startPase_cases :
    Stands h.pase.state h (final ((startPase P).run h)) ∨
      h.pase.state = .idle ∧
        Said opParamRequest .awaitPbkdfParamRsp [] h (final ((startPase P).run h)) :=
  guarded_cases (Stands.refl h) fun _ => leads_sendPbkdfParamRequest

theorem onPbkdfParamRequest_cases :
    Stands h.pase.state h (final ((onPbkdfParamRequest P msg).run h)) ∨
      h.pase.state = .idle ∧
        Said opParamResponse .awaitPake1 [] h (final ((onPbkdfParamRequest P msg).run h)) :=
  guarded_cases (Stands.refl h) fun _ =>
    Leads.after (Keeps.lift _) fun _ => Leads.after (Keeps.lift _) fun _ =>
    Leads.after (Keeps.lift _) fun _ => Leads.after (Keeps.lift _) fun _ =>
    Leads.after (Keeps.lift _) fun _ => Leads.after (stands_assign fun _ => rfl) fun _ =>
    Leads.after (Keeps.lift _) fun _ => leads_sendPbkdfParamResponse

/-- **A ParamResponse is worked on in any state.** -/
theorem onPbkdfParamResponse_cases :
    Stands h.pase.state h (final ((onPbkdfParamResponse P msg).run h)) ∨
      Awaits .client h (final ((onPbkdfParamResponse P msg).run h)) := by
  refine Leads.final ?_ (Stands.refl h)
  exact Leads.after (Keeps.lift _) fun _ => Leads.after (stands_assign fun _ => rfl) fun _ =>
    Leads.after (Keeps.lift _) fun _ => Leads.after (Keeps.lift _) fun _ =>
    Leads.after (stands_assign fun _ => rfl) fun _ => Leads.after (Keeps.lift _) fun _ =>
    Leads.after (Keeps.lift _) fun _ => Leads.after (Keeps.lift _) fun _ =>
    Leads.after stands_newSpake2 fun _ => leads_generateVerifier .client _ _

theorem onPake1_cases :
    Stands h.pase.state h (final ((onPake1 P msg).run h)) ∨
      h.pase.state = .awaitPake1 ∧ Awaits .server h (final ((onPake1 P msg).run h)) :=
  guarded_cases (Stands.refl h) fun _ =>
    Leads.after (Keeps.lift _) fun _ => Leads.after (Keeps.lift _) fun _ =>
    Leads.after (stands_assign fun _ => rfl) fun _ => Leads.after stands_newSpake2 fun _ =>
    Leads.after (Keeps.lift _) fun _ => leads_generateVerifier .server _ _

/-! ## 4. Handlers that make a session -/

/-- It has sent a message and stands in the state; the sessions it made were made while a message
    with the opcode `handling` was worked on, from an object of which `F` holds. -/
def Makes (opcode : Nat) (state : PaseState) (handling : Nat) (F : PaseSession V → Prop)
    (h h' : PaseHost V) : Prop :=
  ∃ made, Said opcode state made h h' ∧ ∀ c ∈ made, c.handling = handling ∧ F c.pase

/-- `createSecureSession` makes one session, from the object as it is. -/
theorem makes_createSecureSession {opcode handling : Nat} {state : PaseState}
    {F : PaseSession V → Prop} :
    Triple (fun h' => Said opcode state [] h h' ∧ F h'.pase) (createSecureSession P handling)
      (fun _ => Makes opcode state handling F h) (Makes opcode state handling F h) := by
  refine Triple.bind (Q := fun now h' => now = h' ∧ Said opcode state [] h h' ∧ F h'.pase)
    (Triple.get fun _ hs => ⟨rfl, hs⟩) fun now => ?_
  refine Triple.bind (Q := fun _ => Makes opcode state handling F h) (Triple.modify ?_) fun _ => ?_
  · rintro h' ⟨rfl, hs, hF⟩
    refine ⟨[⟨handling, now.node.sessions.sessionsSecured.length, now.pase⟩],
      ⟨hs.state, hs.pending, hs.sent, by simp [hs.created]⟩, ?_⟩
    rintro c hc
    rw [List.mem_singleton.mp hc]
    exact ⟨rfl, hF⟩
  · have hnode {α : Type} (m : NodeM α) :
        Keeps (Makes opcode state handling F h) (onNode m : PaseM V α) :=
      Keeps.zoom m fun _ _ ⟨made, hs, hc⟩ =>
        ⟨made, ⟨hs.state, hs.pending, hs.sent, hs.created⟩, hc⟩
    dsimp only
    split
    · exact hnode _
    · exact Keeps.bind (hnode _) fun _ => Keeps.throw _

/-- What the object holds once a Pake2 has been worked on. -/
structure AtPake2 (h : PaseHost V) (msg : Message) (p : PaseSession V) : Prop where
  pA : p.pA = h.pase.pA
  answer : ∃ tlv, msg.appPayload = .ok tlv ∧ decodeAt tlv 0 = .ok p.pB ∧ decodeAt tlv 1 = .ok p.cB
  secret : ∃ client k, h.pase.spakeClient = some client ∧ client.finish p.pB = .ok k ∧
    p.secret = some k

/-- What the object holds once a Pake3 has been accepted. -/
structure AtPake3 (h : PaseHost V) (msg : Message) (p : PaseSession V) : Prop where
  answer : ∃ tlv, msg.appPayload = .ok tlv ∧ decodeAt tlv 0 = .ok p.cA
  secret : ∃ k, p.secret = some k ∧ h.pase.secret = some k ∧ k.verifyHash p.cA = .ok ()

/-- Where it stood, with `F` of the object. -/
abbrev StandsWith (state : PaseState) (F : PaseSession V → Prop) (h h' : PaseHost V) : Prop :=
  Stands state h h' ∧ F h'.pase

/-- An assignment, and what it makes true. -/
theorem leads_assign {state : PaseState} {F G : PaseSession V → Prop} {X : PaseHost V → Prop}
    {g : PaseSession V → PaseSession V} {f : Unit → PaseM V Unit}
    (hf : Leads (StandsWith state G h) X (f ())) (hG : ∀ p, F p → G (g p)) (hF : ∀ p, G p → F p)
    (hstate : ∀ p, (g p).state = p.state) :
    Leads (StandsWith state F h) X (assign g >>= f) := by
  have hassign : Triple (StandsWith state F h) (assign g) (fun _ => StandsWith state G h)
      (StandsWith state F h) :=
    Triple.modify fun h' hs => ⟨⟨(hstate h'.pase).trans hs.1.state, hs.1.pending, hs.1.sent,
      hs.1.created⟩, hG _ hs.2⟩
  exact Leads.onto hassign (fun _ hs => ⟨hs.1, hF _ hs.2⟩) fun _ => hf

theorem keeps_sendMessage {F : PaseSession V → Prop} (msg : Message) :
    Keeps (fun h => F h.pase) (sendMessage P msg) :=
  Keeps.bind (Keeps.modify fun _ hs => hs) fun _ =>
    Keeps.bind Keeps.get fun _ => Keeps.bind (Keeps.zoom _ fun _ _ hs => hs) fun _ => Keeps.pure _

section Making

variable {F : PaseSession V → Prop} {state : PaseState}

theorem makes_mono {opcode handling : Nat} {h' : PaseHost V} {G : PaseSession V → Prop}
    (hm : Makes opcode state handling F h h') (hG : ∀ p, F p → G p) :
    Makes opcode state handling G h h' := by
  obtain ⟨made, hs, hc⟩ := hm
  exact ⟨made, hs, fun c hmem => ⟨(hc c hmem).1, hG _ (hc c hmem).2⟩⟩

/-- Nothing is made yet. -/
theorem makes_of_said {opcode handling : Nat} {h' : PaseHost V}
    (hs : Said opcode state [] h h') :
    Makes opcode state handling F h h' :=
  ⟨[], hs, fun _ hc => absurd hc List.not_mem_nil⟩

theorem leads_sendPake3 (hF : ∀ p state stateTimeout, F p → F { p with state, stateTimeout }) :
    Leads (StandsWith state F h) (Makes opPake3 .idle opPake2 F h) (sendPake3 P) := by
  refine Leads.after Keeps.get fun _ => Leads.after (Keeps.lift _) fun _ =>
    Leads.after_lift fun msg hmsg => Leads.of_triple ?_
  have hop := protocolOpcode_of_eq (by decide) hmsg
  refine Triple.bind (Q := fun _ => StandsWith .idle F h) (triple_setState fun h' _ _ _ hs =>
    ⟨⟨rfl, hs.1.pending, hs.1.sent, hs.1.created⟩, hF h'.pase _ _ hs.2⟩) fun _ => ?_
  exact Triple.bind (Triple.conseq ((said_sendMessage hop).and (keeps_sendMessage msg))
    (fun _ hs => hs) (fun _ _ hs => hs) fun _ hs => makes_of_said hs.1) fun _ => makes_createSecureSession

/-- **A session is made from a Pake2 that was worked on**, whatever its confirmation is. -/
theorem onPake2_cases :
    Stands h.pase.state h (final ((onPake2 P msg).run h)) ∨
      h.pase.state = .awaitPake2 ∧
        Makes opPake3 .idle opPake2 (AtPake2 h msg) h (final ((onPake2 P msg).run h)) := by
  let F (p : PaseSession V) : Prop := p.pA = h.pase.pA ∧ p.spakeClient = h.pase.spakeClient
  unfold onPake2
  refine Or.imp And.left id (guarded_cases (K := StandsWith h.pase.state F h)
    ⟨Stands.refl h, rfl, rfl⟩ fun _ => ?_)
  refine Leads.after_lift fun tlv htlv => Leads.after_lift fun pB hpB => ?_
  refine leads_assign (G := fun p => F p ∧ p.pB = pB) ?_ (fun _ hp => ⟨hp, rfl⟩) (fun _ hp => hp.1)
    fun _ => rfl
  refine Leads.after_lift fun cB hcB => ?_
  refine leads_assign (G := fun p => (F p ∧ p.pB = pB) ∧ p.cB = cB) ?_ (fun _ hp => ⟨hp, rfl⟩)
    (fun _ hp => hp.1) fun _ => rfl
  refine Leads.after_get fun h1 hs1 => ?_
  obtain ⟨-, ⟨⟨-, hclient⟩, -⟩, -⟩ := hs1
  cases hc : h1.pase.spakeClient with
  | none => exact Leads.of_keeps (Keeps.throw _)
  | some client =>
    refine Leads.after_lift fun k hk => ?_
    refine leads_assign (G := fun p => ((F p ∧ p.pB = pB) ∧ p.cB = cB) ∧ p.secret = some k) ?_
      (fun _ hp => ⟨hp, rfl⟩) (fun _ hp => hp.1) fun _ => rfl
    refine Leads.after (Keeps.lift _) fun mac =>
      leads_assign ?_ (fun _ hp => hp) (fun _ hp => hp) fun _ => rfl
    refine Leads.after (Keeps.lift _) fun _ => Leads.after (Keeps.lift _) fun _ =>
      Leads.after Keeps.get fun _ => Leads.after (Keeps.lift _) fun _ => ?_
    refine Triple.conseq (leads_sendPake3 fun _ _ _ hp => hp) (fun _ hs => hs)
      (fun _ _ => Or.imp_right fun hm => makes_mono hm ?_) fun _ => Or.imp_right fun hm => makes_mono hm ?_
    all_goals
      rintro p ⟨⟨⟨⟨hpA, -⟩, rfl⟩, rfl⟩, hsecret⟩
      exact ⟨hpA, ⟨tlv, htlv, hpB, hcB⟩, client, k, hclient.symm.trans hc, hk, hsecret⟩

/-- **A session is made from a Pake3 that `verifyHash` accepted.** -/
theorem onPake3_cases :
    Stands h.pase.state h (final ((onPake3 P msg).run h)) ∨
      h.pase.state = .awaitPake3 ∧ ∃ state, (state = .awaitPake3 ∨ state = .idle) ∧
        Makes opStatusReport state opPake3 (AtPake3 h msg) h (final ((onPake3 P msg).run h)) := by
  let F (p : PaseSession V) : Prop := p.secret = h.pase.secret
  unfold onPake3
  refine Or.imp And.left id (guarded_cases (K := StandsWith h.pase.state F h)
    (X := fun h' => ∃ state, (state = .awaitPake3 ∨ state = .idle) ∧
      Makes opStatusReport state opPake3 (AtPake3 h msg) h h') ⟨Stands.refl h, rfl⟩ fun hstate => ?_)
  refine Leads.after_lift fun tlv htlv => Leads.after_lift fun cA hcA => ?_
  refine leads_assign (G := fun p => F p ∧ p.cA = cA) ?_ (fun _ hp => ⟨hp, rfl⟩) (fun _ hp => hp.1)
    fun _ => rfl
  refine Leads.after (Keeps.lift _) fun _ => Leads.after_get fun h1 hs1 => ?_
  obtain ⟨-, hF, -⟩ := hs1
  cases hk : h1.pase.secret with
  | none => exact Leads.of_keeps (Keeps.throw _)
  | some k =>
    refine Leads.after_lift fun _ hverify => Leads.after (Keeps.lift _) fun payload =>
      Leads.after_lift fun report hreport => ?_
    have hop := protocolOpcode_of_eq (by decide) hreport
    have hat (p : PaseSession V) (hp : F p ∧ p.cA = cA) : AtPake3 h msg p := by
      obtain ⟨hsecret, rfl⟩ := hp
      exact ⟨⟨tlv, htlv, hcA⟩, k, (hsecret.trans hF.symm).trans hk, hF.symm.trans hk, hverify⟩
    have hmakes (s : PaseHost V) (hs : Makes opStatusReport .awaitPake3 opPake3 (AtPake3 h msg) h s) :
        ∃ state, (state = .awaitPake3 ∨ state = .idle) ∧
          Makes opStatusReport state opPake3 (AtPake3 h msg) h s := ⟨_, Or.inl rfl, hs⟩
    rw [hstate]
    refine Leads.of_triple (Triple.bind (Q := fun _ s =>
      Said opStatusReport .awaitPake3 [] h s ∧ AtPake3 h msg s.pase) (Triple.conseq
      ((said_sendMessage hop).and (keeps_sendMessage (F := fun p => F p ∧ p.cA = cA) report))
      (fun _ hs => hs) (fun _ s hs => ⟨hs.1, hat _ hs.2⟩)
      fun s hs => hmakes s (makes_of_said hs.1)) fun _ => ?_)
    refine Triple.bind (Triple.conseq makes_createSecureSession (fun _ hs => hs) (fun _ _ hs => hs)
      hmakes) fun _ => triple_setState fun s _ _ _ hs => ⟨.idle, Or.inr rfl, ?_⟩
    obtain ⟨made, hs, hc⟩ := hs
    exact ⟨made, ⟨rfl, hs.pending, hs.sent, hs.created⟩, hc⟩

end Making

/-! ## 5. Handlers that awaited -/

theorem resumeVerifier_awaits (side : Side) (v : V) :
    Awaits side h (final ((resumeVerifier side v).run h)) :=
  ⟨rfl, ⟨.generated side v, rfl, rfl⟩, rfl, rfl⟩

theorem resumeGenerated_cases (side : Side) (v : V) (coin : Nat) :
    Stands h.pase.state h (final ((resumeGenerated P side v coin).run h)) ∨
      Awaits side h (final ((resumeGenerated P side v coin).run h)) := by
  refine Leads.final (Leads.after_get fun h1 _ => ?_) (Stands.refl h)
  cases h1.pase.spake2 with
  | none => exact Leads.of_keeps (Keeps.throw _)
  | some context =>
    exact Leads.after_lift fun party _ => Leads.of_triple (Triple.modify fun _ hs =>
      ⟨hs.state, ⟨.started side party, rfl, by rw [hs.pending]⟩, hs.sent, hs.created⟩)

theorem resumeClient_cases (client : Party) :
    Stands h.pase.state h (final ((resumeClient P client).run h)) ∨
      Said opPake1 .awaitPake2 [] h (final ((resumeClient P client).run h)) := by
  refine Leads.final ?_ (Stands.refl h)
  exact Leads.after (stands_assign fun _ => rfl) fun _ => Leads.after (Keeps.lift _) fun _ =>
    Leads.after (stands_assign fun _ => rfl) fun _ => leads_sendPake1

theorem resumeServer_cases (server : Party) :
    Stands h.pase.state h (final ((resumeServer P server).run h)) ∨
      Said opPake2 .awaitPake3 [] h (final ((resumeServer P server).run h)) := by
  refine Leads.final ?_ (Stands.refl h)
  exact Leads.after (stands_assign fun _ => rfl) fun _ => Leads.after (Keeps.lift _) fun _ =>
    Leads.after (stands_assign fun _ => rfl) fun _ => Leads.after Keeps.get fun _ =>
    Leads.after (Keeps.lift _) fun _ => Leads.after (stands_assign fun _ => rfl) fun _ =>
    Leads.after (Keeps.lift _) fun _ => Leads.after (stands_assign fun _ => rfl) fun _ =>
    leads_sendPake2

end Handlers

end PaseSession

/-! ## 6. What each event does -/

/-- What a handler that awaited does when it goes on. -/
inductive Resumed (h : PaseHost V) : Side → PaseHost V → Prop where
  | stands {side : Side} {h' : PaseHost V} (hs : Stands h.pase.state h h') : Resumed h side h'
  | awaits {side : Side} {h' : PaseHost V} (ha : Awaits side h h') : Resumed h side h'
  | client {h' : PaseHost V} (hs : Said opPake1 .awaitPake2 [] h h') : Resumed h .client h'
  | server {h' : PaseHost V} (hs : Said opPake2 .awaitPake3 [] h h') : Resumed h .server h'

/-- No session is made by a handler that awaited. -/
theorem resumed_created {h h' : PaseHost V} {side : Side} (hr : Resumed h side h') :
    h'.created = h.created := by
  cases hr with
  | stands hs => exact hs.created
  | awaits ha => exact ha.created
  | client hs => simpa using hs.created
  | server hs => simpa using hs.created

/-- What an event does. -/
inductive Effect (h : PaseHost V) : PaseEvent → PaseHost V → Prop where
  | stands {e : PaseEvent} {h' : PaseHost V} (hs : Stands h.pase.state h h') : Effect h e h'
  | start {h' : PaseHost V} (hstate : h.pase.state = .idle)
      (hs : Said opParamRequest .awaitPbkdfParamRsp [] h h') : Effect h .start h'
  | paramRequest {msg : Message} {h' : PaseHost V} (hop : msg.protocolOpcode = .ok opParamRequest)
      (hstate : h.pase.state = .idle) (hs : Said opParamResponse .awaitPake1 [] h h') :
      Effect h (.message msg) h'
  | paramResponse {msg : Message} {h' : PaseHost V}
      (hop : msg.protocolOpcode = .ok opParamResponse) (ha : Awaits .client h h') :
      Effect h (.message msg) h'
  | pake1 {msg : Message} {h' : PaseHost V} (hop : msg.protocolOpcode = .ok opPake1)
      (hstate : h.pase.state = .awaitPake1) (ha : Awaits .server h h') : Effect h (.message msg) h'
  | pake2 {msg : Message} {h' : PaseHost V} (hop : msg.protocolOpcode = .ok opPake2)
      (hstate : h.pase.state = .awaitPake2)
      (hm : PaseSession.Makes opPake3 .idle opPake2 (PaseSession.AtPake2 h msg) h h') :
      Effect h (.message msg) h'
  | pake3 {msg : Message} {h' : PaseHost V} {state : PaseState}
      (hop : msg.protocolOpcode = .ok opPake3) (hstate : h.pase.state = .awaitPake3)
      (hstate' : state = .awaitPake3 ∨ state = .idle)
      (hm : PaseSession.Makes opStatusReport state opPake3 (PaseSession.AtPake3 h msg) h h') :
      Effect h (.message msg) h'
  | resume {i coin : Nat} {pending : Pending V} {h' : PaseHost V}
      (hp : h.pending[i]? = some pending)
      (hr : Resumed { h with pending := h.pending.eraseIdx i } pending.side h') :
      Effect h (.resume i coin) h'
  | timeout {handle : Nat} {h' : PaseHost V} (hs : Stands .idle h h') : Effect h (.timeout handle) h'

namespace PaseHost

open PaseSession

/-- To acknowledge a message is to note its counter in the exchange. -/
theorem run_acknowledge (msg : Message) (h : PaseHost V) :
    (∃ e, (acknowledge msg : PaseM V Unit).run h = .error e h) ∨
      ∃ counter, (acknowledge msg : PaseM V Unit).run h = .ok () { h with
        node := h.node.modifyExchange h.exchange fun ex => { ex with ackCounter := counter } } := by
  unfold acknowledge
  cases msg.messageCounter with
  | error e => exact Or.inl ⟨e, rfl⟩
  | ok counter => exact Or.inr ⟨counter, rfl⟩

/-- What a message does once it is acknowledged. -/
theorem effect_onExchangeMessage (msg : Message) (h : PaseHost V) :
    Effect h (.message msg) (final ((onExchangeMessage P msg).run h)) := by
  unfold onExchangeMessage
  cases hop : msg.protocolOpcode with
  | error e => exact .stands (Stands.refl h)
  | ok opcode =>
    rw [run_bind_ok (run_lift_ok opcode h)]
    cases msg.exchangeId with
    | error e => exact .stands (Stands.refl h)
    | ok id =>
      rw [run_bind_ok (run_lift_ok id h)]
      split
      · rename_i heq
        rcases onPbkdfParamRequest_cases with hs | ⟨hstate, hs⟩
        · exact .stands hs
        · exact .paramRequest (heq ▸ hop) hstate hs
      split
      · rename_i heq
        rcases onPbkdfParamResponse_cases with hs | ha
        · exact .stands hs
        · exact .paramResponse (heq ▸ hop) ha
      split
      · rename_i heq
        rcases onPake1_cases with hs | ⟨hstate, ha⟩
        · exact .stands hs
        · exact .pake1 (heq ▸ hop) hstate ha
      split
      · rename_i heq
        rcases onPake2_cases with hs | ⟨hstate, hm⟩
        · exact .stands hs
        · exact .pake2 (heq ▸ hop) hstate hm
      split
      · rename_i heq
        rcases onPake3_cases with hs | ⟨hstate, state, hstate', hm⟩
        · exact .stands hs
        · exact .pake3 (heq ▸ hop) hstate hstate' hm
      · exact .stands (Stands.refl h)

theorem resumed_resume (coin : Nat) (pending : Pending V) (h : PaseHost V) :
    Resumed h pending.side (final ((PaseSession.resume P coin pending).run h)) := by
  cases pending with
  | verifier side v => exact .awaits (resumeVerifier_awaits side v)
  | generated side v => exact (resumeGenerated_cases side v coin).elim .stands .awaits
  | started side party =>
    cases side with
    | client => exact (resumeClient_cases party).elim .stands .client
    | server => exact (resumeServer_cases party).elim .stands .server

section Node

variable {node : Node} {h' : PaseHost V}

theorem stands_of_node {state : PaseState} (hs : Stands state { h with node } h') :
    Stands state h h' :=
  ⟨hs.state, hs.pending, hs.sent, hs.created⟩

theorem said_of_node {opcode : Nat} {state : PaseState} {made : List (Creation V)}
    (hs : Said opcode state made { h with node } h') : Said opcode state made h h' :=
  ⟨hs.state, hs.pending, hs.sent, hs.created⟩

theorem awaits_of_node {side : Side} (ha : Awaits side { h with node } h') : Awaits side h h' :=
  ⟨ha.state, ha.pending, ha.sent, ha.created⟩

theorem makes_of_node {opcode handling : Nat} {state : PaseState} {F : PaseSession V → Prop}
    (hm : Makes opcode state handling F { h with node } h') : Makes opcode state handling F h h' := by
  obtain ⟨made, hs, hc⟩ := hm
  exact ⟨made, said_of_node hs, hc⟩

/-- What a message does does not depend on the node. -/
theorem effect_of_node {msg : Message} (he : Effect { h with node } (.message msg) h') :
    Effect h (.message msg) h' := by
  cases he with
  | stands hs => exact .stands (stands_of_node hs)
  | paramRequest hop hstate hs => exact .paramRequest hop hstate (said_of_node hs)
  | paramResponse hop ha => exact .paramResponse hop (awaits_of_node ha)
  | pake1 hop hstate ha => exact .pake1 hop hstate (awaits_of_node ha)
  | pake2 hop hstate hm =>
    exact .pake2 hop hstate (makes_mono (makes_of_node hm) fun _ hp => ⟨hp.pA, hp.answer, hp.secret⟩)
  | pake3 hop hstate hstate' hm =>
    exact .pake3 hop hstate hstate'
      (makes_mono (makes_of_node hm) fun _ hp => ⟨hp.answer, hp.secret⟩)

end Node

/-- **What an event can do**, whatever the state, the message and the packages. -/
theorem step_effect (h : PaseHost V) (e : PaseEvent) : Effect h e (h.step P e) := by
  cases e with
  | start => exact startPase_cases.elim .stands fun hs => .start hs.1 hs.2
  | message msg =>
    show Effect h _ (final ((acknowledge msg >>= fun _ => onExchangeMessage P msg).run h))
    rcases run_acknowledge msg h with ⟨e, hr⟩ | ⟨counter, hr⟩
    · rw [run_bind_error hr]
      exact .stands (Stands.refl h)
    · rw [run_bind_ok hr]
      exact effect_of_node (effect_onExchangeMessage msg _)
  | resume i coin =>
    cases hp : h.pending[i]? with
    | none =>
      rw [step_resume_none P hp]
      exact .stands (Stands.refl h)
    | some pending =>
      rw [step_resume_some P hp]
      exact .resume hp (resumed_resume coin pending _)
  | timeout handle =>
    obtain ⟨stateTimeout, timers, nextTimer, hr⟩ :=
      run_setState .idle { h with timers := h.timers.filter (· ≠ handle) }
    show Effect h _ (if handle ∈ h.timers then
      final ((setState .idle).run { h with timers := h.timers.filter (· ≠ handle) }) else h)
    rw [hr]
    split
    · exact .timeout ⟨rfl, rfl, rfl, rfl⟩
    · exact .stands (Stands.refl h)
  | node e => exact .stands ⟨rfl, rfl, rfl, rfl⟩

end PaseHost

end Matternode.Protocols
