/-
  File:      Matternode/Protocols/DuplicatePake1.lean
  Subject:   A Pake1 that is delivered more than once.

  `onPake1` looks at the state before it awaits, and `sendPake2` moves on from AWAIT_PAKE1 after. A
  copy that comes between starts a second activation, which draws its own server and answers too.

  * `Pake1`, `Pake1.Reads` -- a Pake1 the responder can work on, with what it works out;
  * `Pake2Of` -- a Pake2 whose pB and cB are those of one server;
  * `Serves`, `step_serves` -- **what a copy of it, or an await that ends, does**;
  * `accepted` -- the activations so far, suspended or answered;
  * `onePake2_iff` -- **one Pake2 is sent, of the secret that is kept, exactly when** no copy comes
    while an activation is suspended.
-/
import Matternode.Protocols.PaseEffect

namespace Matternode.Protocols

open Base Js Messaging Tlv

variable {V : Type} {P : Packages V}

/-! ## 1. A Pake1 and its answer -/

/-- A Pake1, and what `onPake1` works out from it before it draws its server. -/
structure Pake1 (V : Type) where
  msg : Message
  pA : JsValue
  context : Bytes
  verifier : V

/-- The object works it out, without a throw. -/
structure Pake1.Reads (P : Packages V) (x : Pake1 V) (p : PaseSession V) : Prop where
  opcode : x.msg.protocolOpcode = .ok opPake1
  exchangeId : ∃ id, x.msg.exchangeId = .ok id
  counter : ∃ counter, x.msg.messageCounter = .ok counter
  pA : ∃ tlv, x.msg.appPayload = .ok tlv ∧ decodeAt tlv 0 = .ok x.pA
  text : ∃ text, x.pA.toStringHex = .ok text
  context : ∃ request response, p.pbkdfRequest = some request ∧ p.pbkdfResponse = some response ∧
    x.context = P.sha256 (utf8Encode paseContextSalt.toList ++ request ++ response)
  verifier : ∃ passcode w0sw1s, writeUInt32LE (bufferAlloc 4) p.paramPaircode 0 = .ok passcode ∧
    pbkdf2Sync P passcode p.paramSalt p.paramIterations PaseSession.keyLen = .ok w0sw1s ∧
    P.computeVerifierFromSecret (subarray w0sw1s 0 (PaseSession.keyLen / 2 : Nat))
      (subarray w0sw1s (PaseSession.keyLen / 2 : Nat) PaseSession.keyLen) = .ok x.verifier

/-- The Pake2 of a server: its pB and cB, and the secret they belong to. -/
def Pake2Of (P : Packages V) (pA : JsValue) (server : Party) (k : SharedSecret) (m : Message) :
    Prop :=
  ∃ point code payload, P.encodePoint server.getMessage = .ok point ∧ server.finish pA = .ok k ∧
    P.mac pA k.KcB = .ok code ∧
    encodeBuffer (templateMsgPasePake2 (hexText point) (hexText code)) = .ok payload ∧
    protocolMessage opPake2 payload = .ok m

/-- With the coin the server that is drawn answers. -/
def Pake1.Answers (P : Packages V) (x : Pake1 V) (coin : Nat) : Prop :=
  ∃ server k m, P.startServer x.context x.verifier coin = .ok server ∧ Pake2Of P x.pA server k m

/-- A copy of the Pake1 comes, or what an activation awaits. -/
def Pake1.Delivers (P : Packages V) (x : Pake1 V) : PaseEvent → Prop
  | .message msg => msg = x.msg
  | .resume _ coin => x.Answers P coin
  | _ => False

/-- Where an activation of `onPake1` is suspended. -/
inductive Pake1.Suspended (P : Packages V) (x : Pake1 V) : Pending V → Prop where
  | verifier : x.Suspended P (.verifier .server x.verifier)
  | generated : x.Suspended P (.generated .server x.verifier)
  | started {server : Party} {k : SharedSecret} {m : Message} (hm : Pake2Of P x.pA server k m) :
      x.Suspended P (.started .server server)

/-! ## 2. What the handlers do -/

namespace PaseSession

variable {x : Pake1 V} {h : PaseHost V}

/-- **In AWAIT_PAKE1 an activation begins.** -/
theorem final_onPake1 (hr : x.Reads P h.pase) (hstate : h.pase.state = .awaitPake1) :
    final ((onPake1 P x.msg).run h) = { h with
      pase := { h.pase with
        pA := x.pA, spakeContext := some x.context, spake2 := some x.context }
      pending := h.pending ++ [.verifier .server x.verifier] } := by
  obtain ⟨tlv, htlv, hpA⟩ := hr.pA
  obtain ⟨text, htext⟩ := hr.text
  obtain ⟨passcode, w0sw1s, hpasscode, hsecrets, hverifier⟩ := hr.verifier
  obtain ⟨request, response, hrequest, hresponse, hcontext⟩ := hr.context
  have hspake := run_newSpake2 (P := P) (h := { h with pase := { h.pase with pA := x.pA } })
    hrequest hresponse
  rw [← hcontext] at hspake
  unfold onPake1
  rw [run_bind_ok (run_get h), if_neg (not_not.mpr hstate), run_bind_ok (run_lift_of htlv _),
    run_bind_ok (run_lift_of hpA _), assign, run_bind_ok (run_modify _ h), run_bind_ok hspake,
    run_bind_ok (run_lift_of htext _)]
  unfold generateVerifier
  rw [assign, run_bind_ok (run_modify _ _), run_bind_ok (run_get _),
    run_bind_ok (run_lift_of hpasscode _), run_bind_ok (run_lift_of hsecrets _),
    run_bind_ok (run_lift_of hverifier _)]
  rfl

/-- What `sendMessage` leaves, whatever the exchange does. -/
theorem final_sendMessage (m : Message) (h : PaseHost V) :
    ∃ node, final ((sendMessage P m).run h) = { h with node, sent := h.sent ++ [m] } := by
  unfold sendMessage
  rw [run_bind_ok (run_modify _ h), run_bind_ok (run_get _), final_bind_pure, onNode, final_zoom]
  exact ⟨_, rfl⟩

/-- What `setState` and `sendMessage` leave. -/
theorem final_say (state : PaseState) (m : Message) (h : PaseHost V) :
    ∃ node stateTimeout timers nextTimer,
      final ((do setState state; sendMessage P m : PaseM V Unit).run h) = { h with
        pase := { h.pase with state, stateTimeout }
        node, timers, nextTimer, sent := h.sent ++ [m] } := by
  obtain ⟨stateTimeout, timers, nextTimer, hset⟩ := run_setState state h
  rw [run_bind_ok hset]
  obtain ⟨node, hsent⟩ := final_sendMessage (P := P) m
    { h with pase := { h.pase with state, stateTimeout }, timers, nextTimer }
  exact ⟨node, stateTimeout, timers, nextTimer, hsent⟩

/-- **An activation that ends answers**, whatever its exchange does with the answer. -/
theorem final_resumeServer {server : Party} {k : SharedSecret} {m : Message}
    (hm : Pake2Of P x.pA server k m) (hpA : h.pase.pA = x.pA) :
    ∃ pB cB node stateTimeout timers nextTimer,
      final ((resumeServer P server).run h) = { h with
        pase := { h.pase with
          state := .awaitPake3, stateTimeout, pB, cB
          spakeServer := some server, secret := some k }
        node, timers, nextTimer, sent := h.sent ++ [m] } := by
  obtain ⟨point, code, payload, hpoint, hfinish, hcode, hpayload, hmsg⟩ := hm
  rw [← hpA] at hfinish hcode
  unfold resumeServer
  rw [assign, run_bind_ok (run_modify _ h), run_bind_ok (run_lift_of hpoint _), assign,
    run_bind_ok (run_modify _ _), run_bind_ok (run_get _), run_bind_ok (run_lift_of hfinish _), assign,
    run_bind_ok (run_modify _ _), run_bind_ok (run_lift_of hcode _), assign,
    run_bind_ok (run_modify _ _)]
  unfold sendPake2
  rw [run_bind_ok (run_get _), run_bind_ok (run_lift_of hpayload _), run_bind_ok (run_lift_of hmsg _)]
  obtain ⟨node, stateTimeout, timers, nextTimer, hsay⟩ := final_say (P := P) .awaitPake3 m { h with
    pase := { h.pase with
      spakeServer := some server, pB := hexText point, secret := some k, cB := hexText code } }
  exact ⟨hexText point, hexText code, node, stateTimeout, timers, nextTimer, hsay⟩

end PaseSession

/-! ## 3. What a delivery does -/

/-- What a copy of the Pake1 does, or an await that ends. -/
inductive Serves (P : Packages V) (x : Pake1 V) (h : PaseHost V) : PaseEvent → PaseHost V → Prop where
  /-- The copy comes when the Pake2 is sent. -/
  | ignored (node : Node) (hstate : h.pase.state ≠ .awaitPake1) :
      Serves P x h (.message x.msg) { h with node }
  | begun (node : Node) (hstate : h.pase.state = .awaitPake1) :
      Serves P x h (.message x.msg) { h with
        node
        pase := { h.pase with
          pA := x.pA, spakeContext := some x.context, spake2 := some x.context }
        pending := h.pending ++ [.verifier .server x.verifier] }
  | nothing {i coin : Nat} (hp : h.pending[i]? = none) : Serves P x h (.resume i coin) h
  /-- The activation goes on to its next await. -/
  | onward {i coin : Nat} (spakeVerifier : Option V) {next : Pending V} (hi : i < h.pending.length)
      (hnext : x.Suspended P next) :
      Serves P x h (.resume i coin) { h with
        pase := { h.pase with spakeVerifier }
        pending := h.pending.eraseIdx i ++ [next] }
  /-- The activation ends with its answer. -/
  | answered {i coin : Nat} {server : Party} {k : SharedSecret} {m : Message} (node : Node)
      (stateTimeout : Option Nat) (timers : List Nat) (nextTimer : Nat) (pB cB : JsValue)
      (hi : i < h.pending.length) (hm : Pake2Of P x.pA server k m) :
      Serves P x h (.resume i coin) { h with
        pase := { h.pase with
          state := .awaitPake3, stateTimeout, pB, cB
          spakeServer := some server, secret := some k }
        node, timers, nextTimer
        pending := h.pending.eraseIdx i
        sent := h.sent ++ [m] }

/-- The run of a responder that was in AWAIT_PAKE1 as `start` is. -/
structure Answering (P : Packages V) (x : Pake1 V) (start h : PaseHost V) : Prop where
  reads : x.Reads P h.pase
  pending : ∀ pending ∈ h.pending, x.Suspended P pending
  worked : h.pending ≠ [] → h.pase.pA = x.pA ∧ h.pase.spake2 = some x.context
  state : h.pase.state = .awaitPake1 ∧ h.sent = start.sent ∨
    h.pase.state = .awaitPake3 ∧ ∃ before m server k, h.sent = start.sent ++ (before ++ [m]) ∧
      h.pase.pA = x.pA ∧ h.pase.spakeServer = some server ∧ h.pase.secret = some k ∧
        Pake2Of P x.pA server k m

namespace PaseHost

open PaseSession

variable {x : Pake1 V} {start h : PaseHost V}

/-- **What a delivery does.** -/
theorem step_serves {e : PaseEvent} (ha : Answering P x start h) (he : x.Delivers P e) :
    Serves P x h e (h.step P e) := by
  cases e with
  | message msg =>
    obtain rfl : msg = x.msg := he
    obtain ⟨counter, hcounter⟩ := ha.reads.counter
    obtain ⟨id, hid⟩ := ha.reads.exchangeId
    have hack : ∃ node, (acknowledge x.msg : PaseM V Unit).run h = .ok () { h with node } := by
      unfold acknowledge
      rw [run_bind_ok (run_lift_of hcounter h)]
      exact ⟨_, rfl⟩
    obtain ⟨node, hack⟩ := hack
    have hreads : x.Reads P ({ h with node } : PaseHost V).pase := ha.reads
    have hstep : h.step P (.message x.msg) = final ((onPake1 P x.msg).run { h with node }) := by
      show final ((acknowledge x.msg >>= fun _ => onExchangeMessage P x.msg).run h) = _
      rw [run_bind_ok hack]
      unfold onExchangeMessage
      rw [run_bind_ok (run_lift_of ha.reads.opcode _), run_bind_ok (run_lift_of hid _)]
      rfl
    rw [hstep]
    by_cases hstate : h.pase.state = .awaitPake1
    · rw [final_onPake1 hreads hstate]
      exact .begun node hstate
    · have hnot : (onPake1 P x.msg).run { h with node } = .ok () { h with node } :=
        guarded_elsewhere (show ({ h with node } : PaseHost V).pase.state ≠ .awaitPake1 from hstate)
      rw [hnot]
      exact .ignored node hstate
  | resume i coin =>
    cases hp : h.pending[i]? with
    | none =>
      rw [step_resume_none P hp]
      exact .nothing hp
    | some pending =>
      rw [step_resume_some P hp]
      have hmem : pending ∈ h.pending := List.mem_of_getElem? hp
      obtain ⟨hi, -⟩ := List.getElem?_eq_some_iff.mp hp
      obtain ⟨hpA, hspake⟩ := ha.worked (List.ne_nil_of_mem hmem)
      cases ha.pending pending hmem with
      | verifier => exact .onward (some x.verifier) hi .generated
      | generated =>
        obtain ⟨server, k, m, hserver, hm⟩ := he
        have hrun : final ((resumeGenerated P .server x.verifier coin).run
            { h with pending := h.pending.eraseIdx i }) =
              { h with pending := h.pending.eraseIdx i ++ [.started .server server] } := by
          unfold resumeGenerated
          rw [run_bind_ok (run_get _)]
          simp only [hspake]
          rw [run_bind_ok (run_lift_of hserver _)]
          rfl
        show Serves P x h _ (final ((resumeGenerated P .server x.verifier coin).run _))
        rw [hrun]
        exact .onward h.pase.spakeVerifier hi (.started hm)
      | started hm =>
        rename_i server k m
        obtain ⟨pB, cB, node, stateTimeout, timers, nextTimer, hrun⟩ := final_resumeServer hm
          (show ({ h with pending := h.pending.eraseIdx i } : PaseHost V).pase.pA = x.pA from hpA)
        show Serves P x h _ (final ((resumeServer P server).run _))
        rw [hrun]
        exact .answered node stateTimeout timers nextTimer pB cB hi hm
  | start => exact he.elim
  | timeout handle => exact he.elim
  | node e => exact he.elim

/-- **A delivery keeps the run answering.** -/
theorem answering_serves {e : PaseEvent} {h' : PaseHost V} (ha : Answering P x start h)
    (hs : Serves P x h e h') : Answering P x start h' := by
  have hr := ha.reads
  cases hs with
  | ignored node hstate => exact ⟨ha.reads, ha.pending, ha.worked, ha.state⟩
  | begun node hstate =>
    refine ⟨⟨hr.opcode, hr.exchangeId, hr.counter, hr.pA, hr.text, hr.context, hr.verifier⟩, ?_,
      fun _ => ⟨rfl, rfl⟩, ?_⟩
    · intro pending hp
      rcases List.mem_append.mp hp with hold | hnew
      · exact ha.pending pending hold
      · rw [List.mem_singleton.mp hnew]
        exact .verifier
    · rcases ha.state with ⟨-, hsent⟩ | ⟨hstate', -⟩
      · exact Or.inl ⟨hstate, hsent⟩
      · rw [hstate] at hstate'
        cases hstate'
  | nothing hp => exact ha
  | @onward i coin spakeVerifier next hi hnext =>
    refine ⟨⟨hr.opcode, hr.exchangeId, hr.counter, hr.pA, hr.text, hr.context, hr.verifier⟩, ?_,
      fun _ => ha.worked (List.ne_nil_of_length_pos (by omega)), ha.state⟩
    intro pending hp
    rcases List.mem_append.mp hp with hold | hnew
    · exact ha.pending pending (List.mem_of_mem_eraseIdx hold)
    · rw [List.mem_singleton.mp hnew]
      exact hnext
  | @answered i coin server k m node stateTimeout timers nextTimer pB cB hi hm =>
    obtain ⟨hpA, hspake⟩ := ha.worked (List.ne_nil_of_length_pos (by omega))
    refine ⟨⟨hr.opcode, hr.exchangeId, hr.counter, hr.pA, hr.text, hr.context, hr.verifier⟩,
      fun pending hp => ha.pending pending (List.mem_of_mem_eraseIdx hp), fun _ => ⟨hpA, hspake⟩,
      Or.inr ⟨rfl, ?_⟩⟩
    rcases ha.state with ⟨-, hsent⟩ | ⟨-, before, m', server', k', hsent, -⟩
    · exact ⟨[], m, server, k, by rw [hsent]; rfl, hpA, rfl, rfl, hm⟩
    · exact ⟨before ++ [m'], m, server, k, by simp [hsent], hpA, rfl, rfl, hm⟩

/-! ## 4. Counting activations -/

/-- The activations so far: those suspended, and those that answered. -/
def accepted (start h : PaseHost V) : Nat :=
  h.pending.length + (h.sent.length - start.sent.length)

section Counting

variable {e : PaseEvent} {h' : PaseHost V}

/-- Nothing is answered in AWAIT_PAKE1, something after. -/
theorem sent_length (ha : Answering P x start h) :
    h.pase.state = .awaitPake1 ∧ h.sent.length = start.sent.length ∨
      h.pase.state = .awaitPake3 ∧ start.sent.length < h.sent.length := by
  rcases ha.state with ⟨hstate, hsent⟩ | ⟨hstate, before, m, server, k, hsent, -⟩
  · exact Or.inl ⟨hstate, by rw [hsent]⟩
  · refine Or.inr ⟨hstate, ?_⟩
    rw [hsent, List.length_append, List.length_append, List.length_singleton]
    omega

/-- **A copy adds an activation, in AWAIT_PAKE1.** -/
theorem accepted_message (ha : Answering P x start h) (hs : Serves P x h (.message x.msg) h') :
    accepted start h' = accepted start h + if h.pase.state = .awaitPake1 then 1 else 0 := by
  have hlen := sent_length ha
  unfold accepted
  cases hs with
  | ignored node hstate => simp [hstate]
  | begun node hstate =>
    simp [hstate]
    omega

/-- An await that ends adds none. -/
theorem accepted_resume {i coin : Nat} (ha : Answering P x start h)
    (hs : Serves P x h (.resume i coin) h') : accepted start h' = accepted start h := by
  have hlen := sent_length ha
  unfold accepted
  cases hs with
  | nothing hp => rfl
  | onward spakeVerifier hi hnext =>
    simp [List.length_eraseIdx, hi]
    omega
  | answered node stateTimeout timers nextTimer pB cB hi hm =>
    simp [List.length_eraseIdx, hi]
    omega

/-- Once a copy has come, an activation has begun. -/
theorem accepted_pos (ha : Answering P x start h) (hs : Serves P x h (.message x.msg) h') :
    1 ≤ accepted start h' := by
  rw [accepted_message ha hs]
  rcases sent_length ha with ⟨hstate, -⟩ | ⟨hstate, hlen⟩
  · rw [if_pos hstate]
    omega
  · unfold accepted
    omega

/-- A copy that comes while an activation is suspended is one too many. -/
theorem accepted_two (ha : Answering P x start h) (hs : Serves P x h (.message x.msg) h')
    (hp : h.pending ≠ []) : 2 ≤ accepted start h' := by
  have hpos := List.length_pos_iff.mpr hp
  rw [accepted_message ha hs]
  unfold accepted
  rcases sent_length ha with ⟨hstate, -⟩ | ⟨hstate, hlen⟩
  · rw [if_pos hstate]
    omega
  · omega

/-- A copy that finds none suspended begins the first activation, or none. -/
theorem accepted_one (ha : Answering P x start h) (hs : Serves P x h (.message x.msg) h')
    (hp : h.pending = []) (hle : accepted start h ≤ 1) : accepted start h' ≤ 1 := by
  rw [accepted_message ha hs]
  rcases sent_length ha with ⟨hstate, hlen⟩ | ⟨hstate, -⟩
  · unfold accepted
    rw [hp, List.length_nil, if_pos hstate]
    omega
  · rw [if_neg (by rw [hstate]; nofun)]
    exact hle

/-- **No activation is suspended where a message comes.** -/
def FindsNoneSuspended (h : PaseHost V) : PaseEvent → Prop
  | .message _ => h.pending = []
  | _ => True

theorem accepted_mono (ha : Answering P x start h) (hs : Serves P x h e h')
    (he : x.Delivers P e) : accepted start h ≤ accepted start h' := by
  cases e with
  | message msg =>
    obtain rfl : msg = x.msg := he
    rw [accepted_message ha hs]
    omega
  | resume i coin => exact (accepted_resume ha hs).ge
  | start => exact he.elim
  | timeout handle => exact he.elim
  | node e => exact he.elim

/-- One activation at most, after a delivery: there was one at most, and none was suspended. -/
theorem accepted_le_one_iff (ha : Answering P x start h) (hs : Serves P x h e h')
    (he : x.Delivers P e) :
    accepted start h' ≤ 1 ↔ accepted start h ≤ 1 ∧ FindsNoneSuspended h e := by
  constructor
  · intro hle
    refine ⟨(accepted_mono ha hs he).trans hle, ?_⟩
    cases e with
    | message msg =>
      obtain rfl : msg = x.msg := he
      by_contra hp
      exact absurd (accepted_two ha hs hp) (by omega)
    | resume i coin => trivial
    | start => trivial
    | timeout handle => trivial
    | node e => trivial
  · rintro ⟨hle, hnone⟩
    cases e with
    | message msg =>
      obtain rfl : msg = x.msg := he
      exact accepted_one ha hs hnone hle
    | resume i coin => exact (accepted_resume ha hs).trans_le hle
    | start => exact he.elim
    | timeout handle => exact he.elim
    | node e => exact he.elim

/-- One activation at most: exactly as long as none is suspended where a copy comes. -/
theorem along_iff_accepted {es : List PaseEvent} (ha : Answering P x start h)
    (hes : ∀ e ∈ es, x.Delivers P e) :
    accepted start (run (step P) h es) ≤ 1 ↔
      accepted start h ≤ 1 ∧ Along (step P) FindsNoneSuspended h es := by
  induction es generalizing h with
  | nil => exact ⟨fun hle => ⟨hle, trivial⟩, fun hall => hall.1⟩
  | cons e es ih =>
    have he := hes e (List.mem_cons_self ..)
    have hs := step_serves ha he
    have hrest := ih (answering_serves ha hs) fun e he => hes e (List.mem_cons_of_mem _ he)
    rw [run_cons, hrest, accepted_le_one_iff ha hs he]
    exact and_assoc

end Counting

theorem answering_run {es : List PaseEvent} (ha : Answering P x start h)
    (hes : ∀ e ∈ es, x.Delivers P e) : Answering P x start (run (step P) h es) := by
  induction es generalizing h with
  | nil => exact ha
  | cons e es ih =>
    exact ih (answering_serves ha (step_serves ha (hes e (List.mem_cons_self ..))))
      fun e he => hes e (List.mem_cons_of_mem _ he)

theorem accepted_run {es : List PaseEvent} (ha : Answering P x start h)
    (hes : ∀ e ∈ es, x.Delivers P e) :
    accepted start h ≤ accepted start (run (step P) h es) ∧
      (.message x.msg ∈ es → 1 ≤ accepted start (run (step P) h es)) := by
  induction es generalizing h with
  | nil => exact ⟨le_refl _, fun hmem => absurd hmem List.not_mem_nil⟩
  | cons e es ih =>
    have he := hes e (List.mem_cons_self ..)
    have hs := step_serves ha he
    obtain ⟨hmono, hpos⟩ := ih (answering_serves ha hs) fun e he => hes e (List.mem_cons_of_mem _ he)
    refine ⟨(accepted_mono ha hs he).trans hmono, fun hmem => ?_⟩
    rcases List.mem_cons.mp hmem with heq | hrest
    · subst heq
      exact (accepted_pos ha hs).trans hmono
    · exact hpos hrest

/-! ## 5. One Pake2 -/

/-- **One Pake2 is sent, and its pB and cB are those of the server and the secret that are kept.** -/
def OnePake2 (P : Packages V) (start h : PaseHost V) : Prop :=
  ∃ m server k, h.sent = start.sent ++ [m] ∧ h.pase.spakeServer = some server ∧
    h.pase.secret = some k ∧ Pake2Of P h.pase.pA server k m

/-- With nothing suspended any more, the activations are the Pake2 messages. -/
theorem onePake2_iff_accepted (ha : Answering P x start h) (hdone : h.pending = [])
    (hpos : 1 ≤ accepted start h) : OnePake2 P start h ↔ accepted start h ≤ 1 := by
  unfold accepted at hpos ⊢
  rw [hdone, List.length_nil] at hpos ⊢
  constructor
  · rintro ⟨m, server, k, hsent, -⟩
    rw [hsent, List.length_append, List.length_singleton]
    omega
  · intro hle
    rcases ha.state with ⟨-, hsent⟩ | ⟨-, before, m, server, k, hsent, hpA, hserver, hk, hm⟩
    · rw [hsent] at hpos
      omega
    · have hbefore : before = [] := by
        rw [hsent, List.length_append, List.length_append, List.length_singleton] at hle
        exact List.eq_nil_of_length_eq_zero (by omega)
      rw [hbefore] at hsent
      exact ⟨m, server, k, hsent, hserver, hk, hpA ▸ hm⟩

/-- **A Pake1 that is delivered again**: exactly one Pake2 is sent, of the secret that is kept, if
    and only if no copy comes while an activation is suspended. -/
theorem onePake2_iff (P : Packages V) (x : Pake1 V) (h : PaseHost V) (es : List PaseEvent)
    (hstate : h.pase.state = .awaitPake1) (hpending : h.pending = []) (hr : x.Reads P h.pase)
    (hes : ∀ e ∈ es, x.Delivers P e) (hfirst : .message x.msg ∈ es)
    (hdone : (run (step P) h es).pending = []) :
    OnePake2 P h (run (step P) h es) ↔ Along (step P) FindsNoneSuspended h es := by
  have ha : Answering P x h h := by
    refine ⟨hr, fun pending hp => ?_, fun hne => absurd hpending hne, Or.inl ⟨hstate, rfl⟩⟩
    rw [hpending] at hp
    exact absurd hp List.not_mem_nil
  have hzero : accepted h h ≤ 1 := by
    unfold accepted
    rw [hpending, List.length_nil]
    omega
  rw [onePake2_iff_accepted (answering_run ha hes) hdone ((accepted_run ha hes).2 hfirst),
    along_iff_accepted ha hes]
  exact and_iff_right hzero

/-- A responder that has answered a ParamRequest. -/
def sampleResponder : PaseHost Bytes :=
  run (step samplePackages) (create (sampleNode false) 0 {}) [.message (sampleRequest 7)]

/-- A Pake1 it can work on. -/
def samplePake1 : Pake1 Bytes where
  msg := sampleMessage opPake1 (templateMsgPasePake1 (.buffer [4]))
  pA := (decodeAt [21, 48, 1, 1, 4, 24] 0).toOption.getD .undefined
  context := samplePackages.sha256 (utf8Encode paseContextSalt.toList ++
    sampleResponder.pase.pbkdfRequest.getD [] ++ sampleResponder.pase.pbkdfResponse.getD [])
  verifier := samplePackages.pbkdf2 [0x25, 0x42, 0x34, 0x01]
    (utf8Encode "SPAKE2P Key Salt".toList) 1000 80

/-- What answers has its answer. -/
theorem eq_ok_of_isSome {α : Type} {y : Except JsError α} (d : α) (h : y.toOption.isSome = true) :
    y = .ok (y.toOption.getD d) := by
  cases y with
  | ok a => rfl
  | error e => cases h

theorem eq_some_of_isSome {α : Type} {o : Option α} (d : α) (h : o.isSome = true) :
    o = some (o.getD d) := by
  cases o with
  | some a => rfl
  | none => cases h

/-- Where the sample responder stands. -/
theorem sampleResponder_facts :
    (sampleResponder.pase.state = .awaitPake1 ∧ sampleResponder.pending.length = 0) ∧
      (sampleResponder.pase.pbkdfRequest.isSome = true ∧
        sampleResponder.pase.pbkdfResponse.isSome = true) ∧
      writeUInt32LE (bufferAlloc 4) sampleResponder.pase.paramPaircode 0 =
        .ok [0x25, 0x42, 0x34, 0x01] ∧
      pbkdf2Sync samplePackages [0x25, 0x42, 0x34, 0x01] sampleResponder.pase.paramSalt
        sampleResponder.pase.paramIterations PaseSession.keyLen = .ok samplePake1.verifier := by
  decide +kernel

theorem samplePake1_reads : samplePake1.Reads samplePackages sampleResponder.pase where
  opcode := by decide +kernel
  exchangeId := ⟨0, by decide +kernel⟩
  counter := ⟨0, by decide +kernel⟩
  pA := ⟨[21, 48, 1, 1, 4, 24], by decide +kernel, eq_ok_of_isSome .undefined (by decide +kernel)⟩
  text := ⟨_, eq_ok_of_isSome "" (by decide +kernel)⟩
  context := by
    obtain ⟨-, ⟨hrequest, hresponse⟩, -⟩ := sampleResponder_facts
    exact ⟨_, _, eq_some_of_isSome [] hrequest, eq_some_of_isSome [] hresponse, rfl⟩
  verifier := by
    obtain ⟨-, -, hpasscode, hpbkdf⟩ := sampleResponder_facts
    exact ⟨_, samplePake1.verifier, hpasscode, hpbkdf, by decide +kernel⟩

theorem samplePake1_answers : samplePake1.Answers samplePackages 0 := by
  have hpayload := eq_ok_of_isSome (y := encodeBuffer (templateMsgPasePake2
    (hexText (4 :: List.replicate 64 (UInt8.ofNat 0)))
    (hexText (sampleMac (1 :: samplePake1.verifier))))) [] (by decide +kernel)
  exact ⟨sampleParty samplePake1.context samplePake1.verifier 0, _, _, rfl, _, _, _, rfl, rfl, rfl,
    hpayload, protocolMessage_eq (by decide) _⟩

/-- A copy that comes after the answer. -/
theorem onePake2_iff_sample :
    OnePake2 samplePackages sampleResponder (run (step samplePackages) sampleResponder
        [.message samplePake1.msg, .resume 0 0, .resume 0 0, .resume 0 0,
          .message samplePake1.msg]) ↔
      Along (step samplePackages) FindsNoneSuspended sampleResponder
        [.message samplePake1.msg, .resume 0 0, .resume 0 0, .resume 0 0,
          .message samplePake1.msg] :=
  onePake2_iff samplePackages samplePake1 sampleResponder _ sampleResponder_facts.1.1
    (List.eq_nil_of_length_eq_zero sampleResponder_facts.1.2) samplePake1_reads
    (by
      simp only [List.forall_mem_cons]
      exact ⟨rfl, samplePake1_answers, samplePake1_answers, samplePake1_answers, rfl,
        List.forall_mem_nil _⟩)
    (List.mem_cons_self ..) (List.eq_nil_of_length_eq_zero (by decide +kernel))

/-- **A copy that comes while an activation is suspended is answered too.** -/
theorem second_pake2 :
    sampleResponder.pase.state = .awaitPake1 ∧
      (∀ e ∈ [PaseEvent.message samplePake1.msg, .message samplePake1.msg, .resume 0 0,
        .resume 0 0, .resume 0 0, .resume 0 0, .resume 0 0, .resume 0 0],
          samplePake1.Delivers samplePackages e) ∧
      ¬ OnePake2 samplePackages sampleResponder (run (step samplePackages) sampleResponder
        [.message samplePake1.msg, .message samplePake1.msg, .resume 0 0, .resume 0 0, .resume 0 0,
          .resume 0 0, .resume 0 0, .resume 0 0]) := by
  refine ⟨sampleResponder_facts.1.1, ?_, ?_⟩
  · simp only [List.forall_mem_cons]
    exact ⟨rfl, rfl, samplePake1_answers, samplePake1_answers, samplePake1_answers,
      samplePake1_answers, samplePake1_answers, samplePake1_answers, List.forall_mem_nil _⟩
  · rintro ⟨m, server, k, hsent, -⟩
    have hlen := congrArg List.length hsent
    revert hlen
    rw [List.length_append, List.length_singleton]
    decide +kernel

end PaseHost

end Matternode.Protocols
