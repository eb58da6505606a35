/-
  File:      Matternode/Protocols/ImSending.lean
  Subject:   What the handlers of requests do on an exchange of a secure session.

  * `run_send_ok`, `run_send_full` -- a message of InteractionModel: sent while the counter fits;
  * `Carried` -- the state after messages, with what was transmitted and what was ciphered;
  * `handleCommands_ok`, `answered_of_handleCommands` -- **the loop over the commands** of an
    InvokeRequest returns exactly when each is answered and the counter fits;
  * `reportData_error` -- **a path that is not readable** makes the handler of a ReadRequest throw.
-/
import Matternode.Messaging.SecureFrames
import Matternode.Protocols.ImAnswers

namespace Matternode.Protocols.InteractionModel

open Base Js Tlv Messaging Clusters

/-! ## 1. Messages -/

section Sending

variable {A : Aead} {st : ImState} {i opcode : Nat} {ex : Exchange} {s : Session} {peer : PeerInfo}
  {id : Nat}

/-- A message of the protocol. -/
def content (opcode : Nat) (payload : Bytes) : Content :=
  { protocolId := protocolId, opcode, body := payload }

theorem send_run (hop : opcode < 256) (payload : Bytes) :
    (send A i opcode payload).run st =
      (do let _ ← zoom ImState.node (fun n st => { st with node := n })
            (Node.sendMessage A i (content opcode payload).message) : ImM Unit).run st := by
  have hprotocol : (newMessage 0 0 0 0 []).setProtocolId (.nat protocolId) =
      .ok (newMessage 0 0 0 protocolId []) := setProtocolId_new (by decide)
  have hopcode : (newMessage 0 0 0 protocolId []).setProtocolOpcode (.nat opcode) =
      .ok (newMessage 0 opcode 0 protocolId []) := setProtocolOpcode_new hop
  unfold send
  rw [← newMessage_zero]
  dsimp only
  rw [hprotocol, run_bind_ok (run_lift_ok _ st), hopcode,
    run_bind_ok (run_lift_ok _ st), setAppPayload_new]
  rfl

/-- The state after a message of the exchange. -/
def ImState.withNode (st : ImState) (n : Node) : ImState := { st with node := n }

theorem run_send_ok (h : SecureExchange st.node i ex s peer id)
    (hcounter : s.messageCounter < 2 ^ 32) (hop : opcode < 256) (payload : Bytes) :
    ∃ keys n', s.cryptoContext = some keys ∧
      (send A i opcode payload).run st = .ok () (st.withNode n') ∧
      SecureExchange n' i ex s.afterSend peer id ∧
      n'.sessions.outside.transmitted = st.node.sessions.outside.transmitted ++
        [s.secureFrame A ex peer id keys (content opcode payload)] ∧
      n'.sessions.outside.ciphered = st.node.sessions.outside.ciphered ++
        [s.secureCall ex id keys (content opcode payload)] := by
  obtain ⟨sent, keys, n', hkeys, hsend, hafter, htransmitted, hciphered⟩ :=
    h.send A hcounter (content opcode payload)
  refine ⟨keys, n', hkeys, ?_, hafter, htransmitted, hciphered⟩
  rw [send_run hop, run_bind_ok (run_zoom_ok hsend)]
  rfl

theorem run_send_full (h : SecureExchange st.node i ex s peer id)
    (hcounter : 2 ^ 32 ≤ s.messageCounter) (hop : opcode < 256) (payload : Bytes) :
    ∃ e st', (send A i opcode payload).run st = .error e st' := by
  obtain ⟨e, n', hsend⟩ := h.send_full A hcounter (content opcode payload)
  refine ⟨e, st.withNode n', ?_⟩
  rw [send_run hop]
  exact run_bind_error (run_zoom_error hsend)

end Sending

/-! ## 2. Commands -/

/-- What is sent for an answer. -/
def Answer.contents (a : Answer) : List Content := a.payloads.map (content commandResponse)

section Commands

variable {A : Aead} {sign : Sign} {st : ImState} {i : Nat} {ex : Exchange} {s : Session}
  {peer : PeerInfo} {id : Nat} {keys : SessionCryptoContext} {tlv : Bytes}

/-- The session after messages. -/
def afterSends (s : Session) (cs : List Content) : Session := cs.foldl (fun s _ => s.afterSend) s

theorem secureFrames_append (s : Session) (cs ds : List Content) :
    Session.secureFrames A ex peer id keys s (cs ++ ds) =
      Session.secureFrames A ex peer id keys s cs ++
        Session.secureFrames A ex peer id keys (afterSends s cs) ds := by
  induction cs generalizing s with
  | nil => rfl
  | cons c cs ih =>
    simp only [List.cons_append, Session.secureFrames, afterSends, List.foldl_cons]
    rw [ih]
    rfl

theorem secureCalls_append (s : Session) (cs ds : List Content) :
    Session.secureCalls ex id keys s (cs ++ ds) =
      Session.secureCalls ex id keys s cs ++
        Session.secureCalls ex id keys (afterSends s cs) ds := by
  induction cs generalizing s with
  | nil => rfl
  | cons c cs ih =>
    simp only [List.cons_append, Session.secureCalls, afterSends, List.foldl_cons]
    rw [ih]
    rfl

/-- The state after an answer was carried out: its messages are sent. -/
structure Carried (A : Aead) (i : Nat) (ex : Exchange) (peer : PeerInfo) (id : Nat)
    (keys : SessionCryptoContext) (st : ImState) (s : Session) (st' : ImState)
    (cs : List Content) : Prop where
  exchange : SecureExchange st'.node i ex (afterSends s cs) peer id
  transmitted : st'.node.sessions.outside.transmitted =
    st.node.sessions.outside.transmitted ++ Session.secureFrames A ex peer id keys s cs
  ciphered : st'.node.sessions.outside.ciphered =
    st.node.sessions.outside.ciphered ++ Session.secureCalls ex id keys s cs

/-- Nothing is sent. -/
theorem Carried.nil (h : SecureExchange st.node i ex s peer id) :
    Carried A i ex peer id keys st s st [] :=
  ⟨h, (List.append_nil _).symm, (List.append_nil _).symm⟩

theorem Carried.append {st1 st2 : ImState} {cs ds : List Content}
    (h : Carried A i ex peer id keys st s st1 cs)
    (h' : Carried A i ex peer id keys st1 (afterSends s cs) st2 ds) :
    Carried A i ex peer id keys st s st2 (cs ++ ds) where
  exchange := by
    have hex := h'.exchange
    unfold afterSends at hex ⊢
    rwa [List.foldl_append]
  transmitted := by
    rw [h'.transmitted, h.transmitted, secureFrames_append, List.append_assoc]
  ciphered := by
    rw [h'.ciphered, h.ciphered, secureCalls_append, List.append_assoc]

/-- The cipher took what was sent while there was room for its payloads. -/
theorem Carried.took_iff {st' : ImState} {cs : List Content}
    (h : Carried A i ex peer id keys st s st' cs) :
    st.node.sessions.outside.Took st'.node.sessions.outside ↔
      ∀ c ∈ cs, c.body.length ≤ ex.room := by
  rw [Outside.took_iff h.ciphered, Session.taken_secureCalls_iff]

/-- A message that is sent, as an answer of its own. -/
theorem carried_send (h : SecureExchange st.node i ex s peer id)
    (hkeys : s.cryptoContext = some keys) (hcounter : s.messageCounter < 2 ^ 32) (payload : Bytes) :
    ∃ st', (send A i commandResponse payload).run st = .ok () st' ∧
      Carried A i ex peer id keys st s st' [content commandResponse payload] := by
  obtain ⟨keys', n', hkeys', hrun, hafter, htransmitted, hciphered⟩ :=
    run_send_ok (A := A) h hcounter (show commandResponse < 256 by decide) payload
  cases hkeys.symm.trans hkeys'
  exact ⟨_, hrun, hafter, htransmitted, hciphered⟩

/-- **An answer is carried out** while the counter fits its field. -/
theorem carryOut_ok (h : SecureExchange st.node i ex s peer id)
    (hkeys : s.cryptoContext = some keys) {a : Answer}
    (hcounter : a.reaction = .respond → s.messageCounter < 2 ^ 32) :
    ∃ st', (carryOut A i a).run st = .ok () st' ∧
      Carried A i ex peer id keys st s st' a.contents := by
  cases a with
  | silent => exact ⟨st, rfl, .nil h⟩
  | csr csrNonce commandPath =>
    exact ⟨_, rfl, h, (List.append_nil _).symm, (List.append_nil _).symm⟩
  | response data payload => exact carried_send h hkeys (hcounter rfl) payload
  | noc nocTlv payload =>
    obtain ⟨st1, hrun, hcarried⟩ := carried_send (A := A) h hkeys (hcounter rfl) payload
    exact ⟨_, run_bind_ok hrun, hcarried.exchange, hcarried.transmitted, hcarried.ciphered⟩

theorem carryOut_full (h : SecureExchange st.node i ex s peer id) {a : Answer}
    (hrespond : a.reaction = .respond) (hcounter : 2 ^ 32 ≤ s.messageCounter) :
    ∃ e st', (carryOut A i a).run st = .error e st' := by
  cases a with
  | silent | csr _ _ => cases hrespond
  | response data payload => exact run_send_full h hcounter (by decide) payload
  | noc nocTlv payload =>
    obtain ⟨e, st', hrun⟩ := run_send_full (A := A) h hcounter
      (show commandResponse < 256 by decide) payload
    exact ⟨e, st', run_bind_error hrun⟩

/-- The session after an answer counts one message more where it responds. -/
theorem messageCounter_afterSends (s : Session) (a : Answer) :
    (afterSends s a.contents).messageCounter =
      s.messageCounter + if a.reaction = .respond then 1 else 0 := by
  cases a <;> rfl

theorem cryptoContext_afterSends (s : Session) (cs : List Content) :
    (afterSends s cs).cryptoContext = s.cryptoContext := by
  induction cs generalizing s with
  | nil => rfl
  | cons c cs ih =>
    unfold afterSends
    rw [List.foldl_cons]
    exact (ih s.afterSend).trans rfl

/-- The challenge that is signed is that of the session's keys. -/
theorem attestationChallenge_eq (h : SecureExchange st.node i ex s peer id)
    (hkeys : s.cryptoContext = some keys) :
    attestationChallenge st.node i = .ok keys.attestationChallenge := by
  unfold attestationChallenge
  rw [h.exchange, Option.bind_some, h.session]
  dsimp only
  unfold Session.attestationChallenge
  rw [hkeys]
  rfl

/-- As many messages as there are commands that are responded to fit the counter. -/
def CounterFits (s : Session) (commands : List CommandIds) : Prop :=
  ∀ k < commands.countP (fun p => p.reaction = .respond), s.messageCounter + k < 2 ^ 32

theorem counterFits_cons {p : CommandIds} {commands : List CommandIds} {a : Answer}
    (ha : a.reaction = p.reaction) : CounterFits s (p :: commands) ↔
      (a.reaction = .respond → s.messageCounter < 2 ^ 32) ∧
        CounterFits (afterSends s a.contents) commands := by
  unfold CounterFits
  rw [List.countP_cons, messageCounter_afterSends, ha]
  by_cases hp : p.reaction = .respond
  · simp only [hp, decide_true, if_true, forall_const]
    constructor
    · intro h
      refine ⟨h 0 (by omega), fun k hk => ?_⟩
      have hlt := h (k + 1) (by omega)
      omega
    · intro h k hk
      cases k with
      | zero => exact h.1
      | succ k =>
        have hlt := h.2 k (by omega)
        omega
  · simp [hp]

/-- What is sent for answers is the payloads of each. -/
theorem forall_contents_iff {answers : List Answer} {room : Nat} :
    (∀ c ∈ answers.flatMap Answer.contents, c.body.length ≤ room) ↔
      ∀ a ∈ answers, ∀ payload ∈ a.payloads, payload.length ≤ room := by
  constructor
  · intro h a ha payload hpayload
    exact h _ (List.mem_flatMap.mpr ⟨a, ha, List.mem_map_of_mem hpayload⟩)
  · intro h c hc
    obtain ⟨a, ha, hmem⟩ := List.mem_flatMap.mp hc
    obtain ⟨payload, hpayload, rfl⟩ := List.mem_map.mp hmem
    exact h a ha payload hpayload

/-- **The loop over the commands** answers each as its ids say, and there is room for what it sends
    exactly when there is for the reply to each. -/
theorem handleCommands_ok (A : Aead) (sign : Sign) {entries : List DeterministicJson}
    {commands : List CommandIds} (hnames : List.Forall₂ NamesCommand entries commands)
    (hbig : entriesHaveBigint entries = false) (hno : NoBigint tlv) (hshort : tlv.length < 2 ^ 31)
    (hanswered : ∀ p ∈ commands, p.Answered tlv) (h : SecureExchange st.node i ex s peer id)
    (hkeys : s.cryptoContext = some keys) (hcounter : CounterFits s commands) :
    ∃ (st' : ImState) (answers : List Answer),
      (handleCommands A sign i tlv (entries.map (·.value))).run st = .ok () st' ∧
      answers.map Answer.reaction = commands.map CommandIds.reaction ∧
      Carried A i ex peer id keys st s st' (answers.flatMap Answer.contents) ∧
      ((∀ c ∈ answers.flatMap Answer.contents, c.body.length ≤ ex.room) ↔
        ∀ p ∈ commands, p.ReplyFits sign keys.attestationChallenge tlv ex.room) := by
  simp only [forall_contents_iff]
  induction hnames generalizing st s with
  | nil => exact ⟨st, [], rfl, rfl, .nil h,
      iff_of_true (List.forall_mem_nil _) (List.forall_mem_nil _)⟩
  | @cons entry p entries commands hname _ ih =>
    have hentry := entriesHaveBigint_of_mem (List.mem_cons_self ..) hbig
    obtain ⟨a, ha, hreaction, hfits⟩ := commandAnswer_ok sign hname hentry
      (attestationChallenge_eq h hkeys) hno hshort (hanswered p (List.mem_cons_self ..))
    obtain ⟨hfirst, hrest⟩ := (counterFits_cons hreaction).mp hcounter
    obtain ⟨st1, hcarry, hcarried⟩ := carryOut_ok (A := A) h hkeys hfirst
    obtain ⟨st2, answers, hrun, hmap, hcarried', hrests⟩ := ih (by simp_all [entriesHaveBigint])
      (fun q hq => hanswered q (List.mem_cons_of_mem _ hq)) hcarried.exchange
      ((cryptoContext_afterSends s _).trans hkeys) hrest
    refine ⟨st2, a :: answers, ?_, by rw [List.map_cons, List.map_cons, hreaction, hmap],
      hcarried.append hcarried', ?_⟩
    · unfold handleCommands
      rw [List.map_cons]
      dsimp only
      rw [run_bind_ok (run_get st), ha, run_bind_ok (run_lift_ok a st), run_bind_ok hcarry]
      exact hrun
    · rw [List.forall_mem_cons, List.forall_mem_cons, hrests,
        hfits ex.room (le_trans (by decide) ex.room_le)]

/-- **A loop that returns** had commands that are answered, and a counter that fits. -/
theorem answered_of_handleCommands {entries : List DeterministicJson} {commands : List CommandIds}
    (hnames : List.Forall₂ NamesCommand entries commands) (hbig : entriesHaveBigint entries = false)
    (hno : NoBigint tlv) (hshort : tlv.length < 2 ^ 31)
    (h : SecureExchange st.node i ex s peer id) (hkeys : s.cryptoContext = some keys)
    {st' : ImState}
    (hrun : (handleCommands A sign i tlv (entries.map (·.value))).run st = .ok () st') :
    (∀ p ∈ commands, p.Answered tlv) ∧ CounterFits s commands := by
  induction hnames generalizing st s with
  | nil => exact ⟨List.forall_mem_nil _, fun k hk => absurd hk (Nat.not_lt_zero k)⟩
  | @cons entry p entries commands hname _ ih =>
    have hentry := entriesHaveBigint_of_mem (List.mem_cons_self ..) hbig
    unfold handleCommands at hrun
    rw [List.map_cons] at hrun
    dsimp only at hrun
    rw [run_bind_ok (run_get st)] at hrun
    have hp : p.Answered tlv := by
      by_contra hno
      obtain ⟨e, he⟩ := commandAnswer_error sign (attestationChallenge st.node i) hname hentry hno
      rw [he, run_bind_error (run_lift_error e st)] at hrun
      cases hrun
    obtain ⟨a, ha, hreaction, -⟩ := commandAnswer_ok sign hname hentry
      (attestationChallenge_eq h hkeys) hno hshort hp
    rw [ha, run_bind_ok (run_lift_ok a st)] at hrun
    have hfirst : a.reaction = .respond → s.messageCounter < 2 ^ 32 := by
      intro hrespond
      by_contra hfull
      obtain ⟨e, st1, hcarry⟩ := carryOut_full (A := A) h hrespond (Nat.le_of_not_lt hfull)
      rw [run_bind_error hcarry] at hrun
      cases hrun
    obtain ⟨st1, hcarry, hcarried⟩ := carryOut_ok (A := A) h hkeys hfirst
    rw [run_bind_ok hcarry] at hrun
    obtain ⟨hrest, hfits⟩ := ih (by simp_all [entriesHaveBigint]) hcarried.exchange
      ((cryptoContext_afterSends s _).trans hkeys) hrun
    exact ⟨List.forall_mem_cons.mpr ⟨hp, hrest⟩, (counterFits_cons hreaction).mpr ⟨hfirst, hfits⟩⟩

end Commands

/-! ## 3. Reads -/

section Reads

variable {p : PathIds}

theorem getAttributeOnEndpoint_error {endpoint : Nat} (hp : p.Small)
    (hknown : endpoint ∈ endpointIds) {server : ClusterServer}
    (hserver : p.serverAt endpoint = some server) (hnone : server.attributes? = none)
    {path : AttributePath} (hcluster : path.clusterId = idValue p.clusterId) :
    getAttributeOnEndpoint (.nat endpoint) path = .error .typeError := by
  obtain ⟨rows, hrows, hlookup⟩ := hosts_of_known hknown
  have hfound : (lookup (hosts rows) path.clusterId).bind clusterMap = some server := by
    rw [hcluster, lookup_server hrows hp.clusterId]
    exact hserver
  rw [getAttributeOnEndpoint_of_lookup hlookup, hfound, Option.elim_some]
  unfold ClusterServer.getAttribute
  rw [hnone]

theorem getAttributeOnEndpoint_unknown {v : JsValue} {path : AttributePath}
    (h : lookup endpoints v = none) : getAttributeOnEndpoint v path = .error .typeError := by
  unfold getAttributeOnEndpoint
  rw [h]

/-- The path meets a server without `getAttribute` on the endpoint. -/
def Blocked (p : PathIds) (endpoint : Nat) : Prop :=
  ∃ server, p.serverAt endpoint = some server ∧ server.attributes? = none

theorem gettable_of_not_blocked {endpoint : Nat} (h : ¬ Blocked p endpoint) :
    ∀ server, p.serverAt endpoint = some server → server.attributes?.isSome := by
  intro server hserver
  by_contra hnone
  exact h ⟨server, hserver, Option.not_isSome_iff_eq_none.mp hnone⟩

theorem reportEverywhere_error (path : AttributePath) (hp : p.Small) {keys : List Nat}
    (hknown : ∀ key ∈ keys, key ∈ endpointIds) (hblocked : ∃ key ∈ keys, Blocked p key)
    {compression : JsValue} (hpath : ∀ key : JsValue, { path with endpointId := key } =
      { p.path compression with endpointId := key }) (w : TlvWriter) :
    ∃ e w', (reportEverywhere (keys.map fun key : Nat => .int key) path).run w = .error e w' := by
  induction keys generalizing path w with
  | nil =>
    obtain ⟨key, hmem, -⟩ := hblocked
    cases hmem
  | cons key keys ih =>
    have hkey := hknown key (List.mem_cons_self ..)
    have hsmall : key < 2 ^ 32 := by
      simp only [endpointIds_eq, List.mem_cons, List.not_mem_nil, or_false] at hkey
      omega
    have hcluster : path.clusterId = idValue p.clusterId :=
      congrArg AttributePath.clusterId (hpath path.endpointId)
    have hattribute : path.attributeId = idValue p.attributeId :=
      congrArg AttributePath.attributeId (hpath path.endpointId)
    simp only [List.map_cons]
    unfold reportEverywhere
    by_cases hhere : Blocked p key
    · obtain ⟨server, hserver, hnone⟩ := hhere
      have hlook := getAttributeOnEndpoint_error hp hkey hserver hnone hcluster
      refine ⟨.typeError, w, run_bind_error ?_⟩
      rw [show getAttributeOnEndpoint (.number (.int key)) path = _ from hlook]
      rfl
    · have hlook := getAttributeOnEndpoint_known hp hkey (gettable_of_not_blocked hhere) hcluster
        hattribute
      have hrest : ∃ key ∈ keys, Blocked p key := by
        obtain ⟨k, hmem, hk⟩ := hblocked
        rcases List.mem_cons.mp hmem with rfl | hmem
        · exact absurd hk hhere
        · exact ⟨k, hmem, hk⟩
      have htail := fun path' => ih path' (fun k hk => hknown k (List.mem_cons_of_mem _ hk)) hrest
      rw [show getAttributeOnEndpoint (.number (.int key)) path = _ from hlook,
        run_bind_ok (run_lift_ok _ w)]
      cases hattr : p.attributeAt key with
      | none => exact htail path hpath w
      | some attr =>
        obtain ⟨e, -, hwrite⟩ := reportAttribute_appends hp hsmall hattr compression
        rw [← hpath] at hwrite
        dsimp only
        rw [run_bind_ok (hwrite w)]
        exact htail { path with endpointId := .nat key } hpath _

/-- **A path that is not readable makes its report throw.** -/
theorem reportPath_error {entry : DeterministicJson} (h : NamesPath entry p)
    (hno : entry.value.hasBigint = false) (hread : ¬ p.Readable) (w : TlvWriter) :
    ∃ e w', (reportPath entry.value).run w = .error e w' := by
  obtain ⟨hp, compression, hpath⟩ := h.ofTlv hno
  unfold reportPath
  rw [hpath, run_bind_ok (run_lift_ok _ w)]
  cases hendpoint : p.endpointId with
  | none =>
    have hwild : (p.path compression).endpointId = .undefined := by
      simp [PathIds.path, hendpoint, idValue]
    have hmem : ∀ key ∈ [0, 1, 2, 0], key ∈ endpointIds := by
      rw [endpointIds_eq]
      decide
    have hblocked : ∃ key ∈ [0, 1, 2, 0], Blocked p key := by
      by_contra hall
      refine hread ⟨by simp [hendpoint], fun endpoint hmem => gettable_of_not_blocked fun hb => ?_⟩
      rw [hendpoint, Option.elim_none, endpointIds_eq] at hmem
      exact hall ⟨endpoint, by
        simp only [List.mem_cons, List.not_mem_nil, or_false] at hmem ⊢
        omega, hb⟩
    rw [hwild, keys_eq]
    exact reportEverywhere_error (p.path compression) hp hmem hblocked (fun key => rfl) w
  | some endpoint =>
    have hhere : (p.path compression).endpointId = .nat endpoint := by
      simp [PathIds.path, hendpoint, idValue]
    have hlook : getAttributeOnEndpoint (.nat endpoint) (p.path compression) =
        .error .typeError := by
      by_cases hknown : endpoint ∈ endpointIds
      · have hblocked : Blocked p endpoint := by
          by_contra hall
          refine hread ⟨?_, ?_⟩
          · rw [hendpoint]
            intro e he
            cases he
            exact hknown
          · rw [hendpoint, Option.elim_some]
            intro e he
            rw [List.mem_singleton.mp he]
            exact gettable_of_not_blocked hall
        obtain ⟨server, hserver, hnone⟩ := hblocked
        exact getAttributeOnEndpoint_error hp hknown hserver hnone rfl
      · have hsmall : ∀ n ∈ some endpoint, n < 2 ^ 32 := by
          simpa using hp.endpointId endpoint hendpoint
        have hunknown := lookup_endpoints_unknown hsmall (by simpa using hknown)
        exact getAttributeOnEndpoint_unknown hunknown
    rw [hhere]
    refine ⟨.typeError, w, run_bind_error ?_⟩
    rw [show getAttributeOnEndpoint (.number (.int endpoint)) _ = _ from hlook]
    rfl

theorem reportPaths_error {entries : List DeterministicJson} {paths : List PathIds}
    (h : List.Forall₂ NamesPath entries paths) (hno : entriesHaveBigint entries = false)
    (hread : ¬ ∀ p ∈ paths, p.Readable) (w : TlvWriter) :
    ∃ e w', (reportPaths (entries.map (·.value))).run w = .error e w' := by
  induction h generalizing w with
  | nil => exact absurd (List.forall_mem_nil _) hread
  | @cons entry p entries paths hname _ ih =>
    have hentry := entriesHaveBigint_of_mem (List.mem_cons_self ..) hno
    rw [List.map_cons]
    unfold reportPaths
    by_cases hp : p.Readable
    · obtain ⟨es, -, happends⟩ := reportPath_appends hname hentry hp
      rw [run_bind_ok (happends w)]
      exact ih (by simp_all [entriesHaveBigint])
        (fun hall => hread (List.forall_mem_cons.mpr ⟨hp, hall⟩)) _
    · obtain ⟨e, w', hrun⟩ := reportPath_error hname hentry hp w
      exact ⟨e, w', run_bind_error hrun⟩

/-- **A request with a path that is not readable makes the handler throw.** -/
theorem reportData_error {tlv : Bytes} {paths : List PathIds} (h : IsReadRequest tlv paths)
    (hno : NoBigint tlv) (hread : ¬ ∀ p ∈ paths, p.Readable) :
    ∃ e, reportData tlv = .error e := by
  obtain ⟨top, rest, params, entries, hdecode, htop, hparams, hentries⟩ := h
  have hresult := hno _ hdecode
  have hnone := entriesHaveBigint_list hresult htop hparams
  have hstruct : Appends (putStructStart none none) (Tlv.header tlvTypeStructure none) :=
    appends_append (encodeControlByte_plain none (by decide))
  have harray : Appends (putArrayStart (some 1) none) (Tlv.header tlvTypeArray (some 1)) :=
    appends_append (encodeControlByte_plain (some 1) (by decide))
  obtain ⟨e, w', hthrows⟩ := reportPaths_error hentries hnone hread
    { buf := [] ++ Tlv.header tlvTypeStructure none ++ Tlv.header tlvTypeArray (some 1) }
  have hrun : bufferOf (do
      putStructStart
      putArrayStart (some 1)
      reportPaths (← lift (entryValues (.array entries)))
      putContainerEnd
      putContainerEnd) = .error e := by
    unfold bufferOf
    rw [run_bind_ok (hstruct {}), run_bind_ok (harray _),
      show entryValues (.array entries) = .ok (entries.map (·.value)) from rfl,
      run_bind_ok (run_lift_ok _ _), run_bind_error hthrows]
  refine ⟨e, ?_⟩
  unfold reportData
  rw [hdecode]
  simp only [bind, Except.bind, stringify, hresult, JsValue.valueAt, List.getElem?_cons_zero,
    Option.elim_some, htop, findTag, hparams]
  exact hrun

end Reads

end Matternode.Protocols.InteractionModel
