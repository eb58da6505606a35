/-
  File:      Matternode/Protocols/ImOwnData.lean
  Subject:   Which data the handlers of operational credentials work on.

  onInvokeCommandRequest finds the path and the data of each command by their tags. The handlers
  decode the payload again and walk it by position, whichever command they run for.

  * `OwnCommand`, `Holds` -- a command with the data that is found by tags in its own entry;
  * `OwnCommand.answer` -- what is answered for that data;
  * `InvokeEnvelope` -- a request around its commands, to be sent with one of them alone;
  * `Finds` -- a command's data stands at the places that the handlers read;
  * `AnsweredWith` -- the handler of a request carries out these answers, in order;
  * `ownData_iff` -- **each command is answered from its own data, and as it is alone, exactly when**
    no value is read as a bigint, and each finds its own data at those places, in the request and
    alone. Two commands with different data never do.
-/
import Matternode.Protocols.ImServing

namespace Matternode.Protocols.InteractionModel

open Base Js Tlv Messaging Clusters

/-! ## 1. Commands with their own data -/

/-- The commands of operational credentials that work on a field of their data. -/
inductive CommandKind where
  | attestationRequest | certificateChainRequest | csrRequest | addNoc
  deriving DecidableEq, Repr

def CommandKind.commandId : CommandKind → Nat
  | .attestationRequest => 0
  | .certificateChainRequest => 2
  | .csrRequest => 4
  | .addNoc => 6

/-- An octet string as the reader answers it: a bigint, where its length took eight bytes. -/
def IsOctets : JsValue → Prop
  | .buffer _ | .bigint _ => True
  | _ => False

/-- What the field with tag 0 holds: the type of a certificate, or a nonce, or a certificate. -/
def CommandKind.Takes (v : JsValue) : CommandKind → Prop
  | .certificateChainRequest => ∃ n, IsId v (some n)
  | .attestationRequest | .csrRequest | .addNoc => IsOctets v

/-- A command, with the value of the field with tag 0 of its data. -/
structure OwnCommand where
  kind : CommandKind
  endpointId : Nat
  data : JsValue

namespace OwnCommand

def ids (c : OwnCommand) : CommandIds where
  endpointId := some c.endpointId
  clusterId := some 62
  commandId := some c.kind.commandId

/-- The endpoint has the cluster. -/
def Hosted (c : OwnCommand) : Prop := c.ids.server.isSome

instance (c : OwnCommand) : Decidable c.Hosted := inferInstanceAs (Decidable (_ = true))

/-- What the command's handler answers for the command's own data. -/
def response (sign : Sign) (challenge : Except JsError Bytes) (c : OwnCommand) :
    Except JsError Answer :=
  match c.kind with
  | .attestationRequest => OperationalCredentials.attest sign challenge c.ids.path c.data
  | .certificateChainRequest => OperationalCredentials.certificateChain c.ids.path c.data
  | .csrRequest => .ok (.csr c.data c.ids.path)
  | .addNoc => OperationalCredentials.acceptNoc c.ids.path c.data

/-- What is to be done for the command: nothing where its endpoint is without the cluster. -/
def answer (sign : Sign) (challenge : Except JsError Bytes) (c : OwnCommand) :
    Except JsError Answer :=
  if c.Hosted then c.response sign challenge else .ok .silent

end OwnCommand

/-- An entry of CommandList that holds the command, on an endpoint of the table. -/
structure Holds (entry : DeterministicJson) (c : OwnCommand) : Prop where
  known : c.endpointId ∈ endpointIds
  takes : c.kind.Takes c.data
  fields : ∃ fields path data, entry.value = .array fields ∧ tagged fields 0 = .array path ∧
    IsId (tagged path 0) c.ids.endpointId ∧ IsId (tagged path 1) c.ids.clusterId ∧
    IsId (tagged path 2) c.ids.commandId ∧ tagged fields 1 = .array data ∧ tagged data 0 = c.data

/-- The parts of an InvokeRequest around the entries of its CommandList. -/
structure InvokeEnvelope where
  top : DeterministicJson
  rest : List DeterministicJson
  before : List DeterministicJson
  commandList : DeterministicJson
  after : List DeterministicJson
  before_tag : ∀ e ∈ before, e.tag ≠ some 2
  commandList_tag : commandList.tag = some 2

namespace InvokeEnvelope

def params (env : InvokeEnvelope) (entries : List DeterministicJson) : List DeterministicJson :=
  env.before ++ { env.commandList with value := .array entries } :: env.after

/-- What a request with these entries is read as. -/
def result (env : InvokeEnvelope) (entries : List DeterministicJson) : List DeterministicJson :=
  { env.top with value := .array (env.params entries) } :: env.rest

/-- The payload is the request with these entries. -/
def Carries (env : InvokeEnvelope) (entries : List DeterministicJson) (tlv : Bytes) : Prop :=
  decode tlv = .ok (env.result entries)

end InvokeEnvelope

/-- The data that the handlers read begins with the command's own; that of AddNoc has four fields. -/
def Finds (result : List DeterministicJson) (c : OwnCommand) : Prop :=
  ∃ data, DataAt result data ∧ StandsAt data 0 c.data ∧ (c.kind = .addNoc → 4 ≤ data.length)

/-- The answers carried out, in order. -/
def carryOutAll (A : Aead) (i : Nat) : List Answer → ImM Unit
  | [] => pure ()
  | a :: answers => do
    carryOut A i a
    carryOutAll A i answers

/-- The handler of the payload answers its commands with these, and carries them out in order. -/
structure AnsweredWith (A : Aead) (sign : Sign) (st : ImState) (i : Nat) (tlv : Bytes)
    (answers : List Answer) : Prop where
  answered : ∃ commands, commandList tlv = .ok commands ∧ List.Forall₂ (fun command a =>
    commandAnswer sign (attestationChallenge st.node i) tlv command = .ok a) commands answers
  run : ∀ msg : Message, msg.appPayload = .ok tlv →
    (onInvokeCommandRequest A sign msg i).run st = (carryOutAll A i answers).run st

/-- Each command is answered from its own data, in the request as in the payload that has it alone. -/
def OwnData (A : Aead) (sign : Sign) (st : ImState) (i : Nat) (commands : List OwnCommand)
    (tlv : Bytes) (alones : List Bytes) : Prop :=
  ∃ answers,
    List.Forall₂ (fun c a => c.answer sign (attestationChallenge st.node i) = .ok a)
      commands answers ∧
    AnsweredWith A sign st i tlv answers ∧
    List.Forall₂ (fun alone a => AnsweredWith A sign st i alone [a]) alones answers

/-! ## 2. Answers and the data they are about -/

/-- The data that an answer is about. -/
def Answer.data : Answer → JsValue
  | .silent => .undefined
  | .response data _ | .csr data _ | .noc data _ => data

section Answers

variable {sign : Sign} {challenge : Except JsError Bytes} {path : CommandPath} {v : JsValue}
  {a : Answer}

theorem data_of_attest (h : OperationalCredentials.attest sign challenge path v = .ok a) :
    a.data = v := by
  obtain ⟨_, -, h⟩ := bind_eq_ok h
  obtain ⟨_, -, h⟩ := bind_eq_ok h
  obtain ⟨_, -, h⟩ := bind_eq_ok h
  obtain ⟨_, -, h⟩ := bind_eq_ok h
  cases h
  rfl

theorem data_of_certificateChain (h : OperationalCredentials.certificateChain path v = .ok a) :
    a.data = v := by
  obtain ⟨_, -, h⟩ := bind_eq_ok h
  cases h
  rfl

theorem data_of_acceptNoc (h : OperationalCredentials.acceptNoc path v = .ok a) : a.data = v := by
  obtain ⟨_, -, h⟩ := bind_eq_ok h
  obtain ⟨_, -, h⟩ := bind_eq_ok h
  cases h
  rfl

end Answers

namespace OwnCommand

section Handlers

variable {sign : Sign} {challenge : Except JsError Bytes} {tlv : Bytes} {c : OwnCommand}
  {a : Answer}

theorem data_of_response (h : c.response sign challenge = .ok a) : a.data = c.data := by
  obtain ⟨kind, endpointId, data⟩ := c
  cases kind with
  | attestationRequest => exact data_of_attest h
  | certificateChainRequest => exact data_of_certificateChain h
  | csrRequest =>
    cases h
    rfl
  | addNoc => exact data_of_acceptNoc h

/-- **What a handler that answers has read**: the data at the places it walks to. -/
theorem data_of_onCommand
    (h : OperationalCredentials.onCommand sign challenge tlv c.ids.path = .ok a) :
    OperationalCredentials.firstField tlv = .ok a.data ∧ (c.kind = .addNoc →
      ∃ data w, OperationalCredentials.commandData tlv = .ok data ∧ data.valueAt 3 = .ok w) := by
  obtain ⟨kind, endpointId, data⟩ := c
  cases kind with
  | attestationRequest =>
    obtain ⟨v, hv, h⟩ := bind_eq_ok (f := OperationalCredentials.attest _ _ _) h
    exact ⟨by rw [data_of_attest h, hv], by simp⟩
  | certificateChainRequest =>
    obtain ⟨_, -, h⟩ := bind_eq_ok h
    obtain ⟨_, -, h⟩ := bind_eq_ok h
    obtain ⟨v, hv, h⟩ := bind_eq_ok h
    exact ⟨by rw [data_of_certificateChain h, hv], by simp⟩
  | csrRequest =>
    obtain ⟨v, hv, h⟩ := bind_eq_ok h
    cases h
    exact ⟨hv, by simp⟩
  | addNoc =>
    obtain ⟨addNocData, hdata, h⟩ := bind_eq_ok h
    obtain ⟨v, hv, h⟩ := bind_eq_ok h
    obtain ⟨_, -, h⟩ := bind_eq_ok h
    obtain ⟨_, -, h⟩ := bind_eq_ok h
    obtain ⟨w, hw, h⟩ := bind_eq_ok h
    refine ⟨?_, fun _ => ⟨addNocData, w, hdata, hw⟩⟩
    unfold OperationalCredentials.firstField
    rw [hdata, data_of_acceptNoc h]
    exact hv

/-- **A command that finds its own data is answered from it.** -/
theorem onCommand_eq (hno : NoBigint tlv) {result : List DeterministicJson}
    (hdecode : decode tlv = .ok result) (hfinds : Finds result c) :
    OperationalCredentials.onCommand sign challenge tlv c.ids.path = c.response sign challenge := by
  obtain ⟨data, hdata, hfirst, hlength⟩ := hfinds
  have hread := firstField_eq hdecode hdata hfirst
  obtain ⟨kind, endpointId, v⟩ := c
  cases kind with
  | attestationRequest =>
    show OperationalCredentials.onAttestationRequest _ _ _ _ = _
    unfold OperationalCredentials.onAttestationRequest
    rw [hread]
    rfl
  | certificateChainRequest =>
    show OperationalCredentials.onCertificateChainRequest _ _ = _
    unfold OperationalCredentials.onCertificateChainRequest
    rw [hdecode, hread]
    simp only [bind, Except.bind, stringify, hno result hdecode]
    rfl
  | csrRequest =>
    show OperationalCredentials.onCsrRequest _ _ = _
    unfold OperationalCredentials.onCsrRequest
    rw [hread]
    rfl
  | addNoc =>
    exact OperationalCredentials.onAddNoc_eq ((commandData_array_iff hdecode).mpr hdata)
      (hlength rfl) (valueAt_array_iff.mpr hfirst)

end Handlers

section Responses

variable {sign : Sign} {challenge : Except JsError Bytes} {c : OwnCommand}

theorem server_of_hosted (hknown : c.endpointId ∈ endpointIds) (h : c.Hosted) :
    c.ids.server = some .operationalCredentials := by
  have hserver : c.ids.server = serverAt c.endpointId 62 := rfl
  unfold Hosted at h
  rw [hserver] at h ⊢
  simp only [endpointIds_eq, List.mem_cons, List.not_mem_nil, or_false] at hknown
  rcases hknown with hid | hid | hid
  · rw [hid]
    rfl
  · rw [hid] at h
    exact absurd h (by decide)
  · rw [hid] at h
    exact absurd h (by decide)

/-- **The answer to a command's own data**: it is there for every command. -/
theorem response_ok {endpoint cluster : Nat} {command : Option Nat}
    (hpath : c.ids.path.HasIds endpoint cluster command) {bytes : Bytes}
    (hchallenge : challenge = .ok bytes) (htakes : c.kind.Takes c.data)
    (hbig : c.data.hasBigint = false) (hshort : c.data.weight < 2 ^ 31) :
    ∃ a, c.response sign challenge = .ok a := by
  have hbuffer (h : IsOctets c.data) : ∃ bs, c.data = .buffer bs := by
    cases hv : c.data with
    | buffer bs => exact ⟨bs, rfl⟩
    | bigint n => simp [hv, JsValue.hasBigint] at hbig
    | undefined | boolean _ | number _ | string _ | array _ | object _ =>
      rw [hv] at h
      exact h.elim
  unfold response
  cases hkind : c.kind with
  | attestationRequest =>
    rw [hkind] at htakes
    obtain ⟨bs, hbs⟩ := hbuffer htakes
    obtain ⟨-, payload, -, hpayload, -⟩ := OperationalCredentials.attest_ok sign hpath hchallenge
      (show IsNonce c.data by rw [hbs]; trivial) hshort
    exact ⟨_, hpayload⟩
  | certificateChainRequest =>
    obtain ⟨payload, hpayload, -⟩ := OperationalCredentials.certificateChain_ok hpath c.data
    exact ⟨_, hpayload⟩
  | csrRequest => exact ⟨_, rfl⟩
  | addNoc =>
    rw [hkind] at htakes
    obtain ⟨bs, hbs⟩ := hbuffer htakes
    obtain ⟨payload, hpayload, -⟩ := OperationalCredentials.acceptNoc_ok hpath
      (show HasText c.data by rw [hbs]; trivial)
    exact ⟨_, hpayload⟩

end Responses

end OwnCommand

section Entries

variable {sign : Sign} {challenge : Except JsError Bytes} {tlv : Bytes} {c : OwnCommand}
  {entry : DeterministicJson} {a : Answer}

theorem Holds.names (h : Holds entry c) : NamesCommand entry c.ids := by
  obtain ⟨fields, path, data, hfields, hpath, hendpoint, hcluster, hcommand, -, -⟩ := h.fields
  exact ⟨fields, path, hfields, hpath, hendpoint, hcluster, hcommand⟩

theorem Holds.data_ne (h : Holds entry c) : c.data ≠ .undefined := by
  intro hdata
  have htakes := h.takes
  unfold CommandKind.Takes at htakes
  rw [hdata] at htakes
  cases hkind : c.kind with
  | certificateChainRequest =>
    rw [hkind] at htakes
    obtain ⟨n, hn⟩ := htakes
    cases hn
  | attestationRequest | csrRequest | addNoc =>
    rw [hkind] at htakes
    exact htakes.elim

/-- The data of an entry has no bigint, and is no larger than the entry. -/
theorem Holds.data_small (h : Holds entry c) (hbig : entry.value.hasBigint = false) :
    c.data.hasBigint = false ∧ c.data.weight ≤ entry.value.weight := by
  obtain ⟨fields, path, data, hfields, -, -, -, -, hdata, hv⟩ := h.fields
  rw [hfields] at hbig ⊢
  have hdatabig := tagged_hasBigint hbig 1
  rw [hdata] at hdatabig
  have hle := weight_tagged data 0
  have hle' := weight_tagged fields 1
  rw [hdata] at hle'
  rw [hv] at hle
  refine ⟨hv ▸ tagged_hasBigint hdatabig 0, hle.trans ?_⟩
  rw [JsValue.weight] at hle' ⊢
  exact hle'

/-- What is done for the entry of a command. -/
theorem Holds.commandAnswer_eq (h : Holds entry c) (hbig : entry.value.hasBigint = false) :
    commandAnswer sign challenge tlv entry.value =
      if c.Hosted then OperationalCredentials.onCommand sign challenge tlv c.ids.path
      else .ok .silent := by
  rw [commandAnswer_known h.names hbig ⟨c.endpointId, rfl, h.known⟩]
  by_cases hhosted : c.Hosted
  · rw [if_pos hhosted, OwnCommand.server_of_hosted h.known hhosted]
    rfl
  · rw [if_neg hhosted, Option.not_isSome_iff_eq_none.mp hhosted]
    rfl

/-- **A command that finds its own data is answered from it.** -/
theorem Holds.commandAnswer_of_finds (h : Holds entry c) (hbig : entry.value.hasBigint = false)
    (hno : NoBigint tlv) {result : List DeterministicJson} (hdecode : decode tlv = .ok result)
    (hfinds : c.Hosted → Finds result c) :
    commandAnswer sign challenge tlv entry.value = c.answer sign challenge := by
  rw [h.commandAnswer_eq hbig]
  unfold OwnCommand.answer
  by_cases hhosted : c.Hosted
  · rw [if_pos hhosted, if_pos hhosted, OwnCommand.onCommand_eq hno hdecode (hfinds hhosted)]
  · rw [if_neg hhosted, if_neg hhosted]

/-- **A command that is answered from its own data finds it.** -/
theorem Holds.finds_of_commandAnswer (h : Holds entry c) (hbig : entry.value.hasBigint = false)
    {result : List DeterministicJson} (hdecode : decode tlv = .ok result)
    (hanswer : commandAnswer sign challenge tlv entry.value = .ok a)
    (hown : c.answer sign challenge = .ok a) (hhosted : c.Hosted) : Finds result c := by
  rw [h.commandAnswer_eq hbig, if_pos hhosted] at hanswer
  unfold OwnCommand.answer at hown
  rw [if_pos hhosted] at hown
  obtain ⟨hread, hlength⟩ := OwnCommand.data_of_onCommand hanswer
  rw [OwnCommand.data_of_response hown] at hread
  obtain ⟨data, hdata, hfirst⟩ := dataAt_of_firstField hdecode hread h.data_ne
  refine ⟨data, hdata, hfirst, fun hkind => ?_⟩
  obtain ⟨v, w, hv, hw⟩ := hlength hkind
  cases ((commandData_array_iff hdecode).mpr hdata).symm.trans hv
  by_contra hlt
  rw [JsValue.valueAt, List.getElem?_eq_none (by omega)] at hw
  cases hw

end Entries

/-! ## 3. Envelopes -/

namespace InvokeEnvelope

variable {env : InvokeEnvelope} {entries : List DeterministicJson} {tlv : Bytes}

theorem tagged_params (env : InvokeEnvelope) (entries : List DeterministicJson) :
    tagged (env.params entries) 2 = .array entries := by
  have hnone : env.before.find? (fun e => e.tag = some ((2 : Nat) : Int)) = none := by
    rw [List.find?_eq_none]
    intro e he
    simpa using env.before_tag e he
  unfold tagged params
  rw [List.find?_append, hnone, Option.none_or, List.find?_cons_of_pos (by
    simpa using env.commandList_tag)]
  rfl

/-- A part of the entries has no more bigints than all. -/
theorem hasBigint_result {some : List DeterministicJson}
    (h : (JsValue.array (env.result entries)).hasBigint = false)
    (hsome : entriesHaveBigint some = false) :
    (JsValue.array (env.result some)).hasBigint = false := by
  simp only [result, params, JsValue.hasBigint, entriesHaveBigint, entriesHaveBigint_append,
    Bool.or_eq_false_iff] at h ⊢
  exact ⟨⟨h.1.1, hsome, h.1.2.2⟩, h.2⟩

theorem entriesHaveBigint_of_result (h : (JsValue.array (env.result entries)).hasBigint = false) :
    entriesHaveBigint entries = false := by
  simp only [result, params, JsValue.hasBigint, entriesHaveBigint, entriesHaveBigint_append,
    Bool.or_eq_false_iff] at h
  exact h.1.2.1

/-- The commands of a request. -/
theorem Carries.commandList (h : env.Carries entries tlv) (hno : NoBigint tlv) :
    InteractionModel.commandList tlv = .ok (entries.map (·.value)) := by
  have hbig := hno _ h
  unfold InteractionModel.commandList stringify
  rw [h]
  simp only [bind, Except.bind, hbig, Bool.false_eq_true, if_false]
  simp only [result, JsValue.valueAt, List.getElem?_cons_zero, Option.elim_some, findTag,
    tagged_params]
  rfl

/-- A command alone has no more bigints than among others. -/
theorem Carries.noBigint_alone (h : env.Carries entries tlv) (hno : NoBigint tlv)
    {entry : DeterministicJson} (hentry : entry ∈ entries) {alone : Bytes}
    (halone : env.Carries [entry] alone) : NoBigint alone := by
  intro r hr
  cases halone.symm.trans hr
  have hbig := hno _ h
  have hnone := entriesHaveBigint_of_mem hentry (entriesHaveBigint_of_result hbig)
  refine hasBigint_result hbig ?_
  obtain ⟨profile, tag, type, value, tagName⟩ := entry
  simpa [entriesHaveBigint] using hnone

/-- The entries of a request weigh no more than the payload. -/
theorem Carries.weight_entry (h : env.Carries entries tlv) {entry : DeterministicJson}
    (hentry : entry ∈ entries) : entry.value.weight ≤ tlv.length := by
  have hresult := weight_decode h
  have hle := weight_le_of_mem hentry
  have hparams := weight_tagged (env.params entries) 2
  rw [tagged_params, JsValue.weight] at hparams
  rw [JsValue.weight, result, entriesWeight_cons] at hresult
  dsimp only at hresult
  rw [JsValue.weight] at hresult
  omega

end InvokeEnvelope

/-! ## 4. Runs -/

section Runs

variable {A : Aead} {sign : Sign} {st : ImState} {i : Nat} {ex : Exchange} {s : Session}
  {peer : PeerInfo} {id : Nat} {keys : SessionCryptoContext} {tlv : Bytes}

/-- **The loop carries out what it works out**: what it sends leaves the keys as they are. -/
theorem run_handleCommands {commands : List JsValue} {answers : List Answer}
    (hall : List.Forall₂ (fun command a =>
      commandAnswer sign (.ok keys.attestationChallenge) tlv command = .ok a) commands answers)
    (h : SecureExchange st.node i ex s peer id) (hkeys : s.cryptoContext = some keys) :
    (handleCommands A sign i tlv commands).run st = (carryOutAll A i answers).run st := by
  induction hall generalizing st s with
  | nil => rfl
  | @cons command a commands answers hanswer _ ih =>
    unfold handleCommands carryOutAll
    rw [run_bind_ok (run_get st)]
    dsimp only
    rw [attestationChallenge_eq h hkeys, hanswer, run_bind_ok (run_lift_ok a st)]
    by_cases hfull : a.reaction = .respond ∧ 2 ^ 32 ≤ s.messageCounter
    · obtain ⟨e, st', hrun⟩ := carryOut_full (A := A) h hfull.1 hfull.2
      rw [run_bind_error hrun, run_bind_error hrun]
    · obtain ⟨st', hrun, hcarried⟩ := carryOut_ok (A := A) h hkeys (a := a) fun hrespond =>
        Nat.lt_of_not_le fun hle => hfull ⟨hrespond, hle⟩
      rw [run_bind_ok hrun, run_bind_ok hrun]
      exact ih hcarried.exchange ((cryptoContext_afterSends s _).trans hkeys)

/-- Answers that are worked out are carried out. -/
theorem AnsweredWith.of_answers (h : SecureExchange st.node i ex s peer id)
    (hkeys : s.cryptoContext = some keys) {commands : List JsValue} {answers : List Answer}
    (hlist : commandList tlv = .ok commands) (hall : List.Forall₂ (fun command a =>
      commandAnswer sign (.ok keys.attestationChallenge) tlv command = .ok a) commands answers) :
    AnsweredWith A sign st i tlv answers := by
  refine ⟨⟨commands, hlist, ?_⟩, fun msg hmsg => ?_⟩
  · rw [attestationChallenge_eq h hkeys]
    exact hall
  · unfold onInvokeCommandRequest
    rw [hmsg, run_bind_ok (run_lift_ok tlv st), hlist, run_bind_ok (run_lift_ok commands st)]
    exact run_handleCommands hall h hkeys

end Runs

/-! ## 5. Each command and its own data -/

section Own

variable {A : Aead} {sign : Sign} {st : ImState} {i : Nat} {ex : Exchange} {s : Session}
  {peer : PeerInfo} {id : Nat} {env : InvokeEnvelope} {entries : List DeterministicJson}
  {commands : List OwnCommand} {tlv : Bytes} {alones : List Bytes}

/-- The command finds its data in the request of all entries, and in that of its own alone. -/
def FindsOwn (env : InvokeEnvelope) (entries : List DeterministicJson) (entry : DeterministicJson)
    (c : OwnCommand) : Prop :=
  c.Hosted → Finds (env.result entries) c ∧ Finds (env.result [entry]) c

/-- A payload whose commands are listed has no bigint. -/
theorem noBigint_of_commandList {values : List JsValue} (h : commandList tlv = .ok values) :
    NoBigint tlv := by
  by_contra hbig
  rw [commandList_of_bigint hbig] at h
  cases h

/-- Answers from own data are about data that the commands find. -/
theorem finds_of_answers {whole : List DeterministicJson} (hcarries : env.Carries whole tlv)
    (hsub : entries ⊆ whole) (hno : NoBigint tlv) (hholds : List.Forall₂ Holds entries commands)
    {challenge : Except JsError Bytes} {answers : List Answer}
    (howns : List.Forall₂ (fun c a => c.answer sign challenge = .ok a) commands answers)
    (hall : List.Forall₂ (fun (entry : DeterministicJson) a =>
      commandAnswer sign challenge tlv entry.value = .ok a) entries answers)
    (halones : List.Forall₂ (fun entry alone => env.Carries [entry] alone) entries alones)
    (hsingle : List.Forall₂ (fun alone a => ∃ values, commandList alone = .ok values ∧
      List.Forall₂ (fun command a => commandAnswer sign challenge alone command = .ok a)
        values [a]) alones answers) :
    List.Forall₂ (FindsOwn env whole) entries commands := by
  have hbigs := InvokeEnvelope.entriesHaveBigint_of_result (hno _ hcarries)
  induction hholds generalizing answers alones with
  | nil => exact .nil
  | @cons entry c entries commands hentry _ ih =>
    cases howns with
    | cons hown howns =>
      cases hall with
      | cons hanswer hall =>
        cases halones with
        | cons halone halones =>
          cases hsingle with
          | cons hone hsingle =>
            have hbig := entriesHaveBigint_of_mem (hsub (List.mem_cons_self ..)) hbigs
            refine .cons (fun hhosted => ⟨?_, ?_⟩) (ih (fun e he =>
              hsub (List.mem_cons_of_mem _ he)) howns hall halones hsingle)
            · exact hentry.finds_of_commandAnswer hbig hcarries hanswer hown hhosted
            · obtain ⟨values, hlist, hvalues⟩ := hone
              cases hlist.symm.trans (halone.commandList (noBigint_of_commandList hlist))
              cases hvalues with
              | cons hanswer' _ =>
                exact hentry.finds_of_commandAnswer hbig halone hanswer' hown hhosted

/-- **Commands that are answered from their own data find it.** -/
theorem OwnData.finds (hown : OwnData A sign st i commands tlv alones)
    (hcarries : env.Carries entries tlv) (hholds : List.Forall₂ Holds entries commands)
    (halones : List.Forall₂ (fun entry alone => env.Carries [entry] alone) entries alones) :
    NoBigint tlv ∧ List.Forall₂ (FindsOwn env entries) entries commands := by
  obtain ⟨answers, howns, htogether, hsingle⟩ := hown
  obtain ⟨values, hlist, hall⟩ := htogether.answered
  have hno := noBigint_of_commandList hlist
  cases hlist.symm.trans (hcarries.commandList hno)
  exact ⟨hno, finds_of_answers hcarries (List.Subset.refl _) hno hholds howns
    (List.forall₂_map_left_iff.mp hall) halones (hsingle.imp fun _ _ hone => hone.answered)⟩

/-- A command that finds its own data, in the request and alone, is answered from it in both. -/
theorem exists_answer (A : Aead) (sign : Sign) (h : SecureExchange st.node i ex s peer id)
    {keys : SessionCryptoContext} (hkeys : s.cryptoContext = some keys)
    (hcarries : env.Carries entries tlv) (hshort : tlv.length < 2 ^ 31) (hno : NoBigint tlv)
    {entry : DeterministicJson} (hentry : entry ∈ entries) {c : OwnCommand} (hholds : Holds entry c)
    {alone : Bytes} (halone : env.Carries [entry] alone) (hfinds : FindsOwn env entries entry c) :
    ∃ a, c.answer sign (.ok keys.attestationChallenge) = .ok a ∧
      commandAnswer sign (.ok keys.attestationChallenge) tlv entry.value = .ok a ∧
      AnsweredWith A sign st i alone [a] := by
  have hbig := entriesHaveBigint_of_mem hentry
    (InvokeEnvelope.entriesHaveBigint_of_result (hno _ hcarries))
  have hanswer : ∃ a, c.answer sign (.ok keys.attestationChallenge) = .ok a := by
    unfold OwnCommand.answer
    by_cases hhosted : c.Hosted
    · rw [if_pos hhosted]
      obtain ⟨endpoint, cluster, -, -, hpath⟩ := (hholds.names.small hbig).hasIds
        (OwnCommand.server_of_hosted hholds.known hhosted)
      obtain ⟨hdata, hweight⟩ := hholds.data_small hbig
      have hle := hcarries.weight_entry hentry
      exact OwnCommand.response_ok hpath rfl hholds.takes hdata (by omega)
    · exact ⟨.silent, if_neg hhosted⟩
  obtain ⟨a, ha⟩ := hanswer
  have hnoalone := hcarries.noBigint_alone hno hentry halone
  refine ⟨a, ha, ?_, AnsweredWith.of_answers h hkeys (halone.commandList hnoalone) (.cons ?_ .nil)⟩
  · rw [hholds.commandAnswer_of_finds hbig hno hcarries fun hhosted => (hfinds hhosted).1]
    exact ha
  · rw [hholds.commandAnswer_of_finds hbig hnoalone halone fun hhosted => (hfinds hhosted).2]
    exact ha

/-- **Commands that find their own data are answered from it.** -/
theorem exists_answers (A : Aead) (sign : Sign) (h : SecureExchange st.node i ex s peer id)
    {keys : SessionCryptoContext} (hkeys : s.cryptoContext = some keys)
    {whole : List DeterministicJson} (hcarries : env.Carries whole tlv) (hsub : entries ⊆ whole)
    (hshort : tlv.length < 2 ^ 31) (hno : NoBigint tlv)
    (hholds : List.Forall₂ Holds entries commands)
    (halones : List.Forall₂ (fun entry alone => env.Carries [entry] alone) entries alones)
    (hfinds : List.Forall₂ (FindsOwn env whole) entries commands) :
    ∃ answers : List Answer,
      List.Forall₂ (fun c a => c.answer sign (.ok keys.attestationChallenge) = .ok a)
        commands answers ∧
      List.Forall₂ (fun (entry : DeterministicJson) a =>
        commandAnswer sign (.ok keys.attestationChallenge) tlv entry.value = .ok a)
        entries answers ∧
      List.Forall₂ (fun alone a => AnsweredWith A sign st i alone [a]) alones answers := by
  induction hholds generalizing alones with
  | nil =>
    cases halones
    exact ⟨[], .nil, .nil, .nil⟩
  | @cons entry c entries commands hentry _ ih =>
    cases halones with
    | cons halone halones =>
      cases hfinds with
      | cons hfind hfinds =>
        obtain ⟨a, hown, hanswer, hsingle⟩ := exists_answer A sign h hkeys hcarries
          hshort hno (hsub (List.mem_cons_self ..)) hentry halone hfind
        obtain ⟨answers, howns, hall, hsingles⟩ := ih (fun e he =>
          hsub (List.mem_cons_of_mem _ he)) halones hfinds
        exact ⟨a :: answers, .cons hown howns, .cons hanswer hall, .cons hsingle hsingles⟩

/-- **Each command is answered from its own data, and as it is alone, exactly when** no value of the
    request is read as a bigint, and each command whose endpoint has the cluster finds its own data
    at the places that the handlers read, in the request and in its own alone. -/
theorem ownData_iff (A : Aead) (sign : Sign) (h : SecureExchange st.node i ex s peer id)
    (hcarries : env.Carries entries tlv) (hholds : List.Forall₂ Holds entries commands)
    (halones : List.Forall₂ (fun entry alone => env.Carries [entry] alone) entries alones)
    (hshort : tlv.length < 2 ^ 31) :
    OwnData A sign st i commands tlv alones ↔
      NoBigint tlv ∧ List.Forall₂ (FindsOwn env entries) entries commands := by
  constructor
  · intro hown
    exact hown.finds hcarries hholds halones
  · rintro ⟨hno, hfinds⟩
    obtain ⟨keys, hkeys⟩ := Option.isSome_iff_exists.mp (s.context.trans h.secure)
    obtain ⟨answers, howns, hall, hsingle⟩ := exists_answers A sign h hkeys
      hcarries (List.Subset.refl _) hshort hno hholds halones hfinds
    refine ⟨answers, ?_, ?_, hsingle⟩
    · rw [attestationChallenge_eq h hkeys]
      exact howns
    · exact AnsweredWith.of_answers h hkeys (hcarries.commandList hno)
        (List.forall₂_map_left_iff.mpr hall)

end Own

/-! ## 6. Two requests for certificates -/

/-- There is one place: **commands that find their own data in one request have the same data**. -/
theorem Finds.data_eq {result : List DeterministicJson} {c c' : OwnCommand} (h : Finds result c)
    (h' : Finds result c') : c.data = c'.data := by
  obtain ⟨data, hdata, hfirst, -⟩ := h
  obtain ⟨data', hdata', hfirst', -⟩ := h'
  cases HeldAt.unique hdata hdata'
  exact hfirst.unique hfirst'

def samplePeerInfo : PeerInfo := ⟨"::1", 5540⟩

/-- A secure session with an initiator. -/
def sampleSecure : Session where
  localSessionId := .nat 1
  peerSessionId := .nat 1
  peerInfo := some samplePeerInfo
  secure := true
  messageCounter := 1
  cryptoContext := some .default
  context := rfl

def sampleExchange : Exchange := { exchangeId := 1, session := .secured 0, isInitiator := false }

/-- A node with an exchange on it. -/
def sampleState : ImState where
  node := {
    sessions := { outside := { entropy := fun _ => 0 }, sessionsSecured := [sampleSecure] }
    exchanges := [sampleExchange] }

theorem secureExchange_sample :
    SecureExchange sampleState.node 0 sampleExchange sampleSecure samplePeerInfo 1 :=
  ⟨rfl, rfl, rfl, rfl, by simp [sampleSecure], by decide, by decide, by decide, by decide⟩

/-- CertificateChainRequest on endpoint 0. -/
def chainRequest (certificateType : UInt64) : Element :=
  .container none .struct [
    .container (some 0) .list [
      .leaf (some 0) (.unsigned 0), .leaf (some 1) (.unsigned 62), .leaf (some 2) (.unsigned 2)],
    .container (some 1) .struct [.leaf (some 0) (.unsigned certificateType)]]

/-- The InvokeRequest with these commands. -/
def invokeRequest (commands : List Element) : Bytes :=
  forestWire [.container none .struct [
    .leaf (some 0) (.boolean false), .leaf (some 1) (.boolean false),
    .container (some 2) .array commands]]

def sampleEnvelope : InvokeEnvelope where
  top := (Element.container none .struct []).json
  rest := []
  before := [(Element.leaf (some 0) (.boolean false)).json,
    (Element.leaf (some 1) (.boolean false)).json]
  commandList := (Element.container (some 2) .array []).json
  after := []
  before_tag := by
    simp only [List.forall_mem_cons]
    exact ⟨by decide, by decide, List.forall_mem_nil _⟩
  commandList_tag := rfl

def chainCommand (certificateType : Nat) : OwnCommand where
  kind := .certificateChainRequest
  endpointId := 0
  data := .nat certificateType

theorem carries_invokeRequest (commands : List Element) :
    sampleEnvelope.Carries (commands.map Element.json) (invokeRequest commands) := by
  unfold InvokeEnvelope.Carries invokeRequest
  rw [decode_forestWire, ← forestJson_eq_map]
  rfl

theorem holds_dac : Holds (chainRequest 1).json (chainCommand 1) :=
  ⟨by decide, ⟨1, .number (by decide)⟩, _, _, _, rfl, rfl, .number (by decide), .number (by decide),
    .number (by decide), rfl, rfl⟩

theorem holds_pai : Holds (chainRequest 2).json (chainCommand 2) :=
  ⟨by decide, ⟨2, .number (by decide)⟩, _, _, _, rfl, rfl, .number (by decide), .number (by decide),
    .number (by decide), rfl, rfl⟩

theorem ownData_iff_sample :
    OwnData Aead.keyTag sampleSign sampleState 0 [chainCommand 1, chainCommand 2]
        (invokeRequest [chainRequest 1, chainRequest 2])
        [invokeRequest [chainRequest 1], invokeRequest [chainRequest 2]] ↔
      NoBigint (invokeRequest [chainRequest 1, chainRequest 2]) ∧
        List.Forall₂ (FindsOwn sampleEnvelope [(chainRequest 1).json, (chainRequest 2).json])
          [(chainRequest 1).json, (chainRequest 2).json] [chainCommand 1, chainCommand 2] :=
  ownData_iff Aead.keyTag sampleSign secureExchange_sample (carries_invokeRequest _)
    (.cons holds_dac (.cons holds_pai .nil))
    (.cons (carries_invokeRequest [chainRequest 1])
      (.cons (carries_invokeRequest [chainRequest 2]) .nil))
    (by decide)

/-- **The device's certificate and its issuer's, asked for in one request, are not both answered**:
    the second command is answered for the first one's type. -/
theorem two_chains_share_data :
    SecureExchange sampleState.node 0 sampleExchange sampleSecure samplePeerInfo 1 ∧
      sampleEnvelope.Carries [(chainRequest 1).json, (chainRequest 2).json]
        (invokeRequest [chainRequest 1, chainRequest 2]) ∧
      List.Forall₂ Holds [(chainRequest 1).json, (chainRequest 2).json]
        [chainCommand 1, chainCommand 2] ∧
      List.Forall₂ (fun entry alone => sampleEnvelope.Carries [entry] alone)
        [(chainRequest 1).json, (chainRequest 2).json]
        [invokeRequest [chainRequest 1], invokeRequest [chainRequest 2]] ∧
      ¬ OwnData Aead.keyTag sampleSign sampleState 0 [chainCommand 1, chainCommand 2]
        (invokeRequest [chainRequest 1, chainRequest 2])
        [invokeRequest [chainRequest 1], invokeRequest [chainRequest 2]] := by
  have hcarries := carries_invokeRequest [chainRequest 1, chainRequest 2]
  have hholds : List.Forall₂ Holds [(chainRequest 1).json, (chainRequest 2).json]
      [chainCommand 1, chainCommand 2] := .cons holds_dac (.cons holds_pai .nil)
  have halones : List.Forall₂ (fun entry alone => sampleEnvelope.Carries [entry] alone)
      [(chainRequest 1).json, (chainRequest 2).json]
      [invokeRequest [chainRequest 1], invokeRequest [chainRequest 2]] :=
    .cons (carries_invokeRequest [chainRequest 1])
      (.cons (carries_invokeRequest [chainRequest 2]) .nil)
  refine ⟨secureExchange_sample, hcarries, hholds, halones, fun hown => ?_⟩
  obtain ⟨-, hfinds⟩ := hown.finds hcarries hholds halones
  cases hfinds with
  | cons hdac hfinds =>
    cases hfinds with
    | cons hpai _ =>
      have hsame := (hdac (by decide)).1.data_eq (hpai (by decide)).1
      exact absurd hsame (by simp [chainCommand])

end Matternode.Protocols.InteractionModel
