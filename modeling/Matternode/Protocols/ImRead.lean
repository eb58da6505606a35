/-
  File:      Matternode/Protocols/ImRead.lean
  Subject:   ImReadMixin: the reports that answer a ReadRequest.

  * `AttributePath`, `getAttributeOnEndpoint`, `reportAttribute`, `reportPath` -- the parts of
    `onReadRequest`;
  * `reportData` -- the payload of the ReportData, from that of the request;
  * `PathIds`, `IsReadRequest` -- the requests, by the ids their paths name;
  * `ReportsOnce` -- what a read is for: one report for each path and endpoint that match;
  * `reportsOnce_iff` -- **a read reports each match once exactly when** the request has no integer
    that is read as a bigint, and no wildcard path has a match on endpoint 0: the empty key of the
    endpoints is the number 0 again.
-/
import Mathlib.Algebra.Order.BigOperators.Group.List
import Mathlib.Data.List.Forall2
import Matternode.Base.Script
import Matternode.Clusters.Tables
import Matternode.Tlv.RoundTrip

namespace Matternode.Protocols

open Base Js Tlv Clusters

namespace InteractionModel

/-! ## 1. Paths -/

structure AttributePath where
  enableTagCompression : JsValue := .undefined
  nodeId : JsValue := .undefined
  endpointId : JsValue := .undefined
  clusterId : JsValue := .undefined
  attributeId : JsValue := .undefined

/-- `new AttributePath(pathTlv)`. -/
def AttributePath.ofTlv : JsValue → Except JsError AttributePath
  | .undefined => .ok {}
  | pathTlv => do
    return {
      enableTagCompression := ← findTag pathTlv 0
      nodeId := ← findTag pathTlv 1
      endpointId := ← findTag pathTlv 2
      clusterId := ← findTag pathTlv 3
      attributeId := ← findTag pathTlv 4 }

/-- `if (id != undefined) { writer.putUnsignedInt(id, tag) }`. -/
def putId (id : JsValue) (tag : Int) : WriterM Unit :=
  match id with
  | .undefined => pure ()
  | id => putUnsignedInt id (some tag)

/-- `path.serialize(writer, tag)`. -/
def AttributePath.serialize (path : AttributePath) (tag : Int := 1) : WriterM Unit := do
  putListStart (some tag)
  putId path.nodeId 1
  putId path.endpointId 2
  putId path.clusterId 3
  putId path.attributeId 4
  putContainerEnd

/-! ## 2. Reports -/

/-- `getAttributeOnEndpoint(endpointId, path)`: null and undefined alike are no attribute. -/
def getAttributeOnEndpoint (endpointId : JsValue) (path : AttributePath) :
    Except JsError (Option Attribute) :=
  match lookup endpoints endpointId with
  | none => .error .typeError
  | some clusters =>
    match (lookup clusters path.clusterId).bind clusterMap with
    | none => .ok none
    | some cluster => cluster.getAttribute path.attributeId

/-- `reportAttribute(writer, attr, path)`. -/
def reportAttribute (attr : Attribute) (path : AttributePath) : WriterM Unit := do
  putStructStart
  putStructStart (some 1)
  putUnsignedInt (.nat 0x79cea838) (some 0)
  path.serialize 1
  put attr.value (some 2)
  putContainerEnd
  putContainerEnd

/-- The wildcard loop, over `Number(key)` for each key; the path keeps the endpoint it was last
    reported on. -/
def reportEverywhere : List Number → AttributePath → WriterM Unit
  | [], _ => pure ()
  | key :: keys, path => do
    match ← lift (getAttributeOnEndpoint (.number key) path) with
    | none => reportEverywhere keys path
    | some attr =>
      let path := { path with endpointId := .number key }
      reportAttribute attr path
      reportEverywhere keys path

/-- What is done for an entry of AttributeRequests. -/
def reportPath (pathTlv : JsValue) : WriterM Unit := do
  let path ← lift (AttributePath.ofTlv pathTlv)
  match path.endpointId with
  | .undefined => reportEverywhere (endpoints.map (·.1.toNumber)) path
  | endpointId =>
    match ← lift (getAttributeOnEndpoint endpointId path) with
    | none => pure ()
    | some attr => reportAttribute attr path

def reportPaths : List JsValue → WriterM Unit
  | [] => pure ()
  | pathTlv :: pathTlvs => do
    reportPath pathTlv
    reportPaths pathTlvs

/-- The values `entry.value` that `list.forEach` visits; the elements of a buffer are numbers. -/
def entryValues : JsValue → Except JsError (List JsValue)
  | .array entries => .ok (entries.map (·.value))
  | .buffer bs => .ok (bs.map fun _ => .undefined)
  | _ => .error .typeError

/-- The buffer of a new writer. -/
def bufferOf (m : WriterM Unit) : Except JsError Bytes :=
  match m.run {} with
  | .ok _ w => .ok w.buf
  | .error e _ => .error e

/-- `onReadRequest`, from the request's payload to the payload of the ReportData. -/
def reportData (tlv : Bytes) : Except JsError Bytes := do
  let result ← decode tlv
  stringify (.array result)
  let params ← (JsValue.array result).valueAt 0
  let attrList ← findTag params 0
  bufferOf do
    putStructStart
    putArrayStart (some 1)
    reportPaths (← lift (entryValues attrList))
    putContainerEnd
    putContainerEnd

/-! ## 3. Requests -/

/-- An id that an entry may hold: none, or an unsigned integer of some width. -/
inductive IsId : JsValue → Option Nat → Prop where
  | absent : IsId .undefined none
  | number {n : Nat} (h : n < 2 ^ 32) : IsId (.nat n) (some n)
  | bigint {n : Nat} (h : n < 2 ^ 64) : IsId (.bigint n) (some n)

/-- The ids of an attribute path. -/
structure PathIds where
  nodeId : Option Nat := none
  endpointId : Option Nat := none
  clusterId : Option Nat := none
  attributeId : Option Nat := none

/-- An entry of AttributeRequests with these ids. -/
structure NamesPath (entry : DeterministicJson) (p : PathIds) : Prop where
  fields : ∃ fields, entry.value = .array fields ∧ IsId (tagged fields 1) p.nodeId ∧
    IsId (tagged fields 2) p.endpointId ∧ IsId (tagged fields 3) p.clusterId ∧
    IsId (tagged fields 4) p.attributeId

/-- The payload of a ReadRequest with these paths. -/
def IsReadRequest (tlv : Bytes) (paths : List PathIds) : Prop :=
  ∃ top rest params entries, decode tlv = .ok (top :: rest) ∧ top.value = .array params ∧
    tagged params 0 = .array entries ∧ List.Forall₂ NamesPath entries paths

/-- No value of the encoding is read as a bigint. -/
def NoBigint (tlv : Bytes) : Prop :=
  ∀ result, decode tlv = .ok result → (JsValue.array result).hasBigint = false

/-! ## 4. Where a path's attribute is -/

namespace PathIds

/-- The server of the path's cluster on an endpoint. -/
def serverAt (p : PathIds) (endpoint : Nat) : Option ClusterServer :=
  p.clusterId.bind (Clusters.serverAt endpoint)

/-- The path's attribute on an endpoint. -/
def attributeAt (p : PathIds) (endpoint : Nat) : Option Attribute := do
  let server ← p.serverAt endpoint
  (← server.attributes?).lookup (.index (← p.attributeId))

/-- No id needs eight bytes. -/
structure Small (p : PathIds) : Prop where
  nodeId : ∀ n ∈ p.nodeId, n < 2 ^ 32
  endpointId : ∀ n ∈ p.endpointId, n < 2 ^ 32
  clusterId : ∀ n ∈ p.clusterId, n < 2 ^ 32
  attributeId : ∀ n ∈ p.attributeId, n < 2 ^ 32

end PathIds

/-- An id as the reader answers it. -/
def idValue (id : Option Nat) : JsValue := id.elim .undefined .nat

/-- The path with these ids. -/
def PathIds.path (p : PathIds) (enableTagCompression : JsValue) : AttributePath where
  enableTagCompression := enableTagCompression
  nodeId := idValue p.nodeId
  endpointId := idValue p.endpointId
  clusterId := idValue p.clusterId
  attributeId := idValue p.attributeId

section Reading

variable {p : PathIds}

theorem IsId.eq {v : JsValue} {id : Option Nat} (h : IsId v id) (hno : v.hasBigint = false) :
    v = idValue id ∧ ∀ n ∈ id, n < 2 ^ 32 := by
  cases h with
  | absent => exact ⟨rfl, by simp⟩
  | number hn => exact ⟨rfl, by simpa using hn⟩
  | bigint _ => simp [JsValue.hasBigint] at hno

theorem tagged_hasBigint {fields : List DeterministicJson} (hno : entriesHaveBigint fields = false)
    (tag : Nat) : (tagged fields tag).hasBigint = false := by
  unfold tagged
  cases hfind : fields.find? fun e => e.tag = some (tag : Int) with
  | none => rfl
  | some e => exact entriesHaveBigint_of_mem (List.mem_of_find?_eq_some hfind) hno

/-- The list of a message without a bigint has none. -/
theorem entriesHaveBigint_list {top : DeterministicJson} {rest params entries}
    (hno : (JsValue.array (top :: rest)).hasBigint = false) (htop : top.value = .array params)
    {tag : Nat} (hentries : tagged params tag = .array entries) :
    entriesHaveBigint entries = false := by
  have htopno := entriesHaveBigint_of_mem (List.mem_cons_self ..) hno
  rw [htop] at htopno
  have hlist := tagged_hasBigint htopno tag
  rwa [hentries] at hlist

/-- A path without a bigint is read as its ids. -/
theorem NamesPath.ofTlv {entry : DeterministicJson} (h : NamesPath entry p)
    (hno : entry.value.hasBigint = false) :
    p.Small ∧ ∃ compression, AttributePath.ofTlv entry.value = .ok (p.path compression) := by
  obtain ⟨fields, hv, hnode, hendpoint, hcluster, hattribute⟩ := h.fields
  rw [hv] at hno ⊢
  obtain ⟨hn, hns⟩ := hnode.eq (tagged_hasBigint hno 1)
  obtain ⟨he, hes⟩ := hendpoint.eq (tagged_hasBigint hno 2)
  obtain ⟨hc, hcs⟩ := hcluster.eq (tagged_hasBigint hno 3)
  obtain ⟨ha, has⟩ := hattribute.eq (tagged_hasBigint hno 4)
  refine ⟨⟨hns, hes, hcs, has⟩, tagged fields 0, ?_⟩
  unfold PathIds.path
  rw [← hn, ← he, ← hc, ← ha]
  rfl

/-- A cluster that a path does not name is on no endpoint. -/
theorem lookup_hosts_undefined (rows : List (Nat × ClusterClass)) :
    lookup (hosts rows) .undefined = none := by
  unfold lookup hosts
  rw [List.lookup_eq_none_iff]
  intro row hrow
  obtain ⟨r, -, rfl⟩ := List.mem_map.mp hrow
  rfl

theorem hosts_of_known {endpoint : Nat} (h : endpoint ∈ endpointIds) :
    ∃ rows, endpoints.lookup (.index endpoint) = some (hosts rows) ∧
      lookup endpoints (.nat endpoint) = some (hosts rows) := by
  have hsmall : endpoint < 3 := by
    simp only [endpointIds_eq, List.mem_cons, List.not_mem_nil, or_false] at h
    omega
  rw [lookup_nat _ (by omega)]
  simp only [and_self]
  simp only [endpointIds_eq, List.mem_cons, List.not_mem_nil, or_false] at h
  rcases h with rfl | rfl | rfl <;> exact ⟨_, rfl⟩

/-- The server that is found for a cluster id as the reader answers it. -/
theorem lookup_server {endpoint : Nat} {rows : List (Nat × ClusterClass)} {cluster : Option Nat}
    (hrows : endpoints.lookup (.index endpoint) = some (hosts rows))
    (hsmall : ∀ n ∈ cluster, n < 2 ^ 32) :
    (lookup (hosts rows) (idValue cluster)).bind clusterMap =
      cluster.bind (Clusters.serverAt endpoint) := by
  unfold Clusters.serverAt
  rw [hrows]
  cases cluster with
  | none =>
    rw [idValue, Option.elim_none, lookup_hosts_undefined]
    rfl
  | some n =>
    have hlt := hsmall n rfl
    rw [idValue, Option.elim_some, lookup_nat _ (by omega)]
    rfl

/-- The attributes of a server are under their ids. -/
theorem attributes_indexed {server : ClusterServer} {attributes : List (PropertyKey × Attribute)}
    (h : server.attributes? = some attributes) : ∀ row ∈ attributes, ∃ n, row.1 = .index n :=
  ClusterServer.forall_attributes h (fun id => ⟨id, rfl⟩) (fun id _ _ => ⟨id, rfl⟩)
    fun id => ⟨id, rfl⟩

theorem lookup_attributes_undefined {server : ClusterServer}
    {attributes : List (PropertyKey × Attribute)} (h : server.attributes? = some attributes) :
    lookup attributes .undefined = none := by
  unfold lookup
  rw [List.lookup_eq_none_iff]
  intro row hrow
  obtain ⟨n, hn⟩ := attributes_indexed h row hrow
  rw [hn]
  rfl

theorem getAttributeOnEndpoint_of_lookup {v : JsValue} {path : AttributePath}
    {clusters : List (PropertyKey × ClusterClass)} (h : lookup endpoints v = some clusters) :
    getAttributeOnEndpoint v path = ((lookup clusters path.clusterId).bind clusterMap).elim
      (.ok none) (·.getAttribute path.attributeId) := by
  unfold getAttributeOnEndpoint
  rw [h]
  dsimp only
  cases (lookup clusters path.clusterId).bind clusterMap <;> rfl

/-- **The look-up of an attribute** on an endpoint of the table, for a cluster with `getAttribute`. -/
theorem getAttributeOnEndpoint_known {endpoint : Nat} (hp : p.Small)
    (hknown : endpoint ∈ endpointIds)
    (hget : ∀ server, p.serverAt endpoint = some server → server.attributes?.isSome)
    {path : AttributePath} (hcluster : path.clusterId = idValue p.clusterId)
    (hattribute : path.attributeId = idValue p.attributeId) :
    getAttributeOnEndpoint (.nat endpoint) path = .ok (p.attributeAt endpoint) := by
  obtain ⟨rows, hrows, hlookup⟩ := hosts_of_known hknown
  have hserver : (lookup (hosts rows) path.clusterId).bind clusterMap = p.serverAt endpoint := by
    rw [hcluster]
    exact lookup_server hrows hp.clusterId
  rw [getAttributeOnEndpoint_of_lookup hlookup, hserver]
  unfold PathIds.attributeAt
  cases hs : p.serverAt endpoint with
  | none => rfl
  | some server =>
    obtain ⟨attributes, hattributes⟩ := Option.isSome_iff_exists.mp (hget server hs)
    simp only [Option.elim_some, ClusterServer.getAttribute, hattributes, hattribute]
    cases ha : p.attributeId with
    | none =>
      rw [idValue, Option.elim_none, lookup_attributes_undefined hattributes]
      simp
    | some id =>
      have hlt := hp.attributeId id ha
      rw [idValue, Option.elim_some, lookup_nat _ (by omega)]
      simp [hattributes]

end Reading

/-! ## 5. What a report is written as -/

/-- An id as a field of a path. -/
def idElements (tag : UInt8) (id : Option Nat) : List Element :=
  id.toList.map fun n => .leaf (some tag) (.unsigned (UInt64.ofNat n))

/-- The AttributePathIB of a report. -/
def pathElement (p : PathIds) (endpoint : Nat) : Element :=
  .container (some 1) .list (idElements 1 p.nodeId ++ idElements 2 (some endpoint) ++
    idElements 3 p.clusterId ++ idElements 4 p.attributeId)

/-- An AttributeReportIB with its data. -/
def reportElement (p : PathIds) (endpoint : Nat) (data : Element) : Element :=
  .container none .struct [
    .container (some 1) .struct [
      .leaf (some 0) (.unsigned 0x79cea838), pathElement p endpoint, data]]

/-- BasicCommissioningInfo, the one structure among the values. -/
def infoElement : Element :=
  .container (some 2) .struct [.leaf (some 0) (.unsigned 60), .leaf (some 1) (.unsigned 900)]

/-- What the value of an attribute is written as: a number, the one structure, or null. -/
def valueElement : JsValue → Element
  | .number x => .leaf (some 2) (.unsigned (UInt64.ofNat x.toInteger.toNat))
  | .object _ => infoElement
  | _ => .leaf (some 2) .null

/-- The report of the path's attribute on the endpoint, with its value. -/
def reportOf (m : PathIds × Nat) : Element :=
  reportElement m.1 m.2 (valueElement ((m.1.attributeAt m.2).elim .undefined Attribute.value))

/-- A report of the path on the endpoint. -/
structure Reports (e : Element) (m : PathIds × Nat) : Prop where
  small : m.1.Small
  endpoint : m.2 < 2 ^ 32
  element : e = reportOf m

theorem forestWire_append (es fs : List Element) :
    forestWire (es ++ fs) = forestWire es ++ forestWire fs := by
  induction es with
  | nil => rfl
  | cons e es ih => simp only [List.cons_append, forestWire, ih, List.append_assoc]

section Writing

variable {p : PathIds} {endpoint : Nat}

theorem appends_pure : Appends (pure ()) [] := by
  intro w
  simp only [List.append_nil]
  rfl

/-- What a new writer's buffer holds. -/
theorem bufferOf_appends {m : WriterM Unit} {bs : Bytes} (h : Appends m bs) :
    bufferOf m = .ok bs := by
  unfold bufferOf
  rw [h {}]
  rfl

/-- A pure computation that answers leaves the buffer to what follows. -/
theorem Appends.lift {α : Type} {x : Except JsError α} {a : α} {m : α → WriterM Unit} {bs : Bytes}
    (hx : x = .ok a) (h : Appends (m a) bs) : Appends (Base.lift x >>= m) bs := by
  subst hx
  exact h

/-- An unsigned integer is written as a field. -/
theorem putUnsignedInt_field {v : JsValue} {n : Nat} (tag : UInt8) (hv : IsInteger v n)
    (hn : n < 2 ^ 64) (hbig : ∀ k, v = .bigint k → 2 ^ 32 ≤ n) :
    Appends (putUnsignedInt v (some (tag.toNat : Int))) (forestWire (idElements tag (some n))) := by
  have hnat : (UInt64.ofNat n).toNat = n := by
    rw [UInt64.toNat_ofNat', Nat.mod_eq_of_lt hn]
  have hput := putUnsignedInt_given (v := v) (n := UInt64.ofNat n) (some tag)
    (by rw [hnat]; exact hv) (by rw [hnat]; exact hbig)
  simpa [idElements, forestWire, jsonTag] using hput

theorem putId_idValue {id : Option Nat} (tag : UInt8) (h : ∀ n ∈ id, n < 2 ^ 32) :
    Appends (putId (idValue id) tag.toNat) (forestWire (idElements tag id)) := by
  cases id with
  | none => exact appends_pure
  | some n =>
    have hn : n < 2 ^ 32 := h n rfl
    exact putUnsignedInt_field tag (.number _) (by omega) fun k hk => by cases hk

theorem putContainerEnd_appends : Appends putContainerEnd (header tlvTypeEnd none) :=
  appends_append (encodeControlByte_plain none (by decide))

/-- The path of a report. -/
theorem serialize_appends (hp : p.Small) (hendpoint : endpoint < 2 ^ 32) (compression : JsValue) :
    Appends ({ p.path compression with endpointId := .nat endpoint }.serialize 1)
      (pathElement p endpoint).wire := by
  have hnode := putId_idValue 1 hp.nodeId
  have hep := putId_idValue 2 (show ∀ n ∈ some endpoint, n < 2 ^ 32 by simpa using hendpoint)
  have hcluster := putId_idValue 3 hp.clusterId
  have hattribute := putId_idValue 4 hp.attributeId
  have hstart : Appends (putListStart (some 1)) (header tlvTypeList (some 1)) :=
    appends_append (encodeControlByte_plain (some 1) (by decide))
  have hall := hstart.bind (hnode.bind (hep.bind (hcluster.bind (hattribute.bind
    putContainerEnd_appends))))
  unfold pathElement Element.wire
  simp only [forestWire_append, List.append_assoc]
  exact hall

theorem putNat_appends (tag : UInt8) {n : Nat} (hn : n < 2 ^ 64) :
    Appends (perform (.put (jsonTag (some tag)) none) (.nat n))
      (Element.leaf (some tag) (.unsigned (UInt64.ofNat n))).wire := by
  have hnat : (UInt64.ofNat n).toNat = n := by
    rw [UInt64.toNat_ofNat', Nat.mod_eq_of_lt hn]
  have hput := putUnsignedInt_given (v := .nat n) (n := UInt64.ofNat n) (some tag)
    (by rw [hnat]; exact .number _) (fun k hk => by cases hk)
  have hneg : ¬ (JsValue.number (Number.int (n : Int))).numeric.lt 0 = true := by
    show ¬ (Number.int (n : Int)).lt 0 = true
    simp
  unfold perform
  rw [if_pos (Number.int_isInteger _)]
  unfold putInteger
  rw [if_neg hneg]
  exact hput

theorem putInfo_appends : Appends (put basicCommissioningInfo (some 2)) infoElement.wire := by
  have hfields : Appends (performEntries [
      { tag := some 0, value := .nat 60 }, { tag := some 1, value := .nat 900 }])
      (forestWire [.leaf (some 0) (.unsigned 60), .leaf (some 1) (.unsigned 900)]) := by
    have h0 := putNat_appends 0 (n := 60) (by decide)
    have h1 := putNat_appends 1 (n := 900) (by decide)
    have hnil : Appends (performEntries []) (forestWire []) := by
      unfold performEntries
      exact appends_pure
    unfold performEntries performEntries
    rw [performEntry_autoDetect rfl, performEntry_autoDetect rfl]
    exact h0.bind (h1.bind hnil)
  unfold put basicCommissioningInfo perform
  unfold infoElement Element.wire
  exact performEntry_container (some 2) .struct _ _ _ hfields

/-- The value of an attribute is written as one element. -/
theorem putValue_appends {server : ClusterServer} {attributes : List (PropertyKey × Attribute)}
    (h : server.attributes? = some attributes) : ∀ row ∈ attributes,
      Appends (put row.2.value (some 2)) (valueElement row.2.value).wire := by
  refine ClusterServer.forall_attributes h (fun id => ?_) (fun id n hn => ?_) fun id => ?_
  · unfold put perform
    exact putNull_given (some 2)
  · have hvalue : valueElement (.nat n) = .leaf (some 2) (.unsigned (UInt64.ofNat n)) := by
      show Element.leaf (some 2) (.unsigned (UInt64.ofNat (Number.int n).toInteger.toNat)) = _
      rw [Number.int_toInteger, Int.toNat_natCast]
    dsimp only
    rw [hvalue]
    exact putNat_appends 2 (by omega)
  · exact putInfo_appends

/-- An attribute that is found is a row of its server's table. -/
theorem mem_of_attributeAt {attr : Attribute} (h : p.attributeAt endpoint = some attr) :
    ∃ (server : ClusterServer) (attributes : List (PropertyKey × Attribute)) (id : Nat),
      server.attributes? = some attributes ∧ (PropertyKey.index id, attr) ∈ attributes := by
  unfold PathIds.attributeAt at h
  obtain ⟨server, -, hrest⟩ := Option.bind_eq_some_iff.mp h
  obtain ⟨attributes, hattributes, hrest⟩ := Option.bind_eq_some_iff.mp hrest
  obtain ⟨id, -, hlookup⟩ := Option.bind_eq_some_iff.mp hrest
  exact ⟨server, attributes, id, hattributes, mem_of_lookup hlookup⟩

/-- **A report is one element**, with the ids of its path and its endpoint. -/
theorem reportAttribute_appends {attr : Attribute} (hp : p.Small) (hendpoint : endpoint < 2 ^ 32)
    (hattr : p.attributeAt endpoint = some attr) (compression : JsValue) :
    ∃ e, Reports e (p, endpoint) ∧
      Appends (reportAttribute attr { p.path compression with endpointId := .nat endpoint })
        e.wire := by
  obtain ⟨server, attributes, id, hattributes, hmem⟩ := mem_of_attributeAt hattr
  have hdata := putValue_appends hattributes _ hmem
  have hstart (tag : Option UInt8) :
      Appends (putStructStart (jsonTag tag)) (header tlvTypeStructure tag) :=
    appends_append (encodeControlByte_plain tag (by decide))
  have hversion := putUnsignedInt_given (v := .nat 0x79cea838) (n := 0x79cea838) (some 0)
    (.number _) (fun k hk => by cases hk)
  have hall := (hstart none).bind ((hstart (some 1)).bind (hversion.bind
    ((serialize_appends hp hendpoint compression).bind (hdata.bind
    (putContainerEnd_appends.bind putContainerEnd_appends)))))
  refine ⟨reportOf (p, endpoint), ⟨hp, hendpoint, rfl⟩, ?_⟩
  unfold reportOf reportElement
  rw [hattr, Option.elim_some]
  simp only [Element.wire, forestWire, List.append_nil, List.append_assoc]
  simp only [Element.wire, List.append_assoc] at hall
  exact hall

end Writing

/-! ## 6. What a request is answered with -/

/-- The endpoints of a list that the path's attribute is on, each with the path. -/
def PathIds.reportsOn (p : PathIds) (endpoints : List Nat) : List (PathIds × Nat) :=
  (endpoints.filter fun endpoint => (p.attributeAt endpoint).isSome).map fun endpoint =>
    (p, endpoint)

/-- The keys of the endpoints, as the wildcard loop takes them. -/
theorem keys_eq : endpoints.map (·.1.toNumber) = [.int 0, .int 1, .int 2, .int 0] := by
  decide +kernel

/-- What code reports for a path: a wildcard path on the endpoints as their keys read. -/
def PathIds.reported (p : PathIds) : List (PathIds × Nat) :=
  p.reportsOn (p.endpointId.elim [0, 1, 2, 0] ([·]))

/-- The clusters of the path are reported, not refused: its endpoint is in the table, and the servers
    of its cluster have `getAttribute`. -/
structure PathIds.Readable (p : PathIds) : Prop where
  known : ∀ endpoint ∈ p.endpointId, endpoint ∈ endpointIds
  gettable : ∀ endpoint ∈ p.endpointId.elim endpointIds ([·]), ∀ server,
    p.serverAt endpoint = some server → server.attributes?.isSome

section Answering

variable {p : PathIds}

/-- The wildcard loop, over endpoints of the table. -/
theorem reportEverywhere_appends (path : AttributePath) (hp : p.Small) {keys : List Nat}
    (hknown : ∀ key ∈ keys, key ∈ endpointIds)
    (hget : ∀ key ∈ keys, ∀ server, p.serverAt key = some server → server.attributes?.isSome)
    {compression : JsValue} (hpath : ∀ key : JsValue, { path with endpointId := key } =
      { p.path compression with endpointId := key }) :
    ∃ es, List.Forall₂ Reports es (p.reportsOn keys) ∧
      Appends (reportEverywhere (keys.map fun key : Nat => .int key) path) (forestWire es) := by
  induction keys generalizing path with
  | nil => exact ⟨[], .nil, appends_pure⟩
  | cons key keys ih =>
    have hkey := hknown key (List.mem_cons_self ..)
    have hsmall : key < 2 ^ 32 := by
      simp only [endpointIds_eq, List.mem_cons, List.not_mem_nil, or_false] at hkey
      omega
    have hcluster : path.clusterId = idValue p.clusterId :=
      congrArg AttributePath.clusterId (hpath path.endpointId)
    have hattribute : path.attributeId = idValue p.attributeId :=
      congrArg AttributePath.attributeId (hpath path.endpointId)
    have hlook := getAttributeOnEndpoint_known hp hkey (hget key (List.mem_cons_self ..))
      hcluster hattribute
    have htail := fun path' => ih path' (fun k hk => hknown k (List.mem_cons_of_mem _ hk))
      (fun k hk => hget k (List.mem_cons_of_mem _ hk))
    simp only [List.map_cons]
    unfold reportEverywhere
    cases hattr : p.attributeAt key with
    | none =>
      obtain ⟨es, hes, happ⟩ := htail path hpath
      refine ⟨es, ?_, ?_⟩
      · simpa [PathIds.reportsOn, hattr] using hes
      · rw [hattr] at hlook
        exact Appends.lift hlook happ
    | some attr =>
      obtain ⟨e, he, hwrite⟩ := reportAttribute_appends hp hsmall hattr compression
      obtain ⟨es, hes, happ⟩ := htail { path with endpointId := .nat key } hpath
      refine ⟨e :: es, ?_, ?_⟩
      · have hcons : p.reportsOn (key :: keys) = (p, key) :: p.reportsOn keys := by
          simp [PathIds.reportsOn, hattr]
        rw [hcons]
        exact .cons he hes
      · rw [hattr] at hlook
        refine Appends.lift hlook ?_
        rw [← hpath] at hwrite
        exact hwrite.bind happ

/-- **What is written for an entry of AttributeRequests.** -/
theorem reportPath_appends {entry : DeterministicJson} (h : NamesPath entry p)
    (hno : entry.value.hasBigint = false) (hread : p.Readable) :
    ∃ es, List.Forall₂ Reports es p.reported ∧
      Appends (reportPath entry.value) (forestWire es) := by
  obtain ⟨hp, compression, hpath⟩ := h.ofTlv hno
  unfold reportPath PathIds.reported
  cases hendpoint : p.endpointId with
  | none =>
    have hwild : (p.path compression).endpointId = .undefined := by
      simp [PathIds.path, hendpoint, idValue]
    have hget := hread.gettable
    rw [hendpoint, Option.elim_none] at hget
    have hmem : ∀ key ∈ [0, 1, 2, 0], key ∈ endpointIds := by
      rw [endpointIds_eq]
      decide
    obtain ⟨es, hes, happ⟩ := reportEverywhere_appends (p.path compression) hp hmem
      (fun key hk => hget key (hmem key hk)) (fun key => rfl)
    refine ⟨es, hes, Appends.lift hpath ?_⟩
    rw [hwild, keys_eq]
    exact happ
  | some endpoint =>
    have hhere : (p.path compression).endpointId = .nat endpoint := by
      simp [PathIds.path, hendpoint, idValue]
    have hknown := hread.known endpoint hendpoint
    have hget := hread.gettable
    rw [hendpoint, Option.elim_some] at hget
    have hlook : getAttributeOnEndpoint (.nat endpoint) (p.path compression) =
        .ok (p.attributeAt endpoint) :=
      getAttributeOnEndpoint_known hp hknown (hget endpoint (List.mem_singleton_self _)) rfl rfl
    cases hattr : p.attributeAt endpoint with
    | none =>
      refine ⟨[], by simp [PathIds.reportsOn, hattr], Appends.lift hpath ?_⟩
      rw [hhere]
      rw [hattr] at hlook
      exact Appends.lift hlook appends_pure
    | some attr =>
      obtain ⟨e, he, hwrite⟩ := reportAttribute_appends hp (hp.endpointId endpoint hendpoint) hattr
        compression
      have hsame : { p.path compression with endpointId := .nat endpoint } = p.path compression := by
        rw [← hhere]
      rw [hsame] at hwrite
      refine ⟨[e], by simpa [PathIds.reportsOn, hattr] using he, Appends.lift hpath ?_⟩
      rw [hhere]
      rw [hattr] at hlook
      refine Appends.lift hlook ?_
      simpa [forestWire] using hwrite

theorem reportPaths_appends {entries : List DeterministicJson} {paths : List PathIds}
    (h : List.Forall₂ NamesPath entries paths) (hno : entriesHaveBigint entries = false)
    (hread : ∀ p ∈ paths, p.Readable) :
    ∃ es, List.Forall₂ Reports es (paths.flatMap PathIds.reported) ∧
      Appends (reportPaths (entries.map (·.value))) (forestWire es) := by
  induction h with
  | nil => exact ⟨[], .nil, appends_pure⟩
  | @cons entry p entries paths hpath _ ih =>
    obtain ⟨es, hes, happ⟩ := reportPath_appends hpath
      (entriesHaveBigint_of_mem (List.mem_cons_self ..) hno) (hread p (List.mem_cons_self ..))
    obtain ⟨es', hes', happ'⟩ := ih (by simp_all [entriesHaveBigint])
      (fun q hq => hread q (List.mem_cons_of_mem _ hq))
    refine ⟨es ++ es', List.rel_append hes hes', ?_⟩
    rw [forestWire_append]
    exact happ.bind happ'

/-- The ReportData with these reports. -/
def reportDataElement (reports : List Element) : Element :=
  .container none .struct [.container (some 1) .array reports]

/-- **What a request of readable paths is answered with.** -/
theorem reportData_ok {tlv : Bytes} {paths : List PathIds} (h : IsReadRequest tlv paths)
    (hno : NoBigint tlv) (hread : ∀ p ∈ paths, p.Readable) :
    ∃ es, List.Forall₂ Reports es (paths.flatMap PathIds.reported) ∧
      reportData tlv = .ok (reportDataElement es).wire := by
  obtain ⟨top, rest, params, entries, hdecode, htop, hparams, hentries⟩ := h
  have hresult := hno _ hdecode
  have hnone := entriesHaveBigint_list hresult htop hparams
  obtain ⟨es, hes, happ⟩ := reportPaths_appends hentries hnone hread
  have hstart (tag : Option UInt8) (kind : ContainerKind) {m : WriterM Unit}
      (h : m = append (encodeControlByte kind.elementType 0 (jsonTag tag) none)) :
      Appends m (header kind.elementType tag) := by
    subst h
    exact appends_append (encodeControlByte_plain tag (by cases kind <;> decide))
  have hall := (hstart none .struct (m := putStructStart) rfl).bind
    ((hstart (some 1) .array (m := putArrayStart (some 1)) rfl).bind
    (Appends.lift (x := entryValues (.array entries)) (m := fun values => do
      reportPaths values
      putContainerEnd
      putContainerEnd) rfl
    (happ.bind (putContainerEnd_appends.bind putContainerEnd_appends))))
  refine ⟨es, hes, ?_⟩
  have hrun : bufferOf (do
      putStructStart
      putArrayStart (some 1)
      reportPaths (← lift (entryValues (.array entries)))
      putContainerEnd
      putContainerEnd) = .ok (reportDataElement es).wire := by
    rw [bufferOf_appends hall]
    simp [reportDataElement, Element.wire, forestWire]
  unfold reportData
  rw [hdecode]
  simp only [bind, Except.bind, stringify, hresult, JsValue.valueAt, List.getElem?_cons_zero,
    Option.elim_some, htop, findTag, hparams]
  exact hrun

end Answering

/-! ## 7. Each match once -/

/-- An attribute path as a read names it: a cluster and an attribute, on an endpoint or on all. -/
structure AttributeRead where
  nodeId : Option Nat := none
  endpointId : Option Nat := none
  clusterId : Nat
  attributeId : Nat

namespace AttributeRead

def ids (p : AttributeRead) : PathIds where
  nodeId := p.nodeId
  endpointId := p.endpointId
  clusterId := some p.clusterId
  attributeId := some p.attributeId

/-- The endpoint is one of the table, and every server of the cluster has `getAttribute`. -/
structure Supported (p : AttributeRead) : Prop where
  known : ∀ endpoint ∈ p.endpointId, endpoint ∈ endpointIds
  gettable : ∀ endpoint server, serverAt endpoint p.clusterId = some server →
    server.attributes?.isSome

/-- The endpoints to report the path on, in ascending order. -/
def places (p : AttributeRead) : List (AttributeRead × Nat) :=
  ((p.endpointId.elim endpointIds ([·])).filter fun endpoint =>
    (p.ids.attributeAt endpoint).isSome).map fun endpoint => (p, endpoint)

/-- The path is a wildcard with a match on endpoint 0. -/
def OnRoot (p : AttributeRead) : Prop :=
  p.endpointId = none ∧ (p.ids.attributeAt 0).isSome

/-- Every cluster but 62 will do. -/
theorem supported_of_ne {p : AttributeRead} (hknown : ∀ endpoint ∈ p.endpointId, endpoint ∈ endpointIds)
    (hne : p.clusterId ≠ 62) : p.Supported :=
  ⟨hknown, fun _ _ hserver => attributes_isSome_of_ne hne hserver⟩

theorem Supported.readable {p : AttributeRead} (h : p.Supported) : p.ids.Readable :=
  ⟨h.known, fun endpoint _ server hserver => h.gettable endpoint server hserver⟩

end AttributeRead

/-- The endpoint, cluster and attribute of an AttributeReportIB. -/
def reportIds (report : DeterministicJson) : Except JsError (JsValue × JsValue × JsValue) := do
  let data ← findTag report.value 1
  let path ← findTag data 1
  return (← findTag path 2, ← findTag path 3, ← findTag path 4)

/-- The ReportData is a structure whose AttributeReports hold one report for each match of each
    path, in their order. -/
def ReportsOnce (tlv : Bytes) (reads : List AttributeRead) : Prop :=
  ∃ payload top reports, reportData tlv = .ok payload ∧ decode payload = .ok [top] ∧
    top.type = some .struct ∧ findTag top.value 1 = .ok (.array reports) ∧
    List.Forall₂ (fun report m => reportIds report =
      .ok (.nat m.2, .nat m.1.clusterId, .nat m.1.attributeId)) reports
      (reads.flatMap AttributeRead.places)

section Once

variable {p : AttributeRead}

/-- The places of a path as the reports name them. -/
theorem places_ids (p : AttributeRead) : (p.places.map fun m => (m.1.ids, m.2)) =
    p.ids.reportsOn (p.endpointId.elim endpointIds ([·])) := by
  unfold AttributeRead.places PathIds.reportsOn
  rw [List.map_map]
  rfl

/-- The wildcard loop visits the endpoints, and then endpoint 0 again. -/
theorem reported_wildcard (h : p.endpointId = none) :
    p.ids.reported = (p.places.map fun m => (m.1.ids, m.2)) ++ p.ids.reportsOn [0] := by
  rw [places_ids, h, Option.elim_none, endpointIds_eq]
  unfold PathIds.reported PathIds.reportsOn
  rw [show p.ids.endpointId = none from h, Option.elim_none, ← List.map_append,
    ← List.filter_append]
  rfl

theorem reported_of_not_onRoot (h : ¬ p.OnRoot) :
    p.ids.reported = p.places.map fun m => (m.1.ids, m.2) := by
  cases he : p.endpointId with
  | none =>
    have hzero : ¬ (p.ids.attributeAt 0).isSome := fun hsome => h ⟨he, hsome⟩
    rw [reported_wildcard he]
    simp [PathIds.reportsOn, hzero]
  | some endpoint =>
    rw [places_ids]
    unfold PathIds.reported
    rw [show p.ids.endpointId = some endpoint from he, he]
    rfl

/-- **A wildcard path with a match on endpoint 0 is reported there twice.** -/
theorem length_reported_of_onRoot (h : p.OnRoot) :
    p.ids.reported.length = p.places.length + 1 := by
  obtain ⟨he, hsome⟩ := h
  rw [reported_wildcard he]
  simp [PathIds.reportsOn, hsome]

theorem length_places_le (p : AttributeRead) : p.places.length ≤ p.ids.reported.length := by
  by_cases h : p.OnRoot
  · have hlen := length_reported_of_onRoot h
    omega
  · rw [reported_of_not_onRoot h, List.length_map]

/-- A report is read as the ids it was written with. -/
theorem reportIds_json {e : Element} {endpoint : Nat} (h : Reports e (p.ids, endpoint)) :
    reportIds e.json = .ok (.nat endpoint, .nat p.clusterId, .nat p.attributeId) := by
  obtain rfl := h.element
  have hread (n : Nat) (hn : n < 2 ^ 32) : (Leaf.unsigned (UInt64.ofNat n)).value = .nat n := by
    have hnat : (UInt64.ofNat n).toNat = n := by
      rw [UInt64.toNat_ofNat', Nat.mod_eq_of_lt (by omega)]
    have hwidth := unsignedWidth_short hn
    simp only [Leaf.value, hnat, integerValue]
    rw [if_neg (by omega)]
  have hcluster := hread _ (h.small.clusterId p.clusterId rfl)
  have hattribute := hread _ (h.small.attributeId p.attributeId rfl)
  have hendpoint := hread endpoint h.endpoint
  unfold reportIds reportOf reportElement pathElement
  cases hnode : p.nodeId with
  | none =>
    simp [AttributeRead.ids, hnode, Element.json, forestJson, idElements, findTag, tagged, jsonTag,
      bind, Except.bind, pure, Except.pure, hcluster, hattribute, hendpoint]
  | some node =>
    simp [AttributeRead.ids, hnode, Element.json, forestJson, idElements, findTag, tagged, jsonTag,
      bind, Except.bind, pure, Except.pure, hcluster, hattribute, hendpoint]

theorem forestJson_eq_map (es : List Element) : forestJson es = es.map Element.json := by
  induction es with
  | nil => rfl
  | cons e es ih => simp only [forestJson, List.map_cons, ih]

/-- A bigint anywhere makes the trace line throw. -/
theorem stringify_of_bigint {tlv : Bytes} (h : ¬ NoBigint tlv) :
    ∃ result, decode tlv = .ok result ∧ stringify (.array result) = .error .typeError := by
  obtain ⟨result, hresult⟩ := not_forall.mp h
  obtain ⟨hdecode, hbig⟩ := Classical.not_imp.mp hresult
  refine ⟨result, hdecode, ?_⟩
  unfold stringify
  rw [if_pos (by simpa using hbig)]

theorem reportData_of_bigint {tlv : Bytes} (h : ¬ NoBigint tlv) :
    reportData tlv = .error .typeError := by
  obtain ⟨result, hdecode, hthrows⟩ := stringify_of_bigint h
  unfold reportData
  rw [hdecode]
  simp only [bind, Except.bind, hthrows]

/-- What a ReportData is read as. -/
theorem decode_reportData (es : List Element) :
    decode (reportDataElement es).wire = .ok [(reportDataElement es).json] ∧
      (reportDataElement es).json.type = some .struct ∧
      findTag (reportDataElement es).json.value 1 = .ok (.array (es.map Element.json)) := by
  have hdecode := decode_forestWire [reportDataElement es]
  simp only [forestWire, List.append_nil, forestJson] at hdecode
  refine ⟨hdecode, by simp [reportDataElement, Element.json, ContainerKind.elementType,
    tlvTypeStructure, elementTypes], ?_⟩
  simp [reportDataElement, Element.json, forestJson, findTag, tagged, jsonTag, forestJson_eq_map]

/-- As many reports as places leave no wildcard path on endpoint 0. -/
theorem not_onRoot_of_length {reads : List AttributeRead}
    (h : (reads.flatMap AttributeRead.places).length =
      ((reads.map AttributeRead.ids).flatMap PathIds.reported).length) :
    ∀ p ∈ reads, ¬ p.OnRoot := by
  intro p hp hroot
  have hlt : (reads.map fun p => p.places.length).sum <
      (reads.map fun p => p.ids.reported.length).sum := by
    refine List.sum_lt_sum _ _ (fun q _ => length_places_le q) ⟨p, hp, ?_⟩
    have hlen := length_reported_of_onRoot hroot
    omega
  rw [List.flatMap_map, List.length_flatMap, List.length_flatMap] at h
  omega

theorem readable_of_supported {reads : List AttributeRead} (hs : ∀ p ∈ reads, p.Supported) :
    ∀ q ∈ reads.map AttributeRead.ids, q.Readable := by
  intro q hq
  obtain ⟨p, hp, rfl⟩ := List.mem_map.mp hq
  exact (hs p hp).readable

/-- What a read must not have, to report each match once. -/
theorem ReportsOnce.not_onRoot {tlv : Bytes} {reads : List AttributeRead}
    (honce : ReportsOnce tlv reads) (h : IsReadRequest tlv (reads.map AttributeRead.ids))
    (hs : ∀ p ∈ reads, p.Supported) : NoBigint tlv ∧ ∀ p ∈ reads, ¬ p.OnRoot := by
  obtain ⟨payload, top, reports, hpayload, hdecode, -, hreports, hall⟩ := honce
  by_cases hno : NoBigint tlv
  · refine ⟨hno, not_onRoot_of_length ?_⟩
    obtain ⟨es, hes, hdata⟩ := reportData_ok h hno (readable_of_supported hs)
    obtain ⟨hread, -, hfind⟩ := decode_reportData es
    cases hpayload.symm.trans hdata
    cases hdecode.symm.trans hread
    cases hreports.symm.trans hfind
    have hlen := hall.length_eq
    rw [List.length_map] at hlen
    rw [← hlen, hes.length_eq]
  · rw [reportData_of_bigint hno] at hpayload
    cases hpayload

/-- **A read reports each match once exactly when** no value of the request is read as a bigint and
    no wildcard path has a match on endpoint 0. -/
theorem reportsOnce_iff {tlv : Bytes} {reads : List AttributeRead}
    (h : IsReadRequest tlv (reads.map AttributeRead.ids)) (hs : ∀ p ∈ reads, p.Supported) :
    ReportsOnce tlv reads ↔ NoBigint tlv ∧ ∀ p ∈ reads, ¬ p.OnRoot := by
  constructor
  · intro honce
    exact honce.not_onRoot h hs
  · rintro ⟨hno, hroot⟩
    obtain ⟨es, hes, hdata⟩ := reportData_ok h hno (readable_of_supported hs)
    obtain ⟨hread, htype, hfind⟩ := decode_reportData es
    refine ⟨_, _, _, hdata, hread, htype, hfind, ?_⟩
    have hplaces : (reads.map AttributeRead.ids).flatMap PathIds.reported =
        (reads.flatMap AttributeRead.places).map fun m => (m.1.ids, m.2) := by
      rw [List.flatMap_map, List.map_flatMap]
      exact List.flatMap_congr fun p hp => reported_of_not_onRoot (hroot p hp)
    rw [hplaces, List.forall₂_map_right_iff] at hes
    rw [List.forall₂_map_left_iff]
    exact hes.imp fun e m hm => reportIds_json hm

end Once

/-- The ReadRequest of these paths. -/
def readRequest (reads : List AttributeRead) : Bytes :=
  forestWire [.container none .struct [.container (some 0) .array (reads.map fun p =>
    .container none .list (idElements 1 p.nodeId ++ idElements 2 p.endpointId ++
      idElements 3 (some p.clusterId) ++ idElements 4 (some p.attributeId)))]]

/-- VendorID on endpoint 0, and an attribute of the on/off cluster on all endpoints. -/
def sampleReads : List AttributeRead :=
  [{ endpointId := some 0, clusterId := 40, attributeId := 2 }, { clusterId := 6, attributeId := 0 }]

theorem isReadRequest_sampleReads :
    IsReadRequest (readRequest sampleReads) (sampleReads.map AttributeRead.ids) :=
  ⟨_, _, _, _, decode_forestWire _, rfl, rfl,
    .cons ⟨_, rfl, .absent, .number (n := 0) (by decide), .number (n := 40) (by decide),
      .number (n := 2) (by decide)⟩
    (.cons ⟨_, rfl, .absent, .absent, .number (n := 6) (by decide),
      .number (n := 0) (by decide)⟩ .nil)⟩

theorem supported_sampleReads : ∀ p ∈ sampleReads, p.Supported := by
  intro p hp
  simp only [sampleReads, List.mem_cons, List.not_mem_nil, or_false] at hp
  rcases hp with rfl | rfl
  · exact AttributeRead.supported_of_ne (by simp [endpointIds_eq]) (by decide)
  · exact AttributeRead.supported_of_ne (by simp) (by decide)

theorem reportsOnce_iff_sample :
    ReportsOnce (readRequest sampleReads) sampleReads ↔
      NoBigint (readRequest sampleReads) ∧ ∀ p ∈ sampleReads, ¬ p.OnRoot :=
  reportsOnce_iff isReadRequest_sampleReads supported_sampleReads

/-- VendorID on all endpoints. -/
def wildcardReads : List AttributeRead := [{ clusterId := 40, attributeId := 2 }]

/-- **VendorID, read on all endpoints, is reported twice**: it is on endpoint 0 only. -/
theorem wildcard_reported_twice :
    IsReadRequest (readRequest wildcardReads) (wildcardReads.map AttributeRead.ids) ∧
      (∀ p ∈ wildcardReads, p.Supported) ∧
      ¬ ReportsOnce (readRequest wildcardReads) wildcardReads := by
  have hrequest : IsReadRequest (readRequest wildcardReads)
      (wildcardReads.map AttributeRead.ids) :=
    ⟨_, _, _, _, decode_forestWire _, rfl, rfl,
      .cons ⟨_, rfl, .absent, .absent, .number (n := 40) (by decide),
        .number (n := 2) (by decide)⟩ .nil⟩
  have hsupported : ∀ p ∈ wildcardReads, p.Supported := by
    intro p hp
    cases List.mem_singleton.mp hp
    exact AttributeRead.supported_of_ne (by simp) (by decide)
  refine ⟨hrequest, hsupported, fun honce => ?_⟩
  obtain ⟨-, hroot⟩ := honce.not_onRoot hrequest hsupported
  exact hroot _ (List.mem_singleton_self _) ⟨rfl, by decide⟩

end InteractionModel

end Matternode.Protocols
