/-
  File:      Matternode/Clusters/Tables.lean
  Subject:   The generated table of endpoints, the cluster servers and their attributes.

  * `endpoints` -- Endpoints.json: the endpoints' keys, and the class of each cluster they host. The
    last key is the empty text;
  * `ClusterServer`, `clusterMap` -- the classes that InteractionModel has a server for;
  * `ClusterServer.getAttribute` -- an attribute of a server; one server has no such method;
  * `serverAt`, `endpointIds` -- the tables, asked with ids.

  Of an attribute only the value is read.
-/
import Matternode.Js.Property

namespace Matternode.Clusters

open Base Js

/-! ## 1. Endpoints -/

/-- The classes of Endpoints.json, without the `Cluster` they all begin with. -/
inductive ClusterClass where
  | identifyServer | groupsServer | descriptorServer | bindingServer | accessControlServer
  | basicServer | otaSoftwareUpdateProviderClient | otaSoftwareUpdateRequestorServer
  | localizationConfigurationServer | timeFormatLocalizationServer | unitLocalizationServer
  | powerSourceConfigurationServer | powerSourceServer | generalCommissioningServer
  | networkCommissioningServer | diagnosticLogsServer | generalDiagnosticsServer
  | softwareDiagnosticsServer | threadNetworkDiagnosticsServer | wiFiNetworkDiagnosticsServer
  | ethernetNetworkDiagnosticsServer | administratorCommissioningServer
  | operationalCredentialsServer | groupKeyManagementServer | fixedLabelServer | userLabelServer
  | relativeHumidityMeasurementServer | testClusterServer | scenesServer | onOffServer
  | onOffSwitchConfigurationServer | levelControlServer | binaryInputBasicServer
  | bridgedActionsServer | switchServer | booleanStateServer | modeSelectServer | doorLockServer
  | windowCoveringServer | barrierControlServer | pumpConfigurationAndControlServer
  | thermostatServer | fanControlServer | thermostatUserInterfaceConfigurationServer
  | colorControlServer | illuminanceMeasurementServer | temperatureMeasurementServer
  | pressureMeasurementServer | flowMeasurementServer | occupancySensingServer | iasZoneServer
  | wakeOnLanServer | channelServer | targetNavigatorServer | mediaPlaybackServer
  | mediaInputServer | lowPowerServer | keypadInputServer | contentLauncherServer
  | audioOutputServer | applicationLauncherServer | applicationBasicServer | accountLoginServer
  | electricalMeasurementServer
  deriving DecidableEq, Repr

/-- The clusters of an endpoint, by their ids. -/
def hosts (rows : List (Nat × ClusterClass)) : List (PropertyKey × ClusterClass) :=
  rows.map fun row => (.index row.1, row.2)

/-- Endpoints.json, in the order `for (var key in Endpoints)` takes. -/
def endpoints : List (PropertyKey × List (PropertyKey × ClusterClass)) := [
  (.index 0, hosts [
    (3, .identifyServer), (4, .groupsServer), (29, .descriptorServer), (30, .bindingServer),
    (31, .accessControlServer), (40, .basicServer), (41, .otaSoftwareUpdateProviderClient),
    (42, .otaSoftwareUpdateRequestorServer), (43, .localizationConfigurationServer),
    (44, .timeFormatLocalizationServer), (45, .unitLocalizationServer),
    (46, .powerSourceConfigurationServer), (47, .powerSourceServer),
    (48, .generalCommissioningServer), (49, .networkCommissioningServer),
    (50, .diagnosticLogsServer), (51, .generalDiagnosticsServer),
    (52, .softwareDiagnosticsServer), (53, .threadNetworkDiagnosticsServer),
    (54, .wiFiNetworkDiagnosticsServer), (55, .ethernetNetworkDiagnosticsServer),
    (60, .administratorCommissioningServer), (62, .operationalCredentialsServer),
    (63, .groupKeyManagementServer), (64, .fixedLabelServer), (65, .userLabelServer),
    (1029, .relativeHumidityMeasurementServer), (1295, .testClusterServer)]),
  (.index 1, hosts [
    (3, .identifyServer), (4, .groupsServer), (5, .scenesServer), (6, .onOffServer),
    (7, .onOffSwitchConfigurationServer), (8, .levelControlServer), (15, .binaryInputBasicServer),
    (29, .descriptorServer), (30, .bindingServer), (37, .bridgedActionsServer),
    (47, .powerSourceServer), (59, .switchServer), (64, .fixedLabelServer),
    (65, .userLabelServer), (69, .booleanStateServer), (80, .modeSelectServer),
    (257, .doorLockServer), (258, .windowCoveringServer), (259, .barrierControlServer),
    (512, .pumpConfigurationAndControlServer), (513, .thermostatServer), (514, .fanControlServer),
    (516, .thermostatUserInterfaceConfigurationServer), (768, .colorControlServer),
    (1024, .illuminanceMeasurementServer), (1026, .temperatureMeasurementServer),
    (1027, .pressureMeasurementServer), (1028, .flowMeasurementServer),
    (1029, .relativeHumidityMeasurementServer), (1030, .occupancySensingServer),
    (1280, .iasZoneServer), (1283, .wakeOnLanServer), (1284, .channelServer),
    (1285, .targetNavigatorServer), (1286, .mediaPlaybackServer), (1287, .mediaInputServer),
    (1288, .lowPowerServer), (1289, .keypadInputServer), (1290, .contentLauncherServer),
    (1291, .audioOutputServer), (1292, .applicationLauncherServer),
    (1293, .applicationBasicServer), (1294, .accountLoginServer), (1295, .testClusterServer),
    (2820, .electricalMeasurementServer)]),
  (.index 2, hosts [
    (4, .groupsServer), (6, .onOffServer), (29, .descriptorServer), (47, .powerSourceServer),
    (1030, .occupancySensingServer), (1280, .iasZoneServer)]),
  (.name "", hosts [])]

/-! ## 2. Cluster servers -/

/-- The servers of InteractionModel's cluster map. -/
inductive ClusterServer where
  | basic | generalCommissioning | networkCommissioning | operationalCredentials
  deriving DecidableEq, Repr

/-- `ClusterMap[clusterClass]`. -/
def clusterMap : ClusterClass → Option ClusterServer
  | .basicServer => some .basic
  | .generalCommissioningServer => some .generalCommissioning
  | .networkCommissioningServer => some .networkCommissioning
  | .operationalCredentialsServer => some .operationalCredentials
  | _ => none

structure Attribute where
  value : JsValue := .undefined

/-- Attributes without a value, by their ids. -/
def valueless (ids : List Nat) : List (PropertyKey × Attribute) :=
  ids.map fun id => (.index id, {})

/-- Attributes with a value, by their ids. -/
def valued (rows : List (Nat × JsValue)) : List (PropertyKey × Attribute) :=
  rows.map fun row => (.index row.1, { value := row.2 })

/-- ClusterBasicServer: DataModelRevision to ClusterRevision; VendorID and ProductID have values. -/
def basicAttributes : List (PropertyKey × Attribute) :=
  valueless [0, 1] ++ valued [(2, .nat 0xFFF1)] ++ valueless [3] ++ valued [(4, .nat 0x8001)] ++
    valueless [5, 6, 7, 8, 9, 10, 11, 12, 13, 14, 15, 16, 17, 18, 19,
      65528, 65529, 65531, 65532, 65533]

/-- The value of BasicCommissioningInfo. -/
def basicCommissioningInfo : JsValue :=
  .object { type := some .struct, value := .array [
    { tag := some 0, value := .nat 60 },
    { tag := some 1, value := .nat 900 }] }

/-- ClusterGeneralCommissioningServer: Breadcrumb to ClusterRevision. -/
def generalCommissioningAttributes : List (PropertyKey × Attribute) :=
  valued [(0, .nat 0), (1, basicCommissioningInfo), (2, .nat 0), (3, .nat 2)] ++
    valueless [4, 65528, 65529, 65531] ++ valued [(65532, .nat 0), (65533, .nat 0)]

/-- ClusterNetworkCommissioningServer: MaxNetworks to ClusterRevision. -/
def networkCommissioningAttributes : List (PropertyKey × Attribute) :=
  valueless [0, 1, 2] ++ valued [(3, .nat 0)] ++ valueless [4, 5, 6, 7, 65528, 65529, 65531] ++
    valued [(65532, .nat 4)] ++ valueless [65533]

namespace ClusterServer

/-- What `getAttribute` looks ids up in, where the server has the method:
    ClusterOperationalCredentialsServer has none. -/
def attributes? : ClusterServer → Option (List (PropertyKey × Attribute))
  | .basic => some basicAttributes
  | .generalCommissioning => some generalCommissioningAttributes
  | .networkCommissioning => some networkCommissioningAttributes
  | .operationalCredentials => none

/-- `getAttribute(id)`. -/
def getAttribute (c : ClusterServer) (id : JsValue) : Except JsError (Option Attribute) :=
  match c.attributes? with
  | none => .error .typeError
  | some attributes => .ok (lookup attributes id)

/-- The rows of a server's attributes: without a value, with a number, and the one structure. -/
theorem forall_attributes {P : PropertyKey × Attribute → Prop} {c : ClusterServer}
    {attributes : List (PropertyKey × Attribute)} (h : c.attributes? = some attributes)
    (hnone : ∀ id, P (.index id, {})) (hnat : ∀ id n, n < 2 ^ 16 → P (.index id, ⟨.nat n⟩))
    (hinfo : ∀ id, P (.index id, ⟨basicCommissioningInfo⟩)) : ∀ row ∈ attributes, P row := by
  cases c with
  | operationalCredentials => cases h
  | basic =>
    cases h
    simp only [basicAttributes, valueless, valued, List.forall_mem_append, List.forall_mem_map,
      List.forall_mem_singleton]
    exact ⟨⟨⟨⟨fun id _ => hnone id, hnat _ _ (by decide)⟩, hnone _⟩, hnat _ _ (by decide)⟩,
      fun id _ => hnone id⟩
  | generalCommissioning =>
    cases h
    simp only [generalCommissioningAttributes, valueless, valued, List.forall_mem_append,
      List.forall_mem_map, List.forall_mem_cons]
    refine ⟨⟨⟨hnat _ _ (by decide), hinfo _, hnat _ _ (by decide), hnat _ _ (by decide), by simp⟩,
      hnone _, hnone _, hnone _, hnone _, by simp⟩, hnat _ _ (by decide), hnat _ _ (by decide),
      by simp⟩
  | networkCommissioning =>
    cases h
    simp only [networkCommissioningAttributes, valueless, valued, List.forall_mem_append,
      List.forall_mem_map, List.forall_mem_singleton]
    exact ⟨⟨⟨⟨fun id _ => hnone id, hnat _ _ (by decide)⟩, fun id _ => hnone id⟩,
      hnat _ _ (by decide)⟩, hnone _⟩

end ClusterServer

/-! ## 3. Where a cluster is -/

/-- The server of a cluster on an endpoint. -/
def serverAt (endpoint cluster : Nat) : Option ClusterServer := do
  let clusters ← endpoints.lookup (.index endpoint)
  clusterMap (← clusters.lookup (.index cluster))

theorem id_of_operationalCredentials : ∀ row ∈ endpoints, ∀ c ∈ row.2,
    clusterMap c.2 = some .operationalCredentials → c.1 = .index 62 := by
  decide +kernel

/-- The one cluster whose server has no `getAttribute` is 62. -/
theorem attributes_isSome_of_ne {endpoint cluster : Nat} {server : ClusterServer}
    (hne : cluster ≠ 62) (h : serverAt endpoint cluster = some server) :
    server.attributes?.isSome := by
  obtain ⟨clusters, hclusters, hrest⟩ := Option.bind_eq_some_iff.mp h
  obtain ⟨cls, hcls, hserver⟩ := Option.bind_eq_some_iff.mp hrest
  cases server with
  | operationalCredentials =>
    have hid := id_of_operationalCredentials _ (mem_of_lookup hclusters) _ (mem_of_lookup hcls)
      hserver
    exact absurd (PropertyKey.index.inj hid) hne
  | _ => rfl

/-- The endpoints' ids: the keys that are indices. -/
def endpointIds : List Nat :=
  endpoints.filterMap fun row => match row.1 with
    | .index n => some n
    | .name _ => none

theorem endpointIds_eq : endpointIds = [0, 1, 2] := rfl

/-- The ids that the table has a row for. -/
theorem known_iff {endpoint : Nat} :
    (endpoints.lookup (.index endpoint)).isSome ↔ endpoint ∈ endpointIds := by
  rw [endpointIds_eq, List.lookup_isSome_iff]
  simp [endpoints]

end Matternode.Clusters
