import UnifyMatterBridge.Cxx
import UnifyMatterBridge.DataStorage
import UnifyMatterBridge.Ember
import UnifyMatterBridge.Lib.Multimap

/-! The node state monitor (`matter_node_state_monitor`): nodes that Unify announces are
bridged to dynamic Matter endpoints, one for each mappable Unify endpoint. -/
namespace UnifyMatterBridge

structure Cluster where
  attributes : List String
  supportedCommands : List String
  generatedCommands : List String
  deriving DecidableEq, Repr

/-- The clusters of an endpoint, in the iteration order of the `unordered_map` that holds them. -/
structure Endpoint where
  clusters : List (String × Cluster)
  names_nodup : (clusters.map Prod.fst).Nodup

inductive NetworkStatus where
  | onlineFunctional
  | other (code : ℕ)
  deriving DecidableEq, Repr

/-- `node_state_monitor::node`. The ids of its endpoints are of type `uint8_t`. -/
structure Node where
  unid : String
  state : NetworkStatus
  endpoints : List (Fin 256 × Endpoint)
  ids_nodup : (endpoints.map Prod.fst).Nodup

/-- `matter_endpoint_context`: what the builder has built, and which allocation it is. -/
structure EndpointContext (Content : Type) where
  allocation : ℕ
  content : Content

structure BridgedEndpoint (Content : Type) where
  unifyUnid : String
  unifyEndpoint : Fin 256
  matterEndpoint : ℕ
  index : ℕ
  matterType : ℕ
  emberEndpoint : EndpointContext Content
  /-- `none` until the first assignment: the constructor leaves it uninitialised. -/
  reachable : Option Bool

/-- The Unify address `(unid, endpoint)` of a bridged endpoint. -/
def BridgedEndpoint.address {Content : Type} (e : BridgedEndpoint Content) : String × ℕ :=
  (e.unifyUnid, e.unifyEndpoint)

/-- `matter_node_state_monitor::update_t`. -/
inductive Update where
  | nodeAdded
  | nodeDeleted
  | nodeStateChanged
  deriving DecidableEq, Repr

/-- What the monitor calls outside itself. -/
inductive Call (Content : Type) where
  | emberAfClearDynamicEndpoint (index : ℕ)
  | emberAfSetDynamicEndpoint (index id : ℕ) (context : EndpointContext Content) (deviceType : ℕ)
  | listener (ep : BridgedEndpoint Content) (update : Update)

/-- A call, with the bridged endpoints and the dynamic-endpoint table it meets. -/
structure CallRecord (Table Content : Type) where
  call : Call Content
  bridgedEndpoints : List (BridgedEndpoint Content)
  ember : Table

/-- What the monitor is built with: the stack, and the translation of clusters to a Matter
endpoint (`device_translator`, `cluster_interactor` and `ClusterEmulator`), of which the selection of
a device type need not answer. -/
structure MonitorEnv (Table Content : Type) where
  counts : EndpointCounts
  ember : EmberApi Table (EndpointContext Content)
  getClusterId : String → Option ℕ
  buildMatterCluster : List (String × Cluster) → Content
  getMatterType : List (String × Cluster) → Except Fault (Option ℕ)

/-- The process-wide state the monitor works on. -/
structure MonitorState (Table Content : Type) where
  /-- The `multimap` by unid. -/
  bridgedEndpoints : List (BridgedEndpoint Content)
  lastReturnedAvailableEndpointId : ℕ
  ember : Table
  kvs : KeyValueStore
  nextAllocation : ℕ
  calls : List (CallRecord Table Content)

namespace NodeStateMonitor

variable {Table Content : Type} (env : MonitorEnv Table Content)

def start (kvs : KeyValueStore) : MonitorState Table Content where
  bridgedEndpoints := []
  lastReturnedAvailableEndpointId := env.counts.fixedEndpointCount - 1
  ember := env.ember.empty
  kvs := kvs
  nextAllocation := 0
  calls := []

def record (s : MonitorState Table Content) (call : Call Content) : MonitorState Table Content :=
  { s with calls := s.calls ++ [⟨call, s.bridgedEndpoints, s.ember⟩] }

def invokeListeners (s : MonitorState Table Content) (ep : BridgedEndpoint Content)
    (update : Update) : MonitorState Table Content :=
  record s (.listener ep update)

def emberAfClearDynamicEndpoint (s : MonitorState Table Content) (index : ℕ) :
    MonitorState Table Content :=
  { record s (.emberAfClearDynamicEndpoint index) with
    ember := (env.ember.emberAfClearDynamicEndpoint s.ember index).1 }

def emberAfSetDynamicEndpoint (s : MonitorState Table Content) (bridge : BridgedEndpoint Content) :
    MonitorState Table Content :=
  { record s (.emberAfSetDynamicEndpoint bridge.index bridge.matterEndpoint bridge.emberEndpoint
      bridge.matterType) with
    ember := (env.ember.emberAfSetDynamicEndpoint s.ember bridge.index bridge.matterEndpoint
      bridge.emberEndpoint bridge.matterType).1 }

/-- What goes wrong in the stack is logged, and nothing else. -/
def registerDynamicEndpoint (s : MonitorState Table Content) (bridge : BridgedEndpoint Content) :
    MonitorState Table Content :=
  let index := env.ember.emberAfGetDynamicIndexFromEndpoint s.ember bridge.matterEndpoint
  let s := if index ≠ kInvalidEndpointId then emberAfClearDynamicEndpoint env s index else s
  emberAfSetDynamicEndpoint env s bridge

/-- Drops the first entry of the node with this Matter endpoint id. -/
def eraseMapperEndpoint (unid : String) (endpoint : ℕ) (l : List (BridgedEndpoint Content)) :
    List (BridgedEndpoint Content) :=
  l.eraseP fun e => e.unifyUnid = unid ∧ e.matterEndpoint = endpoint

/-- The guard on endpoints with only the `Groups` or `NameAndLocation` clusters. In an empty map there
is no first cluster to look at. -/
def skipsEndpoint (clusters : List (String × Cluster)) : Except Fault Bool :=
  if clusters.length ≤ 2 then
    match clusters with
    | [] => .error .outOfBounds
    | (name, _) :: _ => .ok (name == "Groups" || name == "NameAndLocation")
  else .ok false

/-- `count_number_of_clusters_matched_to_matter`, a `uint8_t`. -/
def clustersMatchedToMatter (clusters : List (String × Cluster)) : ℕ :=
  clusters.countP (fun c => !c.2.attributes.isEmpty && (env.getClusterId c.1).isSome) % 256

/-- The loop body of `on_unify_node_added` up to the selection: the device type, unless the endpoint
is passed over. -/
def selectDeviceType (clusters : List (String × Cluster)) : Except Fault (Option ℕ) := do
  if ← skipsEndpoint clusters then return none
  else if clustersMatchedToMatter env clusters = 0 then return none
  else env.getMatterType clusters

/-- The device type of an endpoint that is to be bridged. -/
def mappedDeviceType (clusters : List (String × Cluster)) : Option ℕ :=
  (selectDeviceType env clusters).toOption.join

/-- The Matter endpoint id of a Unify endpoint: the persisted one, or else the next available
one, which is then persisted. -/
def assignMatterEndpoint (s : MonitorState Table Content) (unid : String) (epId : ℕ) :
    ℕ × MonitorState Table Content :=
  match EndpointMapping.getPersistedData s.kvs ⟨unid, epId, none⟩ with
  | some matterEndpoint => (matterEndpoint, s)
  | none =>
    let (id, cursor) := env.ember.getNextDynamicAvailableEndpointIndex env.counts s.ember
      s.lastReturnedAvailableEndpointId
    (id, { s with
      lastReturnedAvailableEndpointId := cursor
      kvs := (EndpointMapping.persistData s.kvs ⟨unid, epId, some id⟩).1 })

def makeBridge (node : Node) (epId : Fin 256) (ep : Endpoint) (matterType matterEndpoint allocation : ℕ) :
    BridgedEndpoint Content where
  unifyUnid := node.unid
  unifyEndpoint := epId
  matterEndpoint := matterEndpoint
  index := (matterEndpoint + 65536 - env.counts.fixedEndpointCount) % 65536
  matterType := matterType
  emberEndpoint := ⟨allocation, env.buildMatterCluster ep.clusters⟩
  reachable := none

/-- The rest of the loop body, for an endpoint of the given device type. -/
def bridgeEndpoint (node : Node) (s : MonitorState Table Content) (epId : Fin 256) (ep : Endpoint)
    (matterType : ℕ) : MonitorState Table Content :=
  let (matterEndpoint, s) := assignMatterEndpoint env s node.unid epId
  let bridge := makeBridge env node epId ep matterType matterEndpoint s.nextAllocation
  let others := eraseMapperEndpoint node.unid matterEndpoint s.bridgedEndpoints
  let s := { s with
    nextAllocation := s.nextAllocation + 1
    bridgedEndpoints := Multimap.insert (·.unifyUnid) bridge others }
  let s := registerDynamicEndpoint env s bridge
  let s := invokeListeners s bridge .nodeAdded
  -- The entry stays where it is: only its `reachable` is assigned.
  let bridge := { bridge with reachable := some (node.state == .onlineFunctional) }
  let s := { s with bridgedEndpoints := Multimap.insert (·.unifyUnid) bridge others }
  invokeListeners s bridge .nodeStateChanged

def addEndpoint (node : Node) (s : MonitorState Table Content) (ep : Fin 256 × Endpoint) :
    MonitorState Table Content :=
  match mappedDeviceType env ep.2.clusters with
  | none => s
  | some matterType => bridgeEndpoint env node s ep.1 ep.2 matterType

/-- The endpoints in front of the first one on which the call ends without a result. -/
def visited (node : Node) : List (Fin 256 × Endpoint) :=
  node.endpoints.takeWhile fun ep => (selectDeviceType env ep.2.clusters).isOk

/-- The state in which the call returns, or in which it has left the process if it does not. -/
def onUnifyNodeAdded (s : MonitorState Table Content) (node : Node) : MonitorState Table Content :=
  (visited env node).foldl (addEndpoint env node) s

/-- `on_unify_node_added` returns for the node. -/
def Returns (node : Node) : Prop :=
  ∀ ep ∈ node.endpoints, ∃ r, selectDeviceType env ep.2.clusters = .ok r

def removeEndpoint (s : MonitorState Table Content) (e : BridgedEndpoint Content) :
    MonitorState Table Content :=
  let s := emberAfClearDynamicEndpoint env s e.index
  let s := { s with
    kvs := EndpointMapping.removePersistedData s.kvs ⟨e.unifyUnid, e.unifyEndpoint, none⟩ }
  invokeListeners s e .nodeDeleted

def onUnifyNodeRemoved (s : MonitorState Table Content) (unid : String) :
    MonitorState Table Content :=
  let s := (Multimap.equalRange (·.unifyUnid) unid s.bridgedEndpoints).foldl (removeEndpoint env) s
  { s with bridgedEndpoints := s.bridgedEndpoints.filter (·.unifyUnid ≠ unid) }

/-- Assigns `reachable` of the entry that owns an endpoint context. -/
def assignReachable (allocation : ℕ) (reachable : Bool) (l : List (BridgedEndpoint Content)) :
    List (BridgedEndpoint Content) :=
  l.map fun e => if e.emberEndpoint.allocation = allocation
    then { e with reachable := some reachable } else e

def changeState (reachable : Bool) (s : MonitorState Table Content) (e : BridgedEndpoint Content) :
    MonitorState Table Content :=
  invokeListeners
    { s with bridgedEndpoints :=
        assignReachable e.emberEndpoint.allocation reachable s.bridgedEndpoints }
    { e with reachable := some reachable } .nodeStateChanged

def onUnifyNodeStateChanged (s : MonitorState Table Content) (node : Node) :
    MonitorState Table Content :=
  (Multimap.equalRange (·.unifyUnid) node.unid s.bridgedEndpoints).foldl
    (changeState (node.state == .onlineFunctional)) s

/-- A restart keeps the key-value store and nothing else; `nextAllocation` and `calls` are
carried on to tell the processes' allocations and calls apart. -/
def restart (s : MonitorState Table Content) : MonitorState Table Content :=
  { start env s.kvs with nextAllocation := s.nextAllocation, calls := s.calls }

def bridgedEndpoint (s : MonitorState Table Content) (unid : String) (epid : ℕ) :
    Option (BridgedEndpoint Content) :=
  (Multimap.equalRange (·.unifyUnid) unid s.bridgedEndpoints).find? (·.unifyEndpoint = epid)

def bridgedEndpointOfMatter (s : MonitorState Table Content) (matterEndpoint : ℕ) :
    Option (BridgedEndpoint Content) :=
  s.bridgedEndpoints.find? (·.matterEndpoint = matterEndpoint)

/-- What happens to the monitor. A call that does not return ends the process, and a restart comes
next: what is proved of all runs holds of these, and of more. -/
inductive Event where
  | nodeAdded (node : Node)
  | nodeRemoved (unid : String)
  | nodeStateChanged (node : Node)
  | restart

def step (s : MonitorState Table Content) : Event → MonitorState Table Content
  | .nodeAdded node => onUnifyNodeAdded env s node
  | .nodeRemoved unid => onUnifyNodeRemoved env s unid
  | .nodeStateChanged node => onUnifyNodeStateChanged s node
  | .restart => restart env s

end NodeStateMonitor

end UnifyMatterBridge
