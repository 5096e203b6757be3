import UnifyMatterBridge.Bridge.Locality
import UnifyMatterBridge.Command.PendingResponse
import UnifyMatterBridge.NodeStateMonitor.Stability
import UnifyMatterBridge.NodeStateMonitor.Slots

/-! The bridge as a whole: nodes come and go, attributes are reported, and the Matter side reads,
writes and sends commands. Beside it stands the bridge that forgets the attributes of an id whenever
an endpoint is bridged on it anew. -/
namespace UnifyMatterBridge

inductive AttributeTranslator where
  | generated (a : ClusterAttributeAccess)
  | basicInformation

structure BridgeEnv (Table Content P : Type) where
  monitor : MonitorEnv Table Content
  dataModel : DataModel
  emberAfFindServerCluster : Table → (endpointId clusterId : ℕ) → Bool
  groups : GroupStack P

structure BridgeState (Table Content : Type) where
  monitor : MonitorState Table Content
  cache : AttributeCache
  pending : PendingTable
  now : ℤ

namespace Bridge

/-- What the process handles. The group mappings are those of the moment of a command. -/
inductive Event (P : Type) where
  | node (ev : NodeStateMonitor.Event)
  | reported (translator : AttributeTranslator) (topic : String) (message : Message)
  | response (topic : String) (message : Message)
  | read (translator : AttributeTranslator) (path : AttrPath)
  | write (a : ClusterAttributeAccess) (path : AttrPath) (decoder : AttributeValueDecoder)
  | invoke (h : ClusterCommandHandler) (hh : h ∈ ClusterCommandHandler.all) (inv : Invocation)
      (getUnifyGroup : MatterGroup → Option ℕ)
  | invokeGroup (inv : GroupInvocation) (p : P) (t : GroupTranslator)
  | tick (nanoseconds : ℕ)

inductive Observation where
  | none
  | read (result : Except CxxException ReadResult)
  | write (result : Except CxxException WriteResult)
  | command (effects : List Effect) (exception : Option CxxException)
  | group (result : GroupClusterCommandHandler.Result)
  | response (answer : Option HandleStatus) (exception : Option CxxException)

variable {Table Content P : Type}

def Event.endpoint : Event P → Option ℕ
  | .read _ path | .write _ path _ => some path.endpointId
  | .invoke _ _ inv _ => some inv.endpointId
  | .invokeGroup inv _ _ => some inv.path.endpointId
  | .node _ | .reported _ _ _ | .response _ _ | .tick _ => none

variable (env : BridgeEnv Table Content P) (s : BridgeState Table Content)

def reportedUpdated : AttributeTranslator → AttributeTranslatorInterface.ReportedUpdated
  | .generated a => a.reportedUpdated env.dataModel
  | .basicInformation => BridgedDeviceBasicInfoAttributeAccess.reportedUpdated

def read (path : AttrPath) : AttributeTranslator → Except CxxException ReadResult
  | .generated a =>
    a.read s.monitor env.dataModel (env.emberAfFindServerCluster s.monitor.ember) s.cache path
  | .basicInformation => BridgedDeviceBasicInfoAttributeAccess.read s.cache path

def invokeCommand (h : ClusterCommandHandler) (inv : Invocation)
    (getUnifyGroup : MatterGroup → Option ℕ) : InvokeResult :=
  h.invokeCommand (PendingResponse.sendEnv s.monitor getUnifyGroup) s.now s.cache s.pending inv

def invokeGroupCommand (inv : GroupInvocation) (p : P) (t : GroupTranslator) :
    GroupClusterCommandHandler.Result :=
  GroupClusterCommandHandler.invokeCommand env.groups
    (fun id => (NodeStateMonitor.bridgedEndpointOfMatter s.monitor id).map (·.address)) p t s.cache inv

/-- The listener of the basic information, among the calls of the monitor. -/
def notify (cache : AttributeCache) (record : CallRecord Table Content) : AttributeCache :=
  match record.call with
  | .listener ep update =>
    BridgedDeviceBasicInfoAttributeAccess.unifyNodeReachableStateUpdate cache ep update
  | .emberAfClearDynamicEndpoint _ | .emberAfSetDynamicEndpoint _ _ _ _ => cache

def newCalls (before after : MonitorState Table Content) : List (CallRecord Table Content) :=
  after.calls.drop before.calls.length

/-- Only a restart empties the cache and the table of pending commands. -/
def nodeStep (ev : NodeStateMonitor.Event) : BridgeState Table Content :=
  let monitor := NodeStateMonitor.step env.monitor s.monitor ev
  match ev with
  | .restart => ⟨monitor, AttributeCache.empty, fun _ => none, s.now⟩
  | .nodeAdded _ | .nodeRemoved _ | .nodeStateChanged _ =>
    { s with monitor := monitor, cache := (newCalls s.monitor monitor).foldl notify s.cache }

/-- The store of the monitor is its own: no unid is a number, so that no record of an endpoint has the key
of a group's (`DataKey.Collide`), and the commands of groups leave it alone. -/
def step : Event P → BridgeState Table Content
  | .node ev => nodeStep env s ev
  | .reported translator topic message =>
    { s with cache := (AttributeTranslatorInterface.onMqttMessageCb s.monitor
        (reportedUpdated env translator) s.cache topic message).cache }
  | .response topic message =>
    { s with pending := (onMqttResponseCb s.monitor s.now s.pending topic message).pending }
  | .invoke h _ inv getUnifyGroup =>
    let r := invokeCommand s h inv getUnifyGroup
    { s with cache := r.cache, pending := r.pending }
  | .tick nanoseconds => { s with now := s.now + nanoseconds }
  | .read _ _ | .write _ _ _ | .invokeGroup _ _ _ => s

def observe : Event P → Observation
  | .read translator path => .read (read env s path translator)
  | .write a path decoder => .write (a.write path decoder s.monitor s.cache)
  | .invoke h _ inv getUnifyGroup =>
    let r := invokeCommand s h inv getUnifyGroup
    .command r.effects r.exception
  | .invokeGroup inv p t => .group (invokeGroupCommand env s inv p t)
  | .response topic message =>
    let r := onMqttResponseCb s.monitor s.now s.pending topic message
    .response r.answer r.exception
  | .node _ | .reported _ _ _ | .tick _ => .none

/-- The state of a process that has just started. -/
def start (kvs : KeyValueStore) (now : ℤ) : BridgeState Table Content :=
  ⟨NodeStateMonitor.start env.monitor kvs, AttributeCache.empty, fun _ => none, now⟩

/-- Between the two states an endpoint has come to the id. -/
def bridgedAnew (before after : MonitorState Table Content) (id : ℕ) : Bool :=
  after.bridgedEndpoints.any fun e => e.matterEndpoint = id &&
    !before.bridgedEndpoints.any fun e' => e'.address = e.address && e'.matterEndpoint = id

/-- The event bridges an endpoint on the id. -/
def bridges (ev : Event P) (id : ℕ) : Bool :=
  match ev with
  | .node ev => bridgedAnew s.monitor (NodeStateMonitor.step env.monitor s.monitor ev) id
  | _ => false

/-- The bridge that forgets, before an endpoint is bridged on an id, what is cached for the id. -/
def stepCleared (ev : Event P) : BridgeState Table Content :=
  step env { s with cache := Partition.clear AttrPath.endpointId (bridges env s ev) s.cache } ev

/-- Nothing is cached for an id on which an endpoint is bridged, but whether it is reachable, which
is then set. -/
def UnusedIds (ev : Event P) : Prop :=
  ∀ path, bridges env s ev path.endpointId = true →
    path ≠ BridgedDeviceBasicInfoAttributeAccess.reachable path.endpointId → s.cache path = none

end Bridge

end UnifyMatterBridge
