import UnifyMatterBridge.Attribute.BasicReports
import UnifyMatterBridge.Attribute.NodeLabel
import UnifyMatterBridge.Attribute.WrittenValues
import UnifyMatterBridge.Bridge.Awaited
import UnifyMatterBridge.Bridge.Subscribers

/-! What Matter writes, what is published of it, and what is read when Unify reports it: the reports come
to the translator that has sent the write, which reads back what was written. -/
namespace UnifyMatterBridge.Bridge

open NodeStateMonitor
open BridgedDeviceBasicInfoAttributeAccess (fromCString nameTopic nodeLabel)

section Definitions

variable {Table Content P σ : Type} (client : Mqtt.Client σ Translator)
  (env : BridgeEnv Table Content P)

end Definitions

section Later

variable {Table Content P : Type} {env : BridgeEnv Table Content P} {s : BridgeState Table Content}
  {path : AttrPath}

end Later

section Reports

variable {Table Content P σ : Type} {client : Mqtt.Client σ Translator}
  {env : BridgeEnv Table Content P} {slots : EmberSlots env.monitor.ember}
  {l : Connected Table Content σ} {a : ClusterAttributeAccess}

end Reports

end UnifyMatterBridge.Bridge
