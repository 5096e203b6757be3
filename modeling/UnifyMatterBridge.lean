import UnifyMatterBridge.Lib.Execution
import UnifyMatterBridge.Lib.Outcome
import UnifyMatterBridge.Lib.Checks
import UnifyMatterBridge.Lib.Multimap
import UnifyMatterBridge.Lib.KeyedView
import UnifyMatterBridge.Lib.Overwrite
import UnifyMatterBridge.Lib.Partition
import UnifyMatterBridge.Lib.NameTable
import UnifyMatterBridge.Lib.RunningMinimum
import UnifyMatterBridge.Lib.DecimalKey
import UnifyMatterBridge.Lib.Loop
import UnifyMatterBridge.Lib.FirstFit
import UnifyMatterBridge.Lib.BitField
import UnifyMatterBridge.Lib.StrictWeak
import UnifyMatterBridge.Lib.Topic
import UnifyMatterBridge.Lib.Mqtt
import UnifyMatterBridge.Lib.Roster
import UnifyMatterBridge.DataStorage
import UnifyMatterBridge.DataStorage.Keys
import UnifyMatterBridge.Cxx
import UnifyMatterBridge.Json
import UnifyMatterBridge.Ember
import UnifyMatterBridge.Ember.Allocation
import UnifyMatterBridge.Endpoint.Metadata
import UnifyMatterBridge.Endpoint.Names
import UnifyMatterBridge.Endpoint.Builder
import UnifyMatterBridge.Endpoint.CommandLists
import UnifyMatterBridge.Endpoint.Uniqueness
import UnifyMatterBridge.DeviceType.Conformance
import UnifyMatterBridge.DeviceType.Comparison
import UnifyMatterBridge.DeviceType.Selection
import UnifyMatterBridge.DeviceType.Ordering
import UnifyMatterBridge.NodeStateMonitor.Model
import UnifyMatterBridge.NodeStateMonitor.Invariant
import UnifyMatterBridge.NodeStateMonitor.Lookup
import UnifyMatterBridge.NodeStateMonitor.Registration
import UnifyMatterBridge.NodeStateMonitor.Stability
import UnifyMatterBridge.NodeStateMonitor.Slots
import UnifyMatterBridge.NodeStateMonitor.Placement
import UnifyMatterBridge.NodeStateMonitor.Convergence
import UnifyMatterBridge.NodeStateMonitor.Idempotence
import UnifyMatterBridge.NodeStateMonitor.Directory
import UnifyMatterBridge.NodeStateMonitor.Mirror
import UnifyMatterBridge.NodeStateMonitor.Notices
import UnifyMatterBridge.NodeStateMonitor.SupportedClusters
import UnifyMatterBridge.NodeStateMonitor.DataVersions
import UnifyMatterBridge.Endpoint.IterationOrder
import UnifyMatterBridge.Group.Translator
import UnifyMatterBridge.Group.Allocation
import UnifyMatterBridge.Group.NodeList
import UnifyMatterBridge.Attribute.Cache
import UnifyMatterBridge.Attribute.ByteStrings
import UnifyMatterBridge.Command.Interface
import UnifyMatterBridge.Command.Table
import UnifyMatterBridge.Command.Emulators
import UnifyMatterBridge.Command.Invoke
import UnifyMatterBridge.Command.Response
import UnifyMatterBridge.Command.PendingResponse
import UnifyMatterBridge.Command.Malformed
import UnifyMatterBridge.Group.Commands
import UnifyMatterBridge.Group.Membership
import UnifyMatterBridge.Attribute.DataModel
import UnifyMatterBridge.Attribute.Codec
import UnifyMatterBridge.Attribute.TranslatorInterface
import UnifyMatterBridge.Attribute.Report
import UnifyMatterBridge.Attribute.Read
import UnifyMatterBridge.Attribute.BasicInformation
import UnifyMatterBridge.Attribute.Handling
import UnifyMatterBridge.Attribute.Atomicity
import UnifyMatterBridge.Attribute.ReportedIntegers
import UnifyMatterBridge.Attribute.LastReport
import UnifyMatterBridge.Attribute.BasicReports
import UnifyMatterBridge.Attribute.Write
import UnifyMatterBridge.Attribute.NodeLabel
import UnifyMatterBridge.Attribute.Dispatch
import UnifyMatterBridge.Attribute.WrittenValues
import UnifyMatterBridge.Attribute.ExternalRead
import UnifyMatterBridge.Command.Generic
import UnifyMatterBridge.Command.Setpoint
import UnifyMatterBridge.Command.SetpointRaiseLower
import UnifyMatterBridge.Bridge.Locality
import UnifyMatterBridge.Bridge.Motion
import UnifyMatterBridge.Bridge.GroupDelivery
import UnifyMatterBridge.Bridge.System
import UnifyMatterBridge.Bridge.NonInterference
import UnifyMatterBridge.Bridge.Write
import UnifyMatterBridge.Bridge.Subscriptions
import UnifyMatterBridge.Bridge.GroupNetwork
import UnifyMatterBridge.Bridge.GroupAgreement
import UnifyMatterBridge.Bridge.Routing
import UnifyMatterBridge.Bridge.Awaited
import UnifyMatterBridge.Bridge.Values
import UnifyMatterBridge.Bridge.Reachable
import UnifyMatterBridge.Bridge.Subscribers
import UnifyMatterBridge.Bridge.RoundTrip
import UnifyMatterBridge.Bridge.Retained
