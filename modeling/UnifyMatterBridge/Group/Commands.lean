import UnifyMatterBridge.Attribute.Cache
import UnifyMatterBridge.Command.Interface

/-! The handler of the Groups cluster (`GroupClusterCommandHandler`): it sees every command
before the Matter stack does, and keeps a Unify mapping for the groups the stack knows. -/
namespace UnifyMatterBridge

/-- The commands of the Groups cluster that the handler looks at, with their arguments where they
decode. -/
inductive GroupCommand where
  | addGroup (data : Option (ℕ × Text))
  | removeGroup (data : Option ℕ)
  | removeAllGroups (data : Option Unit)
  | addGroupIfIdentifying (data : Option (ℕ × Text))
  | other

/-- A command on an endpoint, sent over a fabric to the endpoint or to a group. -/
structure GroupInvocation where
  path : CommandPath
  fabricIndex : ℕ
  groupSession : Option ℕ
  command : GroupCommand

def GroupInvocation.exchange (inv : GroupInvocation) : Exchange :=
  match inv.groupSession with
  | some groupId => .group groupId inv.fabricIndex
  | none => .unicast inv.fabricIndex

/-- The Matter stack's group table (`GroupDataProvider`), and what the stack makes of a command
once the handler has seen it. -/
structure GroupStack (P : Type) where
  hasEndpoint : P → (fabricIndex groupId endpointId : ℕ) → Bool
  getGroupInfo : P → (fabricIndex groupId : ℕ) → Bool
  iterateGroupInfo : P → (fabricIndex : ℕ) → List ℕ
  process : P → GroupInvocation → AttributeCache → P

def identifyTimePath (endpointId : ℕ) : AttrPath := ⟨endpointId, 3, 0⟩

/-- The cached `IdentifyTime`, which the stack reads as well. -/
def identifying (cache : AttributeCache) (endpointId : ℕ) : Except CxxException Bool := do
  match ← cache.getInt .uint16 (identifyTimePath endpointId) with
  | some identifyTime => return decide (identifyTime ≠ 0)
  | none => return false

namespace GroupClusterCommandHandler

variable {P : Type} (stack : GroupStack P)

def removeAllGroups (p : P) (fabricIndex : ℕ) (t : GroupTranslator) : GroupTranslator :=
  (stack.iterateGroupInfo p fabricIndex).foldl
    (fun t groupId => t.removeMatterGroup ⟨groupId, fabricIndex⟩) t

/-- The common part of `AddGroup` and `AddGroupIfIdentifying`: the translator and the group to
announce to Unify. -/
def addGroup (p : P) (t : GroupTranslator) (path : CommandPath) (fabricIndex groupId : ℕ) :
    GroupTranslator × Option ℕ :=
  if stack.hasEndpoint p fabricIndex groupId path.endpointId then (t, none)
  else
    let g : MatterGroup := ⟨groupId, fabricIndex⟩
    if stack.getGroupInfo p fabricIndex groupId then (t, t.getUnifyGroup g)
    else
      let (t, ok) := t.addMatterGroup g
      if ok then (t, t.getUnifyGroup g) else (t, none)

def addPayload (groupName : Text) (unifyGroup : ℕ) : Json :=
  (Json.null.setField "GroupName" (.string groupName)).setField "GroupId" (.integer unifyGroup)

/-- The switch of `InvokeCommand`: the translator, the command name and the payload. -/
def translate (p : P) (t : GroupTranslator) (cache : AttributeCache) (inv : GroupInvocation) :
    Except CxxException (GroupTranslator × Option (String × Json)) :=
  match inv.command with
  | .addGroup (some (groupId, groupName)) =>
    let (t, unifyGroup) := addGroup stack p t inv.path inv.fabricIndex groupId
    .ok (t, unifyGroup.map fun g => ("AddGroup", addPayload groupName g))
  | .removeGroup (some groupId) =>
    let g : MatterGroup := ⟨groupId, inv.fabricIndex⟩
    match t.getUnifyGroup g with
    | some unifyGroup =>
      .ok (t.removeMatterGroup g,
        some ("RemoveGroup", Json.null.setField "GroupId" (.integer unifyGroup)))
    | none => .ok (t, none)
  | .removeAllGroups (some ()) =>
    .ok (removeAllGroups stack p inv.fabricIndex t, some ("RemoveAllGroups", .null))
  | .addGroupIfIdentifying (some (groupId, groupName)) => do
    if ← identifying cache inv.path.endpointId then
      let (t, unifyGroup) := addGroup stack p t inv.path inv.fabricIndex groupId
      return (t, unifyGroup.map fun g => ("AddGroupIfIdentifying", addPayload groupName g))
    else return (t, none)
  | .addGroup none | .removeGroup none | .removeAllGroups none | .addGroupIfIdentifying none
  | .other => .ok (t, none)

/-- The translator after a call, what was done, and the exception that leaves it, if one does. -/
structure Result where
  translator : GroupTranslator
  effects : List Effect
  exception : Option CxxException

/-- `InvokeCommand`; the command is always passed on to the stack (`SetCommandNotHandled`). -/
def invokeCommand (bridgedEndpoint : ℕ → Option (String × ℕ)) (p : P) (t : GroupTranslator)
    (cache : AttributeCache) (inv : GroupInvocation) : Result :=
  match translate stack p t cache inv with
  | .error e => ⟨t, [], some e⟩
  | .ok (t, none) => ⟨t, [], none⟩
  | .ok (t, some (cmd, payload)) =>
    let r := sendUnifyMqttCmd ⟨bridgedEndpoint, t.getUnifyGroup⟩ 0 (fun _ => none) "Groups" inv.path
      inv.exchange 0 cmd payload ""
    ⟨t, r.effects, r.exception⟩

end GroupClusterCommandHandler

end UnifyMatterBridge
