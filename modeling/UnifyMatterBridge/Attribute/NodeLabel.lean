import UnifyMatterBridge.Attribute.BasicInformation
import UnifyMatterBridge.Attribute.Write
import UnifyMatterBridge.Lib.Outcome

/-! Writing the label of a node (`Write` of the Bridged Device Basic Information cluster). -/
namespace UnifyMatterBridge

def AttributeValueDecoder.text (decoder : AttributeValueDecoder) : Text :=
  match decoder.value with
  | .text s => s
  | _ => .utf8 ""

namespace BridgedDeviceBasicInfoAttributeAccess

def nameTopic (unid : String) (ep : ℕ) : String :=
  unidTopic unid ep ++ "/NameAndLocation/Attributes/Name/"

/-- `Write`. There is no result where it dereferences null: it does not look whether an endpoint is
bridged. -/
def write {Table Content : Type} (s : MonitorState Table Content) (path : AttrPath)
    (decoder : AttributeValueDecoder) : Option (Except CxxException WriteResult) :=
  if path.clusterId ≠ clusterId then some (.ok (.failed .invalidArgument))
  else if path.attributeId = 0x05 then
    if decoder.error ≠ .noError then some (.ok (.failed decoder.error))
    else
      (NodeStateMonitor.bridgedEndpointOfMatter s path.endpointId).map fun e => do
        let message ← (Json.null.setField "value" (.string decoder.text)).dump
        return ⟨.noError, some (nameTopic e.unifyUnid e.unifyEndpoint ++ "Desired", message)⟩
  else some (.ok (.failed .noMessageHandler))

theorem published_of_write {Table Content : Type} {s : MonitorState Table Content} {path : AttrPath}
    {decoder : AttributeValueDecoder} {r : WriteResult} {topic : String} {message : Json}
    (hr : write s path decoder = some (.ok r)) (hm : r.published = some (topic, message)) :
    ∃ e, NodeStateMonitor.bridgedEndpointOfMatter s path.endpointId = some e ∧
      topic = nameTopic e.unifyUnid e.unifyEndpoint ++ "Desired" ∧
      message = .object [("value", .string decoder.text)] := by
  unfold write at hr
  split_ifs at hr
  · cases hr
    cases hm
  · cases hr
    cases hm
  · obtain ⟨e, hfound, hr⟩ := Option.map_eq_some_iff.mp hr
    obtain ⟨dumped, hdump, hr⟩ := Outcome.bind_eq_ok hr
    cases hr
    cases hm
    unfold Json.dump at hdump
    split_ifs at hdump
    cases hdump
    exact ⟨e, hfound, rfl, rfl⟩
  · cases hr
    cases hm

end BridgedDeviceBasicInfoAttributeAccess

end UnifyMatterBridge
