import Mathlib.Data.Nat.Notation

/-! The description of a dynamic endpoint's clusters that the stack works with. -/
namespace UnifyMatterBridge

/-- `chip::kInvalidCommandId`, which ends a list of commands. -/
def kInvalidCommandId : ℕ := 0xFFFFFFFF

/-- The types of attributes; `code` is one from the generated table of types. -/
inductive ZclType where
  | array
  | charString
  | boolean
  | bitmap8
  | bitmap16
  | bitmap32
  | int16u
  | enum8
  | eventId
  | code (n : ℕ)
  deriving DecidableEq, Repr

structure EmberAfAttributeMetadata where
  defaultValue : ℕ
  attributeId : ℕ
  size : ℕ
  attributeType : ZclType
  /-- The bits of the mask: `EXTERNAL_STORAGE` and `WRITABLE`. -/
  externalStorage : Bool
  writable : Bool
  deriving DecidableEq, Repr

/-- A cluster with the arrays that its pointers refer to. -/
structure EmberAfCluster where
  clusterId : ℕ
  attributes : List EmberAfAttributeMetadata
  attributeCount : ℕ
  acceptedCommandList : List ℕ
  generatedCommandList : List ℕ
  deriving DecidableEq, Repr

end UnifyMatterBridge
