import UnifyMatterBridge.Attribute.Report

/-! Reading attributes: the generated `Read` and the attributes that are emulated. -/
namespace UnifyMatterBridge

/-- What is encoded of an attribute; the elements of a dangling span are whatever is found there. -/
inductive Encoded where
  | null
  | value (v : CacheValue)
  | events (ids : List ℕ)
  | dangling (size : ℕ)
  deriving DecidableEq

structure ReadResult where
  error : ChipError
  encoded : Option Encoded
  deriving DecidableEq

namespace ReadResult

def encode (e : Encoded) : ReadResult := ⟨.noError, some e⟩

def number (t : IntType) (n : ℤ) : ReadResult := encode (.value (.int t n))

def failed (error : ChipError) : ReadResult := ⟨error, none⟩

end ReadResult

namespace ClusterEmulator

/-- The ids of `ClusterRevision`, `FeatureMap` and `EventList`. -/
def clusterRevisionId : ℕ := 0xFFFD
def featureMapId : ℕ := 0xFFFC
def eventListId : ℕ := 0xFFFA

/-- `zap_cluster_revisions` of the clusters that have a translator. -/
def zapClusterRevisions : List (ℕ × ℕ) :=
  [(0x0003, 4), (0x0004, 4), (0x0006, 6), (0x0008, 6), (0x0101, 7), (0x0102, 5), (0x0201, 7),
    (0x0300, 7), (0x0400, 3), (0x0402, 0), (0x0403, 3), (0x0404, 3), (0x0405, 3), (0x0406, 5)]

def readClusterRevision (path : AttrPath) : ℕ :=
  match path.clusterId with
  | 0x0402 => 4
  | clusterId => (zapClusterRevisions.lookup clusterId).getD 0

/-- `read_event_list`. For the door lock it is a span of an array that is gone when it returns. -/
def readEventList (path : AttrPath) : Encoded :=
  match path.clusterId with
  | 0x0101 => .dangling 2
  | _ => .events []

/-- The features of a color light are five of its capabilities, bit by bit. -/
def colorFeatures (capabilities : ℕ) : ℕ :=
  [4, 3, 2, 1, 0].foldl (fun result bit => result ||| ((capabilities >>> bit) % 2) <<< bit) 0

variable (emberAfFindServerCluster : (endpointId clusterId : ℕ) → Bool) (cache : AttributeCache)
  (path : AttrPath)

/-- Another attribute of the same cluster. -/
def sibling (attributeId : ℕ) : AttrPath := ⟨path.endpointId, path.clusterId, attributeId⟩

/-- `read_feature_map_revision`. A nullable attribute counts as cached even when it is not. -/
def readFeatureMap : Except CxxException ℕ :=
  match path.clusterId with
  | 0x0300 => do
    return match ← cache.getInt .uint16 (sibling path 0x400A) with
    | some capabilities => colorFeatures capabilities.toNat
    | none => 0
  | 0x0006 => .ok (if emberAfFindServerCluster path.endpointId 0x0008 then 0x01 else 0)
  | 0x0008 => .ok (if emberAfFindServerCluster path.endpointId 0x0006 then 0x01 ||| 0x02 ||| 0x04 else 0)
  | 0x0201 => do
    let cooling ← cache.getInt .int16 (sibling path 0x11)
    let heating ← cache.getInt .int16 (sibling path 0x12)
    return (if cooling.isSome then 0x02 else 0) ||| (if heating.isSome then 0x01 else 0)
  | 0x0101 => .ok (if emberAfFindServerCluster path.endpointId 0x0101 then 0x00 else 0)
  | 0x0102 => .ok (if emberAfFindServerCluster path.endpointId 0x0102 then 0x01 else 0)
  | 0x0403 => do
    let _ ← cache.getInt .int16 (sibling path 0x10)
    let _ ← cache.getInt .int16 (sibling path 0x11)
    let _ ← cache.getInt .int16 (sibling path 0x12)
    let scale ← cache.getInt .int8 (sibling path 0x14)
    return if scale.isSome then 0x01 else 0
  | _ => .ok 0

/-- An attribute of an emulator that is read from the cache, or else has a default. -/
def readOr (t : IntType) (absent : ReadResult) (present : ℤ → ReadResult) :
    Except CxxException ReadResult := do
  return match ← cache.getInt t path with
  | some n => present n
  | none => absent

/-- The `read_attribute` of the emulators. A level of 255 is not defined, and counts as null. -/
def readEmulator : Except CxxException ReadResult :=
  match path.clusterId, path.attributeId with
  | 0x0003, 0x0001 => .ok (.number .uint8 0)
  | 0x0008, 0x4000 => readOr cache path .uint8 (.encode .null) fun n =>
      if n < 255 then .number .uint8 n else .encode .null
  | 0x0008, 0x02 => readOr cache path .uint8 (.failed .invalidArgument) fun n =>
      .number .uint8 (if n < 1 then 1 else n)
  | 0x0008, 0x03 => readOr cache path .uint8 (.failed .invalidArgument) fun n =>
      .number .uint8 (if n > 254 then 254 else n)
  | 0x0008, 0x00 => readOr cache path .uint8 (.encode .null) fun n =>
      if n < 1 then .number .uint8 1 else if n < 255 then .number .uint8 n else .encode .null
  | 0x0101, 0x25 => readOr cache path .uint8 (.number .uint8 0) (.number .uint8)
  | 0x0101, 0x26 => readOr cache path .uint16 (.number .uint16 0xFFF6) (.number .uint16)
  | 0x0102, 0x0D => readOr cache path .uint8 (.number .uint8 0) (.number .uint8)
  | 0x0102, 0x0A => readOr cache path .uint8 (.number .uint8 0) (.number .uint8)
  | 0x0201, 0x11 => readOr cache path .int16 (.failed .notImplemented) (.number .int16)
  | 0x0201, 0x12 => readOr cache path .int16 (.failed .notImplemented) (.number .int16)
  | 0x0201, _ => .ok (.failed .notImplemented)
  | _, _ => .ok (.failed .invalidArgument)

/-- `emulated_attributes` of the emulator of a cluster. -/
def emulatedAttributes (clusterId : ℕ) : List ℕ :=
  match clusterId with
  | 0x0003 => [0x0001]
  | 0x0008 => [0x02, 0x00, 0x03]
  | 0x0101 => [0x25, 0x26]
  | 0x0102 => [0x0A, 0x0D]
  | 0x0201 => [0x11, 0x12]
  | _ => []

def isAttributeEmulated : Bool :=
  path.attributeId = clusterRevisionId || path.attributeId = featureMapId ||
    path.attributeId = eventListId || path.attributeId ∈ emulatedAttributes path.clusterId

def readAttribute : Except CxxException ReadResult :=
  if path.attributeId = clusterRevisionId then .ok (.number .uint32 (readClusterRevision path))
  else if path.attributeId = featureMapId then do
    return .number .uint32 (← readFeatureMap emberAfFindServerCluster cache path)
  else if path.attributeId = eventListId then .ok (.encode (readEventList path))
  else if isAttributeEmulated path then readEmulator cache path
  else .ok (.failed .invalidArgument)

end ClusterEmulator

/-- `attribute_state_cache::get` of a type, with null for a nullable attribute that is not cached. -/
def AttributeInfo.get (info : AttributeInfo) (cache : AttributeCache) (path : AttrPath) :
    Except CxxException (Option Encoded) := do
  return match ← cache.get info.type.alternative path with
  | some v => some (.value v)
  | none => if info.nullable then some .null else none

section Read

variable {Table Content : Type} (s : MonitorState Table Content) (m : DataModel)
  (emberAfFindServerCluster : (endpointId clusterId : ℕ) → Bool)

/-- The generated `Read`. It catches no `bad_variant_access`. -/
def ClusterAttributeAccess.read (a : ClusterAttributeAccess) (cache : AttributeCache)
    (path : AttrPath) : Except CxxException ReadResult :=
  if path.clusterId ≠ a.clusterId then .ok (.failed .invalidArgument)
  else if (NodeStateMonitor.bridgedEndpointOfMatter s path.endpointId).isNone then
    .ok ⟨.noError, none⟩
  else if ClusterEmulator.isAttributeEmulated path then
    ClusterEmulator.readAttribute emberAfFindServerCluster cache path
  else
    match m.attributeInfo path.clusterId path.attributeId with
    | none => .ok ⟨.noError, none⟩
    | some info => do return ⟨.noError, ← info.get cache path⟩

end Read

section Congruence

variable {c c' : AttributeCache} {path : AttrPath}

theorem AttributeCache.getInt_congr {t : IntType} (h : c path = c' path) :
    c.getInt t path = c'.getInt t path := by
  unfold getInt
  rw [h]

theorem AttributeCache.get_congr {alt : Alternative} (h : c path = c' path) :
    c.get alt path = c'.get alt path := by
  unfold get
  rw [h]

namespace ClusterEmulator

theorem readFeatureMap_congr {find : ℕ → ℕ → Bool}
    (h : ∀ attributeId, c (sibling path attributeId) = c' (sibling path attributeId)) :
    readFeatureMap find c path = readFeatureMap find c' path := by
  have hget : ∀ t attributeId, c.getInt t (sibling path attributeId) =
      c'.getInt t (sibling path attributeId) :=
    fun t attributeId => AttributeCache.getInt_congr (h attributeId)
  unfold readFeatureMap
  split
  all_goals simp only [hget]

theorem readOr_congr {t : IntType} {absent : ReadResult} {present : ℤ → ReadResult}
    (h : c path = c' path) : readOr c path t absent present = readOr c' path t absent present := by
  unfold readOr
  rw [AttributeCache.getInt_congr h]

theorem readEmulator_congr (h : c path = c' path) : readEmulator c path = readEmulator c' path := by
  unfold readEmulator
  split
  all_goals first
    | exact readOr_congr h
    | rfl

end ClusterEmulator

/-- The paths that `Read` looks at. -/
def readsFrom (path : AttrPath) : Set AttrPath :=
  {p | p = path ∨ path.attributeId = ClusterEmulator.featureMapId ∧
    p.endpointId = path.endpointId ∧ p.clusterId = path.clusterId}

variable {Table Content : Type} {s : MonitorState Table Content} {m : DataModel}
  {emberAfFindServerCluster : ℕ → ℕ → Bool} {a : ClusterAttributeAccess}

theorem read_congr (h : ∀ p ∈ readsFrom path, c p = c' p) :
    a.read s m emberAfFindServerCluster c path = a.read s m emberAfFindServerCluster c' path := by
  have hself : c path = c' path := h path (Or.inl rfl)
  unfold ClusterAttributeAccess.read
  split_ifs
  · rfl
  · rfl
  · unfold ClusterEmulator.readAttribute
    split_ifs with hrevision hfeature
    · rfl
    · rw [ClusterEmulator.readFeatureMap_congr]
      intro attributeId
      exact h _ (Or.inr ⟨hfeature, rfl, rfl⟩)
    · rfl
    · exact ClusterEmulator.readEmulator_congr hself
  · unfold AttributeInfo.get
    cases m.attributeInfo path.clusterId path.attributeId with
    | none => rfl
    | some info =>
      dsimp only
      rw [AttributeCache.get_congr hself]

end Congruence

end UnifyMatterBridge
