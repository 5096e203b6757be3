import UnifyMatterBridge.Cxx
import UnifyMatterBridge.Endpoint.Metadata
import UnifyMatterBridge.Lib.Checks
import Mathlib.Data.Int.Notation
import Mathlib.Data.List.TakeWhile

/-! Conformance of built clusters to a device type (`matter_clusters_conform_to_device_type`): the
searches run over 8-bit indices, and over as many commands as a pointer has bytes. -/
namespace UnifyMatterBridge

structure DeviceClusterData where
  clusterName : String
  isMandatory : Bool
  requiredCommands : List String
  requiredAttributes : List String
  deriving DecidableEq, Repr

/-- The lookups of `device_translator` in the generated tables of Matter names. -/
structure DeviceTranslator where
  specCompliant : Bool
  getMatterClusterId : String → Option ℕ
  getMatterAttributeId : (clusterName attributeName : String) → Option ℕ
  getMatterCommandId : (clusterName commandName : String) → Option ℕ

namespace DeviceType

/-- `custom_cluster_mandatory_command_attribute_custom_map`. -/
def additionalRequiredAttributes (clusterName : String) : List String :=
  if clusterName = "WindowCovering" then
    ["CurrentPositionLiftPercentage", "CurrentPositionLift", "InstalledOpenLimitLift",
      "InstalledClosedLimitLift"]
  else []

/-- The conversion to `int8_t`. -/
def toInt8 (n : ℕ) : ℤ := if n % 256 < 128 then (n % 256 : ℕ) else (n % 256 : ℕ) - 256

def checkIfClusterInArrayOfClusters (id : ℕ) (clusters : List EmberAfCluster) : ℤ :=
  match clusters.findIdx? (·.clusterId = id) with
  | some index => toInt8 index
  | none => -1

def clusterAt (clusters : List EmberAfCluster) (index : ℤ) : Except Fault EmberAfCluster :=
  if 0 ≤ index then
    match clusters[index.toNat]? with
    | some c => .ok c
    | none => .error .outOfRange
  else .error .outOfRange

/-- The loop over the attributes from the index `i`, for as many rounds as an 8-bit index has
values: after them it is back where it was. -/
def scanAttributes (attributes : List EmberAfAttributeMetadata) (attributeCount id : ℕ) :
    (rounds i : ℕ) → Except Fault Bool
  | 0, _ => .error .diverges
  | rounds + 1, i =>
    if i < attributeCount then
      match attributes[i]? with
      | none => .error .outOfBounds
      | some a =>
        if a.attributeId = id then .ok true
        else scanAttributes attributes attributeCount id rounds ((i + 1) % 256)
    else .ok false

/-- The loop of `compare_attributes` and `compare_additional_required_attributes`. -/
def compareAttributes (tr : DeviceTranslator) (attributes : List EmberAfAttributeMetadata)
    (attributeCount : ℕ) (clusterName : String) (required : List String) : Except Fault Bool :=
  required.allM fun name =>
    match tr.getMatterAttributeId clusterName name with
    | none => .ok false
    | some id => scanAttributes attributes attributeCount id 256 0

/-- The loop over the commands, up to the number that `sizeof` gives for the pointer. The end of the
list is taken to be 255. -/
def scanCommands (id : ℕ) : (commands : List ℕ) → (count : ℕ) → Except Fault Bool
  | _, 0 => .ok false
  | [], _ + 1 => .error .outOfBounds
  | command :: commands, count + 1 =>
    if command = 255 then .ok false
    else if command = id then .ok true
    else scanCommands id commands count

variable (pointerSize : ℕ) (tr : DeviceTranslator)

def compareCommands (commands : List ℕ) (clusterName : String) (required : List String) :
    Except Fault Bool :=
  required.allM fun name =>
    match tr.getMatterCommandId clusterName name with
    | none => .ok false
    | some id => scanCommands id commands pointerSize

def clusterConforms (clusters : List EmberAfCluster) (d : DeviceClusterData) : Except Fault Bool :=
  if !d.isMandatory then .ok true
  else
    match tr.getMatterClusterId d.clusterName with
    | none => .ok false
    | some id =>
      if !tr.specCompliant then .ok true
      else
        let index := checkIfClusterInArrayOfClusters id clusters
        if index = -1 then .ok false
        else do
          let c ← clusterAt clusters index
          if !(← compareAttributes tr c.attributes c.attributeCount d.clusterName
              d.requiredAttributes) then return false
          if !(← compareCommands pointerSize tr c.acceptedCommandList d.clusterName
              d.requiredCommands) then return false
          compareAttributes tr c.attributes c.attributeCount d.clusterName
            (additionalRequiredAttributes d.clusterName)

def matterClustersConformToDeviceType (clusters : List EmberAfCluster)
    (deviceType : List DeviceClusterData) : Except Fault Bool :=
  deviceType.allM (clusterConforms pointerSize tr clusters)

inductive Requirement where
  | cluster (d : DeviceClusterData)
  | attribute (d : DeviceClusterData) (name : String)
  | command (d : DeviceClusterData) (name : String)

/-- The requirements of a cluster of the device type, in the order in which they are checked. -/
def requirements (d : DeviceClusterData) : List Requirement :=
  if d.isMandatory then
    .cluster d :: (d.requiredAttributes.map (.attribute d) ++
      (d.requiredCommands.map (.command d) ++
        (additionalRequiredAttributes d.clusterName).map (.attribute d)))
  else []

/-- The cluster that is looked at for a cluster of the device type: the one at the 8-bit index. -/
def lookedAt (clusters : List EmberAfCluster) (d : DeviceClusterData) : Option EmberAfCluster := do
  let id ← tr.getMatterClusterId d.clusterName
  let index ← clusters.findIdx? (·.clusterId = id)
  if index % 256 < 128 then clusters[index % 256]? else none

/-- The requirement is met as far as the searches look. -/
def Seen (clusters : List EmberAfCluster) : Requirement → Prop
  | .cluster d => ∃ c, lookedAt tr clusters d = some c
  | .attribute d name => ∃ c id, lookedAt tr clusters d = some c ∧
      tr.getMatterAttributeId d.clusterName name = some id ∧
      id ∈ (c.attributes.take 256).map (·.attributeId)
  | .command d name => ∃ c id, lookedAt tr clusters d = some c ∧
      tr.getMatterCommandId d.clusterName name = some id ∧
      id ∈ (c.acceptedCommandList.take pointerSize).takeWhile (· ≠ 255)

/-- The searches end without having seen the requirement met. -/
def Refuted (clusters : List EmberAfCluster) : Requirement → Prop
  | .cluster d => ∀ id, tr.getMatterClusterId d.clusterName = some id →
      ∀ index, clusters.findIdx? (·.clusterId = id) = some index → index % 256 = 255
  | .attribute d name => ∃ c, lookedAt tr clusters d = some c ∧
      ∀ id, tr.getMatterAttributeId d.clusterName name = some id →
        id ∉ c.attributes.map (·.attributeId) ∧ c.attributes.length < 256
  | .command d name => ∃ c, lookedAt tr clusters d = some c ∧
      ∀ id, tr.getMatterCommandId d.clusterName name = some id →
        id ∉ (c.acceptedCommandList.take pointerSize).takeWhile (· ≠ 255) ∧
          (255 ∈ c.acceptedCommandList.take pointerSize ∨
            pointerSize ≤ c.acceptedCommandList.length)

/-- Each mandatory cluster resolves and is in the list, with all that is required of it. -/
def Conforms (clusters : List EmberAfCluster) (deviceType : List DeviceClusterData) : Prop :=
  ∀ d ∈ deviceType, d.isMandatory = true →
    ∃ id, tr.getMatterClusterId d.clusterName = some id ∧ ∃ c ∈ clusters, c.clusterId = id ∧
      (∀ name ∈ d.requiredAttributes ++ additionalRequiredAttributes d.clusterName,
        ∃ a, tr.getMatterAttributeId d.clusterName name = some a ∧
          a ∈ c.attributes.map (·.attributeId)) ∧
      ∀ name ∈ d.requiredCommands, ∃ command,
        tr.getMatterCommandId d.clusterName name = some command ∧
          command ∈ c.acceptedCommandList

/-- The code answers, and answers right. -/
def ConformanceExact (clusters : List EmberAfCluster) (deviceType : List DeviceClusterData) :
    Prop :=
  ∃ answer, matterClustersConformToDeviceType pointerSize tr clusters deviceType = .ok answer ∧
    (answer = true ↔ Conforms tr clusters deviceType)

/-- Condition: conforming clusters are seen to meet every requirement, and for others the first
requirement that is not seen to be met is one whose search ends. -/
def WithinReach (clusters : List EmberAfCluster) (deviceType : List DeviceClusterData) : Prop :=
  Conforms tr clusters deviceType ∧
      (∀ r ∈ deviceType.flatMap requirements, Seen pointerSize tr clusters r) ∨
    ¬ Conforms tr clusters deviceType ∧
      ∃ before r after, deviceType.flatMap requirements = before ++ r :: after ∧
        (∀ r' ∈ before, Seen pointerSize tr clusters r') ∧ Refuted pointerSize tr clusters r

section Scan

variable {attributes : List EmberAfAttributeMetadata} {attributeCount id : ℕ}

/-- A loop that does not end in some rounds passes its first index. -/
theorem scanAttributes_succ_diverges {rounds i : ℕ}
    (h : scanAttributes attributes attributeCount id (rounds + 1) i = .error .diverges) :
    (∀ n, scanAttributes attributes attributeCount id (n + 1) i =
        scanAttributes attributes attributeCount id n ((i + 1) % 256)) ∧
      scanAttributes attributes attributeCount id rounds ((i + 1) % 256) = .error .diverges := by
  rw [scanAttributes] at h
  split_ifs at h with hlt
  cases hat : attributes[i]? with
  | none =>
    rw [hat] at h
    cases h
  | some a =>
    rw [hat] at h
    dsimp only at h
    split_ifs at h with hid
    refine ⟨fun n => ?_, h⟩
    rw [scanAttributes, if_pos hlt, hat]
    dsimp only
    rw [if_neg hid]

/-- A loop that is back at its first index never ends. -/
theorem scanAttributes_diverges
    (h : scanAttributes attributes attributeCount id 256 0 = .error .diverges) (rounds : ℕ) :
    scanAttributes attributes attributeCount id rounds 0 = .error .diverges := by
  have hpassed : ∀ i < 256, scanAttributes attributes attributeCount id (256 - i) i =
      .error .diverges := by
    intro i hi
    induction i with
    | zero => exact h
    | succ i ih =>
      have hround : 256 - i = 256 - (i + 1) + 1 := by omega
      have hprev := ih (by omega)
      rw [hround] at hprev
      have hmod : (i + 1) % 256 = i + 1 := Nat.mod_eq_of_lt hi
      have hnext := (scanAttributes_succ_diverges hprev).2
      rw [hmod] at hnext
      exact hnext
  have hall : ∀ i < 256, scanAttributes attributes attributeCount id rounds i =
      .error .diverges := by
    induction rounds with
    | zero => exact fun _ _ => rfl
    | succ rounds ih =>
      intro i hi
      have hround : 256 - i = 256 - i - 1 + 1 := by omega
      have hstep := (scanAttributes_succ_diverges (hround ▸ hpassed i hi)).1 rounds
      rw [hstep]
      exact ih _ (Nat.mod_lt _ (by omega))
  exact hall 0 (by omega)

/-- The loop over as many attributes as there are sees the first 256 of them, and ends only if one
of these matches or there are fewer. -/
theorem scanAttributes_eq (h : attributeCount = attributes.length) {rounds i : ℕ}
    (hi : i + rounds = 256) (hle : i ≤ attributeCount) :
    scanAttributes attributes attributeCount id rounds i =
      if id ∈ ((attributes.drop i).take rounds).map (·.attributeId) then .ok true
      else if attributeCount < 256 then .ok false else .error .diverges := by
  induction rounds generalizing i with
  | zero =>
    have hcount : ¬ attributeCount < 256 := by omega
    simp [scanAttributes, hcount]
  | succ rounds ih =>
    unfold scanAttributes
    by_cases hlt : i < attributeCount
    · have hlength : i < attributes.length := h ▸ hlt
      have hnext : scanAttributes attributes attributeCount id rounds ((i + 1) % 256) =
          scanAttributes attributes attributeCount id rounds (i + 1) := by
        cases rounds with
        | zero => rfl
        | succ rounds =>
          have hmod : (i + 1) % 256 = i + 1 := Nat.mod_eq_of_lt (by omega)
          rw [hmod]
      rw [if_pos hlt, List.getElem?_eq_getElem hlength, List.drop_eq_getElem_cons hlength,
        List.take_succ_cons, List.map_cons, hnext, ih (by omega) (by omega)]
      dsimp only
      by_cases hid : attributes[i].attributeId = id
      · rw [if_pos hid, if_pos (List.mem_cons.mpr (Or.inl hid.symm))]
      · have hmem : id ∈ attributes[i].attributeId ::
              ((attributes.drop (i + 1)).take rounds).map (·.attributeId) ↔
            id ∈ ((attributes.drop (i + 1)).take rounds).map (·.attributeId) := by
          rw [List.mem_cons, or_iff_right (fun heq => hid heq.symm)]
        rw [if_neg hid]
        simp only [hmem]
    · have hdrop : attributes.drop i = [] := List.drop_eq_nil_of_le (by omega)
      have hcount : attributeCount < 256 := by omega
      simp [hlt, hdrop, hcount]

/-- The loop over the commands sees those before the end of the list and before id 255, and reads
past the end if there is no id 255. -/
theorem scanCommands_eq {commands : List ℕ} {count : ℕ} :
    scanCommands id commands count =
      if id ∈ (commands.take count).takeWhile (· ≠ 255) then .ok true
      else if 255 ∈ commands.take count ∨ count ≤ commands.length then .ok false
      else .error .outOfBounds := by
  induction commands generalizing count with
  | nil =>
    cases count with
    | zero => simp [scanCommands]
    | succ count => simp [scanCommands]
  | cons command commands ih =>
    cases count with
    | zero => simp [scanCommands]
    | succ count =>
      unfold scanCommands
      by_cases hend : command = 255
      · simp [hend]
      · by_cases hid : command = id
        · subst hid
          simp [hend]
        · have hne : id ≠ command := fun heq => hid heq.symm
          have hne' : (255 : ℕ) ≠ command := fun heq => hend heq.symm
          rw [if_neg hend, if_neg hid, ih]
          simp [hend, hne, hne']

end Scan

section Checks

variable {pointerSize : ℕ} {tr : DeviceTranslator} {clusters : List EmberAfCluster}

def answer (pointerSize : ℕ) (tr : DeviceTranslator) (clusters : List EmberAfCluster) :
    Requirement → Except Fault Bool
  | .cluster d =>
    match tr.getMatterClusterId d.clusterName with
    | none => .ok false
    | some id =>
      if checkIfClusterInArrayOfClusters id clusters = -1 then .ok false
      else (clusterAt clusters (checkIfClusterInArrayOfClusters id clusters)).map fun _ => true
  | .attribute d name =>
    match lookedAt tr clusters d with
    | none => .error .outOfRange
    | some c => compareAttributes tr c.attributes c.attributeCount d.clusterName [name]
  | .command d name =>
    match lookedAt tr clusters d with
    | none => .error .outOfRange
    | some c => compareCommands pointerSize tr c.acceptedCommandList d.clusterName [name]

theorem toInt8_eq_neg_one {n : ℕ} : toInt8 n = -1 ↔ n % 256 = 255 := by
  unfold toInt8
  by_cases h : n % 256 < 128
  · rw [if_pos h]
    omega
  · rw [if_neg h]
    omega

theorem clusterAt_toInt8 {index : ℕ} :
    clusterAt clusters (toInt8 index) =
      match (if index % 256 < 128 then clusters[index % 256]? else none) with
      | some c => .ok c
      | none => .error .outOfRange := by
  unfold clusterAt toInt8
  by_cases h : index % 256 < 128
  · rw [if_pos h, if_pos h, if_pos (by omega)]
    rfl
  · rw [if_neg h, if_neg h, if_neg (by omega)]

theorem compareAttributes_eq {attributes : List EmberAfAttributeMetadata} {count : ℕ}
    {clusterName : String} {required : List String} :
    compareAttributes tr attributes count clusterName required =
      required.allM fun name => compareAttributes tr attributes count clusterName [name] := by
  simp only [compareAttributes, Checks.allM_singleton]

theorem compareCommands_eq {commands : List ℕ} {clusterName : String} {required : List String} :
    compareCommands pointerSize tr commands clusterName required =
      required.allM fun name => compareCommands pointerSize tr commands clusterName [name] := by
  simp only [compareCommands, Checks.allM_singleton]

theorem find_cases {d : DeviceClusterData} {id : ℕ}
    (hresolve : tr.getMatterClusterId d.clusterName = some id) :
    (checkIfClusterInArrayOfClusters id clusters = -1 ∧ lookedAt tr clusters d = none ∧
        ∀ index, clusters.findIdx? (·.clusterId = id) = some index → index % 256 = 255) ∨
      checkIfClusterInArrayOfClusters id clusters ≠ -1 ∧
        (∃ index, clusters.findIdx? (·.clusterId = id) = some index ∧ index % 256 ≠ 255) ∧
        clusterAt clusters (checkIfClusterInArrayOfClusters id clusters) =
          match lookedAt tr clusters d with
          | some c => .ok c
          | none => .error .outOfRange := by
  unfold checkIfClusterInArrayOfClusters lookedAt
  rw [hresolve, Option.bind_eq_bind, Option.bind_some]
  cases hindex : clusters.findIdx? (·.clusterId = id) with
  | none => exact Or.inl ⟨rfl, rfl, by simp⟩
  | some index =>
    dsimp only
    rw [Option.bind_some]
    by_cases hlast : index % 256 = 255
    · left
      refine ⟨toInt8_eq_neg_one.mpr hlast, if_neg (by omega), fun index' h => ?_⟩
      rw [← Option.some.inj h]
      exact hlast
    · right
      exact ⟨fun h => hlast (toInt8_eq_neg_one.mp h), ⟨index, rfl, hlast⟩, clusterAt_toInt8⟩

theorem clusterConforms_eq (hstrict : tr.specCompliant = true) (d : DeviceClusterData) :
    clusterConforms pointerSize tr clusters d =
      (requirements d).allM (answer pointerSize tr clusters) := by
  unfold clusterConforms requirements
  cases hmandatory : d.isMandatory with
  | false => rfl
  | true =>
    simp only [Bool.not_true, Bool.false_eq_true, if_false, if_true, hstrict]
    rw [List.allM_cons, Checks.allM_append, Checks.allM_append, Checks.allM_map, Checks.allM_map,
      Checks.allM_map]
    simp only [answer]
    cases hresolve : tr.getMatterClusterId d.clusterName with
    | none => rfl
    | some id =>
      dsimp only
      rcases @find_cases tr clusters d id hresolve with ⟨habsent, -, -⟩ | ⟨hpresent, -, hat⟩
      · rw [if_pos habsent, if_pos habsent]
        rfl
      · rw [if_neg hpresent, if_neg hpresent, hat]
        cases hlooked : lookedAt tr clusters d with
        | none => rfl
        | some c =>
          dsimp only
          rw [← compareAttributes_eq, ← compareAttributes_eq, ← compareCommands_eq]
          simp only [bind, Except.bind, Except.map]
          cases compareAttributes tr c.attributes c.attributeCount d.clusterName
              d.requiredAttributes with
          | error e => rfl
          | ok attributes =>
            cases attributes with
            | false => rfl
            | true =>
              dsimp only
              cases compareCommands pointerSize tr c.acceptedCommandList d.clusterName
                  d.requiredCommands with
              | error e => rfl
              | ok commands => cases commands <;> rfl

theorem mem_of_lookedAt {d : DeviceClusterData} {c : EmberAfCluster}
    (h : lookedAt tr clusters d = some c) : c ∈ clusters := by
  unfold lookedAt at h
  obtain ⟨id, -, h⟩ := Option.bind_eq_some_iff.mp h
  obtain ⟨index, -, h⟩ := Option.bind_eq_some_iff.mp h
  split_ifs at h
  exact List.mem_of_getElem? h

theorem compareAttributes_singleton {attributes : List EmberAfAttributeMetadata} {count : ℕ}
    (h : count = attributes.length) {clusterName name : String} :
    (compareAttributes tr attributes count clusterName [name] = .ok true ↔
      ∃ id, tr.getMatterAttributeId clusterName name = some id ∧
        id ∈ (attributes.take 256).map (·.attributeId)) ∧
    (compareAttributes tr attributes count clusterName [name] = .ok false ↔
      ∀ id, tr.getMatterAttributeId clusterName name = some id →
        id ∉ attributes.map (·.attributeId) ∧ attributes.length < 256) := by
  rw [compareAttributes, Checks.allM_singleton]
  cases tr.getMatterAttributeId clusterName name with
  | none => simp
  | some id =>
    have hscan := @scanAttributes_eq attributes count id h 256 0 rfl (Nat.zero_le _)
    rw [List.drop_zero] at hscan
    dsimp only
    rw [hscan]
    simp only [Option.some.injEq, exists_eq_left', forall_eq']
    by_cases hmem : id ∈ (attributes.take 256).map (·.attributeId)
    · have hall : id ∈ attributes.map (·.attributeId) :=
        ((List.take_sublist 256 attributes).map _).subset hmem
      rw [if_pos hmem]
      exact ⟨iff_of_true rfl hmem, iff_of_false (by simp) fun h => h.1 hall⟩
    · rw [if_neg hmem]
      by_cases hcount : count < 256
      · have hlength : attributes.length < 256 := h ▸ hcount
        have hall : id ∉ attributes.map (·.attributeId) := by
          rw [← List.take_of_length_le (Nat.le_of_lt hlength)]
          exact hmem
        rw [if_pos hcount]
        exact ⟨iff_of_false (by simp) hmem, iff_of_true rfl ⟨hall, hlength⟩⟩
      · have hlength : ¬ attributes.length < 256 := h ▸ hcount
        rw [if_neg hcount]
        exact ⟨iff_of_false (by simp) hmem, iff_of_false (by simp) fun h => hlength h.2⟩

theorem compareCommands_singleton {commands : List ℕ} {clusterName name : String} :
    (compareCommands pointerSize tr commands clusterName [name] = .ok true ↔
      ∃ id, tr.getMatterCommandId clusterName name = some id ∧
        id ∈ (commands.take pointerSize).takeWhile (· ≠ 255)) ∧
    (compareCommands pointerSize tr commands clusterName [name] = .ok false ↔
      ∀ id, tr.getMatterCommandId clusterName name = some id →
        id ∉ (commands.take pointerSize).takeWhile (· ≠ 255) ∧
          (255 ∈ commands.take pointerSize ∨ pointerSize ≤ commands.length)) := by
  rw [compareCommands, Checks.allM_singleton]
  cases tr.getMatterCommandId clusterName name with
  | none => simp
  | some id =>
    dsimp only
    rw [scanCommands_eq]
    simp only [Option.some.injEq, exists_eq_left', forall_eq']
    split_ifs with hmem hend
    · exact ⟨iff_of_true rfl hmem, iff_of_false (by simp) fun h => h.1 hmem⟩
    · exact ⟨iff_of_false (by simp) hmem, iff_of_true rfl ⟨hmem, hend⟩⟩
    · exact ⟨iff_of_false (by simp) hmem, iff_of_false (by simp) fun h => hend h.2⟩

/-- The answer for a cluster: it is looked up, unless its 8-bit index is the one for none. -/
theorem answer_cluster_iff (d : DeviceClusterData) :
    (answer pointerSize tr clusters (.cluster d) = .ok true ↔
        Seen pointerSize tr clusters (.cluster d)) ∧
      (answer pointerSize tr clusters (.cluster d) = .ok false ↔
        Refuted pointerSize tr clusters (.cluster d)) := by
  cases hresolve : tr.getMatterClusterId d.clusterName with
  | none =>
    have hlooked : lookedAt tr clusters d = none := by
      unfold lookedAt
      rw [hresolve]
      rfl
    simp [answer, Seen, Refuted, hresolve, hlooked]
  | some id =>
    simp only [answer, Seen, Refuted, hresolve]
    rcases @find_cases tr clusters d id hresolve with
      ⟨habsent, hlooked, hlast⟩ | ⟨hpresent, ⟨index, hindex, hne⟩, hat⟩
    · rw [if_pos habsent, hlooked]
      constructor
      · simp
      · refine iff_of_true rfl fun id' h => ?_
        rw [← Option.some.inj h]
        exact hlast
    · have hnot : ¬ ∀ id', some id = some id' → ∀ index,
          clusters.findIdx? (·.clusterId = id') = some index → index % 256 = 255 :=
        fun h => hne (h id rfl index hindex)
      rw [if_neg hpresent, hat]
      cases lookedAt tr clusters d with
      | none =>
        constructor
        · exact iff_of_false (by simp [Except.map]) (by simp)
        · exact iff_of_false (by simp [Except.map]) hnot
      | some c =>
        constructor
        · exact iff_of_true rfl ⟨c, rfl⟩
        · exact iff_of_false (by simp [Except.map]) hnot

/-- What the code answers is what the searches see. -/
theorem answer_iff (hcount : ∀ c ∈ clusters, c.attributeCount = c.attributes.length)
    (r : Requirement) :
    (answer pointerSize tr clusters r = .ok true ↔ Seen pointerSize tr clusters r) ∧
      (answer pointerSize tr clusters r = .ok false ↔ Refuted pointerSize tr clusters r) := by
  cases r with
  | cluster d => exact answer_cluster_iff d
  | «attribute» d name =>
    cases hlooked : lookedAt tr clusters d with
    | none => simp [answer, Seen, Refuted, hlooked]
    | some c =>
      have hsingle := @compareAttributes_singleton tr c.attributes c.attributeCount
        (hcount c (mem_of_lookedAt hlooked)) d.clusterName name
      simp only [answer, Seen, Refuted, hlooked, Option.some.injEq, exists_and_left,
        exists_eq_left']
      exact hsingle
  | command d name =>
    cases hlooked : lookedAt tr clusters d with
    | none => simp [answer, Seen, Refuted, hlooked]
    | some c =>
      have hsingle := @compareCommands_singleton pointerSize tr c.acceptedCommandList
        d.clusterName name
      simp only [answer, Seen, Refuted, hlooked, Option.some.injEq, exists_and_left,
        exists_eq_left']
      exact hsingle

end Checks

theorem conform_eq {pointerSize : ℕ} {tr : DeviceTranslator} (hstrict : tr.specCompliant = true)
    (clusters : List EmberAfCluster) (deviceType : List DeviceClusterData) :
    matterClustersConformToDeviceType pointerSize tr clusters deviceType =
      (deviceType.flatMap requirements).allM (answer pointerSize tr clusters) := by
  rw [Checks.allM_flatMap]
  exact Checks.allM_congr fun d _ => clusterConforms_eq hstrict d

/-- Conformance is exact if and only if the searches reach far enough, for clusters whose attribute
counts are the lengths of their lists. -/
theorem conformanceExact_iff (pointerSize : ℕ) (tr : DeviceTranslator)
    (hstrict : tr.specCompliant = true) (clusters : List EmberAfCluster)
    (hcount : ∀ c ∈ clusters, c.attributeCount = c.attributes.length)
    (deviceType : List DeviceClusterData) :
    ConformanceExact pointerSize tr clusters deviceType ↔
      WithinReach pointerSize tr clusters deviceType := by
  have hyes : matterClustersConformToDeviceType pointerSize tr clusters deviceType = .ok true ↔
      ∀ r ∈ deviceType.flatMap requirements, Seen pointerSize tr clusters r := by
    rw [conform_eq hstrict, Checks.allM_eq_ok_true]
    exact forall₂_congr fun r _ => (answer_iff hcount r).1
  have hno : matterClustersConformToDeviceType pointerSize tr clusters deviceType = .ok false ↔
      ∃ before r after, deviceType.flatMap requirements = before ++ r :: after ∧
        (∀ r' ∈ before, Seen pointerSize tr clusters r') ∧ Refuted pointerSize tr clusters r := by
    rw [conform_eq hstrict, Checks.allM_eq_ok_false]
    simp only [fun r => (@answer_iff pointerSize tr clusters hcount r).1,
      fun r => (@answer_iff pointerSize tr clusters hcount r).2]
  unfold ConformanceExact WithinReach
  rw [← hyes, ← hno]
  exact Checks.exists_answer_iff

section Example

def levelTranslator : DeviceTranslator where
  specCompliant := true
  getMatterClusterId name := if name = "LevelControl" then some 0x0008 else none
  getMatterAttributeId _ name :=
    [("CurrentLevel", 0x00), ("RemainingTime", 0x01), ("MinLevel", 0x02), ("Options", 0x0F),
      ("OnLevel", 0x11), ("StartUpCurrentLevel", 0x4000)].lookup name
  getMatterCommandId _ name :=
    [("MoveToLevel", 0), ("Move", 1), ("Step", 2), ("Stop", 3), ("MoveToLevelWithOnOff", 4),
      ("MoveWithOnOff", 5), ("StepWithOnOff", 6), ("StopWithOnOff", 7),
      ("MoveToClosestFrequency", 8)].lookup name

def levelControl : DeviceClusterData where
  clusterName := "LevelControl"
  isMandatory := true
  requiredCommands := ["MoveToLevel", "Move", "Step", "Stop", "MoveToLevelWithOnOff",
    "MoveWithOnOff", "StepWithOnOff", "StopWithOnOff"]
  requiredAttributes := ["CurrentLevel", "Options", "RemainingTime", "MinLevel", "OnLevel",
    "StartUpCurrentLevel"]

def levelCluster (attributeIds commands : List ℕ) : EmberAfCluster where
  clusterId := 0x0008
  attributes := attributeIds.map fun id => ⟨0, id, 1, .code 0x20, true, true⟩
  attributeCount := attributeIds.length
  acceptedCommandList := commands ++ [kInvalidCommandId]
  generatedCommandList := [kInvalidCommandId]

private theorem conforms_levelCluster {attributeIds commands : List ℕ}
    (hattributes : ∀ name ∈ levelControl.requiredAttributes, ∃ a ∈ attributeIds,
      levelTranslator.getMatterAttributeId "LevelControl" name = some a)
    (hcommands : ∀ name ∈ levelControl.requiredCommands, ∃ c ∈ commands,
      levelTranslator.getMatterCommandId "LevelControl" name = some c) :
    Conforms levelTranslator [levelCluster attributeIds commands] [levelControl] := by
  intro d hd _
  rw [List.mem_singleton.mp hd]
  refine ⟨0x0008, rfl, _, List.mem_singleton_self _, rfl, fun name hname => ?_, fun name hname => ?_⟩
  · rw [show levelControl.requiredAttributes ++ additionalRequiredAttributes
      levelControl.clusterName = levelControl.requiredAttributes from rfl] at hname
    obtain ⟨a, ha, hresolve⟩ := hattributes name hname
    refine ⟨a, hresolve, ?_⟩
    simpa [levelCluster] using ha
  · obtain ⟨c, hc, hresolve⟩ := hcommands name hname
    exact ⟨c, hresolve, List.mem_append_left _ hc⟩

/-- With exactly the eight commands that are required all of them are seen. -/
theorem conformanceExact_iff_of_eight_commands :
    ConformanceExact 8 levelTranslator
        [levelCluster [0x00, 0x01, 0x02, 0x0F, 0x11, 0x4000] [0, 1, 2, 3, 4, 5, 6, 7]]
        [levelControl] ↔
      WithinReach 8 levelTranslator
        [levelCluster [0x00, 0x01, 0x02, 0x0F, 0x11, 0x4000] [0, 1, 2, 3, 4, 5, 6, 7]]
        [levelControl] := by
  apply conformanceExact_iff
  · rfl
  · intro c hc
    rw [List.mem_singleton.mp hc]
    rfl

/-- A device with all that is required and one more command does not conform: the last command is
not looked at. -/
theorem not_conformanceExact_of_nine_commands :
    ¬ ∀ (tr : DeviceTranslator) (clusters : List EmberAfCluster)
        (deviceType : List DeviceClusterData), tr.specCompliant = true →
      (clusters.map (·.clusterId)).Nodup →
      (∀ c ∈ clusters, c.attributeCount = c.attributes.length ∧ c.attributeCount < 65536 ∧
        ∃ commands, kInvalidCommandId ∉ commands ∧
          c.acceptedCommandList = commands ++ [kInvalidCommandId]) →
      ConformanceExact 8 tr clusters deviceType := by
  intro h
  obtain ⟨answer, hanswer, hiff⟩ := h levelTranslator
    [levelCluster [0x00, 0x01, 0x02, 0x0F, 0x11, 0x4000] [1, 8, 0, 4, 5, 2, 6, 3, 7]]
    [levelControl] rfl (by decide) (fun c hc => by
      rw [List.mem_singleton.mp hc]
      exact ⟨rfl, by decide, [1, 8, 0, 4, 5, 2, 6, 3, 7], by decide, rfl⟩)
  have hno : matterClustersConformToDeviceType 8 levelTranslator
      [levelCluster [0x00, 0x01, 0x02, 0x0F, 0x11, 0x4000] [1, 8, 0, 4, 5, 2, 6, 3, 7]]
      [levelControl] = .ok false := by decide
  have hconf := @conforms_levelCluster [0x00, 0x01, 0x02, 0x0F, 0x11, 0x4000]
    [1, 8, 0, 4, 5, 2, 6, 3, 7] (by decide) (by decide)
  rw [hno] at hanswer
  cases hanswer
  exact Bool.false_ne_true (hiff.mpr hconf)

end Example

end DeviceType

end UnifyMatterBridge
