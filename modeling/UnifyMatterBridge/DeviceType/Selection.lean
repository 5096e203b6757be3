import UnifyMatterBridge.DeviceType.Conformance
import UnifyMatterBridge.Lib.RunningMinimum
import UnifyMatterBridge.Lib.Multimap
import Mathlib.Algebra.GroupWithZero.Nat
import Mathlib.Data.List.Pairwise
import Mathlib.Data.Prod.Lex

/-! The choice of a device type (`select_possible_device_types_on_score`): the types that the clusters
conform to are counted, sorted by their counts and selected by a score computed from these. -/
namespace UnifyMatterBridge

structure ClusterScore where
  extraMatterClustersCount : ℕ
  matterMissCount : ℕ
  requiredMatterClustersCount : ℕ
  deviceTypeId : ℕ
  deriving DecidableEq, Repr

namespace DeviceType

section Definitions

variable (pointerSize : ℕ) (tr : DeviceTranslator)

/-- Whether the id is that of a cluster of the device type, or of a mandatory one. -/
def compareClusters (clusterId : ℕ) (deviceClusters : List DeviceClusterData)
    (onlyCountRequiredClusters : Bool) : ℕ :=
  match deviceClusters.find? fun d => tr.getMatterClusterId d.clusterName = some clusterId with
  | some d =>
    if onlyCountRequiredClusters && d.isMandatory then 1
    else if !onlyCountRequiredClusters then 1
    else 0
  | none => 0

def scoreComparisonsOfClusterLists (clusters : List EmberAfCluster)
    (deviceClusters : List DeviceClusterData) (onlyCountRequiredClusters : Bool) : ℕ :=
  clusters.foldl (fun count c =>
    (count + compareClusters tr c.clusterId deviceClusters onlyCountRequiredClusters) % 256) 0

def toUInt32 (n : ℤ) : ℕ := (n % 4294967296).toNat

def clusterScore (clusters : List EmberAfCluster) (entry : ℕ × List DeviceClusterData) :
    ClusterScore :=
  let matched := scoreComparisonsOfClusterLists tr clusters entry.2 false
  { extraMatterClustersCount := toUInt32 (clusters.length - matched)
    matterMissCount := toUInt32 (entry.2.length - matched)
    requiredMatterClustersCount := scoreComparisonsOfClusterLists tr clusters entry.2 true
    deviceTypeId := entry.1 }

/-- The loop over the table of device types: the scores of those that conform. -/
def matchScores (clusters : List EmberAfCluster) :
    List (ℕ × List DeviceClusterData) → Except Fault (List ClusterScore)
  | [] => .ok []
  | entry :: table => do
    if ← matterClustersConformToDeviceType pointerSize tr clusters entry.2 then
      let scores ← matchScores clusters table
      return clusterScore tr clusters entry :: scores
    else matchScores clusters table

/-- The comparison that the scores are sorted by; it holds between equal scores. -/
def scoreLess (a b : ClusterScore) : Bool :=
  if a.matterMissCount < b.matterMissCount then true
  else if b.matterMissCount < a.matterMissCount then false
  else if a.requiredMatterClustersCount > b.requiredMatterClustersCount then true
  else if b.requiredMatterClustersCount > a.requiredMatterClustersCount then false
  else a.extraMatterClustersCount ≤ b.extraMatterClustersCount

/-- The score that types are selected by, a `uint8_t`. -/
def numericalScore (s : ClusterScore) : ℕ :=
  ((20 + s.matterMissCount + s.extraMatterClustersCount - s.requiredMatterClustersCount : ℤ) %
    256).toNat

variable (sort : List ClusterScore → List ClusterScore)

def computeDeviceTypeMatchScore (table : List (ℕ × List DeviceClusterData))
    (clusters : List EmberAfCluster) : Except Fault (List ClusterScore) :=
  sort <$> matchScores pointerSize tr clusters table

def selectPossibleDeviceTypesOnScore (table : List (ℕ × List DeviceClusterData))
    (clusters : List EmberAfCluster) : Except Fault (List ℕ) := do
  match ← computeDeviceTypeMatchScore pointerSize tr sort table clusters with
  | [] => return []
  | best :: scores =>
    return (scores.foldl (fun s x =>
      if numericalScore x ≤ numericalScore s.1 then (x, x.deviceTypeId :: s.2) else s)
      (best, [best.deviceTypeId])).2

def getDeviceTypes (table : List (ℕ × List DeviceClusterData)) (clusters : List EmberAfCluster) :
    Except Fault (List ℕ) :=
  selectPossibleDeviceTypesOnScore pointerSize tr sort table clusters

/-- What is assumed of `std::sort`: a permutation that is sorted by the comparison. -/
def Sorts : Prop :=
  ∀ l, (sort l).Perm l ∧ (sort l).Pairwise fun a b => scoreLess a b = true

def Accepts (clusters : List EmberAfCluster) (deviceType : List DeviceClusterData) : Prop :=
  matterClustersConformToDeviceType pointerSize tr clusters deviceType = .ok true

/-- The ids of the clusters of a device type. -/
def resolved (deviceType : List DeviceClusterData) : List ℕ :=
  deviceType.filterMap fun d => tr.getMatterClusterId d.clusterName

/-- The clusters of the device type that are not among the Matter clusters. -/
def missed (clusters : List EmberAfCluster) (deviceType : List DeviceClusterData) : ℕ :=
  deviceType.countP fun d => ¬ ∃ c ∈ clusters, tr.getMatterClusterId d.clusterName = some c.clusterId

/-- The Matter clusters that are not clusters of the device type. -/
def extra (clusters : List EmberAfCluster) (deviceType : List DeviceClusterData) : ℕ :=
  clusters.countP fun c => c.clusterId ∉ resolved tr deviceType

/-- The mandatory clusters of the device type that are among the Matter clusters. -/
def requiredMatched (clusters : List EmberAfCluster) (deviceType : List DeviceClusterData) : ℕ :=
  deviceType.countP fun d => d.isMandatory ∧
    ∃ c ∈ clusters, tr.getMatterClusterId d.clusterName = some c.clusterId

/-- The score by which a device type is to be chosen: the lower the better. -/
def matchScore (clusters : List EmberAfCluster) (deviceType : List DeviceClusterData) : ℤ :=
  missed tr clusters deviceType + extra tr clusters deviceType -
    requiredMatched tr clusters deviceType

/-- A table of device types, each with at most 100 clusters of distinct ids, at most 20 of them
mandatory. -/
structure ValidTable (table : List (ℕ × List DeviceClusterData)) : Prop where
  keys : (table.map Prod.fst).Nodup
  resolved : ∀ entry ∈ table, (resolved tr entry.2).Nodup
  length : ∀ entry ∈ table, entry.2.length ≤ 100
  mandatory : ∀ entry ∈ table, entry.2.countP (·.isMandatory) ≤ 20

structure ValidClusters (clusters : List EmberAfCluster) : Prop where
  ids : (clusters.map (·.clusterId)).Nodup
  length : clusters.length ≤ 100

/-- The device types are conforming ones, in the order of their scores, the first with the least score
of all that conform, and there are some if any conforms. -/
structure WellSelected (table : List (ℕ × List DeviceClusterData)) (clusters : List EmberAfCluster)
    (result : List ℕ) : Prop where
  sound : ∀ id ∈ result, ∃ entry ∈ table, entry.1 = id ∧ Accepts pointerSize tr clusters entry.2
  ordered : result.Pairwise fun id id' => ∀ entry ∈ table, entry.1 = id →
    ∀ entry' ∈ table, entry'.1 = id' →
      matchScore tr clusters entry.2 ≤ matchScore tr clusters entry'.2
  best : ∀ id rest, result = id :: rest → ∀ entry ∈ table, entry.1 = id →
    ∀ entry' ∈ table, Accepts pointerSize tr clusters entry'.2 →
      matchScore tr clusters entry.2 ≤ matchScore tr clusters entry'.2
  empty : result = [] ↔ ∀ entry ∈ table, ¬ Accepts pointerSize tr clusters entry.2

def scoredTypes (table : List (ℕ × List DeviceClusterData)) (clusters : List EmberAfCluster)
    (result : List ℕ) : Set (ℕ × ℤ) :=
  {p | ∃ entry ∈ table, entry.1 ∈ result ∧ p = (entry.1, matchScore tr clusters entry.2)}

/-- Device types are selected, well, and with their scores they are the same for every order of the
clusters. -/
def OptimallySelected (table : List (ℕ × List DeviceClusterData)) (clusters : List EmberAfCluster) :
    Prop :=
  ∃ result, getDeviceTypes pointerSize tr sort table clusters = .ok result ∧
    WellSelected pointerSize tr table clusters result ∧
    ∀ sort', Sorts sort' → ∀ clusters', clusters.Perm clusters' →
      ∃ result', getDeviceTypes pointerSize tr sort' table clusters' = .ok result' ∧
        scoredTypes tr table clusters' result' = scoredTypes tr table clusters result

end Definitions

variable {pointerSize : ℕ} {tr : DeviceTranslator} {clusters : List EmberAfCluster}
  {deviceType : List DeviceClusterData}

section Key

/-- The counts in the order in which they are compared; more of the required clusters come first. -/
def sortKey (s : ClusterScore) : ℕ ×ₗ ℕᵒᵈ ×ₗ ℕ :=
  toLex (s.matterMissCount,
    toLex (OrderDual.toDual s.requiredMatterClustersCount, s.extraMatterClustersCount))

theorem scoreLess_iff (a b : ClusterScore) : scoreLess a b = true ↔ sortKey a ≤ sortKey b := by
  have hle : sortKey a ≤ sortKey b ↔ a.matterMissCount < b.matterMissCount ∨
      a.matterMissCount = b.matterMissCount ∧
        (b.requiredMatterClustersCount < a.requiredMatterClustersCount ∨
          a.requiredMatterClustersCount = b.requiredMatterClustersCount ∧
            a.extraMatterClustersCount ≤ b.extraMatterClustersCount) := by
    simp only [sortKey, Prod.Lex.toLex_le_toLex, OrderDual.toDual_lt_toDual,
      OrderDual.toDual_inj]
  rw [hle]
  unfold scoreLess
  split_ifs with hmissed hmissed' hrequired hrequired'
  · simp [hmissed]
  · simp only [false_iff]
    omega
  · simp only [true_iff]
    omega
  · simp only [false_iff]
    omega
  · rw [decide_eq_true_eq]
    omega

theorem sortKey_eq_iff {a b : ClusterScore} : sortKey a = sortKey b ↔
    a.matterMissCount = b.matterMissCount ∧
      a.requiredMatterClustersCount = b.requiredMatterClustersCount ∧
      a.extraMatterClustersCount = b.extraMatterClustersCount := by
  simp only [sortKey, toLex_inj, Prod.mk.injEq, OrderDual.toDual_inj]

end Key

section Counts

theorem mem_resolved {id : ℕ} :
    id ∈ resolved tr deviceType ↔ ∃ d ∈ deviceType, tr.getMatterClusterId d.clusterName = some id :=
  List.mem_filterMap

theorem mem_resolved_iff_find {id : ℕ} : id ∈ resolved tr deviceType ↔
    deviceType.find? (fun d => tr.getMatterClusterId d.clusterName = some id) ≠ none := by
  rw [mem_resolved, ne_eq, List.find?_eq_none]
  simp

theorem compareClusters_false (id : ℕ) :
    compareClusters tr id deviceType false = if id ∈ resolved tr deviceType then 1 else 0 := by
  unfold compareClusters
  simp only [mem_resolved_iff_find]
  cases deviceType.find? (fun d => tr.getMatterClusterId d.clusterName = some id) with
  | none => rfl
  | some d => simp

theorem eq_of_resolved_eq (hn : (resolved tr deviceType).Nodup) {id : ℕ} {d d' : DeviceClusterData}
    (hd : d ∈ deviceType) (hd' : d' ∈ deviceType)
    (hid : tr.getMatterClusterId d.clusterName = some id)
    (hid' : tr.getMatterClusterId d'.clusterName = some id) : d = d' := by
  by_contra hne
  let R (a b : DeviceClusterData) : Prop :=
    ∀ i, tr.getMatterClusterId a.clusterName = some i →
      ∀ j, tr.getMatterClusterId b.clusterName = some j → i ≠ j
  have hpairs : deviceType.Pairwise R := List.pairwise_filterMap.mp hn
  have hsymm : Std.Symm R := ⟨fun a b h i hi j hj => (h j hj i hi).symm⟩
  exact hpairs.forall hd hd' hne id hid id hid' rfl

theorem compareClusters_true (hn : (resolved tr deviceType).Nodup) (id : ℕ) :
    compareClusters tr id deviceType true =
      if id ∈ resolved tr (deviceType.filter (·.isMandatory)) then 1 else 0 := by
  unfold compareClusters
  cases hfind : deviceType.find? (fun d => tr.getMatterClusterId d.clusterName = some id) with
  | none =>
    have hnot : id ∉ resolved tr (deviceType.filter (·.isMandatory)) := by
      intro hmem
      obtain ⟨d, hd, hid⟩ := mem_resolved.mp hmem
      exact List.find?_eq_none.mp hfind d (List.mem_of_mem_filter hd) (decide_eq_true hid)
    rw [if_neg hnot]
  | some d =>
    have hd := List.mem_of_find?_eq_some hfind
    have hid : tr.getMatterClusterId d.clusterName = some id := by
      simpa using List.find?_some hfind
    have hmem : id ∈ resolved tr (deviceType.filter (·.isMandatory)) ↔ d.isMandatory = true := by
      rw [mem_resolved]
      constructor
      · intro h
        obtain ⟨d', hd', hid'⟩ := h
        obtain ⟨hmem, hmandatory⟩ := List.mem_filter.mp hd'
        rw [eq_of_resolved_eq hn hd hmem hid hid']
        exact hmandatory
      · exact fun h => ⟨d, List.mem_filter.mpr ⟨hd, h⟩, hid⟩
    simp [hmem]

theorem foldl_add_mod {α : Type} (f : α → ℕ) (l : List α) (n : ℕ) :
    l.foldl (fun count x => (count + f x) % 256) (n % 256) = (n + (l.map f).sum) % 256 := by
  induction l generalizing n with
  | nil => simp
  | cons x l ih =>
    rw [List.foldl_cons, Nat.mod_add_mod, ih, List.map_cons, List.sum_cons, Nat.add_assoc]

theorem sum_map_ite {α : Type} (p : α → Prop) [DecidablePred p] (l : List α) :
    (l.map fun x => if p x then 1 else 0).sum = l.countP fun x => p x := by
  induction l with
  | nil => rfl
  | cons x l ih =>
    rw [List.map_cons, List.sum_cons, ih, List.countP_cons]
    simp only [decide_eq_true_eq]
    exact Nat.add_comm _ _

theorem countP_clusterId (hids : (clusters.map (·.clusterId)).Nodup) {ids : List ℕ}
    (hn : ids.Nodup) : (clusters.countP fun c => c.clusterId ∈ ids) =
      ids.countP fun id => id ∈ clusters.map (·.clusterId) := by
  rw [← Multimap.countP_mem_comm hids hn, List.countP_map]
  rfl

theorem countP_resolved (p : List DeviceClusterData) :
    ((resolved tr p).countP fun id => id ∈ clusters.map (·.clusterId)) =
      p.countP fun d => ∃ c ∈ clusters, tr.getMatterClusterId d.clusterName = some c.clusterId := by
  unfold resolved
  rw [List.countP_filterMap]
  apply List.countP_congr
  intro d _
  cases tr.getMatterClusterId d.clusterName with
  | none => simp
  | some id => simp [eq_comm]

theorem scoreComparisons_eq (hids : (clusters.map (·.clusterId)).Nodup)
    (hn : (resolved tr deviceType).Nodup) :
    scoreComparisonsOfClusterLists tr clusters deviceType false =
        (deviceType.countP fun d =>
          ∃ c ∈ clusters, tr.getMatterClusterId d.clusterName = some c.clusterId) % 256 ∧
      scoreComparisonsOfClusterLists tr clusters deviceType false =
        (clusters.countP fun c => c.clusterId ∈ resolved tr deviceType) % 256 ∧
      scoreComparisonsOfClusterLists tr clusters deviceType true =
        requiredMatched tr clusters deviceType % 256 := by
  have hsum : ∀ only, scoreComparisonsOfClusterLists tr clusters deviceType only =
      (clusters.map fun c => compareClusters tr c.clusterId deviceType only).sum % 256 := by
    intro only
    have hfold := foldl_add_mod (fun c : EmberAfCluster =>
      compareClusters tr c.clusterId deviceType only) clusters 0
    rw [Nat.zero_add] at hfold
    exact hfold
  have hmatched : scoreComparisonsOfClusterLists tr clusters deviceType false =
      (clusters.countP fun c => c.clusterId ∈ resolved tr deviceType) % 256 := by
    rw [hsum]
    simp only [compareClusters_false]
    rw [sum_map_ite]
  refine ⟨?_, hmatched, ?_⟩
  · rw [hmatched, countP_clusterId hids hn, countP_resolved]
  · have hmandatory : (resolved tr (deviceType.filter (·.isMandatory))).Nodup :=
      hn.sublist (List.filter_sublist.filterMap _)
    rw [hsum]
    simp only [compareClusters_true hn]
    rw [sum_map_ite, countP_clusterId hids hmandatory, countP_resolved, List.countP_filter]
    unfold requiredMatched
    congr 1
    apply List.countP_congr
    intro d _
    simp [and_comm]

theorem numericalScore_eq {table : List (ℕ × List DeviceClusterData)} (ht : ValidTable tr table)
    (hc : ValidClusters clusters) {entry : ℕ × List DeviceClusterData} (he : entry ∈ table) :
    (numericalScore (clusterScore tr clusters entry) : ℤ) = 20 + matchScore tr clusters entry.2 := by
  obtain ⟨hbyDevice, hbyCluster, hrequired⟩ := scoreComparisons_eq hc.ids (ht.resolved entry he)
  have hmissed : entry.2.length = (entry.2.countP fun d =>
      ∃ c ∈ clusters, tr.getMatterClusterId d.clusterName = some c.clusterId) +
        missed tr clusters entry.2 := by
    rw [missed, List.length_eq_countP_add_countP fun d =>
      decide (∃ c ∈ clusters, tr.getMatterClusterId d.clusterName = some c.clusterId)]
    simp only [decide_eq_true_eq]
  have hextra : clusters.length = (clusters.countP fun c => c.clusterId ∈ resolved tr entry.2) +
      extra tr clusters entry.2 := by
    rw [extra, List.length_eq_countP_add_countP fun c : EmberAfCluster =>
      decide (c.clusterId ∈ resolved tr entry.2)]
    simp only [decide_eq_true_eq]
  have hmandatory : requiredMatched tr clusters entry.2 ≤ 20 := by
    refine Nat.le_trans (List.countP_mono_left fun d _ h => ?_) (ht.mandatory entry he)
    exact (of_decide_eq_true h).1
  have hlength := ht.length entry he
  have hlength' := hc.length
  have hsame := hbyDevice.symm.trans hbyCluster
  unfold numericalScore clusterScore matchScore toUInt32
  dsimp only
  rw [hrequired, hbyCluster]
  omega

end Counts

section Order

variable {clusters' : List EmberAfCluster}

theorem ValidClusters.perm (hc : ValidClusters clusters) (h : clusters.Perm clusters') :
    ValidClusters clusters' where
  ids := (h.map _).nodup_iff.mp hc.ids
  length := h.length_eq ▸ hc.length

theorem find_valid (hc : ValidClusters clusters) {d : DeviceClusterData} {id : ℕ}
    (hresolve : tr.getMatterClusterId d.clusterName = some id) :
    (checkIfClusterInArrayOfClusters id clusters = -1 ∧
        clusters.find? (·.clusterId = id) = none) ∨
      ∃ c, checkIfClusterInArrayOfClusters id clusters ≠ -1 ∧
        clusters.find? (·.clusterId = id) = some c ∧
        clusterAt clusters (checkIfClusterInArrayOfClusters id clusters) = .ok c := by
  have hlength := hc.length
  have hfind : clusters.find? (·.clusterId = id) =
      (clusters.findIdx? (·.clusterId = id)).bind (clusters[·]?) :=
    List.find?_eq_bind_findIdx?_getElem?
  rcases @find_cases tr clusters d id hresolve with
    ⟨habsent, -, hlast⟩ | ⟨hpresent, ⟨index, hindex, -⟩, hat⟩
  · left
    refine ⟨habsent, ?_⟩
    cases hindex : clusters.findIdx? (·.clusterId = id) with
    | none =>
      rw [hfind, hindex]
      rfl
    | some index =>
      obtain ⟨hlt, -⟩ := List.findIdx?_eq_some_iff_findIdx_eq.mp hindex
      have hmod := hlast index hindex
      omega
  · right
    obtain ⟨hlt, -⟩ := List.findIdx?_eq_some_iff_findIdx_eq.mp hindex
    have hmod : index % 256 = index := Nat.mod_eq_of_lt (by omega)
    have hlooked : lookedAt tr clusters d = some clusters[index] := by
      unfold lookedAt
      rw [hresolve, Option.bind_eq_bind, Option.bind_some, hindex]
      dsimp only [Option.bind_eq_bind, Option.bind_some]
      rw [hmod, if_pos (by omega)]
      exact List.getElem?_eq_getElem hlt
    refine ⟨clusters[index], hpresent, ?_, ?_⟩
    · rw [hfind, hindex, Option.bind_some]
      exact List.getElem?_eq_getElem hlt
    · rw [hat, hlooked]

theorem clusterConforms_perm (hc : ValidClusters clusters) (h : clusters.Perm clusters')
    (d : DeviceClusterData) :
    clusterConforms pointerSize tr clusters' d = clusterConforms pointerSize tr clusters d := by
  unfold clusterConforms
  cases hresolve : tr.getMatterClusterId d.clusterName with
  | none => rfl
  | some id =>
    have hsame := Multimap.find?_eq_of_perm h hc.ids id
    dsimp only
    rcases find_valid hc hresolve with ⟨habsent, hnone⟩ | ⟨c, hpresent, hsome, hat⟩
    · rcases find_valid (hc.perm h) hresolve with ⟨habsent', -⟩ | ⟨c', -, hsome', -⟩
      · rw [if_pos habsent, if_pos habsent']
      · rw [← hsame, hnone] at hsome'
        cases hsome'
    · rcases find_valid (hc.perm h) hresolve with ⟨-, hnone'⟩ | ⟨c', hpresent', hsome', hat'⟩
      · rw [← hsame, hsome] at hnone'
        cases hnone'
      · have hcc : c' = c := Option.some.inj (hsome'.symm.trans (hsame.symm.trans hsome))
        rw [if_neg hpresent, if_neg hpresent', hat, hat', hcc]

theorem conform_perm (hc : ValidClusters clusters) (h : clusters.Perm clusters')
    (deviceType : List DeviceClusterData) :
    matterClustersConformToDeviceType pointerSize tr clusters' deviceType =
      matterClustersConformToDeviceType pointerSize tr clusters deviceType :=
  Checks.allM_congr fun d _ => clusterConforms_perm hc h d

theorem scoreComparisons_perm (h : clusters.Perm clusters') (only : Bool) :
    scoreComparisonsOfClusterLists tr clusters' deviceType only =
      scoreComparisonsOfClusterLists tr clusters deviceType only := by
  unfold scoreComparisonsOfClusterLists
  refine (h.foldl_eq' (fun c _ c' _ count => ?_) 0).symm
  omega

theorem clusterScore_perm (h : clusters.Perm clusters') (entry : ℕ × List DeviceClusterData) :
    clusterScore tr clusters' entry = clusterScore tr clusters entry := by
  unfold clusterScore
  rw [scoreComparisons_perm h, scoreComparisons_perm h, h.length_eq]

theorem matchScores_perm (hc : ValidClusters clusters) (h : clusters.Perm clusters')
    (table : List (ℕ × List DeviceClusterData)) :
    matchScores pointerSize tr clusters' table = matchScores pointerSize tr clusters table := by
  induction table with
  | nil => rfl
  | cons entry table ih => rw [matchScores, matchScores, conform_perm hc h, clusterScore_perm h, ih]

theorem matchScore_perm (h : clusters.Perm clusters') (deviceType : List DeviceClusterData) :
    matchScore tr clusters' deviceType = matchScore tr clusters deviceType := by
  unfold matchScore missed extra requiredMatched
  simp only [h.mem_iff, h.countP_eq]

end Order

section Choice

variable {sort : List ClusterScore → List ClusterScore}
  {table : List (ℕ × List DeviceClusterData)} {scores : List ClusterScore}

theorem exists_matchScores : (∃ scores, matchScores pointerSize tr clusters table = .ok scores) ↔
    ∀ entry ∈ table, ∃ answer,
      matterClustersConformToDeviceType pointerSize tr clusters entry.2 = .ok answer := by
  induction table with
  | nil => simp [matchScores]
  | cons entry table ih =>
    rw [List.forall_mem_cons, ← ih, matchScores]
    cases matterClustersConformToDeviceType pointerSize tr clusters entry.2 with
    | error e => simp [bind, Except.bind]
    | ok answer =>
      cases matchScores pointerSize tr clusters table with
      | error e => cases answer <;> simp [bind, Except.bind]
      | ok scores => cases answer <;> simp [bind, Except.bind, pure, Except.pure]

theorem mem_matchScores (h : matchScores pointerSize tr clusters table = .ok scores)
    {s : ClusterScore} : s ∈ scores ↔ ∃ entry ∈ table,
      Accepts pointerSize tr clusters entry.2 ∧ clusterScore tr clusters entry = s := by
  induction table generalizing scores with
  | nil =>
    cases h
    simp
  | cons entry table ih =>
    rw [List.exists_mem_cons_iff]
    rw [matchScores] at h
    cases hconf : matterClustersConformToDeviceType pointerSize tr clusters entry.2 with
    | error e =>
      rw [hconf] at h
      cases h
    | ok answer =>
      rw [hconf] at h
      cases answer with
      | false =>
        have hnot : ¬ Accepts pointerSize tr clusters entry.2 := by
          intro hacc
          rw [Accepts, hconf] at hacc
          cases hacc
        rw [ih h, or_iff_right fun hor => hnot hor.1]
      | true =>
        cases hrest : matchScores pointerSize tr clusters table with
        | error e =>
          rw [hrest] at h
          cases h
        | ok rest =>
          rw [hrest] at h
          cases h
          rw [List.mem_cons, ih hrest, eq_comm]
          exact or_congr_left (and_iff_right hconf).symm

/-- The choice is the walk over the sorted scores. -/
theorem select_eq : selectPossibleDeviceTypesOnScore pointerSize tr sort table clusters =
    (matchScores pointerSize tr clusters table).map fun scores =>
      (RunningMinimum.selection numericalScore (sort scores)).map (·.deviceTypeId) := by
  unfold selectPossibleDeviceTypesOnScore computeDeviceTypeMatchScore
  cases matchScores pointerSize tr clusters table with
  | error e => rfl
  | ok scores =>
    simp only [Functor.map, Except.map, bind, Except.bind]
    cases sort scores with
    | nil => rfl
    | cons best rest =>
      dsimp only
      rw [RunningMinimum.foldl_eq_records (fun s : ClusterScore => s.deviceTypeId),
        RunningMinimum.selection, List.reverse_cons, List.map_append]
      rfl

/-- Scores that are sorted in either order have equal counts. -/
theorem numericalScore_eq_of_tie {a b : ClusterScore} (h : scoreLess a b = true)
    (h' : scoreLess b a = true) : numericalScore a = numericalScore b := by
  rw [scoreLess_iff] at h h'
  obtain ⟨hmissed, hrequired, hextra⟩ := sortKey_eq_iff.mp (le_antisymm h h')
  unfold numericalScore
  rw [hmissed, hrequired, hextra]

/-- What is selected does not depend on how ties are sorted. -/
theorem mem_selection_sort (hsort : Sorts sort) {s : ClusterScore} :
    s ∈ RunningMinimum.selection numericalScore (sort scores) ↔
      s ∈ scores ∧ ∀ s' ∈ scores, scoreLess s' s = true → numericalScore s ≤ numericalScore s' := by
  obtain ⟨hperm, hsorted⟩ := hsort scores
  rw [RunningMinimum.mem_selection_of_sorted hsorted fun a _ b _ => numericalScore_eq_of_tie]
  simp only [hperm.mem_iff]

theorem entry_of_mem_scores (ht : ValidTable tr table)
    (h : matchScores pointerSize tr clusters table = .ok scores) {s : ClusterScore} (hs : s ∈ scores)
    {entry : ℕ × List DeviceClusterData} (he : entry ∈ table) (hid : entry.1 = s.deviceTypeId) :
    Accepts pointerSize tr clusters entry.2 ∧ clusterScore tr clusters entry = s := by
  obtain ⟨entry', he', hacc, hscore⟩ := (mem_matchScores h).mp hs
  have hid' : entry'.1 = entry.1 := by
    rw [hid, ← hscore]
    rfl
  have hentry : entry' = entry := List.inj_on_of_nodup_map ht.keys he' he hid'
  rw [← hentry]
  exact ⟨hacc, hscore⟩

theorem wellSelected (hsort : Sorts sort) (ht : ValidTable tr table) (hc : ValidClusters clusters)
    (h : matchScores pointerSize tr clusters table = .ok scores) :
    WellSelected pointerSize tr table clusters
      ((RunningMinimum.selection numericalScore (sort scores)).map (·.deviceTypeId)) := by
  have hperm := (hsort scores).1
  have hmem : ∀ s ∈ RunningMinimum.selection numericalScore (sort scores), s ∈ scores :=
    fun s hs => ((mem_selection_sort hsort).mp hs).1
  have hle : ∀ s ∈ scores, ∀ s' ∈ scores, numericalScore s ≤ numericalScore s' →
      ∀ entry ∈ table, entry.1 = s.deviceTypeId → ∀ entry' ∈ table, entry'.1 = s'.deviceTypeId →
        matchScore tr clusters entry.2 ≤ matchScore tr clusters entry'.2 := by
    intro s hs s' hs' hscores entry he hid entry' he' hid'
    have hscore := numericalScore_eq ht hc he
    have hscore' := numericalScore_eq ht hc he'
    rw [(entry_of_mem_scores ht h hs he hid).2] at hscore
    rw [(entry_of_mem_scores ht h hs' he' hid').2] at hscore'
    omega
  constructor
  · intro id hid
    obtain ⟨s, hs, rfl⟩ := List.mem_map.mp hid
    obtain ⟨entry, he, hacc, hscore⟩ := (mem_matchScores h).mp (hmem s hs)
    refine ⟨entry, he, ?_, hacc⟩
    rw [← hscore]
    rfl
  · refine List.pairwise_map.mpr ?_
    refine List.Pairwise.imp_of_mem ?_ RunningMinimum.pairwise_selection
    intro s s' hs hs' hscores entry he hid entry' he' hid'
    exact hle s (hmem s hs) s' (hmem s' hs') hscores entry he hid entry' he' hid'
  · intro id rest hresult entry he hid entry' he' hacc'
    obtain ⟨s, selected, hselection, hs, -⟩ := List.map_eq_cons_iff.mp hresult
    have hhead : s ∈ RunningMinimum.selection numericalScore (sort scores) := by
      rw [hselection]
      exact List.mem_cons_self
    have hs' : clusterScore tr clusters entry' ∈ scores :=
      (mem_matchScores h).mpr ⟨entry', he', hacc', rfl⟩
    have hmin := RunningMinimum.head_selection_le hselection (hperm.mem_iff.mpr hs')
    exact hle s (hmem s hhead) _ hs' hmin entry he (hid.trans hs.symm) entry' he' rfl
  · rw [List.map_eq_nil_iff, RunningMinimum.selection_eq_nil]
    constructor
    · intro hnil entry he hacc
      have hmem := hperm.mem_iff.mpr ((mem_matchScores h).mpr ⟨entry, he, hacc, rfl⟩)
      rw [hnil] at hmem
      cases hmem
    · intro hnone
      refine List.eq_nil_iff_forall_not_mem.mpr fun s hs => ?_
      obtain ⟨entry, he, hacc, -⟩ := (mem_matchScores h).mp (hperm.mem_iff.mp hs)
      exact hnone entry he hacc

/-- A choice of device types is made if all conformance checks answer. It is sound, in order and
optimal, and it does not depend on the order of the clusters. -/
theorem select_optimal (pointerSize : ℕ) (tr : DeviceTranslator)
    (sort : List ClusterScore → List ClusterScore) (hsort : Sorts sort)
    (table : List (ℕ × List DeviceClusterData)) (ht : ValidTable tr table)
    (clusters : List EmberAfCluster) (hc : ValidClusters clusters) :
    ((∃ result, getDeviceTypes pointerSize tr sort table clusters = .ok result) ↔
        ∀ entry ∈ table, ∃ answer,
          matterClustersConformToDeviceType pointerSize tr clusters entry.2 = .ok answer) ∧
      (∀ result, getDeviceTypes pointerSize tr sort table clusters = .ok result →
        WellSelected pointerSize tr table clusters result) ∧
      ∀ sort', Sorts sort' → ∀ clusters', clusters.Perm clusters' →
        ∀ result, getDeviceTypes pointerSize tr sort table clusters = .ok result →
          ∃ result', getDeviceTypes pointerSize tr sort' table clusters' = .ok result' ∧
            scoredTypes tr table clusters' result' = scoredTypes tr table clusters result := by
  unfold getDeviceTypes
  rw [← exists_matchScores]
  simp only [select_eq]
  cases hscores : matchScores pointerSize tr clusters table with
  | error e => simp [Except.map]
  | ok scores =>
    refine ⟨iff_of_true ⟨_, rfl⟩ ⟨_, rfl⟩, fun result hresult => ?_, ?_⟩
    · cases hresult
      exact wellSelected hsort ht hc hscores
    · intro sort' hsort' clusters' hperm result hresult
      cases hresult
      refine ⟨_, by rw [matchScores_perm hc hperm, hscores]; rfl, ?_⟩
      unfold scoredTypes
      simp only [List.mem_map, mem_selection_sort hsort, mem_selection_sort hsort',
        matchScore_perm hperm]

/-- The selection is sound, in order, optimal and independent of the order of the clusters if and only
if every conformance check answers. -/
theorem optimallySelected_iff (pointerSize : ℕ) (tr : DeviceTranslator)
    (sort : List ClusterScore → List ClusterScore) (hsort : Sorts sort)
    (table : List (ℕ × List DeviceClusterData)) (ht : ValidTable tr table)
    (clusters : List EmberAfCluster) (hc : ValidClusters clusters) :
    OptimallySelected pointerSize tr sort table clusters ↔
      ∀ entry ∈ table, ∃ answer,
        matterClustersConformToDeviceType pointerSize tr clusters entry.2 = .ok answer := by
  obtain ⟨hanswers, hwell, hsame⟩ := select_optimal pointerSize tr sort hsort table ht clusters hc
  rw [← hanswers]
  constructor
  · intro h
    obtain ⟨result, hresult, -⟩ := h
    exact ⟨result, hresult⟩
  · intro h
    obtain ⟨result, hresult⟩ := h
    refine ⟨result, hresult, hwell result hresult, ?_⟩
    exact fun sort' hsort' clusters' hperm => hsame sort' hsort' clusters' hperm result hresult

end Choice

section Example

/-- The comparison is total and transitive, so that a merge sort sorts by it. -/
theorem sorts_mergeSort : Sorts fun l => l.mergeSort scoreLess := by
  intro l
  refine ⟨List.mergeSort_perm l _, List.pairwise_mergeSort ?_ ?_ l⟩
  · intro a b c hab hbc
    rw [scoreLess_iff] at hab hbc ⊢
    exact hab.trans hbc
  · intro a b
    rw [Bool.or_eq_true, scoreLess_iff, scoreLess_iff]
    exact le_total (sortKey a) (sortKey b)

def levelTypes : List (ℕ × List DeviceClusterData) :=
  [(0x0101, [levelControl]), (0x0850, [{ levelControl with isMandatory := false }])]

private theorem validTable_levelTypes : ValidTable levelTranslator levelTypes :=
  ⟨by decide, by decide, by decide, by decide⟩

/-- For a `LevelControl` cluster with the required commands a choice is made. -/
theorem optimallySelected_of_level_cluster :
    OptimallySelected 8 levelTranslator (fun l => l.mergeSort scoreLess) levelTypes
      [levelCluster [0x00, 0x01, 0x02, 0x0F, 0x11, 0x4000] [0, 1, 2, 3, 4, 5, 6, 7]] := by
  apply (optimallySelected_iff 8 levelTranslator _ sorts_mergeSort levelTypes validTable_levelTypes
    _ ⟨by decide, by decide⟩).mpr
  intro entry he
  refine ⟨true, ?_⟩
  rcases List.mem_cons.mp he with rfl | he
  · decide
  · rw [List.mem_singleton.mp he]
    decide

/-- With a single command, what is behind the commands is read. -/
theorem not_optimallySelected_of_one_command :
    ¬ ∀ (tr : DeviceTranslator) (sort : List ClusterScore → List ClusterScore), Sorts sort →
      ∀ table, ValidTable tr table → ∀ clusters, ValidClusters clusters →
        OptimallySelected 8 tr sort table clusters := by
  intro h
  obtain ⟨result, hresult, -⟩ := h levelTranslator _ sorts_mergeSort levelTypes validTable_levelTypes
    [levelCluster [0x00, 0x01, 0x02, 0x0F, 0x11, 0x4000] [0]] ⟨by decide, by decide⟩
  have hscores : matchScores 8 levelTranslator
      [levelCluster [0x00, 0x01, 0x02, 0x0F, 0x11, 0x4000] [0]] levelTypes =
        .error .outOfBounds := by decide
  rw [getDeviceTypes, select_eq, hscores] at hresult
  cases hresult

end Example

end DeviceType

end UnifyMatterBridge
