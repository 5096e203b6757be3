import UnifyMatterBridge.DeviceType.Conformance
import UnifyMatterBridge.Lib.Loop

/-! The comparisons of what a cluster has with what a device type requires (`compare_commands`,
`compare_attributes`, `compare_additional_required_attributes`), one by one: when they answer,
when they answer right, and when they never end. -/
namespace UnifyMatterBridge

/-- The command ids of a list, before the id that ends it. -/
structure CommandIds where
  ids : List ℕ
  valid : kInvalidCommandId ∉ ids

/-- The array that `acceptedCommandList` points to; of the null pointer nothing can be read. -/
def CommandIds.array : Option CommandIds → List ℕ
  | some commands => commands.ids ++ [kInvalidCommandId]
  | none => []

namespace DeviceType

section Commands

variable (pointerSize : ℕ) (tr : DeviceTranslator) (accepted : Option CommandIds)
  (clusterName name : String) (required : List String)

/-- The name resolves to a command of the list. -/
def CommandAccepted : Prop :=
  ∃ id, tr.getMatterCommandId clusterName name = some id ∧ ∃ commands ∈ accepted, id ∈ commands.ids

/-- The function answers, which it does only without reading past the array, and answers right. -/
def CommandsExact : Prop :=
  ∃ answer, compareCommands pointerSize tr (CommandIds.array accepted) clusterName required =
      .ok answer ∧
    (answer = true ↔ ∀ name ∈ required, CommandAccepted tr accepted clusterName name)

/-- The entries that are looked at: as many as a pointer has bytes, and none from an id 255 on. -/
def lookedAtCommands (commands : List ℕ) : List ℕ := (commands.take pointerSize).takeWhile (· ≠ 255)

/-- The name resolves to an id that is looked at. -/
def CommandReached : Prop :=
  ∃ id, tr.getMatterCommandId clusterName name = some id ∧
    id ∈ lookedAtCommands pointerSize (CommandIds.array accepted)

/-- The name does not resolve, or its id is not looked at and the array has an id 255 or enough
entries to stop the search. -/
def CommandMissed : Prop :=
  ∀ id, tr.getMatterCommandId clusterName name = some id →
    id ∉ lookedAtCommands pointerSize (CommandIds.array accepted) ∧
      (255 ∈ (CommandIds.array accepted).take pointerSize ∨
        pointerSize ≤ (CommandIds.array accepted).length)

/-- Condition: if all names are accepted, all their ids are looked at; if not, the first name whose
id is not looked at is one whose search stops. -/
def CommandsInReach : Prop :=
  (∀ name ∈ required, CommandAccepted tr accepted clusterName name) ∧
      (∀ name ∈ required, CommandReached pointerSize tr accepted clusterName name) ∨
    ¬ (∀ name ∈ required, CommandAccepted tr accepted clusterName name) ∧
      ∃ before name after, required = before ++ name :: after ∧
        (∀ name' ∈ before, CommandReached pointerSize tr accepted clusterName name') ∧
        CommandMissed pointerSize tr accepted clusterName name

variable {pointerSize tr accepted clusterName required}

theorem compareCommands_eq_true :
    compareCommands pointerSize tr (CommandIds.array accepted) clusterName required = .ok true ↔
      ∀ name ∈ required, CommandReached pointerSize tr accepted clusterName name := by
  rw [compareCommands_eq, Checks.allM_eq_ok_true]
  exact forall₂_congr fun name _ => compareCommands_singleton.1

theorem compareCommands_eq_false :
    compareCommands pointerSize tr (CommandIds.array accepted) clusterName required = .ok false ↔
      ∃ before name after, required = before ++ name :: after ∧
        (∀ name' ∈ before, CommandReached pointerSize tr accepted clusterName name') ∧
        CommandMissed pointerSize tr accepted clusterName name := by
  rw [compareCommands_eq, Checks.allM_eq_ok_false]
  have hreached : ∀ name,
      compareCommands pointerSize tr (CommandIds.array accepted) clusterName [name] = .ok true ↔
        CommandReached pointerSize tr accepted clusterName name :=
    fun _ => compareCommands_singleton.1
  have hmissed : ∀ name,
      compareCommands pointerSize tr (CommandIds.array accepted) clusterName [name] = .ok false ↔
        CommandMissed pointerSize tr accepted clusterName name :=
    fun _ => compareCommands_singleton.2
  simp only [hreached, hmissed]

end Commands

/-- The comparison is exact if and only if the searches reach far enough. -/
theorem commandsExact_iff (pointerSize : ℕ) (tr : DeviceTranslator) (accepted : Option CommandIds)
    (clusterName : String) (required : List String) :
    CommandsExact pointerSize tr accepted clusterName required ↔
      CommandsInReach pointerSize tr accepted clusterName required := by
  unfold CommandsExact CommandsInReach
  rw [← compareCommands_eq_true, ← compareCommands_eq_false]
  exact Checks.exists_answer_iff

def levelCommands : CommandIds where
  ids := [1, 8, 0, 4, 5, 2, 6, 3, 7]
  valid := by decide

/-- Of nine commands the last one, which is required, is not looked at. -/
theorem not_commandsExact_of_nine_commands :
    ¬ ∀ (tr : DeviceTranslator) (accepted : Option CommandIds) (clusterName : String)
        (required : List String), CommandsExact 8 tr accepted clusterName required := by
  intro h
  obtain ⟨answer, hanswer, hiff⟩ := h levelTranslator (some levelCommands) "LevelControl"
    levelControl.requiredCommands
  have hno : compareCommands 8 levelTranslator (CommandIds.array (some levelCommands))
      "LevelControl" levelControl.requiredCommands = .ok false := by decide
  have haccepted : ∀ name ∈ levelControl.requiredCommands,
      ∃ id ∈ levelCommands.ids, levelTranslator.getMatterCommandId "LevelControl" name = some id := by
    decide
  rw [hno] at hanswer
  cases hanswer
  apply Bool.false_ne_true
  refine hiff.mpr fun name hname => ?_
  obtain ⟨id, hid, hresolve⟩ := haccepted name hname
  exact ⟨id, hresolve, levelCommands, rfl, hid⟩

/-- Where the comparison of attributes is: before the next name, or at an index of the search for the
id of a name, with the names behind it. -/
inductive AttributeLoop where
  | names (required : List String)
  | search (id i : ℕ) (required : List String)

section Attributes

variable (tr : DeviceTranslator) (attributes : List EmberAfAttributeMetadata) (attributeCount : ℕ)
  (clusterName : String)

/-- One round of the loops of `compare_attributes`; the index is a `uint8_t`. -/
def attributeRound : AttributeLoop → AttributeLoop ⊕ Except Fault Bool
  | .names [] => .inr (.ok true)
  | .names (name :: required) =>
    match tr.getMatterAttributeId clusterName name with
    | none => .inr (.ok false)
    | some id => .inl (.search id 0 required)
  | .search id i required =>
    if i < attributeCount then
      match attributes[i]? with
      | none => .inr (.error .outOfBounds)
      | some a =>
        if a.attributeId = id then .inl (.names required)
        else .inl (.search id ((i + 1) % 256) required)
    else .inr (.ok false)

variable {tr attributes attributeCount clusterName}

/-- A search that ends does so with what the rounds find: it leaves the loop for the names behind it, or
gives the result. -/
theorem ends_search {id : ℕ} {required : List String} {r b : Except Fault Bool} {rounds i : ℕ}
    (h : scanAttributes attributes attributeCount id rounds i = b) (hb : b ≠ .error .diverges) :
    Loop.Ends (attributeRound tr attributes attributeCount clusterName) (.search id i required) r ↔
      if b = .ok true then
        Loop.Ends (attributeRound tr attributes attributeCount clusterName) (.names required) r
      else r = b := by
  induction rounds generalizing i with
  | zero => exact absurd h.symm hb
  | succ rounds ih =>
    unfold scanAttributes at h
    by_cases hlt : i < attributeCount
    · rw [if_pos hlt] at h
      cases hat : attributes[i]? with
      | none =>
        have hround : attributeRound tr attributes attributeCount clusterName
            (.search id i required) = .inr (.error .outOfBounds) := by
          simp only [attributeRound, if_pos hlt, hat]
        rw [hat] at h
        rw [Loop.ends_iff_of_done hround, ← h]
        simp
      | some a =>
        rw [hat] at h
        dsimp only at h
        by_cases hid : a.attributeId = id
        · have hround : attributeRound tr attributes attributeCount clusterName
              (.search id i required) = .inl (.names required) := by
            simp only [attributeRound, if_pos hlt, hat, if_pos hid]
          rw [if_pos hid] at h
          rw [Loop.ends_iff_of_next hround, ← h]
          simp
        · have hround : attributeRound tr attributes attributeCount clusterName
              (.search id i required) = .inl (.search id ((i + 1) % 256) required) := by
            simp only [attributeRound, if_pos hlt, hat, if_neg hid]
          rw [if_neg hid] at h
          rw [Loop.ends_iff_of_next hround]
          exact ih h
    · have hround : attributeRound tr attributes attributeCount clusterName
          (.search id i required) = .inr (.ok false) := by
        simp only [attributeRound, if_neg hlt]
      rw [if_neg hlt] at h
      rw [Loop.ends_iff_of_done hround, ← h]
      simp

/-- A search that is back at its first index goes round for ever. -/
theorem not_ends_search {id : ℕ} {required : List String} {r : Except Fault Bool}
    (h : scanAttributes attributes attributeCount id 256 0 = .error .diverges) :
    ¬ Loop.Ends (attributeRound tr attributes attributeCount clusterName)
      (.search id 0 required) r := by
  -- The invariant: the search is at an index from which no number of rounds is enough.
  refine Loop.not_ends (I := fun s => ∃ i, s = .search id i required ∧
    ∀ rounds, scanAttributes attributes attributeCount id rounds i = .error .diverges) ?_
    ⟨0, rfl, scanAttributes_diverges h⟩
  intro s hs
  obtain ⟨i, rfl, hrounds⟩ := hs
  have hround := hrounds 1
  unfold scanAttributes at hround
  split_ifs at hround with hlt
  cases hat : attributes[i]? with
  | none =>
    rw [hat] at hround
    cases hround
  | some a =>
    rw [hat] at hround
    dsimp only at hround
    split_ifs at hround with hid
    refine ⟨.search id ((i + 1) % 256) required, ?_, (i + 1) % 256, rfl, fun rounds => ?_⟩
    · simp only [attributeRound, if_pos hlt, hat, if_neg hid]
    · exact (scanAttributes_succ_diverges (hrounds (rounds + 1))).2

/-- The comparison ends with an answer if and only if the rounds of its searches are enough for it. -/
theorem ends_names_iff {required : List String} {answer : Bool} :
    Loop.Ends (attributeRound tr attributes attributeCount clusterName) (.names required)
        (.ok answer) ↔
      compareAttributes tr attributes attributeCount clusterName required = .ok answer := by
  induction required with
  | nil =>
    have hround : attributeRound tr attributes attributeCount clusterName (.names []) =
        .inr (.ok true) := rfl
    rw [Loop.ends_iff_of_done hround]
    exact eq_comm
  | cons name required ih =>
    unfold compareAttributes at ih ⊢
    rw [List.allM_cons]
    cases hresolve : tr.getMatterAttributeId clusterName name with
    | none =>
      have hround : attributeRound tr attributes attributeCount clusterName
          (.names (name :: required)) = .inr (.ok false) := by
        simp only [attributeRound, hresolve]
      rw [Loop.ends_iff_of_done hround]
      exact eq_comm
    | some id =>
      have hround : attributeRound tr attributes attributeCount clusterName
          (.names (name :: required)) = .inl (.search id 0 required) := by
        simp only [attributeRound, hresolve]
      rw [Loop.ends_iff_of_next hround]
      dsimp only
      by_cases hdiverges :
          scanAttributes attributes attributeCount id 256 0 = .error .diverges
      · rw [hdiverges]
        exact iff_of_false (not_ends_search hdiverges) (by simp [bind, Except.bind])
      · rw [ends_search rfl hdiverges]
        cases scanAttributes attributes attributeCount id 256 0 with
        | error e => simp [bind, Except.bind]
        | ok found =>
          cases found with
          | false => simp [bind, Except.bind, pure, Except.pure, eq_comm]
          | true =>
            rw [if_pos rfl]
            exact ih

variable (tr attributes clusterName) (required : List String)

/-- The comparison with as many attributes as there are ends, and not by a read past them. -/
def ComparisonEnds : Prop :=
  ∃ answer, Loop.Ends (attributeRound tr attributes attributes.length clusterName) (.names required)
    (.ok answer)

/-- Condition: an 8-bit index can pass all attributes, or every name that is looked for is found among
those with such an index. -/
def AttributesInReach : Prop :=
  attributes.length < 256 ∨
    ∀ name ∈ required.takeWhile fun name => (tr.getMatterAttributeId clusterName name).isSome,
      ∃ id, tr.getMatterAttributeId clusterName name = some id ∧
        id ∈ (attributes.take 256).map (·.attributeId)

variable {tr attributes clusterName required}

theorem comparisonEnds_iff_inReach :
    ComparisonEnds tr attributes clusterName required ↔
      AttributesInReach tr attributes clusterName required := by
  unfold ComparisonEnds
  simp only [ends_names_iff]
  induction required with
  | nil => exact iff_of_true ⟨true, rfl⟩ (Or.inr (by simp))
  | cons name required ih =>
    unfold AttributesInReach compareAttributes at ih ⊢
    rw [List.allM_cons, List.takeWhile_cons]
    cases hresolve : tr.getMatterAttributeId clusterName name with
    | none => exact iff_of_true ⟨false, rfl⟩ (Or.inr (by simp))
    | some id =>
      have hscan := @scanAttributes_eq attributes attributes.length id rfl 256 0 rfl (Nat.zero_le _)
      rw [List.drop_zero] at hscan
      dsimp only
      rw [Option.isSome_some, if_pos rfl, List.forall_mem_cons, hscan]
      by_cases hmem : id ∈ (attributes.take 256).map (·.attributeId)
      · have hfound : ∃ id', tr.getMatterAttributeId clusterName name = some id' ∧
            id' ∈ (attributes.take 256).map (·.attributeId) := ⟨id, hresolve, hmem⟩
        rw [if_pos hmem, and_iff_right hfound]
        exact ih
      · have hmissed : ¬ ∃ id', tr.getMatterAttributeId clusterName name = some id' ∧
            id' ∈ (attributes.take 256).map (·.attributeId) := by
          intro h
          obtain ⟨id', hid', hmem'⟩ := h
          rw [hresolve] at hid'
          exact hmem (Option.some.inj hid' ▸ hmem')
        rw [if_neg hmem]
        by_cases hcount : attributes.length < 256
        · rw [if_pos hcount]
          exact iff_of_true ⟨false, rfl⟩ (Or.inl hcount)
        · rw [if_neg hcount]
          refine iff_of_false (by simp [bind, Except.bind]) ?_
          rw [or_iff_right hcount]
          exact fun h => hmissed h.1

end Attributes

/-- Both comparisons end within their bounds if and only if 8 bits are enough for their searches. -/
theorem comparisonsEnd_iff (tr : DeviceTranslator) (attributes : List EmberAfAttributeMetadata)
    (clusterName : String) (required : List String) :
    (ComparisonEnds tr attributes clusterName required ∧
        ComparisonEnds tr attributes clusterName (additionalRequiredAttributes clusterName)) ↔
      AttributesInReach tr attributes clusterName required ∧
        AttributesInReach tr attributes clusterName (additionalRequiredAttributes clusterName) :=
  and_congr comparisonEnds_iff_inReach comparisonEnds_iff_inReach

/-- A name that is in none of 256 attributes is looked for without end. -/
theorem not_comparisonsEnd_of_256_attributes :
    ¬ ∀ (tr : DeviceTranslator) (attributes : List EmberAfAttributeMetadata) (clusterName : String)
        (required : List String), attributes.length < 65536 →
      ComparisonEnds tr attributes clusterName required ∧
        ComparisonEnds tr attributes clusterName (additionalRequiredAttributes clusterName) := by
  intro h
  have hends := (h levelTranslator (List.replicate 256 ⟨0, 1, 1, .code 0x20, true, true⟩)
    "LevelControl" ["CurrentLevel"] (by rw [List.length_replicate]; omega)).1
  rw [comparisonEnds_iff_inReach, AttributesInReach, List.length_replicate] at hends
  rcases hends with hcount | hreach
  · omega
  · obtain ⟨id, hid, hmem⟩ := hreach "CurrentLevel" (by decide)
    have hzero : id = 0 := Option.some.inj (hid.symm.trans rfl)
    obtain ⟨a, ha, haid⟩ := List.mem_map.mp hmem
    have hone := List.eq_of_mem_replicate (List.mem_of_mem_take ha)
    rw [hone, hzero] at haid
    cases haid

end DeviceType

end UnifyMatterBridge
