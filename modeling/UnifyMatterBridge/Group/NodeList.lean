import UnifyMatterBridge.Group.Translator

/-! The topics of groups (`on_mqtt_message_cb` of `group_translator`): which of them register the
group that they spell, and nothing else. The payload is not looked at. -/
namespace UnifyMatterBridge

namespace GroupTranslator

variable (t : GroupTranslator) (topic : String)

/-- A topic `ucl/by-group/<group>/NodeList/...`. -/
def NodeListTopic (segment : List Char) : Prop :=
  '/' ∉ segment ∧
    ∃ rest, topic.toList = "ucl/by-group/".toList ++ (segment ++ ("/NodeList/".toList ++ rest))

/-- The topic spells the group in decimal. -/
def Spells (group : ℕ) : Prop :=
  ∃ segment, NodeListTopic topic segment ∧ segment ≠ [] ∧ (∀ c ∈ segment, c.isDigit = true) ∧
    Nat.ofDigitChars 10 segment 0 = group ∧ group ≤ 65535

/-- The group that the topic spells is registered; if it spells none, the set stays as it is. -/
def ParsedExactly : Prop :=
  ∃ t', onMqttMessageCb t topic = .ok t' ∧
    (∀ group, Spells topic group → t'.allocatedUnifyGroups = insert group t.allocatedUnifyGroups) ∧
    ((∀ group, ¬ Spells topic group) → t'.allocatedUnifyGroups = t.allocatedUnifyGroups)

/-- Condition: the topic spells a group, the expression is not found in it, or the number at the start of
the segment that is found stands for a group that is registered already. -/
def WellBehaved : Prop :=
  (∃ group, Spells topic group) ∨ Topic.search nodeListPattern topic.toList = none ∨
    ∃ segment rest n, Topic.search nodeListPattern topic.toList = some (segment :: rest) ∧
      stoi (String.ofList segment) = .ok n ∧ toUInt16 n ∈ t.allocatedUnifyGroups

variable {t topic}

theorem onMqttMessageCb_of_none (h : Topic.search nodeListPattern topic.toList = none) :
    onMqttMessageCb t topic = .ok t := by
  unfold onMqttMessageCb
  rw [h]

theorem onMqttMessageCb_of_some {segment : List Char} {rest : List (List Char)}
    (h : Topic.search nodeListPattern topic.toList = some (segment :: rest)) :
    onMqttMessageCb t topic =
      (stoi (String.ofList segment)).map fun n => registerUnifyGroup t (toUInt16 n) := by
  unfold onMqttMessageCb
  rw [h]
  dsimp only
  cases stoi (String.ofList segment) with
  | error e => rfl
  | ok n => rfl

theorem NodeListTopic.search {segment : List Char} (h : NodeListTopic topic segment) :
    ∃ rest, Topic.search nodeListPattern topic.toList = some (segment :: rest) := by
  obtain ⟨hlevel, tail, htopic⟩ := h
  have hsplit : tail.takeWhile (· ≠ '/') ++ tail.dropWhile (· ≠ '/') = tail :=
    List.takeWhile_append_dropWhile
  have hfits : Topic.Fits nodeListPattern [segment, tail.takeWhile (· ≠ '/')] := by
    refine ⟨hlevel, trivial, fun hmem => ?_, trivial, rfl⟩
    have hne := List.mem_takeWhile_imp hmem
    simp at hne
  have hrest : tail.dropWhile (· ≠ '/') = [] ∨ ∃ u, tail.dropWhile (· ≠ '/') = '/' :: u := by
    cases hdrop : tail.dropWhile (· ≠ '/') with
    | nil => exact Or.inl rfl
    | cons c u =>
      have hc := List.head?_dropWhile_not (· ≠ '/') tail
      rw [hdrop] at hc
      have heq : c = '/' := by simpa using hc
      exact Or.inr ⟨u, by rw [heq]⟩
  have hmatch := Topic.matchHere_render_append hfits hrest
  have hrender : Topic.render nodeListPattern [segment, tail.takeWhile (· ≠ '/')] ++
      tail.dropWhile (· ≠ '/') = topic.toList := by
    rw [htopic]
    simp only [nodeListPattern, Topic.render, List.append_nil, List.append_assoc, hsplit]
  rw [hrender] at hmatch
  exact ⟨_, Topic.search_of_matchHere hmatch⟩

theorem onMqttMessageCb_of_spells {group : ℕ} (h : Spells topic group) :
    onMqttMessageCb t topic = .ok (registerUnifyGroup t group) := by
  obtain ⟨segment, hnodeList, hne, hdigits, hvalue, hle⟩ := h
  obtain ⟨rest, hsearch⟩ := hnodeList.search
  have hstoi := stoi_of_isDigit hne hdigits (by omega)
  have hcast : toUInt16 (group : ℤ) = group := by
    unfold toUInt16
    omega
  rw [onMqttMessageCb_of_some hsearch, hstoi, hvalue]
  change Except.ok (registerUnifyGroup t (toUInt16 (group : ℤ))) = _
  rw [hcast]

theorem Spells.unique {group group' : ℕ} (h : Spells topic group) (h' : Spells topic group') :
    group = group' := by
  obtain ⟨segment, hnodeList, -, -, hvalue, -⟩ := h
  obtain ⟨segment', hnodeList', -, -, hvalue', -⟩ := h'
  obtain ⟨rest, hsearch⟩ := hnodeList.search
  obtain ⟨rest', hsearch'⟩ := hnodeList'.search
  rw [hsearch] at hsearch'
  have hsegment : segment = segment' := (List.cons.inj (Option.some.inj hsearch')).1
  rw [← hvalue, ← hvalue', hsegment]

theorem parsedExactly_of_spells {group : ℕ} (h : Spells topic group) : ParsedExactly t topic := by
  refine ⟨registerUnifyGroup t group, onMqttMessageCb_of_spells h, ?_, ?_⟩
  · intro group' h'
    rw [h'.unique h]
    rfl
  · intro hnone
    exact absurd h (hnone group)

theorem parsedExactly_of_not_spells (hnone : ∀ group, ¬ Spells topic group) :
    ParsedExactly t topic ↔ ∃ t', onMqttMessageCb t topic = .ok t' ∧
      t'.allocatedUnifyGroups = t.allocatedUnifyGroups := by
  constructor
  · intro h
    obtain ⟨t', ht', -, hsame⟩ := h
    exact ⟨t', ht', hsame hnone⟩
  · intro h
    obtain ⟨t', ht', hsame⟩ := h
    exact ⟨t', ht', fun group hgroup => absurd hgroup (hnone group), fun _ => hsame⟩

/-- The set stays as it is if the number at the start of the segment is registered. -/
theorem keeps_iff_of_some {segment : List Char} {rest : List (List Char)}
    (h : Topic.search nodeListPattern topic.toList = some (segment :: rest)) :
    (∃ t', onMqttMessageCb t topic = .ok t' ∧
        t'.allocatedUnifyGroups = t.allocatedUnifyGroups) ↔
      ∃ n, stoi (String.ofList segment) = .ok n ∧ toUInt16 n ∈ t.allocatedUnifyGroups := by
  rw [onMqttMessageCb_of_some h]
  constructor
  · intro h
    obtain ⟨t', ht', hsame⟩ := h
    cases hstoi : stoi (String.ofList segment) with
    | error e =>
      rw [hstoi] at ht'
      cases ht'
    | ok n =>
      rw [hstoi] at ht'
      cases ht'
      refine ⟨n, rfl, ?_⟩
      rw [← hsame]
      exact Finset.mem_insert_self _ _
  · intro h
    obtain ⟨n, hstoi, hregistered⟩ := h
    rw [hstoi]
    exact ⟨registerUnifyGroup t (toUInt16 n), rfl, Finset.insert_eq_of_mem hregistered⟩

/-- A topic is parsed exactly if and only if it is well behaved. -/
theorem parsedExactly_iff (t : GroupTranslator) (topic : String) :
    ParsedExactly t topic ↔ WellBehaved t topic := by
  by_cases hspells : ∃ group, Spells topic group
  · obtain ⟨group, hgroup⟩ := hspells
    exact iff_of_true (parsedExactly_of_spells hgroup) (Or.inl ⟨group, hgroup⟩)
  · rw [parsedExactly_of_not_spells (not_exists.mp hspells), WellBehaved, or_iff_right hspells]
    cases hsearch : Topic.search nodeListPattern topic.toList with
    | none => exact iff_of_true ⟨t, onMqttMessageCb_of_none hsearch, rfl⟩ (Or.inl rfl)
    | some caps =>
      cases caps with
      | nil =>
        have hlength := Topic.length_of_search hsearch
        cases hlength
      | cons segment rest =>
        rw [keeps_iff_of_some hsearch, or_iff_right (Option.some_ne_none _)]
        constructor
        · intro h
          obtain ⟨n, hstoi, hregistered⟩ := h
          exact ⟨segment, rest, n, rfl, hstoi, hregistered⟩
        · intro h
          obtain ⟨segment', rest', n, hcaps, hstoi, hregistered⟩ := h
          obtain ⟨hsegment, -⟩ := List.cons.inj (Option.some.inj hcaps)
          exact ⟨n, hsegment ▸ hstoi, hregistered⟩

/-- A topic of the subscription whose group segment is no number throws. -/
theorem not_parsedExactly_of_text :
    ¬ ∀ (t : GroupTranslator) (rest : String), ParsedExactly t ("ucl/by-group/" ++ rest) := by
  intro h
  obtain ⟨t', ht', -⟩ := h (start (KeyValueStore.empty fun _ => false)) "all/NodeList/OnOff"
  have hnodeList : NodeListTopic ("ucl/by-group/" ++ "all/NodeList/OnOff") "all".toList :=
    ⟨by decide, "OnOff".toList, by decide⟩
  obtain ⟨rest, hsearch⟩ := hnodeList.search
  have hstoi : stoi (String.ofList "all".toList) = .error .invalidArgument := by decide
  rw [onMqttMessageCb_of_some hsearch, hstoi] at ht'
  cases ht'

end GroupTranslator

end UnifyMatterBridge
