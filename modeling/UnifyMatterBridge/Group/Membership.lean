import UnifyMatterBridge.Group.Commands

/-! Group membership in the Matter stack against the mapping to Unify groups: a mapping is kept
per fabric and group, but removed by commands that address one endpoint. -/
namespace UnifyMatterBridge.GroupClusterCommandHandler

variable {P : Type} {stack : GroupStack P} {bridgedEndpoint : ℕ → Option (String × ℕ)}

/-- The command makes the addressed endpoint a member of the group, unless the stack declines. -/
def Adds (inv : GroupInvocation) (cache : AttributeCache) (groupId : ℕ) : Prop :=
  match inv.command with
  | .addGroup (some (g, _)) => g = groupId
  | .addGroupIfIdentifying (some (g, _)) =>
    g = groupId ∧ identifying cache inv.path.endpointId = .ok true
  | _ => False

/-- The command ends the membership of the addressed endpoint in the group. -/
def Removes (inv : GroupInvocation) (groupId : ℕ) : Prop :=
  match inv.command with
  | .removeGroup (some g) => g = groupId
  | .removeAllGroups (some ()) => True
  | _ => False

/-- What is relied on: the stack lists a group of a fabric iff some endpoint is a member, and a
command makes at most the addressed endpoint a member and surely ends its membership. -/
structure Lawful (stack : GroupStack P) : Prop where
  getGroupInfo_iff : ∀ p f g, stack.getGroupInfo p f g = true ↔
    ∃ e, stack.hasEndpoint p f g e = true
  mem_iterateGroupInfo : ∀ p f g, g ∈ stack.iterateGroupInfo p f ↔
    ∃ e, stack.hasEndpoint p f g e = true
  process_adds : ∀ p inv cache f g e, stack.hasEndpoint (stack.process p inv cache) f g e = true →
    stack.hasEndpoint p f g e = true ∨
      f = inv.fabricIndex ∧ e = inv.path.endpointId ∧ Adds inv cache g
  process_removes : ∀ p inv cache g, Removes inv g →
    stack.hasEndpoint (stack.process p inv cache) inv.fabricIndex g inv.path.endpointId = false

structure System (P : Type) where
  translator : GroupTranslator
  provider : P

inductive Event where
  | command (inv : GroupInvocation) (cache : AttributeCache)
  | mqttMessage (topic : String)
  | restart

/-- The stack sees a command once the handler has returned. -/
def step (stack : GroupStack P) (bridgedEndpoint : ℕ → Option (String × ℕ)) (s : System P) :
    Event → System P
  | .command inv cache =>
    let r := invokeCommand stack bridgedEndpoint s.provider s.translator cache inv
    match r.exception with
    | none => ⟨r.translator, stack.process s.provider inv cache⟩
    | some _ => ⟨r.translator, s.provider⟩
  | .mqttMessage topic => ⟨s.translator.step (.mqttMessage topic), s.provider⟩
  | .restart => ⟨s.translator.step .restart, s.provider⟩

/-- Every group that some endpoint is a member of is mapped. -/
def MembersMapped (stack : GroupStack P) (s : System P) : Prop :=
  ∀ f g e, stack.hasEndpoint s.provider f g e = true →
    (s.translator.getUnifyGroup ⟨g, f⟩).isSome = true

structure Sound (s : System P) : Prop where
  faithful : s.translator.kvs.Faithful
  cursor_lt : s.translator.lastAllocatedGroup < 65536

structure Inv (stack : GroupStack P) (s : System P) : Prop extends Sound s where
  mapped : MembersMapped stack s

/-- Condition on an event: an add finds a free id, and a group or all groups of a fabric are only
removed from their last member. -/
def EventCondition (stack : GroupStack P) (s : System P) : Event → Prop
  | .command inv _ =>
    match inv.command with
    | .addGroup (some _) | .addGroupIfIdentifying (some _) =>
      ∃ id, GroupTranslator.FirstUnregistered s.translator.allocatedUnifyGroups
        s.translator.lastAllocatedGroup id
    | .removeGroup (some g) => ∀ e, stack.hasEndpoint s.provider inv.fabricIndex g e = true →
        e = inv.path.endpointId
    | .removeAllGroups (some ()) =>
      ∀ g e, stack.hasEndpoint s.provider inv.fabricIndex g e = true → e = inv.path.endpointId
    | _ => True
  | .mqttMessage _ | .restart => True

/-- What a command has done to the mappings: those of other fabrics are untouched. -/
structure Touches (fabricIndex : ℕ) (t t' : GroupTranslator) : Prop where
  faithful : t'.kvs.Faithful
  cursor_lt : t'.lastAllocatedGroup < 65536
  other : ∀ g, g.fabricIndex ≠ fabricIndex → t'.getUnifyGroup g = t.getUnifyGroup g

section Translate

variable {p : P} {t t' : GroupTranslator} {cache : AttributeCache} {inv : GroupInvocation} {f g : ℕ}
  {s : System P}

theorem touches_refl (hf : t.kvs.Faithful) (hlt : t.lastAllocatedGroup < 65536) (f : ℕ) :
    Touches f t t :=
  ⟨hf, hlt, fun _ _ => rfl⟩

theorem touches_removeMatterGroup (hf : t.kvs.Faithful) (hlt : t.lastAllocatedGroup < 65536)
    (g f : ℕ) : Touches f t (t.removeMatterGroup ⟨g, f⟩) where
  faithful := (GroupTranslator.faithful_removeMatterGroup _ _).mpr hf
  cursor_lt := by
    rw [GroupTranslator.lastAllocatedGroup_removeMatterGroup]
    exact hlt
  other h hne := by
    rw [GroupTranslator.getUnifyGroup_removeMatterGroup, if_neg]
    rintro rfl
    exact hne rfl

theorem removeAllGroups_spec (stack : GroupStack P) (p : P) (f : ℕ) (t : GroupTranslator) :
    (removeAllGroups stack p f t).lastAllocatedGroup = t.lastAllocatedGroup ∧
    ((removeAllGroups stack p f t).kvs.Faithful ↔ t.kvs.Faithful) ∧
    ∀ g, (removeAllGroups stack p f t).getUnifyGroup g =
      if g.fabricIndex = f ∧ g.group ∈ stack.iterateGroupInfo p f then none
      else t.getUnifyGroup g := by
  unfold removeAllGroups
  induction stack.iterateGroupInfo p f generalizing t with
  | nil => simp
  | cons groupId ids ih =>
    obtain ⟨h₁, h₂, h₃⟩ := ih (t.removeMatterGroup ⟨groupId, f⟩)
    refine ⟨h₁.trans (GroupTranslator.lastAllocatedGroup_removeMatterGroup t _),
      h₂.trans (GroupTranslator.faithful_removeMatterGroup t _), fun g => ?_⟩
    rw [List.foldl_cons, h₃, GroupTranslator.getUnifyGroup_removeMatterGroup]
    have hg : g = ⟨groupId, f⟩ ↔ g.group = groupId ∧ g.fabricIndex = f := by
      cases g
      exact MatterGroup.mk.injEq .. ▸ Iff.rfl
    simp only [hg, List.mem_cons]
    by_cases hf : g.fabricIndex = f <;> by_cases hid : g.group = groupId <;> simp [hf, hid]

theorem touches_removeAllGroups (hf : t.kvs.Faithful) (hlt : t.lastAllocatedGroup < 65536) (f : ℕ) :
    Touches f t (removeAllGroups stack p f t) := by
  obtain ⟨h₁, h₂, h₃⟩ := removeAllGroups_spec stack p f t
  refine ⟨h₂.mpr hf, by rw [h₁]; exact hlt, fun g hg => ?_⟩
  rw [h₃, if_neg fun h => hg h.1]

/-- Adding a group touches no other, and maps it if the stack knows it only when mapped. -/
theorem addGroup_spec (hf : t.kvs.Faithful) (hlt : t.lastAllocatedGroup < 65536) (path : CommandPath)
    (f g : ℕ) :
    Touches f t (addGroup stack p t path f g).1 ∧
    (∀ h, h ≠ ⟨g, f⟩ → (addGroup stack p t path f g).1.getUnifyGroup h = t.getUnifyGroup h) ∧
    ((∃ id, GroupTranslator.FirstUnregistered t.allocatedUnifyGroups t.lastAllocatedGroup id) →
      (stack.getGroupInfo p f g = true → (t.getUnifyGroup ⟨g, f⟩).isSome = true) →
      (stack.hasEndpoint p f g path.endpointId = true →
        (t.getUnifyGroup ⟨g, f⟩).isSome = true) →
      ((addGroup stack p t path f g).1.getUnifyGroup ⟨g, f⟩).isSome = true) := by
  unfold addGroup
  by_cases hmember : stack.hasEndpoint p f g path.endpointId = true
  · rw [if_pos hmember]
    exact ⟨touches_refl hf hlt f, fun _ _ => rfl, fun _ _ hmapped => hmapped hmember⟩
  · rw [if_neg hmember]
    by_cases hinfo : stack.getGroupInfo p f g = true
    · simp only [hinfo, if_true]
      exact ⟨touches_refl hf hlt f, fun _ _ => trivial, fun _ hmapped _ => hmapped trivial⟩
    · have hresult : ∀ (r : GroupTranslator × Bool) (o : Option ℕ),
          (if r.2 = true then (r.1, o) else (r.1, none)).1 = r.1 := by
        intro r o
        split_ifs <;> rfl
      simp only [hinfo, Bool.false_eq_true, if_false, hresult]
      have hf' := GroupTranslator.addMatterGroup_faithful hf ⟨g, f⟩
      have hlt' := GroupTranslator.addMatterGroup_cursor_lt hlt ⟨g, f⟩
      have hother : ∀ h, h ≠ ⟨g, f⟩ →
          (t.addMatterGroup ⟨g, f⟩).1.getUnifyGroup h = t.getUnifyGroup h := by
        intro h hne
        rcases GroupTranslator.addMatterGroup_spec hf hlt ⟨g, f⟩ with
          ⟨-, hget⟩ | ⟨-, id, -, hget⟩
        · exact hget h
        · rw [hget, if_neg hne]
      refine ⟨⟨hf', hlt', fun h hne => hother h ?_⟩, hother, fun hfree _ _ => ?_⟩
      · rintro rfl
        exact hne rfl
      · have hok := GroupTranslator.addMatterGroup_succeeds hf hlt ⟨g, f⟩ hfree
        rcases GroupTranslator.addMatterGroup_spec hf hlt ⟨g, f⟩ with
          ⟨hno, -⟩ | ⟨-, id, -, hget⟩
        · rw [hok] at hno
          cases hno
        · rw [hget, if_pos rfl]
          rfl

theorem translate_cases {r : Option (String × Json)}
    (h : translate stack p t cache inv = .ok (t', r)) :
    (t' = t ∧ ∀ g, ¬Adds inv cache g) ∨
    (∃ data : ℕ × Text, (inv.command = .addGroup (some data) ∨
        inv.command = .addGroupIfIdentifying (some data)) ∧
      t' = (addGroup stack p t inv.path inv.fabricIndex data.1).1) ∨
    (∃ g, inv.command = .removeGroup (some g) ∧
      t' = t.removeMatterGroup ⟨g, inv.fabricIndex⟩) ∨
    inv.command = .removeAllGroups (some ()) ∧
      t' = removeAllGroups stack p inv.fabricIndex t := by
  unfold translate at h
  split at h
  · next groupId groupName hcmd =>
    cases h
    exact .inr (.inl ⟨(groupId, groupName), .inl hcmd, rfl⟩)
  · next g hcmd =>
    dsimp only at h
    split at h
    · cases h
      exact .inr (.inr (.inl ⟨g, hcmd, rfl⟩))
    · cases h
      exact .inl ⟨rfl, fun g hadds => by simp [Adds, hcmd] at hadds⟩
  · next hcmd =>
    cases h
    exact .inr (.inr (.inr ⟨hcmd, rfl⟩))
  · next groupId groupName hcmd =>
    cases hid : identifying cache inv.path.endpointId with
    | error e =>
      rw [hid] at h
      cases h
    | ok b =>
      rw [hid] at h
      cases b with
      | true =>
        cases h
        exact .inr (.inl ⟨(groupId, groupName), .inr hcmd, rfl⟩)
      | false =>
        cases h
        exact .inl ⟨rfl, fun g hadds => by simp [Adds, hcmd, hid] at hadds⟩
  all_goals
    next hcmd =>
      cases h
      exact .inl ⟨rfl, fun g hadds => by simp [Adds, hcmd] at hadds⟩

/-- Only the group name of an add can be something that does not dump. -/
theorem translate_isText {cmd : String} {payload : Json}
    (h : translate stack p t cache inv = .ok (t', some (cmd, payload)))
    (htext : payload.isText = false) :
    ∃ data : ℕ × Text, (inv.command = .addGroup (some data) ∨
        inv.command = .addGroupIfIdentifying (some data)) ∧
      t' = (addGroup stack p t inv.path inv.fabricIndex data.1).1 := by
  rcases translate_cases h with ⟨-, hno⟩ | hadd | ⟨g, hcmd, -⟩ | ⟨hcmd, -⟩
  · unfold translate at h
    split at h
    · next g name hcmd => exact absurd (by simp [Adds, hcmd]) (hno g)
    · dsimp only at h
      split at h
      · cases h
        cases htext
      · cases h
    · cases h
      cases htext
    · next g name hcmd =>
      cases hid : identifying cache inv.path.endpointId with
      | error e =>
        rw [hid] at h
        cases h
      | ok b =>
        rw [hid] at h
        cases b with
        | true => exact absurd (by simp [Adds, hcmd, hid]) (hno g)
        | false => cases h
    all_goals cases h
  · exact hadd
  · simp only [translate, hcmd] at h
    split at h
    · cases h
      cases htext
    · cases h
  · simp only [translate, hcmd] at h
    cases h
    cases htext

theorem translate_touches (hf : t.kvs.Faithful) (hlt : t.lastAllocatedGroup < 65536)
    {r : Option (String × Json)} (h : translate stack p t cache inv = .ok (t', r)) :
    Touches inv.fabricIndex t t' := by
  rcases translate_cases h with ⟨rfl, -⟩ | ⟨data, -, rfl⟩ | ⟨g, -, rfl⟩ | ⟨-, rfl⟩
  · exact touches_refl hf hlt _
  · exact (addGroup_spec hf hlt _ _ _).1
  · exact touches_removeMatterGroup hf hlt _ _
  · exact touches_removeAllGroups hf hlt _

/-- A group of the command's fabric that has a member afterwards is mapped. -/
theorem Inv.translate_mapped (hs : Lawful stack) (hI : Inv stack s) {r : Option (String × Json)}
    (h : translate stack s.provider s.translator cache inv = .ok (t', r))
    (hc : EventCondition stack s (.command inv cache)) {g e : ℕ}
    (he : stack.hasEndpoint (stack.process s.provider inv cache) inv.fabricIndex g e = true) :
    (t'.getUnifyGroup ⟨g, inv.fabricIndex⟩).isSome = true := by
  have hold := hs.process_adds _ _ _ _ _ _ he
  rcases translate_cases h with ⟨rfl, hno⟩ | ⟨data, hcmd, rfl⟩ | ⟨k, hcmd, rfl⟩ | ⟨hcmd, rfl⟩
  · rcases hold with hmem | ⟨-, -, hadds⟩
    · exact hI.mapped _ _ _ hmem
    · exact absurd hadds (hno g)
  · obtain ⟨-, hother, hmap⟩ := addGroup_spec hI.faithful hI.cursor_lt inv.path inv.fabricIndex data.1
    by_cases hg : g = data.1
    · rw [hg]
      refine hmap ?_ (fun hinfo => ?_) fun hmem => hI.mapped _ _ _ hmem
      · rcases hcmd with hcmd | hcmd <;> simpa [EventCondition, hcmd] using hc
      · obtain ⟨x, hx⟩ := (hs.getGroupInfo_iff _ _ _).mp hinfo
        exact hI.mapped _ _ _ hx
    · rw [hother _ (by simp [hg])]
      rcases hold with hmem | ⟨-, -, hadds⟩
      · exact hI.mapped _ _ _ hmem
      · rcases hcmd with hcmd | hcmd <;> simp [Adds, hcmd, Ne.symm hg] at hadds
  · rw [GroupTranslator.getUnifyGroup_removeMatterGroup]
    have hmem : stack.hasEndpoint s.provider inv.fabricIndex g e = true := by
      rcases hold with hmem | ⟨-, -, hadds⟩
      · exact hmem
      · simp [Adds, hcmd] at hadds
    have hne : g ≠ k := by
      rintro rfl
      have hlast : ∀ x, stack.hasEndpoint s.provider inv.fabricIndex g x = true →
          x = inv.path.endpointId := by simpa [EventCondition, hcmd] using hc
      have hgone := hs.process_removes s.provider inv cache g (by simp [Removes, hcmd])
      rw [hlast e hmem, hgone] at he
      cases he
    rw [if_neg (by simp [hne])]
    exact hI.mapped _ _ _ hmem
  · have hmem : stack.hasEndpoint s.provider inv.fabricIndex g e = true := by
      rcases hold with hmem | ⟨-, -, hadds⟩
      · exact hmem
      · simp [Adds, hcmd] at hadds
    have hlast : ∀ k x, stack.hasEndpoint s.provider inv.fabricIndex k x = true →
        x = inv.path.endpointId := by simpa [EventCondition, hcmd] using hc
    have hgone := hs.process_removes s.provider inv cache g (by simp [Removes, hcmd])
    rw [hlast g e hmem, hgone] at he
    cases he

end Translate

section Run

variable {s : System P}

/-- A command leaves everything as it was, or it reaches the stack, or it throws once a group has
been added. -/
theorem step_command_cases (stack : GroupStack P) (bridgedEndpoint : ℕ → Option (String × ℕ))
    (s : System P) (inv : GroupInvocation) (cache : AttributeCache) :
    step stack bridgedEndpoint s (.command inv cache) = s ∨
    (∃ t' r, translate stack s.provider s.translator cache inv = .ok (t', r) ∧
      step stack bridgedEndpoint s (.command inv cache) =
        ⟨t', stack.process s.provider inv cache⟩) ∨
    ∃ data : ℕ × Text, (inv.command = .addGroup (some data) ∨
        inv.command = .addGroupIfIdentifying (some data)) ∧
      step stack bridgedEndpoint s (.command inv cache) =
        ⟨(addGroup stack s.provider s.translator inv.path inv.fabricIndex data.1).1, s.provider⟩ := by
  unfold step invokeCommand
  dsimp only
  cases h : translate stack s.provider s.translator cache inv with
  | error e => exact .inl rfl
  | ok x =>
    obtain ⟨t', r⟩ := x
    cases r with
    | none => exact .inr (.inl ⟨t', none, rfl, rfl⟩)
    | some c =>
      obtain ⟨cmd, payload⟩ := c
      dsimp only
      split
      · exact .inr (.inl ⟨t', some (cmd, payload), rfl, rfl⟩)
      · next e hex =>
        have htext : payload.isText = false := by
          by_contra hne
          rw [sendUnifyMqttCmd_exception (by simpa using hne)] at hex
          cases hex
        obtain ⟨data, hcmd, rfl⟩ := translate_isText h htext
        exact .inr (.inr ⟨data, hcmd, rfl⟩)

/-- A command on one fabric leaves the mappings of the others unchanged. -/
theorem Sound.step_command_other (hI : Sound s) (inv : GroupInvocation) (cache : AttributeCache)
    {g : MatterGroup} (hg : g.fabricIndex ≠ inv.fabricIndex) :
    (step stack bridgedEndpoint s (.command inv cache)).translator.getUnifyGroup g =
      s.translator.getUnifyGroup g := by
  rcases step_command_cases stack bridgedEndpoint s inv cache with
    h | ⟨t', r, ht, h⟩ | ⟨data, -, h⟩
  · rw [h]
  · rw [h]
    exact (translate_touches hI.faithful hI.cursor_lt ht).other g hg
  · rw [h]
    exact (addGroup_spec hI.faithful hI.cursor_lt _ _ _).1.other g hg

theorem Sound.step (hI : Sound s) (ev : Event) : Sound (step stack bridgedEndpoint s ev) := by
  cases ev with
  | command inv cache =>
    rcases step_command_cases stack bridgedEndpoint s inv cache with
      h | ⟨t', r, ht, h⟩ | ⟨data, -, h⟩
    · rw [h]
      exact ⟨hI.faithful, hI.cursor_lt⟩
    · have htouch := translate_touches hI.faithful hI.cursor_lt ht
      rw [h]
      exact ⟨htouch.faithful, htouch.cursor_lt⟩
    · have hspec := @addGroup_spec _ stack s.provider _ hI.faithful hI.cursor_lt inv.path
        inv.fabricIndex data.1
      rw [h]
      exact ⟨hspec.1.faithful, hspec.1.cursor_lt⟩
  | mqttMessage topic =>
    unfold GroupClusterCommandHandler.step
    dsimp only
    rcases GroupTranslator.step_mqttMessage_cases s.translator topic with h | ⟨group, h⟩
    · rw [h]
      exact ⟨hI.faithful, hI.cursor_lt⟩
    · rw [h]
      exact ⟨hI.faithful, hI.cursor_lt⟩
  | restart => exact ⟨hI.faithful, show 1 < 65536 by decide⟩

theorem Inv.step_command (hs : Lawful stack) (hI : Inv stack s) {inv : GroupInvocation}
    {cache : AttributeCache} (hc : EventCondition stack s (.command inv cache)) :
    Inv stack (step stack bridgedEndpoint s (.command inv cache)) := by
  rcases step_command_cases stack bridgedEndpoint s inv cache with
    h | ⟨t', r, ht, h⟩ | ⟨data, hcmd, h⟩
  · rw [h]
    exact hI
  · have htouch := translate_touches hI.faithful hI.cursor_lt ht
    rw [h]
    refine ⟨⟨htouch.faithful, htouch.cursor_lt⟩, fun f g e he => ?_⟩
    by_cases hf : f = inv.fabricIndex
    · rw [hf] at he ⊢
      exact hI.translate_mapped hs ht hc he
    · rcases hs.process_adds _ _ _ _ _ _ he with hmem | ⟨hf', -, -⟩
      · exact htouch.other ⟨g, f⟩ hf ▸ hI.mapped f g e hmem
      · exact absurd hf' hf
  · obtain ⟨htouch, hrest, hmap⟩ :=
      addGroup_spec hI.faithful hI.cursor_lt inv.path inv.fabricIndex data.1
    rw [h]
    refine ⟨⟨htouch.faithful, htouch.cursor_lt⟩, fun f g e he => ?_⟩
    by_cases hg : (⟨g, f⟩ : MatterGroup) = ⟨data.1, inv.fabricIndex⟩
    · obtain ⟨rfl, rfl⟩ := MatterGroup.mk.inj hg
      refine hmap ?_ (fun _ => hI.mapped _ _ _ he) fun hmem => hI.mapped _ _ _ hmem
      rcases hcmd with hcmd | hcmd <;> simpa [EventCondition, hcmd] using hc
    · exact hrest ⟨g, f⟩ hg ▸ hI.mapped f g e he

theorem Inv.step (hs : Lawful stack) (hI : Inv stack s) {ev : Event}
    (hc : EventCondition stack s ev) : Inv stack (step stack bridgedEndpoint s ev) := by
  cases ev with
  | command inv cache => exact hI.step_command hs hc
  | mqttMessage topic =>
    refine ⟨hI.toSound.step _, ?_⟩
    unfold GroupClusterCommandHandler.step
    dsimp only
    rcases GroupTranslator.step_mqttMessage_cases s.translator topic with h | ⟨group, h⟩
    · rw [h]
      exact hI.mapped
    · rw [h]
      exact hI.mapped
  | restart => exact ⟨hI.toSound.step _, hI.mapped⟩

/-- Over every run in which adds find a free id and groups are only removed from their last
member, every group with a member is mapped; and after any run, whatever command comes next leaves the
mappings of other fabrics unchanged. -/
theorem members_mapped_run (hs : Lawful stack) (bridgedEndpoint : ℕ → Option (String × ℕ)) {p : P}
    (hp : ∀ f g e, stack.hasEndpoint p f g e = false) (evs : List Event) :
    let s := EventSystem.run (GroupClusterCommandHandler.step stack bridgedEndpoint)
      ⟨.start (KeyValueStore.empty fun _ => false), p⟩ evs
    (EventSystem.Guarded (GroupClusterCommandHandler.step stack bridgedEndpoint)
        (EventCondition stack) ⟨.start (KeyValueStore.empty fun _ => false), p⟩ evs →
      MembersMapped stack s) ∧
    ∀ (inv : GroupInvocation) (cache : AttributeCache) (g : MatterGroup),
      g.fabricIndex ≠ inv.fabricIndex →
      (GroupClusterCommandHandler.step stack bridgedEndpoint s
        (.command inv cache)).translator.getUnifyGroup g = s.translator.getUnifyGroup g := by
  have hsound : Sound (⟨.start (KeyValueStore.empty fun _ => false), p⟩ : System P) :=
    ⟨fun _ => rfl, show 1 < 65536 by decide⟩
  constructor
  · intro hc
    have hstart : Inv stack ⟨.start (KeyValueStore.empty fun _ => false), p⟩ := by
      refine ⟨hsound, fun f g e he => ?_⟩
      rw [hp] at he
      cases he
    have hI := EventSystem.invariant_run (fun _ _ hI hc => hI.step hs hc) hstart hc
    exact hI.mapped
  · intro inv cache g hg
    have hstep : ∀ (s : System P) (ev : Event), Sound s →
        Sound (GroupClusterCommandHandler.step stack bridgedEndpoint s ev) :=
      fun s ev hI => hI.step ev
    have hrun := EventSystem.invariant_run' hstep hsound evs
    exact hrun.step_command_other inv cache hg

end Run

section Example

/-- A group table as the list of memberships `(fabric, group, endpoint)`. -/
def tableStack : GroupStack (List (ℕ × ℕ × ℕ)) where
  hasEndpoint p f g e := decide ((f, g, e) ∈ p)
  getGroupInfo p f g := p.any fun m => m.1 = f ∧ m.2.1 = g
  iterateGroupInfo p f := ((p.filter fun m => m.1 = f).map fun m => m.2.1).eraseDups
  process p inv cache :=
    let add := fun g => (inv.fabricIndex, g, inv.path.endpointId) :: p
    match inv.command with
    | .addGroup (some (g, _)) => add g
    | .removeGroup (some g) => p.filter (· ≠ (inv.fabricIndex, g, inv.path.endpointId))
    | .removeAllGroups (some ()) =>
      p.filter fun m => ¬(m.1 = inv.fabricIndex ∧ m.2.2 = inv.path.endpointId)
    | .addGroupIfIdentifying (some (g, _)) =>
      match identifying cache inv.path.endpointId with
      | .ok true => add g
      | _ => p
    | _ => p

theorem tableStack_lawful : Lawful tableStack where
  getGroupInfo_iff p f g := by
    simp only [tableStack, List.any_eq_true, decide_eq_true_eq]
    constructor
    · rintro ⟨⟨f', g', e⟩, hmem, rfl, rfl⟩
      exact ⟨e, hmem⟩
    · rintro ⟨e, hmem⟩
      exact ⟨_, hmem, rfl, rfl⟩
  mem_iterateGroupInfo p f g := by
    simp only [tableStack, List.mem_eraseDups, List.mem_map, List.mem_filter, decide_eq_true_eq]
    constructor
    · rintro ⟨⟨f', g', e⟩, ⟨hmem, rfl⟩, rfl⟩
      exact ⟨e, hmem⟩
    · rintro ⟨e, hmem⟩
      exact ⟨_, ⟨hmem, rfl⟩, rfl⟩
  process_adds p inv cache f g e h := by
    simp only [tableStack, decide_eq_true_eq] at h ⊢
    unfold Adds
    split at h
    · next hcmd =>
      simp only [hcmd]
      simp only [List.mem_cons, Prod.mk.injEq] at h
      rcases h with ⟨rfl, rfl, rfl⟩ | h
      · exact .inr ⟨rfl, rfl, rfl⟩
      · exact .inl h
    · exact .inl (List.mem_of_mem_filter h)
    · exact .inl (List.mem_of_mem_filter h)
    · next hcmd =>
      split at h
      · next hid =>
        simp only [hcmd, hid, and_true]
        simp only [List.mem_cons, Prod.mk.injEq] at h
        rcases h with ⟨rfl, rfl, rfl⟩ | h
        · exact .inr ⟨rfl, rfl, rfl⟩
        · exact .inl h
      · exact .inl h
    · exact .inl h
  process_removes p inv cache g h := by
    unfold Removes at h
    simp only [tableStack, decide_eq_false_iff_not]
    split at h
    · next hcmd =>
      subst h
      simp [hcmd]
    · next hcmd => simp [hcmd]
    · exact h.elim

private def oneNode : ℕ → Option (String × ℕ) := fun _ => some ("zw-0002", 0)

private def invocation (endpointId : ℕ) (command : GroupCommand) : GroupInvocation :=
  ⟨⟨endpointId, 4, 0⟩, 1, none, command⟩

private theorem firstUnregistered_start (kvs : KeyValueStore) :
    ∃ id, GroupTranslator.FirstUnregistered (GroupTranslator.start kvs).allocatedUnifyGroups
      (GroupTranslator.start kvs).lastAllocatedGroup id :=
  ⟨1, 0, rfl, Finset.notMem_empty 1, by omega, by omega⟩

/-- An endpoint joins a group, and leaves it as its last member. -/
theorem members_mapped_run_last_member :
    let evs := [.command (invocation 2 (.addGroup (some (1, .utf8 "hall")))) .empty,
      .command (invocation 2 (.removeGroup (some 1))) .empty]
    let s := EventSystem.run (step tableStack oneNode)
      ⟨.start (KeyValueStore.empty fun _ => false), []⟩ evs
    MembersMapped tableStack s ∧
      ∀ (inv : GroupInvocation) (cache : AttributeCache) (g : MatterGroup),
        g.fabricIndex ≠ inv.fabricIndex →
        (step tableStack oneNode s (.command inv cache)).translator.getUnifyGroup g =
          s.translator.getUnifyGroup g := by
  have hrun := members_mapped_run tableStack_lawful oneNode (p := []) (fun f g e => rfl)
    [.command (invocation 2 (.addGroup (some (1, .utf8 "hall")))) .empty,
      .command (invocation 2 (.removeGroup (some 1))) .empty]
  refine ⟨hrun.1 ⟨firstUnregistered_start _, fun e he => ?_, trivial⟩, hrun.2⟩
  have hmem : ((1, 1, e) : ℕ × ℕ × ℕ) ∈ [(1, 1, 2)] := of_decide_eq_true he
  have he : e = 2 := by simpa using hmem
  exact he

/-- One of two members is removed, and the mapping goes although the other is left. -/
theorem not_members_mapped_of_two_members :
    ¬∀ evs : List Event, MembersMapped tableStack (EventSystem.run (step tableStack oneNode)
      ⟨.start (KeyValueStore.empty fun _ => false), []⟩ evs) := by
  intro h
  have hrun := h [.command (invocation 2 (.addGroup (some (1, .utf8 "hall")))) .empty,
    .command (invocation 3 (.addGroup (some (1, .utf8 "hall")))) .empty,
    .command (invocation 2 (.removeGroup (some 1))) .empty] 1 1 3 (by decide)
  exact absurd hrun (by decide)

end Example

end UnifyMatterBridge.GroupClusterCommandHandler
