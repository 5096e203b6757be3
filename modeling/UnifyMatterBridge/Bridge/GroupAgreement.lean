import UnifyMatterBridge.Bridge.GroupNetwork
import UnifyMatterBridge.Bridge.Subscriptions
import UnifyMatterBridge.Lib.Roster
import Mathlib.Data.Finset.Erase

/-! What is bridged is in the Unify groups of its Matter groups, over runs of commands: what each command
does to this, and where a command to a group goes. -/
namespace UnifyMatterBridge.GroupClusterCommandHandler

section Definitions

variable {P σ : Type} (stack : GroupStack P) (side : UnifyGroups σ)
  (bridgedEndpoint : ℕ → Option (String × ℕ))

/-- What is bridged is in the Unify groups of its Matter groups, which are mapped, and in no others. -/
def Agree (n : Network P σ) : Prop :=
  Roster.Agree (bridged bridgedEndpoint) (Member stack n.system.provider)
    n.system.translator.getUnifyGroup (known side bridgedEndpoint n.unify)

/-- Condition on an add that comes to the stack. One that is carried out has a Unify group that the
endpoint is told or is in already; of one that is declined the endpoint is told no group but one that it
is in already. -/
def Joins (n : Network P σ) (inv : GroupInvocation) (cache : AttributeCache) (groupId : ℕ) : Prop :=
  let g : MatterGroup := ⟨groupId, inv.fabricIndex⟩
  let e := inv.path.endpointId
  let r := addGroup stack n.system.provider n.system.translator inv.path inv.fabricIndex groupId
  let accepted := Member stack (stack.process n.system.provider inv cache) g e
  (invokeCommand stack bridgedEndpoint n.system.provider n.system.translator cache inv).exception =
    none → ¬ Member stack n.system.provider g e → e ∈ bridged bridgedEndpoint →
      (accepted → ∃ u, r.1.getUnifyGroup g = some u ∧
        (u ∈ known side bridgedEndpoint n.unify e ∨ r.2 = some u)) ∧
      (¬ accepted → ∀ u, r.2 = some u → u ∈ known side bridgedEndpoint n.unify e)

/-- Condition on a removal from a group that is mapped: what is bridged leaves as the last member, and is
in no other group that is mapped to the same one. -/
def Leaves (n : Network P σ) (inv : GroupInvocation) (groupId : ℕ) : Prop :=
  let g : MatterGroup := ⟨groupId, inv.fabricIndex⟩
  let e := inv.path.endpointId
  ∀ u, n.system.translator.getUnifyGroup g = some u →
    (∀ x ∈ bridged bridgedEndpoint, Member stack n.system.provider g x → x = e) ∧
    (e ∈ bridged bridgedEndpoint → ∀ g', Member stack n.system.provider g' e →
      n.system.translator.getUnifyGroup g' = some u → g' = g)

/-- Condition on a removal from all groups: what is bridged leaves those of the fabric as their last
member, and is in none of another fabric. -/
def Clears (n : Network P σ) (inv : GroupInvocation) : Prop :=
  let e := inv.path.endpointId
  (∀ x ∈ bridged bridgedEndpoint, ∀ g, Member stack n.system.provider g x →
    g.fabricIndex = inv.fabricIndex → x = e) ∧
  (e ∈ bridged bridgedEndpoint → ∀ g, Member stack n.system.provider g e →
    g.fabricIndex = inv.fabricIndex)

def AgreeCondition (n : Network P σ) (ev : UnicastEvent) : Prop :=
  match ev.1 with
  | .command inv cache =>
    match inv.command with
    | .addGroup (some (groupId, _)) => Joins stack side bridgedEndpoint n inv cache groupId
    | .addGroupIfIdentifying (some (groupId, _)) =>
      identifying cache inv.path.endpointId = .ok true →
        Joins stack side bridgedEndpoint n inv cache groupId
    | .removeGroup (some groupId) => Leaves stack bridgedEndpoint n inv groupId
    | .removeAllGroups (some ()) => Clears stack bridgedEndpoint n inv
    | _ => True
  | .mqttMessage _ | .restart => True

end Definitions

section Agreement

variable {P σ : Type} {stack : GroupStack P} {side : UnifyGroups σ}
  {bridgedEndpoint : ℕ → Option (String × ℕ)} {n : Network P σ} {inv : GroupInvocation}
  {cache : AttributeCache}

theorem agree_of_neither (hs : Exact stack) (hu : (Event.command inv cache).Unicast)
    (htranslate : translate stack n.system.provider n.system.translator cache inv =
      .ok (n.system.translator, none))
    (hadds : ∀ g, ¬ Adds inv cache g) (hremoves : ∀ g, ¬ Removes inv g)
    (h : Agree stack side bridgedEndpoint n) :
    Agree stack side bridgedEndpoint (networkStep stack side bridgedEndpoint n
      ⟨.command inv cache, hu⟩) := by
  rw [(networkStep_of_unsent side hu htranslate (Or.inl rfl)).1]
  refine (Roster.agree_congr (fun e _ g => ?_) (fun _ _ _ _ => rfl) fun _ _ => rfl).mpr h
  rw [hs.member_of_not_adds hadds]
  exact and_iff_left fun hremoved => hremoves _ hremoved.2.2

/-- An add of what is a member already, which the handler leaves alone. -/
theorem agree_add_of_member (hs : Exact stack) (hu : (Event.command inv cache).Unicast) {groupId : ℕ}
    (hold : Member stack n.system.provider ⟨groupId, inv.fabricIndex⟩ inv.path.endpointId)
    (htranslate : translate stack n.system.provider n.system.translator cache inv =
      .ok (n.system.translator, none))
    (hadds : ∀ g, Adds inv cache g ↔ g = groupId) (hremoves : ∀ g, ¬ Removes inv g)
    (h : Agree stack side bridgedEndpoint n) :
    Agree stack side bridgedEndpoint (networkStep stack side bridgedEndpoint n
      ⟨.command inv cache, hu⟩) := by
  rw [(networkStep_of_unsent side hu htranslate (Or.inl rfl)).1]
  refine (Roster.agree_congr (fun e _ g => ?_) (fun _ _ _ _ => rfl) fun _ _ => rfl).mpr h
  rw [hs.member_add hadds hremoves, or_iff_left_iff_imp]
  rintro ⟨-, rfl, rfl⟩
  exact hold

theorem agree_add_iff (hs : Exact stack) (hinj : Separate bridgedEndpoint)
    (hf : n.system.translator.kvs.Faithful) (hlt : n.system.translator.lastAllocatedGroup < 65536)
    (hu : (Event.command inv cache).Unicast) {groupId : ℕ} (name : Text) {cmd : String}
    (hcmd : cmd = "AddGroup" ∨ cmd = "AddGroupIfIdentifying")
    (htranslate : translate stack n.system.provider n.system.translator cache inv =
      .ok ((addGroup stack n.system.provider n.system.translator inv.path inv.fabricIndex groupId).1,
        (addGroup stack n.system.provider n.system.translator inv.path inv.fabricIndex groupId).2.map
          fun u => (cmd, addPayload name u)))
    (hadds : ∀ g, Adds inv cache g ↔ g = groupId) (hremoves : ∀ g, ¬ Removes inv g)
    (h : Agree stack side bridgedEndpoint n) :
    Agree stack side bridgedEndpoint (networkStep stack side bridgedEndpoint n
        ⟨.command inv cache, hu⟩) ↔
      Joins stack side bridgedEndpoint n inv cache groupId := by
  have hmember := fun g e => @Exact.member_add _ _ n.system.provider _ _ _ hs hadds hremoves g e
  have hname : ∀ g e, Member stack n.system.provider g e →
      (addGroup stack n.system.provider n.system.translator inv.path inv.fabricIndex
        groupId).1.getUnifyGroup g = n.system.translator.getUnifyGroup g :=
    fun g e hg => getUnifyGroup_addGroup_of_member hs.toLawful hf hlt hg
  by_cases hold : Member stack n.system.provider ⟨groupId, inv.fabricIndex⟩ inv.path.endpointId
  · have hadd : addGroup stack n.system.provider n.system.translator inv.path inv.fabricIndex groupId =
        (n.system.translator, none) := if_pos hold
    rw [hadd] at htranslate
    exact iff_of_true (agree_add_of_member hs hu hold htranslate hadds hremoves h)
      fun _ hnot => absurd hold hnot
  · by_cases hquiet : (addGroup stack n.system.provider n.system.translator inv.path inv.fabricIndex
        groupId).2 = none ∨ bridgedEndpoint inv.path.endpointId = none
    · obtain ⟨hstep, hpassed⟩ := networkStep_of_unsent side hu htranslate
        (hquiet.imp_left (congrArg _))
      rw [hstep]
      refine (Roster.agree_join_iff h hmember hname (fun u (hu : none = some u) => (nomatch hu))
        fun e _ u => by simp).trans ?_
      refine Iff.trans (forall_congr' fun he => ?_) ⟨fun hj _ _ => hj, fun hj => hj hpassed hold⟩
      rw [hquiet.resolve_right fun hb => ne_of_not_bridged hb he rfl]
    · rw [not_or] at hquiet
      obtain ⟨u, htold⟩ := Option.ne_none_iff_exists'.mp hquiet.1
      obtain ⟨a, ha⟩ := Option.ne_none_iff_exists'.mp hquiet.2
      rw [htold] at htranslate
      by_cases htext : (addPayload name u).isText = true
      · obtain ⟨hstep, hpassed⟩ := networkStep_of_sent side hu htranslate ha htext
        rw [hstep]
        have hempty : (addPayload name u).isEmpty = false := rfl
        rw [hempty, if_neg Bool.false_ne_true]
        refine (Roster.agree_join_iff h hmember hname (fun u' => getUnifyGroup_of_told) ?_).trans
          ⟨fun hj _ _ => hj, fun hj => hj hpassed hold⟩
        intro e he u'
        rw [htold, Option.some_inj]
        exact mem_known_add hinj ha hcmd name u he u'
      · obtain ⟨hstep, hthrown⟩ := networkStep_of_not_text side hu htranslate ha
          (Bool.not_eq_true _ ▸ htext)
        refine iff_of_true ?_ fun hpassed => absurd hpassed hthrown
        rw [hstep]
        exact (Roster.agree_congr (fun _ _ _ => Iff.rfl) (fun e _ g hg => hname g e hg)
          fun _ _ => rfl).mpr h

/-- A removal from a group without a mapping: it has no member that is bridged. -/
theorem agree_remove_of_unmapped (hs : Exact stack) (hu : (Event.command inv cache).Unicast)
    {groupId : ℕ} (hcmd : inv.command = .removeGroup (some groupId))
    (hname : n.system.translator.getUnifyGroup ⟨groupId, inv.fabricIndex⟩ = none)
    (h : Agree stack side bridgedEndpoint n) :
    Agree stack side bridgedEndpoint (networkStep stack side bridgedEndpoint n
      ⟨.command inv cache, hu⟩) := by
  have htranslate : translate stack n.system.provider n.system.translator cache inv =
      .ok (n.system.translator, none) := by simp only [translate, hcmd, hname]
  rw [(networkStep_of_unsent side hu htranslate (Or.inl rfl)).1]
  refine (Roster.agree_congr (fun e he g => ?_) (fun _ _ _ _ => rfl) fun _ _ => rfl).mpr h
  rw [hs.member_remove hcmd]
  refine and_iff_left_of_imp fun hg => ?_
  rintro ⟨rfl, -⟩
  obtain ⟨u, -, hmapped⟩ := (h e he).1 _ hg
  rw [hname] at hmapped
  cases hmapped

theorem agree_remove_iff (hs : Exact stack) (hinj : Separate bridgedEndpoint)
    (hu : (Event.command inv cache).Unicast) {groupId : ℕ}
    (hcmd : inv.command = .removeGroup (some groupId)) (h : Agree stack side bridgedEndpoint n) :
    Agree stack side bridgedEndpoint (networkStep stack side bridgedEndpoint n
        ⟨.command inv cache, hu⟩) ↔ Leaves stack bridgedEndpoint n inv groupId := by
  cases hname : n.system.translator.getUnifyGroup ⟨groupId, inv.fabricIndex⟩ with
  | none =>
    refine iff_of_true (agree_remove_of_unmapped hs hu hcmd hname h) fun u hmapped => ?_
    rw [hname] at hmapped
    cases hmapped
  | some u₀ =>
    have hleaves : Leaves stack bridgedEndpoint n inv groupId ↔
        (∀ x ∈ bridged bridgedEndpoint, Member stack n.system.provider ⟨groupId, inv.fabricIndex⟩ x →
          x = inv.path.endpointId) ∧
        (inv.path.endpointId ∈ bridged bridgedEndpoint → ∀ g', Member stack n.system.provider g'
          inv.path.endpointId → n.system.translator.getUnifyGroup g' = some u₀ →
            g' = ⟨groupId, inv.fabricIndex⟩) := by
      constructor
      · exact fun hl => hl u₀ hname
      · intro hl u hmapped
        obtain rfl := Option.some.inj (hname.symm.trans hmapped)
        exact hl
    have htranslate : translate stack n.system.provider n.system.translator cache inv =
        .ok (n.system.translator.removeMatterGroup ⟨groupId, inv.fabricIndex⟩,
          some ("RemoveGroup", removePayload u₀)) := by
      simp only [translate, hcmd, hname, removePayload]
    have hgone : (n.system.translator.removeMatterGroup ⟨groupId, inv.fabricIndex⟩).getUnifyGroup
        ⟨groupId, inv.fabricIndex⟩ = none := by
      rw [GroupTranslator.getUnifyGroup_removeMatterGroup, if_pos rfl]
    have hkept : ∀ g, g ≠ ⟨groupId, inv.fabricIndex⟩ →
        (n.system.translator.removeMatterGroup ⟨groupId, inv.fabricIndex⟩).getUnifyGroup g =
          n.system.translator.getUnifyGroup g := by
      intro g hne
      rw [GroupTranslator.getUnifyGroup_removeMatterGroup, if_neg hne]
    rw [hleaves]
    cases ha : bridgedEndpoint inv.path.endpointId with
    | none =>
      rw [(networkStep_of_unsent side hu htranslate (Or.inr ha)).1]
      refine Roster.agree_leave_iff h hname (hs.member_remove hcmd) hgone hkept fun e he u => ?_
      exact (and_iff_left fun hnew => ne_of_not_bridged ha he hnew.1).symm
    | some a =>
      have hempty : (removePayload u₀).isEmpty = false := rfl
      rw [(networkStep_of_sent side hu htranslate ha rfl).1, hempty, if_neg Bool.false_ne_true]
      exact Roster.agree_leave_iff h hname (hs.member_remove hcmd) hgone hkept fun e he u =>
        mem_known_remove hinj ha u₀ he u

theorem agree_removeAll_iff (hs : Exact stack) (hinj : Separate bridgedEndpoint)
    (hu : (Event.command inv cache).Unicast) (hcmd : inv.command = .removeAllGroups (some ()))
    (h : Agree stack side bridgedEndpoint n) :
    Agree stack side bridgedEndpoint (networkStep stack side bridgedEndpoint n
        ⟨.command inv cache, hu⟩) ↔ Clears stack bridgedEndpoint n inv := by
  have hmapping := (removeAllGroups_spec stack n.system.provider inv.fabricIndex
    n.system.translator).2.2
  have hgone : ∀ g e, Member stack n.system.provider g e → g.fabricIndex = inv.fabricIndex →
      (removeAllGroups stack n.system.provider inv.fabricIndex n.system.translator).getUnifyGroup g =
        none := by
    intro g e hg hfabric
    have hlisted := (hs.mem_iterateGroupInfo n.system.provider inv.fabricIndex g.group).mpr
      ⟨e, by rwa [← hfabric]⟩
    rw [hmapping, if_pos ⟨hfabric, hlisted⟩]
  have hkept : ∀ g : MatterGroup, ¬ g.fabricIndex = inv.fabricIndex →
      (removeAllGroups stack n.system.provider inv.fabricIndex n.system.translator).getUnifyGroup g =
        n.system.translator.getUnifyGroup g := by
    intro g hne
    rw [hmapping, if_neg fun hin => hne hin.1]
  have htranslate : translate stack n.system.provider n.system.translator cache inv =
      .ok (removeAllGroups stack n.system.provider inv.fabricIndex n.system.translator,
        some ("RemoveAllGroups", .null)) := by simp only [translate, hcmd]
  cases ha : bridgedEndpoint inv.path.endpointId with
  | none =>
    rw [(networkStep_of_unsent side hu htranslate (Or.inr ha)).1]
    refine Roster.agree_clear_iff h (hs.member_removeAll hcmd) hgone hkept fun e he u => ?_
    exact (and_iff_left (ne_of_not_bridged ha he)).symm
  | some a =>
    have hempty : Json.null.isEmpty = true := rfl
    rw [(networkStep_of_sent side hu htranslate ha rfl).1, hempty, if_pos rfl]
    exact Roster.agree_clear_iff h (hs.member_removeAll hcmd) hgone hkept fun e he u =>
      mem_known_removeAll hinj ha he u

/-- What one event does to the agreement. -/
theorem agree_step_iff (hs : Exact stack) (hinj : Separate bridgedEndpoint)
    (hf : n.system.translator.kvs.Faithful) (hlt : n.system.translator.lastAllocatedGroup < 65536)
    (h : Agree stack side bridgedEndpoint n) (ev : UnicastEvent) :
    Agree stack side bridgedEndpoint (networkStep stack side bridgedEndpoint n ev) ↔
      AgreeCondition stack side bridgedEndpoint n ev := by
  have hsame : ∀ t : GroupTranslator, (∀ g, t.getUnifyGroup g = n.system.translator.getUnifyGroup g) →
      Agree stack side bridgedEndpoint ⟨⟨t, n.system.provider⟩, n.unify⟩ := by
    intro t ht
    exact (Roster.agree_congr (fun _ _ _ => Iff.rfl) (fun _ _ g _ => ht g) fun _ _ => rfl).mpr h
  obtain ⟨ev, hu⟩ := ev
  cases ev with
  | mqttMessage topic =>
    refine iff_of_true (hsame _ fun g => ?_) trivial
    rcases GroupTranslator.step_mqttMessage_cases n.system.translator topic with hstep | ⟨group, hstep⟩
    · rw [hstep]
    · rw [hstep]
      rfl
  | restart => exact iff_of_true (hsame _ fun g => rfl) trivial
  | command inv cache =>
    have hneither : translate stack n.system.provider n.system.translator cache inv =
          .ok (n.system.translator, none) → (∀ g, ¬ Adds inv cache g) → (∀ g, ¬ Removes inv g) →
        (Agree stack side bridgedEndpoint (networkStep stack side bridgedEndpoint n
          ⟨.command inv cache, hu⟩) ↔ True) :=
      fun htranslate hadds hremoves =>
        iff_of_true (agree_of_neither hs hu htranslate hadds hremoves h) trivial
    unfold AgreeCondition
    dsimp only
    cases hcmd : inv.command with
    | other =>
      exact hneither (by simp only [translate, hcmd]) (by simp [Adds, hcmd]) (by simp [Removes, hcmd])
    | removeGroup data =>
      cases data with
      | none =>
        exact hneither (by simp only [translate, hcmd]) (by simp [Adds, hcmd]) (by simp [Removes, hcmd])
      | some groupId => exact agree_remove_iff hs hinj hu hcmd h
    | removeAllGroups data =>
      cases data with
      | none =>
        exact hneither (by simp only [translate, hcmd]) (by simp [Adds, hcmd]) (by simp [Removes, hcmd])
      | some data => exact agree_removeAll_iff hs hinj hu hcmd h
    | addGroup data =>
      cases data with
      | none =>
        exact hneither (by simp only [translate, hcmd]) (by simp [Adds, hcmd]) (by simp [Removes, hcmd])
      | some data =>
        exact agree_add_iff hs hinj hf hlt hu data.2 (Or.inl rfl) (by simp only [translate, hcmd])
          (by simp [Adds, hcmd, eq_comm]) (by simp [Removes, hcmd]) h
    | addGroupIfIdentifying data =>
      cases data with
      | none =>
        exact hneither (by simp only [translate, hcmd]) (by simp [Adds, hcmd]) (by simp [Removes, hcmd])
      | some data =>
        dsimp only
        cases hid : identifying cache inv.path.endpointId with
        | error x =>
          rw [networkStep_of_error side hu (by simp only [translate, hcmd, hid]; rfl)]
          exact iff_of_true h (by rintro ⟨⟩)
        | ok b =>
          cases b with
          | false =>
            refine (hneither (by simp only [translate, hcmd, hid]; rfl) (by simp [Adds, hcmd, hid])
              (by simp [Removes, hcmd])).trans ?_
            exact iff_of_true trivial (by rintro ⟨⟩)
          | true =>
            refine (agree_add_iff hs hinj hf hlt hu data.2 (Or.inr rfl)
              (by simp only [translate, hcmd, hid]; rfl) (by simp [Adds, hcmd, hid, eq_comm])
              (by simp [Removes, hcmd]) h).trans ?_
            exact ⟨fun hj _ => hj, fun hj => hj rfl⟩

end Agreement

section Run

variable {P σ : Type} {stack : GroupStack P} {bridgedEndpoint : ℕ → Option (String × ℕ)} {s : System P}

/-- No event makes a write fail, and the cursor stays an id. -/
theorem kept_step (hf : s.translator.kvs.Faithful) (hlt : s.translator.lastAllocatedGroup < 65536)
    (ev : Event) : (step stack bridgedEndpoint s ev).translator.kvs.Faithful ∧
      (step stack bridgedEndpoint s ev).translator.lastAllocatedGroup < 65536 := by
  cases ev with
  | command inv cache =>
    rcases step_command_cases stack bridgedEndpoint s inv cache with
      h | ⟨t', r, ht, h⟩ | ⟨data, -, h⟩
    · rw [h]
      exact ⟨hf, hlt⟩
    · have htouch := translate_touches hf hlt ht
      rw [h]
      exact ⟨htouch.faithful, htouch.cursor_lt⟩
    · have htouch := (@addGroup_spec _ stack s.provider _ hf hlt inv.path inv.fabricIndex data.1).1
      rw [h]
      exact ⟨htouch.faithful, htouch.cursor_lt⟩
  | mqttMessage topic =>
    unfold step
    dsimp only
    rcases GroupTranslator.step_mqttMessage_cases s.translator topic with h | ⟨group, h⟩
    · rw [h]
      exact ⟨hf, hlt⟩
    · rw [h]
      exact ⟨hf, hlt⟩
  | restart => exact ⟨hf, show 1 < 65536 by decide⟩

theorem agree_start {side : UnifyGroups σ} {p : P} (hp : ∀ f g e, stack.hasEndpoint p f g e = false)
    {u : σ} (hu : ∀ a, side.groups u a = ∅) :
    Agree stack side bridgedEndpoint (networkStart p u) := by
  intro e he
  constructor
  · intro g hg
    have hmember : stack.hasEndpoint p g.fabricIndex g.group e = true := hg
    rw [hp] at hmember
    cases hmember
  · rintro x ⟨a, -, hx⟩
    have hgroup : x ∈ side.groups u a := hx
    rw [hu] at hgroup
    exact hgroup.elim

/-- From groups without members on, the groups of the Matter stack and those of the Unify endpoints agree
after every event of a run, if and only if every event meets the condition. -/
theorem agree_run_iff (hs : Exact stack) (side : UnifyGroups σ) (hinj : Separate bridgedEndpoint) {p : P}
    (hp : ∀ f g e, stack.hasEndpoint p f g e = false) {u : σ} (hu : ∀ a, side.groups u a = ∅)
    (evs : List UnicastEvent) :
    (∀ before after, evs = before ++ after → Agree stack side bridgedEndpoint
        (EventSystem.run (networkStep stack side bridgedEndpoint) (networkStart p u) before)) ↔
      EventSystem.Guarded (networkStep stack side bridgedEndpoint)
        (AgreeCondition stack side bridgedEndpoint) (networkStart p u) evs := by
  apply EventSystem.forall_run_iff_guarded (I := fun n : Network P σ =>
    n.system.translator.kvs.Faithful ∧ n.system.translator.lastAllocatedGroup < 65536)
  · exact fun n ev hkept => kept_step hkept.1 hkept.2 ev.1
  · exact fun n ev hkept hagree => agree_step_iff hs hinj hkept.1 hkept.2 hagree ev
  · exact ⟨fun _ => rfl, show 1 < 65536 by decide⟩
  · exact agree_start hp hu

/-- After a run whose events meet the condition, a command to a group goes to the topic of a Unify group,
and what is bridged is in this one if and only if it is in the group, unless another group is mapped to the
same one and has other members. -/
theorem sentToMembers_run (hs : Exact stack) (side : UnifyGroups σ) (hinj : Separate bridgedEndpoint)
    {p : P} (hp : ∀ f g e, stack.hasEndpoint p f g e = false) {u : σ} (hu : ∀ a, side.groups u a = ∅)
    (evs : List UnicastEvent)
    (h : EventSystem.Guarded (networkStep stack side bridgedEndpoint)
      (AgreeCondition stack side bridgedEndpoint) (networkStart p u) evs)
    (g : MatterGroup) (a : String × ℕ) (topic : String) :
    let n := EventSystem.run (networkStep stack side bridgedEndpoint) (networkStart p u) evs
    commandTopic ⟨bridgedEndpoint, n.system.translator.getUnifyGroup⟩ (.group g.group g.fabricIndex)
        a.1 a.2 = some topic →
      ∃ unifyGroup, topic = "ucl/by-group/" ++ toString unifyGroup ∧
        ((∀ e ∈ bridged bridgedEndpoint, unifyGroup ∈ known side bridgedEndpoint n.unify e ↔
            Member stack n.system.provider g e) ↔
          ∀ g', n.system.translator.getUnifyGroup g' = some unifyGroup →
            ∀ e ∈ bridged bridgedEndpoint, Member stack n.system.provider g' e →
              Member stack n.system.provider g e) := by
  intro n htopic
  have hagree : Agree stack side bridgedEndpoint n := by
    have hinv := EventSystem.invariant_run (I := fun n : Network P σ =>
      (n.system.translator.kvs.Faithful ∧ n.system.translator.lastAllocatedGroup < 65536) ∧
        Agree stack side bridgedEndpoint n) ?_
      ⟨⟨fun _ => rfl, show 1 < 65536 by decide⟩, agree_start hp hu⟩ h
    · exact hinv.2
    · intro n ev hn hev
      exact ⟨kept_step hn.1.1 hn.1.2 ev.1, (agree_step_iff hs hinj hn.1.1 hn.1.2 hn.2 ev).mpr hev⟩
  obtain ⟨unifyGroup, hname, rfl⟩ := Option.map_eq_some_iff.mp htopic
  exact ⟨unifyGroup, rfl, hagree.known_iff hname⟩

end Run

section Example

theorem groupsTopic_inj {a b : String × ℕ} {cmd cmd' : String} (h : '/' ∉ cmd.toList)
    (h' : '/' ∉ cmd'.toList) : groupsTopic a cmd = groupsTopic b cmd' ↔ a = b ∧ cmd = cmd' := by
  constructor
  · intro heq
    have hlist := congrArg String.toList heq
    have hsplit : ∀ (a : String × ℕ) (cmd : String), (groupsTopic a cmd).toList =
        ((unidTopic a.1 a.2).toList ++ "/Groups/Commands".toList) ++ '/' :: cmd.toList := by
      intro a cmd
      simp [groupsTopic]
    rw [hsplit, hsplit] at hlist
    obtain ⟨htopic, hcmd⟩ := (DecimalKey.append_cons_inj h h').mp hlist
    have haddress := Bridge.unidTopic_inj.mp (String.toList_inj.mp (List.append_cancel_right htopic))
    exact ⟨Prod.ext haddress.1 haddress.2, String.toList_inj.mp hcmd⟩
  · intro heq
    rw [heq.1, heq.2]

def groupIdOf (message : Json) : Option ℕ :=
  match message.fields.lookup "GroupId" with
  | some (.integer n) => some n.toNat
  | _ => none

def obey (cmd : String) (message : Json) (groups : Finset ℕ) : Finset ℕ :=
  if cmd = "RemoveAllGroups" then ∅
  else
    match groupIdOf message with
    | none => groups
    | some id => if cmd = "RemoveGroup" then groups.erase id else insert id groups

def groupCommands : List String :=
  ["AddGroup", "AddGroupIfIdentifying", "RemoveGroup", "RemoveAllGroups"]

def commandFor (a : String × ℕ) (topic : String) : Option String :=
  groupCommands.find? fun cmd => topic = groupsTopic a cmd

theorem commandFor_groupsTopic {a b : String × ℕ} {cmd : String} (hcmd : cmd ∈ groupCommands) :
    commandFor b (groupsTopic a cmd) = if b = a then some cmd else none := by
  have hslash : ∀ cmd ∈ groupCommands, '/' ∉ cmd.toList := by decide
  have htopic : ∀ cmd' ∈ groupCommands,
      groupsTopic a cmd = groupsTopic b cmd' ↔ a = b ∧ cmd = cmd' :=
    fun cmd' hcmd' => groupsTopic_inj (hslash _ hcmd) (hslash _ hcmd')
  unfold commandFor
  split_ifs with heq
  · subst heq
    refine Multimap.find?_eq_of_unique hcmd (decide_eq_true rfl) ?_
    intro cmd' hcmd' hfound
    exact ((htopic cmd' hcmd').mp (of_decide_eq_true hfound)).2.symm
  · rw [List.find?_eq_none]
    intro cmd' hcmd' hfound
    exact heq ((htopic cmd' hcmd').mp (of_decide_eq_true hfound)).1.symm

def groupTables : UnifyGroups (String × ℕ → Finset ℕ) where
  groups s a := ↑(s a)
  receive s m a :=
    match commandFor a m.1 with
    | some cmd => obey cmd m.2 (s a)
    | none => s a
  receive_add s a cmd name id hcmd b := by
    have hmem : cmd ∈ groupCommands := by
      rcases hcmd with rfl | rfl <;> decide
    have hid : groupIdOf (addPayload name id) = some id := rfl
    dsimp only
    rw [commandFor_groupsTopic hmem]
    split_ifs with heq
    · rcases hcmd with rfl | rfl
      · simp [obey, hid]
      · simp [obey, hid]
    · rfl
  receive_remove s a id b := by
    have hid : groupIdOf (removePayload id) = some id := rfl
    dsimp only
    rw [commandFor_groupsTopic (by decide)]
    split_ifs with heq
    · simp [obey, hid]
    · rfl
  receive_removeAll s a b := by
    dsimp only
    rw [commandFor_groupsTopic (by decide)]
    split_ifs with heq
    · exact Finset.coe_empty
    · rfl

theorem tableStack_exact : Exact tableStack where
  toLawful := tableStack_lawful
  process_keeps p inv cache f g e h hnot := by
    simp only [tableStack, decide_eq_true_eq] at h ⊢
    split
    · exact List.mem_cons_of_mem _ h
    · next groupId hcmd =>
      refine List.mem_filter.mpr ⟨h, decide_eq_true fun heq => hnot ?_⟩
      cases heq
      exact ⟨rfl, rfl, by simp [Removes, hcmd]⟩
    · next hcmd =>
      refine List.mem_filter.mpr ⟨h, decide_eq_true fun heq => hnot ?_⟩
      exact ⟨heq.1, heq.2, by simp [Removes, hcmd]⟩
    · split
      · exact List.mem_cons_of_mem _ h
      · exact h
    · exact h

def twoLamps (endpointId : ℕ) : Option (String × ℕ) :=
  if endpointId = 2 then some ("zw-0002", 0) else if endpointId = 3 then some ("zw-0003", 0) else none

theorem separate_twoLamps : Separate twoLamps := by
  have hlamp : ∀ e a, twoLamps e = some a → e = 2 ∧ a = ("zw-0002", 0) ∨ e = 3 ∧ a = ("zw-0003", 0) := by
    intro e a he
    unfold twoLamps at he
    split_ifs at he with h₂ h₃
    · exact Or.inl ⟨h₂, (Option.some.inj he).symm⟩
    · exact Or.inr ⟨h₃, (Option.some.inj he).symm⟩
  intro e e' a he he'
  rcases hlamp e a he with ⟨rfl, rfl⟩ | ⟨rfl, rfl⟩
  · exact ((hlamp e' _ he').resolve_right fun hno => absurd hno.2 (by decide)).1.symm
  · exact ((hlamp e' _ he').resolve_left fun hno => absurd hno.2 (by decide)).1.symm

def lampCommand (endpointId : ℕ) (command : GroupCommand) : UnicastEvent :=
  ⟨.command ⟨⟨endpointId, 4, 0⟩, 1, none, command⟩ .empty, rfl⟩

theorem agreeCondition_of_lamp_joins : AgreeCondition tableStack groupTables twoLamps
    (networkStart [] fun _ => ∅) (lampCommand 2 (.addGroup (some (1, .utf8 "hall")))) := by
  refine fun _ _ _ => ⟨fun _ => ⟨1, by rfl, Or.inr (by rfl)⟩, fun hdeclined => ?_⟩
  have haccepted : tableStack.hasEndpoint [(1, 1, 2)] 1 1 2 = true := rfl
  exact absurd haccepted hdeclined

theorem eq_of_only_member {f g e : ℕ} (h : tableStack.hasEndpoint [(1, 1, 2)] f g e = true) :
    (⟨g, f⟩ : MatterGroup) = ⟨1, 1⟩ ∧ e = 2 := by
  have hmem : (f, g, e) ∈ [(1, 1, 2)] := of_decide_eq_true h
  cases List.mem_singleton.mp hmem
  exact ⟨rfl, rfl⟩

/-- A lamp joins a group, and leaves it as its last member. -/
theorem agree_run_iff_of_lamp :
    let joins := lampCommand 2 (.addGroup (some (1, .utf8 "hall")))
    let leaves := lampCommand 2 (.removeGroup (some 1))
    let run := EventSystem.run (networkStep tableStack groupTables twoLamps) (networkStart [] fun _ => ∅)
    Agree tableStack groupTables twoLamps (run [joins]) ∧
      Agree tableStack groupTables twoLamps (run [joins, leaves]) := by
  intro joins leaves run
  have hempty : ∀ f g e, tableStack.hasEndpoint [] f g e = false := fun _ _ _ => rfl
  have hagree := (agree_run_iff tableStack_exact groupTables separate_twoLamps hempty
    (fun _ => Finset.coe_empty) [joins, leaves]).mpr ?_
  · exact ⟨hagree [joins] [leaves] rfl, hagree [joins, leaves] [] rfl⟩
  · refine ⟨agreeCondition_of_lamp_joins, fun u _ => ⟨fun x _ hx => ?_, fun _ g hg _ => ?_⟩, trivial⟩
    · exact (eq_of_only_member hx).2
    · exact (eq_of_only_member hg).1

/-- A lamp joins a group, which is sent to. -/
theorem sentToMembers_run_of_lamp :
    let n := EventSystem.run (networkStep tableStack groupTables twoLamps) (networkStart [] fun _ => ∅)
      [lampCommand 2 (.addGroup (some (1, .utf8 "hall")))]
    ∃ unifyGroup, "ucl/by-group/1" = "ucl/by-group/" ++ toString unifyGroup ∧
      ((∀ e ∈ bridged twoLamps, unifyGroup ∈ known groupTables twoLamps n.unify e ↔
          Member tableStack n.system.provider ⟨1, 1⟩ e) ↔
        ∀ g', n.system.translator.getUnifyGroup g' = some unifyGroup →
          ∀ e ∈ bridged twoLamps, Member tableStack n.system.provider g' e →
            Member tableStack n.system.provider ⟨1, 1⟩ e) := by
  have hempty : ∀ f g e, tableStack.hasEndpoint [] f g e = false := fun _ _ _ => rfl
  exact sentToMembers_run tableStack_exact groupTables separate_twoLamps hempty
    (fun _ => Finset.coe_empty) [lampCommand 2 (.addGroup (some (1, .utf8 "hall")))]
    ⟨agreeCondition_of_lamp_joins, trivial⟩ ⟨1, 1⟩ ("zw-0002", 0) "ucl/by-group/1" rfl

end Example

end UnifyMatterBridge.GroupClusterCommandHandler
