import UnifyMatterBridge.Bridge.GroupDelivery
import UnifyMatterBridge.Group.Membership
import Mathlib.Data.Set.Insert

/-! The bridge, the groups of the Matter stack and the groups of the Unify endpoints, which obey the commands
that the handler of the Groups cluster publishes. -/
namespace UnifyMatterBridge.GroupClusterCommandHandler

section Definitions

def groupsTopic (a : String × ℕ) (cmd : String) : String :=
  unidTopic a.1 a.2 ++ "/" ++ "Groups" ++ "/Commands/" ++ cmd

def removePayload (unifyGroup : ℕ) : Json := Json.null.setField "GroupId" (.integer unifyGroup)

/-- The Unify side: the groups that its endpoints are in, and what they make of the commands that the
handler publishes. What identifies itself for the bridge does so for Unify. -/
structure UnifyGroups (σ : Type) where
  groups : σ → String × ℕ → Set ℕ
  receive : σ → String × Json → σ
  receive_add : ∀ s a cmd name id, cmd = "AddGroup" ∨ cmd = "AddGroupIfIdentifying" → ∀ b,
    groups (receive s (groupsTopic a cmd, addPayload name id)) b =
      if b = a then insert id (groups s b) else groups s b
  receive_remove : ∀ s a id b,
    groups (receive s (groupsTopic a "RemoveGroup", removePayload id)) b =
      if b = a then groups s b \ {id} else groups s b
  receive_removeAll : ∀ s a b,
    groups (receive s (groupsTopic a "RemoveAllGroups", .object [])) b =
      if b = a then ∅ else groups s b

def Event.Unicast : Event → Prop
  | .command inv _ => inv.groupSession = none
  | .mqttMessage _ | .restart => True

def UnicastEvent : Type := {ev : Event // ev.Unicast}

structure Network (P σ : Type) where
  system : System P
  unify : σ

/-- A stack in which a membership ends only by a command that ends it. -/
structure Exact {P : Type} (stack : GroupStack P) : Prop extends Lawful stack where
  process_keeps : ∀ p inv cache f g e, stack.hasEndpoint p f g e = true →
    ¬ (f = inv.fabricIndex ∧ e = inv.path.endpointId ∧ Removes inv g) →
      stack.hasEndpoint (stack.process p inv cache) f g e = true

variable {P σ : Type} (stack : GroupStack P) (side : UnifyGroups σ)
  (bridgedEndpoint : ℕ → Option (String × ℕ))

/-- The messages of an event. -/
def published (s : System P) : Event → List (String × Json)
  | .command inv cache =>
    messages (invokeCommand stack bridgedEndpoint s.provider s.translator cache inv).effects
  | .mqttMessage _ | .restart => []

def networkStep (n : Network P σ) (ev : UnicastEvent) : Network P σ where
  system := step stack bridgedEndpoint n.system ev.1
  unify := (published stack bridgedEndpoint n.system ev.1).foldl side.receive n.unify

def networkStart (p : P) (u : σ) : Network P σ := ⟨⟨.start (KeyValueStore.empty fun _ => false), p⟩, u⟩

def Member (p : P) (g : MatterGroup) (endpointId : ℕ) : Prop :=
  stack.hasEndpoint p g.fabricIndex g.group endpointId = true

def known (s : σ) (endpointId : ℕ) : Set ℕ :=
  {u | ∃ a, bridgedEndpoint endpointId = some a ∧ u ∈ side.groups s a}

def bridged : Set ℕ := {e | (bridgedEndpoint e).isSome = true}

def Separate : Prop :=
  ∀ e e' a, bridgedEndpoint e = some a → bridgedEndpoint e' = some a → e = e'

end Definitions

section Steps

variable {P σ : Type} {stack : GroupStack P} (side : UnifyGroups σ)
  {bridgedEndpoint : ℕ → Option (String × ℕ)} {n : Network P σ} {inv : GroupInvocation}
  {cache : AttributeCache} {t' : GroupTranslator} {r : Option (String × Json)} {a : String × ℕ}
  {cmd : String} {payload : Json}

theorem networkStep_of_error {x : CxxException} (hu : (Event.command inv cache).Unicast)
    (h : translate stack n.system.provider n.system.translator cache inv = .error x) :
    networkStep stack side bridgedEndpoint n ⟨.command inv cache, hu⟩ = n := by
  simp only [networkStep, step, published, invokeCommand, h]
  rfl

theorem networkStep_of_unsent (hu : (Event.command inv cache).Unicast)
    (h : translate stack n.system.provider n.system.translator cache inv = .ok (t', r))
    (hr : r = none ∨ bridgedEndpoint inv.path.endpointId = none) :
    networkStep stack side bridgedEndpoint n ⟨.command inv cache, hu⟩ =
        ⟨⟨t', stack.process n.system.provider inv cache⟩, n.unify⟩ ∧
      (invokeCommand stack bridgedEndpoint n.system.provider n.system.translator cache
        inv).exception = none := by
  have hinvoke : invokeCommand stack bridgedEndpoint n.system.provider n.system.translator cache inv =
      ⟨t', [], none⟩ := by
    unfold invokeCommand
    rw [h]
    cases r with
    | none => rfl
    | some sent =>
      obtain ⟨cmd, payload⟩ := sent
      have hb := hr.resolve_left (by rintro ⟨⟩)
      dsimp only
      rw [sendUnifyMqttCmd_of_not_bridged hb]
  simp only [networkStep, step, published, hinvoke]
  exact ⟨rfl, trivial⟩

theorem exchange_of_unicast (hu : (Event.command inv cache).Unicast) :
    inv.exchange = .unicast inv.fabricIndex := by
  have hsession : inv.groupSession = none := hu
  rw [GroupInvocation.exchange, hsession]

theorem networkStep_of_sent (hu : (Event.command inv cache).Unicast)
    (h : translate stack n.system.provider n.system.translator cache inv = .ok (t', some (cmd, payload)))
    (ha : bridgedEndpoint inv.path.endpointId = some a) (htext : payload.isText = true) :
    networkStep stack side bridgedEndpoint n ⟨.command inv cache, hu⟩ =
        ⟨⟨t', stack.process n.system.provider inv cache⟩,
          side.receive n.unify (groupsTopic a cmd, if payload.isEmpty then .object [] else payload)⟩ ∧
      (invokeCommand stack bridgedEndpoint n.system.provider n.system.translator cache
        inv).exception = none := by
  have hinvoke : invokeCommand stack bridgedEndpoint n.system.provider n.system.translator cache inv =
      ⟨t', [.publish (groupsTopic a cmd) (if payload.isEmpty then .object [] else payload)], none⟩ := by
    unfold invokeCommand
    rw [h]
    dsimp only
    rw [exchange_of_unicast hu, sendUnifyMqttCmd_no_response ha, commandMessage_eq_ok htext]
    rfl
  simp only [networkStep, step, published, hinvoke]
  exact ⟨rfl, trivial⟩

/-- A command whose group name does not dump: the exception keeps it from the stack. -/
theorem networkStep_of_not_text (hu : (Event.command inv cache).Unicast)
    (h : translate stack n.system.provider n.system.translator cache inv = .ok (t', some (cmd, payload)))
    (ha : bridgedEndpoint inv.path.endpointId = some a) (htext : payload.isText = false) :
    networkStep stack side bridgedEndpoint n ⟨.command inv cache, hu⟩ =
        ⟨⟨t', n.system.provider⟩, n.unify⟩ ∧
      (invokeCommand stack bridgedEndpoint n.system.provider n.system.translator cache
        inv).exception ≠ none := by
  have hinvoke : invokeCommand stack bridgedEndpoint n.system.provider n.system.translator cache inv =
      ⟨t', [], some .jsonTypeError⟩ := by
    unfold invokeCommand
    rw [h]
    dsimp only
    rw [exchange_of_unicast hu, sendUnifyMqttCmd_no_response ha, commandMessage_eq_error htext]
    rfl
  simp only [networkStep, step, published, hinvoke]
  exact ⟨rfl, by rintro ⟨⟩⟩

end Steps

section Known

variable {σ : Type} {side : UnifyGroups σ} {bridgedEndpoint : ℕ → Option (String × ℕ)} {s s' : σ}
  {a : String × ℕ} {e₀ e : ℕ}

theorem known_of_bridged (ha : bridgedEndpoint e = some a) :
    known side bridgedEndpoint s e = side.groups s a := by
  ext u
  constructor
  · rintro ⟨b, hb, hu⟩
    rw [ha] at hb
    exact Option.some.inj hb ▸ hu
  · exact fun hu => ⟨a, ha, hu⟩

theorem ne_of_not_bridged (h : bridgedEndpoint e₀ = none) (he : e ∈ bridged bridgedEndpoint) :
    e ≠ e₀ := by
  rintro rfl
  have hsome : (bridgedEndpoint e).isSome = true := he
  rw [h] at hsome
  cases hsome

theorem known_update {f : Set ℕ → Set ℕ} (hinj : Separate bridgedEndpoint)
    (ha : bridgedEndpoint e₀ = some a)
    (h : ∀ b, side.groups s' b = if b = a then f (side.groups s b) else side.groups s b)
    (he : e ∈ bridged bridgedEndpoint) :
    known side bridgedEndpoint s' e = if e = e₀ then f (known side bridgedEndpoint s e)
      else known side bridgedEndpoint s e := by
  obtain ⟨b, hb⟩ := Option.isSome_iff_exists.mp he
  rw [known_of_bridged hb, known_of_bridged hb, h]
  have hsame : b = a ↔ e = e₀ := by
    constructor
    · rintro rfl
      exact hinj _ _ _ hb ha
    · rintro rfl
      exact Option.some.inj (hb.symm.trans ha)
  simp only [hsame]

theorem mem_known_add (hinj : Separate bridgedEndpoint) (ha : bridgedEndpoint e₀ = some a)
    {cmd : String} (hcmd : cmd = "AddGroup" ∨ cmd = "AddGroupIfIdentifying") (name : Text) (id : ℕ)
    (he : e ∈ bridged bridgedEndpoint) (u : ℕ) :
    u ∈ known side bridgedEndpoint (side.receive s (groupsTopic a cmd, addPayload name id)) e ↔
      u ∈ known side bridgedEndpoint s e ∨ e = e₀ ∧ id = u := by
  rw [known_update hinj ha (side.receive_add s a cmd name id hcmd) he]
  split_ifs with heq
  · rw [Set.mem_insert_iff, or_comm, and_iff_right heq, eq_comm]
  · exact (or_iff_left fun hnew => heq hnew.1).symm

theorem mem_known_remove (hinj : Separate bridgedEndpoint) (ha : bridgedEndpoint e₀ = some a) (id : ℕ)
    (he : e ∈ bridged bridgedEndpoint) (u : ℕ) :
    u ∈ known side bridgedEndpoint (side.receive s (groupsTopic a "RemoveGroup", removePayload id)) e ↔
      u ∈ known side bridgedEndpoint s e ∧ ¬ (e = e₀ ∧ u = id) := by
  rw [known_update (f := fun groups => groups \ {id}) hinj ha (side.receive_remove s a id) he]
  split_ifs with heq
  · rw [Set.mem_sdiff, Set.mem_singleton_iff, and_iff_right heq]
  · exact (and_iff_left fun hold => heq hold.1).symm

theorem mem_known_removeAll (hinj : Separate bridgedEndpoint) (ha : bridgedEndpoint e₀ = some a)
    (he : e ∈ bridged bridgedEndpoint) (u : ℕ) :
    u ∈ known side bridgedEndpoint (side.receive s (groupsTopic a "RemoveAllGroups", .object [])) e ↔
      u ∈ known side bridgedEndpoint s e ∧ e ≠ e₀ := by
  rw [known_update (f := fun _ => ∅) hinj ha (side.receive_removeAll s a) he]
  split_ifs with heq
  · exact iff_of_false (Set.notMem_empty u) fun hold => hold.2 heq
  · exact (and_iff_left heq).symm

end Known

section Members

variable {P : Type} {stack : GroupStack P} {p : P} {inv : GroupInvocation} {cache : AttributeCache}
  {t : GroupTranslator} {path : CommandPath} {f groupId : ℕ}

theorem Exact.member_add (hs : Exact stack) (hadds : ∀ g, Adds inv cache g ↔ g = groupId)
    (hremoves : ∀ g, ¬ Removes inv g) (g : MatterGroup) (e : ℕ) :
    Member stack (stack.process p inv cache) g e ↔ Member stack p g e ∨
      Member stack (stack.process p inv cache) ⟨groupId, inv.fabricIndex⟩ inv.path.endpointId ∧
        g = ⟨groupId, inv.fabricIndex⟩ ∧ e = inv.path.endpointId := by
  constructor
  · intro hg
    rcases hs.process_adds _ _ _ _ _ _ hg with hold | ⟨hfabric, rfl, hadded⟩
    · exact Or.inl hold
    · have hsame : g = ⟨groupId, inv.fabricIndex⟩ := by
        cases g
        exact (MatterGroup.mk.injEq ..).mpr ⟨(hadds _).mp hadded, hfabric⟩
      exact Or.inr ⟨hsame ▸ hg, hsame, rfl⟩
  · rintro (hold | ⟨hg, rfl, rfl⟩)
    · exact hs.process_keeps _ _ _ _ _ _ hold fun hremoved => hremoves _ hremoved.2.2
    · exact hg

theorem Exact.member_of_not_adds (hs : Exact stack) (h : ∀ g, ¬ Adds inv cache g) (g : MatterGroup)
    (e : ℕ) : Member stack (stack.process p inv cache) g e ↔ Member stack p g e ∧
      ¬ (g.fabricIndex = inv.fabricIndex ∧ e = inv.path.endpointId ∧ Removes inv g.group) := by
  constructor
  · intro hg
    refine ⟨(hs.process_adds _ _ _ _ _ _ hg).resolve_right fun hnew => h _ hnew.2.2, ?_⟩
    rintro ⟨hfabric, he, hremoves⟩
    have hgone := hs.process_removes p inv cache g.group hremoves
    rw [Member, hfabric, he, hgone] at hg
    cases hg
  · rintro ⟨hold, hnot⟩
    exact hs.process_keeps _ _ _ _ _ _ hold hnot

theorem Exact.member_remove (hs : Exact stack) (hcmd : inv.command = .removeGroup (some groupId))
    (g : MatterGroup) (e : ℕ) : Member stack (stack.process p inv cache) g e ↔
      Member stack p g e ∧ ¬ (g = ⟨groupId, inv.fabricIndex⟩ ∧ e = inv.path.endpointId) := by
  have hadds : ∀ g, ¬ Adds inv cache g := by simp [Adds, hcmd]
  have hremoves : ∀ g, Removes inv g ↔ groupId = g := by simp [Removes, hcmd]
  rw [hs.member_of_not_adds hadds, hremoves]
  apply and_congr_right'
  apply not_congr
  cases g
  rw [MatterGroup.mk.injEq]
  constructor
  · exact fun h => ⟨⟨h.2.2.symm, h.1⟩, h.2.1⟩
  · exact fun h => ⟨h.1.2, h.2, h.1.1.symm⟩

theorem Exact.member_removeAll (hs : Exact stack) (hcmd : inv.command = .removeAllGroups (some ()))
    (g : MatterGroup) (e : ℕ) : Member stack (stack.process p inv cache) g e ↔
      Member stack p g e ∧ ¬ (g.fabricIndex = inv.fabricIndex ∧ e = inv.path.endpointId) := by
  have hadds : ∀ g, ¬ Adds inv cache g := by simp [Adds, hcmd]
  have hremoves : ∀ g, Removes inv g := by simp [Removes, hcmd]
  rw [hs.member_of_not_adds hadds, and_iff_left (hremoves g.group)]

theorem addGroup_of_known (h : stack.getGroupInfo p f groupId = true) :
    (addGroup stack p t path f groupId).1 = t := by
  unfold addGroup
  split_ifs <;> rfl

theorem getUnifyGroup_of_told {u : ℕ} (h : (addGroup stack p t path f groupId).2 = some u) :
    (addGroup stack p t path f groupId).1.getUnifyGroup ⟨groupId, f⟩ = some u := by
  have hadded : ∀ (r : GroupTranslator × Bool) (g : MatterGroup),
      (if r.2 = true then (r.1, r.1.getUnifyGroup g) else (r.1, none)).2 = some u →
        (if r.2 = true then (r.1, r.1.getUnifyGroup g) else (r.1, none)).1.getUnifyGroup g = some u := by
    intro r g hr
    split_ifs at hr ⊢
    exact hr
  unfold addGroup at h ⊢
  split_ifs at h ⊢
  · exact h
  · exact hadded _ _ h

/-- The groups that have members keep their mappings when another member is to be added. -/
theorem getUnifyGroup_addGroup_of_member (hs : Lawful stack) (hf : t.kvs.Faithful)
    (hlt : t.lastAllocatedGroup < 65536) {g : MatterGroup} {e : ℕ} (hg : Member stack p g e) :
    (addGroup stack p t path f groupId).1.getUnifyGroup g = t.getUnifyGroup g := by
  by_cases hsame : g = ⟨groupId, f⟩
  · rw [addGroup_of_known ((hs.getGroupInfo_iff _ _ _).mpr ⟨e, by rwa [hsame] at hg⟩)]
  · exact (addGroup_spec hf hlt path f groupId).2.1 g hsame

end Members

end UnifyMatterBridge.GroupClusterCommandHandler
