import UnifyMatterBridge.Bridge.System
import UnifyMatterBridge.NodeStateMonitor.Notices
import UnifyMatterBridge.Lib.Mqtt

/-! The subscriptions of the translators (`attributes_update_subscription` and
`commands_response_subscription`): they follow what is bridged. -/
namespace UnifyMatterBridge.Bridge

open NodeStateMonitor

deriving instance DecidableEq for AttributeTranslator

/-- The translators that the main program makes. -/
inductive Translator where
  | attributes (translator : AttributeTranslator)
  | commands (handler : ClusterCommandHandler)
  | groupCommands
deriving DecidableEq

def Translator.unifyClusterNames : Translator → List String
  | .attributes (.generated a) => [a.clusterName]
  | .attributes .basicInformation => ["Basic", "NameAndLocation"]
  | .commands handler => if handler = .doorLock then ["DoorLock"] else []
  | .groupCommands => []

/-- The levels that a translator's topic filters end with. -/
def Translator.suffix : Translator → String
  | .attributes _ => "/Attributes/+/Reported"
  | .commands _ | .groupCommands => "/GeneratedCommands/+"

/-- What `INIT_ZAP_TRANSLATOR` is called for. -/
def zapTranslators : List (ClusterAttributeAccess × ClusterCommandHandler) :=
  [(⟨0x0006, "OnOff"⟩, .onOff), (⟨0x0003, "Identify"⟩, .identify),
    (⟨0x0008, "Level"⟩, .levelControl), (⟨0x0300, "ColorControl"⟩, .colorControl),
    (⟨0x0201, "Thermostat"⟩, .thermostat), (⟨0x0101, "DoorLock"⟩, .doorLock),
    (⟨0x0102, "WindowCovering"⟩, .windowCovering),
    (⟨0x0400, "IlluminanceMeasurement"⟩, .illuminanceMeasurement),
    (⟨0x0406, "OccupancySensing"⟩, .occupancySensing),
    (⟨0x0402, "TemperatureMeasurement"⟩, .temperatureMeasurement),
    (⟨0x0403, "PressureMeasurement"⟩, .pressureMeasurement),
    (⟨0x0404, "FlowMeasurement"⟩, .flowMeasurement),
    (⟨0x0405, "RelativityHumidity"⟩, .relativeHumidityMeasurement)]

/-- The translators, in the order in which they register with the monitor. -/
def translators : List Translator :=
  [.groupCommands, .attributes (.generated ⟨0x0004, "Groups"⟩), .attributes .basicInformation] ++
    zapTranslators.flatMap fun pair => [.attributes (.generated pair.1), .commands pair.2]

section Definitions

variable {Table Content σ : Type} (client : Mqtt.Client σ Translator)

def topicFilter (unid : String) (ep : ℕ) (cluster suffix : String) : String :=
  unidTopic unid ep ++ "/" ++ cluster ++ suffix

/-- `attributes_update_subscription`, and `commands_response_subscription`. -/
def Translator.updateSubscription (session : σ) (t : Translator) (n : Notice Content) : σ :=
  t.unifyClusterNames.foldl (fun session cluster =>
    let topic := topicFilter n.1.unifyUnid n.1.unifyEndpoint cluster t.suffix
    match n.2 with
    | .nodeAdded => client.subscribe session topic t
    | .nodeDeleted => client.unsubscribe session topic t
    | .nodeStateChanged => session) session

def updateSubscriptions (session : σ) (n : Notice Content) : σ :=
  translators.foldl (fun session t => t.updateSubscription client session n) session

structure Subscribed (Table Content σ : Type) where
  monitor : MonitorState Table Content
  session : σ

variable (env : MonitorEnv Table Content)

def subscribedStep (l : Subscribed Table Content σ) (ev : NodeStateMonitor.Event) :
    Subscribed Table Content σ :=
  let monitor := NodeStateMonitor.step env l.monitor ev
  match ev with
  | .restart => ⟨monitor, client.none⟩
  | .nodeAdded _ | .nodeRemoved _ | .nodeStateChanged _ =>
    ⟨monitor, (toldBetween l.monitor monitor).foldl (updateSubscriptions client) l.session⟩

/-- Exactly the topics of what is bridged are subscribed, each for the translators of its cluster. -/
def UpToDate (l : Subscribed Table Content σ) : Prop :=
  ∀ filter t, (filter, t) ∈ client.live l.session ↔ t ∈ translators ∧
    ∃ e ∈ l.monitor.bridgedEndpoints, ∃ cluster ∈ t.unifyClusterNames,
      filter = topicFilter e.unifyUnid e.unifyEndpoint cluster t.suffix

/-- The filters of a translator for a Unify address. -/
def filtersOf (t : Translator) (a : String × ℕ) : List String :=
  t.unifyClusterNames.map fun cluster => topicFilter a.1 a.2 cluster t.suffix

end Definitions

section Filters

theorem clusterName_level : ∀ t ∈ translators, ∀ cluster ∈ t.unifyClusterNames,
    Mqtt.IsLevel cluster.toList := by
  have hnames : ∀ t ∈ translators, ∀ cluster ∈ t.unifyClusterNames,
      cluster.toList.all (fun c => c.isAlpha) = true := by
    decide
  intro t ht cluster hcluster
  have hall := List.all_eq_true.mp (hnames t ht cluster hcluster)
  constructor
  all_goals
    intro hmem
    exact absurd (hall _ hmem) (by decide)

theorem unidTopic_inj {unid unid' : String} {ep ep' : ℕ} :
    unidTopic unid ep = unidTopic unid' ep' ↔ unid = unid' ∧ ep = ep' := by
  have hdigits : ∀ n : ℕ, '/' ∉ "ep".toList ++ (toString n).toList := by
    intro n hmem
    rcases List.mem_append.mp hmem with hmem | hmem
    · exact absurd hmem (by decide)
    · exact absurd (DecimalKey.isDigit_of_mem_toString hmem) (by decide)
  constructor
  · intro h
    have hlist := congrArg String.toList h
    simp only [unidTopic, String.toList_append, List.append_assoc,
      List.append_cancel_left_eq] at hlist
    obtain ⟨hunid, hep⟩ := (DecimalKey.append_cons_inj (hdigits ep) (hdigits ep')).mp hlist
    have hnumber := String.toList_inj.mp (List.append_cancel_left hep)
    exact ⟨String.toList_inj.mp hunid, DecimalKey.toString_inj.mp hnumber⟩
  · intro h
    rw [h.1, h.2]

theorem topicFilter_inj {unid unid' cluster cluster' suffix : String} {ep ep' : ℕ}
    (h : '/' ∉ cluster.toList) (h' : '/' ∉ cluster'.toList) :
    topicFilter unid ep cluster suffix = topicFilter unid' ep' cluster' suffix ↔
      (unid = unid' ∧ ep = ep') ∧ cluster = cluster' := by
  constructor
  · intro heq
    have hlist := congrArg String.toList heq
    simp only [topicFilter, String.toList_append, List.append_cancel_right_eq] at hlist
    have hsplit : (unidTopic unid ep).toList ++ '/' :: cluster.toList =
        (unidTopic unid' ep').toList ++ '/' :: cluster'.toList := by
      simpa using hlist
    obtain ⟨htopic, hcluster⟩ := (DecimalKey.append_cons_inj h h').mp hsplit
    exact ⟨unidTopic_inj.mp (String.toList_inj.mp htopic), String.toList_inj.mp hcluster⟩
  · intro heq
    rw [heq.1.1, heq.1.2, heq.2]

theorem filtersOf_inj : ∀ t ∈ translators, ∀ a b f, f ∈ filtersOf t a → f ∈ filtersOf t b → a = b := by
  intro t ht a b f ha hb
  obtain ⟨cluster, hcluster, hf⟩ := List.mem_map.mp ha
  obtain ⟨cluster', hcluster', hf'⟩ := List.mem_map.mp hb
  have hinj := (topicFilter_inj (clusterName_level t ht cluster hcluster).separator
    (clusterName_level t ht cluster' hcluster').separator).mp (hf.trans hf'.symm)
  exact Prod.ext hinj.1.1 hinj.1.2

end Filters

section Steps

variable {Table Content σ : Type} {client : Mqtt.Client σ Translator}
  {env : MonitorEnv Table Content} {slots : EmberSlots env.ember}

theorem upToDate_iff {l : Subscribed Table Content σ} : UpToDate client l ↔
    client.live l.session = Mqtt.subscriptionsFor filtersOf translators (addresses l.monitor) := by
  have hmem : ∀ filter t,
      (filter, t) ∈ Mqtt.subscriptionsFor filtersOf translators (addresses l.monitor) ↔
        t ∈ translators ∧ ∃ e ∈ l.monitor.bridgedEndpoints, ∃ cluster ∈ t.unifyClusterNames,
          filter = topicFilter e.unifyUnid e.unifyEndpoint cluster t.suffix := by
    intro filter t
    rw [Mqtt.mem_subscriptionsFor]
    apply and_congr_right
    intro _
    constructor
    · intro h
      obtain ⟨a, ⟨e, he, rfl⟩, hf⟩ := h
      obtain ⟨cluster, hcluster, hfilter⟩ := List.mem_map.mp hf
      exact ⟨e, he, cluster, hcluster, hfilter.symm⟩
    · intro h
      obtain ⟨e, he, cluster, hcluster, hfilter⟩ := h
      exact ⟨e.address, ⟨e, he, rfl⟩, List.mem_map.mpr ⟨cluster, hcluster, hfilter.symm⟩⟩
  unfold UpToDate
  simp only [← hmem]
  constructor
  · intro h
    ext ⟨filter, t⟩
    exact h filter t
  · intro h filter t
    rw [h]

/-- One notice: the subscriptions follow the addresses that are marked. -/
theorem live_updateSubscriptions {session : σ} {A : Set (String × ℕ)}
    (h : client.live session = Mqtt.subscriptionsFor filtersOf translators A) (n : Notice Content) :
    client.live (updateSubscriptions client session n) =
      Mqtt.subscriptionsFor filtersOf translators (mark A n) := by
  obtain ⟨e, update⟩ := n
  unfold updateSubscriptions
  cases update with
  | nodeAdded =>
    have hall : ∀ session t, Translator.updateSubscription client session t (e, .nodeAdded) =
        client.subscribeAll session (filtersOf t e.address) t := by
      intro session t
      unfold filtersOf Mqtt.Client.subscribeAll
      rw [List.foldl_map]
      rfl
    simp only [hall]
    exact Mqtt.live_subscribe_item h
  | nodeDeleted =>
    have hall : ∀ session t, Translator.updateSubscription client session t (e, .nodeDeleted) =
        client.unsubscribeAll session (filtersOf t e.address) t := by
      intro session t
      unfold filtersOf Mqtt.Client.unsubscribeAll
      rw [List.foldl_map]
      rfl
    simp only [hall]
    exact Mqtt.live_unsubscribe_item filtersOf_inj h
  | nodeStateChanged =>
    have hnone : ∀ session t,
        Translator.updateSubscription client session t (e, .nodeStateChanged) = session := by
      intro session t
      unfold Translator.updateSubscription
      induction t.unifyClusterNames with
      | nil => rfl
      | cons cluster clusters ih => exact ih
    have hloop : ∀ ts : List Translator, ts.foldl (fun session t =>
        t.updateSubscription client session (e, .nodeStateChanged)) session = session := by
      intro ts
      induction ts with
      | nil => rfl
      | cons t ts ih => rw [List.foldl_cons, hnone, ih]
    rw [hloop]
    exact h

theorem live_foldl_updateSubscriptions {session : σ} {A : Set (String × ℕ)}
    (h : client.live session = Mqtt.subscriptionsFor filtersOf translators A)
    (ns : List (Notice Content)) :
    client.live (ns.foldl (updateSubscriptions client) session) =
      Mqtt.subscriptionsFor filtersOf translators (ns.foldl mark A) := by
  induction ns generalizing session A with
  | nil => exact h
  | cons n ns ih => exact ih (live_updateSubscriptions h n)

/-- One event: the subscriptions stay up to date exactly on the condition. -/
theorem upToDate_step_iff {l : Subscribed Table Content σ} (hP : Placed slots l.monitor)
    (h : UpToDate client l) (ev : NodeStateMonitor.Event) :
    UpToDate client (subscribedStep client env l ev) ↔ DirectoryCondition env l.monitor ev := by
  rw [upToDate_iff] at h ⊢
  have hinj : ∀ A B : Set (String × ℕ), Mqtt.subscriptionsFor filtersOf translators A =
      Mqtt.subscriptionsFor filtersOf translators B ↔ A = B := by
    intro A B
    apply Mqtt.subscriptionsFor_inj filtersOf_inj (r := .attributes .basicInformation)
    · simp [translators]
    · simp [filtersOf, Translator.unifyClusterNames]
  cases ev with
  | nodeAdded node =>
    have hlive := live_foldl_updateSubscriptions h
      (toldBetween l.monitor (onUnifyNodeAdded env l.monitor node))
    have hsame := @addresses_onUnifyNodeAdded_iff _ _ _ _ _ node hP
    have hnode : UpToDate client (subscribedStep client env l (.nodeAdded node)) ↔
        (toldBetween l.monitor (onUnifyNodeAdded env l.monitor node)).foldl mark
          (addresses l.monitor) = addresses (onUnifyNodeAdded env l.monitor node) := by
      rw [upToDate_iff, ← hinj, ← hlive]
      exact Iff.rfl
    rw [← upToDate_iff, hnode]
    refine Iff.trans ?_ hsame
    rw [Set.ext_iff]
    apply forall_congr'
    intro a
    rw [mem_mark_nodeAdded slots]
    exact iff_comm
  | nodeRemoved unid =>
    apply iff_of_true _ trivial
    have hlive := live_foldl_updateSubscriptions h
      (toldBetween l.monitor (onUnifyNodeRemoved env l.monitor unid))
    rw [mark_nodeRemoved] at hlive
    exact hlive
  | nodeStateChanged node =>
    apply iff_of_true _ trivial
    have hlive := live_foldl_updateSubscriptions h
      (toldBetween l.monitor (onUnifyNodeStateChanged l.monitor node))
    rw [mark_nodeStateChanged hP] at hlive
    exact hlive
  | restart =>
    apply iff_of_true _ trivial
    have hempty : addresses (NodeStateMonitor.restart env l.monitor) = ∅ := by
      ext a
      simp [addresses, NodeStateMonitor.restart, NodeStateMonitor.start]
    have hnone : Mqtt.subscriptionsFor filtersOf translators (∅ : Set (String × ℕ)) = ∅ := by
      ext p
      simp [Mqtt.mem_subscriptionsFor]
    exact (client.live_none.trans hnone.symm).trans (congrArg _ hempty.symm)

theorem upToDate_start (client : Mqtt.Client σ Translator) (env : MonitorEnv Table Content) :
    UpToDate client
      ⟨NodeStateMonitor.start env (KeyValueStore.empty fun _ => false), client.none⟩ := by
  rw [upToDate_iff]
  have hstart : client.live client.none = ∅ := client.live_none
  refine hstart.trans ?_
  ext p
  simp [Mqtt.mem_subscriptionsFor, addresses, NodeStateMonitor.start]

end Steps

/-- Exactly the topics of what is bridged are subscribed after every event of a run, if and only if no
endpoint ever gets the id of another one of its node. -/
theorem upToDate_run_iff {Table Content σ : Type} (client : Mqtt.Client σ Translator)
    (env : MonitorEnv Table Content) (slots : EmberSlots env.ember)
    (evs : List NodeStateMonitor.Event) :
    (∀ before after, evs = before ++ after →
        UpToDate client (EventSystem.run (subscribedStep client env)
          ⟨NodeStateMonitor.start env (KeyValueStore.empty fun _ => false), client.none⟩ before)) ↔
      EventSystem.Guarded (NodeStateMonitor.step env) (DirectoryCondition env)
        (NodeStateMonitor.start env (KeyValueStore.empty fun _ => false)) evs := by
  have hmonitor : ∀ (l : Subscribed Table Content σ) ev,
      (subscribedStep client env l ev).monitor = NodeStateMonitor.step env l.monitor ev := by
    intro l ev
    cases ev <;> rfl
  rw [← EventSystem.guarded_map hmonitor (s :=
    ⟨NodeStateMonitor.start env (KeyValueStore.empty fun _ => false), client.none⟩)]
  apply EventSystem.forall_run_iff_guarded (I := fun l => Placed slots l.monitor)
  · intro l ev hP
    rw [hmonitor]
    exact hP.step ev
  · exact fun l ev hP h => upToDate_step_iff hP h ev
  · exact placed_run env slots []
  · exact upToDate_start client env

end UnifyMatterBridge.Bridge
