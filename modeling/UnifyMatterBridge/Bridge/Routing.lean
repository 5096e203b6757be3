import UnifyMatterBridge.Bridge.Subscriptions

/-! Messages on subscribed topics: every message is delivered to one translator at most, and taken for
the endpoint that is bridged for the address in its topic. -/
namespace UnifyMatterBridge.Bridge

open NodeStateMonitor AttributeTranslatorInterface

section Definitions

/-- The topics that the filters of a translator are for; the last argument fills the open level. -/
def Translator.topic (t : Translator) (unid : String) (ep : ℕ) (cluster name : String) : String :=
  match t with
  | .attributes _ => reportedTopic unid ep cluster name
  | .commands _ | .groupCommands => cmdResponseKey unid ep cluster name

def Translator.levels (t : Translator) (unid : String) (ep : ℕ) (cluster : String)
    (name : List Char) : List (List Char) :=
  ["ucl".toList, "by-unid".toList, unid.toList, "ep".toList ++ (toString ep).toList,
    cluster.toList] ++
  match t with
  | .attributes _ => ["Attributes".toList, name, "Reported".toList]
  | .commands _ | .groupCommands => ["GeneratedCommands".toList, name]

variable {Table Content σ : Type}

def Reaches (s : MonitorState Table Content) (topic : String) (e : BridgedEndpoint Content)
    (cluster name : String) : Translator → Prop
  | .attributes _ => ∀ f cache message, onMqttMessageCb s f cache topic message =
      match message with
      | .empty => ⟨cache, [], none⟩
      | .text parsed => if name = "" then ⟨cache, [], none⟩
        else handleReport f cache e.matterEndpoint cluster name parsed
  | .commands _ | .groupCommands =>
    Topic.search generatedCommandsPattern topic.toList =
        some [e.unifyUnid.toList, (toString e.unifyEndpoint.val).toList, cluster.toList, name.toList] ∧
      matterEndpointOf s e.unifyUnid e.unifyEndpoint = some e.matterEndpoint

/-- A message on the topic is delivered to one translator at most, which takes it for the entry of the
address in the topic; and messages for the endpoints that are bridged are delivered. -/
structure Routed (client : Mqtt.Client σ Translator) (l : Subscribed Table Content σ)
    (topic : String) : Prop where
  once : (client.receivers l.session topic).Subsingleton
  reaches : ∀ t ∈ client.receivers l.session topic, ∃ e ∈ l.monitor.bridgedEndpoints,
    ∃ cluster ∈ t.unifyClusterNames, ∃ name, topic = t.topic e.unifyUnid e.unifyEndpoint cluster name ∧
      Reaches l.monitor topic e cluster name t
  delivered : ∀ e ∈ l.monitor.bridgedEndpoints, ∀ t ∈ translators, ∀ cluster ∈ t.unifyClusterNames,
    ∀ name : String, '/' ∉ name.toList →
      topic = t.topic e.unifyUnid e.unifyEndpoint cluster name →
        t ∈ client.receivers l.session topic

/-- Unids are levels of topics without wildcards, and endpoint ids have 16 bits. -/
def Addressed (a : String × ℕ) : Prop := Mqtt.IsLevel a.1.toList ∧ a.2 ≤ 65535

def WellAddressed : NodeStateMonitor.Event → Prop
  | .nodeAdded node => ∀ ep ∈ node.endpoints, Addressed (node.unid, ep.1.val)
  | .nodeRemoved _ | .nodeStateChanged _ | .restart => True

end Definitions

section Topics

variable {t t' : Translator} {unid unid' cluster cluster' name name' : String} {ep ep' : ℕ}

theorem topic_toList : (t.topic unid ep cluster name).toList =
    ['/'].intercalate (t.levels unid ep cluster name.toList) := by
  cases t <;> simp [Translator.topic, Translator.levels, reportedTopic, cmdResponseKey, unidTopic]

theorem topicFilter_toList : (topicFilter unid ep cluster t.suffix).toList =
    ['/'].intercalate (t.levels unid ep cluster ['+']) := by
  cases t <;> simp [topicFilter, Translator.suffix, Translator.levels, unidTopic]

theorem isLevel_ep (ep : ℕ) : Mqtt.IsLevel ("ep".toList ++ (toString ep).toList) := by
  have hchars : ∀ c ∈ "ep".toList ++ (toString ep).toList, c.isAlphanum = true := by
    intro c hc
    rcases List.mem_append.mp hc with hc | hc
    · have hall : "ep".toList.all Char.isAlphanum = true := by decide
      exact List.all_eq_true.mp hall c hc
    · have hdigit := DecimalKey.isDigit_of_mem_toString hc
      simp [Char.isAlphanum, hdigit]
  constructor
  all_goals
    intro hmem
    exact absurd (hchars _ hmem) (by decide)

theorem isLevel_literals : Mqtt.IsLevel "ucl".toList ∧ Mqtt.IsLevel "by-unid".toList ∧
    Mqtt.IsLevel "Attributes".toList ∧ Mqtt.IsLevel "Reported".toList ∧
    Mqtt.IsLevel "GeneratedCommands".toList := by
  refine ⟨?_, ?_, ?_, ?_, ?_⟩
  all_goals constructor
  all_goals decide

/-- One level of a topic is that of the name; it is the one that the filters leave open. -/
theorem exists_levels (t : Translator) (ep : ℕ) (hunid : Mqtt.IsLevel unid.toList)
    (hcluster : Mqtt.IsLevel cluster.toList) :
    ∃ front back, (∀ name, t.levels unid ep cluster name = front ++ name :: back) ∧
      (∀ f ∈ front, Mqtt.IsLevel f) ∧ ∀ f ∈ back, Mqtt.IsLevel f := by
  obtain ⟨hucl, hby, hattributes, hreported, hgenerated⟩ := isLevel_literals
  let common := ["ucl".toList, "by-unid".toList, unid.toList, "ep".toList ++ (toString ep).toList,
    cluster.toList]
  have hcommon : ∀ f ∈ common, Mqtt.IsLevel f := by
    simp only [common, List.forall_mem_cons]
    exact ⟨hucl, hby, hunid, isLevel_ep ep, hcluster, fun _ h => nomatch h⟩
  have hfront : ∀ last : List Char, Mqtt.IsLevel last → ∀ f ∈ common ++ [last], Mqtt.IsLevel f := by
    intro last hlast f hf
    rcases List.mem_append.mp hf with hf | hf
    · exact hcommon f hf
    · rw [List.mem_singleton.mp hf]
      exact hlast
  have hnil : ∀ f ∈ ([] : List (List Char)), Mqtt.IsLevel f := fun _ h => nomatch h
  cases t with
  | attributes translator =>
    refine ⟨common ++ ["Attributes".toList], ["Reported".toList], fun _ => rfl,
      hfront _ hattributes, ?_⟩
    simpa using hreported
  | commands handler =>
    exact ⟨common ++ ["GeneratedCommands".toList], [], fun _ => rfl, hfront _ hgenerated, hnil⟩
  | groupCommands =>
    exact ⟨common ++ ["GeneratedCommands".toList], [], fun _ => rfl, hfront _ hgenerated, hnil⟩

theorem matches_topicFilter_iff (hunid : Mqtt.IsLevel unid.toList)
    (hcluster : Mqtt.IsLevel cluster.toList) {topic : String} :
    Mqtt.Matches (topicFilter unid ep cluster t.suffix).toList topic.toList ↔
      ∃ name : String, '/' ∉ name.toList ∧ topic = t.topic unid ep cluster name := by
  obtain ⟨front, back, heq, hfront, hback⟩ := exists_levels t ep hunid hcluster
  rw [topicFilter_toList, heq, Mqtt.matches_single_iff hfront hback]
  constructor
  · intro h
    obtain ⟨l, hl, htopic⟩ := h
    refine ⟨String.ofList l, by simpa using hl, String.toList_inj.mp ?_⟩
    rw [topic_toList, heq, htopic, String.toList_ofList]
  · intro h
    obtain ⟨name, hname, rfl⟩ := h
    exact ⟨name.toList, hname, by rw [topic_toList, heq]⟩

theorem levels_topic (hunid : Mqtt.IsLevel unid.toList) (hcluster : Mqtt.IsLevel cluster.toList)
    (hname : '/' ∉ name.toList) :
    Mqtt.levels (t.topic unid ep cluster name).toList = t.levels unid ep cluster name.toList := by
  obtain ⟨front, back, heq, hfront, hback⟩ := exists_levels t ep hunid hcluster
  rw [topic_toList, Mqtt.levels, List.splitOn_intercalate]
  · intro l hl
    rw [heq, List.mem_append, List.mem_cons] at hl
    rcases hl with hl | rfl | hl
    · exact (hfront l hl).separator
    · exact hname
    · exact (hback l hl).separator
  · rw [heq]
    simp

theorem eq_of_cluster (ht : t ∈ translators) (ht' : t' ∈ translators) (hsuffix : t.suffix = t'.suffix)
    (hcluster : cluster ∈ t.unifyClusterNames) (hcluster' : cluster ∈ t'.unifyClusterNames) :
    t = t' := by
  have hall : ∀ t ∈ translators, ∀ t' ∈ translators, t.suffix = t'.suffix →
      ∀ cluster ∈ t.unifyClusterNames, cluster ∈ t'.unifyClusterNames → t = t' := by
    decide +kernel
  exact hall t ht t' ht' hsuffix cluster hcluster hcluster'

theorem levels_inj {name name' : List Char}
    (h : t.levels unid ep cluster name = t'.levels unid' ep' cluster' name') :
    t.suffix = t'.suffix ∧ (unid = unid' ∧ ep = ep') ∧ cluster = cluster' ∧ name = name' := by
  have hcommon : ∀ rest rest' : List (List Char),
      ["ucl".toList, "by-unid".toList, unid.toList, "ep".toList ++ (toString ep).toList,
          cluster.toList] ++ rest =
        ["ucl".toList, "by-unid".toList, unid'.toList, "ep".toList ++ (toString ep').toList,
          cluster'.toList] ++ rest' →
      ((unid = unid' ∧ ep = ep') ∧ cluster = cluster') ∧ rest = rest' := by
    intro rest rest' heq
    simp only [List.cons_append, List.nil_append, List.cons.injEq, true_and, String.toList_inj,
      List.append_cancel_left_eq, DecimalKey.toString_inj] at heq
    obtain ⟨hunid, hep, hcluster, hrest⟩ := heq
    exact ⟨⟨⟨hunid, hep⟩, hcluster⟩, hrest⟩
  have hsplit := hcommon _ _ h
  refine ⟨?_, hsplit.1.1, hsplit.1.2, ?_⟩
  all_goals
    have hrest := hsplit.2
    cases t <;> cases t' <;> simp_all [Translator.suffix]

theorem topic_inj (ht : t ∈ translators) (ht' : t' ∈ translators)
    (hcluster : cluster ∈ t.unifyClusterNames) (hcluster' : cluster' ∈ t'.unifyClusterNames)
    (hunid : Mqtt.IsLevel unid.toList) (hunid' : Mqtt.IsLevel unid'.toList)
    (hname : '/' ∉ name.toList) (hname' : '/' ∉ name'.toList)
    (h : t.topic unid ep cluster name = t'.topic unid' ep' cluster' name') :
    t = t' ∧ (unid = unid' ∧ ep = ep') ∧ cluster = cluster' ∧ name = name' := by
  have hlevels := @levels_topic t unid cluster name ep hunid (clusterName_level t ht cluster hcluster)
    hname
  rw [h, levels_topic hunid' (clusterName_level t' ht' cluster' hcluster') hname'] at hlevels
  obtain ⟨hsuffix, haddress, hclusters, hnames⟩ := levels_inj hlevels.symm
  refine ⟨eq_of_cluster ht ht' hsuffix hcluster ?_, haddress, hclusters, String.toList_inj.mp hnames⟩
  rw [hclusters]
  exact hcluster'

end Topics

section Entries

variable {Table Content σ : Type} {client : Mqtt.Client σ Translator}
  {env : MonitorEnv Table Content} {slots : EmberSlots env.ember} {l : Subscribed Table Content σ}
  {t : Translator} {e : BridgedEndpoint Content} {cluster name : String}

theorem matterEndpointOf_of_mem {s : MonitorState Table Content} (hone : OneEntry s)
    (he : e ∈ s.bridgedEndpoints) :
    matterEndpointOf s e.unifyUnid e.unifyEndpoint = some e.matterEndpoint := by
  have hfind : NodeStateMonitor.bridgedEndpoint s e.unifyUnid e.unifyEndpoint = some e := by
    apply Multimap.find?_eq_of_unique (Multimap.mem_equalRange.mpr ⟨he, rfl⟩) (by simp)
    intro x hx hep
    obtain ⟨hmem, hunid⟩ := Multimap.mem_equalRange.mp hx
    have haddress : x.address = e.address := Prod.ext hunid (of_decide_eq_true hep)
    have hnodup : (s.bridgedEndpoints.map (·.address)).Nodup := List.pairwise_map.mpr hone
    exact List.inj_on_of_nodup_map hnodup hmem he haddress
  rw [matterEndpointOf, if_pos (by omega), Int.toNat_natCast, hfind]
  rfl

theorem reaches_of_mem {s : MonitorState Table Content} (hone : OneEntry s)
    (he : e ∈ s.bridgedEndpoints) (haddr : Addressed e.address) (ht : t ∈ translators)
    (hcluster : cluster ∈ t.unifyClusterNames) (hname : '/' ∉ name.toList) :
    Reaches s (t.topic e.unifyUnid e.unifyEndpoint cluster name) e cluster name t := by
  have hunid : '/' ∉ e.unifyUnid.toList := haddr.1.separator
  have hslash := (clusterName_level t ht cluster hcluster).separator
  have hmatter := matterEndpointOf_of_mem hone he
  have hep : '/' ∉ (toString e.unifyEndpoint.val).toList := by
    intro hmem
    exact absurd (DecimalKey.isDigit_of_mem_toString hmem) (by decide)
  have hgenerated := search_cmdResponseKey e.unifyEndpoint hunid hslash hname
  cases t with
  | attributes translator =>
    intro f cache message
    have hsearch : Topic.search reportedPattern
        (reportedTopic e.unifyUnid e.unifyEndpoint cluster name).toList =
          some [e.unifyUnid.toList, (toString e.unifyEndpoint.val).toList, cluster.toList,
            name.toList] := by
      have hrender : (reportedTopic e.unifyUnid e.unifyEndpoint cluster name).toList =
          Topic.render reportedPattern [e.unifyUnid.toList, (toString e.unifyEndpoint.val).toList,
            cluster.toList, name.toList] := by
        simp [reportedTopic, unidTopic, reportedPattern, Topic.render]
      rw [hrender]
      apply Topic.search_render
      exact ⟨hunid, trivial, hep, trivial, hslash, trivial, hname, trivial, rfl⟩
    have hle : e.unifyEndpoint.val ≤ 2147483647 := haddr.2.trans (by decide)
    have hnonempty : ¬ cluster.toList = [] := by
      have hall : ∀ t ∈ translators, ∀ cluster ∈ t.unifyClusterNames, cluster ≠ "" := by decide
      simpa using hall _ ht cluster hcluster
    cases message with
    | empty => simp only [Translator.topic, onMqttMessageCb, hsearch, String.ofList_toList,
        stoi_toString hle, hmatter]
    | text parsed => simp only [Translator.topic, onMqttMessageCb, hsearch, String.ofList_toList,
        stoi_toString hle, hmatter, hnonempty, or_false, String.toList_eq_nil_iff]
  | commands handler => exact ⟨hgenerated, hmatter⟩
  | groupCommands => exact ⟨hgenerated, hmatter⟩

theorem mem_receivers_iff (h : UpToDate client l) (haddr : ∀ a ∈ addresses l.monitor, Addressed a)
    {topic : String} : t ∈ client.receivers l.session topic ↔
      t ∈ translators ∧ ∃ e ∈ l.monitor.bridgedEndpoints, ∃ cluster ∈ t.unifyClusterNames,
        ∃ name : String, '/' ∉ name.toList ∧
          topic = t.topic e.unifyUnid e.unifyEndpoint cluster name := by
  constructor
  · intro hmem
    obtain ⟨filter, hlive, hmatches⟩ := hmem
    obtain ⟨ht, e, he, cluster, hcluster, rfl⟩ := (h filter t).mp hlive
    have hunid := (haddr e.address ⟨e, he, rfl⟩).1
    exact ⟨ht, e, he, cluster, hcluster,
      (matches_topicFilter_iff hunid (clusterName_level t ht cluster hcluster)).mp hmatches⟩
  · intro hmem
    obtain ⟨ht, e, he, cluster, hcluster, hname⟩ := hmem
    have hunid := (haddr e.address ⟨e, he, rfl⟩).1
    exact ⟨_, (h _ t).mpr ⟨ht, e, he, cluster, hcluster, rfl⟩,
      (matches_topicFilter_iff hunid (clusterName_level t ht cluster hcluster)).mpr hname⟩

/-- A topic of an address is received by its translator and no other, while the address is bridged. -/
theorem mem_receivers_topic_iff (h : UpToDate client l)
    (haddr : ∀ a ∈ addresses l.monitor, Addressed a) {a : String × ℕ} (ha : Addressed a)
    (ht : t ∈ translators) (hcluster : cluster ∈ t.unifyClusterNames) (hname : '/' ∉ name.toList)
    {t' : Translator} : t' ∈ client.receivers l.session (t.topic a.1 a.2 cluster name) ↔
      t' = t ∧ a ∈ addresses l.monitor := by
  rw [mem_receivers_iff h haddr]
  constructor
  · intro hreached
    obtain ⟨ht', e, he, cluster', hcluster', name', hname', htopic⟩ := hreached
    have hunid := (haddr e.address ⟨e, he, rfl⟩).1
    obtain ⟨rfl, haddress, -⟩ := topic_inj ht ht' hcluster hcluster' ha.1 hunid hname hname' htopic
    exact ⟨rfl, e, he, Prod.ext haddress.1.symm haddress.2.symm⟩
  · intro hbridged
    obtain ⟨rfl, e, he, rfl⟩ := hbridged
    exact ⟨ht, e, he, cluster, hcluster, name, hname, rfl⟩

theorem routed_of_upToDate (hP : Placed slots l.monitor) (h : UpToDate client l)
    (haddr : ∀ a ∈ addresses l.monitor, Addressed a) (topic : String) : Routed client l topic := by
  constructor
  · intro t ht t' ht'
    obtain ⟨ht, e, he, cluster, hcluster, name, hname, htopic⟩ := (mem_receivers_iff h haddr).mp ht
    obtain ⟨ht', e', he', cluster', hcluster', name', hname', htopic'⟩ :=
      (mem_receivers_iff h haddr).mp ht'
    have hunid := (haddr e.address ⟨e, he, rfl⟩).1
    have hunid' := (haddr e'.address ⟨e', he', rfl⟩).1
    exact (topic_inj ht ht' hcluster hcluster' hunid hunid' hname hname' (htopic ▸ htopic')).1
  · intro t hreceives
    obtain ⟨ht, e, he, cluster, hcluster, name, hname, rfl⟩ :=
      (mem_receivers_iff h haddr).mp hreceives
    have haddress := haddr e.address ⟨e, he, rfl⟩
    exact ⟨e, he, cluster, hcluster, name, rfl,
      reaches_of_mem hP.addresses he haddress ht hcluster hname⟩
  · intro e he t ht cluster hcluster name hname htopic
    exact (mem_receivers_iff h haddr).mpr ⟨ht, e, he, cluster, hcluster, name, hname, htopic⟩

theorem addressed_step (hP : Placed slots l.monitor) {ev : NodeStateMonitor.Event}
    (haddr : ∀ a ∈ addresses l.monitor, Addressed a) (hids : DirectoryCondition env l.monitor ev)
    (hev : WellAddressed ev) :
    ∀ a ∈ addresses (NodeStateMonitor.step env l.monitor ev), Addressed a := by
  intro a ha
  cases ev with
  | nodeAdded node =>
    have hmem := (addresses_onUnifyNodeAdded_iff hP).mpr hids a
    rcases hmem.mp ha with hold | hnew
    · exact haddr a hold
    · obtain ⟨ep, hep, -, rfl⟩ := hnew
      exact hev ep (mem_of_mem_visited hep)
  | nodeRemoved unid =>
    obtain ⟨e, he, rfl⟩ := ha
    exact haddr _ ⟨e, (mem_onUnifyNodeRemoved.mp he).1, rfl⟩
  | nodeStateChanged node =>
    obtain ⟨e, he, rfl⟩ := ha
    have hentries := hP.bridgedEndpoints_onUnifyNodeStateChanged node
    have hmap : e ∈ (onUnifyNodeStateChanged l.monitor node).bridgedEndpoints := he
    rw [hentries, List.mem_map] at hmap
    obtain ⟨e', he', rfl⟩ := hmap
    have haddress : (if e'.unifyUnid = node.unid
        then { e' with reachable := some (node.state == .onlineFunctional) } else e').address =
          e'.address := by
      split_ifs <;> rfl
    rw [haddress]
    exact haddr _ ⟨e', he', rfl⟩
  | restart =>
    obtain ⟨e, he, -⟩ := ha
    exact absurd he (by simp [NodeStateMonitor.step, NodeStateMonitor.restart, NodeStateMonitor.start])

end Entries

/-- After every run in which no endpoint gets the id of another one of its node, every topic is
routed. -/
theorem routed_run {Table Content σ : Type} (client : Mqtt.Client σ Translator)
    (env : MonitorEnv Table Content) (slots : EmberSlots env.ember)
    (evs : List NodeStateMonitor.Event)
    (h : EventSystem.Guarded (NodeStateMonitor.step env)
      (fun s ev => DirectoryCondition env s ev ∧ WellAddressed ev)
      (NodeStateMonitor.start env (KeyValueStore.empty fun _ => false)) evs) (topic : String) :
    Routed client (EventSystem.run (subscribedStep client env)
      ⟨NodeStateMonitor.start env (KeyValueStore.empty fun _ => false), client.none⟩ evs) topic := by
  have hmonitor : ∀ (l : Subscribed Table Content σ) ev,
      (subscribedStep client env l ev).monitor = NodeStateMonitor.step env l.monitor ev := by
    intro l ev
    cases ev <;> rfl
  have hguarded := (EventSystem.guarded_map hmonitor (s :=
    ⟨NodeStateMonitor.start env (KeyValueStore.empty fun _ => false), client.none⟩)).mpr h
  have hstart : Placed slots (NodeStateMonitor.start env (KeyValueStore.empty fun _ => false)) ∧
      UpToDate client ⟨NodeStateMonitor.start env (KeyValueStore.empty fun _ => false), client.none⟩ ∧
      ∀ a ∈ addresses (NodeStateMonitor.start env (KeyValueStore.empty fun _ => false)),
        Addressed a := by
    refine ⟨placed_run env slots [], upToDate_start client env, fun a ha => ?_⟩
    obtain ⟨e, he, -⟩ := ha
    exact absurd he (by simp [NodeStateMonitor.start])
  have hkept := EventSystem.invariant_run (I := fun l => Placed slots l.monitor ∧ UpToDate client l ∧
    ∀ a ∈ addresses l.monitor, Addressed a) ?_ hstart hguarded
  · obtain ⟨hP, hdate, haddr⟩ := hkept
    exact routed_of_upToDate hP hdate haddr topic
  · intro l ev hinv hev
    obtain ⟨hP, hdate, haddr⟩ := hinv
    refine ⟨?_, (upToDate_step_iff hP hdate ev).mpr hev.1, ?_⟩
    · rw [hmonitor]
      exact hP.step ev
    · rw [hmonitor]
      exact addressed_step hP haddr hev.1 hev.2

theorem wellAddressed_light {unid : String} (h : Mqtt.IsLevel unid.toList) :
    WellAddressed (.nodeAdded (lightNode unid)) := by
  intro ep _
  have hlt := ep.1.isLt
  exact ⟨h, by omega⟩

/-- A light is added, a second one comes and goes, and the first one reports. -/
theorem routed_run_of_light :
    Routed (Mqtt.Client.listed Translator) (EventSystem.run
      (subscribedStep (Mqtt.Client.listed Translator) lightEnv)
      ⟨NodeStateMonitor.start lightEnv (KeyValueStore.empty fun _ => false), []⟩
        [.nodeAdded (lightNode "A"), .nodeAdded (lightNode "B"), .nodeRemoved "B"])
      "ucl/by-unid/A/ep1/OnOff/Attributes/OnOff/Reported" := by
  apply routed_run (Mqtt.Client.listed Translator) lightEnv lightSlots
  have hA := @wellAddressed_light "A" ⟨by decide, by decide, by decide⟩
  have hB := @wellAddressed_light "B" ⟨by decide, by decide, by decide⟩
  refine ⟨⟨⟨fun _ e he => (nomatch he), trivial⟩, hA⟩, ⟨⟨fun _ e he hunid => ?_, trivial⟩, hB⟩,
    ⟨trivial, trivial⟩, trivial⟩
  have hentries : ∀ e ∈ (NodeStateMonitor.step lightEnv
      (NodeStateMonitor.start lightEnv (KeyValueStore.empty fun _ => false))
      (.nodeAdded (lightNode "A"))).bridgedEndpoints, e.unifyUnid = "A" := by
    decide
  have hold : e.unifyUnid = "A" := hentries e he
  rw [hold] at hunid
  exact absurd hunid (by decide)

end UnifyMatterBridge.Bridge
