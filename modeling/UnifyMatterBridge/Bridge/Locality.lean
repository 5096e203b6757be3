import UnifyMatterBridge.Attribute.BasicInformation
import UnifyMatterBridge.Attribute.Write
import UnifyMatterBridge.Group.Commands
import UnifyMatterBridge.Lib.Outcome
import UnifyMatterBridge.Lib.Partition

/-! What reports, reads, writes and commands for one Matter endpoint have to do with the cached
attributes of other endpoints: they neither depend on them nor change them. -/
namespace UnifyMatterBridge

open Partition AttributeTranslatorInterface

/-- The caches hold the same attributes of an endpoint. -/
abbrev SameEndpoint (endpointId : ℕ) (c c' : AttributeCache) : Prop :=
  AgreeOn AttrPath.endpointId endpointId c c'

variable {c c' : AttributeCache} {endpointId other : ℕ}

theorem SameEndpoint.getInt (h : SameEndpoint endpointId c c') (t : IntType) {path : AttrPath}
    (hpath : path.endpointId = endpointId) : c.getInt t path = c'.getInt t path :=
  AttributeCache.getInt_congr (h path hpath)

section Report

variable {a : ClusterAttributeAccess} {m : DataModel} {value : Json}

theorem onLiftPercentage_same (h : SameEndpoint endpointId c c') :
    Outcome.Same (SameEndpoint endpointId)
      (EmulateWindowCovering.onLiftPercentage value endpointId c)
      (EmulateWindowCovering.onLiftPercentage value endpointId c') := by
  refine Outcome.Same.bind_left fun percentage => ?_
  split_ifs
  · exact Outcome.Same.ok (h.update _)
  · exact Outcome.Same.ok h

theorem onLift_same (h : SameEndpoint endpointId c c') :
    Outcome.Same (SameEndpoint endpointId) (EmulateWindowCovering.onLift value endpointId c)
      (EmulateWindowCovering.onLift value endpointId c') := by
  unfold EmulateWindowCovering.onLift
  rw [h.getInt .uint16 rfl, h.getInt .uint16 rfl]
  refine Outcome.Same.bind_left fun openLimit => ?_
  refine Outcome.Same.bind_left fun closedLimit => ?_
  refine Outcome.Same.bind_left fun lift => ?_
  split_ifs
  · exact Outcome.Same.ok (h.update _)
  · exact Outcome.Same.ok h

theorem applyRegisteredCallback_same (key : String) (h : SameEndpoint endpointId c c') :
    Outcome.Same (SameEndpoint endpointId) (applyRegisteredCallback key value endpointId c)
      (applyRegisteredCallback key value endpointId c') := by
  unfold applyRegisteredCallback
  split_ifs
  · exact onLiftPercentage_same h
  · exact onLift_same h
  · exact Outcome.Same.ok h

theorem applyRegisteredCallback_eq_ok {key : String} {result : AttributeCache}
    (h : applyRegisteredCallback key value endpointId c = .ok result) :
    result = c ∨
      result = c.set (EmulateWindowCovering.operationalStatus endpointId) (.int .uint8 0x00) := by
  unfold applyRegisteredCallback at h
  split_ifs at h
  · obtain ⟨percentage, -, h⟩ := Outcome.bind_eq_ok h
    cases h
    split_ifs
    · exact Or.inr rfl
    · exact Or.inl rfl
  · obtain ⟨openLimit, -, h⟩ := Outcome.bind_eq_ok h
    obtain ⟨closedLimit, -, h⟩ := Outcome.bind_eq_ok h
    obtain ⟨lift, -, h⟩ := Outcome.bind_eq_ok h
    cases h
    split_ifs
    · exact Or.inr rfl
    · exact Or.inl rfl
  · cases h
    exact Or.inl rfl

/-- The caches after `reported_updated`, with the paths that it notifies of. -/
def SameUpdate (endpointId : ℕ) (r r' : AttributeCache × List AttrPath) : Prop :=
  SameEndpoint endpointId r.1 r'.1 ∧ r.2 = r'.2

theorem AttributeInfo.set_same {info : AttributeInfo} {path : AttrPath} {v : CacheValue}
    (h : SameEndpoint endpointId c c') :
    SameEndpoint endpointId (info.set c path v) (info.set c' path v) := by
  unfold AttributeInfo.set
  split_ifs
  · exact h
  · exact h.update _

theorem reportedUpdated_same (cluster attributeName : String) (h : SameEndpoint endpointId c c') :
    Outcome.Same (SameUpdate endpointId)
      (a.reportedUpdated m c endpointId cluster attributeName value)
      (a.reportedUpdated m c' endpointId cluster attributeName value) := by
  unfold ClusterAttributeAccess.reportedUpdated
  cases a.reportedCase m cluster attributeName with
  | none => exact Outcome.Same.ok ⟨h, rfl⟩
  | some case =>
    refine Outcome.Same.bind_left fun v => ?_
    cases v with
    | none => exact Outcome.Same.ok ⟨h, rfl⟩
    | some v => exact Outcome.Same.ok ⟨AttributeInfo.set_same h, rfl⟩

theorem reportedUpdated_frame {cluster attributeName : String}
    {result : AttributeCache × List AttrPath} (hne : endpointId ≠ other)
    (h : a.reportedUpdated m c endpointId cluster attributeName value = .ok result) :
    SameEndpoint other result.1 c := by
  unfold ClusterAttributeAccess.reportedUpdated at h
  cases hcase : a.reportedCase m cluster attributeName with
  | none =>
    rw [hcase] at h
    cases h
    exact AgreeOn.refl c
  | some case =>
    rw [hcase] at h
    obtain ⟨v, -, h⟩ := Outcome.bind_eq_ok h
    cases v with
    | none =>
      cases h
      exact AgreeOn.refl c
    | some v =>
      cases h
      dsimp only [AttributeInfo.set]
      split_ifs
      · exact AgreeOn.refl c
      · exact agreeOn_update_of_ne hne _

/-- A `reported_updated` that neither depends on attributes of other endpoints nor changes them. -/
structure LocalUpdate (f : ReportedUpdated) : Prop where
  same : ∀ {c c' : AttributeCache} {endpointId : ℕ} (cluster attributeName : String) (value : Json),
    SameEndpoint endpointId c c' → Outcome.Same (SameUpdate endpointId)
      (f c endpointId cluster attributeName value) (f c' endpointId cluster attributeName value)
  frame : ∀ {c : AttributeCache} {endpointId other : ℕ} {cluster attributeName : String}
    {value : Json} {result : AttributeCache × List AttrPath}, endpointId ≠ other →
      f c endpointId cluster attributeName value = .ok result → SameEndpoint other result.1 c

theorem localUpdate_reportedUpdated (a : ClusterAttributeAccess) (m : DataModel) :
    LocalUpdate (a.reportedUpdated m) where
  same cluster attributeName _ h := reportedUpdated_same cluster attributeName h
  frame := reportedUpdated_frame

theorem localUpdate_basic : LocalUpdate BridgedDeviceBasicInfoAttributeAccess.reportedUpdated where
  same {c c' endpointId} cluster attributeName value h := by
    rcases BridgedDeviceBasicInfoAttributeAccess.reportedUpdated_cases endpointId cluster
      attributeName value with ⟨e, heq⟩ | heq | ⟨attributeId, v, heq⟩
    · rw [heq c, heq c']
      exact Outcome.Same.error e
    · rw [heq c, heq c']
      exact Outcome.Same.ok ⟨h, rfl⟩
    · rw [heq c, heq c']
      exact Outcome.Same.ok ⟨h.update _, rfl⟩
  frame {c endpointId other cluster attributeName value result} hne hresult := by
    rcases BridgedDeviceBasicInfoAttributeAccess.reportedUpdated_cases endpointId cluster
      attributeName value with ⟨e, heq⟩ | heq | ⟨attributeId, v, heq⟩
    · rw [heq c] at hresult
      cases hresult
    · rw [heq c] at hresult
      cases hresult
      exact AgreeOn.refl c
    · rw [heq c] at hresult
      cases hresult
      exact agreeOn_update_of_ne hne _

variable {f : ReportedUpdated}

theorem handleReport_same (hf : LocalUpdate f) (cluster attributeName : String)
    (parsed : Except ParseFailure Json) (h : SameEndpoint endpointId c c') :
    SameEndpoint endpointId (handleReport f c endpointId cluster attributeName parsed).cache
      (handleReport f c' endpointId cluster attributeName parsed).cache := by
  unfold handleReport
  cases parsed with
  | error e => exact h
  | ok jsn =>
    dsimp only
    cases jsn.subscript "value" with
    | error e => exact h
    | ok value =>
      dsimp only
      have hcallback := @applyRegisteredCallback_same c c' endpointId value
        (cluster ++ "::" ++ attributeName) h
      generalize applyRegisteredCallback (cluster ++ "::" ++ attributeName) value endpointId c = called
        at hcallback ⊢
      generalize applyRegisteredCallback (cluster ++ "::" ++ attributeName) value endpointId c' =
        called' at hcallback ⊢
      cases hcallback with
      | error e => exact h
      | @ok called called' h =>
        dsimp only
        have hupdated := hf.same cluster attributeName value h
        generalize f called endpointId cluster attributeName value = result at hupdated ⊢
        generalize f called' endpointId cluster attributeName value = result' at hupdated ⊢
        cases hupdated with
        | error e => exact h
        | ok h => exact h.1

theorem handleReport_frame (hf : LocalUpdate f) (cluster attributeName : String)
    (parsed : Except ParseFailure Json) (hne : endpointId ≠ other) :
    SameEndpoint other (handleReport f c endpointId cluster attributeName parsed).cache c := by
  unfold handleReport
  cases parsed with
  | error e => exact AgreeOn.refl c
  | ok jsn =>
    dsimp only
    cases jsn.subscript "value" with
    | error e => exact AgreeOn.refl c
    | ok value =>
      dsimp only
      cases hcallback : applyRegisteredCallback (cluster ++ "::" ++ attributeName) value
          endpointId c with
      | error e => exact AgreeOn.refl c
      | ok called =>
        have hcalled : SameEndpoint other called c := by
          rcases applyRegisteredCallback_eq_ok hcallback with rfl | rfl
          · exact AgreeOn.refl _
          · exact agreeOn_update_of_ne hne _
        dsimp only
        cases hupdated : f called endpointId cluster attributeName value with
        | error e => exact hcalled
        | ok result => exact (hf.frame hne hupdated).trans hcalled

variable {Table Content : Type} {s : MonitorState Table Content}

/-- After a message the caches hold the same for every endpoint for which they did before. -/
theorem onMqttMessageCb_same (hf : LocalUpdate f) (topic : String) (message : Message)
    (h : SameEndpoint other c c') :
    SameEndpoint other (onMqttMessageCb s f c topic message).cache
      (onMqttMessageCb s f c' topic message).cache := by
  unfold onMqttMessageCb
  split
  · next unid endpointId cluster attributeName heq =>
    cases stoi (String.ofList endpointId) with
    | error e => exact h
    | ok epid =>
      dsimp only
      cases matterEndpointOf s (String.ofList unid) epid with
      | none => exact h
      | some matterEndpoint =>
        cases message with
        | empty => exact h
        | text parsed =>
          dsimp only
          split_ifs
          · exact h
          · by_cases hother : matterEndpoint = other
            · subst hother
              exact handleReport_same hf _ _ parsed h
            · have hframe := handleReport_frame (c := c) hf (String.ofList cluster)
                (String.ofList attributeName) parsed hother
              have hframe' := handleReport_frame (c := c') hf (String.ofList cluster)
                (String.ofList attributeName) parsed hother
              exact hframe.trans (h.trans hframe'.symm)
  · exact h

end Report

section Access

variable {Table Content : Type} {s : MonitorState Table Content} {m : DataModel}
  {emberAfFindServerCluster : ℕ → ℕ → Bool} {a : ClusterAttributeAccess} {path : AttrPath}
  {decoder : AttributeValueDecoder}

theorem read_same (h : SameEndpoint path.endpointId c c') :
    a.read s m emberAfFindServerCluster c path = a.read s m emberAfFindServerCluster c' path := by
  apply read_congr
  intro p hp
  rcases hp with rfl | ⟨-, hendpoint, -⟩
  · exact h p rfl
  · exact h p hendpoint

theorem read_basic_same (h : SameEndpoint path.endpointId c c') :
    BridgedDeviceBasicInfoAttributeAccess.read c path =
      BridgedDeviceBasicInfoAttributeAccess.read c' path :=
  BridgedDeviceBasicInfoAttributeAccess.read_congr (h path rfl)

theorem write_same (h : SameEndpoint path.endpointId c c') :
    a.write path decoder s c = a.write path decoder s c' :=
  write_congr fun attributeId => h (ClusterEmulator.sibling path attributeId) rfl

end Access

section Groups

variable {P : Type} {stack : GroupStack P} {bridgedEndpoint : ℕ → Option (String × ℕ)} {p : P}
  {t : GroupTranslator} {inv : GroupInvocation}

/-- A command of the Groups cluster depends on the identify time of its endpoint only. -/
theorem groupCommand_same (h : SameEndpoint inv.path.endpointId c c') :
    GroupClusterCommandHandler.invokeCommand stack bridgedEndpoint p t c inv =
      GroupClusterCommandHandler.invokeCommand stack bridgedEndpoint p t c' inv := by
  have hidentifying : identifying c inv.path.endpointId = identifying c' inv.path.endpointId := by
    unfold identifying
    rw [AttributeCache.getInt_congr (h (identifyTimePath inv.path.endpointId) rfl)]
  have htranslate : GroupClusterCommandHandler.translate stack p t c inv =
      GroupClusterCommandHandler.translate stack p t c' inv := by
    unfold GroupClusterCommandHandler.translate
    rw [hidentifying]
  unfold GroupClusterCommandHandler.invokeCommand
  rw [htranslate]

end Groups

section Command

variable {path : CommandPath} {decode : ℕ → Option Args}

structure SameDecision (em em' : Emulation) : Prop where
  effects : em.effects = em'.effects
  decodes : em.decodes = em'.decodes
  cdata : em.cdata = em'.cdata

structure SameEmulation (endpointId : ℕ) (em em' : Emulation) : Prop
    extends SameDecision em em' where
  cache : SameEndpoint endpointId em.cache em'.cache

theorem SameDecision.of_cache (em : Emulation) (c c' : AttributeCache) :
    SameDecision { em with cache := c } { em with cache := c' } :=
  ⟨rfl, rfl, rfl⟩

theorem SameEmulation.of_cache (em : Emulation) (h : SameEndpoint endpointId c c') :
    SameEmulation endpointId { em with cache := c } { em with cache := c' } :=
  ⟨SameDecision.of_cache em c c', h⟩

theorem levelControl_eq : EmulateLevelControl.command c path decode =
    { EmulateLevelControl.command .empty path decode with cache := c } := by
  unfold EmulateLevelControl.command
  cases decode 0 with
  | none => rfl
  | some data =>
    dsimp only
    split_ifs <;> rfl

theorem colorControl_eq : EmulateColorControl.command c path decode =
    { EmulateColorControl.command .empty path decode with cache := c } := by
  have hemulate : ∀ cmd invalid arguments,
      EmulateColorControl.emulate c path decode cmd invalid arguments =
        { EmulateColorControl.emulate .empty path decode cmd invalid arguments with cache := c } := by
    intro cmd invalid arguments
    unfold EmulateColorControl.emulate
    cases decode 0 with
    | none => rfl
    | some data =>
      dsimp only
      split_ifs <;> rfl
  unfold EmulateColorControl.command
  split <;> first
    | exact hemulate _ _ _
    | rfl

theorem doorLock_eq : EmulateDoorLock.command c path decode =
    { EmulateDoorLock.command .empty path decode with cache := c } := by
  unfold EmulateDoorLock.command
  split <;> rfl

theorem windowCovering_same (h : SameEndpoint path.endpointId c c') :
    Outcome.Same (SameEmulation path.endpointId) (EmulateWindowCovering.command c path)
      (EmulateWindowCovering.command c' path) := by
  unfold EmulateWindowCovering.command EmulateWindowCovering.isCommandAllowed
  rw [h.getInt .uint8 rfl, h.getInt .uint16 rfl, h.getInt .uint8 rfl]
  refine Outcome.Same.bind_left fun percentage => ?_
  refine Outcome.Same.bind_left fun position => ?_
  refine Outcome.Same.bind_left fun answer => ?_
  cases answer with
  | some effects => exact Outcome.Same.ok ⟨⟨rfl, rfl, rfl⟩, h⟩
  | none =>
    have hstatus : ∀ status, SameEndpoint path.endpointId
        (EmulateWindowCovering.setOperationalStatus c path status)
        (EmulateWindowCovering.setOperationalStatus c' path status) :=
      fun status => h.update _
    dsimp only
    unfold EmulateWindowCovering.move
    rw [h.getInt .uint16 rfl, h.getInt .uint16 rfl]
    split
    · refine Outcome.Same.bind_left fun limit => ?_
      exact Outcome.Same.ok ⟨⟨rfl, rfl, rfl⟩, hstatus _⟩
    · refine Outcome.Same.bind_left fun limit => ?_
      exact Outcome.Same.ok ⟨⟨rfl, rfl, rfl⟩, hstatus _⟩
    · exact Outcome.Same.ok ⟨⟨rfl, rfl, rfl⟩, hstatus _⟩
    · exact Outcome.Same.ok ⟨⟨rfl, rfl, rfl⟩, h⟩

theorem thermostat_same (h : SameEndpoint path.endpointId c c') :
    Outcome.Same (SameEmulation path.endpointId) (EmulateThermostat.command c path decode)
      (EmulateThermostat.command c' path decode) := by
  have hsetpoint : ∀ setpoint amount both,
      EmulateThermostat.updateSetpoint c path setpoint amount both =
        EmulateThermostat.updateSetpoint c' path setpoint amount both := by
    intro setpoint amount both
    unfold EmulateThermostat.updateSetpoint
    dsimp only
    rw [h.getInt .int16 rfl, h.getInt .int16 rfl, h.getInt .int16 rfl]
  have hamount : ∀ mode amount, EmulateThermostat.updateAmount c path mode amount =
      EmulateThermostat.updateAmount c' path mode amount := by
    intro mode amount
    unfold EmulateThermostat.updateAmount EmulateThermostat.updateHeatingSetpoint
      EmulateThermostat.updateCoolingSetpoint
    rw [hsetpoint, hsetpoint]
  unfold EmulateThermostat.command
  cases decode 0 with
  | none => exact Outcome.Same.ok ⟨⟨rfl, rfl, rfl⟩, h⟩
  | some data =>
    dsimp only
    rw [hamount]
    refine Outcome.Same.bind_left fun amount => ?_
    cases amount with
    | none => exact Outcome.Same.ok ⟨⟨rfl, rfl, rfl⟩, h⟩
    | some amount => exact Outcome.Same.ok ⟨⟨rfl, rfl, rfl⟩, h⟩

/-- The emulators depend on the cached attributes of the endpoint of the command only. -/
theorem invokeEmulator_same (h : SameEndpoint path.endpointId c c') :
    Outcome.Same (SameEmulation path.endpointId) (invokeEmulator c path decode)
      (invokeEmulator c' path decode) := by
  unfold invokeEmulator
  split
  · rw [@levelControl_eq c, @levelControl_eq c']
    exact Outcome.Same.ok (SameEmulation.of_cache _ h)
  · rw [@doorLock_eq c, @doorLock_eq c']
    exact Outcome.Same.ok (SameEmulation.of_cache _ h)
  · exact windowCovering_same h
  · exact thermostat_same h
  · rw [@colorControl_eq c, @colorControl_eq c']
    exact Outcome.Same.ok (SameEmulation.of_cache _ h)
  · exact Outcome.Same.ok ⟨⟨rfl, rfl, rfl⟩, h⟩

/-- A covering that moves sets its status; one that is stopped by a check sets nothing. -/
theorem windowCovering_cache {em : Emulation} (h : EmulateWindowCovering.command c path = .ok em) :
    em.cache = c ∨ ∃ status, em.cache = EmulateWindowCovering.setOperationalStatus c path status := by
  obtain ⟨percentage, -, h⟩ := Outcome.bind_eq_ok h
  obtain ⟨position, -, h⟩ := Outcome.bind_eq_ok h
  obtain ⟨answer, -, h⟩ := Outcome.bind_eq_ok h
  cases answer with
  | some effects =>
    cases h
    exact Or.inl rfl
  | none =>
    dsimp only [EmulateWindowCovering.move] at h
    split at h
    · obtain ⟨limit, -, h⟩ := Outcome.bind_eq_ok h
      cases h
      exact Or.inr ⟨_, rfl⟩
    · obtain ⟨limit, -, h⟩ := Outcome.bind_eq_ok h
      cases h
      exact Or.inr ⟨_, rfl⟩
    · cases h
      exact Or.inr ⟨_, rfl⟩
    · cases h
      exact Or.inl rfl

theorem thermostat_cache {em : Emulation}
    (h : EmulateThermostat.command c path decode = .ok em) : em.cache = c := by
  unfold EmulateThermostat.command at h
  cases hdecode : decode 0 with
  | none =>
    rw [hdecode] at h
    cases h
    rfl
  | some data =>
    rw [hdecode] at h
    obtain ⟨amount, -, h⟩ := Outcome.bind_eq_ok h
    cases amount with
    | none =>
      cases h
      rfl
    | some amount =>
      cases h
      rfl

theorem invokeEmulator_cache {em : Emulation} (h : invokeEmulator c path decode = .ok em) :
    em.cache = c ∨ ∃ status, em.cache = EmulateWindowCovering.setOperationalStatus c path status := by
  unfold invokeEmulator at h
  split at h
  · cases h
    rw [levelControl_eq]
    exact Or.inl rfl
  · cases h
    rw [doorLock_eq]
    exact Or.inl rfl
  · exact windowCovering_cache h
  · exact Or.inl (thermostat_cache h)
  · cases h
    rw [colorControl_eq]
    exact Or.inl rfl
  · cases h
    exact Or.inl rfl

end Command

section Invoke

variable {h : ClusterCommandHandler} {env : SendEnv} {now : ℤ} {pending : PendingTable}
  {inv : Invocation}

structure SameAnswer (r r' : InvokeResult) : Prop where
  effects : r.effects = r'.effects
  pending : r.pending = r'.pending
  exception : r.exception = r'.exception

theorem emulate_same (hc : SameEndpoint inv.endpointId c c') :
    Outcome.Same (SameEmulation inv.endpointId) (h.emulate c inv) (h.emulate c' inv) := by
  have hpath : SameEndpoint (h.requestPath inv).endpointId c c' := hc
  unfold ClusterCommandHandler.emulate
  split_ifs
  · exact invokeEmulator_same hpath
  · exact Outcome.Same.ok ⟨⟨rfl, rfl, rfl⟩, hc⟩

theorem emulate_doorLock_same (hcluster : h.clusterId = 0x0101) (c c' : AttributeCache) :
    Outcome.Same SameDecision (h.emulate c inv) (h.emulate c' inv) := by
  have hpath : (h.requestPath inv).clusterId = 0x0101 := hcluster
  unfold ClusterCommandHandler.emulate
  split_ifs
  · unfold invokeEmulator
    rw [hpath, @doorLock_eq c, @doorLock_eq c']
    exact Outcome.Same.ok (SameDecision.of_cache _ c c')
  · exact Outcome.Same.ok ⟨rfl, rfl, rfl⟩

/-- The answer depends on what the emulator decides only. -/
theorem sameAnswer_invokeCommand
    (hem : Outcome.Same SameDecision (h.emulate c inv) (h.emulate c' inv)) :
    SameAnswer (h.invokeCommand env now c pending inv)
      (h.invokeCommand env now c' pending inv) := by
  unfold ClusterCommandHandler.invokeCommand
  cases env.bridgedEndpoint inv.endpointId with
  | none => exact ⟨rfl, rfl, rfl⟩
  | some address =>
    dsimp only
    generalize h.emulate c inv = em at hem ⊢
    generalize h.emulate c' inv = em' at hem ⊢
    cases hem with
    | error e => exact ⟨rfl, rfl, rfl⟩
    | @ok em em' hem =>
      have htranslate : h.translate inv em = h.translate inv em' := by
        unfold ClusterCommandHandler.translate
        rw [hem.cdata, hem.decodes]
      dsimp only
      rw [← hem.cdata, ← hem.effects, ← htranslate]
      split_ifs
      · exact ⟨rfl, rfl, rfl⟩
      · exact ⟨rfl, rfl, rfl⟩

theorem cache_invokeCommand : (h.invokeCommand env now c pending inv).cache =
    match env.bridgedEndpoint inv.endpointId, h.emulate c inv with
    | some _, .ok em => em.cache
    | _, _ => c := by
  unfold ClusterCommandHandler.invokeCommand
  cases env.bridgedEndpoint inv.endpointId with
  | none => rfl
  | some address =>
    cases h.emulate c inv with
    | error e => rfl
    | ok em =>
      dsimp only
      split_ifs <;> rfl

/-- A command depends on the cached attributes of its endpoint only. -/
theorem invokeCommand_same (hc : SameEndpoint inv.endpointId c c') :
    SameAnswer (h.invokeCommand env now c pending inv)
        (h.invokeCommand env now c' pending inv) ∧
      SameEndpoint inv.endpointId (h.invokeCommand env now c pending inv).cache
        (h.invokeCommand env now c' pending inv).cache := by
  have hem := @emulate_same c c' h inv hc
  refine ⟨sameAnswer_invokeCommand (hem.mono fun _ _ hsame => hsame.toSameDecision), ?_⟩
  rw [cache_invokeCommand, cache_invokeCommand]
  cases env.bridgedEndpoint inv.endpointId with
  | none => exact hc
  | some address =>
    generalize h.emulate c inv = em at hem ⊢
    generalize h.emulate c' inv = em' at hem ⊢
    cases hem with
    | error e => exact hc
    | ok hem => exact hem.cache

theorem invokeCommand_frame (hne : inv.endpointId ≠ other) :
    SameEndpoint other (h.invokeCommand env now c pending inv).cache c := by
  rw [cache_invokeCommand]
  split
  · next address em haddress hemulate =>
    unfold ClusterCommandHandler.emulate at hemulate
    split_ifs at hemulate
    · rcases invokeEmulator_cache hemulate with heq | ⟨status, heq⟩
      · rw [heq]
        exact AgreeOn.refl c
      · have hkey : (EmulateWindowCovering.operationalStatus
            (h.requestPath inv).endpointId).endpointId ≠ other := hne
        rw [heq]
        exact agreeOn_update_of_ne hkey _
    · cases hemulate
      exact AgreeOn.refl c
  · exact AgreeOn.refl c

theorem pending_sendUnifyMqttCmd {clusterName : String} {path : CommandPath} {exchange : Exchange}
    {handle : ℕ} {cmd : String} {payload : Json} :
    (sendUnifyMqttCmd env now pending clusterName path exchange handle cmd payload "").pending =
      pending := by
  unfold sendUnifyMqttCmd
  cases env.bridgedEndpoint path.endpointId with
  | none => rfl
  | some address =>
    simp only [ne_eq, not_true_eq_false, false_and, if_false, if_true]
    cases commandTopic env exchange address.1 address.2 with
    | none => rfl
    | some topic =>
      dsimp only
      cases commandMessage payload with
      | error e => rfl
      | ok message => rfl

theorem cmdResponse_translate_of_ne (hh : h ∈ ClusterCommandHandler.all)
    (hcluster : h.clusterId ≠ 0x0101) (em : Emulation) :
    (h.translate inv em).cmdResponse = "" := by
  cases hswitch : h.switch inv.commandId with
  | none => simp only [ClusterCommandHandler.translate, hswitch]
  | some case =>
    have hcase : case.cmdResponse = "" := by
      by_contra hne
      have hmem := List.mem_of_find?_eq_some hswitch
      exact hcluster ((ClusterCommandHandler.regular_of_mem h hh case hmem).awaited hne).1
    cases hcmd : case.cmd with
    | none => simp only [ClusterCommandHandler.translate, hswitch, hcmd, hcase]
    | some cmd => simp only [ClusterCommandHandler.translate, hswitch, hcmd, hcase]

/-- Only the commands of door locks are remembered until their response. -/
theorem pending_invokeCommand_of_ne (hh : h ∈ ClusterCommandHandler.all)
    (hcluster : h.clusterId ≠ 0x0101) : (h.invokeCommand env now c pending inv).pending = pending := by
  unfold ClusterCommandHandler.invokeCommand
  cases env.bridgedEndpoint inv.endpointId with
  | none => rfl
  | some address =>
    dsimp only
    cases h.emulate c inv with
    | error e => rfl
    | ok em =>
      dsimp only
      unfold ClusterCommandHandler.answer
      rw [cmdResponse_translate_of_ne hh hcluster em]
      split_ifs with hcompleted hcmd hresponse
      · rfl
      · rfl
      · exact absurd rfl hresponse
      · exact pending_sendUnifyMqttCmd

theorem pending_invokeCommand (hh : h ∈ ClusterCommandHandler.all) (c c' : AttributeCache) :
    (h.invokeCommand env now c pending inv).pending =
      (h.invokeCommand env now c' pending inv).pending := by
  by_cases hcluster : h.clusterId = 0x0101
  · exact (sameAnswer_invokeCommand (emulate_doorLock_same hcluster c c')).pending
  · rw [pending_invokeCommand_of_ne hh hcluster, pending_invokeCommand_of_ne hh hcluster]

end Invoke

end UnifyMatterBridge
