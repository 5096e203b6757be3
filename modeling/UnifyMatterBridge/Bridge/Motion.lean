import UnifyMatterBridge.Attribute.LastReport
import UnifyMatterBridge.Bridge.Locality
import UnifyMatterBridge.Command.PendingResponse

/-! The motion of a window covering: after the report of an end position it is not moving until the
next command that is accepted, unless the position is the greatest one. -/
namespace UnifyMatterBridge

/-- A data model with the attributes of a window covering that are reported. -/
structure WindowCoveringModel extends DataModel where
  openLimitId : getAttributeId "WindowCovering" "InstalledOpenLimitLift" = some 0x10
  openLimit : attributeInfo 0x0102 0x10 = some ⟨.int .uint16, false, true⟩
  closedLimitId : getAttributeId "WindowCovering" "InstalledClosedLimitLift" = some 0x11
  closedLimit : attributeInfo 0x0102 0x11 = some ⟨.int .uint16, false, true⟩
  modeId : getAttributeId "WindowCovering" "Mode" = some 0x17

namespace WindowCovering

open EmulateWindowCovering

def access : ClusterAttributeAccess := ⟨0x0102, "WindowCovering"⟩

structure Endpoint {Table Content : Type} (s : MonitorState Table Content) where
  unid : String
  ep : ℕ
  endpointId : ℕ
  unid_level : '/' ∉ unid.toList
  ep_le : ep ≤ 65535
  bridged : matterEndpointOf s unid ep = some endpointId

inductive Report where
  | currentPositionLift (n : UInt16)
  | currentPositionLiftPercentage (n : UInt8)
  | installedOpenLimitLift (n : UInt16)
  | installedClosedLimitLift (n : UInt16)
  | mode (value : Json)

namespace Report

def attributeName : Report → String
  | .currentPositionLift _ => "CurrentPositionLift"
  | .currentPositionLiftPercentage _ => "CurrentPositionLiftPercentage"
  | .installedOpenLimitLift _ => "InstalledOpenLimitLift"
  | .installedClosedLimitLift _ => "InstalledClosedLimitLift"
  | .mode _ => "Mode"

def attributeId : Report → ℕ
  | .currentPositionLift _ => 0x03
  | .currentPositionLiftPercentage _ => 0x08
  | .installedOpenLimitLift _ => 0x10
  | .installedClosedLimitLift _ => 0x11
  | .mode _ => 0x17

def value : Report → Json
  | .currentPositionLift n | .installedOpenLimitLift n | .installedClosedLimitLift n =>
    .integer n.toNat
  | .currentPositionLiftPercentage n => .integer n.toNat
  | .mode value => value

/-- The last reported open limit, which was another before the report. -/
def openLimit (before : Option UInt16) : Report → Option UInt16
  | .installedOpenLimitLift n => some n
  | _ => before

def closedLimit (before : Option UInt16) : Report → Option UInt16
  | .installedClosedLimitLift n => some n
  | _ => before

theorem attributeName_level (r : Report) : '/' ∉ r.attributeName.toList := by
  have hnames : ∀ name ∈ ["CurrentPositionLift", "CurrentPositionLiftPercentage",
      "InstalledOpenLimitLift", "InstalledClosedLimitLift", "Mode"], '/' ∉ name.toList := by
    decide
  apply hnames
  cases r <;> simp [attributeName]

end Report

inductive Motion where
  | upOrOpen
  | downOrClose
  | stopMotion
  deriving DecidableEq, Repr

def Motion.commandId : Motion → ℕ
  | .upOrOpen => 0
  | .downOrClose => 1
  | .stopMotion => 2

structure MotionCommand where
  motion : Motion
  exchange : Exchange
  handle : ℕ
  decode : ℕ → Option Args
  getUnifyGroup : MatterGroup → Option ℕ
  now : ℤ
  pending : PendingTable

inductive Event where
  | report (r : Report)
  | command (c : MotionCommand)

section Step

variable {Table Content : Type} {s : MonitorState Table Content} {m : DataModel} (w : Endpoint s)

def Endpoint.message (r : Report) : ReportMessage where
  unid := w.unid
  ep := w.ep
  access := access
  attributeName := r.attributeName
  message := .text (.ok (.object [("value", r.value)]))
  unid_level := w.unid_level
  ep_le := w.ep_le
  access_mem := by decide
  attributeName_level := r.attributeName_level

def Endpoint.invocation (c : MotionCommand) : Invocation :=
  ⟨w.endpointId, c.motion.commandId, c.exchange, c.handle, c.decode⟩

def Endpoint.invokeCommand (c : MotionCommand) (cache : AttributeCache) : InvokeResult :=
  ClusterCommandHandler.windowCovering.invokeCommand (PendingResponse.sendEnv s c.getUnifyGroup)
    c.now cache c.pending (w.invocation c)

theorem Endpoint.emulate_eq (c : MotionCommand) (cache : AttributeCache) :
    ClusterCommandHandler.windowCovering.emulate cache (w.invocation c) =
      EmulateWindowCovering.command cache ⟨w.endpointId, 0x0102, c.motion.commandId⟩ := by
  have hemulated : isCommandEmulated (ClusterCommandHandler.windowCovering.requestPath
      (w.invocation c)) = true := by
    obtain ⟨motion, exchange, handle, decode, getUnifyGroup, now, pending⟩ := c
    cases motion <;> rfl
  unfold ClusterCommandHandler.emulate
  rw [if_pos hemulated]
  rfl

theorem move_cache {cache : TypedCache} {endpointId : ℕ} (motion : Motion)
    (percentage position : Option ℤ) :
    ∃ em, move cache.values ⟨endpointId, 0x0102, motion.commandId⟩ percentage position = .ok em ∧
      ∃ status ∈ [(0x00 : ℤ), 0x05, 0x0A],
        em.cache = cache.values.set (operationalStatus endpointId) (.int .uint8 status) := by
  have hopen : cache.values.getInt .uint16 (installedOpenLimitLift endpointId) =
      .ok (cache.int (installedOpenLimitLift endpointId)) := cache.getInt_eq rfl
  have hclosed : cache.values.getInt .uint16 (installedClosedLimitLift endpointId) =
      .ok (cache.int (installedClosedLimitLift endpointId)) := cache.getInt_eq rfl
  cases motion with
  | upOrOpen =>
    simp only [move, Motion.commandId, hopen]
    refine ⟨_, rfl, _, ?_, rfl⟩
    split_ifs <;> decide
  | downOrClose =>
    simp only [move, Motion.commandId, hclosed]
    refine ⟨_, rfl, _, ?_, rfl⟩
    split_ifs <;> decide
  | stopMotion => exact ⟨_, rfl, 0x00, by decide, rfl⟩

theorem Endpoint.invokeCommand_cache (cache : StateCache m) (c : MotionCommand) :
    MotionBlocked cache.typed w.endpointId ∧ (w.invokeCommand c cache.values).cache = cache.values ∨
      ¬ MotionBlocked cache.typed w.endpointId ∧ ∃ status ∈ [(0x00 : ℤ), 0x05, 0x0A],
        (w.invokeCommand c cache.values).cache =
          cache.values.set (operationalStatus w.endpointId) (.int .uint8 status) := by
  have hbridged : ∃ address, (PendingResponse.sendEnv s c.getUnifyGroup).bridgedEndpoint
      w.endpointId = some address := by
    have hsome := @ReportMessage.isBridged _ _ s (w.message (.mode .null)) w.endpointId w.bridged
    obtain ⟨e, he⟩ := Option.isSome_iff_exists.mp (Option.isNone_eq_false_iff.mp hsome)
    exact ⟨e.address, congrArg (Option.map _) he⟩
  obtain ⟨address, haddress⟩ := hbridged
  have hid : (w.invocation c).endpointId = w.endpointId := rfl
  have hcommand := @command_eq ⟨w.endpointId, 0x0102, c.motion.commandId⟩ cache.typed
  have hblocked := @modeAnswer_isSome_iff ⟨w.endpointId, 0x0102, c.motion.commandId⟩ cache.typed
  have hvalues : cache.typed.values = cache.values := rfl
  rw [hvalues] at hcommand
  rw [← hblocked, Endpoint.invokeCommand, cache_invokeCommand, hid, haddress, w.emulate_eq, hcommand]
  cases modeAnswer ⟨w.endpointId, 0x0102, c.motion.commandId⟩
      (cache.typed.int (mode w.endpointId)) with
  | some effects => exact Or.inl ⟨rfl, rfl⟩
  | none =>
    obtain ⟨em, hem, status, hstatus, hcache⟩ := @move_cache cache.typed w.endpointId c.motion
      (cache.typed.int (currentPositionLiftPercentage w.endpointId))
      (cache.typed.int (currentPositionLift w.endpointId))
    rw [hvalues] at hem hcache
    refine Or.inr ⟨Bool.false_ne_true, status, hstatus, ?_⟩
    dsimp only
    rw [hem]
    exact hcache

def Endpoint.afterCommand (cache : StateCache m) (c : MotionCommand) : StateCache m where
  values := (w.invokeCommand c cache.values).cache
  holds path info v hinfo hv := by
    rcases w.invokeCommand_cache cache c with ⟨-, hcache⟩ | ⟨-, status, hstatus, hcache⟩
    · rw [hcache] at hv
      exact cache.holds path info v hinfo hv
    · rw [hcache, AttributeCache.set_apply] at hv
      split_ifs at hv with hpath
      · cases hv
        obtain ⟨b, hb⟩ := m.operationalStatus
        obtain ⟨info', hinfo', htyped⟩ := m.emulated (show emulatorType 0x0102 0x0A = _ from rfl)
        rw [hpath] at hinfo
        have heq : info' = info := Option.some.inj (hinfo'.symm.trans hinfo)
        have hstatuses : ∀ status ∈ [(0x00 : ℤ), 0x05, 0x0A], IntType.uint8.InRange status := by
          decide
        constructor
        · exact (heq ▸ htyped).symm
        · exact hstatuses status hstatus
        · intro hnullable
          rw [← Option.some.inj (hb.symm.trans hinfo)] at hnullable
          cases hnullable
      · exact cache.holds path info v hinfo hv

/-- The cache, beside a record of the reports: the last installed limits, and whether the last
position is an end that was reported after the last command that was accepted. -/
structure State (m : DataModel) where
  cache : StateCache m
  openLimit : Option UInt16
  closedLimit : Option UInt16
  atEnd : Bool

def start (m : DataModel) : State m := ⟨StateCache.empty m, none, none, false⟩

def State.AtLimit (st : State m) (n : UInt16) : Prop :=
  st.openLimit.isSome ∧ st.closedLimit.isSome ∧ (st.openLimit = some n ∨ st.closedLimit = some n)

instance (st : State m) (n : UInt16) : Decidable (st.AtLimit n) :=
  inferInstanceAs (Decidable (_ ∧ _ ∧ _))

def step (st : State m) : Event → State m
  | .report r =>
    { cache := st.cache.afterReport s (w.message r)
      openLimit := r.openLimit st.openLimit
      closedLimit := r.closedLimit st.closedLimit
      atEnd := match r with
        | .currentPositionLift n => st.AtLimit n
        | .currentPositionLiftPercentage n => n = 0 ∨ n = 100
        | _ => st.atEnd }
  | .command c =>
    { st with
      cache := w.afterCommand st.cache c
      atEnd := if MotionBlocked st.cache.typed w.endpointId then st.atEnd else false }

def readStatus (emberAfFindServerCluster : ℕ → ℕ → Bool) (st : State m) :
    Except CxxException ReadResult :=
  access.read s m emberAfFindServerCluster st.cache.values (operationalStatus w.endpointId)

/-- A covering that was reported at an end is read as not moving. -/
def RestsAtEnd (emberAfFindServerCluster : ℕ → ℕ → Bool) (st : State m) : Prop :=
  st.atEnd = true → readStatus w emberAfFindServerCluster st = .ok (.number .uint8 0)

/-- The event does not report the greatest position, as an installed limit, of a covering that is
not read as not moving already. -/
def Unsaturated (emberAfFindServerCluster : ℕ → ℕ → Bool) (st : State m) : Event → Prop
  | .report (.currentPositionLift n) => n = 65535 → st.AtLimit n →
    readStatus w emberAfFindServerCluster st = .ok (.number .uint8 0)
  | _ => True

end Step

section Reports

variable {Table Content : Type} {s : MonitorState Table Content} {m : WindowCoveringModel}
  {w : Endpoint s} {c : StateCache m.toDataModel} {r : Report}

theorem uint16_inRange (n : UInt16) : IntType.uint16.InRange n.toNat := by
  have hlt := n.toNat_lt
  have hmax : IntType.uint16.min = 0 ∧ IntType.uint16.max = 65535 := by decide
  unfold IntType.InRange
  omega

theorem uint8_inRange (n : UInt8) : IntType.uint8.InRange n.toNat := by
  have hlt := n.toNat_lt
  have hmax : IntType.uint8.min = 0 ∧ IntType.uint8.max = 255 := by decide
  unfold IntType.InRange
  omega

theorem getAttributeId_report (m : WindowCoveringModel) (r : Report) :
    m.getAttributeId "WindowCovering" r.attributeName = some r.attributeId := by
  cases r with
  | currentPositionLift => exact m.liftId
  | currentPositionLiftPercentage => exact m.liftPercentageId
  | installedOpenLimitLift => exact m.openLimitId
  | installedClosedLimitLift => exact m.closedLimitId
  | mode => exact m.modeId

theorem parsed_message : (w.message r).parsed = some (.ok (.object [("value", r.value)])) := by
  have hname : r.attributeName ≠ "" := by
    cases r <;> simp [Report.attributeName]
  exact if_neg hname

theorem values_afterReport : (c.afterReport s (w.message r)).values =
    (AttributeTranslatorInterface.handleReport (access.reportedUpdated m.toDataModel) c.values
      w.endpointId "WindowCovering" r.attributeName
      (.ok (.object [("value", r.value)]))).cache := by
  have hendpoint : (w.message r).endpoint s = some w.endpointId := w.bridged
  rw [StateCache.afterReport_values, ReportMessage.handle_eq, hendpoint, parsed_message]
  rfl

theorem reportsValue {t : IntType} {n : ℤ} {nullable : Bool} (hvalue : r.value = .integer n)
    (hn : t.InRange n) (hinfo : m.attributeInfo 0x0102 r.attributeId = some ⟨.int t, nullable, true⟩) :
    ReportsValue m.toDataModel (w.message r) r.attributeId ⟨.int t, nullable, true⟩ (.int t n) := by
  constructor
  · refine ⟨_, r.value, parsed_message, rfl, ?_⟩
    rw [hvalue]
    exact .int hn
  · have hid : getClusterId (w.message r).access.clusterName = some (w.message r).access.clusterId :=
      (ClusterAttributeAccess.names_of_mem_all (w.message r).access_mem).1
    have hattribute : m.getAttributeId (w.message r).access.clusterName (w.message r).attributeName =
        some r.attributeId := getAttributeId_report m r
    have hinfo' : m.attributeInfo (w.message r).access.clusterId r.attributeId =
        some ⟨.int t, nullable, true⟩ := hinfo
    simp [ClusterAttributeAccess.reportedCase, hid, hattribute, hinfo']

theorem afterReport_of_ne {path : AttrPath} (hne : path.attributeId ≠ r.attributeId)
    (hemulated : ClusterEmulator.isAttributeEmulated path = false) :
    (c.afterReport s (w.message r)).values path = c.values path := by
  apply afterReport_apply_of_not c _ (ReportMessage.not_derives hemulated)
  intro hfor
  obtain ⟨endpointId, attributeId, -, hid, hpath⟩ := hfor
  have hid' : some r.attributeId = some attributeId := (getAttributeId_report m r).symm.trans hid
  have hattribute : path.attributeId = attributeId := congrArg AttrPath.attributeId hpath
  exact hne (hattribute.trans (Option.some.inj hid').symm)

def storedLimit (n : UInt16) : ℤ := if n = 65535 then 65534 else n.toNat

theorem afterReport_limit {n : UInt16} {path : AttrPath} (r : Report)
    (hpath : path = (w.message r).path w.endpointId r.attributeId)
    (hvalue : r.value = .integer n.toNat)
    (hinfo : m.attributeInfo 0x0102 r.attributeId = some ⟨.int .uint16, false, true⟩)
    (hlimit : attributeMaxLimitMismatch 0x0102 r.attributeId = true) :
    (c.afterReport s (w.message r)).values path = some (.int .uint16 (storedLimit n)) := by
  have hnull : NotNull (w.message r) r.attributeId ⟨.int .uint16, false, true⟩
      (.int .uint16 n.toNat) := fun h => Bool.false_ne_true h.1
  have hmax : (n.toNat : ℤ) = IntType.uint16.max ↔ n = 65535 := by
    rw [← UInt16.toNat_inj]
    have hmax : IntType.uint16.max = 65535 ∧ (65535 : UInt16).toNat = 65535 := by decide
    omega
  have hlimited : limitMax 0x0102 r.attributeId (.int .uint16 n.toNat) =
      .int .uint16 (storedLimit n) := by
    simp only [limitMax, hlimit, true_and, hmax, storedLimit]
    rfl
  have hcluster : (w.message r).access.clusterId = 0x0102 := rfl
  rw [hpath, (reportsValue hvalue (uint16_inRange n) hinfo).afterReport_apply c w.bridged hnull,
    hcluster, hlimited]

theorem afterReport_status {t : IntType} {n : ℤ} {nullable : Bool} (r : Report)
    (hvalue : r.value = .integer n) (hn : t.InRange n)
    (hinfo : m.attributeInfo 0x0102 r.attributeId = some ⟨.int t, nullable, true⟩)
    {cache : AttributeCache} (happly : applyRegisteredCallback
      ("WindowCovering" ++ "::" ++ r.attributeName) (.integer n) w.endpointId c.values = .ok cache) :
    (c.afterReport s (w.message r)).values (operationalStatus w.endpointId) =
      cache (operationalStatus w.endpointId) := by
  have hreport := (@reportsValue _ _ s m w r t n nullable hvalue hn hinfo).report
  have hendpoint : (w.message r).endpoint s = some w.endpointId := w.bridged
  obtain ⟨jsn, value, c', hparsed, hsubscript, -, happly', hhandle⟩ :=
    ReportMessage.handle_of_report c hendpoint hreport
  have hjsn : jsn = .object [("value", r.value)] :=
    Except.ok.inj (Option.some.inj (hparsed.symm.trans parsed_message))
  rw [hjsn] at hsubscript
  have hvalue' : value = .integer n := (Except.ok.inj hsubscript).symm.trans hvalue
  rw [hvalue'] at happly'
  have hcache : c'.values = cache := Except.ok.inj (happly'.symm.trans happly)
  have hne := ReportMessage.path_ne_operationalStatus hreport w.endpointId
  rw [StateCache.afterReport_values, hhandle, ← hcache]
  unfold AttributeInfo.set
  split_ifs
  · rfl
  · exact (AttributeCache.set_apply _ _ _ _).trans (if_neg hne.symm)

end Reports

section Run

variable {Table Content : Type} {s : MonitorState Table Content} {m : WindowCoveringModel}
  {w : Endpoint s} {find : ℕ → ℕ → Bool} {st : State m.toDataModel}

theorem int_congr {c c' : StateCache m.toDataModel} {path : AttrPath}
    (h : c.values path = c'.values path) : c.typed.int path = c'.typed.int path := by
  unfold TypedCache.int
  have hvalues : c.typed.values path = c'.typed.values path := h
  rw [hvalues]

theorem int_of_values {c : StateCache m.toDataModel} {path : AttrPath} {t : IntType} {n : ℤ}
    (h : c.values path = some (.int t n)) : c.typed.int path = some n := by
  unfold TypedCache.int
  have hvalues : c.typed.values path = c.values path := rfl
  rw [hvalues, h]

theorem readStatus_eq : readStatus w find st =
    .ok (.number .uint8 ((st.cache.typed.int (operationalStatus w.endpointId)).getD 0)) := by
  have hbridged := @ReportMessage.isBridged _ _ s (w.message (.mode .null)) w.endpointId w.bridged
  have hget := @TypedCache.getInt_eq st.cache.typed (operationalStatus w.endpointId) .uint8 rfl
  have hvalues : st.cache.typed.values = st.cache.values := rfl
  rw [hvalues] at hget
  have hread : readStatus w find st = ClusterEmulator.readOr st.cache.values
      (operationalStatus w.endpointId) .uint8 (.number .uint8 0) (.number .uint8) := by
    have hcluster : (operationalStatus w.endpointId).clusterId = access.clusterId := rfl
    have hid : (operationalStatus w.endpointId).endpointId = w.endpointId := rfl
    unfold readStatus ClusterAttributeAccess.read
    rw [if_neg (not_not_intro hcluster), hid, if_neg (Bool.eq_false_iff.mp hbridged)]
    rfl
  rw [hread, ClusterEmulator.readOr, hget]
  cases st.cache.typed.int (operationalStatus w.endpointId) with
  | none => rfl
  | some status => rfl

theorem readStatus_congr {st' : State m.toDataModel}
    (h : st'.cache.values (operationalStatus w.endpointId) =
      st.cache.values (operationalStatus w.endpointId)) :
    readStatus w find st' = readStatus w find st := by
  rw [readStatus_eq, readStatus_eq, int_congr h]

theorem readStatus_of_stopped
    (h : st.cache.values (operationalStatus w.endpointId) = some (.int .uint8 0x00)) :
    readStatus w find st = .ok (.number .uint8 0) := by
  rw [readStatus_eq, int_of_values h]
  rfl

/-- The limits that are cached are the ones last reported, up to the greatest. -/
structure Recorded (w : Endpoint s) (st : State m.toDataModel) : Prop where
  openLimit : st.cache.typed.int (installedOpenLimitLift w.endpointId) = st.openLimit.map storedLimit
  closedLimit : st.cache.typed.int (installedClosedLimitLift w.endpointId) =
    st.closedLimit.map storedLimit

theorem int_afterReport {c : StateCache m.toDataModel} {attributeId : ℕ} (r : Report)
    (hne : attributeId ≠ r.attributeId)
    (hemulated : ClusterEmulator.isAttributeEmulated ⟨w.endpointId, 0x0102, attributeId⟩ = false) :
    (c.afterReport s (w.message r)).typed.int ⟨w.endpointId, 0x0102, attributeId⟩ =
      c.typed.int ⟨w.endpointId, 0x0102, attributeId⟩ :=
  int_congr (afterReport_of_ne hne hemulated)

theorem openLimit_afterReport {c : StateCache m.toDataModel} {limit : Option UInt16} (r : Report)
    (h : c.typed.int (installedOpenLimitLift w.endpointId) = limit.map storedLimit) :
    (c.afterReport s (w.message r)).typed.int (installedOpenLimitLift w.endpointId) =
      (r.openLimit limit).map storedLimit := by
  cases r with
  | installedOpenLimitLift n =>
    exact int_of_values (afterReport_limit (.installedOpenLimitLift n) rfl rfl m.openLimit rfl)
  | currentPositionLift n => exact (int_afterReport _ (by decide : (0x10 : ℕ) ≠ 0x03) rfl).trans h
  | currentPositionLiftPercentage n =>
    exact (int_afterReport _ (by decide : (0x10 : ℕ) ≠ 0x08) rfl).trans h
  | installedClosedLimitLift n =>
    exact (int_afterReport _ (by decide : (0x10 : ℕ) ≠ 0x11) rfl).trans h
  | mode value => exact (int_afterReport _ (by decide : (0x10 : ℕ) ≠ 0x17) rfl).trans h

theorem closedLimit_afterReport {c : StateCache m.toDataModel} {limit : Option UInt16} (r : Report)
    (h : c.typed.int (installedClosedLimitLift w.endpointId) = limit.map storedLimit) :
    (c.afterReport s (w.message r)).typed.int (installedClosedLimitLift w.endpointId) =
      (r.closedLimit limit).map storedLimit := by
  cases r with
  | installedClosedLimitLift n =>
    exact int_of_values (afterReport_limit (.installedClosedLimitLift n) rfl rfl m.closedLimit rfl)
  | currentPositionLift n => exact (int_afterReport _ (by decide : (0x11 : ℕ) ≠ 0x03) rfl).trans h
  | currentPositionLiftPercentage n =>
    exact (int_afterReport _ (by decide : (0x11 : ℕ) ≠ 0x08) rfl).trans h
  | installedOpenLimitLift n =>
    exact (int_afterReport _ (by decide : (0x11 : ℕ) ≠ 0x10) rfl).trans h
  | mode value => exact (int_afterReport _ (by decide : (0x11 : ℕ) ≠ 0x17) rfl).trans h

theorem int_afterCommand {c : StateCache m.toDataModel} {attributeId : ℕ} (hne : attributeId ≠ 0x0A)
    (command : MotionCommand) :
    (w.afterCommand c command).typed.int ⟨w.endpointId, 0x0102, attributeId⟩ =
      c.typed.int ⟨w.endpointId, 0x0102, attributeId⟩ := by
  apply int_congr
  rcases w.invokeCommand_cache c command with ⟨-, hcache⟩ | ⟨-, status, -, hcache⟩
  · exact congrFun hcache _
  · refine (congrFun hcache _).trans ((AttributeCache.set_apply _ _ _ _).trans (if_neg ?_))
    exact fun heq => hne (congrArg AttrPath.attributeId heq)

theorem recorded_step (h : Recorded w st) (e : Event) : Recorded w (step w st e) := by
  cases e with
  | report r =>
    constructor
    · exact openLimit_afterReport r h.openLimit
    · exact closedLimit_afterReport r h.closedLimit
  | command c =>
    constructor
    · exact (int_afterCommand (by decide) c).trans h.openLimit
    · exact (int_afterCommand (by decide) c).trans h.closedLimit

theorem status_afterReport {c : StateCache m.toDataModel} {r : Report}
    (hcallback : ¬ CallbackRegistered "WindowCovering" r.attributeName)
    (hne : r.attributeId ≠ 0x0A) :
    (c.afterReport s (w.message r)).values (operationalStatus w.endpointId) =
      c.values (operationalStatus w.endpointId) := by
  apply afterReport_apply_of_not c
  · intro hfor
    obtain ⟨endpointId, attributeId, -, hid, hpath⟩ := hfor
    have hid' : some r.attributeId = some attributeId :=
      (getAttributeId_report m r).symm.trans hid
    have hattribute : 0x0A = attributeId := congrArg AttrPath.attributeId hpath
    exact hne (Option.some.inj hid' ▸ hattribute.symm)
  · intro hderives
    obtain ⟨-, -, hfeature | ⟨hregistered, -⟩⟩ := hderives
    · have hid : (0x0A : ℕ) ≠ ClusterEmulator.featureMapId := by decide
      exact hid hfeature
    · exact hcallback hregistered

theorem storedLimit_ne (k : UInt16) : storedLimit k ≠ 65535 := by
  unfold storedLimit
  split_ifs with hk
  · decide
  · intro heq
    apply hk
    have hnat : k.toNat = (65535 : UInt16).toNat := by
      have hmax : (65535 : UInt16).toNat = 65535 := by decide
      omega
    exact UInt16.toNat_inj.mp hnat

theorem status_afterLift {c : StateCache m.toDataModel} (n : UInt16) :
    (c.afterReport s (w.message (.currentPositionLift n))).values (operationalStatus w.endpointId) =
      if (c.typed.int (installedClosedLimitLift w.endpointId)).isSome ∧
          (c.typed.int (installedOpenLimitLift w.endpointId)).isSome ∧
          (c.typed.int (installedOpenLimitLift w.endpointId) = some (n.toNat : ℤ) ∨
            c.typed.int (installedClosedLimitLift w.endpointId) = some (n.toNat : ℤ))
      then some (.int .uint8 0x00) else c.values (operationalStatus w.endpointId) := by
  have hint : (Json.integer n.toNat).getInt .uint16 = .ok (n.toNat : ℤ) :=
    congrArg Except.ok (IntType.cast_of_inRange (uint16_inRange n))
  have happly : applyRegisteredCallback ("WindowCovering" ++ "::" ++ "CurrentPositionLift")
      (.integer n.toNat) w.endpointId c.values = onLift (.integer n.toNat) w.endpointId c.values := by
    unfold applyRegisteredCallback
    rw [if_neg (by decide), if_pos (by decide)]
  rw [onLift_eq, hint, Except.map] at happly
  rw [afterReport_status (.currentPositionLift n) rfl (uint16_inRange n) m.lift happly]
  split_ifs
  · exact (AttributeCache.set_apply _ _ _ _).trans (if_pos rfl)
  · rfl

theorem status_afterLiftPercentage {c : StateCache m.toDataModel} {n : UInt8} (hn : n = 0 ∨ n = 100) :
    (c.afterReport s (w.message (.currentPositionLiftPercentage n))).values
      (operationalStatus w.endpointId) = some (.int .uint8 0x00) := by
  have hend : (n.toNat : ℤ) = 0x00 ∨ (n.toNat : ℤ) = 0x64 := by
    rcases hn with rfl | rfl
    · exact Or.inl rfl
    · exact Or.inr rfl
  have hrange : IntType.int.InRange n.toNat := by
    rcases hend with hend | hend <;> rw [hend] <;> decide
  have hint : (Json.integer n.toNat).getInt .int = .ok (n.toNat : ℤ) :=
    congrArg Except.ok (IntType.cast_of_inRange hrange)
  have happly : applyRegisteredCallback ("WindowCovering" ++ "::" ++ "CurrentPositionLiftPercentage")
      (.integer n.toNat) w.endpointId c.values =
        .ok (c.values.set (operationalStatus w.endpointId) (.int .uint8 0x00)) := by
    unfold applyRegisteredCallback
    rw [if_pos (by decide)]
    simp only [onLiftPercentage, hint]
    exact congrArg Except.ok (if_pos hend)
  rw [afterReport_status (.currentPositionLiftPercentage n) rfl (uint8_inRange n) m.liftPercentage
    happly]
  exact (AttributeCache.set_apply _ _ _ _).trans (if_pos rfl)

theorem map_storedLimit_eq_some {limit : Option UInt16} {n : UInt16} (hn : n ≠ 65535)
    (h : limit = some n) : limit.map storedLimit = some (n.toNat : ℤ) := by
  rw [h, Option.map_some, storedLimit, if_neg hn]

theorem map_storedLimit_ne (limit : Option UInt16) :
    limit.map storedLimit ≠ some ((65535 : UInt16).toNat : ℤ) := by
  intro h
  obtain ⟨k, -, hk⟩ := Option.map_eq_some_iff.mp h
  exact storedLimit_ne k hk

/-- A report without a callback leaves a covering at rest. -/
theorem restsAtEnd_of_no_callback (hrests : RestsAtEnd w find st) {r : Report}
    (hcallback : ¬ CallbackRegistered "WindowCovering" r.attributeName) (hne : r.attributeId ≠ 0x0A)
    (hatEnd : (step w st (.report r)).atEnd = st.atEnd) :
    RestsAtEnd w find (step w st (.report r)) := by
  intro hend
  have hcache : (step w st (.report r)).cache = st.cache.afterReport s (w.message r) := rfl
  have hstatus := @status_afterReport _ _ s m w st.cache r hcallback hne
  rw [← hcache] at hstatus
  rw [readStatus_congr hstatus]
  exact hrests (hatEnd ▸ hend)

/-- The report of a position leaves a covering at rest at its end, unless it is the greatest. -/
theorem restsAtEnd_afterLift_iff (h : Recorded w st) (n : UInt16) :
    RestsAtEnd w find (step w st (.report (.currentPositionLift n))) ↔
      (n = 65535 → st.AtLimit n → readStatus w find st = .ok (.number .uint8 0)) := by
  have hatEnd : (step w st (.report (.currentPositionLift n))).atEnd = true ↔ st.AtLimit n := by
    simp only [step, decide_eq_true_eq]
  have hstatus := @status_afterLift _ _ s m w st.cache n
  rw [h.openLimit, h.closedLimit] at hstatus
  unfold RestsAtEnd
  rw [hatEnd]
  by_cases hn : n = 65535
  · have hkept : ((step w st (.report (.currentPositionLift n))).cache.values
        (operationalStatus w.endpointId)) = st.cache.values (operationalStatus w.endpointId) := by
      refine hstatus.trans (if_neg ?_)
      rintro ⟨-, -, hlimit | hlimit⟩
      · exact map_storedLimit_ne _ (hn ▸ hlimit)
      · exact map_storedLimit_ne _ (hn ▸ hlimit)
    rw [readStatus_congr hkept]
    exact ⟨fun hrests _ hlimit => hrests hlimit, fun hrests hlimit => hrests hn hlimit⟩
  · refine iff_of_true ?_ fun heq => absurd heq hn
    intro hlimit
    obtain ⟨hopen, hclosed, hlimit⟩ := hlimit
    apply readStatus_of_stopped
    refine hstatus.trans (if_pos ⟨?_, ?_, ?_⟩)
    · rw [Option.isSome_map]
      exact hclosed
    · rw [Option.isSome_map]
      exact hopen
    · rcases hlimit with hlimit | hlimit
      · exact Or.inl (map_storedLimit_eq_some hn hlimit)
      · exact Or.inr (map_storedLimit_eq_some hn hlimit)

theorem status_afterCommand (c : MotionCommand) (hblocked : MotionBlocked st.cache.typed w.endpointId) :
    (step w st (.command c)).cache = st.cache := by
  rcases w.invokeCommand_cache st.cache c with ⟨-, hcache⟩ | ⟨hallowed, -⟩
  · simp only [step, Endpoint.afterCommand, hcache]
  · exact absurd hblocked hallowed

theorem restsAtEnd_step_iff (h : Recorded w st) (hrests : RestsAtEnd w find st) (e : Event) :
    RestsAtEnd w find (step w st e) ↔ Unsaturated w find st e := by
  cases e with
  | report r =>
    cases r with
    | currentPositionLift n => exact restsAtEnd_afterLift_iff h n
    | currentPositionLiftPercentage n =>
      refine iff_of_true ?_ trivial
      intro hatEnd
      have hn : n = 0 ∨ n = 100 := of_decide_eq_true hatEnd
      exact readStatus_of_stopped (status_afterLiftPercentage hn)
    | installedOpenLimitLift n =>
      refine iff_of_true (restsAtEnd_of_no_callback hrests ?_ ?_ ?_) trivial
      · simp [CallbackRegistered, Report.attributeName]
      · exact (by decide : (0x10 : ℕ) ≠ 0x0A)
      · simp only [step]
    | installedClosedLimitLift n =>
      refine iff_of_true (restsAtEnd_of_no_callback hrests ?_ ?_ ?_) trivial
      · simp [CallbackRegistered, Report.attributeName]
      · exact (by decide : (0x11 : ℕ) ≠ 0x0A)
      · simp only [step]
    | mode value =>
      refine iff_of_true (restsAtEnd_of_no_callback hrests ?_ ?_ ?_) trivial
      · simp [CallbackRegistered, Report.attributeName]
      · exact (by decide : (0x17 : ℕ) ≠ 0x0A)
      · simp only [step]
  | command c =>
    refine iff_of_true ?_ trivial
    intro hatEnd
    simp only [step] at hatEnd
    split_ifs at hatEnd with hblocked
    have hcache : (step w st (.command c)).cache.values (operationalStatus w.endpointId) =
        st.cache.values (operationalStatus w.endpointId) := by
      rw [status_afterCommand c hblocked]
    rw [readStatus_congr hcache]
    exact hrests hatEnd

/-- In every run, a covering that was last reported at an end, after the last command that was
accepted, is read as not moving, if and only if the greatest position is an installed limit only of
coverings that are read so already; and a command that the mode does not allow leaves the status
alone. -/
theorem restsAtEnd_run_iff (m : WindowCoveringModel) (s : MonitorState Table Content)
    (w : Endpoint s) (emberAfFindServerCluster : ℕ → ℕ → Bool) :
    (∀ evs : List Event,
      EventSystem.Guarded (step w)
          (fun st e => RestsAtEnd w emberAfFindServerCluster (step w st e)) (start m.toDataModel) evs ↔
        EventSystem.Guarded (step w) (Unsaturated w emberAfFindServerCluster)
          (start m.toDataModel) evs) ∧
    ∀ (st : State m.toDataModel) (c : MotionCommand), MotionBlocked st.cache.typed w.endpointId →
      (step w st (.command c)).cache.values (operationalStatus w.endpointId) =
        st.cache.values (operationalStatus w.endpointId) := by
  constructor
  · intro evs
    have hrecorded : Recorded w (start m.toDataModel) := ⟨rfl, rfl⟩
    have hrests : RestsAtEnd w emberAfFindServerCluster (start m.toDataModel) :=
      fun hatEnd => absurd hatEnd Bool.false_ne_true
    have hstep : ∀ (st : State m.toDataModel) (e : Event), Recorded w st →
        RestsAtEnd w emberAfFindServerCluster st →
        (RestsAtEnd w emberAfFindServerCluster (step w st e) ↔
          Unsaturated w emberAfFindServerCluster st e) :=
      fun st e h hrests => restsAtEnd_step_iff h hrests e
    exact EventSystem.guarded_iff_of_step (fun st e h => recorded_step h e) hstep hrecorded hrests
  · intro st c hblocked
    rw [status_afterCommand c hblocked]

end Run

def homeCovering : WindowCoveringModel where
  toDataModel := homeModel
  openLimitId := by decide
  openLimit := rfl
  closedLimitId := by decide
  closedLimit := rfl
  modeId := by decide

def coveringEndpoint : Endpoint NodeStateMonitor.oneNode where
  unid := "A"
  ep := 1
  endpointId := 2
  unid_level := coolingMessage.unid_level
  ep_le := coolingMessage.ep_le
  bridged := by decide

def opened : List Event :=
  [.report (.mode (.object [])), .report (.currentPositionLiftPercentage 50),
    .command ⟨.upOrOpen, .unicast 1, 0, fun _ => none, fun _ => none, 0, fun _ => none⟩,
    .report (.installedOpenLimitLift 65535), .report (.installedClosedLimitLift 0)]

/-- When it has arrived at its open limit it is read as opening still. -/
theorem not_restsAtEnd_greatest :
    ¬ ∀ evs : List Event,
      EventSystem.Guarded (step coveringEndpoint)
        (fun st e => RestsAtEnd coveringEndpoint (fun _ _ => true) (step coveringEndpoint st e))
        (start homeCovering.toDataModel) evs := by
  intro h
  have hrests := (EventSystem.guarded_append.mp
    (h (opened ++ [.report (.currentPositionLift 65535)]))).2.1
  have hkeep : ∀ (st : State homeCovering.toDataModel) (e : Event), Recorded coveringEndpoint st →
      Recorded coveringEndpoint (step coveringEndpoint st e) := fun st e h => recorded_step h e
  have hstart : Recorded coveringEndpoint (start homeCovering.toDataModel) := ⟨rfl, rfl⟩
  have hrecorded := EventSystem.invariant_run' hkeep hstart opened
  have hlimit : (EventSystem.run (step coveringEndpoint) (start homeCovering.toDataModel)
      opened).AtLimit 65535 := by
    decide
  have hopening : readStatus coveringEndpoint (fun _ _ => true)
      (EventSystem.run (step coveringEndpoint) (start homeCovering.toDataModel) opened) =
        .ok (.number .uint8 5) := by
    simp only [readStatus, opened, EventSystem.run_cons, EventSystem.run_nil, step,
      values_afterReport, Endpoint.afterCommand]
    decide
  have hstill := (restsAtEnd_afterLift_iff hrecorded 65535).mp hrests rfl hlimit
  cases hopening.symm.trans hstill

end WindowCovering

end UnifyMatterBridge
