import UnifyMatterBridge.Command.PendingResponse

/-! Responses of any content: which of them the callback survives without losing the command that
is pending. -/
namespace UnifyMatterBridge

/-- A message on a topic of the subscription to `DoorLock/GeneratedCommands/+`; the other command
translators subscribe to none. -/
structure ResponseMessage where
  unid : String
  ep : ℕ
  cmdResponse : String
  message : Message
  unid_level : '/' ∉ unid.toList
  ep_le : ep ≤ 65535
  cmdResponse_level : '/' ∉ cmdResponse.toList

/-- A decimal number, possibly with a sign. -/
def IsNumeric (status : String) : Prop :=
  (readSign status.toList).2 ≠ [] ∧ ∀ c ∈ (readSign status.toList).2, c.isDigit = true

instance (status : String) : Decidable (IsNumeric status) := inferInstanceAs (Decidable (_ ∧ _))

def Json.IsResponse : Json → Prop
  | .object fields => ∃ status, fields.lookup "Status" = some (.string (.utf8 status)) ∧
      IsNumeric status
  | _ => False

section Status

theorem stoi_of_isNumeric {status : String} (h : IsNumeric status) :
    (∃ n, stoi status = .ok n) ∨ stoi status = .error .outOfRange := by
  obtain ⟨hne, hdigits⟩ := h
  have hspace : status.toList.dropWhile isSpace = status.toList := by
    revert hne hdigits
    unfold readSign
    split
    · next heq => exact fun _ _ => by simp [heq, isSpace]
    · next heq => exact fun _ _ => by simp [heq, isSpace]
    · exact fun _ hdigits => dropWhile_isSpace_of_isDigit hdigits
  have htake : (readSign status.toList).2.takeWhile Char.isDigit = (readSign status.toList).2 :=
    List.takeWhile_eq_self_iff.mpr hdigits
  have hnonempty : (readSign status.toList).2.isEmpty = false := by
    simpa using hne
  simp only [stoi, hspace, htake, hnonempty, Bool.false_eq_true, if_false]
  split_ifs
  · exact Or.inl ⟨_, rfl⟩
  · exact Or.inr rfl
  · exact Or.inl ⟨_, rfl⟩
  · exact Or.inr rfl

theorem stoi_error {status : String} {e : CxxException} (h : stoi status = .error e) :
    e = .invalidArgument ∨ e = .outOfRange := by
  simp only [stoi] at h
  split_ifs at h
  all_goals
    cases h
    simp

variable {value : Json} {cmdResponse : String} {matterEndpoint : ℕ} {info : CommandInfo}

theorem commandResponse_of_unknown (h : doorLockCommandIdMap.lookup cmdResponse = none) :
    commandResponse matterEndpoint "DoorLock" cmdResponse value info = .ok none := by
  have hcluster : getClusterId "DoorLock" = some ClusterCommandHandler.doorLock.clusterId := rfl
  simp only [commandResponse, hcluster, ne_eq, not_true_eq_false, if_false, h]
  rfl

theorem commandResponse_of_known {commandId : ℕ}
    (h : doorLockCommandIdMap.lookup cmdResponse = some commandId) :
    commandResponse matterEndpoint "DoorLock" cmdResponse value info =
      (responseStatus value).bind fun status =>
        if info.live then (stoi status).map fun n => some
          ⟨info.handle, ⟨matterEndpoint, ClusterCommandHandler.doorLock.clusterId, commandId⟩,
            if n = 1 then .success else .failure⟩
        else .ok none := by
  have hcluster : getClusterId "DoorLock" = some ClusterCommandHandler.doorLock.clusterId := rfl
  simp only [commandResponse, hcluster, ne_eq, not_true_eq_false, if_false, h]
  cases responseStatus value with
  | error e => rfl
  | ok status =>
    cases info.live with
    | false => rfl
    | true =>
      cases stoi status with
      | error e => rfl
      | ok n => rfl

end Status

namespace ResponseMessage

variable {Table Content : Type} (s : MonitorState Table Content) (now : ℤ)
  (pending : PendingTable) (msg : ResponseMessage)

def topic : String := cmdResponseKey msg.unid msg.ep "DoorLock" msg.cmdResponse

def handle : ResponseResult := onMqttResponseCb s now pending msg.topic msg.message

/-- What is parsed; an empty message is not, nor one of a response without a name. -/
def parsed : Option (Except ParseFailure Json) :=
  match msg.message with
  | .empty => none
  | .text parsed => if msg.cmdResponse = "" then none else some parsed

def WellFormed : Prop := ∃ value, msg.parsed = some (.ok value) ∧ value.IsResponse

/-- The message meets a pending command: its endpoint is bridged, and the entry of its topic has
not timed out. -/
structure Meets (parsed : Except ParseFailure Json) (info : CommandInfo) : Prop where
  bridged : matterEndpointOf s msg.unid msg.ep ≠ none
  parsed_eq : msg.parsed = some parsed
  entry : pending msg.topic = some info
  inTime : ishandlerTimedout now info.timeout = false

/-- Nothing escapes and, unless the message is a well-formed response, the pending command is left
as it was, so that a later message is answered as if this one had not come. -/
structure Harmless : Prop where
  noException : (msg.handle s now pending).exception = none
  kept : ¬ msg.WellFormed → ∀ info, pending msg.topic = some info →
    ishandlerTimedout now info.timeout = false →
      (msg.handle s now pending).pending msg.topic = some info
  answeredLater : ¬ msg.WellFormed → ∀ (later : ResponseMessage) now', later.topic = msg.topic →
    now ≤ now' → (later.handle s now' (msg.handle s now pending).pending).answer =
      (later.handle s now' pending).answer

/-- What `command_response` can cope with: the status of an object is there and, if it is a text
and the handle can still be used, it is a number or starts with one that is out of range. -/
def Readable (info : CommandInfo) : Json → Prop
  | .object fields =>
    match fields.lookup "Status" with
    | none => False
    | some (.string (.utf8 status)) =>
      info.live = true → IsNumeric status ∨ stoi status = .error .outOfRange
    | some _ => True
  | _ => True

/-- No number is too large for the parser, and a response that the command id map knows is
readable. -/
structure Manageable (parsed : Except ParseFailure Json) (info : CommandInfo) : Prop where
  parses : parsed ≠ .error .outOfRange
  readable : ∀ value, parsed = .ok value →
    (doorLockCommandIdMap.lookup msg.cmdResponse).isSome = true → Readable info value

/-- What follows once the entry has been found to be in time. -/
def respond (matterEndpoint : ℕ) (parsed : Except ParseFailure Json) (info : CommandInfo) :
    ResponseResult :=
  match parsed with
  | .error e => .failed pending e.exception
  | .ok value =>
    match commandResponse matterEndpoint "DoorLock" msg.cmdResponse value info with
    | .error e => .failed pending e
    | .ok none => ⟨none, pending, none⟩
    | .ok (some answer) =>
      ⟨some answer, Function.update pending msg.topic (some { info with live := false }), none⟩

variable {s now pending msg}

theorem search_topic : Topic.search generatedCommandsPattern msg.topic.toList =
    some [msg.unid.toList, (toString msg.ep).toList, "DoorLock".toList, msg.cmdResponse.toList] :=
  search_cmdResponseKey msg.ep msg.unid_level (by decide) msg.cmdResponse_level

theorem handle_eq :
    msg.handle s now pending =
      match matterEndpointOf s msg.unid msg.ep, msg.parsed, pending msg.topic with
      | some matterEndpoint, some parsed, some info =>
        if ishandlerTimedout now info.timeout then
          ⟨none, Function.update pending msg.topic none, none⟩
        else msg.respond pending matterEndpoint parsed info
      | _, _, _ => ⟨none, pending, none⟩ := by
  have hle : msg.ep ≤ 2147483647 := msg.ep_le.trans (by decide)
  have hcluster : ¬ "DoorLock".toList = [] := by decide
  simp only [handle, onMqttResponseCb, search_topic, String.ofList_toList, stoi_toString hle,
    hcluster, or_false, parsed]
  cases matterEndpointOf s msg.unid msg.ep with
  | none => rfl
  | some matterEndpoint =>
    cases msg.message with
    | empty => rfl
    | text parsed =>
      by_cases hname : msg.cmdResponse = ""
      · simp [hname]
      · have hne : ¬ msg.cmdResponse.toList = [] := by
          simpa using hname
        simp only [hname, hne, if_false]
        cases pending msg.topic with
        | none => rfl
        | some info => rfl

theorem answer_congr {pending pending' : PendingTable}
    (h : pending msg.topic = pending' msg.topic) :
    (msg.handle s now pending).answer = (msg.handle s now pending').answer := by
  rw [handle_eq, handle_eq, h]
  cases matterEndpointOf s msg.unid msg.ep with
  | none => rfl
  | some matterEndpoint =>
    cases msg.parsed with
    | none => rfl
    | some parsed =>
      cases pending' msg.topic with
      | none => rfl
      | some info =>
        dsimp only
        split_ifs
        · rfl
        · unfold respond
          cases parsed with
          | error e => rfl
          | ok value =>
            dsimp only
            cases commandResponse matterEndpoint "DoorLock" msg.cmdResponse value info with
            | error e => rfl
            | ok answer => cases answer <;> rfl

theorem answer_of_timedout {info : CommandInfo} (h : pending msg.topic = some info)
    (htimeout : ishandlerTimedout now info.timeout = true) :
    (msg.handle s now pending).answer = none := by
  rw [handle_eq, h]
  cases matterEndpointOf s msg.unid msg.ep with
  | none => rfl
  | some matterEndpoint =>
    cases msg.parsed with
    | none => rfl
    | some parsed => simp only [htimeout, if_true]

theorem answer_of_none (h : pending msg.topic = none) :
    (msg.handle s now pending).answer = none := by
  rw [handle_eq, h]
  cases matterEndpointOf s msg.unid msg.ep <;> cases msg.parsed <;> rfl

/-- A status that is a text decides whether the answer goes out, and no exception but the one for a
number out of range is caught. -/
theorem respond_text_iff {matterEndpoint commandId : ℕ} {value : Json} {info : CommandInfo}
    {status : String} (hentry : pending msg.topic = some info)
    (hknown : doorLockCommandIdMap.lookup msg.cmdResponse = some commandId)
    (hstatus : responseStatus value = .ok status) (hlive : info.live = true) :
    (msg.respond pending matterEndpoint (.ok value) info).exception = none ∧
        (¬ IsNumeric status →
          (msg.respond pending matterEndpoint (.ok value) info).pending msg.topic = some info) ↔
      IsNumeric status ∨ stoi status = .error .outOfRange := by
  simp only [respond, commandResponse_of_known hknown, hstatus, Except.bind, hlive, if_true]
  cases hstoi : stoi status with
  | error e =>
    have hfailed : (ResponseResult.failed pending e).pending msg.topic = some info := hentry
    simp only [Except.map, hfailed, implies_true, and_true]
    rcases stoi_error hstoi with rfl | rfl
    · refine iff_of_false (fun hnone => by cases hnone) ?_
      rintro (hnumeric | hrange)
      · rcases stoi_of_isNumeric hnumeric with ⟨n, hn⟩ | hrange
        · rw [hn] at hstoi
          cases hstoi
        · rw [hrange] at hstoi
          cases hstoi
      · cases hrange
    · exact iff_of_true rfl (Or.inr rfl)
  | ok n =>
    by_cases hnumeric : IsNumeric status
    · simp [Except.map, hnumeric]
    · have hchanged : (some { info with live := false } : Option CommandInfo) ≠ some info := by
        intro heq
        have hfalse := congrArg CommandInfo.live (Option.some.inj heq)
        rw [hlive] at hfalse
        cases hfalse
      simp [Except.map, hnumeric, hchanged]

/-- What the status of a response decides: nothing escapes and the entry stays unless the response
is well formed, if and only if the response is readable. -/
theorem respond_ok_iff {matterEndpoint commandId : ℕ} {value : Json} {info : CommandInfo}
    (hentry : pending msg.topic = some info)
    (hknown : doorLockCommandIdMap.lookup msg.cmdResponse = some commandId) :
    (msg.respond pending matterEndpoint (.ok value) info).exception = none ∧
        (¬ value.IsResponse →
          (msg.respond pending matterEndpoint (.ok value) info).pending msg.topic = some info) ↔
      Readable info value := by
  cases value with
  | object fields =>
    cases hstatus : fields.lookup "Status" with
    | none =>
      simp [respond, commandResponse_of_known hknown, responseStatus, Readable, hstatus, Except.bind,
        ResponseResult.failed, CxxException.caughtByResponse]
    | some status =>
      cases status with
      | string text =>
        cases text with
        | utf8 status =>
          have hok : responseStatus (.object fields) = .ok status := by
            simp [responseStatus, hstatus]
          cases hlive : info.live with
          | false =>
            simp [respond, commandResponse_of_known hknown, Readable, hstatus, hok, hlive,
              Except.bind, hentry]
          | true =>
            have hwellFormed : (Json.object fields).IsResponse ↔ IsNumeric status := by
              simp [Json.IsResponse, hstatus]
            rw [hwellFormed, respond_text_iff hentry hknown hok hlive]
            simp [Readable, hstatus, hlive]
        | malformed bytes =>
          simp [respond, commandResponse_of_known hknown, responseStatus, Readable, hstatus,
            Except.bind, ResponseResult.failed, CxxException.caughtByResponse, hentry]
      | null | boolean | integer | float | array | object =>
        simp [respond, commandResponse_of_known hknown, responseStatus, Readable, hstatus,
          Except.bind, ResponseResult.failed, CxxException.caughtByResponse, hentry]
  | null | boolean | integer | float | string | array =>
    simp [respond, commandResponse_of_known hknown, responseStatus, Readable, Except.bind,
      ResponseResult.failed, CxxException.caughtByResponse, hentry]

theorem Meets.handle_eq {parsed : Except ParseFailure Json} {info : CommandInfo}
    (h : msg.Meets s now pending parsed info) : ∃ matterEndpoint,
      msg.handle s now pending = msg.respond pending matterEndpoint parsed info := by
  obtain ⟨matterEndpoint, hendpoint⟩ := Option.ne_none_iff_exists'.mp h.bridged
  refine ⟨matterEndpoint, ?_⟩
  rw [ResponseMessage.handle_eq, hendpoint, h.parsed_eq, h.entry]
  simp only [h.inTime, Bool.false_eq_true, if_false]

theorem Meets.wellFormed_iff {value : Json} {info : CommandInfo}
    (h : msg.Meets s now pending (.ok value) info) : msg.WellFormed ↔ value.IsResponse := by
  unfold WellFormed
  rw [h.parsed_eq]
  constructor
  · intro hwf
    obtain ⟨value', heq, hresponse⟩ := hwf
    cases heq
    exact hresponse
  · exact fun hresponse => ⟨value, rfl, hresponse⟩

theorem Meets.kept_iff {parsed : Except ParseFailure Json} {info : CommandInfo}
    (h : msg.Meets s now pending parsed info) :
    (msg.handle s now pending).exception = none ∧
        (¬ msg.WellFormed → (msg.handle s now pending).pending msg.topic = some info) ↔
      msg.Manageable parsed info := by
  obtain ⟨matterEndpoint, hhandle⟩ := h.handle_eq
  rw [hhandle]
  cases parsed with
  | error e =>
    have hpending : (msg.respond pending matterEndpoint (.error e) info).pending msg.topic =
        some info := h.entry
    rw [hpending]
    simp only [implies_true, and_true]
    constructor
    · intro hexception
      constructor
      · intro hrange
        cases hrange
        cases hexception
      · intro value hvalue
        cases hvalue
    · intro hmanageable
      cases e with
      | parseError => rfl
      | outOfRange => exact absurd rfl hmanageable.parses
  | ok value =>
    rw [h.wellFormed_iff]
    cases hknown : doorLockCommandIdMap.lookup msg.cmdResponse with
    | none =>
      simp only [respond, commandResponse_of_unknown hknown, h.entry, implies_true, and_true,
        true_iff]
      constructor
      · intro hrange
        cases hrange
      · intro value' _ hsome
        rw [hknown] at hsome
        cases hsome
    | some commandId =>
      rw [respond_ok_iff h.entry hknown]
      constructor
      · intro hreadable
        constructor
        · intro hrange
          cases hrange
        · intro value' hvalue' _
          cases hvalue'
          exact hreadable
      · exact fun hmanageable => hmanageable.readable value rfl (by rw [hknown]; rfl)

/-- A message that meets no pending command does nothing but drop an entry that has timed out. -/
theorem handle_of_not_meets (h : ∀ parsed info, ¬ msg.Meets s now pending parsed info) :
    (msg.handle s now pending).exception = none ∧
      ((msg.handle s now pending).pending = pending ∨
        ∃ info, pending msg.topic = some info ∧ ishandlerTimedout now info.timeout = true ∧
          (msg.handle s now pending).pending = Function.update pending msg.topic none) := by
  rw [handle_eq]
  cases hendpoint : matterEndpointOf s msg.unid msg.ep with
  | none => exact ⟨rfl, Or.inl rfl⟩
  | some matterEndpoint =>
    cases hparsed : msg.parsed with
    | none => exact ⟨rfl, Or.inl rfl⟩
    | some parsed =>
      cases hentry : pending msg.topic with
      | none => exact ⟨rfl, Or.inl rfl⟩
      | some info =>
        cases htime : ishandlerTimedout now info.timeout with
        | true =>
          simp only [htime, if_true, true_and]
          exact Or.inr ⟨info, rfl, htime, trivial⟩
        | false => exact absurd ⟨by simp [hendpoint], hparsed, hentry, htime⟩ (h parsed info)

theorem answeredLater_of_kept (later : ResponseMessage) {now' : ℤ} {pending' : PendingTable}
    (htopic : later.topic = msg.topic) (h : pending' msg.topic = pending msg.topic) :
    (later.handle s now' pending').answer = (later.handle s now' pending).answer :=
  answer_congr (by rw [htopic, h])

/-- A message on a topic of the subscription is harmless if and only if what it meets is
manageable. -/
theorem harmless_handle_iff (s : MonitorState Table Content) (now : ℤ) (pending : PendingTable)
    (msg : ResponseMessage) :
    msg.Harmless s now pending ↔
      ∀ parsed info, msg.Meets s now pending parsed info → msg.Manageable parsed info := by
  constructor
  · intro hharmless parsed info hmeets
    exact hmeets.kept_iff.mp ⟨hharmless.noException, fun hwf =>
      hharmless.kept hwf info hmeets.entry hmeets.inTime⟩
  · intro hmanageable
    by_cases hmeets : ∃ parsed info, msg.Meets s now pending parsed info
    · obtain ⟨parsed, info, hmeets⟩ := hmeets
      obtain ⟨hexception, hkept⟩ := hmeets.kept_iff.mpr (hmanageable parsed info hmeets)
      constructor
      · exact hexception
      · intro hwf info' hentry _
        rw [hkept hwf, ← hmeets.entry, hentry]
      · intro hwf later now' htopic _
        exact answeredLater_of_kept later htopic ((hkept hwf).trans hmeets.entry.symm)
    · obtain ⟨hexception, hpending⟩ := handle_of_not_meets fun parsed info hmeets' =>
        hmeets ⟨parsed, info, hmeets'⟩
      constructor
      · exact hexception
      · intro _ info hentry htime
        rcases hpending with hpending | ⟨info', hentry', htimeout, -⟩
        · rw [hpending, hentry]
        · cases hentry.symm.trans hentry'
          rw [htime] at htimeout
          cases htimeout
      · intro _ later now' htopic hle
        rcases hpending with hpending | ⟨info, hentry, htimeout, hpending⟩
        · rw [hpending]
        · -- what has been dropped would not be answered later either
          have hlater : ishandlerTimedout now' info.timeout = true := by
            by_contra hnot
            rw [ishandlerTimedout_mono hle (Bool.eq_false_of_not_eq_true hnot)] at htimeout
            cases htimeout
          have hnow : (later.handle s now' pending).answer = none :=
            answer_of_timedout (by rw [htopic, hentry]) hlater
          rw [hnow, answer_of_none]
          rw [hpending, htopic, Function.update_self]

end ResponseMessage

section Example

private theorem level_unid : '/' ∉ "A".toList := by decide

private theorem endpoint_le : 1 ≤ 65535 := by decide

def lockDoorResponse (message : Message) : ResponseMessage where
  unid := "A"
  ep := 1
  cmdResponse := "LockDoorResponse"
  message := message
  unid_level := level_unid
  ep_le := endpoint_le
  cmdResponse_level := by decide

def lockDoorPending : PendingTable := fun key =>
  if key = (lockDoorResponse .empty).topic then some ⟨0, true, 0⟩ else none

/-- The status text `failed` makes `stoi` throw what the callback does not catch. -/
theorem not_harmless_of_text_status :
    ¬ ∀ msg : ResponseMessage, msg.Harmless NodeStateMonitor.oneNode 0 lockDoorPending := by
  intro h
  let value : Json := .object [("Status", .string (.utf8 "failed"))]
  have hharmless := h (lockDoorResponse (.text (.ok value)))
  have hmeets : (lockDoorResponse (.text (.ok value))).Meets NodeStateMonitor.oneNode 0
      lockDoorPending (.ok value) ⟨0, true, 0⟩ := by
    constructor
    · decide
    · rfl
    · exact if_pos rfl
    · decide
  have hmanageable := hmeets.kept_iff.mp ⟨hharmless.noException, fun hwf =>
    hharmless.kept hwf _ hmeets.entry hmeets.inTime⟩
  rcases hmanageable.readable value rfl (by decide) rfl with ⟨-, hdigits⟩ | hrange
  · exact absurd (hdigits 'f' (by decide)) (by decide)
  · exact absurd hrange (by decide)

end Example

end UnifyMatterBridge
