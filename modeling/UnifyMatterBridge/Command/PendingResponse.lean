import UnifyMatterBridge.Command.Response
import UnifyMatterBridge.Lib.Execution
import UnifyMatterBridge.NodeStateMonitor.Lookup

/-! The pending-response protocol of the door lock handler, over any interleaving of commands,
responses and clock advances. -/
namespace UnifyMatterBridge.PendingResponse

/-- A response whose status is a number. -/
structure StatusResponse where
  value : Json
  text : String
  number : ℤ
  isStatus : responseStatus value = .ok text
  isNumber : stoi text = .ok number

/-- The status that a response asks for. -/
def StatusResponse.status (r : StatusResponse) : ImStatus :=
  if r.number = 1 then .success else .failure

/-- What has happened to the handles: `sent` when a handle is stored under a key. -/
inductive Record where
  | sent (key : String) (handle : ℕ) (time : ℤ)
  | answered (handle : ℕ) (status : ImStatus)
  deriving DecidableEq

structure State where
  pending : PendingTable
  now : ℤ
  nextHandle : ℕ
  log : List Record

inductive Event where
  | invoke (inv : Invocation)
  | response (topic : String) (message : StatusResponse)
  | tick (nanoseconds : ℕ)

def Record.ofEffect (now : ℤ) : Effect → Option Record
  | .storeHandle key handle => some (.sent key handle now)
  | _ => none

def Record.answeredHandle : Record → Option ℕ
  | .answered handle _ => some handle
  | .sent _ _ _ => none

def start (now : ℤ) : State := ⟨fun _ => none, now, 0, []⟩

section Step

variable {Table Content : Type} (s : MonitorState Table Content)
  (getUnifyGroup : MatterGroup → Option ℕ) (cache : AttributeCache)

def sendEnv : SendEnv where
  bridgedEndpoint id := (NodeStateMonitor.bridgedEndpointOfMatter s id).map (·.address)
  getUnifyGroup := getUnifyGroup

/-- A command gets a handle of its own. -/
def invokeCommand (st : State) (inv : Invocation) : InvokeResult :=
  ClusterCommandHandler.doorLock.invokeCommand (sendEnv s getUnifyGroup) st.now cache st.pending
    { inv with handle := st.nextHandle }

def onResponse (st : State) (topic : String) (message : StatusResponse) : ResponseResult :=
  onMqttResponseCb s st.now st.pending topic (.text (.ok message.value))

def step (st : State) : Event → State
  | .invoke inv =>
    let r := invokeCommand s getUnifyGroup cache st inv
    { st with
      pending := r.pending
      nextHandle := st.nextHandle + 1
      log := st.log ++ r.effects.filterMap (Record.ofEffect st.now) }
  | .response topic message =>
    let r := onResponse s st topic message
    { st with
      pending := r.pending
      log := st.log ++ (r.answer.map fun a => Record.answered a.handle a.status).toList }
  | .tick nanoseconds => { st with now := st.now + nanoseconds }

end Step

/-- A command under the key has been sent, has not been answered, and has not timed out. -/
def Pending (st : State) (key : String) (handle : ℕ) : Prop :=
  ∃ time, .sent key handle time ∈ st.log ∧ (∀ status, .answered handle status ∉ st.log) ∧
    ishandlerTimedout st.now time = false

/-- A command under the key has been answered, and would not have timed out yet. -/
def AnsweredRecently (st : State) (key : String) : Prop :=
  ∃ handle time status, .sent key handle time ∈ st.log ∧ .answered handle status ∈ st.log ∧
    ishandlerTimedout st.now time = false

/-- No handle has been given two statuses. -/
def AnsweredOnce (st : State) : Prop := (st.log.filterMap Record.answeredHandle).Nodup

section Conditions

variable {Table Content : Type} (s : MonitorState Table Content)
  (getUnifyGroup : MatterGroup → Option ℕ) (cache : AttributeCache)

/-- The key of a command that awaits a response. -/
def AwaitedKey (inv : Invocation) (key : String) : Prop :=
  ∃ c unid ep, ClusterCommandHandler.doorLock.switch inv.commandId = some c ∧ c.cmdResponse ≠ "" ∧
    (sendEnv s getUnifyGroup).bridgedEndpoint inv.endpointId = some (unid, ep) ∧
    key = cmdResponseKey unid ep "DoorLock" c.cmdResponse

/-- A response answers the command pending under its topic and no other one, and a command is
rejected with `Busy` if and only if one is pending under its key. -/
def Correct (st : State) : Event → Prop
  | .invoke inv => ∀ key, AwaitedKey s getUnifyGroup inv key →
      (.addStatus (ClusterCommandHandler.doorLock.requestPath inv) .busy ∈
          (invokeCommand s getUnifyGroup cache st inv).effects ↔ ∃ handle, Pending st key handle)
  | .response topic message => ∀ handle status,
      (∃ path, (onResponse s st topic message).answer = some ⟨handle, path, status⟩) ↔
        Pending st topic handle ∧ status = message.status
  | .tick _ => True

/-- The name of the response that a topic is for. -/
def responseName (topic : String) : Option String :=
  match Topic.search generatedCommandsPattern topic.toList with
  | some [_, _, _, cmdResponse] => some (String.ofList cmdResponse)
  | _ => none

def Translated (topic : String) : Prop :=
  responseName topic = some "LockDoorResponse" ∨ responseName topic = some "UnlockDoorResponse"

/-- No command is invoked while an answered one of its key has not timed out, and only the responses
of the id map arrive for commands that are pending. -/
def Condition (st : State) : Event → Prop
  | .invoke inv => ∀ key, AwaitedKey s getUnifyGroup inv key → ¬ AnsweredRecently st key
  | .response topic _ => ∀ handle, Pending st topic handle → Translated topic
  | .tick _ => True

end Conditions

/-- The key of some command that awaits a response, on some bridged endpoint. -/
def IsKey {Table Content : Type} (s : MonitorState Table Content) (key : String) : Prop :=
  ∃ e ∈ s.bridgedEndpoints, ∃ c ∈ ClusterCommandHandler.doorLock.commands, c.cmdResponse ≠ "" ∧
    key = cmdResponseKey e.unifyUnid e.unifyEndpoint "DoorLock" c.cmdResponse

section Invoke

variable {Table Content : Type} {s : MonitorState Table Content}
  {getUnifyGroup : MatterGroup → Option ℕ} {cache : AttributeCache} {st : State}

theorem AwaitedKey.isKey {inv : Invocation} {key : String}
    (h : AwaitedKey s getUnifyGroup inv key) : IsKey s key := by
  obtain ⟨c, unid, ep, hc, hr, hb, hkey⟩ := h
  obtain ⟨e, he, haddress⟩ := Option.map_eq_some_iff.mp hb
  have hmem : e ∈ s.bridgedEndpoints := List.mem_of_find?_eq_some he
  refine ⟨e, hmem, c, List.mem_of_find?_eq_some hc, hr, ?_⟩
  cases haddress
  exact hkey

/-- A command that awaits a response is rejected, stored under its key, or fails to be sent. -/
theorem invokeCommand_of_awaited {inv : Invocation} {key : String}
    (h : AwaitedKey s getUnifyGroup inv key) :
    (.addStatus (ClusterCommandHandler.doorLock.requestPath inv) .busy ∈
          (invokeCommand s getUnifyGroup cache st inv).effects ↔
        (clearTimedoutHandlers st.now st.pending key).isSome = true) ∧
      ((invokeCommand s getUnifyGroup cache st inv).effects.filterMap (Record.ofEffect st.now) = [] ∧
          (invokeCommand s getUnifyGroup cache st inv).pending =
            clearTimedoutHandlers st.now st.pending ∨
        clearTimedoutHandlers st.now st.pending key = none ∧
          (invokeCommand s getUnifyGroup cache st inv).effects.filterMap (Record.ofEffect st.now) =
            [.sent key st.nextHandle st.now] ∧
          (invokeCommand s getUnifyGroup cache st inv).pending =
            Function.update (clearTimedoutHandlers st.now st.pending) key
              (some ⟨st.nextHandle, true, st.now⟩)) := by
  obtain ⟨c, unid, ep, hc, hr, hb, hkey⟩ := h
  obtain ⟨cmd, payload, hinvoke⟩ := @ClusterCommandHandler.invokeCommand_awaited
    (sendEnv s getUnifyGroup) st.now st.pending { inv with handle := st.nextHandle } unid ep c cache
    hb hc hr
  have hresult := hinvoke _ rfl
  rw [invokeCommand, hresult, hkey]
  dsimp only
  cases hpending : clearTimedoutHandlers st.now st.pending
      (cmdResponseKey unid ep "DoorLock" c.cmdResponse) with
  | some info =>
    rw [sendUnifyMqttCmd_busy hb hr (by rw [hpending]; rfl)]
    refine ⟨?_, Or.inl ⟨rfl, rfl⟩⟩
    simp [ClusterCommandHandler.requestPath]
  | none =>
    rw [sendUnifyMqttCmd_response hb hr hpending]
    cases commandTopic (sendEnv s getUnifyGroup) inv.exchange unid ep with
    | none => simp
    | some topic =>
      cases commandMessage payload with
      | error e => simp
      | ok message => exact ⟨by simp, Or.inr ⟨rfl, rfl, rfl⟩⟩

theorem invokeCommand_of_not_awaited {inv : Invocation}
    (h : ∀ key, ¬ AwaitedKey s getUnifyGroup inv key) :
    (invokeCommand s getUnifyGroup cache st inv).effects.filterMap (Record.ofEffect st.now) = [] ∧
      (invokeCommand s getUnifyGroup cache st inv).pending = st.pending := by
  cases hb : (sendEnv s getUnifyGroup).bridgedEndpoint inv.endpointId with
  | none => simp [invokeCommand, ClusterCommandHandler.invokeCommand, hb]
  | some node =>
    have hnot : ∀ c, ClusterCommandHandler.doorLock.switch inv.commandId = some c →
        c.cmdResponse = "" := by
      intro c hc
      by_contra hr
      exact h _ ⟨c, node.1, node.2, hc, hr, hb, rfl⟩
    obtain ⟨hpending, hstore⟩ := @ClusterCommandHandler.invokeCommand_not_awaited
      (sendEnv s getUnifyGroup) st.now st.pending { inv with handle := st.nextHandle } cache hnot
    refine ⟨?_, hpending⟩
    apply List.filterMap_eq_nil_iff.mpr
    intro e he
    cases e with
    | storeHandle key handle => exact absurd he (hstore key handle)
    | addStatus | publish => rfl

end Invoke

/-- Every entry of the table is a handle sent under its key, usable until it is answered, and every
handle that has not timed out is there. -/
structure Inv {Table Content : Type} (s : MonitorState Table Content) (st : State) : Prop where
  stored : ∀ key info, st.pending key = some info →
    .sent key info.handle info.timeout ∈ st.log ∧
      (info.live = true ↔ ∀ status, .answered info.handle status ∉ st.log)
  found : ∀ key handle time, .sent key handle time ∈ st.log →
    ishandlerTimedout st.now time = false → ∃ live, st.pending key = some ⟨handle, live, time⟩
  fresh : ∀ key handle time, .sent key handle time ∈ st.log → handle < st.nextHandle
  answeredFresh : ∀ handle status, .answered handle status ∈ st.log → handle < st.nextHandle
  unique : ∀ key key' handle time time', .sent key handle time ∈ st.log →
    .sent key' handle time' ∈ st.log → key = key' ∧ time = time'
  once : AnsweredOnce st
  keys : ∀ key handle time, .sent key handle time ∈ st.log → IsKey s key

section Invariant

variable {Table Content : Type} {s : MonitorState Table Content}
  {getUnifyGroup : MatterGroup → Option ℕ} {cache : AttributeCache} {st : State}

theorem inv_start (now : ℤ) : Inv s (start now) where
  stored _ _ h := by cases h
  found _ _ _ h := by cases h
  fresh _ _ _ h := by cases h
  answeredFresh _ _ h := by cases h
  unique _ _ _ _ _ h := by cases h
  once := List.nodup_nil
  keys _ _ _ h := by cases h

theorem Inv.tick (hI : Inv s st) {now : ℤ} (hle : st.now ≤ now) : Inv s { st with now := now } where
  stored := hI.stored
  found key handle time h htime := hI.found key handle time h (ishandlerTimedout_mono hle htime)
  fresh := hI.fresh
  answeredFresh := hI.answeredFresh
  unique := hI.unique
  once := hI.once
  keys := hI.keys

/-- A command that stores nothing takes at most a handle and the entries that have timed out. -/
theorem Inv.clear (hI : Inv s st) {pending : PendingTable}
    (hp : pending = st.pending ∨ pending = clearTimedoutHandlers st.now st.pending) :
    Inv s { st with pending := pending, nextHandle := st.nextHandle + 1 } := by
  have hsub : ∀ key info, pending key = some info → st.pending key = some info := by
    intro key info h
    rcases hp with rfl | rfl
    · exact h
    · exact (clearTimedoutHandlers_eq_some.mp h).1
  have hkept : ∀ key info, st.pending key = some info →
      ishandlerTimedout st.now info.timeout = false → pending key = some info := by
    intro key info h htime
    rcases hp with rfl | rfl
    · exact h
    · exact clearTimedoutHandlers_eq_some.mpr ⟨h, htime⟩
  constructor
  · exact fun key info h => hI.stored key info (hsub key info h)
  · intro key handle time h htime
    obtain ⟨live, hlive⟩ := hI.found key handle time h htime
    exact ⟨live, hkept key _ hlive htime⟩
  · exact fun key handle time h => Nat.lt_succ_of_lt (hI.fresh key handle time h)
  · exact fun handle status h => Nat.lt_succ_of_lt (hI.answeredFresh handle status h)
  · exact hI.unique
  · exact hI.once
  · exact hI.keys

/-- A command that is sent puts its handle under a key that is free. -/
theorem Inv.store (hI : Inv s st) {key : String} (hkey : IsKey s key)
    (hfree : clearTimedoutHandlers st.now st.pending key = none) :
    Inv s { st with
      pending := Function.update (clearTimedoutHandlers st.now st.pending) key
        (some ⟨st.nextHandle, true, st.now⟩)
      nextHandle := st.nextHandle + 1
      log := st.log ++ [.sent key st.nextHandle st.now] } := by
  have hsent : ∀ key' handle time,
      .sent key' handle time ∈ st.log ++ [.sent key st.nextHandle st.now] ↔
        .sent key' handle time ∈ st.log ∨
          key' = key ∧ handle = st.nextHandle ∧ time = st.now := by
    intro key' handle time
    simp
  have hanswered : ∀ handle status,
      .answered handle status ∈ st.log ++ [.sent key st.nextHandle st.now] ↔
        .answered handle status ∈ st.log := by
    intro handle status
    simp
  have hnew : ∀ status, Record.answered st.nextHandle status ∉ st.log :=
    fun status h => Nat.lt_irrefl _ (hI.answeredFresh _ status h)
  constructor
  · intro key' info h
    simp only [Function.update_apply] at h
    simp only [hsent, hanswered]
    split_ifs at h with heq
    · cases h
      exact ⟨Or.inr ⟨heq, rfl, rfl⟩, fun _ => hnew, fun _ => rfl⟩
    · obtain ⟨hmem, hlive⟩ := hI.stored key' info (clearTimedoutHandlers_eq_some.mp h).1
      exact ⟨Or.inl hmem, hlive⟩
  · intro key' handle time h htime
    simp only [hsent] at h
    simp only [Function.update_apply]
    rcases h with h | ⟨rfl, rfl, rfl⟩
    · obtain ⟨live, hlive⟩ := hI.found key' handle time h htime
      have hcleared := clearTimedoutHandlers_eq_some.mpr ⟨hlive, htime⟩
      have hne : key' ≠ key := by
        rintro rfl
        rw [hfree] at hcleared
        cases hcleared
      exact ⟨live, by rw [if_neg hne, hcleared]⟩
    · exact ⟨true, if_pos rfl⟩
  · intro key' handle time h
    rcases (hsent _ _ _).mp h with h | ⟨-, rfl, -⟩
    · exact Nat.lt_succ_of_lt (hI.fresh key' handle time h)
    · exact Nat.lt_succ_self _
  · exact fun handle status h =>
      Nat.lt_succ_of_lt (hI.answeredFresh handle status ((hanswered _ _).mp h))
  · intro key₁ key₂ handle time time' h₁ h₂
    rcases (hsent _ _ _).mp h₁ with h₁ | ⟨rfl, rfl, rfl⟩
    · rcases (hsent _ _ _).mp h₂ with h₂ | ⟨-, rfl, -⟩
      · exact hI.unique key₁ key₂ handle time time' h₁ h₂
      · exact absurd (hI.fresh _ _ _ h₁) (Nat.lt_irrefl _)
    · rcases (hsent _ _ _).mp h₂ with h₂ | ⟨rfl, -, rfl⟩
      · exact absurd (hI.fresh _ _ _ h₂) (Nat.lt_irrefl _)
      · exact ⟨rfl, rfl⟩
  · have hnil : [Record.sent key st.nextHandle st.now].filterMap Record.answeredHandle = [] := rfl
    rw [AnsweredOnce, List.filterMap_append, hnil, List.append_nil]
    exact hI.once
  · intro key' handle time h
    rcases (hsent _ _ _).mp h with h | ⟨rfl, -, -⟩
    · exact hI.keys key' handle time h
    · exact hkey

/-- The names of the responses: every command that awaits one has a name without a separator, and
the id map knows two of them. -/
theorem responseNames : ∀ c ∈ ClusterCommandHandler.doorLock.commands, c.cmdResponse ≠ "" →
    '/' ∉ c.cmdResponse.toList ∧
      ((doorLockCommandIdMap.lookup c.cmdResponse).isSome = true ↔
        c.cmdResponse = "LockDoorResponse" ∨ c.cmdResponse = "UnlockDoorResponse") := by
  decide

theorem Inv.onResponse (hI : Inv s st) (ha : Addressable s) {topic : String} {info : CommandInfo}
    (message : StatusResponse) (h : st.pending topic = some info) :
    (ishandlerTimedout st.now info.timeout = true ∧
        (onResponse s st topic message).answer = none ∧
        (onResponse s st topic message).pending = Function.update st.pending topic none) ∨
      ishandlerTimedout st.now info.timeout = false ∧
        (Translated topic ∧ info.live = true ∧
            (∃ path, (onResponse s st topic message).answer =
              some ⟨info.handle, path, message.status⟩) ∧
            (onResponse s st topic message).pending =
              Function.update st.pending topic (some { info with live := false }) ∨
          ¬ (Translated topic ∧ info.live = true) ∧
            (onResponse s st topic message).answer = none ∧
            (onResponse s st topic message).pending = st.pending) := by
  obtain ⟨e, he, c, hc, hr, hkey⟩ := hI.keys topic _ _ (hI.stored topic info h).1
  obtain ⟨hlevel, hnames⟩ := responseNames c hc hr
  have hunid := ha e he
  obtain ⟨m, hm⟩ := matterEndpointOf_isSome he
  have htranslated : Translated topic ↔ (doorLockCommandIdMap.lookup c.cmdResponse).isSome = true := by
    have hsearch := search_cmdResponseKey e.unifyEndpoint hunid
      (by decide : '/' ∉ "DoorLock".toList) hlevel
    have hname : responseName topic = some c.cmdResponse := by
      simp only [responseName, hkey, hsearch, String.ofList_toList]
    rw [hnames, Translated, hname, Option.some.injEq, Option.some.injEq]
  have hep : e.unifyEndpoint.val ≤ 2147483647 := by omega
  have hresult := @onMqttResponseCb_of_some _ _ s st.now st.pending _ _ _ m info _ _ _ hunid hep hm
    hlevel hr message.isStatus message.isNumber (hkey ▸ h)
  rw [← hkey] at hresult
  unfold PendingResponse.onResponse
  rw [hresult, htranslated]
  cases htime : ishandlerTimedout st.now info.timeout with
  | true => exact Or.inl ⟨rfl, rfl, rfl⟩
  | false =>
    refine Or.inr ⟨rfl, ?_⟩
    cases doorLockCommandIdMap.lookup c.cmdResponse with
    | none => exact Or.inr ⟨by simp, rfl, rfl⟩
    | some commandId =>
      cases hlive : info.live with
      | false => exact Or.inr ⟨by simp, rfl, rfl⟩
      | true => exact Or.inl ⟨rfl, rfl, ⟨_, rfl⟩, rfl⟩

theorem Inv.erase (hI : Inv s st) {key : String} {info : CommandInfo}
    (h : st.pending key = some info) (htime : ishandlerTimedout st.now info.timeout = true) :
    Inv s { st with pending := Function.update st.pending key none } := by
  constructor
  · intro key' info' h'
    simp only [Function.update_apply] at h'
    split_ifs at h'
    exact hI.stored key' info' h'
  · intro key' handle time hsent hnot
    obtain ⟨live, hlive⟩ := hI.found key' handle time hsent hnot
    refine ⟨live, ?_⟩
    simp only [Function.update_apply]
    rw [if_neg, hlive]
    rintro rfl
    rw [h] at hlive
    cases hlive
    rw [htime] at hnot
    cases hnot
  · exact hI.fresh
  · exact hI.answeredFresh
  · exact hI.unique
  · exact hI.once
  · exact hI.keys

theorem Inv.answer (hI : Inv s st) {key : String} {info : CommandInfo} (status : ImStatus)
    (h : st.pending key = some info) (hlive : info.live = true) :
    Inv s { st with
      pending := Function.update st.pending key (some { info with live := false })
      log := st.log ++ [.answered info.handle status] } := by
  obtain ⟨hsentKey, hliveKey⟩ := hI.stored key info h
  have hsent : ∀ key' handle time,
      .sent key' handle time ∈ st.log ++ [.answered info.handle status] ↔
        .sent key' handle time ∈ st.log := by
    intro key' handle time
    simp
  have hanswered : ∀ handle status',
      .answered handle status' ∈ st.log ++ [.answered info.handle status] ↔
        .answered handle status' ∈ st.log ∨ handle = info.handle ∧ status' = status := by
    intro handle status'
    simp
  constructor
  · intro key' info' h'
    simp only [Function.update_apply] at h'
    simp only [hsent, hanswered]
    split_ifs at h' with heq
    · cases h'
      rw [heq]
      refine ⟨hsentKey, fun hf => absurd hf Bool.false_ne_true, fun hnone => ?_⟩
      exact absurd (Or.inr ⟨rfl, rfl⟩) (hnone status)
    · obtain ⟨hsent', hlive'⟩ := hI.stored key' info' h'
      have hne : info'.handle ≠ info.handle := by
        intro hhandle
        rw [hhandle] at hsent'
        exact heq (hI.unique _ _ _ _ _ hsent' hsentKey).1
      refine ⟨hsent', hlive'.trans (forall_congr' fun status' => ?_)⟩
      simp [hne]
  · intro key' handle time hs htime
    obtain ⟨live, hfound⟩ := hI.found key' handle time ((hsent _ _ _).mp hs) htime
    simp only [Function.update_apply]
    split_ifs with heq
    · rw [heq, h] at hfound
      cases hfound
      exact ⟨false, rfl⟩
    · exact ⟨live, hfound⟩
  · exact fun key' handle time hs => hI.fresh key' handle time ((hsent _ _ _).mp hs)
  · intro handle status' ha
    rcases (hanswered _ _).mp ha with ha | ⟨rfl, -⟩
    · exact hI.answeredFresh handle status' ha
    · exact hI.fresh _ _ _ hsentKey
  · exact fun key₁ key₂ handle time time' h₁ h₂ =>
      hI.unique key₁ key₂ handle time time' ((hsent _ _ _).mp h₁) ((hsent _ _ _).mp h₂)
  · have hsingle : [Record.answered info.handle status].filterMap Record.answeredHandle =
        [info.handle] := rfl
    rw [AnsweredOnce, List.filterMap_append, hsingle, List.nodup_append]
    refine ⟨hI.once, List.nodup_singleton _, fun handle hmem handle' hmem' heq => ?_⟩
    rw [List.mem_singleton.mp hmem'] at heq
    obtain ⟨record, hrecord, hhandle⟩ := List.mem_filterMap.mp hmem
    cases record with
    | sent => cases hhandle
    | answered handle'' status' =>
      cases hhandle
      rw [heq] at hrecord
      exact hliveKey.mp hlive status' hrecord
  · exact fun key' handle time hs => hI.keys key' handle time ((hsent _ _ _).mp hs)

theorem Inv.step (hI : Inv s st) (ha : Addressable s) (e : Event) :
    Inv s (step s getUnifyGroup cache st e) := by
  cases e with
  | invoke inv =>
    unfold PendingResponse.step
    dsimp only
    by_cases h : ∃ key, AwaitedKey s getUnifyGroup inv key
    · obtain ⟨key, hkey⟩ := h
      rcases (@invokeCommand_of_awaited _ _ s getUnifyGroup cache st inv key hkey).2 with
        ⟨hlog, hpending⟩ | ⟨hfree, hlog, hpending⟩
      · rw [hlog, hpending, List.append_nil]
        exact hI.clear (Or.inr rfl)
      · rw [hlog, hpending]
        exact hI.store hkey.isKey hfree
    · obtain ⟨hlog, hpending⟩ := @invokeCommand_of_not_awaited _ _ s getUnifyGroup cache st inv
        (not_exists.mp h)
      rw [hlog, hpending, List.append_nil]
      exact hI.clear (Or.inl rfl)
  | response topic message =>
    unfold PendingResponse.step
    dsimp only
    cases h : st.pending topic with
    | none =>
      obtain ⟨hanswer, hpending⟩ := @onMqttResponseCb_of_none _ _ s st.now st.pending topic
        (.text (.ok message.value)) h
      rw [PendingResponse.onResponse, hanswer, hpending]
      simpa using hI
    | some info =>
      rcases hI.onResponse ha message h with ⟨htime, hanswer, hpending⟩ |
        ⟨-, ⟨-, hlive, ⟨path, hanswer⟩, hpending⟩ | ⟨-, hanswer, hpending⟩⟩
      · rw [hanswer, hpending]
        simpa using hI.erase h htime
      · rw [hanswer, hpending]
        exact hI.answer message.status h hlive
      · rw [hanswer, hpending]
        simpa using hI
  | tick nanoseconds => exact hI.tick (by omega)

/-- The entry of a key that has not timed out tells whether a command is pending. -/
theorem Inv.pending_iff (hI : Inv s st) {key : String} {handle : ℕ} :
    Pending st key handle ↔
      ∃ time, st.pending key = some ⟨handle, true, time⟩ ∧
        ishandlerTimedout st.now time = false := by
  constructor
  · rintro ⟨time, hsent, hnot, htime⟩
    obtain ⟨live, hlive⟩ := hI.found key handle time hsent htime
    have htrue : live = true := (hI.stored key _ hlive).2.mpr hnot
    exact ⟨time, htrue ▸ hlive, htime⟩
  · rintro ⟨time, hpending, htime⟩
    obtain ⟨hsent, hlive⟩ := hI.stored key _ hpending
    exact ⟨time, hsent, hlive.mp rfl, htime⟩

theorem Inv.answeredRecently_iff (hI : Inv s st) {key : String} :
    AnsweredRecently st key ↔
      ∃ handle time, st.pending key = some ⟨handle, false, time⟩ ∧
        ishandlerTimedout st.now time = false := by
  constructor
  · rintro ⟨handle, time, status, hsent, hanswered, htime⟩
    obtain ⟨live, hlive⟩ := hI.found key handle time hsent htime
    cases live with
    | false => exact ⟨handle, time, hlive, htime⟩
    | true => exact absurd hanswered ((hI.stored key _ hlive).2.mp rfl status)
  · rintro ⟨handle, time, hpending, htime⟩
    obtain ⟨hsent, hlive⟩ := hI.stored key _ hpending
    have hex : ∃ status, Record.answered handle status ∈ st.log := by
      by_contra hnone
      exact absurd (hlive.mpr (not_exists.mp hnone)) Bool.false_ne_true
    obtain ⟨status, hstatus⟩ := hex
    exact ⟨handle, time, status, hsent, hstatus, htime⟩

theorem Inv.not_pending_of_none (hI : Inv s st) {key : String} (h : st.pending key = none)
    (handle : ℕ) : ¬ Pending st key handle := by
  intro hpending
  obtain ⟨time, hentry, -⟩ := hI.pending_iff.mp hpending
  rw [h] at hentry
  cases hentry

theorem Inv.pending_entry_iff (hI : Inv s st) {key : String} {info : CommandInfo}
    (h : st.pending key = some info) (handle : ℕ) :
    Pending st key handle ↔
      handle = info.handle ∧ info.live = true ∧ ishandlerTimedout st.now info.timeout = false := by
  rw [hI.pending_iff, h]
  constructor
  · rintro ⟨time, hentry, htime⟩
    cases hentry
    exact ⟨rfl, rfl, htime⟩
  · rintro ⟨rfl, hlive, htime⟩
    exact ⟨info.timeout, by rw [← hlive], htime⟩

/-- A response for which nothing is pending is rightly left without an answer. -/
theorem correct_response_of_idle {topic : String} {message : StatusResponse}
    (hnone : ∀ handle, ¬ Pending st topic handle)
    (hanswer : (PendingResponse.onResponse s st topic message).answer = none) :
    Correct s getUnifyGroup cache st (.response topic message) ↔
      Condition s getUnifyGroup st (.response topic message) := by
  refine ⟨fun _ handle h => absurd h (hnone handle), fun _ handle status => ?_⟩
  rw [hanswer]
  constructor
  · rintro ⟨path, hpath⟩
    cases hpath
  · exact fun h => absurd h.1 (hnone handle)

/-- A response is answered as it should be unless one for a pending command is not translated. -/
theorem Inv.correct_response_iff (hI : Inv s st) (ha : Addressable s) (topic : String)
    (message : StatusResponse) :
    Correct s getUnifyGroup cache st (.response topic message) ↔
      Condition s getUnifyGroup st (.response topic message) := by
  cases h : st.pending topic with
  | none =>
    exact correct_response_of_idle (hI.not_pending_of_none h) (onMqttResponseCb_of_none h).1
  | some info =>
    have hentry := hI.pending_entry_iff h
    rcases hI.onResponse ha message h with ⟨htime, hanswer, -⟩ |
      ⟨htime, ⟨htranslated, hlive, ⟨path, hanswer⟩, -⟩ | ⟨hnot, hanswer, -⟩⟩
    · refine correct_response_of_idle (fun handle hpending => ?_) hanswer
      have hnot := ((hentry handle).mp hpending).2.2
      rw [htime] at hnot
      cases hnot
    · refine ⟨fun _ _ _ => htranslated, fun _ handle status => ?_⟩
      rw [hanswer, hentry]
      constructor
      · rintro ⟨path', hpath⟩
        cases hpath
        exact ⟨⟨rfl, hlive, htime⟩, rfl⟩
      · rintro ⟨⟨rfl, -, -⟩, rfl⟩
        exact ⟨path, rfl⟩
    · by_cases hlive : info.live = true
      · have hpending : Pending st topic info.handle := (hentry _).mpr ⟨rfl, hlive, htime⟩
        constructor
        · intro hcorrect
          obtain ⟨path, hpath⟩ := (hcorrect info.handle message.status).mpr ⟨hpending, rfl⟩
          rw [hanswer] at hpath
          cases hpath
        · exact fun hcondition => absurd ⟨hcondition _ hpending, hlive⟩ hnot
      · exact correct_response_of_idle
          (fun handle hpending => hlive ((hentry handle).mp hpending).2.1) hanswer

/-- A step is correct if and only if it meets the condition. -/
theorem Inv.correct_iff (hI : Inv s st) (ha : Addressable s) (e : Event) :
    Correct s getUnifyGroup cache st e ↔ Condition s getUnifyGroup st e := by
  cases e with
  | invoke inv =>
    refine forall_congr' fun key => forall_congr' fun hkey => ?_
    rw [(invokeCommand_of_awaited hkey).1, hI.answeredRecently_iff]
    simp only [hI.pending_iff]
    cases hcleared : clearTimedoutHandlers st.now st.pending key with
    | none =>
      have hnone : ∀ info, st.pending key = some info →
          ¬ ishandlerTimedout st.now info.timeout = false := by
        intro info hinfo htime
        rw [clearTimedoutHandlers_eq_some.mpr ⟨hinfo, htime⟩] at hcleared
        cases hcleared
      constructor
      · rintro - ⟨handle, time, hpending, htime⟩
        exact hnone _ hpending htime
      · intro _
        constructor
        · intro hfalse
          cases hfalse
        · rintro ⟨handle, time, hpending, htime⟩
          exact absurd htime (hnone _ hpending)
    | some info =>
      obtain ⟨hinfo, htime⟩ := clearTimedoutHandlers_eq_some.mp hcleared
      obtain ⟨handle, live, time⟩ := info
      cases live with
      | false =>
        constructor
        · intro h
          obtain ⟨handle', time', hpending, -⟩ := h.mp rfl
          rw [hinfo] at hpending
          cases hpending
        · exact fun h => absurd ⟨handle, time, hinfo, htime⟩ h
      | true =>
        constructor
        · rintro - ⟨handle', time', hpending, -⟩
          rw [hinfo] at hpending
          cases hpending
        · exact fun _ => ⟨fun _ => ⟨handle, time, hinfo, htime⟩, fun _ => rfl⟩
  | response topic message => exact hI.correct_response_iff ha topic message
  | tick nanoseconds => exact Iff.rfl

/-- Over every run no handle is given two statuses, and the protocol is followed exactly if every
step meets the condition. -/
theorem correct_run_iff (ha : Addressable s) (now : ℤ) (evs : List Event) :
    (EventSystem.Guarded (step s getUnifyGroup cache) (Correct s getUnifyGroup cache) (start now)
        evs ∧
      AnsweredOnce (EventSystem.run (step s getUnifyGroup cache) (start now) evs)) ↔
      EventSystem.Guarded (step s getUnifyGroup cache) (Condition s getUnifyGroup) (start now)
        evs := by
  have hstep : ∀ st e, Inv s st → Inv s (step s getUnifyGroup cache st e) :=
    fun st e hI => hI.step ha e
  have honce := (EventSystem.invariant_run' hstep (inv_start now) evs).once
  rw [and_iff_left honce]
  exact EventSystem.guarded_congr hstep (fun st e hI => hI.correct_iff ha e) (inv_start now)

end Invariant

section Example

open NodeStateMonitor

def lockDoor : Event := .invoke (ClusterCommandHandler.bareCommand 0)

def lockDoorResponse : Event :=
  .response "ucl/by-unid/A/ep1/DoorLock/GeneratedCommands/LockDoorResponse"
    ⟨.object [("Status", .string (.utf8 "1"))], "1", 1, rfl, by decide⟩

/-- A door is locked, and again eleven seconds after the response. -/
theorem correct_run_locking_twice :
    EventSystem.Guarded (step oneNode (fun _ => none) AttributeCache.empty)
        (Correct oneNode (fun _ => none) AttributeCache.empty) (PendingResponse.start 0)
        [lockDoor, lockDoorResponse, .tick 11000000000, lockDoor] ∧
      AnsweredOnce (EventSystem.run (step oneNode (fun _ => none) AttributeCache.empty)
        (PendingResponse.start 0) [lockDoor, lockDoorResponse, .tick 11000000000, lockDoor]) := by
  apply (correct_run_iff addressable_oneNode 0 _).mpr
  have hlog : (EventSystem.run (step oneNode (fun _ => none) AttributeCache.empty)
      (PendingResponse.start 0) [lockDoor, lockDoorResponse, .tick 11000000000]).log =
      [.sent "ucl/by-unid/A/ep1/DoorLock/GeneratedCommands/LockDoorResponse" 0 0,
        .answered 0 .success] := by decide
  refine ⟨?_, ?_, trivial, ?_, trivial⟩
  · rintro key - ⟨handle, time, status, hsent, -⟩
    cases hsent
  · exact fun _ _ => Or.inl (by decide)
  · rintro key - ⟨handle, time, status, hsent, -, htime⟩
    have hmem := (congrArg (Record.sent key handle time ∈ ·) hlog).mp hsent
    simp only [List.mem_cons, Record.sent.injEq, reduceCtorEq, List.not_mem_nil, or_false] at hmem
    obtain ⟨-, -, rfl⟩ := hmem
    cases htime

/-- A second command right after the response is rejected, although nothing is pending any more. -/
theorem not_correct_run_after_response :
    ¬ ∀ evs, EventSystem.Guarded (step oneNode (fun _ => none) AttributeCache.empty)
      (Correct oneNode (fun _ => none) AttributeCache.empty) (PendingResponse.start 0) evs := by
  intro h
  obtain ⟨-, -, hcorrect, -⟩ := h [lockDoor, lockDoorResponse, lockDoor]
  have hlog : (EventSystem.run (step oneNode (fun _ => none) AttributeCache.empty)
      (PendingResponse.start 0) [lockDoor, lockDoorResponse]).log =
      [.sent "ucl/by-unid/A/ep1/DoorLock/GeneratedCommands/LockDoorResponse" 0 0,
        .answered 0 .success] := by decide
  have hkey : AwaitedKey oneNode (fun _ => none) (ClusterCommandHandler.bareCommand 0)
      (cmdResponseKey "A" 1 "DoorLock" "LockDoorResponse") :=
    ⟨⟨0, some "LockDoor", ["PINOrRFIDCode"], "LockDoorResponse"⟩, "A", 1, rfl, by decide, by decide,
      rfl⟩
  have hbusy : (PendingResponse.invokeCommand oneNode (fun _ => none) AttributeCache.empty
      (EventSystem.run (step oneNode (fun _ => none) AttributeCache.empty)
        (PendingResponse.start 0) [lockDoor, lockDoorResponse])
      (ClusterCommandHandler.bareCommand 0)).effects = [.addStatus ⟨2, 0x0101, 0⟩ .busy] := rfl
  obtain ⟨handle, time, hsent, hnot, -⟩ := (hcorrect _ hkey).mp
    ((congrArg (Effect.addStatus ⟨2, 0x0101, 0⟩ .busy ∈ ·) hbusy).mpr List.mem_cons_self)
  have hmem := (congrArg (Record.sent _ handle time ∈ ·) hlog).mp hsent
  simp only [List.mem_cons, Record.sent.injEq, reduceCtorEq, List.not_mem_nil, or_false] at hmem
  obtain ⟨-, rfl, -⟩ := hmem
  exact hnot .success ((congrArg (Record.answered 0 .success ∈ ·) hlog).mpr
    (List.mem_cons_of_mem _ List.mem_cons_self))

end Example

end UnifyMatterBridge.PendingResponse
