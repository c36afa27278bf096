import SolarFlowEms.ChargeHistory
import SolarFlowEms.Http.DeviceClient
import SolarFlowEms.Mqtt.Confirmation

/-!
# A charge on the wire is on record

A charge command that was handed to a transport may reach the device whatever the transport
then reports.  From there the EMS owes the device a way out, until a report after an exit shows
the charge over or the record is released.  The HTTP client has every such charge on record.
The MQTT client has it on record unless its transport refused the command: one that is refused
is taken for one that never left.
-/

namespace SolarFlowEms

open PowerDirection Run Python ChargeRecord

namespace ChargeRecord

variable {record : ChargeRecord}

/-- The report comes after an exit and shows the charge over. -/
def endedBy (record : ChargeRecord) (report : DirectionReport) (setpointReported : Bool) : Bool :=
  record.exitSentAt.isSome && record.ends report setpointReported

/-- **Only a report that shows the charge over closes the record.** -/
theorem observe_isOpen (hopen : record.isOpen = true) {report : DirectionReport}
    {setpointReported : Bool} (hnot : record.endedBy report setpointReported = false) :
    (record.observe report setpointReported).isOpen = true := by
  obtain ⟨left, hobserved⟩ := record.observe_observed report setpointReported
  generalize record.observe report setpointReported = record' at hobserved
  cases hobserved with
  | closed hclosed => exact absurd (hopen.symm.trans hclosed) (by decide)
  | showing _ _ _ | waiting _ _ _ => exact hopen
  | ended _ hat hends =>
    rw [endedBy, hends, Bool.and_true, Option.isSome_eq_false_iff, Option.isNone_iff_eq_none] at hnot
    exact absurd hnot hat
  | counted _ _ _ =>
    rw [observeDrawnExit]
    split
    · exact hopen
    · exact hopen

theorem foundExitSent_isOpen (now : ℚ) : (record.foundExitSent now).isOpen = record.isOpen :=
  (record.foundExitSent_frame now).1

end ChargeRecord

/-! ### The HTTP client -/

namespace Http.HttpClient

open Mqtt.ClientState (ChargeExit directionReport)

variable {cfg : HttpConfig} {c : HttpClient}

/-- The client, and whether a charge it handed to the device is still to be taken back. -/
structure Owing where
  client : HttpClient
  owed : Bool

/-- The call hands a charge command to the transport. -/
def hands (cfg : HttpConfig) (c : HttpClient) : HttpCall → Bool
  | .dispatch targetW chargeExit now response =>
    targetW < 0 && (c.dispatchOutputLimit cfg targetW chargeExit now response).posted.isSome
  | _ => false

/-- The call releases the record, or reads a report that shows the charge over. -/
def settles (c : HttpClient) : HttpCall → Bool
  | .fetch (some report) =>
    c.charge.endedBy (directionReport report.snapshot) report.setpointReported
  | .releaseChargeRecord => true
  | _ => false

def Owing.step (cfg : HttpConfig) (w : Owing) (call : HttpCall) : Owing where
  client := (w.client.call cfg call).client
  owed := w.client.hands cfg call || (w.owed && !w.client.settles call)

def Owing.OnRecord (w : Owing) : Prop := w.owed = true → w.client.charge.isOpen = true

theorem chargeAfterExit_isOpen (targetW : ℤ) (held foundExit : Bool) (now : ℚ)
    (response : Response) :
    (c.chargeAfterExit targetW held foundExit now response).isOpen = c.charge.isOpen := by
  cases response with
  | raised => rfl
  | answered statusCode =>
    rw [chargeAfterExit]
    split
    · exact reductionSent_isOpen targetW
    · dsimp only
      split
      · rw [foundExitSent_isOpen, exitSent_isOpen]
      · exact exitSent_isOpen now _

theorem dispatchCharge_cases (cfg : HttpConfig) (c : HttpClient) (targetW : ℤ)
    (response : Response) :
    (c.dispatchCharge cfg targetW response).posted = none ∧
        (c.dispatchCharge cfg targetW response).client = c ∨
      (c.dispatchCharge cfg targetW response).client.charge = c.charge.chargeSent |targetW| := by
  rw [dispatchCharge.eq_def]
  split
  · exact .inl ⟨rfl, rfl⟩
  · split
    · exact .inl ⟨rfl, rfl⟩
    · split
      · exact .inl ⟨rfl, rfl⟩
      · exact .inr rfl

theorem dispatchOutputLimit_isOpen (hopen : c.charge.isOpen = true) (targetW : ℤ)
    (chargeExit : Option ChargeExit) (now : ℚ) (response : Response) :
    (c.dispatchOutputLimit cfg targetW chargeExit now response).client.charge.isOpen = true := by
  rw [dispatchOutputLimit]
  split_ifs
  · rcases dispatchCharge_cases cfg c targetW response with ⟨-, hsame⟩ | hsent
    · rw [hsame]
      exact hopen
    · rw [hsent]
      rfl
  · unfold dispatchExit
    extract_lets final foundExit held properties
    split
    · exact hopen
    · exact (chargeAfterExit_isOpen ..).trans hopen
  · exact hopen

/-- **A charge that is handed over is on record**, whatever becomes of its request. -/
theorem isOpen_of_hands {call : HttpCall} (h : c.hands cfg call = true) :
    (c.call cfg call).client.charge.isOpen = true := by
  cases call with
  | fetch report | releaseChargeRecord => cases h
  | dispatch targetW chargeExit now response =>
    rw [hands, Bool.and_eq_true, decide_eq_true_eq] at h
    obtain ⟨hneg, hposted⟩ := h
    rw [dispatchOutputLimit, if_pos hneg] at hposted
    show (c.dispatchOutputLimit cfg targetW chargeExit now response).client.charge.isOpen = true
    rw [dispatchOutputLimit, if_pos hneg]
    rcases dispatchCharge_cases cfg c targetW response with ⟨hnone, -⟩ | hsent
    · rw [hnone] at hposted
      cases hposted
    · rw [hsent]
      rfl

theorem Owing.OnRecord.step {w : Owing} (h : w.OnRecord) (call : HttpCall) :
    (w.step cfg call).OnRecord := by
  intro howed
  rcases Bool.or_eq_true_iff.mp howed with hhands | hstill
  · exact isOpen_of_hands hhands
  · obtain ⟨hwas, hnot⟩ := Bool.and_eq_true_iff.mp hstill
    have hopen := h hwas
    cases call with
    | dispatch targetW chargeExit now response =>
      exact dispatchOutputLimit_isOpen hopen targetW chargeExit now response
    | releaseChargeRecord => cases hnot
    | fetch report =>
      cases report with
      | none => exact hopen
      | some report => exact observe_isOpen hopen (Bool.not_eq_true' _ ▸ hnot)

theorem final_handed (hopen : c.charge.isOpen = true) (now : ℚ) (response : Response) :
    (c.dispatchOutputLimit cfg 0 (some .final) now response).posted =
      some (Mqtt.ClientConfig.zensdkExpectedProperties 0) := by
  rw [dispatchOutputLimit, if_neg (lt_irrefl 0), if_pos (.inl hopen)]
  simp [dispatchExit]

end Http.HttpClient

/-! ### The MQTT client -/

namespace Mqtt.ClientState

variable {cfg : ClientConfig} {s s' : ClientState}

/-- The client, and whether a charge it handed to its transport is still to be taken back. -/
structure Owing where
  client : ClientState
  owed : Bool

/-- The call hands a charge command to the transport. -/
def hands (cfg : ClientConfig) (s : ClientState) (call : Call) : Bool :=
  ((s.step cfg call).records.drop s.records.length).any (·.targetW < 0)

/-- The call releases the record, or reads a report that shows the charge over. -/
def settles (s : ClientState) : Call → Bool
  | .fetch _ (some snapshot) =>
    s.charge.endedBy (directionReport snapshot) (observableNumber snapshot.metrics "inputLimit").isSome
  | .releaseChargeRecord => true
  | _ => false

def Owing.step (cfg : ClientConfig) (w : Owing) (call : Call) : Owing where
  client := w.client.step cfg call
  owed := w.client.hands cfg call || (w.owed && !w.client.settles call)

def Owing.OnRecord (w : Owing) : Prop := w.owed = true → w.client.charge.isOpen = true

/-- The transport accepts the charge that the call may hand to it, or one is on record
already. -/
def AcceptsCharge (s : ClientState) : Call → Prop
  | .dispatch value _ _ transport =>
    transport.accepted = true ∨ s.charge.isOpen = true ∨ ∀ targetW ∈ value.int?, 0 ≤ targetW
  | .handleReply _ _ transport =>
    transport.accepted = true ∨ s.charge.isOpen = true ∨ ∀ pending ∈ s.pending, 0 ≤ pending.targetW
  | _ => True

/-- What a call did with one target: it handed nothing over, or one command for it. -/
inductive HandsOver (s : ClientState) (targetW : ℤ) (accepted : Bool) : ClientState → Prop where
  | nothing {s' : ClientState} (hlength : s'.records.length = s.records.length)
      (hcharge : s'.charge.isOpen = s.charge.isOpen) : HandsOver s targetW accepted s'
  | command {s' : ClientState} (before : List CommandRecord) (record : CommandRecord)
      (hlength : before.length = s.records.length) (hrecords : s'.records = before ++ [record])
      (htarget : record.targetW = targetW)
      (hcharge : s'.charge.isOpen = (s.charge.isOpen || (accepted && targetW < 0))) :
      HandsOver s targetW accepted s'

variable {targetW : ℤ} {accepted : Bool}

theorem HandsOver.of_eq {s₀ : ClientState} (h : HandsOver s targetW accepted s')
    (hlength : s.records.length = s₀.records.length)
    (hcharge : s.charge.isOpen = s₀.charge.isOpen) : HandsOver s₀ targetW accepted s' := by
  cases h with
  | nothing hlength' hcharge' => exact .nothing (hlength'.trans hlength) (hcharge'.trans hcharge)
  | command before record hlength' hrecords htarget hcharge' =>
    exact .command before record (hlength'.trans hlength) hrecords htarget (hcharge ▸ hcharge')

theorem HandsOver.isOpen (h : HandsOver s targetW accepted s') (hopen : s.charge.isOpen = true) :
    s'.charge.isOpen = true := by
  cases h with
  | nothing hlength hcharge => exact hcharge.trans hopen
  | command before record hlength hrecords htarget hcharge => rw [hcharge, hopen, Bool.true_or]

theorem HandsOver.onRecord (h : HandsOver s targetW accepted s')
    (haccepts : accepted = true ∨ s.charge.isOpen = true ∨ 0 ≤ targetW)
    (hhands : (s'.records.drop s.records.length).any (·.targetW < 0) = true) :
    s'.charge.isOpen = true := by
  cases h with
  | nothing hlength hcharge =>
    rw [← hlength, List.drop_length] at hhands
    cases hhands
  | command before record hlength hrecords htarget hcharge =>
    rw [hrecords, ← hlength, List.drop_left, List.any_cons, List.any_nil, Bool.or_false,
      htarget, decide_eq_true_eq] at hhands
    rw [hcharge]
    rcases haccepts with haccepted | hopen | hge
    · simp [haccepted, hhands]
    · rw [hopen, Bool.true_or]
    · omega

theorem chargeAfterPublish_isOpen (targetW : ℤ) (foundExit reduction : Bool) (now : ℚ) :
    (s.chargeAfterPublish targetW foundExit reduction now).isOpen =
      (s.charge.isOpen || decide (targetW < 0)) := by
  rw [chargeAfterPublish]
  split
  · next hneg => simp [chargeSent, hneg]
  · next hneg =>
    rw [decide_eq_false hneg, Bool.or_false]
    split
    · exact reductionSent_isOpen targetW
    · dsimp only
      split
      · rw [foundExitSent_isOpen, exitSent_isOpen]
      · exact exitSent_isOpen now _

theorem publishTarget_handsOver (targetW : ℤ) (now : ℚ) (correlationId : Option String)
    (foundExit reduction : Bool) (transport : Transport) :
    HandsOver s targetW transport.accepted
      (s.publishTarget cfg targetW now correlationId foundExit reduction transport).client := by
  obtain ⟨sequence, correlation, hcorrelation⟩ := s.correlationOrNext_eq correlationId
  rw [publishTarget, hcorrelation]
  dsimp only
  cases cfg.buildWrite targetW with
  | error error => exact .nothing rfl rfl
  | ok expectedProperties =>
    dsimp only
    cases haccepted : transport.accepted with
    | true =>
      rw [if_pos rfl]
      refine .command s.records _ rfl rfl (recordAfterPublish_targetW transport) ?_
      exact chargeAfterPublish_isOpen ..
    | false =>
      rw [if_neg (by decide)]
      refine .command s.records _ rfl rfl (recordAfterPublish_targetW transport) ?_
      exact (Bool.or_false _).symm

theorem supersedeActive_length (record : CommandRecord) (now : ℚ) :
    (s.supersedeActive record now).records.length = s.records.length := by
  show (s.putActive _).records.length = _
  rw [putActive]
  split
  · rfl
  · rw [List.length_set]

theorem expireActiveCommand_length (now : ℚ) :
    (s.expireActiveCommand cfg now).records.length = s.records.length :=
  (expireActiveCommand_settle cfg .cancelPending s now).length

theorem dispatchBehind_handsOver (record : CommandRecord) (targetW : ℤ)
    (chargeExit : Option ChargeExit) (now : ℚ) (transport : Transport) :
    HandsOver s targetW transport.accepted
      (s.dispatchBehind cfg record targetW chargeExit now transport).client := by
  have hsuperseded : ∀ foundExit reduction, HandsOver s targetW transport.accepted
      ((s.supersedeActive record now).publishTarget cfg targetW now none foundExit reduction
        transport).client := fun foundExit reduction =>
    (publishTarget_handsOver targetW now none foundExit reduction transport).of_eq
      (supersedeActive_length record now) (congrArg isOpen (supersedeActive_charge record now))
  unfold dispatchBehind
  extract_lets final foundExit held
  split_ifs
  · exact .nothing rfl rfl
  · exact .nothing rfl rfl
  · exact hsuperseded _ _
  · exact hsuperseded _ _
  · split
    · split
      · exact .nothing rfl rfl
      · exact .nothing rfl rfl
    · exact .nothing rfl rfl

theorem dispatchOutputLimit_handsOver (value : PyValue) (chargeExit : Option ChargeExit) (now : ℚ)
    (transport : Transport) :
    HandsOver s (value.int?.getD 0) transport.accepted
      (s.dispatchOutputLimit cfg value chargeExit now transport).client := by
  have hexpired : (s.expireActiveCommand cfg now).charge.isOpen = s.charge.isOpen :=
    congrArg isOpen (expireActiveCommand_settled cfg s now).charge
  refine HandsOver.of_eq ?_ (expireActiveCommand_length now) hexpired
  unfold dispatchOutputLimit
  extract_lets s₁
  cases value.int? with
  | none => exact .nothing rfl rfl
  | some targetW =>
    dsimp only
    cases cfg.precheckTarget targetW with
    | error error => exact .nothing rfl rfl
    | ok u =>
      dsimp only
      split
      · exact dispatchBehind_handsOver ..
      · unfold dispatchIdle
        extract_lets foundExit held correlationId
        split
        · exact .nothing rfl rfl
        · exact (publishTarget_handsOver targetW now correlationId foundExit held transport).of_eq
            rfl rfl

theorem flushPendingTarget_handsOver (now : ℚ) (transport : Transport) :
    HandsOver s ((s.pending.map (·.targetW)).getD 0) transport.accepted
      (s.flushPendingTarget cfg now transport).client := by
  rw [flushPendingTarget.eq_def]
  split
  · next pending hactive hpending =>
    rw [hpending]
    exact (publishTarget_handsOver pending.targetW now _ false false transport).of_eq rfl rfl
  · exact .nothing rfl rfl

theorem handleReply_handsOver (reply : Option (List (String × PyValue))) (now : ℚ)
    (transport : Transport) :
    HandsOver s ((s.pending.map (·.targetW)).getD 0) transport.accepted
      (s.handleReply cfg reply now transport).client := by
  have hput : ∀ record, (s.putActive record).records.length = s.records.length := by
    intro record
    rw [putActive]
    split
    · rfl
    · rw [List.length_set]
  have hcharge : ∀ record, (s.putActive record).charge.isOpen = s.charge.isOpen := fun record =>
    congrArg isOpen putActive_charge
  rw [handleReply.eq_def]
  split
  · split
    · exact .nothing rfl rfl
    · split
      · exact .nothing rfl rfl
      · extract_lets record' s'
        split
        · have hpending : s'.freeSlot.pending = s.pending := putActive_pending
          rw [← hpending]
          exact (flushPendingTarget_handsOver now transport).of_eq (hput record') (hcharge record')
        · exact .nothing (hput record') (hcharge record')
  · exact .nothing rfl rfl

theorem fetch_isOpen (hopen : s.charge.isOpen = true) {now : ℚ} {snapshot : Option Snapshot}
    (hnot : s.settles (.fetch now snapshot) = false) :
    (s.fetch cfg now snapshot).charge.isOpen = true := by
  cases snapshot with
  | none =>
    show (s.expireActiveCommand cfg now).charge.isOpen = true
    rw [(expireActiveCommand_settled cfg s now).charge]
    exact hopen
  | some snapshot =>
    rw [fetch]
    rw [(expireActiveCommand_settled cfg _ now).charge]
    show ((s.confirmFromSnapshot cfg snapshot now).charge.observe _ _).isOpen = true
    rw [(confirmFromSnapshot_settled cfg s snapshot now).charge]
    exact observe_isOpen hopen hnot

variable (cfg s) in
theorem fetch_length (now : ℚ) (snapshot : Option Snapshot) :
    (s.fetch cfg now snapshot).records.length = s.records.length := by
  cases snapshot with
  | none => exact expireActiveCommand_length now
  | some snapshot =>
    exact (expireActiveCommand_length now).trans
      (confirmFromSnapshot_settle cfg s snapshot now).length

/-- **One call that hands over no charge the transport refuses keeps what is owed on record.** -/
theorem Owing.OnRecord.step {w : Owing} (h : w.OnRecord) {call : Call}
    (haccepts : w.client.AcceptsCharge call) : (w.step cfg call).OnRecord := by
  intro howed
  have hhandsOver : ∀ {targetW accepted}, HandsOver w.client targetW accepted (w.client.step cfg call) →
      (accepted = true ∨ w.client.charge.isOpen = true ∨ 0 ≤ targetW) →
      w.client.settles call = false → (w.client.step cfg call).charge.isOpen = true := by
    intro targetW accepted hover haccepts hnot
    rcases Bool.or_eq_true_iff.mp howed with hhands | hstill
    · exact hover.onRecord haccepts hhands
    · exact hover.isOpen (h (Bool.and_eq_true_iff.mp hstill).1)
  cases call with
  | dispatch value chargeExit now transport =>
    refine hhandsOver (dispatchOutputLimit_handsOver value chargeExit now transport) ?_ rfl
    refine haccepts.imp_right fun hopen => hopen.imp_right fun hge => ?_
    cases hvalue : value.int? with
    | none => exact le_rfl
    | some targetW => exact hge targetW hvalue
  | handleReply payload now transport =>
    refine hhandsOver (handleReply_handsOver payload.dict? now transport) ?_ rfl
    refine haccepts.imp_right fun hopen => hopen.imp_right fun hge => ?_
    cases hpending : w.client.pending with
    | none => exact le_rfl
    | some pending => exact hge pending hpending
  | cancelPending =>
    have hover : HandsOver w.client 0 false (w.client.step cfg .cancelPending) := .nothing rfl rfl
    exact hhandsOver hover (.inr (.inr le_rfl)) rfl
  | releaseChargeRecord =>
    have hnone : w.client.hands cfg .releaseChargeRecord = false := by
      show ((w.client.records.drop w.client.records.length).any _) = false
      rw [List.drop_length]
      rfl
    rw [Owing.step, hnone] at howed
    simp [settles] at howed
  | fetch now snapshot =>
    have hnone : w.client.hands cfg (.fetch now snapshot) = false := by
      show (((w.client.fetch cfg now snapshot).records.drop w.client.records.length).any _) = false
      rw [← fetch_length cfg w.client now snapshot, List.drop_length]
      rfl
    rw [Owing.step, hnone, Bool.false_or, Bool.and_eq_true, Bool.not_eq_true'] at howed
    exact fetch_isOpen (h howed.1) howed.2

theorem publishTarget_appends {expectedProperties : List (String × ℤ)} {targetW : ℤ}
    (hbuild : cfg.buildWrite targetW = .ok expectedProperties) (now : ℚ)
    (correlationId : Option String) (foundExit reduction : Bool) (transport : Transport) :
    ∃ record : CommandRecord, record.targetW = targetW ∧
      (s.publishTarget cfg targetW now correlationId foundExit reduction transport).client.records =
        s.records ++ [record] := by
  obtain ⟨sequence, correlation, hcorrelation⟩ := s.correlationOrNext_eq correlationId
  rw [publishTarget, hcorrelation]
  dsimp only
  rw [hbuild]
  dsimp only
  split
  · exact ⟨_, recordAfterPublish_targetW transport, rfl⟩
  · exact ⟨_, recordAfterPublish_targetW transport, rfl⟩

/-- **A final exit is handed over at once**, whatever is in flight and whatever its window
says. -/
theorem final_handed {expectedProperties : List (String × ℤ)}
    (hbuild : cfg.buildWrite 0 = .ok expectedProperties) (s : ClientState) (now : ℚ)
    (transport : Transport) :
    ∃ before record, before.length = s.records.length ∧ record.targetW = 0 ∧
      (s.dispatchOutputLimit cfg (.int 0) (some .final) now transport).client.records =
        before ++ [record] := by
  have hpublished : ∀ s' : ClientState, s'.records.length = s.records.length →
      ∀ correlationId foundExit reduction, ∃ before record, before.length = s.records.length ∧
        record.targetW = 0 ∧
        (s'.publishTarget cfg 0 now correlationId foundExit reduction transport).client.records =
          before ++ [record] := by
    intro s' hlength correlationId foundExit reduction
    obtain ⟨record, htarget, hrecords⟩ :=
      publishTarget_appends hbuild now correlationId foundExit reduction transport
    exact ⟨s'.records, record, hlength, htarget, hrecords⟩
  have hcheck := cfg.precheckTarget_of_buildWrite hbuild
  have hexpired : (s.expireActiveCommand cfg now).records.length = s.records.length :=
    expireActiveCommand_length now
  unfold dispatchOutputLimit
  extract_lets s₁
  simp only [PyValue.int?_int, hcheck]
  split
  · next active _ =>
    simp only [dispatchBehind, decide_true, Bool.not_true, Bool.false_and, Bool.false_eq_true,
      if_false, not_true_eq_false, and_false, true_or, if_true]
    exact hpublished _ ((supersedeActive_length active now).trans hexpired) _ _ _
  · simp only [dispatchIdle, ne_eq, not_true_eq_false, decide_false, Bool.and_false, Bool.false_and,
      Bool.false_eq_true, if_false]
    exact hpublished s₁.discardPendingTarget hexpired _ _ _

end Mqtt.ClientState

/-! ### Both clients -/

/-- **What is owed is on record, at both clients.**  In every run of the HTTP client, and in every
run of the MQTT client whose transport accepts each charge command that is handed to it while
no charge is on record, the record is open from the handing over of a charge command until a
report after an exit shows the charge over or the record is released; and the final exit of a
charge on record is handed over at once. -/
theorem charge_on_record (http : Http.HttpConfig) (httpCalls : List Http.HttpCall) (mqtt : Mqtt.ClientConfig)
    (mqttCalls : List Mqtt.Call)
    (haccepts : EveryStep (Mqtt.ClientState.Owing.step mqtt)
      (fun w call => w.client.AcceptsCharge call) ⟨.new mqtt, false⟩ mqttCalls) :
    (run (Http.HttpClient.Owing.step http) ⟨.new, false⟩ httpCalls).OnRecord ∧
      (run (Mqtt.ClientState.Owing.step mqtt) ⟨.new mqtt, false⟩ mqttCalls).OnRecord ∧
      (∀ (c : Http.HttpClient) now response, c.charge.isOpen = true →
        (c.dispatchOutputLimit http 0 (some .final) now response).posted =
          some (Mqtt.ClientConfig.zensdkExpectedProperties 0)) ∧
      ∀ (s : Mqtt.ClientState) now transport expectedProperties,
        mqtt.buildWrite 0 = .ok expectedProperties →
        ∃ before record, before.length = s.records.length ∧ record.targetW = 0 ∧
          (s.dispatchOutputLimit mqtt (.int 0) (some .final) now transport).client.records =
            before ++ [record] := by
  refine ⟨?_, ?_, ?_, ?_⟩
  · exact run_invariant (fun _ call h _ => Http.HttpClient.Owing.OnRecord.step h call) nofun
      (everyStep_true _ _ _)
  · exact run_invariant (fun _ _ h haccepts => Mqtt.ClientState.Owing.OnRecord.step h haccepts) nofun
      haccepts
  · intro c now response hopen
    exact Http.HttpClient.final_handed hopen now response
  · intro s now transport expectedProperties hbuild
    exact Mqtt.ClientState.final_handed hbuild s now transport

/-- A charge is sent to a Hyper 2000 and its transport accepts it. -/
theorem charge_on_record_hyper2000 :
    (run (Mqtt.ClientState.Owing.step .hyper2000) ⟨.new .hyper2000, false⟩
      [.dispatch (.int (-300)) none 0 ⟨1, 0, true⟩]).OnRecord :=
  (charge_on_record ⟨fun _ => none⟩ [] .hyper2000 [.dispatch (.int (-300)) none 0 ⟨1, 0, true⟩]
    ⟨.inl rfl, trivial⟩).2.1

/-- **A charge that the transport refuses is not on record**, although it was handed over. -/
theorem refused_charge_not_on_record :
    ¬ (run (Mqtt.ClientState.Owing.step .hyper2000) ⟨.new .hyper2000, false⟩
      [.dispatch (.int (-300)) none 0 ⟨1, 0, false⟩]).OnRecord := by
  intro h
  have howed : (run (Mqtt.ClientState.Owing.step .hyper2000) ⟨.new .hyper2000, false⟩
      [.dispatch (.int (-300)) none 0 ⟨1, 0, false⟩]).owed = true := by
    decide
  have hclosed : (run (Mqtt.ClientState.Owing.step .hyper2000) ⟨.new .hyper2000, false⟩
      [.dispatch (.int (-300)) none 0 ⟨1, 0, false⟩]).client.charge.isOpen = false := by
    decide
  exact absurd ((h howed).symm.trans hclosed) (by decide)

end SolarFlowEms
