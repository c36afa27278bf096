import SolarFlowEms.Controller.Cycle

/-!
# Off is off, and a shut gate is shut

Some ten writers check switches and gates each on its own.  Here is what all of them keep to, over
every cycle and wherever it stops: nothing is handed over behind a shut gate, properties only with
control and the device on, and while either is off only the end of a charge that is on record.

The switch that the writers read is the one that the cycle noted after the meter; no write comes
before it.

* `PermittedAndNoted.liftAssist`, `keeps_endChargeOnDisable`, `keeps_regulate` - the writers
* `keeps_runOnce`, `keeps_runGuarded` - whole cycles, wherever they raise
* `off_is_off` - behind any run, whatever is handed over is permitted
-/

namespace SolarFlowEms.Controller

open Interrupted

variable {n : ℕ} {Text : Type}

/-! ### What may be handed over -/

/-- Control is on, and the device is. -/
def Settings.switchedOn (settings : Settings n) (i : Fin n) : Bool :=
  settings.enabled && (settings.device i).enabled

/-- One of the records shows a charge. -/
def OnRecord.any (onRecord : OnRecord) : Bool :=
  onRecord.emsCharge || onRecord.assistCharge || onRecord.foundExit

/-- The gate of the device is open; properties need the reconciliation gate and the switches as
well; off, only the end of a charge on record goes out. -/
structure Permitted (settings : Settings n) (handed : Handed n) : Prop where
  gate_open : settings.writeGateAllowed handed.device = true
  properties_on : ∀ values, handed.write = .properties values →
    settings.stateGateAllowed handed.device = true ∧ settings.switchedOn handed.device = true
  off : settings.switchedOn handed.device = false →
    (∃ chargeExit, handed.write = .target 0 chargeExit) ∧ handed.onRecord.any = true

/-- What a cycle notes before its claims. -/
structure Noted where
  controlEnabled : Option Bool
  gridMeterHolding : Bool
  chargeDirection : ChargeDirection.ChargeDirectionState
deriving DecidableEq

/-- What a memory holds of it. -/
def Memory.noted (m : Memory n) : Noted :=
  ⟨m.controlEnabled, m.gridMeterHolding, m.chargeDirection⟩

namespace World

/-- Everything handed over so far was permitted. -/
def AllPermitted (settings : Settings n) (w : World n Text) : Prop :=
  ∀ handed ∈ w.handed, Permitted settings handed

/-- What was noted stands, and the switch that the writers read is the one of the cycle. -/
structure PermittedAndNoted (settings : Settings n) (noted : Noted) (w : World n Text) : Prop where
  permitted : w.AllPermitted settings
  noted_eq : w.memory.noted = noted
  switch : noted.controlEnabled = some settings.enabled

variable {input : CycleInput n} {noted : Noted} {w : World n Text} {i : Fin n}

theorem AllPermitted.remember (h : w.AllPermitted input.settings) (f : Memory n → Memory n) :
    (w.remember f).AllPermitted input.settings := h

/-- A note that leaves what was noted leaves both. -/
theorem PermittedAndNoted.remember (h : w.PermittedAndNoted input.settings noted)
    {f : Memory n → Memory n} (hf : (f w.memory).noted = w.memory.noted) :
    (w.remember f).PermittedAndNoted input.settings noted :=
  ⟨h.permitted, hf.trans h.noted_eq, h.switch⟩

/-- The writers read the switch of the settings. -/
theorem PermittedAndNoted.controlEnabled (h : w.PermittedAndNoted input.settings noted) :
    w.memory.controlEnabled = some input.settings.enabled := by
  have henabled : w.memory.noted.controlEnabled = noted.controlEnabled := by rw [h.noted_eq]
  exact henabled.trans h.switch

/-- What is handed over has to be permitted as it is handed. -/
theorem AllPermitted.hand (h : w.AllPermitted input.settings) {moment : Moment} {write : Write}
    (hwrite : Permitted input.settings
      ⟨i, write, w.memory.onRecord input.settings (input.readings.view moment i) i⟩) :
    (w.hand input i moment write).AllPermitted input.settings := by
  intro handed hhanded
  rcases List.mem_cons.mp hhanded with rfl | hbefore
  · exact hwrite
  · exact h handed hbefore

/-- **A target goes out behind its gate**, and off only to end a charge on record. -/
theorem AllPermitted.setOutputLimit (h : w.AllPermitted input.settings) {moment : Moment}
    {value : ℚ} {chargeExit : Option Mqtt.ClientState.ChargeExit}
    (hoff : input.settings.switchedOn i = false → value = 0 ∧
      (w.memory.onRecord input.settings (input.readings.view moment i) i).any = true) :
    (w.setOutputLimit input i moment value chargeExit).1.AllPermitted input.settings := by
  unfold World.setOutputLimit
  split
  · exact h
  · rename_i hgate
    refine h.hand ⟨by simpa using hgate, ?_, ?_⟩
    · intro values hvalues
      cases hvalues
    · intro hswitched
      obtain ⟨rfl, hrecord⟩ := hoff hswitched
      exact ⟨⟨chargeExit, rfl⟩, hrecord⟩

/-- A target is handed over without a note. -/
theorem setOutputLimit_memory (moment : Moment) (value : ℚ)
    (chargeExit : Option Mqtt.ClientState.ChargeExit) :
    (w.setOutputLimit input i moment value chargeExit).1.memory = w.memory := by
  unfold World.setOutputLimit
  split <;> rfl

end World

/-! ### The switches and the gates that a reconciler asks for -/

variable {settings : Settings n}

/-- The gate of the properties is inside that of every write. -/
theorem Settings.writeGateAllowed_of_state {i : Fin n}
    (h : settings.stateGateAllowed i = true) : settings.writeGateAllowed i = true :=
  (Bool.and_eq_true_iff.mp h).1

/-- The switch of a device, read behind the note. -/
theorem controlSwitchedOff_eq {m : Memory n}
    (h : m.controlEnabled = some settings.enabled) (i : Fin n) :
    m.controlSwitchedOff settings i = !settings.switchedOn i := by
  unfold Memory.controlSwitchedOff Settings.switchedOn
  rw [h]
  cases settings.enabled <;> simp

/-- **Writes of properties are allowed** only through both gates, with both switches on. -/
theorem deviceStateWritesAllowed_eq {m : Memory n}
    (h : m.controlEnabled = some settings.enabled) (i : Fin n) :
    m.deviceStateWritesAllowed settings i =
      (settings.switchedOn i && settings.stateGateAllowed i) := by
  rw [Memory.deviceStateWritesAllowed, controlSwitchedOff_eq h, Bool.not_not]

/-- Properties that the device may be written are permitted. -/
theorem permitted_properties {m : Memory n}
    (h : m.controlEnabled = some settings.enabled) {i : Fin n}
    (hallowed : m.deviceStateWritesAllowed settings i = true) (values : List (String × ℤ))
    (onRecord : OnRecord) : Permitted settings ⟨i, .properties values, onRecord⟩ := by
  rw [deviceStateWritesAllowed_eq h] at hallowed
  obtain ⟨hon, hgate⟩ := Bool.and_eq_true_iff.mp hallowed
  refine ⟨settings.writeGateAllowed_of_state hgate, fun _ _ => ⟨hgate, hon⟩, ?_⟩
  intro hoff
  exact absurd (hoff.symm.trans hon) Bool.false_ne_true

namespace World

variable {input : CycleInput n} {noted : Noted} {w : World n Text} {i : Fin n}

/-- **A reconciler that keeps to its gate hands over what is permitted.** -/
theorem PermittedAndNoted.handProperties (h : w.PermittedAndNoted input.settings noted)
    {moment : Moment} {dev : ControlledDevice} {reconciled : Reconciled}
    (hgated : reconciled.Gated dev (w.memory.deviceStateWritesAllowed input.settings i)) :
    (w.handProperties input i moment reconciled).PermittedAndNoted input.settings noted := by
  unfold World.handProperties
  split
  · exact h
  · rename_i values hvalues
    have hallowed := (hgated (by rw [hvalues]; exact Option.some_ne_none values)).2
    exact ⟨h.permitted.hand (permitted_properties h.controlEnabled hallowed values _), h.noted_eq,
      h.switch⟩

end World

/-! ### The assist -/

/-- What the assist handed over since this log was let through. -/
def GatedSince (log : List (AssistEvent Text)) (allowed : Bool) (a : AssistWorld Text) : Prop :=
  ∃ events, a.log = events ++ log ∧
    ∀ event ∈ events, AssistEvents.handed event ≠ none → allowed = true

namespace GatedSince

variable {log : List (AssistEvent Text)} {allowed : Bool} {a : AssistWorld Text}

theorem refl (a : AssistWorld Text) (allowed : Bool) : GatedSince a.log allowed a := by
  refine ⟨[], rfl, ?_⟩
  intro event hevent
  cases hevent

/-- An event that hands something over has to be let through. -/
theorem cons (h : GatedSince log allowed a) {event : AssistEvent Text} {a' : AssistWorld Text}
    (hlog : a'.log = event :: a.log)
    (hevent : AssistEvents.handed event ≠ none → allowed = true) : GatedSince log allowed a' := by
  obtain ⟨events, heq, hgated⟩ := h
  refine ⟨event :: events, by rw [hlog, heq, List.cons_append], ?_⟩
  intro other hother
  rcases List.mem_cons.mp hother with rfl | hbefore
  · exact hevent
  · exact hgated other hbefore

theorem note [DecidableEq Text] (h : GatedSince log allowed a) (texts : TimeTexts Text)
    (device : String) (now : DateTime) (entry : AssistNote Text) :
    GatedSince log allowed (a.note texts device now entry) :=
  h.cons rfl fun hnone => absurd rfl hnone

theorem did (h : GatedSince log allowed a) {event : AssistEvent Text}
    (hevent : AssistEvents.handed event ≠ none → allowed = true) :
    GatedSince log allowed (a.did event) := h.cons rfl hevent

end GatedSince

end SolarFlowEms.Controller

namespace SolarFlowEms.AssistVisit

open Controller Interrupted Steps

variable {Text : Type} {log : List (AssistEvent Text)} [DecidableEq Text] (texts : TimeTexts Text)
  (v : AssistVisit)

theorem gated_noteIf (p : AssistWorld Text → Bool) (entry : AssistWorld Text → AssistNote Text) :
    Keeps (GatedSince log v.writesAllowed) fun w =>
      if p w then [w.note texts v.dev.name v.now (entry w)] else [] := by
  intro w hw w' hw'
  dsimp only at hw'
  split at hw'
  · obtain rfl := List.mem_singleton.mp hw'
    exact hw.note texts v.dev.name v.now (entry w)
  · cases hw'

/-- A maximum is requested behind the gate only. -/
theorem gated_requestMaxSoc (desiredMaxSoc : ℤ) (answer : PropertyAnswer)
    (entry : AssistNote Text) :
    Keeps (GatedSince log v.writesAllowed)
      (v.requestMaxSoc texts desiredMaxSoc answer entry) := by
  intro w hw w' hw'
  have hdid : GatedSince log v.writesAllowed (w.did (.socLimits v.dev v.report desiredMaxSoc
      (applySocLimits v.dev v.writesAllowed v.report answer (some minSocUnmanaged)
        (some desiredMaxSoc)))) := hw.did fun h => (applySocLimits_gated _ _ h).2
  unfold AssistVisit.requestMaxSoc at hw'
  dsimp only at hw'
  split at hw'
  · rcases List.mem_cons.mp hw' with rfl | hnoted
    · exact hdid
    · obtain rfl := List.mem_singleton.mp hnoted
      exact hdid.note texts v.dev.name v.now entry
  · obtain rfl := List.mem_singleton.mp hw'
    exact hdid

/-- So is every write of an assist that goes on. -/
theorem gated_advance : Keeps (GatedSince log v.writesAllowed) (v.advance texts) := by
  have hrestore : Keeps (GatedSince log v.writesAllowed) (v.restore texts) := by
    intro w hw w' hw'
    unfold AssistVisit.restore at hw'
    split at hw'
    · exact v.gated_requestMaxSoc texts _ _ _ w hw w' hw'
    · cases hw'
  have hstart : Keeps (GatedSince log v.writesAllowed) (v.start texts) := by
    intro w hw w' hw'
    unfold AssistVisit.start at hw'
    split at hw'
    · refine Keeps.andThen (keeps_once ?_) (v.gated_requestMaxSoc texts _ _ _) w hw w' hw'
      intro a ha
      exact ha.note texts _ _ _
    · cases hw'
  intro w hw w' hw'
  unfold AssistVisit.advance at hw'
  split at hw'
  · exact v.gated_requestMaxSoc texts _ _ _ w hw w' hw'
  · exact hrestore.andThen hstart w hw w' hw'

variable (log) in
/-- **The assist's visit hands nothing over behind a shut gate.** -/
theorem gated_processBatteryFullChargeAssist :
    Keeps (GatedSince log v.writesAllowed) (v.processBatteryFullChargeAssist texts) := by
  have hrecord : Keeps (GatedSince log v.writesAllowed)
      (Steps.once (v.recordObservation texts)) := keeps_once fun a ha => ha
  have hseed : Keeps (GatedSince log v.writesAllowed) (v.seedOrAdvance texts) := by
    intro w hw w' hw'
    unfold AssistVisit.seedOrAdvance at hw'
    split at hw'
    · obtain rfl := List.mem_singleton.mp hw'
      exact hw.note texts _ _ _
    · exact v.gated_advance texts w hw w' hw'
  refine hrecord.andThen ?_
  intro w hw w' hw'
  dsimp only at hw'
  split at hw'
  · cases hw'
  · exact ((v.gated_noteIf texts _ _).andThen ((v.gated_noteIf texts _ _).andThen hseed)) w hw w' hw'

variable (log) in
/-- An `acMode` is written as it was reconciled, behind the gate. -/
theorem gated_reconcileAcMode :
    Keeps (GatedSince log v.writesAllowed)
      ((Steps.once fun a => a.did (.acMode v.toDeviceVisit v.reconciledAcMode)).andThen
        (Steps.once (v.updateAcPending texts v.reconciledAcMode.ok))) := by
  refine Keeps.andThen (keeps_once ?_) (keeps_once ?_)
  · intro a ha
    exact ha.did fun h => (reconcileAcModeIntent_gated h).2
  · intro a ha
    unfold AssistVisit.updateAcPending
    split
    · exact ha
    · dsimp only
      split
      · exact ha.note texts _ _ _
      · exact ha

variable (log) in
theorem gated_confirmAcRestore :
    Keeps (GatedSince log v.writesAllowed) (v.confirmAcRestore texts) :=
  v.gated_noteIf texts _ _

end SolarFlowEms.AssistVisit

namespace SolarFlowEms.Controller

open Interrupted Steps

variable {n : ℕ} {Text : Type}

/-! ### What leaves the switch alone -/

namespace Memory

variable (m : Memory n) (i : Fin n)

/-- Settling an exit that was found notes no switch. -/
@[simp] theorem settleFoundAcInputExit_noted (view : TransportView)
    (report : FetchedReport) :
    (m.settleFoundAcInputExit i view report).noted = m.noted := by
  unfold settleFoundAcInputExit
  split_ifs <;> rfl

@[simp] theorem noteAcInputProvenance_noted
    (uncommanded intent : Option DeviceRuntimeIntent) :
    (m.noteAcInputProvenance i uncommanded intent).noted = m.noted := by
  unfold noteAcInputProvenance
  dsimp only
  split
  · rfl
  · split_ifs <;> rfl

/-- Nor does what a report shows of a charge. -/
@[simp] theorem observeFullChargeAssistCharge_noted (report : FetchedReport) :
    (m.observeFullChargeAssistCharge i report).noted = m.noted := by
  unfold observeFullChargeAssistCharge
  split <;> rfl

@[simp] theorem releaseFullChargeAssistCharge_noted :
    (m.releaseFullChargeAssistCharge i).noted = m.noted := by
  unfold releaseFullChargeAssistCharge
  split <;> rfl

@[simp] theorem readFullChargeAssistCharge_noted (now : ℚ) (report : FetchedReport) :
    (m.readFullChargeAssistCharge i now report).noted = m.noted := by
  unfold readFullChargeAssistCharge
  dsimp only
  split
  · simp
  · split_ifs <;> simp

@[simp] theorem noteFullChargeAssistExit_noted (now : ℚ) (answer : TargetAnswer) :
    (m.noteFullChargeAssistExit i now answer).noted = m.noted := by
  unfold noteFullChargeAssistExit
  split
  · rfl
  · split <;> rfl

@[simp] theorem noteUnprovenChargeExit_noted (targetW : ℚ) (answer : TargetAnswer) :
    (m.noteUnprovenChargeExit i targetW answer).noted = m.noted := by
  unfold noteUnprovenChargeExit
  split <;> rfl

end Memory

/-! ### Claims and reconcilers -/

namespace World

variable {input : CycleInput n} {noted : Noted} {w : World n Text} {i : Fin n}

/-- **Behind the gate the assist writes what is permitted**, and notes no switch. -/
theorem PermittedAndNoted.liftAssist (hw : w.PermittedAndNoted input.settings noted) {allowed : Bool}
    (hallowed : allowed = true → w.memory.deviceStateWritesAllowed input.settings i = true)
    {steps : Steps (AssistWorld Text)} (h : Keeps (GatedSince w.assist.log allowed) steps)
    (moment : Moment) :
    ∀ w' ∈ World.liftAssist input i moment steps w, w'.PermittedAndNoted input.settings noted := by
  intro w' hw'
  obtain ⟨a, ha, rfl⟩ := List.mem_map.mp hw'
  obtain ⟨events, hlog, hgated⟩ := h w.assist (GatedSince.refl _ _) a ha
  have hnew : a.log.take (a.log.length - w.assist.log.length) = events := by
    rw [hlog, List.length_append, Nat.add_sub_cancel_right, List.take_left']
    rfl
  refine ⟨?_, hw.noted_eq, hw.switch⟩
  intro handed hhanded
  rcases List.mem_append.mp hhanded with hnow | hbefore
  · obtain ⟨values, hvalues, rfl⟩ := List.mem_map.mp hnow
    rw [hnew] at hvalues
    obtain ⟨event, hevent, hevents⟩ := List.mem_filterMap.mp hvalues
    have hopen := hallowed (hgated event hevent (by rw [hevents]; exact Option.some_ne_none values))
    exact permitted_properties hw.controlEnabled hopen values _
  · exact hw.permitted handed hbefore

theorem PermittedAndNoted.claim (hw : w.PermittedAndNoted input.settings noted)
    (report : FetchedReport) : (World.claim input i report w).PermittedAndNoted input.settings noted := by
  unfold World.claim
  refine (hw.remember ?_).remember ?_
  · exact Memory.settleFoundAcInputExit_noted _ _ _ _
  · exact Memory.noteAcInputProvenance_noted _ _ _ _

theorem PermittedAndNoted.observeRestore (hw : w.PermittedAndNoted input.settings noted)
    (report : FetchedReport) :
    (World.observeRestore input i report w).PermittedAndNoted input.settings noted := by
  unfold World.observeRestore
  split
  · exact hw.remember (Memory.observeFullChargeAssistCharge_noted _ _ _)
  · exact hw

variable [DecidableEq Text] (texts : TimeTexts Text)

theorem keeps_processFullChargeAssist (transition : FeatureTransition) (i : Fin n) :
    Keeps (PermittedAndNoted input.settings noted) (processFullChargeAssist input texts transition i) := by
  unfold processFullChargeAssist
  split
  · exact keeps_skip
  · rename_i report _
    intro w hw
    have hvisit := (w.assistVisit input i transition report.toDeviceReport
      (w.intentOf input i)).gated_processBatteryFullChargeAssist w.assist.log texts
    exact hw.liftAssist id hvisit .claims

theorem keeps_confirmFullChargeAssistAcRestore (report : FetchedReport)
    (transition : FeatureTransition) (i : Fin n) :
    Keeps (PermittedAndNoted input.settings noted)
      (confirmFullChargeAssistAcRestore input texts i report transition) := by
  intro w hw w' hw'
  unfold confirmFullChargeAssistAcRestore at hw'
  extract_lets visit left w₁ at hw'
  have hw₁ : w₁.PermittedAndNoted input.settings noted := by
    show (if left then _ else _ : World n Text).PermittedAndNoted input.settings noted
    split
    · exact hw.remember (Memory.releaseFullChargeAssistCharge_noted _ _)
    · exact hw
  rcases List.mem_cons.mp hw' with rfl | hlifted
  · exact hw₁
  · refine hw₁.liftAssist ?_ (visit.gated_confirmAcRestore w₁.assist.log texts) .confirm w' hlifted
    intro hallowed
    rw [deviceStateWritesAllowed_eq hw₁.controlEnabled,
      ← deviceStateWritesAllowed_eq hw.controlEnabled]
    exact hallowed

/-- A device is claimed with the writes of its assist. -/
theorem keeps_claimDevice (transition : FeatureTransition)
    (previous : Fin n → Option DeviceRuntimeIntent) (i : Fin n) :
    Keeps (PermittedAndNoted input.settings noted)
      (claimDevice input texts transition previous i) := by
  unfold claimDevice
  split
  · exact keeps_once fun w hw => hw.remember rfl
  · rename_i report _
    have hclaim : Keeps (@PermittedAndNoted n Text input.settings noted)
        (Steps.once (World.claim input i report)) :=
      keeps_once fun w hw => hw.claim report
    have hmode : Keeps (PermittedAndNoted input.settings noted)
        (reconcileAcModeIntent input texts i report transition) := by
      intro w hw
      have hvisit := (w.assistVisit input i transition report.toDeviceReport
        (w.intentOf input i)).gated_reconcileAcMode w.assist.log texts
      exact hw.liftAssist id hvisit .claims
    have hobserve : Keeps (@PermittedAndNoted n Text input.settings noted)
        (Steps.once (World.observeRestore input i report)) :=
      keeps_once fun w hw => hw.observeRestore report
    have hpower : Keeps (@PermittedAndNoted n Text input.settings noted)
        (Steps.once (reconcileAcChargePower input i report)) :=
      keeps_once fun w hw => hw.handProperties reconcileRuntimeAcChargePower_gated
    exact hclaim.andThen (hmode.andThen (hobserve.andThen
      ((keeps_confirmFullChargeAssistAcRestore texts report transition i).andThen hpower)))

omit [DecidableEq Text] in
/-- A state that is reconciled is gated as a whole. -/
theorem keeps_reconcileDeviceStateLimits (i : Fin n) :
    Keeps (@PermittedAndNoted n Text input.settings noted) (reconcileDeviceStateLimits input i) := by
  unfold reconcileDeviceStateLimits
  split
  · exact keeps_skip
  · refine Keeps.andThen (keeps_once ?_) (keeps_once ?_)
    · intro w hw
      exact hw.handProperties (applySocLimits_gated _ _)
    · intro w hw
      exact hw.handProperties (applyDeviceModes_gated _)

omit [DecidableEq Text] in
theorem keeps_reconcileSocLimits :
    Keeps (@PermittedAndNoted n Text input.settings noted) (reconcileSocLimits input) := by
  intro w hw w' hw'
  have hcounted : (w.countSocReconcile input).1.PermittedAndNoted input.settings noted := by
    unfold countSocReconcile
    split_ifs
    · dsimp only
      refine hw.remember ?_
      rfl
    · dsimp only
      refine hw.remember ?_
      rfl
    · exact hw
  unfold reconcileSocLimits at hw'
  rcases List.mem_cons.mp hw' with rfl | hreconciled
  · exact hcounted
  · split at hreconciled
    · exact Keeps.forEach keeps_reconcileDeviceStateLimits _ _ hcounted w' hreconciled
    · cases hreconciled

omit [DecidableEq Text] in
/-- The modes of a device are handed over behind its gate. -/
theorem keeps_applyRuntimeDevice (i : Fin n) :
    Keeps (@PermittedAndNoted n Text input.settings noted) (applyRuntimeDevice input i) := by
  unfold applyRuntimeDevice
  split
  · exact keeps_skip
  · refine Keeps.andThen (keeps_once ?_) (Keeps.forEach ?_ _)
    · intro w hw
      exact hw.handProperties (applyRuntimeDeviceState_gated _)
    · intro changes
      refine keeps_once ?_
      intro w hw
      have hgated : (if (input.settings.device i).dev.supportsStateReconciliation then
          handOver (w.memory.deviceStateWritesAllowed input.settings i)
            (changes.map fun change => (change.1.name, change.2)) true
          else .nothing true).Gated (input.settings.device i).dev
            (w.memory.deviceStateWritesAllowed input.settings i) := by
        split
        · rename_i hsupported
          exact gated_handOver (by simpa using hsupported) _ _
        · exact Reconciled.gated_nothing true
      exact hw.handProperties hgated

end World

/-! ### The ends of charges -/

/-- An exit is due for a record that is open. -/
theorem isOpen_of_exitDue {record : ChargeRecord} {now : ℚ} (h : record.exitDue now = true) :
    record.isOpen = true := by
  unfold ChargeRecord.exitDue at h
  cases hopen : record.isOpen with
  | true => rfl
  | false => simp [hopen] at h

namespace World

variable {input : CycleInput n} {noted : Noted} {w : World n Text} {i : Fin n}

/-- A charge that ends hands over its exit, which is on record. -/
theorem PermittedAndNoted.holdFullChargeAssistCharge (hw : w.PermittedAndNoted input.settings noted)
    (now : ℚ) :
    (w.holdFullChargeAssistCharge input i now).1.PermittedAndNoted input.settings noted := by
  unfold World.holdFullChargeAssistCharge
  dsimp only
  split
  · exact hw
  · split
    · split
      · dsimp only
        refine hw.remember ?_
        exact Memory.releaseFullChargeAssistCharge_noted _ _
      · exact hw
    · split
      · dsimp only
        refine hw.remember ?_
        rfl
      · split
        · dsimp only
          refine hw.remember ?_
          rfl
        · split
          · dsimp only
            refine hw.remember ?_
            rfl
          · dsimp only
            refine hw.remember ?_
            rfl

theorem PermittedAndNoted.readChargeRecord (hw : w.PermittedAndNoted input.settings noted) :
    (w.readChargeRecord input i).PermittedAndNoted input.settings noted := by
  unfold World.readChargeRecord
  split
  · exact hw
  · exact hw.remember (Memory.readFullChargeAssistCharge_noted _ _ _ _)

theorem PermittedAndNoted.fullChargeAssistExitDue (hw : w.PermittedAndNoted input.settings noted) :
    (w.fullChargeAssistExitDue input i).1.PermittedAndNoted input.settings noted := by
  unfold World.fullChargeAssistExitDue
  dsimp only
  split_ifs
  · exact hw
  · exact hw.readChargeRecord.holdFullChargeAssistCharge _
  · exact hw.readChargeRecord

/-- An exit that is due is one of a charge held. -/
theorem fullChargeAssistChargeHeld_of_due (hdue : w.chargeRecordExitDue input i = true) :
    w.memory.fullChargeAssistChargeHeld i = true := by
  unfold chargeRecordExitDue at hdue
  unfold Memory.fullChargeAssistChargeHeld
  cases hcharge : w.memory.fullChargeAssistCharges i with
  | none => simp [hcharge] at hdue
  | some charge =>
    rw [hcharge] at hdue
    dsimp only at hdue ⊢
    obtain ⟨hexits, hopen⟩ := Bool.and_eq_true_iff.mp hdue
    rw [isOpen_of_exitDue hopen, (Bool.and_eq_true_iff.mp hexits).2]
    rfl

/-- **With the device off an exit is due for a charge on record** alone. -/
theorem held_of_fullChargeAssistExitDue (hw : w.PermittedAndNoted input.settings noted)
    (hdue : (w.fullChargeAssistExitDue input i).2 = true)
    (hoff : input.settings.switchedOn i = false) :
    (w.fullChargeAssistExitDue input i).1.memory.fullChargeAssistChargeHeld i = true := by
  have hswitched : (w.readChargeRecord input i).memory.controlSwitchedOff input.settings i =
      true := by
    rw [controlSwitchedOff_eq (PermittedAndNoted.readChargeRecord hw).controlEnabled, hoff]
    rfl
  have hexit : w.fullChargeAssistExitDue input i =
      if !(input.settings.device i).dev.supportsStateReconciliation then (w, false)
      else (w.readChargeRecord input i, (w.readChargeRecord input i).chargeRecordExitDue input i) := by
    unfold World.fullChargeAssistExitDue
    dsimp only
    rw [hswitched]
    rfl
  rw [hexit] at hdue ⊢
  split at hdue
  · cases hdue
  · rename_i hsupported
    rw [if_neg hsupported]
    exact fullChargeAssistChargeHeld_of_due hdue

variable {moment : Moment} {value : ℚ} {chargeExit : Option Mqtt.ClientState.ChargeExit}
  {view : TransportView}

theorem PermittedAndNoted.setOutputLimit (hw : w.PermittedAndNoted input.settings noted)
    (hoff : input.settings.switchedOn i = false → value = 0 ∧
      (w.memory.onRecord input.settings (input.readings.view moment i) i).any = true) :
    (w.setOutputLimit input i moment value chargeExit).1.PermittedAndNoted input.settings noted := by
  refine ⟨hw.permitted.setOutputLimit hoff, ?_, hw.switch⟩
  rw [setOutputLimit_memory]
  exact hw.noted_eq

/-- A charge commanded and an exit without proof are on record. -/
theorem any_onRecord {settings : Settings n} {m : Memory n}
    (h : view.chargeCommanded = true ∨ (m.unprovenChargeExit i).isSome = true) :
    (m.onRecord settings view i).any = true := by
  unfold OnRecord.any Memory.onRecord Memory.chargeCommandedByEms
  rcases h with hcommanded | hfound
  · simp [hcommanded]
  · simp [hfound]

theorem onRecord_of_not_skipped (h : ¬(!view.chargeCommanded && chargeExit.isNone) = true) :
    view.chargeCommanded = true ∨ chargeExit.isSome = true := by
  cases hcommanded : view.chargeCommanded with
  | true => exact .inl rfl
  | false =>
    cases chargeExit with
    | none => simp [hcommanded] at h
    | some exit => exact .inr rfl

/-- The end of a charge on record is permitted with the device off. -/
theorem PermittedAndNoted.endChargeOnRecord (hw : w.PermittedAndNoted input.settings noted) :
    (w.endChargeOnRecord input i).PermittedAndNoted input.settings noted := by
  unfold World.endChargeOnRecord
  dsimp only
  split
  · exact hw
  · rename_i hrecord
    split_ifs
    · exact hw
    · exact hw
    · exact hw
    · refine PermittedAndNoted.remember (hw.setOutputLimit ?_) (by simp)
      intro _
      exact ⟨rfl, any_onRecord (onRecord_of_not_skipped hrecord)⟩

/-- **A device that is off is sent the end of its charge**, and no more. -/
theorem keeps_endChargeOnDisable (i : Fin n) :
    Keeps (@PermittedAndNoted n Text input.settings noted) (endChargeOnDisable input i) := by
  intro w hw w' hw'
  have hdue : (w.fullChargeAssistExitDue input i).1.PermittedAndNoted input.settings noted :=
    hw.fullChargeAssistExitDue
  unfold endChargeOnDisable at hw'
  rcases List.mem_cons.mp hw' with rfl | hended
  · exact hdue
  · obtain rfl := List.mem_singleton.mp hended
    split
    · rename_i hexit
      unfold endFullChargeAssistCharge
      refine PermittedAndNoted.remember (hdue.setOutputLimit ?_) (by simp)
      intro hoff
      refine ⟨rfl, ?_⟩
      rw [OnRecord.any, Memory.onRecord, held_of_fullChargeAssistExitDue hw hexit hoff]
      simp
    · exact hdue.endChargeOnRecord

/-! ### The releases -/

theorem keeps_releaseChargingDevice (afterFailedCycles : Bool) (i : Fin n) :
    Keeps (@AllPermitted n Text input.settings)
      (Steps.once (releaseChargingDevice input afterFailedCycles i)) := by
  refine keeps_once ?_
  intro w hw
  unfold releaseChargingDevice
  dsimp only
  split
  · exact hw
  · rename_i hheld
    split
    · exact hw
    · refine AllPermitted.remember (hw.setOutputLimit ?_) _
      intro _
      refine ⟨rfl, ?_⟩
      unfold OnRecord.any Memory.onRecord
      cases hcharge : w.memory.chargeCommandedByEms input.settings
          (input.readings.view .release i) i with
      | true => rfl
      | false => simp_all

/-- The release sends zeros to charges on record. -/
theorem keeps_releaseChargingDevices (afterFailedCycles : Bool) :
    Keeps (@AllPermitted n Text input.settings)
      (releaseChargingDevices input afterFailedCycles) :=
  (Keeps.forEach (keeps_releaseChargingDevice afterFailedCycles) _).andThen
    (keeps_once fun _ hw => hw.remember _)

/-! ### The night idle and the targets -/

/-- A device that may be commanded is on. -/
theorem switchedOn_of_commandable (henabled : input.settings.enabled = true)
    (h : w.memory.deviceCommandable input.settings i = true) :
    input.settings.switchedOn i = true := by
  have hactive := (Bool.and_eq_true_iff.mp h).1
  rw [Settings.switchedOn, henabled, (Bool.and_eq_true_iff.mp hactive).2]
  rfl

/-- A device that may be commanded may be sent any target. -/
theorem AllPermitted.setTarget (hw : w.AllPermitted input.settings)
    (henabled : input.settings.enabled = true)
    (hcommandable : w.memory.deviceCommandable input.settings i = true)
    :
    (w.setOutputLimit input i moment value chargeExit).1.AllPermitted input.settings := by
  refine hw.setOutputLimit ?_
  intro hoff
  rw [switchedOn_of_commandable henabled hcommandable] at hoff
  cases hoff

/-- A device is parked for the night with control on only. -/
theorem keeps_nightIdle (henabled : input.settings.enabled = true) :
    Keeps (@AllPermitted n Text input.settings) (nightIdle input) := by
  refine Keeps.andThen (keeps_once fun w hw => hw.remember _) (Keeps.andThen ?_ ?_)
  · refine Keeps.forEach (fun i => keeps_once ?_) _
    intro w hw
    unfold endChargeTheNightIdleDoesNotPark
    dsimp only
    split
    · exact hw
    · rename_i hcommandable
      split_ifs
      · exact hw
      · exact hw
      · refine AllPermitted.remember (hw.setTarget henabled ?_) _
        simp only [Bool.or_eq_true, not_or, Bool.not_eq_true', Bool.not_eq_false] at hcommandable
        exact hcommandable.2
  · refine Keeps.forEach (fun i => keeps_once ?_) _
    intro w hw
    unfold applyNightMinSocIdleControl
    dsimp only
    split
    · exact hw
    · rename_i hsupplies
      have hmay : w.memory.deviceMaySupply input.settings i = true := by simpa using hsupplies
      have hcommandable := (Bool.and_eq_true_iff.mp hmay).1
      split_ifs
      · exact hw
      · exact hw
      · exact hw.remember _
      · exact AllPermitted.remember (AllPermitted.remember (hw.setTarget henabled hcommandable) _) _
      · exact AllPermitted.remember (hw.setTarget henabled hcommandable) _

/-- A target is applied to a device that may be commanded. -/
theorem keeps_applyTarget (target : Fin n → ℚ) (i : Fin n) :
    Keeps (@AllPermitted n Text input.settings) (Steps.once (applyTarget input target i)) := by
  refine keeps_once ?_
  intro w hw
  unfold applyTarget
  dsimp only
  split
  · exact hw
  · rename_i hskip
    simp only [Bool.or_eq_true, not_or, Bool.not_eq_true', Bool.not_eq_false] at hskip
    split
    · exact hw
    · exact AllPermitted.remember (hw.setTarget hskip.1 hskip.2) _

theorem handed_settleTotal (w : World n Text) : (w.settleTotal input).1.handed = w.handed := by
  unfold settleTotal stabilizedTotalTarget
  cases w.memory.gridMeterHolding <;> cases w.memory.commandedTotalW <;> rfl

theorem handed_dischargeTotalLeavingACharge (w : World n Text) (total : ℚ) :
    (w.dischargeTotalLeavingACharge input total).1.handed = w.handed := by
  unfold dischargeTotalLeavingACharge
  split
  · rfl
  · dsimp only
    split
    · rfl
    · rfl

/-- Deciding the total hands nothing over. -/
theorem handed_decideTotal (w : World n Text) : (w.decideTotal input).1.handed = w.handed := by
  unfold decideTotal
  dsimp only
  split
  · exact handed_settleTotal w
  · exact (handed_dischargeTotalLeavingACharge _ _).trans (handed_settleTotal w)

theorem handed_endNightIdle (w : World n Text) : w.endNightIdle.handed = w.handed := by
  unfold endNightIdle
  split <;> rfl

theorem handed_updateNightMinSocIdleState (w : World n Text) :
    (w.updateNightMinSocIdleState input).1.handed = w.handed ∧
      ((w.updateNightMinSocIdleState input).2 = true → input.settings.enabled = true) := by
  unfold updateNightMinSocIdleState
  dsimp only
  split
  · exact ⟨rfl, fun hidle => absurd hidle Bool.false_ne_true⟩
  · rename_i hcontrol
    have henabled : input.settings.enabled = true := by
      cases henabled : input.settings.enabled with
      | true => rfl
      | false => simp [henabled] at hcontrol
    refine ⟨?_, fun _ => henabled⟩
    split_ifs
    · rfl
    · exact handed_endNightIdle w
    · rfl
    · exact handed_endNightIdle w

/-- **The regulation hands over what is permitted**, and nothing with control off. -/
theorem keeps_regulate : Keeps (@AllPermitted n Text input.settings) (regulate input) := by
  intro w hw w' hw'
  obtain ⟨hhanded, henabled⟩ := @handed_updateNightMinSocIdleState n Text input w
  have hidle : (w.updateNightMinSocIdleState input).1.AllPermitted input.settings := by
    rw [AllPermitted, hhanded]
    exact hw
  rcases List.mem_cons.mp hw' with rfl | hafter
  · exact hidle
  · split at hafter
    · rename_i hidles
      exact keeps_nightIdle (henabled hidles) _ hidle w' hafter
    · have hdecided : ((w.updateNightMinSocIdleState input).1.decideTotal input).1.AllPermitted
          input.settings := by
        rw [AllPermitted, handed_decideTotal]
        exact hidle
      rcases List.mem_cons.mp hafter with rfl | hramped
      · exact hdecided
      · have hcommanded := hdecided.remember fun m =>
          { m with
            commandedDeviceTargets := DeviceRamp.step m.commandedDeviceTargets (.controlCycle
              (((w.updateNightMinSocIdleState input).1.decideTotal input).1.rampCycle input
                (((w.updateNightMinSocIdleState input).1.decideTotal input).1.allocatedTargets input
                  ((w.updateNightMinSocIdleState input).1.decideTotal input).2))) }
        rcases List.mem_cons.mp hramped with rfl | happlied
        · exact hcommanded
        · exact Keeps.forEach (keeps_applyTarget _) _ _ hcommanded w' happlied

/-! ### Whole cycles -/

/-- The cycle notes the switch that it reads. -/
theorem controlEnabled_readCycle (w : World n Text) :
    ((readCycle input).final w).memory.controlEnabled = some input.settings.enabled := rfl

theorem handed_readCycle (w : World n Text) :
    ∀ w' ∈ readCycle input w, w'.handed = w.handed := by
  have hkeeps : Keeps (fun w' : World n Text => w'.handed = w.handed) (readCycle input) := by
    refine Keeps.andThen (keeps_once ?_) (Keeps.andThen (keeps_once ?_)
      (Keeps.andThen (keeps_once ?_) (keeps_once ?_)))
    · exact fun w' hw' => hw'
    · exact fun w' hw' => hw'
    · exact fun w' hw' => hw'
    · exact fun w' hw' => hw'
  exact hkeeps w rfl

variable [DecidableEq Text] (texts : TimeTexts Text)

theorem keeps_claimDevices (transition : FeatureTransition)
    (previous : Fin n → Option DeviceRuntimeIntent) :
    Keeps (@PermittedAndNoted n Text input.settings noted)
      (claimDevices input texts transition previous) := by
  refine Keeps.andThen (Keeps.forEach (keeps_processFullChargeAssist texts transition) _)
    (Keeps.andThen (keeps_once ?_) (Keeps.forEach (keeps_claimDevice texts transition previous) _))
  intro w hw
  exact hw.remember rfl

omit [DecidableEq Text] in
theorem keeps_reconcileDevices :
    Keeps (@PermittedAndNoted n Text input.settings noted) (reconcileDevices input) :=
  keeps_reconcileSocLimits.andThen ((Keeps.forEach keeps_applyRuntimeDevice _).andThen
    (Keeps.forEach keeps_endChargeOnDisable _))

/-- What is written before the devices are regulated. -/
theorem keeps_prepareDevices (transition : FeatureTransition)
    (previous : Fin n → Option DeviceRuntimeIntent) :
    Keeps (@PermittedAndNoted n Text input.settings noted)
      (prepareDevices input texts transition previous) := by
  refine (keeps_claimDevices texts transition previous).andThen
    (keeps_reconcileDevices.andThen (keeps_once ?_))
  intro w hw
  exact hw.remember rfl

omit [DecidableEq Text] in
theorem AllPermitted.readCycle (hw : w.AllPermitted input.settings) :
    ((readCycle input).final w).PermittedAndNoted input.settings
      ((readCycle input).final w).memory.noted := ⟨hw, rfl, controlEnabled_readCycle w⟩

/-- **A cycle hands over what is permitted, wherever it stops.** -/
theorem keeps_runOnce : Keeps (@AllPermitted n Text input.settings) (runOnce input texts) := by
  intro w hw w' hw'
  rcases List.mem_append.mp hw' with hread | hafter
  · rw [AllPermitted, handed_readCycle w w' hread]
    exact hw
  · refine (keeps_prepareDevices texts _ _).then_reaches ?_ ?_ _ hw.readCycle w' hafter
    · intro w hw
      exact hw.permitted
    · intro w hw
      exact keeps_regulate w hw.permitted

omit [DecidableEq Text] in
/-- After failed cycles the charges are released. -/
theorem keeps_cycleFailed : Keeps (@AllPermitted n Text input.settings) (cycleFailed input) := by
  intro w hw w' hw'
  unfold cycleFailed at hw'
  rcases List.mem_cons.mp hw' with rfl | hafter
  · exact hw
  · split at hafter
    · refine Keeps.andThen (keeps_releaseChargingDevices true) (keeps_once ?_) _ ?_ w' hafter
      · exact fun w hw => hw
      · exact hw
    · obtain rfl := List.mem_singleton.mp hafter
      exact hw

omit [DecidableEq Text] in
theorem keeps_cycleRanThrough :
    Keeps (@AllPermitted n Text input.settings) (Steps.once (cycleRanThrough input)) := by
  refine keeps_once ?_
  intro w hw
  unfold cycleRanThrough endAssistAcInputWithhold
  dsimp only
  split
  · exact hw
  · split_ifs <;> exact hw

/-- A cycle of the guarded loop, wherever it raises. -/
theorem keeps_runGuarded (raisesAfter : Option ℕ) :
    Keeps (@AllPermitted n Text input.settings) (runGuarded input texts raisesAfter) := by
  unfold runGuarded
  split
  · exact (keeps_runOnce texts).andThen keeps_cycleRanThrough
  · refine Keeps.andThen ?_ keeps_cycleFailed
    intro w hw w' hw'
    exact keeps_runOnce texts w hw w' (List.mem_of_mem_take hw')

end World

/-! ### Every event of a run -/

variable [DecidableEq Text] (texts : TimeTexts Text)

theorem Event.keeps_steps (event : Event n) :
    Keeps (@World.AllPermitted n Text event.input.settings) (event.steps texts) := by
  cases event with
  | cycle input => exact World.keeps_runOnce texts
  | guarded input raisesAfter => exact World.keeps_runGuarded texts raisesAfter
  | stop input => exact World.keeps_releaseChargingDevices false

/-- **Off is off, and a shut gate is shut.**  After any run of the controller from any state,
whatever the next event is and wherever it stops, everything it has handed over was permitted. -/
theorem off_is_off (w : World n Text) (events : List (Event n)) (event : Event n) (stop : ℕ) :
    ((event.steps texts).interrupted stop (Run.run (World.step texts) w events).cleared).AllPermitted
      event.input.settings := by
  have hcleared : (Run.run (World.step texts) w events).cleared.AllPermitted
      event.input.settings := by
    intro handed hhanded
    cases hhanded
  exact (event.keeps_steps texts).interrupted hcleared stop

end SolarFlowEms.Controller
