import SolarFlowEms.Mqtt.Calls

/-!
# One command in flight

Along every run of a client, one command at most is not settled yet, and it is the client's
active command.  A settled command never changes again, so a late, repeated or foreign reply
cannot revive it.  `acknowledged` is no settled state: telemetry, a deadline or a newer
target still moves an acknowledged command on.
-/

namespace SolarFlowEms.Mqtt

open Python PowerDirection Run

namespace ClientState

variable {cfg : ClientConfig} {s s' s'' : ClientState} {record record' : CommandRecord}

/-! ### The invariant -/

/-- The active command is the one record that is not terminal. -/
structure SingleInFlight (s : ClientState) : Prop where
  active_isActive : ∀ i : ℕ, s.active = some i → ∃ r, s.records[i]? = some r ∧ r.isActive = true
  isActive_active : ∀ (i : ℕ) (r : CommandRecord), s.records[i]? = some r → r.isActive = true → s.active = some i

/-- Every record of `s` is still there, and became at most what a record may become. -/
def RecordsFollow (s s' : ClientState) : Prop :=
  ∀ (i : ℕ) (r : CommandRecord), s.records[i]? = some r → ∃ r', s'.records[i]? = some r' ∧ r.Follows r'

theorem RecordsFollow.of_records_eq (h : s'.records = s.records) : RecordsFollow s s' :=
  fun _ r hr => ⟨r, h ▸ hr, .refl r⟩

theorem RecordsFollow.trans (h : RecordsFollow s s') (h' : RecordsFollow s' s'') :
    RecordsFollow s s'' := by
  intro i r hr
  obtain ⟨r', hr', hfollows⟩ := h i r hr
  obtain ⟨r'', hr'', hfollows'⟩ := h' i r' hr'
  exact ⟨r'', hr'', hfollows.trans hfollows'⟩

/-- One call kept the invariant, and the records it found. -/
def Advances (s s' : ClientState) : Prop := SingleInFlight s' ∧ RecordsFollow s s'

theorem Advances.trans (h : Advances s s') (h' : Advances s' s'') : Advances s s'' :=
  ⟨h'.1, h.2.trans h'.2⟩

theorem SingleInFlight.congr (h : SingleInFlight s) (hrecords : s'.records = s.records)
    (hactive : s'.active = s.active) : SingleInFlight s' := by
  refine ⟨fun i hi => ?_, fun i r hr hisActive => ?_⟩
  · rw [hrecords]
    exact h.active_isActive i (hactive ▸ hi)
  · rw [hactive]
    exact h.isActive_active i r (hrecords ▸ hr) hisActive

theorem SingleInFlight.advances (h : SingleInFlight s) (hrecords : s'.records = s.records)
    (hactive : s'.active = s.active) : Advances s s' :=
  ⟨h.congr hrecords hactive, .of_records_eq hrecords⟩

theorem SingleInFlight.new (cfg : ClientConfig) : SingleInFlight (ClientState.new cfg) where
  active_isActive _ hi := by cases hi
  isActive_active i r hr _ := by simp [ClientState.new] at hr

/-! ### Moving the active record -/

theorem putActive_records {i : ℕ} (hactive : s.active = some i) :
    (s.putActive record').records = s.records.set i record' := by
  unfold putActive
  rw [hactive]

theorem putActive_active : (s.putActive record').active = s.active := by
  unfold putActive
  split
  · rfl
  · rfl

theorem putActive_recordsFollow (hactive : s.activeRecord = some record)
    (hmoves : record.Moves record') : RecordsFollow s (s.putActive record') := by
  obtain ⟨i, hi, hrecord⟩ := activeRecord_eq_some.mp hactive
  intro j r hr
  rw [putActive_records hi]
  by_cases hij : i = j
  · subst hij
    rw [hrecord] at hr
    cases hr
    refine ⟨record', ?_, hmoves.follows⟩
    rw [List.getElem?_set_self (List.getElem?_eq_some_iff.mp hrecord).1]
  · exact ⟨r, by rw [List.getElem?_set_ne hij, hr], .refl r⟩

theorem SingleInFlight.putActive (h : SingleInFlight s) (hactive : s.activeRecord = some record)
    (hmoves : record.Moves record') (hnot : record'.isTerminal = false) :
    Advances s (s.putActive record') := by
  obtain ⟨i, hi, hrecord⟩ := activeRecord_eq_some.mp hactive
  have hlt : i < s.records.length := (List.getElem?_eq_some_iff.mp hrecord).1
  refine ⟨⟨fun j hj => ?_, fun j r hr hisActive => ?_⟩, putActive_recordsFollow hactive hmoves⟩
  · rw [putActive_active, hi] at hj
    cases hj
    refine ⟨record', ?_, by rw [CommandRecord.isActive_eq_not_isTerminal, hnot]; rfl⟩
    rw [putActive_records hi, List.getElem?_set_self hlt]
  · rw [putActive_active, hi]
    by_cases hij : i = j
    · rw [hij]
    · rw [putActive_records hi, List.getElem?_set_ne hij] at hr
      rw [← hi]
      exact h.isActive_active j r hr hisActive

theorem SingleInFlight.settle (h : SingleInFlight s) (hactive : s.activeRecord = some record)
    (hmoves : record.Moves record') (hterminal : record'.isTerminal = true) :
    Advances s (s.putActive record').freeSlot := by
  obtain ⟨i, hi, hrecord⟩ := activeRecord_eq_some.mp hactive
  refine ⟨⟨nofun, fun j r hr hisActive => ?_⟩,
    (putActive_recordsFollow hactive hmoves).trans (.of_records_eq rfl)⟩
  have hset : (s.records.set i record')[j]? = some r := by
    rw [← putActive_records hi]
    exact hr
  by_cases hij : i = j
  · subst hij
    rw [List.getElem?_set_self (List.getElem?_eq_some_iff.mp hrecord).1] at hset
    cases hset
    rw [CommandRecord.isActive_eq_not_isTerminal, hterminal] at hisActive
    cases hisActive
  · rw [List.getElem?_set_ne hij] at hset
    have hj : s.active = some j := h.isActive_active j r hset hisActive
    exact absurd (Option.some.inj (hi.symm.trans hj)) hij

theorem Settled.advances (h : Settled s s') (hs : SingleInFlight s) : Advances s s' := by
  cases h with
  | same => exact hs.advances rfl rfl
  | settle hactive hmoves hterminal => exact hs.settle hactive hmoves hterminal

/-! ### Taking the free slot -/

theorem SingleInFlight.append (h : SingleInFlight s) (hfree : s.active = none)
    (hrecords : s'.records = s.records ++ [record])
    (hactive : s'.active = if record.isActive then some s.records.length else none) :
    Advances s s' := by
  have hnew : s'.records[s.records.length]? = some record := by simp [hrecords]
  refine ⟨⟨fun i hi => ?_, fun i r hr hisActive => ?_⟩, fun i r hr => ⟨r, ?_, .refl r⟩⟩
  · rw [hactive] at hi
    split at hi
    · next hisActive => cases hi; exact ⟨record, hnew, hisActive⟩
    · cases hi
  · rw [hrecords, List.getElem?_append] at hr
    split at hr
    · rw [h.isActive_active i r hr hisActive] at hfree
      cases hfree
    · next hge =>
      obtain ⟨hzero, hrecord⟩ := List.getElem?_eq_some_iff.mp hr
      have hi : i = s.records.length := by simp at hzero; omega
      subst hi
      simp at hrecord
      rw [hactive, hrecord, if_pos hisActive]
  · rw [hrecords, List.getElem?_append_left (List.getElem?_eq_some_iff.mp hr).1, hr]

theorem Submitted.advances {targetW : ℤ} {foundExit reduction : Bool} {outcome : Outcome}
    (h : Submitted s targetW foundExit reduction outcome) (hs : SingleInFlight s)
    (hfree : s.active = none) : Advances s outcome.client := by
  cases h with
  | blocked sequence error correlationId => exact hs.advances rfl rfl
  | refused sequence hterminal =>
    refine hs.append hfree rfl ?_
    rw [CommandRecord.isActive_eq_not_isTerminal, hterminal]
    rfl
  | sent sequence correlationId now htarget => exact hs.append hfree rfl rfl

/-! ### Every call -/

theorem SingleInFlight.free_of_idle (h : SingleInFlight s) (hidle : s.Idle) : s.active = none := by
  cases hactive : s.active with
  | none => rfl
  | some i =>
    obtain ⟨r, hr, hisActive⟩ := h.active_isActive i hactive
    have hrecord : s.activeRecord = some r := activeRecord_eq_some.mpr ⟨i, hactive, hr⟩
    have : s.activeRecord.filter (·.isActive) = some r :=
      Option.filter_eq_some_iff.mpr ⟨hrecord, hisActive⟩
    rw [hidle] at this
    cases this

theorem SingleInFlight.supersedeActive (h : SingleInFlight s) {active : CommandRecord}
    (hactive : s.activeRecord = some active) (hisActive : active.isActive = true) (now : ℚ) :
    Advances s (s.supersedeActive active now) := by
  have hsuperseded : active.markSuperseded now =
      some { active with state := .superseded, timeoutMonotonic := some now } := if_pos hisActive
  obtain ⟨hmoves, hterminal⟩ := CommandRecord.moves_of_markSuperseded hsuperseded
  unfold ClientState.supersedeActive
  rw [hsuperseded]
  exact (h.settle hactive hmoves hterminal).trans
    ((h.settle hactive hmoves hterminal).1.advances rfl rfl)

theorem Dispatched.advances {targetW : ℤ} {outcome : Outcome}
    (h : Dispatched cfg s targetW outcome) (hs : SingleInFlight s) : Advances s outcome.client := by
  cases h with
  | rejected hresult | coalesced hresult
  | queued sequence correlationId hresult => exact hs.advances rfl rfl
  | superseding now foundExit hactive hisActive hreduction hsubmitted =>
    have hfreed := hs.supersedeActive hactive hisActive now
    exact hfreed.trans (hsubmitted.advances hfreed.1 rfl)
  | idle foundExit hidle hreduction hsubmitted =>
    have hdiscarded : Advances s s.discardPendingTarget := hs.advances rfl rfl
    exact hdiscarded.trans (hsubmitted.advances hdiscarded.1 (hs.free_of_idle hidle))

theorem Replied.advances {outcome : Outcome} (h : Replied s outcome) (hs : SingleInFlight s) :
    Advances s outcome.client := by
  cases h with
  | ignored => exact hs.advances rfl rfl
  | acknowledged hactive hmoves hnot => exact hs.putActive hactive hmoves hnot
  | settled hactive hmoves hterminal => exact hs.settle hactive hmoves hterminal
  | flushed hactive hmoves hterminal hpending hsubmitted =>
    have hfreed := hs.settle hactive hmoves hterminal
    have hdiscarded : Advances s (s.putActive _).freeSlot.discardPendingTarget :=
      hfreed.trans (hfreed.1.advances rfl rfl)
    exact hdiscarded.trans (hsubmitted.advances hdiscarded.1 rfl)

theorem fetch_advances (hs : SingleInFlight s) (now : ℚ) (snapshot : Option Snapshot) :
    Advances s (s.fetch cfg now snapshot) := by
  obtain ⟨s₁, hconfirmed, charge, hexpired, -⟩ := fetch_settled cfg s now snapshot
  have h₁ := hconfirmed.advances hs
  have h₂ : Advances s₁ { s₁ with charge := charge } := h₁.1.advances rfl rfl
  exact (h₁.trans h₂).trans (hexpired.advances h₂.1)

/-- **One call keeps one command in flight**, and revives no settled one. -/
theorem step_advances (hs : SingleInFlight s) (call : Call) : Advances s (s.step cfg call) := by
  cases call with
  | dispatch value chargeExit now transport =>
    have hexpired := (expireActiveCommand_settled cfg s now).advances hs
    show Advances s (s.dispatchOutputLimit cfg value chargeExit now transport).client
    rcases dispatchOutputLimit_dispatched cfg s value chargeExit now transport with
      ⟨result, -, heq⟩ | ⟨targetW, -, hdispatched⟩
    · rw [heq]
      exact hexpired
    · exact hexpired.trans (hdispatched.advances hexpired.1)
  | cancelPending => exact hs.advances rfl rfl
  | fetch now snapshot => exact fetch_advances hs now snapshot
  | handleReply payload now transport => exact (handleReply_replied _ now transport).advances hs
  | releaseChargeRecord => exact hs.advances rfl rfl

/-! ### Every run -/

theorem run_advances (hs : SingleInFlight s) (calls : List Call) :
    Advances s (run (step cfg) s calls) := by
  have hstep : ∀ (s : ClientState) (call : Call), SingleInFlight s →
      SingleInFlight (step cfg s call) ∧ RecordsFollow s (step cfg s call) :=
    fun s call hs => step_advances hs call
  exact run_related (fun s => .of_records_eq rfl) (fun _ _ _ => .trans) hstep hs calls

/-- **One command in flight.**  In every state a fresh client can reach, a record that is not
terminal is the active command, so there is at most one; and in every later state a terminal
record is what it was, while an acknowledged one is unchanged or settled for good. -/
theorem single_in_flight (cfg : ClientConfig) (calls later : List Call) :
    (∀ (i : ℕ) (r : CommandRecord), (run (step cfg) (new cfg) calls).records[i]? = some r →
        r.isTerminal = false → (run (step cfg) (new cfg) calls).active = some i) ∧
      ∀ (i : ℕ) (r : CommandRecord), (run (step cfg) (new cfg) calls).records[i]? = some r →
        ∃ r' : CommandRecord,
          (run (step cfg) (new cfg) (calls ++ later)).records[i]? = some r' ∧
            (r.isTerminal = true → r' = r) ∧
            (r.state = .acknowledged → r' = r ∨ r'.isTerminal = true) := by
  have hs : SingleInFlight (run (step cfg) (new cfg) calls) :=
    (run_advances (.new cfg) calls).1
  refine ⟨fun i r hr hnot => ?_, fun i r hr => ?_⟩
  · refine hs.isActive_active i r hr ?_
    rw [CommandRecord.isActive_eq_not_isTerminal, hnot]
    rfl
  · rw [run_append]
    obtain ⟨r', hr', hfollows⟩ := (run_advances hs later).2 i r hr
    refine ⟨r', hr', fun hterminal => ?_, fun hack => ?_⟩
    · rcases hfollows with heq | ⟨hnot, -⟩
      · exact heq
      · rw [hterminal] at hnot
        cases hnot
    · rcases hfollows with heq | ⟨-, hterminal | ⟨hne, -⟩⟩
      · exact .inl heq
      · exact .inr hterminal
      · exact absurd hack hne

/-! ### An acknowledged command moves on -/

/-- 300 W are published and the device acknowledges them. -/
def acknowledgedCalls : List Call :=
  [.dispatch (.int 300) none 0 ⟨1, 0, true⟩,
    .handleReply (.dict [("messageId", .int 1), ("deviceId", .str "dev"), ("success", .int 1)]) 1
      ⟨2, 1, true⟩]

/-- A later report shows them. -/
def confirmingCalls : List Call :=
  [.fetch 2 (some
    { metrics := [("outputLimit", .int 300)], metricMonotonic := [("outputLimit", 2)]
      observedMetrics := ["outputLimit"], lastSeenMonotonic := some 2 })]

/-- The acknowledged command becomes `telemetry_confirmed`: were `acknowledged` a terminal
state, a terminal record would change. -/
theorem acknowledged_record_confirmed :
    (run (step .hyper2000) (new .hyper2000) acknowledgedCalls).records[0]?.map (·.state) =
        some .acknowledged ∧
      (run (step .hyper2000) (new .hyper2000)
        (acknowledgedCalls ++ confirmingCalls)).records[0]?.map (·.state) =
          some .telemetryConfirmed := by
  decide +kernel

end ClientState

end SolarFlowEms.Mqtt
