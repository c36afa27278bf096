import SolarFlowEms.Mqtt.LatestIntent

/-!
# A stop never waits

Whatever is in flight, pending or held back, a dispatch of 0 W is published in the call that
asks for it, unless the device was sent 0 W already.  What a held exit is compared with is
the target it left on the device: while a charge is on record, the exit target is the last
published target, as long as that was no charge.
-/

namespace SolarFlowEms.Mqtt

open Python PowerDirection Run ClientState ChargeRecord

/-! ### The exit target of an open record -/

/-- What an open charge record remembers is what was published: exits that are out have a
target, and it is the last one published. -/
structure RemembersExit (charge : ChargeRecord) (published : List ℤ) : Prop where
  consistent : charge.Consistent
  exit_target : charge.isOpen = true → charge.exitTargetW = published.head?.filter (0 ≤ ·)

namespace RemembersExit

variable {charge : ChargeRecord} {published : List ℤ}

theorem release : RemembersExit charge.release published where
  consistent := release_consistent
  exit_target := nofun

theorem observe (h : RemembersExit charge published) (report : DirectionReport) (reported : Bool) :
    RemembersExit (charge.observe report reported) published := by
  refine ⟨h.consistent.observe report reported, fun hopen => ?_⟩
  rcases charge.observe_cases report reported with ⟨r, hr⟩ | ⟨hsame, -, htarget, -⟩
  · rw [hr] at hopen
    cases hopen
  · rw [htarget]
    exact h.exit_target (hsame ▸ hopen)

theorem chargeAfterPublish {s : ClientState} (h : RemembersExit s.charge published) (targetW : ℤ)
    (foundExit : Bool) {reduction : Bool}
    (hreduction : reduction = true → s.charge.exitTargetW.isSome = true) (now : ℚ) :
    RemembersExit (s.chargeAfterPublish targetW foundExit reduction now) (targetW :: published) := by
  have hlast : 0 ≤ targetW → (targetW :: published).head?.filter (0 ≤ ·) = some targetW := by
    intro hnonneg
    simp [hnonneg]
  have hexited : 0 ≤ targetW →
      RemembersExit (s.charge.exitSent now (some targetW)) (targetW :: published) := by
    intro hnonneg
    refine ⟨h.consistent.exitSent now targetW, fun hopen => ?_⟩
    rw [exitSent_isOpen] at hopen
    rw [exitSent_exitTargetW hopen, hlast hnonneg]
  unfold ClientState.chargeAfterPublish
  split_ifs with hneg hreduce hfound
  · refine ⟨chargeSent_consistent _, fun _ => ?_⟩
    have hnot : ¬0 ≤ targetW := by omega
    simp [chargeSent, Option.filter, hnot]
  · refine ⟨h.consistent.reductionSent (hreduction hreduce) targetW, fun hopen => ?_⟩
    rw [reductionSent_isOpen] at hopen
    rw [reductionSent_exitTargetW hopen, hlast (by omega)]
  · have hexit := hexited (by omega)
    obtain ⟨hopen, -, htarget, -⟩ :=
      (s.charge.exitSent now (some targetW)).foundExitSent_frame now
    exact ⟨hexit.consistent.foundExitSent now, by rw [hopen, htarget]; exact hexit.exit_target⟩
  · exact hexited (by omega)

end RemembersExit

/-! ### Every call remembers the exit -/

variable {s : ClientState} {targetW : ℤ} {outcome : Outcome}

theorem remembersExit_of_submitted {published : List ℤ} {foundExit reduction : Bool}
    (h : Submitted s targetW foundExit reduction outcome) (hs : RemembersExit s.charge published)
    (hreduction : reduction = true → s.charge.exitTargetW.isSome = true) :
    RemembersExit outcome.client.charge (outcome.sent.toList ++ published) := by
  cases h with
  | blocked sequence error correlationId | refused sequence hterminal => exact hs
  | sent sequence correlationId now htarget =>
    exact hs.chargeAfterPublish targetW foundExit hreduction now

theorem isSome_of_reducesHeldExit {cfg : ClientConfig}
    (h : s.reducesHeldExit cfg targetW = true) : s.charge.exitTargetW.isSome = true := by
  unfold reducesHeldExit reducesExit at h
  cases htarget : s.charge.exitTargetW with
  | none => simp [htarget] at h
  | some exitTargetW => rfl

theorem remembersExit_of_dispatched {cfg : ClientConfig} {published : List ℤ}
    (h : Dispatched cfg s targetW outcome)
    (hs : RemembersExit s.charge published) :
    RemembersExit outcome.client.charge (outcome.sent.toList ++ published) := by
  cases h with
  | rejected hresult | coalesced hresult | queued sequence correlationId hresult => exact hs
  | superseding now foundExit hactive hisActive hreduction hsubmitted =>
    refine remembersExit_of_submitted hsubmitted (by rwa [supersedeActive_charge]) fun htrue => ?_
    obtain ⟨hopen, hspent⟩ := hreduction htrue
    rw [supersedeActive_charge]
    exact hs.consistent.isSome_of_drawnExitsSpent hopen hspent
  | idle foundExit hidle hreduction hsubmitted =>
    exact remembersExit_of_submitted hsubmitted hs fun htrue =>
      isSome_of_reducesHeldExit (hreduction htrue)

theorem remembersExit_of_replied {published : List ℤ}
    (h : Replied s outcome) (hs : RemembersExit s.charge published) :
    RemembersExit outcome.client.charge (outcome.sent.toList ++ published) := by
  have hput : ∀ record, RemembersExit (s.putActive record).charge published := by
    intro record
    rw [putActive_charge]
    exact hs
  cases h with
  | ignored => exact hs
  | acknowledged hactive hmoves hnot | settled hactive hmoves hterminal => exact hput _
  | flushed hactive hmoves hterminal hpending hsubmitted =>
    exact remembersExit_of_submitted hsubmitted (hput _) nofun

namespace Ledger

variable {cfg : ClientConfig} {l : Ledger}

def RemembersExit (l : Ledger) : Prop := Mqtt.RemembersExit l.client.charge l.published

theorem RemembersExit.enter (h : l.RemembersExit) (call : Call) : (l.enter cfg call).RemembersExit := by
  cases call with
  | dispatch value chargeExit now transport =>
    have hexpired : Mqtt.RemembersExit (l.client.expireActiveCommand cfg now).charge l.published := by
      rw [(expireActiveCommand_settled cfg l.client now).charge]
      exact h
    show Mqtt.RemembersExit
      (l.client.dispatchOutputLimit cfg value chargeExit now transport).client.charge
      ((l.client.dispatchOutputLimit cfg value chargeExit now transport).sent.toList ++ l.published)
    rcases dispatchOutputLimit_dispatched cfg l.client value chargeExit now transport with
      ⟨result, -, heq⟩ | ⟨targetW, -, hdispatched⟩
    · rw [heq]
      exact hexpired
    · exact remembersExit_of_dispatched hdispatched hexpired
  | cancelPending => exact h
  | fetch now snapshot =>
    obtain ⟨s₁, -, charge, hexpired, hcharge⟩ :=
      fetch_settled cfg l.client now snapshot
    show Mqtt.RemembersExit (l.client.fetch cfg now snapshot).charge l.published
    rw [hexpired.charge]
    rcases hcharge with rfl | ⟨report, reported, rfl⟩
    · exact h
    · exact Mqtt.RemembersExit.observe h report reported
  | handleReply payload now transport =>
    exact remembersExit_of_replied (handleReply_replied _ now transport) h
  | releaseChargeRecord => exact Mqtt.RemembersExit.release

theorem remembersExit_run (cfg : ClientConfig) (calls : List Call) :
    (run (enter cfg) (new cfg) calls).RemembersExit := by
  have hstep : ∀ (l : Ledger) (call : Call), l.RemembersExit → True →
      (l.enter cfg call).RemembersExit := fun l call h _ => h.enter call
  exact run_invariant hstep ⟨new_consistent _, nofun⟩ (everyStep_true _ _ _)

/-- **While a charge is on record, the exit target is the last published target** that is
no charge. -/
theorem RemembersExit.find_eq (h : l.RemembersExit) (hopen : l.client.charge.isOpen = true) {t : ℤ}
    (ht : l.client.charge.exitTargetW = some t) :
    l.published.head? = some t ∧ l.published.find? (0 ≤ ·) = some t := by
  rw [h.exit_target hopen, Option.filter_eq_some_iff] at ht
  obtain ⟨hhead, hnonneg⟩ := ht
  obtain ⟨rest, hpublished⟩ := List.head?_eq_some_iff.mp hhead
  refine ⟨hhead, ?_⟩
  rw [hpublished, List.find?_cons, hnonneg]

/-! ### The stop -/

variable {s : ClientState} {expected : List (String × ℤ)} {transport : Transport}

theorem publishTarget_sent {targetW : ℤ} (hbuild : cfg.buildWrite targetW = .ok expected)
    (haccepted : transport.accepted = true) (now : ℚ) (correlationId : Option String)
    (foundExit reduction : Bool) :
    (s.publishTarget cfg targetW now correlationId foundExit reduction transport).sent =
      some targetW := by
  simp [publishTarget, hbuild, haccepted]

theorem dispatchBehind_zero {active : CommandRecord} (hbuild : cfg.buildWrite 0 = .ok expected)
    (haccepted : transport.accepted = true)
    (chargeExit : Option ChargeExit) (now : ℚ) (htarget : active.targetW ≠ 0) :
    (s.dispatchBehind cfg active 0 chargeExit now transport).sent = some 0 := by
  have hpreempt : shouldPreempt cfg active.targetW 0 = true := by
    simp [shouldPreempt, htarget]
  unfold dispatchBehind
  simp only [hpreempt, Bool.not_true, Bool.and_false, Bool.false_eq_true, if_false, htarget,
    false_and, or_true, if_true]
  exact publishTarget_sent hbuild haccepted ..

theorem dispatchIdle_zero {published : List ℤ} (h : Mqtt.RemembersExit s.charge published)
    (hbuild : cfg.buildWrite 0 = .ok expected)
    (haccepted : transport.accepted = true) {chargeExit : Option ChargeExit}
    (hordinary : chargeExit ≠ some .toOutput) (now : ℚ) :
    (s.dispatchIdle cfg 0 chargeExit now transport).sent = some 0 ∨
      s.exitHeld now false = true ∧ published.head? = some 0 := by
  unfold dispatchIdle
  extract_lets foundExit held correlationId
  have hfound : foundExit = false := decide_eq_false hordinary
  split
  · next hcond =>
    obtain ⟨hheld, hreduces⟩ := Bool.and_eq_true_iff.mp hcond
    have hexit : s.exitHeld now false = true := hfound ▸ (Bool.and_eq_true_iff.mp hheld).2
    have hopen : s.charge.isOpen = true := by
      by_contra hclosed
      simp [exitHeld, hclosed] at hexit
    have hdue : s.charge.exitDue now = false := by
      simpa [exitHeld, hopen] using hexit
    obtain ⟨t, ht⟩ := Option.isSome_iff_exists.mp (h.consistent.isSome_of_not_exitDue hopen hdue)
    have hzero : t = 0 := by
      simpa [reducesHeldExit, reducesExit_zero hopen ht] using hreduces
    have hlast := h.exit_target hopen
    rw [ht, hzero] at hlast
    exact .inr ⟨hexit, (Option.filter_eq_some_iff.mp hlast.symm).1⟩
  · exact .inl (publishTarget_sent hbuild haccepted ..)

/-- **A stop never waits.**  After every run, a dispatch of 0 W that can be built and that the
transport accepts is published in that call, unless the command still in flight once the deadlines
were settled is a stop already, or an exit is held and the last published target was one.  And
while a charge is on record, the exit target is the last published target that is no charge. -/
theorem stop_never_waits (cfg : ClientConfig) (calls : List Call) :
    (∀ (chargeExit : Option ChargeExit) (now : ℚ) (transport : Transport)
        (expected : List (String × ℤ)), chargeExit ≠ some .toOutput →
        cfg.buildWrite 0 = .ok expected → transport.accepted = true →
        ((run (enter cfg) (new cfg) calls).client.dispatchOutputLimit cfg (.int 0) chargeExit now
            transport).sent = some 0 ∨
          (∃ active, ((run (enter cfg) (new cfg) calls).client.expireActiveCommand cfg
              now).activeRecord = some active ∧ active.isActive = true ∧ active.targetW = 0) ∨
          (run (enter cfg) (new cfg) calls).client.exitHeld now false = true ∧
            (run (enter cfg) (new cfg) calls).published.head? = some 0) ∧
      ((run (enter cfg) (new cfg) calls).client.charge.isOpen = true → ∀ t,
        (run (enter cfg) (new cfg) calls).client.charge.exitTargetW = some t →
          (run (enter cfg) (new cfg) calls).published.find? (0 ≤ ·) = some t) := by
  have hrun := remembersExit_run cfg calls
  revert hrun
  generalize run (enter cfg) (new cfg) calls = l
  intro hrun
  refine ⟨?_, fun hopen t ht => (hrun.find_eq hopen ht).2⟩
  intro chargeExit now transport expected hordinary hbuild haccepted
  have hsettled : Settled l.client (l.client.expireActiveCommand cfg now) :=
    expireActiveCommand_settled cfg l.client now
  have hexpired : Mqtt.RemembersExit (l.client.expireActiveCommand cfg now).charge l.published := by
    rw [hsettled.charge]
    exact hrun
  unfold dispatchOutputLimit
  rw [PyValue.int?_int]
  dsimp only
  rw [cfg.precheckTarget_of_buildWrite hbuild]
  dsimp only
  split
  · next active hactive =>
    obtain ⟨hrecord, hisActive⟩ := Option.filter_eq_some_iff.mp hactive
    by_cases htarget : active.targetW = 0
    · exact .inr (.inl ⟨active, hrecord, hisActive, htarget⟩)
    · exact .inl (dispatchBehind_zero hbuild haccepted chargeExit now htarget)
  · rcases dispatchIdle_zero hexpired hbuild haccepted hordinary now with hsent | ⟨hheld, hlast⟩
    · exact .inl hsent
    · refine .inr (.inr ⟨?_, hlast⟩)
      rw [exitHeld, hsettled.charge] at hheld
      exact hheld

/-- 300 W are in flight, unacknowledged; the stop goes out. -/
theorem stop_never_waits_behind_rise :
    ((run (enter .hyper2000) (new .hyper2000)
        [.dispatch (.int 300) none 0 ⟨1, 0, true⟩]).client.dispatchOutputLimit .hyper2000 (.int 0)
          none 1 ⟨2, 1, true⟩).sent = some 0 ∨
      (∃ active, ((run (enter .hyper2000) (new .hyper2000)
          [.dispatch (.int 300) none 0 ⟨1, 0, true⟩]).client.expireActiveCommand .hyper2000
            1).activeRecord = some active ∧ active.isActive = true ∧ active.targetW = 0) ∨
      (run (enter .hyper2000) (new .hyper2000)
          [.dispatch (.int 300) none 0 ⟨1, 0, true⟩]).client.exitHeld 1 false = true ∧
        (run (enter .hyper2000) (new .hyper2000)
          [.dispatch (.int 300) none 0 ⟨1, 0, true⟩]).published.head? = some 0 :=
  (stop_never_waits .hyper2000 [.dispatch (.int 300) none 0 ⟨1, 0, true⟩]).1 none 1 ⟨2, 1, true⟩ []
    (by decide) (by decide) rfl

end Ledger

end SolarFlowEms.Mqtt
