import Mathlib.Algebra.Order.Field.Basic
import Mathlib.Algebra.Order.Field.Rat
import SolarFlowEms.E3dc.Polls

/-!
# The session over any run of its roles

A call hands out a reading that another role took moments ago, or what it polls itself, or the
reason why there is none.  Each of the four ways a call can go keeps the same invariant: the mapping
is that of a usable connection, a failed device has its time to be asked again, and the last reading
was taken before.

* `Went`, `went_readingForCycle` - the four ways of a call
* `Went.safe` - what is promised of each call
* `handed_polled` - a reading that is handed out was polled by a call of the run
* `session_safe` - every run
-/

namespace SolarFlowEms.E3dc

open Program

variable {site : Site} {cycle : Cycle} {s s' : Session}

/-! ### The ways of a call -/

/-- What a call does. -/
inductive Went (site : Site) (cycle : Cycle) (s : Session) : Handed × Session → Prop
  | shared (last : E3dcReading) :
      sharedReading cycle.role (site.clock s.ticks) s = some last →
      Went site cycle s
        (⟨some last, none⟩, { ticked s with consumedBy := cycle.role :: s.consumedBy })
  | waiting : backingOff (site.clock s.ticks) s = true →
      Went site cycle s (⟨none, s.lastError⟩, ticked s)
  | failed (failure : Failure) (s' : Session) :
      backingOff (site.clock s.ticks) s = false → OnlyWire (ticked s) s' →
      Ended NotInverter s.client s'.client →
      Went site cycle s (⟨none, some failure.text⟩, pollFailed site failure s')
  | polled (reading : E3dcReading) (s' : Session) :
      backingOff (site.clock s.ticks) s = false → PollDone site (ticked s) reading s' →
      Went site cycle s
        (⟨some reading, none⟩, { pollSucceeded reading s' with consumedBy := [cycle.role] })

/-- What holds of the session between two calls. -/
structure Inv (site : Site) (s : Session) : Prop where
  ready : Ready site s
  told : Told site.clock s.ticks s.consecutiveFailures s.retryAt
  inverterTold : Told site.clock s.ticks s.inverterFailures s.inverterRetryAt
  last : ∀ r, s.lastReading = some r → r.poll ≤ s.polls ∧ ∃ i < s.ticks, r.taken = site.clock i

theorem Inv.initial (site : Site) : Inv site .initial where
  ready := ⟨⟨fun _ h => (by cases h), fun e he => (by cases he)⟩, fun _ h => by cases h⟩
  told := .inl ⟨rfl, rfl⟩
  inverterTold := .inl ⟨rfl, rfl⟩
  last r hr := by cases hr

theorem went_readingForCycle (h : Inv site s) :
    Went site cycle s (readingForCycle site cycle s) := by
  rw [readingForCycle]
  cases hshared : sharedReading cycle.role (site.clock s.ticks) s with
  | some last => exact .shared last hshared
  | none =>
    by_cases hbacking : backingOff (site.clock s.ticks) s = true
    · simp only [if_pos hbacking]
      exact .waiting hbacking
    simp only [if_neg hbacking]
    simp only [Bool.not_eq_true] at hbacking
    have hready : Ready site (ticked s) := ⟨h.ready.numbered, h.ready.mapped⟩
    have hpoll := @ends_poll site (ticked s) cycle.readInverter hready
      (h.inverterTold.later (Nat.le_succ _))
    rw [Ends] at hpoll
    cases hrun : poll site cycle.readInverter (ticked s) with
    | mk outcome s' =>
      rw [hrun] at hpoll
      cases outcome with
      | error failure => exact .failed failure s' hbacking hpoll.1 hpoll.2
      | ok reading => exact .polled reading s' hbacking hpoll

/-! ### What every call keeps -/

variable {result : Handed × Session} {role : String} {now t : ℚ} {number : ℕ}

theorem Went.inv (h : Inv site s) (hwent : Went site cycle s result) :
    Inv site result.2 := by
  cases hwent with
  | shared last hshared =>
    refine ⟨⟨h.ready.numbered, h.ready.mapped⟩, h.told.later (Nat.le_succ _),
      h.inverterTold.later (Nat.le_succ _), fun r hr => ?_⟩
    obtain ⟨hpoll, i, hi, htaken⟩ := h.last r hr
    exact ⟨hpoll, i, Nat.lt_succ_of_lt hi, htaken⟩
  | waiting hbacking =>
    refine ⟨⟨h.ready.numbered, h.ready.mapped⟩, h.told.later (Nat.le_succ _),
      h.inverterTold.later (Nat.le_succ _), fun r hr => ?_⟩
    obtain ⟨hpoll, i, hi, htaken⟩ := h.last r hr
    exact ⟨hpoll, i, Nat.lt_succ_of_lt hi, htaken⟩
  | failed failure s' hbacking honly hended =>
    obtain ⟨client, mapping, rfl⟩ : ∃ client mapping,
        s' = { ticked s with client := client, mapping := mapping } := ⟨_, _, honly⟩
    refine ⟨⟨⟨fun _ h => (by cases h), hended.numbered.exchanges⟩, fun _ h => (by cases h)⟩,
      .inr ⟨s.ticks + 1, Nat.lt_succ_self _, Nat.succ_pos _, rfl⟩,
      h.inverterTold.later (Nat.le_succ_of_le (Nat.le_succ _)), fun r hr => ?_⟩
    obtain ⟨hpoll, i, hi, htaken⟩ := h.last r hr
    exact ⟨hpoll, i, Nat.lt_succ_of_lt (Nat.lt_succ_of_lt hi), htaken⟩
  | polled reading s' hbacking hdone =>
    refine ⟨⟨hdone.ready.numbered, hdone.ready.mapped⟩, .inl ⟨rfl, rfl⟩, hdone.told,
      fun r hr => ?_⟩
    obtain rfl : reading = r := Option.some_inj.mp hr
    obtain ⟨i, -, hi, htaken⟩ := hdone.taken
    exact ⟨Nat.le_of_eq hdone.number, i, hi, htaken⟩

/-! ### What a call may do -/

/-- The reading was taken in the call: its values were asked for and received there. -/
structure Polled (site : Site) (call : Call) (r : E3dcReading) : Prop where
  poll : call.before.polls < r.poll
  taken : ∃ i, call.before.ticks < i ∧ i < call.after.ticks ∧ r.taken = site.clock i
  frames : FromFrames site.net call.before.client call.after.client r

/-- One of these calls took the reading, and handed it out. -/
def PolledBy (site : Site) (calls : List Call) (r : E3dcReading) : Prop :=
  ∃ call ∈ calls, call.handed.reading = some r ∧ Polled site call r

/-- What is promised of one call. -/
structure CallSafe (site : Site) (call : Call) : Prop where
  /-- A reading was taken in the call, or is the last one, from less than the reuse time before. -/
  recent : ∀ r, call.handed.reading = some r → Polled site call r ∨
    call.before.lastReading = some r ∧ r.taken ≤ call.now site ∧
      call.now site - r.taken < cycleReuseSeconds
  /-- While a failed device backs off, nothing is asked and there is no reading. -/
  waits : ∀ t, call.before.retryAt = some t → call.now site < t →
    call.after.client = call.before.client ∧ call.handed = ⟨none, call.before.lastError⟩
  /-- A failed device is asked again after the back-off of its failures, at most the longest. -/
  bounded : Told site.clock call.after.ticks call.after.consecutiveFailures call.after.retryAt ∧
    ∀ t, call.after.retryAt = some t →
      ∃ i < call.after.ticks, t ≤ site.clock i + maximumRetrySeconds
  /-- The same holds of the inverter block, which is not asked for before its time. -/
  inverterBounded :
    Told site.clock call.after.ticks call.after.inverterFailures call.after.inverterRetryAt ∧
      ∀ t, call.after.inverterRetryAt = some t →
        ∃ i < call.after.ticks, t ≤ site.clock i + maximumRetrySeconds
  inverterWaits : Waited site call.before call.after
  /-- A call that asks for the inverter block hands out a reading. -/
  inverterNeverFails : Grows NotInverter call.before.client call.after.client ∨
    ∃ r, call.handed.reading = some r

theorem backOff_le (failures : ℕ) : backOff failures ≤ maximumRetrySeconds := min_le_right _ _

theorem bound_of_told {ticks failures : ℕ} {retryAt : Option ℚ}
    (h : Told site.clock ticks failures retryAt) :
    ∀ t, retryAt = some t → ∃ i < ticks, t ≤ site.clock i + maximumRetrySeconds := by
  intro t ht
  rcases h with ⟨hnone, -⟩ | ⟨i, hi, -, hretry⟩
  · rw [hnone] at ht
    cases ht
  · refine ⟨i, hi, ?_⟩
    rw [← Option.some_inj.mp (hretry.symm.trans ht)]
    exact (add_le_add_iff_left _).mpr (backOff_le failures)

theorem mem_of_shared {last : E3dcReading} (h : sharedReading role now s = some last) :
    s.consecutiveFailures = 0 ∧ s.lastReading = some last ∧ role ∉ s.consumedBy ∧
      now - last.taken < cycleReuseSeconds := by
  rw [sharedReading] at h
  split at h
  · cases h
  · rename_i hfailures
    obtain ⟨hlast, hfits⟩ := Option.filter_eq_some_iff.mp h
    obtain ⟨hrole, hnow⟩ := Bool.and_eq_true_iff.mp hfits
    exact ⟨not_not.mp hfailures, hlast, of_decide_eq_true hrole, of_decide_eq_true hnow⟩

theorem not_shared_of_retry (h : Inv site s) (ht : s.retryAt = some t) :
    s.consecutiveFailures ≠ 0 := by
  rcases h.told with ⟨hnone, -⟩ | ⟨i, -, hpos, -⟩
  · rw [hnone] at ht
    cases ht
  · exact Nat.pos_iff_ne_zero.mp hpos

theorem backingOff_of_retry (ht : s.retryAt = some t) (hnow : now < t) :
    backingOff now s = true := by
  rw [backingOff, ht]
  exact decide_eq_true hnow

theorem waited_of_client {before after : Session} (h : after.client = before.client) :
    Waited site before after := .inl (h ▸ Grows.refl _ _)

theorem PollDone.polled {reading : E3dcReading}
    (h : PollDone site (ticked s) reading s') :
    Polled site ⟨cycle, s, ⟨some reading, none⟩,
      { pollSucceeded reading s' with consumedBy := [cycle.role] }⟩ reading where
  poll := by
    rw [h.number, h.polls]
    exact Nat.lt_succ_self _
  taken := by
    obtain ⟨i, hle, hlt, htaken⟩ := h.taken
    exact ⟨i, hle, hlt, htaken⟩
  frames := h.frames

theorem Went.safe (hclock : Monotone site.clock) (h : Inv site s)
    (hwent : Went site cycle s result) : CallSafe site ⟨cycle, s, result.1, result.2⟩ := by
  have hafter := hwent.inv h
  have hbounded := bound_of_told hafter.told
  have hinverter := bound_of_told hafter.inverterTold
  cases hwent with
  | shared last hshared =>
    obtain ⟨hfailures, hlast, hrole, hnow⟩ := mem_of_shared hshared
    obtain ⟨-, i, hi, htaken⟩ := h.last last hlast
    refine ⟨fun r hr => ?_, fun t ht _ => absurd hfailures (not_shared_of_retry h ht),
      ⟨hafter.told, hbounded⟩, ⟨hafter.inverterTold, hinverter⟩, waited_of_client rfl,
      .inl (Grows.refl _ _)⟩
    obtain rfl : last = r := Option.some_inj.mp hr
    refine .inr ⟨hlast, ?_, hnow⟩
    rw [htaken]
    exact hclock (Nat.le_of_lt hi)
  | waiting hbacking =>
    exact ⟨fun r hr => (by cases hr), fun t _ _ => ⟨rfl, rfl⟩, ⟨hafter.told, hbounded⟩,
      ⟨hafter.inverterTold, hinverter⟩, waited_of_client rfl, .inl (Grows.refl _ _)⟩
  | failed failure s' hbacking honly hended =>
    have hgrows : Grows NotInverter s.client (pollFailed site failure s').client :=
      ⟨hended.grows.connects, hended.grows.exchanges, hended.grows.sent⟩
    refine ⟨fun r hr => (by cases hr), fun t ht hnow => ?_, ⟨hafter.told, hbounded⟩,
      ⟨hafter.inverterTold, hinverter⟩, .inl hgrows, .inl hgrows⟩
    exact absurd (hbacking.symm.trans (backingOff_of_retry ht hnow)) Bool.false_ne_true
  | polled reading s' hbacking hdone =>
    refine ⟨fun r hr => ?_, fun t ht hnow => ?_, ⟨hafter.told, hbounded⟩,
      ⟨hafter.inverterTold, hinverter⟩, ?_, .inr ⟨reading, rfl⟩⟩
    · obtain rfl : reading = r := Option.some_inj.mp hr
      exact .inl hdone.polled
    · exact absurd (hbacking.symm.trans (backingOff_of_retry ht hnow)) Bool.false_ne_true
    · rcases hdone.waited with hgrows | hwaited
      · exact .inl hgrows
      · refine .inr fun t ht => ?_
        obtain ⟨i, hle, hlt, hi⟩ := hwaited t ht
        exact ⟨i, Nat.le_of_succ_le hle, hlt, hi⟩

/-! ### Where readings are from -/

theorem Went.last_polled {past : List Call} (hwent : Went site cycle s result)
    (hpast : ∀ r, s.lastReading = some r → PolledBy site past r) :
    (∀ r, result.1.reading = some r →
      PolledBy site (past ++ [⟨cycle, s, result.1, result.2⟩]) r) ∧
    (∀ r, result.2.lastReading = some r →
      PolledBy site (past ++ [⟨cycle, s, result.1, result.2⟩]) r) := by
  have hbefore (call : Call) (r : E3dcReading) (hr : s.lastReading = some r) :
      PolledBy site (past ++ [call]) r := by
    obtain ⟨polling, hmem, hpolled⟩ := hpast r hr
    exact ⟨polling, List.mem_append_left _ hmem, hpolled⟩
  cases hwent with
  | shared last hshared =>
    obtain ⟨-, hlast, -, -⟩ := mem_of_shared hshared
    refine ⟨fun r hr => hbefore _ r ?_, hbefore _⟩
    rw [← Option.some_inj.mp hr]
    exact hlast
  | waiting hbacking => exact ⟨nofun, hbefore _⟩
  | failed failure s' hbacking honly hended =>
    refine ⟨nofun, fun r hr => hbefore _ r ?_⟩
    have hkept : s'.lastReading = s.lastReading := by rw [honly]; rfl
    rw [← hkept]
    exact hr
  | polled reading s' hbacking hdone =>
    have hpolled (r : E3dcReading) (hr : some reading = some r) :
        PolledBy site (past ++ [⟨cycle, s, ⟨some reading, none⟩,
          { pollSucceeded reading s' with consumedBy := [cycle.role] }⟩]) r := by
      obtain rfl : reading = r := Option.some_inj.mp hr
      exact ⟨_, List.mem_append_right _ List.mem_cons_self, rfl, hdone.polled⟩
    exact ⟨hpolled, hpolled⟩

/-! ### No reading twice -/

/-- The role had what the poll of this number read: it is not the last reading, or the role is among
those that had it. -/
def Had (role : String) (number : ℕ) (s : Session) : Prop :=
  number ≤ s.polls ∧ ∀ last, s.lastReading = some last → last.poll = number → role ∈ s.consumedBy

theorem Went.had (hwent : Went site cycle s result) (h : Had role number s) :
    Had role number result.2 ∧
      (cycle.role = role → ∀ r, result.1.reading = some r → r.poll ≠ number) := by
  obtain ⟨hle, hconsumed⟩ := h
  cases hwent with
  | shared last hshared =>
    obtain ⟨-, hlast, hrole, -⟩ := mem_of_shared hshared
    refine ⟨⟨hle, fun last' hlast' hnumber =>
      List.mem_cons_of_mem _ (hconsumed last' hlast' hnumber)⟩, ?_⟩
    rintro rfl r hr hnumber
    obtain rfl : last = r := Option.some_inj.mp hr
    exact hrole (hconsumed last hlast hnumber)
  | waiting hbacking => exact ⟨⟨hle, hconsumed⟩, fun _ r hr => by cases hr⟩
  | failed failure s' hbacking honly hended =>
    refine ⟨?_, fun _ r hr => by cases hr⟩
    obtain ⟨client, mapping, rfl⟩ : ∃ client mapping,
        s' = { ticked s with client := client, mapping := mapping } := ⟨_, _, honly⟩
    exact ⟨hle, hconsumed⟩
  | polled reading s' hbacking hdone =>
    have hnew : number < reading.poll := by
      rw [hdone.number, hdone.polls]
      exact Nat.lt_succ_of_le hle
    refine ⟨⟨?_, fun last hlast hnumber => ?_⟩, fun _ r hr => ?_⟩
    · show number ≤ s'.polls
      rw [← hdone.number]
      exact Nat.le_of_lt hnew
    · obtain rfl : reading = last := Option.some_inj.mp hlast
      exact absurd hnumber (Nat.ne_of_gt hnew)
    · obtain rfl : reading = r := Option.some_inj.mp hr
      exact Nat.ne_of_gt hnew

theorem Went.had_of_handed {r : E3dcReading} (h : Inv site s)
    (hwent : Went site cycle s result) (hr : result.1.reading = some r) :
    Had cycle.role r.poll result.2 := by
  cases hwent with
  | shared last hshared =>
    obtain rfl : last = r := Option.some_inj.mp hr
    obtain ⟨-, hlast, -, -⟩ := mem_of_shared hshared
    exact ⟨(h.last last hlast).1, fun _ _ _ => List.mem_cons_self⟩
  | waiting hbacking => cases hr
  | failed failure s' hbacking honly hended => cases hr
  | polled reading s' hbacking hdone =>
    obtain rfl : reading = r := Option.some_inj.mp hr
    exact ⟨Nat.le_of_eq hdone.number, fun _ _ _ => List.mem_cons_self⟩

theorem not_handed_again (cycles : List Cycle) (h : Inv site s)
    (hhad : Had role number s) : ∀ call ∈ runCycles site s cycles, call.cycle.role = role →
      ∀ r, call.handed.reading = some r → r.poll ≠ number := by
  induction cycles generalizing s with
  | nil =>
    intro call hcall
    cases hcall
  | cons cycle rest ih =>
    have hwent := @went_readingForCycle site cycle s h
    intro call hcall
    rcases List.mem_cons.mp hcall with rfl | hcall
    · exact (hwent.had hhad).2
    · exact ih (hwent.inv h) (hwent.had hhad).1 call hcall

/-- **A reading that is handed out was polled** by that call, by one before it in the run, or before
the run. -/
theorem handed_polled (cycles : List Cycle) (h : Inv site s) {past : List Call}
    (hpast : ∀ r, s.lastReading = some r → PolledBy site past r)
    {earlier : List Call} {call : Call} (hrun : earlier ++ [call] <+: runCycles site s cycles)
    {r : E3dcReading} (hr : call.handed.reading = some r) :
    PolledBy site (past ++ (earlier ++ [call])) r := by
  induction cycles generalizing s past earlier with
  | nil => exact absurd (List.prefix_nil.mp hrun) (List.append_ne_nil_of_right_ne_nil _ nofun)
  | cons cycle rest ih =>
    have hwent := @went_readingForCycle site cycle s h
    -- what stands in the session after a call was handed out by it, or before
    have hnext := hwent.last_polled hpast
    cases earlier with
    | nil =>
      obtain rfl := (List.cons_prefix_cons.mp hrun).1
      exact hnext.1 r hr
    | cons call' earlier =>
      obtain ⟨rfl, hrest⟩ := List.cons_prefix_cons.mp hrun
      have hpolled := ih (hwent.inv h) hnext.2 hrest
      rwa [List.append_assoc] at hpolled

/-- **The session is safe**: every call of a run is, a reading that is handed out was polled by that
call or one before it, and no role is handed a reading twice. -/
theorem session_safe (site : Site) (hclock : Monotone site.clock) (cycles : List Cycle) :
    (∀ call ∈ runCycles site .initial cycles, CallSafe site call) ∧
      (∀ earlier call, earlier ++ [call] <+: runCycles site .initial cycles →
        ∀ r, call.handed.reading = some r → PolledBy site (earlier ++ [call]) r) ∧
      (runCycles site .initial cycles).Pairwise fun call call' =>
        call.cycle.role = call'.cycle.role → ∀ r r', call.handed.reading = some r →
          call'.handed.reading = some r' → r.poll ≠ r'.poll := by
  have hrun (s : Session) (h : Inv site s) :
      (∀ call ∈ runCycles site s cycles, CallSafe site call) ∧
        (runCycles site s cycles).Pairwise fun call call' =>
          call.cycle.role = call'.cycle.role → ∀ r r', call.handed.reading = some r →
            call'.handed.reading = some r' → r.poll ≠ r'.poll := by
    induction cycles generalizing s with
    | nil => exact ⟨fun call hcall => (by cases hcall), List.Pairwise.nil⟩
    | cons cycle rest ih =>
      have hwent := @went_readingForCycle site cycle s h
      obtain ⟨hsafe, hpairs⟩ := ih (readingForCycle site cycle s).2 (hwent.inv h)
      refine ⟨fun call hcall => ?_, List.pairwise_cons.mpr ⟨?_, hpairs⟩⟩
      · rcases List.mem_cons.mp hcall with rfl | hcall
        · exact hwent.safe hclock h
        · exact hsafe call hcall
      · intro call' hcall' hrole r r' hr hr'
        have hhad := hwent.had_of_handed h hr
        exact (not_handed_again rest (hwent.inv h) hhad call' hcall' hrole.symm r' hr').symm
  obtain ⟨hsafe, hpairs⟩ := hrun .initial (Inv.initial site)
  refine ⟨hsafe, fun earlier call hwithin r hr => ?_, hpairs⟩
  exact @handed_polled site .initial cycles (Inv.initial site) [] nofun earlier call hwithin r hr

/-- The magic word at offset -1, a refused identification, one block of power values with the
inverter's behind it, and then nothing more. -/
def sampleBytes : List UInt8 :=
  [0, 1, 0, 0, 0, 5, 1, 3, 2, 0xE3, 0xDC] ++ [0, 2, 0, 0, 0, 3, 1, 0x83, 2] ++
    ([0, 3, 0, 0, 0, 39, 1, 3, 36] ++ [0, 7] ++ List.replicate 10 0 ++ [0, 5] ++
      List.replicate 16 0 ++ [0, 80] ++ List.replicate 4 0) ++
    ([0, 4, 0, 0, 0, 71, 1, 3, 68] ++ List.replicate 12 0 ++ [1, 44] ++ List.replicate 54 0)

def sampleSite : Site where
  net :=
    { endpoint := "e3dc:502"
      connect := fun _ => .connected
      event := fun _ position => (sampleBytes[position]?).elim .timeout .byte
      sendError := fun _ => none }
  unitId := 1
  clock ticks := ticks / 100

/-- The meter polls both blocks and the device shares them; the next poll fails, and the one after it
waits. -/
theorem session_safe_sample :
    (runCycles sampleSite .initial [⟨"grid_meter", true⟩, ⟨"device", false⟩, ⟨"grid_meter", true⟩,
        ⟨"device", false⟩]).map
      (fun call => (call.handed.reading.map fun r => (r.gridW, r.soc, r.inverterW),
        call.before.retryAt.isSome)) =
        [(some (5, 80, some 300), false), (some (5, 80, some 300), false), (none, false),
          (none, true)] ∧
      (∀ call ∈ runCycles sampleSite .initial [⟨"grid_meter", true⟩, ⟨"device", false⟩,
        ⟨"grid_meter", true⟩, ⟨"device", false⟩], CallSafe sampleSite call) := by
  refine ⟨by decide +kernel, (session_safe sampleSite ?_ _).1⟩
  intro i j hij
  exact div_le_div_of_nonneg_right (Nat.cast_le.mpr hij) (by decide)

end SolarFlowEms.E3dc
