import SolarFlowEms.E3dc.Frames
import SolarFlowEms.E3dc.Session

/-!
# What a poll leaves behind

A poll that returns has its power values from the frame behind its power request, on a connection
whose magic word was found, and the inverter's power from a later frame of that connection, if it
has it.  One that fails never asked for the inverter block.

* `ends_inverterPower` - the inverter block never fails a reading
* `FromFrames` - the requests of one poll and the frames behind them that a reading is made of
* `ends_poll` - a poll that returns has such a reading
-/

namespace SolarFlowEms.E3dc

open Program

section Rules

variable {α : Type} {s : Session} {Q : α → Session → Prop} {E : Failure → Session → Prop}

@[simp] theorem ends_onClient {x : Modbus α} : Ends (onClient x) s Q E ↔
    Ends x s.client (fun a c => Q a { s with client := c })
      (fun e c => E e { s with client := c }) := by
  rw [Ends, Ends, onClient]
  cases x s.client with
  | mk outcome c => cases outcome <;> rfl

@[simp] theorem ends_change {f : Session → Session} {Q : Unit → Session → Prop} :
    Ends (change f) s Q E ↔ Q () (f s) := ends_of_eq_ok rfl

@[simp] theorem ends_current {Q : Session → Session → Prop} :
    Ends current s Q E ↔ Q s s := ends_of_eq_ok rfl

@[simp] theorem ends_readClock {site : Site} {Q : ℚ → Session → Prop} :
    Ends (readClock site) s Q E ↔ Q (site.clock s.ticks) { s with ticks := s.ticks + 1 } :=
  ends_of_eq_ok rfl

end Rules

variable {site : Site} {s s' s'' : Session} {mapping : Mapping} {readInverter : Bool}

/-! ### The mapping of a connection -/

/-- The open connection is clean, and its magic word was found where the mapping says. -/
structure Usable (net : Network) (mapping : Mapping) (c : Client) : Prop where
  clean : Clean net c
  magic : MagicFound mapping c.connects c.exchanges

/-- A session between two calls: a mapping is that of a usable connection. -/
structure Ready (site : Site) (s : Session) : Prop where
  numbered : Numbered s.client
  mapped : ∀ mapping, s.mapping = some mapping → Usable site.net mapping s.client

theorem Usable.of_stays {net : Network} {P : Request → Prop} {c c' : Client}
    (h : Usable net mapping c) (hstays : Stays net P c c') : Usable net mapping c' := by
  refine ⟨hstays.clean, ?_⟩
  rw [hstays.connects]
  exact h.magic.of_suffix hstays.grows.exchanges

def OnlyWire (s s' : Session) : Prop :=
  s' = { s with client := s'.client, mapping := s'.mapping }

def NotInverter (request : Request) : Prop := request.count ≠ inverterCount

theorem notInverter_of_count {count : ℕ} (hcount : count ≠ inverterCount) (request : Request)
    (h : request.count = count) : NotInverter request := by
  rw [NotInverter, h]
  exact hcount

theorem ends_mapped (h : Ready site s) :
    Ends (mapped site) s
      (fun mapping s' => OnlyWire s s' ∧ s'.mapping = some mapping ∧
        Usable site.net mapping s'.client ∧ Grows NotInverter s.client s'.client)
      (fun _ s' => OnlyWire s s' ∧ Ended NotInverter s.client s'.client) := by
  have hone (request : Request) (hcount : request.count = 1) : NotInverter request :=
    notInverter_of_count (by decide) request hcount
  have hblock (request : Request) (hcount : request.count = identificationCount) :
      NotInverter request :=
    notInverter_of_count (by decide) request hcount
  rw [mapped, ends_bind, ends_current]
  cases hmapping : s.mapping with
  | some mapping =>
    simp only [ends_pure]
    exact ⟨rfl, hmapping, h.mapped mapping hmapping, Grows.refl _ _⟩
  | none =>
    simp only [connectAndDetect, ends_bind, ends_onClient, ends_change, ends_pure]
    refine (ends_connect h.numbered).mono ?_ ?_
    swap
    · intro failure c hended
      exact ⟨rfl, hended.grows.mono fun _ hfalse => hfalse.elim, hended.numbered⟩
    rintro - c ⟨hconnected, hclean⟩
    refine (ends_detectFrom hclean).mono ?_ ?_
    swap
    · intro failure c' hended
      exact ⟨rfl, (hconnected.mono fun _ hfalse => hfalse.elim).trans (hended.grows.mono hone),
        hended.numbered⟩
    rintro mapping c' ⟨hstays, hmagic⟩
    have hfound : Grows NotInverter s.client c' :=
      (hconnected.mono fun _ hfalse => hfalse.elim).trans (hstays.grows.mono hone)
    refine (ends_readIdentification hstays.clean).mono ?_ ?_
    · intro identification c'' hlater
      have husable : Usable site.net mapping c' := ⟨hstays.clean, hmagic⟩
      exact ⟨rfl, trivial, husable.of_stays hlater, hfound.trans (hlater.grows.mono hblock)⟩
    · intro failure c'' hended
      exact ⟨rfl, hfound.trans (hended.grows.mono hblock), hended.numbered⟩

/-! ### The inverter block -/

/-- After failures a time is set for the next try, counted from a reading of the clock. -/
def Told (clock : ℕ → ℚ) (ticks failures : ℕ) (retryAt : Option ℚ) : Prop :=
  (retryAt = none ∧ failures = 0) ∨
    ∃ i < ticks, 0 < failures ∧ retryAt = some (clock i + backOff failures)

theorem Told.later {clock : ℕ → ℚ} {ticks ticks' failures : ℕ} {retryAt : Option ℚ}
    (h : Told clock ticks failures retryAt) (hle : ticks ≤ ticks') :
    Told clock ticks' failures retryAt := by
  rcases h with h | ⟨i, hi, h⟩
  · exact .inl h
  · exact .inr ⟨i, Nat.lt_of_lt_of_le hi hle, h⟩

/-- The inverter block was not asked for, or its time had come. -/
def Waited (site : Site) (s s' : Session) : Prop :=
  Grows NotInverter s.client s'.client ∨ ∀ t, s.inverterRetryAt = some t →
    ∃ i, s.ticks ≤ i ∧ i < s'.ticks ∧ t ≤ site.clock i

/-- The last reading, who had it and how polls ended are as before. -/
structure KeepsReading (s s' : Session) : Prop where
  lastReading : s'.lastReading = s.lastReading
  lastError : s'.lastError = s.lastError
  consecutiveFailures : s'.consecutiveFailures = s.consecutiveFailures
  retryAt : s'.retryAt = s.retryAt
  consumedBy : s'.consumedBy = s.consumedBy
  polls : s'.polls = s.polls
  ticks : s.ticks ≤ s'.ticks

theorem KeepsReading.trans (h : KeepsReading s s') (h' : KeepsReading s' s'') :
    KeepsReading s s'' where
  lastReading := h'.lastReading.trans h.lastReading
  lastError := h'.lastError.trans h.lastError
  consecutiveFailures := h'.consecutiveFailures.trans h.consecutiveFailures
  retryAt := h'.retryAt.trans h.retryAt
  consumedBy := h'.consumedBy.trans h.consumedBy
  polls := h'.polls.trans h.polls
  ticks := Nat.le_trans h.ticks h'.ticks

theorem OnlyWire.keepsReading (h : OnlyWire s s') : KeepsReading s s' := by
  rw [h]
  exact ⟨rfl, rfl, rfl, rfl, rfl, rfl, Nat.le_refl _⟩

/-- The inverter block was asked for and answered: its power is in the registers of that answer. -/
def InverterRead (net : Network) (mapping : Mapping) (before after : Client) (power : ℤ) : Prop :=
  ∃ e registers, Answered net before after e ∧ e.Answers registers ∧
    e.request.For (mapping.wireAddress inverterFirst) inverterCount mapping.functionCode
      mapping.unitId ∧ power = activePower registers

/-- What holds when the inverter block was dealt with, whether it was read or not. -/
structure InverterDone (site : Site) (mapping : Mapping) (s : Session) (power : Option ℤ)
    (s' : Session) : Prop where
  ready : Ready site s'
  keeps : KeepsReading s s'
  grows : Grows (fun _ => True) s.client s'.client
  waited : Waited site s s'
  told : Told site.clock s'.ticks s'.inverterFailures s'.inverterRetryAt
  frame : ∀ w, power = some w →
    InverterRead site.net mapping s.client s'.client w

theorem ends_readInverterPower {start : Session} (husable : Usable site.net mapping s.client)
    (hmapping : s.mapping = some mapping) (hclient : s.client = start.client)
    (hkeeps : KeepsReading start s)
    (hdue : ∀ t, start.inverterRetryAt = some t →
      ∃ i, start.ticks ≤ i ∧ i < s.ticks ∧ t ≤ site.clock i) :
    Ends (readInverterPower site mapping) s (InverterDone site mapping start) (fun _ _ => False) := by
  have hfailed (c : Client) (mapping' : Option Mapping) :
      KeepsReading start { s with
        client := c, mapping := mapping', inverterFailures := s.inverterFailures + 1
        inverterRetryAt := some (site.clock s.ticks + backOff (s.inverterFailures + 1))
        ticks := s.ticks + 1 } :=
    hkeeps.trans ⟨rfl, rfl, rfl, rfl, rfl, rfl, Nat.le_succ _⟩
  have hwaited (s' : Session) (hticks : s.ticks ≤ s'.ticks) : Waited site start s' := by
    refine .inr fun t ht => ?_
    obtain ⟨i, hle, hlt, hi⟩ := hdue t ht
    exact ⟨i, hle, Nat.lt_of_lt_of_le hlt hticks, hi⟩
  have htold : Told site.clock (s.ticks + 1) (s.inverterFailures + 1)
      (some (site.clock s.ticks + backOff (s.inverterFailures + 1))) :=
    .inr ⟨s.ticks, Nat.lt_succ_self _, Nat.succ_pos _, rfl⟩
  rw [readInverterPower, ends_bind, ends_attempting, ends_onClient]
  refine (ends_readRegisters husable.clean).mono ?_ ?_
  · rintro registers c ⟨e, hanswered, hfor, hanswers⟩
    simp only [ends_bind, ends_change, ends_pure]
    have hgrows : Grows (fun _ => True) s.client c := hanswered.grows trivial
    have hlater : Usable site.net mapping c :=
      husable.of_stays (@Answered.stays (fun _ => True) _ _ _ _ hanswered trivial)
    refine ⟨⟨hlater.clean.numbered, fun mapping' hmapping' => ?_⟩,
      hkeeps.trans ⟨rfl, rfl, rfl, rfl, rfl, rfl, Nat.le_refl _⟩, hclient ▸ hgrows,
      hwaited _ (Nat.le_refl _), .inl ⟨rfl, rfl⟩, fun w hw => ?_⟩
    · obtain rfl : mapping = mapping' := Option.some_inj.mp (hmapping.symm.trans hmapping')
      exact hlater
    · obtain rfl : activePower registers = w := Option.some_inj.mp hw
      rw [← hclient]
      exact ⟨e, registers, hanswered, hanswers, hfor, rfl⟩
  · intro failure c hunanswered
    have hgrows : Grows (fun _ => True) s.client c := hunanswered.grows.mono fun _ _ => trivial
    have hbroken : InverterDone site mapping start none { s with
        client := c.close, mapping := none, inverterFailures := s.inverterFailures + 1
        inverterRetryAt := some (site.clock s.ticks + backOff (s.inverterFailures + 1))
        ticks := s.ticks + 1 } := by
      refine ⟨⟨⟨fun _ h => (by cases h), hunanswered.numbered.exchanges⟩, fun _ h => (by cases h)⟩,
        hfailed _ _, hclient ▸ ⟨hgrows.connects, hgrows.exchanges, hgrows.sent⟩,
        hwaited _ (Nat.le_succ _), htold, fun w hw => by cases hw⟩
    cases failure with
    | exceptionResponse functionCode code =>
      simp only [ends_bind, ends_change, ends_pure, inverterFailed, ends_readClock]
      have hstays : Stays site.net (fun _ => True) s.client c :=
        hunanswered.stays fun _ _ => trivial
      have hlater := husable.of_stays hstays
      refine ⟨⟨hunanswered.numbered, fun mapping' hmapping' => ?_⟩, hfailed _ _,
        hclient ▸ hgrows, hwaited _ (Nat.le_succ _), htold, fun w hw => by cases hw⟩
      obtain rfl : mapping = mapping' := Option.some_inj.mp (hmapping.symm.trans hmapping')
      exact hlater
    | modbus message =>
      simp only [ends_bind, ends_change, ends_pure, inverterFailed, ends_readClock]
      exact hbroken
    | other message =>
      simp only [ends_bind, ends_change, ends_pure, inverterFailed, ends_readClock]
      exact hbroken

theorem inverterDone_of_skipped (hready : Ready site s) (hclient : s'.client = s.client)
    (hmapping : s'.mapping = s.mapping) (hkeeps : KeepsReading s s')
    (htold : Told site.clock s'.ticks s'.inverterFailures s'.inverterRetryAt) :
    InverterDone site mapping s none s' where
  ready := by
    refine ⟨hclient ▸ hready.numbered, fun mapping' h => ?_⟩
    rw [hmapping] at h
    exact hclient ▸ hready.mapped mapping' h
  keeps := hkeeps
  grows := hclient ▸ Grows.refl _ _
  waited := .inl (hclient ▸ Grows.refl _ _)
  told := htold
  frame w hw := by cases hw

/-- **The inverter block never fails a reading.** -/
theorem ends_inverterPower (hready : Ready site s) (hmapping : s.mapping = some mapping)
    (htold : Told site.clock s.ticks s.inverterFailures s.inverterRetryAt) :
    Ends (inverterPower site readInverter mapping) s (InverterDone site mapping s)
      (fun _ _ => False) := by
  have husable := hready.mapped mapping hmapping
  have hself : KeepsReading s s := ⟨rfl, rfl, rfl, rfl, rfl, rfl, Nat.le_refl _⟩
  rw [inverterPower, ends_bind, inverterDue]
  cases readInverter with
  | false =>
    simp only [Bool.not_false, if_true, ends_pure, Bool.false_eq_true, if_false]
    exact inverterDone_of_skipped hready rfl rfl hself htold
  | true =>
    simp only [Bool.not_true, Bool.false_eq_true, if_false, ends_bind, ends_current]
    cases hretry : s.inverterRetryAt with
    | none =>
      simp only [ends_pure, if_true]
      refine ends_readInverterPower husable hmapping rfl hself fun t ht => ?_
      rw [hretry] at ht
      cases ht
    | some retryAt =>
      simp only [ends_bind, ends_readClock, ends_pure]
      have hticked : KeepsReading s { s with ticks := s.ticks + 1 } :=
        ⟨rfl, rfl, rfl, rfl, rfl, rfl, Nat.le_succ _⟩
      by_cases hdue : retryAt ≤ site.clock s.ticks
      · rw [if_pos (decide_eq_true hdue)]
        refine @ends_readInverterPower site { s with ticks := s.ticks + 1 } mapping s husable
          hmapping rfl hticked fun t ht => ?_
        rw [hretry] at ht
        obtain rfl := Option.some_inj.mp ht
        exact ⟨s.ticks, Nat.le_refl _, Nat.lt_succ_self _, hdue⟩
      · rw [if_neg (by simpa using hdue), ends_pure]
        exact inverterDone_of_skipped hready rfl rfl hticked (htold.later (Nat.le_succ _))

/-! ### A poll -/

/-- The power block was asked for and answered: the values of a reading are in the registers of that
answer. -/
def PowerRead (net : Network) (mapping : Mapping) (before after : Client) (reading : E3dcReading) :
    Prop :=
  ∃ e registers, Answered net before after e ∧ e.Answers registers ∧
    e.request.For (mapping.wireAddress powerFirst) powerCount mapping.functionCode
      mapping.unitId ∧
    reading.pvW = pvPower registers ∧ reading.batteryW = batteryPower registers ∧
    reading.gridW = gridPower registers ∧ reading.soc = batterySoc registers

/-- Between two moments of a client the values of a reading were asked for and received: those of the
power block on a connection whose magic word had been found, the inverter's directly behind them. -/
def FromFrames (net : Network) (before after : Client) (reading : E3dcReading) : Prop :=
  ∃ mapping asking answered, Grows (fun _ => True) before asking ∧
    MagicFound mapping asking.connects asking.exchanges ∧
    PowerRead net mapping asking answered reading ∧ Grows (fun _ => True) answered after ∧
    ∀ w, reading.inverterW = some w → InverterRead net mapping answered after w

/-- What a poll that returned left behind. -/
structure PollDone (site : Site) (s : Session) (reading : E3dcReading) (s' : Session) : Prop where
  ready : Ready site s'
  keeps : KeepsReading s { s' with polls := s.polls }
  polls : s'.polls = s.polls + 1
  number : reading.poll = s'.polls
  taken : ∃ i, s.ticks ≤ i ∧ i < s'.ticks ∧ reading.taken = site.clock i
  grows : Grows (fun _ => True) s.client s'.client
  waited : Waited site s s'
  told : Told site.clock s'.ticks s'.inverterFailures s'.inverterRetryAt
  frames : FromFrames site.net s.client s'.client reading

/-- **A poll reads whole answers**, and one that fails did not ask for the inverter block. -/
theorem ends_poll (hready : Ready site s)
    (htold : Told site.clock s.ticks s.inverterFailures s.inverterRetryAt) :
    Ends (poll site readInverter) s (PollDone site s)
      (fun _ s' => OnlyWire s s' ∧ Ended NotInverter s.client s'.client) := by
  rw [poll, ends_bind]
  refine (ends_mapped hready).mono ?_ fun _ _ h => h
  rintro mapping s₁ ⟨honly, hmapping, husable, hmapped⟩
  simp only [ends_bind, ends_onClient, ends_readClock, ends_change, ends_current, ends_pure]
  have hnot (request : Request)
      (hfor : request.For (mapping.wireAddress powerFirst) powerCount mapping.functionCode
        mapping.unitId) : NotInverter request :=
    notInverter_of_count (by decide) request hfor.2.1
  refine (ends_readRegisters husable.clean).mono ?_ ?_
  swap
  · intro failure c hunanswered
    refine ⟨?_, hmapped.trans (hunanswered.grows.mono hnot), hunanswered.numbered⟩
    rw [honly]
    rfl
  rintro registers c ⟨e, hanswered, hfor, hanswers⟩
  have hasked : Grows NotInverter s.client c := hmapped.trans (hanswered.grows (hnot _ hfor))
  have hlater : Usable site.net mapping c :=
    husable.of_stays (@Answered.stays (fun _ => True) _ _ _ _ hanswered trivial)
  have hready' : Ready site { s₁ with client := c } := by
    refine ⟨hlater.clean.numbered, fun mapping' hmapping' => ?_⟩
    obtain rfl : mapping = mapping' := Option.some_inj.mp (hmapping.symm.trans hmapping')
    exact hlater
  have hkept : KeepsReading s { s₁ with client := c } :=
    honly.keepsReading.trans ⟨rfl, rfl, rfl, rfl, rfl, rfl, Nat.le_refl _⟩
  have hinverter : s₁.inverterRetryAt = s.inverterRetryAt ∧
      s₁.inverterFailures = s.inverterFailures ∧ s₁.ticks = s.ticks := by
    rw [honly]
    exact ⟨rfl, rfl, rfl⟩
  have htold' : Told site.clock s₁.ticks s₁.inverterFailures s₁.inverterRetryAt := by
    rw [hinverter.1, hinverter.2.1, hinverter.2.2]
    exact htold
  refine (@ends_inverterPower site { s₁ with client := c } mapping readInverter hready' hmapping
    htold').mono ?_ fun _ _ h => h.elim
  intro inverterW s₂ hdone
  have hall : Grows (fun _ => True) s.client s₂.client :=
    (hasked.mono fun _ _ => trivial).trans hdone.grows
  refine ⟨⟨hdone.ready.numbered, hdone.ready.mapped⟩, ?_, ?_, rfl, ?_, hall, ?_,
    hdone.told.later (Nat.le_succ _), ?_⟩
  · exact (hkept.trans hdone.keeps).trans
      ⟨rfl, rfl, rfl, rfl, rfl, (hkept.trans hdone.keeps).polls.symm, Nat.le_succ _⟩
  · show s₂.polls + 1 = s.polls + 1
    rw [(hkept.trans hdone.keeps).polls]
  · exact ⟨s₂.ticks, (hkept.trans hdone.keeps).ticks, Nat.lt_succ_self _, rfl⟩
  · rcases hdone.waited with hgrows | hwaited
    · exact .inl (hasked.trans hgrows)
    · refine .inr fun t ht => ?_
      obtain ⟨i, hle, hlt, hi⟩ := hwaited t (hinverter.1.trans ht)
      exact ⟨i, hinverter.2.2 ▸ hle, Nat.lt_succ_of_lt hlt, hi⟩
  · -- the power request was answered on the connection before the inverter block was asked for
    exact ⟨mapping, s₁.client, c, hmapped.mono fun _ _ => trivial, husable.magic,
      ⟨e, registers, hanswered, hanswers, hfor, rfl, rfl, rfl, rfl⟩, hdone.grows, hdone.frame⟩

end SolarFlowEms.E3dc
