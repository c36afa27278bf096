import Mathlib.Tactic.Linarith
import SolarFlowEms.Runtime.SettingSlots

/-!
# The settings of a device are not hammered

The writes of a setting follow the rounds of attempts for as long as its word is wanted and not
shown.  A record is dropped where the word is shown or handed back, unless an earlier write of that
call raised and ended it.
-/

namespace SolarFlowEms.DeviceSettings

open Python LimitedRetries
open SolarFlowEms.Config (ConfigTexts)

variable {texts : ConfigTexts}

/-! ### Runs -/

def slotWrites (device : String) (setting : Setting) (writes : List Write) : List Write :=
  writes.filter fun write => write.device = device ∧ write.setting = setting

theorem slotWrites_append (device : String) (setting : Setting) (writes writes' : List Write) :
    slotWrites device setting (writes ++ writes') =
      slotWrites device setting writes ++ slotWrites device setting writes' :=
  List.filter_append ..

section CallWrites

variable {call : Call} {setting : Setting} {device : String}

theorem write_of_reconcile {s : State} {write : Write}
    (h : write ∈ (reconcile texts call s).2) :
    write.device = call.device ∧ write.now = call.now ∧ call.allowed = true ∧
      call.offers write.setting = true ∧ call.wanted texts write.setting = some write.word ∧
      call.shows write.setting write.word = false ∧
      write.changes = (changesFor write.setting write.word call.reported).getD [] := by
  obtain ⟨setting, -, s', hvisit⟩ := setting_of_visitAll h
  obtain ⟨hdevice, rfl, hrest⟩ := write_of_visit hvisit
  exact ⟨hdevice, hrest⟩

theorem slotWrites_reconcile (s : State) :
    slotWrites call.device setting (reconcile texts call s).2 =
      writesOf setting (reconcile texts call s).2 := by
  refine List.filter_congr fun write hwrite => ?_
  simp [(write_of_reconcile hwrite).1]

theorem slotWrites_other (s : State) (hother : device ≠ call.device) :
    slotWrites device setting (reconcile texts call s).2 = [] := by
  refine List.filter_eq_nil_iff.mpr fun write hwrite => ?_
  have hdevice := (write_of_reconcile hwrite).1
  simp [hdevice, hother.symm]

theorem reconcile_cases (s : State) (device : String) (setting : Setting) :
    (device = call.device ∧ Reaches texts call setting s ∧
        (reconcile texts call s).1.sent device setting =
          (visitSent texts call setting (s.sent device setting)).1 ∧
        slotWrites device setting (reconcile texts call s).2 =
          (visitSent texts call setting (s.sent device setting)).2.toList) ∨
      ((reconcile texts call s).1.sent device setting = s.sent device setting ∧
        slotWrites device setting (reconcile texts call s).2 = []) := by
  obtain ⟨hreached, hskipped⟩ := @reconcile_slot texts call setting s
  by_cases hdevice : device = call.device
  · subst hdevice
    rw [slotWrites_reconcile]
    by_cases hreaches : Reaches texts call setting s
    · exact .inl ⟨rfl, hreaches, hreached hreaches⟩
    · exact .inr (hskipped hreaches)
  · exact .inr ⟨reconcile_other s hdevice, slotWrites_other s hdevice⟩

end CallWrites

/-! ### Rounds over a run -/

section Windows

variable {device : String} {setting : Setting} {word : String}

theorem attempts_runCalls {s : State} (calls : List Call)
    (h : ∀ record, s.sent device setting = some record → record.attempts ≤ maxAttempts) :
    ∀ record, (runCalls texts s calls).1.sent device setting = some record →
      record.attempts ≤ maxAttempts := by
  induction calls generalizing s with
  | nil => exact h
  | cons call calls ih =>
    refine @ih (reconcile texts call s).1 ?_
    rcases @reconcile_cases texts call s device setting with ⟨-, -, hsent, -⟩ | ⟨hsent, -⟩
    · rw [hsent]
      exact attempts_visitSent h
    · rw [hsent]
      exact h

def Pending (texts : ConfigTexts) (device : String) (setting : Setting) (word : String)
    (call : Call) : Prop :=
  call.device = device → call.wanted texts setting = some word ∧ call.shows setting word = false

theorem kept_reconcile {s : State} {call : Call} {sends : List ℚ}
    (h : Kept limits call.now (attemptsOf word (s.sent device setting)) sends)
    (hpending : Pending texts device setting word call) :
    Kept limits call.now (attemptsOf word ((reconcile texts call s).1.sent device setting))
      ((slotWrites device setting (reconcile texts call s).2).reverse.map Write.now ++ sends) := by
  rcases @reconcile_cases texts call s device setting with
    ⟨hdevice, -, hsent, hwrites⟩ | ⟨hsent, hwrites⟩
  · obtain ⟨hwanted, hshows⟩ := hpending hdevice.symm
    rw [hsent, hwrites]
    have hkept := kept_visitSent h hwanted hshows
    cases hwrite : (visitSent texts call setting (s.sent device setting)).2 with
    | none =>
      rw [hwrite] at hkept
      exact hkept
    | some write =>
      rw [hwrite] at hkept
      exact hkept
  · rw [hsent, hwrites]
    exact h

/-- **A run with the word pending keeps its rounds**, from a record with a round's attempts. -/
theorem kept_runCalls {s : State} {calls : List Call} {now : ℚ} {sends : List ℚ}
    (h : Kept limits now (attemptsOf word (s.sent device setting)) sends)
    (hclock : (calls.map Call.now).Pairwise (· ≤ ·)) (hnow : ∀ call ∈ calls, now ≤ call.now)
    (hpending : ∀ call ∈ calls, Pending texts device setting word call) :
    ∃ later, Kept limits later
      (attemptsOf word ((runCalls texts s calls).1.sent device setting))
      ((slotWrites device setting (runCalls texts s calls).2).reverse.map Write.now ++ sends) := by
  induction calls generalizing s now sends with
  | nil => exact ⟨now, h⟩
  | cons call calls ih =>
    obtain ⟨hfirst, hrest⟩ := List.pairwise_cons.mp hclock
    have hkept := kept_reconcile (h.wait (hnow call List.mem_cons_self))
      (hpending call List.mem_cons_self)
    obtain ⟨later, hlater⟩ := ih hkept hrest
      (fun call' hmem => hfirst call'.now (List.mem_map_of_mem hmem))
      fun call' hmem => hpending call' (List.mem_cons_of_mem _ hmem)
    refine ⟨later, ?_⟩
    rw [runCalls]
    simp only [slotWrites_append, List.reverse_append, List.map_append, List.append_assoc]
    exact hlater

theorem pairwise_of_spaced {sends : List ℚ}
    (h : sends.IsChain fun later earlier => resendSeconds ≤ later - earlier) :
    sends.Pairwise fun later earlier => resendSeconds ≤ later - earlier := by
  have hpos : (0 : ℚ) ≤ resendSeconds := by decide
  have htrans : IsTrans ℚ fun later earlier : ℚ => resendSeconds ≤ later - earlier :=
    ⟨fun a b c hab hbc => by linarith⟩
  exact List.isChain_iff_pairwise.mp h

/-- Attempts in their order keep the rounds: any two are a while apart, and one attempt more than
a round has spans the longer while. -/
structure InRounds (sends : List ℚ) : Prop where
  spaced : sends.Pairwise fun earlier later => resendSeconds ≤ later - earlier
  spans : ∀ (i : ℕ) earlier later, sends[i]? = some earlier → sends[i + maxAttempts]? = some later →
    holdSeconds ≤ later - earlier

theorem inRounds_of_kept {now : ℚ} {record : Option (Attempts ℚ)} {sends : List ℚ}
    (h : Kept limits now record sends.reverse) : InRounds sends := by
  constructor
  · exact List.pairwise_reverse.mp (pairwise_of_spaced h.spaced)
  · intro i earlier later hearlier hlater
    obtain ⟨hlength, -⟩ := List.getElem?_eq_some_iff.mp hlater
    -- counted from the latest attempt, the later of the two comes first
    have hspan := h.spans (sends.length - 1 - (i + maxAttempts)) later earlier
    rw [List.getElem?_reverse (by omega), List.getElem?_reverse ?_] at hspan
    · refine hspan ?_ ?_
      · rw [← hlater]
        congr 1
        omega
      · rw [← hearlier]
        congr 1
        simp only [limits]
        omega
    · simp only [limits]
      omega

theorem inRounds_of_pending (before window : List Call)
    (hclock : (window.map Call.now).Pairwise (· ≤ ·))
    (hpending : ∀ call ∈ window, Pending texts device setting word call) :
    InRounds ((slotWrites device setting
      (runCalls texts (runCalls texts State.initial before).1 window).2).map Write.now) := by
  have hattempts := @attempts_runCalls texts device setting State.initial before
    fun record hrecord => by cases hrecord
  cases window with
  | nil => exact ⟨List.Pairwise.nil, fun i earlier later hearlier _ => by cases hearlier⟩
  | cons call window =>
    have hstart : Kept limits call.now
        (attemptsOf word ((runCalls texts State.initial before).1.sent device setting)) [] := by
      refine Kept.nil fun a ha => ?_
      obtain ⟨record, hrecord, rfl⟩ := Option.map_eq_some_iff.mp ha
      exact hattempts record (Option.filter_eq_some_iff.mp hrecord).1
    obtain ⟨later, hlater⟩ := kept_runCalls hstart hclock (fun call' hmem => by
      rcases List.mem_cons.mp hmem with rfl | hmem
      · exact le_refl _
      · exact (List.pairwise_cons.mp hclock).1 call'.now (List.mem_map_of_mem hmem)) hpending
    refine @inRounds_of_kept later
      (attemptsOf word ((runCalls texts (runCalls texts State.initial before).1
        (call :: window)).1.sent device setting)) _ ?_
    rw [← List.map_reverse]
    rw [List.append_nil] at hlater
    exact hlater

end Windows

/-! ### What goes out, and when again -/

section Again

variable {device : String} {setting : Setting}

variable {s : State} {calls : List Call} {write : Write}

theorem call_of_runCalls (h : write ∈ (runCalls texts s calls).2) :
    ∃ call ∈ calls, ∃ s', write ∈ (reconcile texts call s').2 := by
  induction calls generalizing s with
  | nil => cases h
  | cons call calls ih =>
    rw [runCalls] at h
    rcases List.mem_append.mp h with hwrite | hwrite
    · exact ⟨call, List.mem_cons_self, s, hwrite⟩
    · obtain ⟨call', hmem, s', hs'⟩ := ih hwrite
      exact ⟨call', List.mem_cons_of_mem _ hmem, s', hs'⟩

/-- The write is one that its call asks for: allowed, for an offered setting, with what the report
has otherwise than the wanted word, and no less than one property. -/
def AskedFor (texts : ConfigTexts) (write : Write) (call : Call) : Prop :=
  write.device = call.device ∧ write.now = call.now ∧ call.allowed = true ∧
    call.offers write.setting = true ∧ call.wanted texts write.setting = some write.word ∧
    (∃ value, write.setting.value write.word = some value ∧ write.changes =
      value.properties.filter fun property => call.reported property.1 ≠ some property.2) ∧
    write.changes ≠ []

theorem askedFor_of_reconcile {call : Call}
    (h : write ∈ (reconcile texts call s).2) : AskedFor texts write call := by
  obtain ⟨hdevice, hnow, hallowed, hoffers, hwanted, hshows, hchanges⟩ := write_of_reconcile h
  have hreported : reportedWord write.setting call.reported ≠ some write.word := by
    simpa [Call.shows, hoffers] using hshows
  have hcarried : (write.setting.properties.all fun name => (call.reported name).isSome) = true := by
    rw [Call.offers, Bool.and_eq_true] at hoffers
    exact hoffers.2
  obtain ⟨value, hvalue, hfor, hsome⟩ :=
    changesFor_of_offered (wanted_mem hwanted) hcarried hreported
  rw [hfor, Option.getD_some] at hchanges
  refine ⟨hdevice, hnow, hallowed, hoffers, hwanted, ⟨value, hvalue, hchanges⟩, ?_⟩
  rw [hchanges]
  exact hsome

/-- The word of the setting is handed back, or shown by the report. -/
def Released (texts : ConfigTexts) (setting : Setting) (call : Call) : Prop :=
  ∀ word, call.wanted texts setting = some word → call.shows setting word = true

theorem sent_of_released {call : Call} (hreleased : Released texts setting call)
    (hreaches : Reaches texts call setting s) :
    (reconcile texts call s).1.sent call.device setting = none := by
  rw [((@reconcile_slot texts call setting s).1 hreaches).1, visitSent]
  cases hwanted : call.wanted texts setting with
  | none => rfl
  | some word =>
    simp only
    rw [if_pos (hreleased word hwanted)]

theorem visitSent_silent {call : Call} (h : (visitSent texts call setting none).2 = none) :
    (visitSent texts call setting none).1 = none := by
  rw [visitSent] at h ⊢
  cases hwanted : call.wanted texts setting with
  | none => rfl
  | some word =>
    rw [hwanted] at h
    simp only [due] at h ⊢
    by_cases hshows : call.shows setting word = true
    · rw [if_pos hshows]
    rw [if_neg hshows] at h ⊢
    by_cases hoffers : (!call.offers setting) = true
    · rw [if_pos hoffers]
    rw [if_neg hoffers] at h ⊢
    cases hallowed : call.allowed with
    | false => rfl
    | true =>
      rw [hallowed] at h
      cases h

theorem sent_of_silent (hsent : s.sent device setting = none)
    (hsilent : slotWrites device setting (runCalls texts s calls).2 = []) :
    (runCalls texts s calls).1.sent device setting = none := by
  induction calls generalizing s with
  | nil => exact hsent
  | cons call calls ih =>
    rw [runCalls] at hsilent ⊢
    rw [slotWrites_append, List.append_eq_nil_iff] at hsilent
    refine ih ?_ hsilent.2
    rcases @reconcile_cases texts call s device setting with ⟨-, -, hslot, hwrites⟩ | ⟨hslot, -⟩
    · rw [hslot, hsent]
      rw [hsilent.1, hsent] at hwrites
      exact visitSent_silent (Option.toList_eq_nil_iff.mp hwrites.symm)
    · rw [hslot]
      exact hsent

def Differs (texts : ConfigTexts) (setting : Setting) (word : String) (call : Call) : Prop :=
  call.wanted texts setting = some word ∧ call.shows setting word = false ∧
    call.offers setting = true ∧ call.allowed = true

theorem written_of_fresh {call : Call} {word : String}
    (hsent : s.sent call.device setting = none) (hdiffers : Differs texts setting word call)
    (hreaches : Reaches texts call setting s) :
    ∃ write ∈ slotWrites call.device setting (reconcile texts call s).2,
      write.word = word ∧ write.now = call.now := by
  obtain ⟨hwanted, hshows, hoffers, hallowed⟩ := hdiffers
  rw [slotWrites_reconcile, ((@reconcile_slot texts call setting s).1 hreaches).2, hsent, visitSent,
    hwanted]
  simp [hshows, hoffers, hallowed, due]

end Again

/-! ### Main result -/

/-- **Device settings are not hammered.**  In a run at non-decreasing times, the writes of a slot
whose word is pending keep the rounds; every write is one that its call asks for; and where a call
releases the setting and reaches it, the next call that reaches it and finds another word wanted
writes it. -/
theorem settings_not_hammered (before window : List Call)
    (hclock : ((before ++ window).map Call.now).Pairwise (· ≤ ·)) (device : String)
    (setting : Setting) :
    (∀ word, (∀ call ∈ window, Pending texts device setting word call) →
      InRounds ((slotWrites device setting
        (runCalls texts (runCalls texts State.initial before).1 window).2).map Write.now)) ∧
    (∀ write ∈ (runCalls texts State.initial (before ++ window)).2,
      ∃ call ∈ before ++ window, AskedFor texts write call) ∧
    (∀ first mid second word, window = first :: (mid ++ [second]) →
      first.device = device → second.device = device →
      let start := (runCalls texts State.initial before).1
      let released := (reconcile texts first start).1
      let found := (runCalls texts released mid).1
      Released texts setting first → Reaches texts first setting start →
      slotWrites device setting (runCalls texts released mid).2 = [] →
      Differs texts setting word second → Reaches texts second setting found →
      ∃ write ∈ slotWrites device setting (reconcile texts second found).2,
        write.word = word ∧ write.now = second.now) := by
  refine ⟨fun word hpending => ?_, fun write hwrite => ?_, ?_⟩
  · rw [List.map_append] at hclock
    exact inRounds_of_pending before window (List.pairwise_append.mp hclock).2.1 hpending
  · obtain ⟨call, hcall, s', hs'⟩ := call_of_runCalls hwrite
    exact ⟨call, hcall, askedFor_of_reconcile hs'⟩
  · intro first mid second word _ hfirst hsecond start released found hreleased hreaches hsilent
      hdiffers hreached
    have hnone : released.sent device setting = none := by
      rw [← hfirst]
      exact sent_of_released hreleased hreaches
    have hfound : found.sent second.device setting = none := by
      rw [hsecond]
      exact sent_of_silent hnone hsilent
    rw [← hsecond]
    exact written_of_fresh hfound hdiffers hreached

/-! ### A light that raises while the fan is handed back -/

/-- Stored values of the runs below are words. -/
def wordTexts : ConfigTexts where
  str v := v.str?.getD ""
  repr v := v.str?.getD ""
  int _ := none
  str_str := Config.getD_str?_str

/-- The light is to be on and is off; the fan is off, and wanted as given. -/
def lampCall (now : ℚ) (fan : PyValue) (light : Outcome) : Call where
  device := "inverter"
  supportsStateReconciliation := true
  modelSettings := ["light", "fan"]
  reported name := if name ∈ ["lampSwitch", "Fanmode", "Fanspeed"] then some 0 else none
  stored
    | .light => .str "on"
    | .fan => fan
    | _ => .none
  allowed := true
  now := now
  outcome
    | .light => light
    | _ => .answered

/-- A light is sent again after half a minute, and a fan that was handed back at once. -/
theorem settings_not_hammered_lamp :
    ((slotWrites "inverter" .light (runCalls wordTexts State.initial
      [lampCall 0 .none .refused, lampCall 20 .none .refused, lampCall 30 .none .refused]).2).map
        Write.now = [0, 30] ∧ InRounds [0, 30]) ∧
    ∃ write ∈ slotWrites "inverter" .fan (reconcile wordTexts (lampCall 21 (.str "auto") .refused)
        (runCalls wordTexts State.initial
          [lampCall 0 (.str "auto") .refused, lampCall 20 .none .refused]).1).2,
      write.word = "auto" ∧ write.now = 21 := by
  have hwrites : (slotWrites "inverter" .light (runCalls wordTexts State.initial
      [lampCall 0 .none .refused, lampCall 20 .none .refused, lampCall 30 .none .refused]).2).map
        Write.now = [0, 30] := by decide +kernel
  have hrounds := (@settings_not_hammered wordTexts []
    [lampCall 0 .none .refused, lampCall 20 .none .refused, lampCall 30 .none .refused]
    (by decide +kernel) "inverter" .light).1 "on" (by
      intro call hcall _
      simp only [List.mem_cons, List.not_mem_nil, or_false] at hcall
      rcases hcall with rfl | rfl | rfl <;> exact ⟨by decide +kernel, by decide +kernel⟩)
  have hreaches (now : ℚ) (fan : PyValue) (s : State) :
      Reaches wordTexts (lampCall now fan .refused) .fan s := by
    intro write _ _
    show (match write.setting with | .light => Outcome.refused | _ => .answered) ≠ .raised
    cases write.setting <;> decide
  refine ⟨⟨hwrites, by rwa [← hwrites]⟩, ?_⟩
  refine (@settings_not_hammered wordTexts [lampCall 0 (.str "auto") .refused]
    [lampCall 20 .none .refused, lampCall 21 (.str "auto") .refused]
    (by decide +kernel) "inverter" .fan).2.2 (lampCall 20 .none .refused) []
      (lampCall 21 (.str "auto") .refused) "auto" rfl rfl rfl ?_ (hreaches 20 .none _) rfl
      ⟨by decide +kernel, by decide +kernel, by decide +kernel, rfl⟩
      (hreaches 21 (.str "auto") _)
  intro word hword
  cases hword

/-- The fan is written at one second and handed back at thirty, in a call that the light's write
ends.  In the next call it is wanted again, allowed and offered, and not written. -/
theorem handed_back_not_written :
    ¬ ∀ (texts : ConfigTexts) (before : List Call) (first second : Call) (setting : Setting)
        (word : String),
      ((before ++ [first, second]).map Call.now).Pairwise (· ≤ ·) → first.device = second.device →
      Released texts setting first → Differs texts setting word second →
      slotWrites second.device setting (reconcile texts second
        (reconcile texts first (runCalls texts State.initial before).1).1).2 ≠ [] := by
  intro h
  refine h wordTexts [lampCall 0 .none .refused, lampCall 1 (.str "auto") .refused]
    (lampCall 30 .none .raised) (lampCall 30 (.str "auto") .refused) .fan "auto"
    (by decide +kernel) rfl ?_ ?_ (by decide +kernel)
  · intro word hword
    cases hword
  · exact ⟨by decide +kernel, by decide +kernel, by decide +kernel, rfl⟩

end SolarFlowEms.DeviceSettings
