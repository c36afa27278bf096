import SolarFlowEms.Library.LimitedRetries
import SolarFlowEms.Runtime.DeviceSettings

/-!
# One slot of the device settings

A call looks at one slot at most once, and what it does there depends on the record of the slot
alone: nothing where an earlier write of the call raised, and else what the rounds of attempts
allow.
-/

namespace SolarFlowEms.DeviceSettings

open Python LimitedRetries
open SolarFlowEms.Config (ConfigTexts)

/-! ### Words and the properties that make them -/

variable {reported : Reported} {value : SettingValue}

theorem shown_unique {setting : Setting} {value' : SettingValue}
    (hvalue : value ∈ setting.values) (hvalue' : value' ∈ setting.values)
    (hshown : value.shown reported = true) (hshown' : value'.shown reported = true) :
    value = value' := by
  cases setting with
  | fan =>
    simp only [Setting.values, List.mem_cons, List.not_mem_nil, or_false] at hvalue hvalue'
    rcases hvalue with rfl | rfl | rfl | rfl <;> rcases hvalue' with rfl | rfl | rfl | rfl <;>
      simp_all [SettingValue.shown]
  | light =>
    simp only [Setting.values, switchValues, List.mem_cons, List.not_mem_nil, or_false] at hvalue hvalue'
    rcases hvalue with rfl | rfl <;> rcases hvalue' with rfl | rfl <;>
      simp_all [SettingValue.shown]
  | buzzer =>
    simp only [Setting.values, switchValues, List.mem_cons, List.not_mem_nil, or_false] at hvalue hvalue'
    rcases hvalue with rfl | rfl <;> rcases hvalue' with rfl | rfl <;>
      simp_all [SettingValue.shown]
  | autoHeat =>
    simp only [Setting.values, switchValues, List.mem_cons, List.not_mem_nil, or_false] at hvalue hvalue'
    rcases hvalue with rfl | rfl <;> rcases hvalue' with rfl | rfl <;>
      simp_all [SettingValue.shown]

theorem mem_values {setting : Setting} {word : String}
    (h : setting.value word = some value) : value ∈ setting.values ∧ value.word = word := by
  refine ⟨List.mem_of_find?_eq_some h, ?_⟩
  have hfound : decide (value.word = word) = true := by simpa using List.find?_some h
  exact of_decide_eq_true hfound

theorem reportedWord_of_shown {setting : Setting} {word : String}
    (hvalue : setting.value word = some value)
    (hshown : value.shown reported = true) : reportedWord setting reported = some word := by
  obtain ⟨hmem, hword⟩ := mem_values hvalue
  rw [reportedWord]
  cases hfind : setting.values.find? fun value => value.shown reported with
  | none =>
    have hnone := List.find?_eq_none.mp hfind value hmem
    exact absurd hshown hnone
  | some found =>
    have hfound : found.shown reported = true := by simpa using List.find?_some hfind
    have hsame := shown_unique (List.mem_of_find?_eq_some hfind) hmem hfound hshown
    rw [hsame, Option.map_some, hword]

/-- **What is written for a word that is not shown** is what the report has otherwise, and there is
something. -/
theorem changesFor_of_offered {setting : Setting} {word : String}
    (hword : word ∈ setting.values.map SettingValue.word)
    (hoffered : setting.properties.all fun name => (reported name).isSome)
    (hshown : reportedWord setting reported ≠ some word) :
    ∃ value, setting.value word = some value ∧ changesFor setting word reported =
      some (value.properties.filter fun property => reported property.1 ≠ some property.2) ∧
      (value.properties.filter fun property => reported property.1 ≠ some property.2) ≠ [] := by
  obtain ⟨value, hvalue⟩ : ∃ value, setting.value word = some value := by
    obtain ⟨value, hmem, hword⟩ := List.mem_map.mp hword
    refine Option.isSome_iff_exists.mp (List.find?_isSome.mpr ⟨value, hmem, ?_⟩)
    exact decide_eq_true hword
  have hall : value.properties.all fun property => (reported property.1).isSome := by
    refine List.all_eq_true.mpr fun property hproperty => ?_
    refine List.all_eq_true.mp hoffered property.1 (List.mem_flatMap.mpr ⟨value, ?_, ?_⟩)
    · exact (mem_values hvalue).1
    · exact List.mem_map_of_mem hproperty
  refine ⟨value, hvalue, ?_, fun hnil => hshown (reportedWord_of_shown hvalue ?_)⟩
  · rw [changesFor, hvalue]
    exact if_pos hall
  · rw [SettingValue.shown, List.all_eq_true]
    intro property hproperty
    have hnot := List.filter_eq_nil_iff.mp hnil property hproperty
    simpa using hnot

theorem wanted_mem {texts : ConfigTexts} {call : Call} {setting : Setting} {word : String}
    (h : call.wanted texts setting = some word) :
    word ∈ setting.values.map SettingValue.word := by
  rw [Call.wanted, normalizedWord] at h
  split at h
  · cases h
  simp only at h
  split at h
  · cases h
  split at h
  · rename_i hmem
    rwa [Option.some_inj.mp h] at hmem
  · cases h

/-! ### One slot -/

section Slot

variable (texts : ConfigTexts) (call : Call) (setting : Setting)

/-- What a visit makes of the record of its slot, and the write that goes out. -/
def visitSent (sent : Option Sent) : Option Sent × Option Write :=
  match call.wanted texts setting with
  | none => (none, none)
  | some word =>
    if call.shows setting word then (none, none)
    else if !call.offers setting then (sent, none)
    else
      let asked := due word call.now sent
      if !asked.1 || !call.allowed then (asked.2, none)
      else
        (some (count word call.now asked.2),
          some ⟨call.device, setting, word,
            (changesFor setting word call.reported).getD [], call.now⟩)

variable {texts call setting}

theorem sent_put (s : State) (sent : Option Sent) (held : Option (List (String × ℤ))) :
    (s.put call.device setting sent held).sent call.device setting = sent := by
  simp [State.put]

theorem visit_slot (s : State) :
    (visit texts call setting s).1.sent call.device setting =
        (visitSent texts call setting (s.sent call.device setting)).1 ∧
      (visit texts call setting s).2 =
        (visitSent texts call setting (s.sent call.device setting)).2 := by
  rw [visit, visitSent]
  cases call.wanted texts setting with
  | none => exact ⟨sent_put s none none, rfl⟩
  | some word =>
    simp only
    by_cases hshows : call.shows setting word = true
    · rw [if_pos hshows, if_pos hshows]
      exact ⟨sent_put s none none, rfl⟩
    rw [if_neg hshows, if_neg hshows]
    by_cases hoffers : (!call.offers setting) = true
    · rw [if_pos hoffers, if_pos hoffers]
      exact ⟨rfl, rfl⟩
    rw [if_neg hoffers, if_neg hoffers]
    cases (due word call.now (s.sent call.device setting)).1 with
    | false => exact ⟨sent_put s _ _, rfl⟩
    | true =>
      cases call.allowed with
      | false | true => exact ⟨sent_put s _ _, rfl⟩

theorem visit_other (s : State) {device : String} {setting' : Setting}
    (hother : ¬ (device = call.device ∧ setting' = setting)) :
    (visit texts call setting s).1.sent device setting' = s.sent device setting' := by
  have hput (sent : Option Sent) (held : Option (List (String × ℤ))) :
      (s.put call.device setting sent held).sent device setting' = s.sent device setting' :=
    if_neg hother
  rw [visit]
  split
  · exact hput _ _
  split
  · exact hput _ _
  split
  · rfl
  simp only
  split
  · exact hput _ _
  split
  · exact hput _ _
  · exact hput _ _

theorem write_of_visit {s : State} {write : Write}
    (h : (visit texts call setting s).2 = some write) :
    write.device = call.device ∧ write.setting = setting ∧ write.now = call.now ∧
      call.allowed = true ∧ call.offers setting = true ∧
      call.wanted texts setting = some write.word ∧
      call.shows setting write.word = false ∧
      write.changes = (changesFor setting write.word call.reported).getD [] := by
  rw [(visit_slot s).2, visitSent] at h
  split at h
  · cases h
  rename_i word hwanted
  split at h
  · cases h
  rename_i hshows
  split at h
  · cases h
  rename_i hoffers
  simp only at h
  split at h
  · cases h
  rename_i hdue
  obtain rfl := Option.some_inj.mp h
  simp only [Bool.or_eq_true, Bool.not_eq_true', not_or, Bool.not_eq_false] at hdue
  exact ⟨rfl, rfl, rfl, hdue.2, by simpa using hoffers, hwanted, by simpa using hshows, rfl⟩

end Slot

/-! ### A call, seen from one slot -/

section CallSlot

variable {texts : ConfigTexts} {call : Call} {setting : Setting}

theorem visitAll_other (list : List Setting) (s : State) {device : String} {setting' : Setting}
    (hother : device = call.device → setting' ∉ list) :
    (visitAll texts call list s).1.sent device setting' = s.sent device setting' := by
  induction list generalizing s with
  | nil => rfl
  | cons setting rest ih =>
    have hvisit : (visit texts call setting s).1.sent device setting' = s.sent device setting' :=
      visit_other s fun h => hother h.1 (h.2 ▸ List.mem_cons_self)
    have hrest := ih (visit texts call setting s).1 fun h hmem =>
      hother h (List.mem_cons_of_mem _ hmem)
    rw [visitAll]
    split
    · rw [hrest, hvisit]
    · split
      · exact hvisit
      · rw [← hvisit, ← hrest]

theorem setting_of_visitAll {list : List Setting} {s : State} {write : Write}
    (h : write ∈ (visitAll texts call list s).2) :
    ∃ setting ∈ list, ∃ s', (visit texts call setting s').2 = some write := by
  induction list generalizing s with
  | nil => cases h
  | cons setting rest ih =>
    rw [visitAll] at h
    split at h
    · obtain ⟨setting', hmem, s', hs'⟩ := ih h
      exact ⟨setting', List.mem_cons_of_mem _ hmem, s', hs'⟩
    · rename_i first hfirst
      split at h
      · obtain rfl := List.mem_singleton.mp h
        exact ⟨setting, List.mem_cons_self, s, hfirst⟩
      · rcases List.mem_cons.mp h with rfl | h
        · exact ⟨setting, List.mem_cons_self, s, hfirst⟩
        · obtain ⟨setting', hmem, s', hs'⟩ := ih h
          exact ⟨setting', List.mem_cons_of_mem _ hmem, s', hs'⟩

theorem mem_of_visitAll {list : List Setting} {s : State} {write : Write}
    (h : write ∈ (visitAll texts call list s).2) : write.setting ∈ list := by
  obtain ⟨setting, hmem, s', hs'⟩ := setting_of_visitAll h
  rw [(write_of_visit hs').2.1]
  exact hmem

/-- **A write that raises ends the call**; without one the later settings follow. -/
theorem visitAll_append (list rest : List Setting) (s : State) :
    visitAll texts call (list ++ rest) s =
      if (visitAll texts call list s).2.any fun write => call.outcome write.setting = .raised then
        visitAll texts call list s
      else
        ((visitAll texts call rest (visitAll texts call list s).1).1,
          (visitAll texts call list s).2 ++
            (visitAll texts call rest (visitAll texts call list s).1).2) := by
  induction list generalizing s with
  | nil => rfl
  | cons setting list ih =>
    rw [List.cons_append, visitAll, visitAll]
    cases hvisit : (visit texts call setting s).2 with
    | none => exact ih _
    | some write =>
      obtain ⟨-, hsetting, -⟩ := write_of_visit hvisit
      simp only
      by_cases hraised : call.outcome setting = .raised
      · rw [if_pos hraised, if_pos hraised, if_pos (by simp [hsetting, hraised])]
      · rw [if_neg hraised, if_neg hraised, ih]
        simp only [List.any_cons, hsetting, hraised, decide_false, Bool.false_or]
        split
        · rfl
        · rfl

def earlier (setting : Setting) : List Setting := settings.takeWhile (· ≠ setting)

variable (texts call setting) in
def Reaches (s : State) : Prop :=
  ∀ write ∈ (reconcile texts call s).2, write.setting ∈ earlier setting →
    call.outcome write.setting ≠ .raised

theorem settings_eq (setting : Setting) :
    ∃ later, settings = earlier setting ++ setting :: later ∧ setting ∉ earlier setting ∧
      setting ∉ later := by
  cases setting with
  | light => exact ⟨[.fan, .buzzer, .autoHeat], by decide, by decide, by decide⟩
  | fan => exact ⟨[.buzzer, .autoHeat], by decide, by decide, by decide⟩
  | buzzer => exact ⟨[.autoHeat], by decide, by decide, by decide⟩
  | autoHeat => exact ⟨[], by decide, by decide, by decide⟩

def writesOf (setting : Setting) (writes : List Write) : List Write :=
  writes.filter (·.setting = setting)

theorem writesOf_append (writes writes' : List Write) :
    writesOf setting (writes ++ writes') = writesOf setting writes ++ writesOf setting writes' :=
  List.filter_append ..

theorem writesOf_of_notMem {list : List Setting} (h : setting ∉ list) (s : State) :
    writesOf setting (visitAll texts call list s).2 = [] := by
  refine List.filter_eq_nil_iff.mpr fun write hwrite => ?_
  simp only [decide_eq_true_iff]
  intro hsetting
  exact h (hsetting ▸ mem_of_visitAll hwrite)

theorem writesOf_visit (s : State) :
    writesOf setting ((visit texts call setting s).2.toList) =
      (visit texts call setting s).2.toList := by
  cases hvisit : (visit texts call setting s).2 with
  | none => rfl
  | some write => simp [writesOf, (write_of_visit hvisit).2.1]

theorem visitAll_head {rest : List Setting} (h : setting ∉ rest) (s : State) :
    (visitAll texts call (setting :: rest) s).1.sent call.device setting =
        (visit texts call setting s).1.sent call.device setting ∧
      writesOf setting (visitAll texts call (setting :: rest) s).2 =
        (visit texts call setting s).2.toList := by
  have hother := @visitAll_other texts call rest (visit texts call setting s).1 call.device setting
    fun _ => h
  have hnone := @writesOf_of_notMem texts call setting rest h (visit texts call setting s).1
  have hvisit := @writesOf_visit texts call setting s
  rw [visitAll]
  cases hwrite : (visit texts call setting s).2 with
  | none => exact ⟨hother, hnone⟩
  | some write =>
    rw [hwrite] at hvisit
    simp only
    split
    · exact ⟨rfl, hvisit⟩
    · refine ⟨hother, ?_⟩
      rw [← List.singleton_append, writesOf_append, hnone, List.append_nil]
      exact hvisit

/-- **A call does with a slot what its record says**, or nothing where an earlier write raised. -/
theorem reconcile_slot (s : State) :
    (Reaches texts call setting s →
      (reconcile texts call s).1.sent call.device setting =
          (visitSent texts call setting (s.sent call.device setting)).1 ∧
        writesOf setting (reconcile texts call s).2 =
          (visitSent texts call setting (s.sent call.device setting)).2.toList) ∧
    (¬ Reaches texts call setting s →
      (reconcile texts call s).1.sent call.device setting = s.sent call.device setting ∧
        writesOf setting (reconcile texts call s).2 = []) := by
  obtain ⟨later, hsettings, hearlier, hlater⟩ := settings_eq setting
  have hbefore := @visitAll_other texts call (earlier setting) s call.device setting
    fun _ => hearlier
  have hnone := @writesOf_of_notMem texts call setting (earlier setting) hearlier s
  have hcall : reconcile texts call s =
      visitAll texts call (earlier setting ++ setting :: later) s := by
    rw [reconcile, ← hsettings]
  rw [visitAll_append] at hcall
  by_cases hraised : ((visitAll texts call (earlier setting) s).2.any fun write =>
      call.outcome write.setting = .raised) = true
  · rw [if_pos hraised] at hcall
    have hends : ¬ Reaches texts call setting s := by
      obtain ⟨write, hwrite, hends⟩ := List.any_eq_true.mp hraised
      intro h
      refine h write ?_ (mem_of_visitAll hwrite) (of_decide_eq_true hends)
      rw [hcall]
      exact hwrite
    refine ⟨fun h => absurd h hends, fun _ => ?_⟩
    rw [hcall]
    exact ⟨hbefore, hnone⟩
  · rw [if_neg hraised] at hcall
    have hreaches : Reaches texts call setting s := by
      intro write hwrite hsetting hends
      apply hraised
      rw [hcall] at hwrite
      rcases List.mem_append.mp hwrite with hwrite | hwrite
      · exact List.any_eq_true.mpr ⟨write, hwrite, decide_eq_true hends⟩
      · have hnodup : ∀ setting' ∈ setting :: later, setting' ∉ earlier setting := by
          have hall : settings.Nodup := by decide
          rw [hsettings] at hall
          intro setting' hmem hmem'
          exact (List.nodup_append.mp hall).2.2 _ hmem' _ hmem rfl
        exact absurd hsetting (hnodup _ (mem_of_visitAll hwrite))
    refine ⟨fun _ => ?_, fun h => absurd hreaches h⟩
    obtain ⟨hsent, hwrites⟩ := @visitAll_head texts call setting later hlater
      (visitAll texts call (earlier setting) s).1
    obtain ⟨hslot, hwrite⟩ := @visit_slot texts call setting
      (visitAll texts call (earlier setting) s).1
    rw [hcall, writesOf_append, hnone, hwrites, hwrite, hbefore]
    refine ⟨?_, rfl⟩
    rw [hsent, hslot, hbefore]

theorem reconcile_other (s : State) {device : String} (hother : device ≠ call.device) :
    (reconcile texts call s).1.sent device setting = s.sent device setting :=
  visitAll_other settings s fun h => absurd h hother

end CallSlot

/-! ### Rounds of attempts -/

def limits : Limits ℚ := ⟨resendSeconds, holdSeconds, maxAttempts⟩

def attemptsOf (word : String) (sent : Option Sent) : Option (Attempts ℚ) :=
  (sent.filter (·.word = word)).map fun sent => ⟨sent.attempts, sent.last⟩

section Rounds

variable {word : String} {now : ℚ} {sent : Option Sent} {sends : List ℚ}

theorem attemptsOf_some {record : Sent} (h : record.word = word) :
    attemptsOf word (some record) = some ⟨record.attempts, record.last⟩ := by
  simp [attemptsOf, h]

theorem attemptsOf_other {record : Sent} (h : record.word ≠ word) :
    attemptsOf word (some record) = none := by
  simp [attemptsOf, h]

theorem due_attempts : match attemptsOf word sent with
    | none => (due word now sent).1 = true ∧ attemptsOf word (due word now sent).2 = none
    | some record => (due word now sent).1 = (LimitedRetries.due limits now record).1 ∧
        attemptsOf word (due word now sent).2 = some (LimitedRetries.due limits now record).2 := by
  cases sent with
  | none => exact ⟨rfl, rfl⟩
  | some record =>
    by_cases hword : record.word = word
    · have hsame : due word now (some record) =
          if now - record.last < resendSeconds then (false, some record)
          else if record.attempts < maxAttempts then (true, some record)
          else if now - record.last < holdSeconds then (false, some { record with warned := true })
          else (true, some { record with warned := true, attempts := 0 }) :=
        if_neg (not_not.mpr hword)
      have hrecord : LimitedRetries.due limits now ⟨record.attempts, record.last⟩ =
          if now - record.last < resendSeconds then (false, ⟨record.attempts, record.last⟩)
          else if record.attempts < maxAttempts then (true, ⟨record.attempts, record.last⟩)
          else if now - record.last < holdSeconds then (false, ⟨record.attempts, record.last⟩)
          else (true, ⟨0, record.last⟩) := rfl
      rw [attemptsOf_some hword]
      simp only [hsame, hrecord]
      split
      · exact ⟨rfl, attemptsOf_some hword⟩
      split
      · exact ⟨rfl, attemptsOf_some hword⟩
      split
      · exact ⟨rfl, attemptsOf_some hword⟩
      · exact ⟨rfl, attemptsOf_some hword⟩
    · have hdue : due word now (some record) = (true, some record) := if_pos hword
      rw [attemptsOf_other hword, hdue]
      exact ⟨rfl, attemptsOf_other hword⟩

theorem count_attempts : attemptsOf word (some (count word now sent)) =
    some (match attemptsOf word sent with
      | none => ⟨1, now⟩
      | some record => ⟨record.count + 1, now⟩) := by
  cases sent with
  | none => exact attemptsOf_some rfl
  | some record =>
    by_cases hword : record.word = word
    · rw [attemptsOf_some hword, count, if_neg (not_not.mpr hword)]
      exact attemptsOf_some hword
    · rw [attemptsOf_other hword, count, if_pos hword]
      exact attemptsOf_some rfl

theorem Kept.ask (h : Kept limits now (attemptsOf word sent) sends) :
    Kept limits now (attemptsOf word (due word now sent).2) sends := by
  have hdue := @due_attempts word now sent
  cases hfound : attemptsOf word sent with
  | none =>
    rw [hfound] at hdue h
    rw [hdue.2]
    exact h
  | some record =>
    rw [hfound] at hdue h
    rw [hdue.2]
    exact h.due

/-- **A write that is due keeps the rounds.** -/
theorem Kept.count (h : Kept limits now (attemptsOf word sent) sends)
    (hasked : (DeviceSettings.due word now sent).1 = true) :
    Kept limits now
      (attemptsOf word (some (DeviceSettings.count word now (DeviceSettings.due word now sent).2)))
      (now :: sends) := by
  have hdue := @due_attempts word now sent
  rw [count_attempts]
  cases hfound : attemptsOf word sent with
  | none =>
    rw [hfound] at hdue h
    rw [hdue.2, h.fresh rfl]
    exact Kept.first (by decide)
  | some record =>
    rw [hfound] at hdue h
    rw [hdue.2]
    obtain ⟨hresend, hlast, hcount⟩ := due_true (hdue.1.symm.trans hasked) (by decide)
    exact h.due.send (by rw [hlast]; exact hresend) hcount

variable {texts : ConfigTexts} {call : Call} {setting : Setting}

/-- **A visit keeps the rounds of a word** that is wanted and not shown. -/
theorem kept_visitSent (h : Kept limits call.now (attemptsOf word sent) sends)
    (hwanted : call.wanted texts setting = some word) (hshows : call.shows setting word = false) :
    Kept limits call.now (attemptsOf word (visitSent texts call setting sent).1)
      ((visitSent texts call setting sent).2.toList.map Write.now ++ sends) := by
  rw [visitSent, hwanted]
  simp only [hshows, Bool.false_eq_true, if_false]
  by_cases hoffers : (!call.offers setting) = true
  · rw [if_pos hoffers]
    exact h
  rw [if_neg hoffers]
  by_cases hsends : (!(due word call.now sent).1 || !call.allowed) = true
  · rw [if_pos hsends]
    exact Kept.ask h
  · rw [if_neg hsends]
    simp only [Bool.or_eq_true, Bool.not_eq_true', not_or, Bool.not_eq_false] at hsends
    exact Kept.count h hsends.1

theorem attempts_visitSent (h : ∀ record, sent = some record → record.attempts ≤ maxAttempts) :
    ∀ record, (visitSent texts call setting sent).1 = some record →
      record.attempts ≤ maxAttempts := by
  have hdue (word : String) : ∀ record, (due word call.now sent).2 = some record →
      record.attempts ≤ maxAttempts ∧
        ((due word call.now sent).1 = true → record.word = word → record.attempts < maxAttempts) := by
    intro record hrecord
    cases sent with
    | none => cases hrecord
    | some found =>
      have hle := h found rfl
      rw [due] at hrecord ⊢
      split at hrecord
      · rename_i hword
        rw [if_pos hword]
        obtain rfl := Option.some_inj.mp hrecord
        exact ⟨hle, fun _ hsame => absurd hsame hword⟩
      rename_i hword
      rw [if_neg hword]
      split at hrecord
      · rename_i hresend
        rw [if_pos hresend]
        obtain rfl := Option.some_inj.mp hrecord
        exact ⟨hle, fun hfalse => by cases hfalse⟩
      rename_i hresend
      rw [if_neg hresend]
      split at hrecord
      · rename_i hroom
        obtain rfl := Option.some_inj.mp hrecord
        exact ⟨hle, fun _ _ => hroom⟩
      rename_i hroom
      rw [if_neg hroom]
      split at hrecord
      · rename_i hhold
        rw [if_pos hhold]
        obtain rfl := Option.some_inj.mp hrecord
        exact ⟨hle, fun hfalse => by cases hfalse⟩
      · obtain rfl := Option.some_inj.mp hrecord
        exact ⟨Nat.zero_le _, fun _ _ => (by decide : 0 < maxAttempts)⟩
  intro record hrecord
  rw [visitSent] at hrecord
  split at hrecord
  · cases hrecord
  rename_i word hwanted
  split at hrecord
  · cases hrecord
  split at hrecord
  · exact h record hrecord
  simp only at hrecord
  split at hrecord
  · exact (hdue word record hrecord).1
  · rename_i hsends
    simp only [Bool.or_eq_true, Bool.not_eq_true', not_or, Bool.not_eq_false] at hsends
    obtain rfl := Option.some_inj.mp hrecord
    cases hfound : (due word call.now sent).2 with
    | none => exact (by decide : 1 ≤ maxAttempts)
    | some found =>
      rw [count]
      split
      · exact (by decide : 1 ≤ maxAttempts)
      · rename_i hword
        exact (hdue word found hfound).2 hsends.1 (not_not.mp hword)

end Rounds

end SolarFlowEms.DeviceSettings
