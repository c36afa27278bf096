import SolarFlowEms.Schedule.OptimisticLock
import SolarFlowEms.Schedule.ReadBack

/-!
# A rule that was written is read back

The texts of a rule are stripped when they are read, so that they are read again as they are,
and an action is found by the id that is written of it.  What the store adds around the
editable fields is read back too, exactly where the id and the revision are ones a rule can have
(`written_rules_read_back`); a broken rule keeps its id when it is replaced, and so stays broken.
-/

namespace SolarFlowEms.Schedule

open Python Calendar TimeText Fallible

/-! ### Texts -/

theorem length_pyStrip_le (s : String) : (pyStrip s).length ≤ s.length := by
  rw [← String.length_toList, ← String.length_toList, toList_pyStrip]
  exact (List.rdropWhile_prefix _ _).length_le.trans (List.dropWhile_suffix _).length_le

/-- A text as reading leaves it: without spaces around it, not empty and not too long. -/
structure TextOf (maximum : ℕ) (text : String) : Prop where
  stripped : pyStrip text = text
  ne_empty : text ≠ ""
  length_le : text.length ≤ maximum

theorem textOf_pyStrip {maximum : ℕ} {s : String} (hne : pyStrip s ≠ "")
    (hlength : (pyStrip s).length ≤ maximum) : TextOf maximum (pyStrip s) :=
  ⟨pyStrip_pyStrip s, hne, hlength⟩

variable {value payload endValue : PyValue} {name id by_ : String} {device identity : Option String}
  {action : ScheduleAction} {texts : ValueTexts} {revision : ℤ} {rule : ScheduleRule}
  {written stored : ScheduleData} {check : Option (ScheduleBook → Parsed Unit)} {now : UtcTime}

theorem textOf_of_parseName (h : parseName value = .ok name) :
    TextOf nameMaxLength name := by
  rw [parseName.eq_def] at h
  split at h
  · split at h
    · next hname =>
      cases h
      exact textOf_pyStrip hname.1 hname.2
    · cases h
  · cases h

theorem parseName_str (h : TextOf nameMaxLength name) :
    parseName (.str name) = .ok name := by
  rw [parseName, h.stripped, if_pos ⟨h.ne_empty, h.length_le⟩]

theorem textOf_of_parseDevice {device : String}
    (h : parseDevice value = .ok device) : TextOf deviceNameMaxLength device := by
  rw [parseDevice.eq_def] at h
  split at h
  · split at h
    · next hdevice =>
      cases h
      exact textOf_pyStrip hdevice.1 ((length_pyStrip_le _).trans hdevice.2)
    · cases h
  · cases h

theorem parseDevice_str {device : String} (h : TextOf deviceNameMaxLength device) :
    parseDevice (.str device) = .ok device := by
  rw [parseDevice, h.stripped, if_pos ⟨h.ne_empty, h.length_le⟩]

theorem stripped_of_parseIdentity
    (h : parseIdentity value = .ok identity) : ∀ text ∈ identity, pyStrip text = text ∧ text ≠ "" := by
  intro text htext
  rw [parseIdentity.eq_def] at h
  split at h
  · cases h
    cases htext
  · split at h
    · next hne =>
      cases h
      cases htext
      exact ⟨pyStrip_pyStrip _, hne⟩
    · cases h
  · cases h

theorem parseIdentity_orNull (h : ∀ text ∈ identity, pyStrip text = text ∧ text ≠ "") :
    parseIdentity (orNull identity .str) = .ok identity := by
  cases identity with
  | none => rfl
  | some text =>
    obtain ⟨hstrip, hne⟩ := h text rfl
    show parseIdentity (.str text) = _
    rw [parseIdentity, hstrip, if_pos hne]

/-! ### Actions and targets -/

theorem scheduleAction_id (texts : ValueTexts) (h : action ∈ actions) :
    scheduleAction texts (.str action.id) = .ok action := by
  have hfind : ∀ a ∈ actions,
      actions.find? (fun action => (PyValue.str a.id).eqStr action.id) = some a := by decide
  rw [scheduleAction, hfind action h]

theorem mem_actions_of_scheduleAction {actionId : PyValue}
    (h : scheduleAction texts actionId = .ok action) : action ∈ actions := by
  rw [scheduleAction] at h
  split at h
  · next hfind =>
    cases h
    exact List.mem_of_find?_eq_some hfind
  · obtain ⟨text, -, h⟩ := bind_eq_ok.mp h
    cases h

/-- The fields of an action that is written, as the parser leaves them. -/
structure ActionRead (timing : When) (action : ScheduleAction) (value endValue : PyValue) : Prop where
  mem : action ∈ actions
  value : ∃ commands, actionCommands action value = .ok commands
  endValue_isNone : timing.windowEnd? = none ↔ endValue.isNone
  endValue : endValue.isNone = false → ∃ commands, actionCommands action endValue = .ok commands

theorem read_of_parseAction {timing : When}
    (h : parseAction texts payload timing = .ok (action, value, endValue)) :
    ActionRead timing action value endValue := by
  simp only [parseAction, bind_eq_ok] at h
  obtain ⟨entries, -, _, -, action', haction, commands, hcommands, h⟩ := h
  cases hend : timing.windowEnd? with
  | none =>
    rw [hend] at h
    obtain ⟨_, hnone, hret⟩ := bind_eq_ok.mp h
    cases hret
    rw [require_eq_ok] at hnone
    exact ⟨mem_actions_of_scheduleAction haction, ⟨commands, hcommands⟩, by simp [hend, hnone],
      fun hfalse => absurd hnone (by simp [hfalse])⟩
  | some t =>
    rw [hend] at h
    obtain ⟨_, hsome, h⟩ := bind_eq_ok.mp h
    obtain ⟨endCommands, hendCommands, hret⟩ := bind_eq_ok.mp h
    cases hret
    rw [require_eq_ok] at hsome
    exact ⟨mem_actions_of_scheduleAction haction, ⟨commands, hcommands⟩, by simp [hend, hsome],
      fun _ => ⟨endCommands, hendCommands⟩⟩

def actionPayload (action : ScheduleAction) (value endValue : PyValue) : PyValue := .dict
  ([("id", .str action.id), ("value", value)] ++
    if endValue.isNone then [] else [("end_value", endValue)])

theorem parseAction_actionPayload (texts : ValueTexts) {timing : When}
    (h : ActionRead timing action value endValue) :
    parseAction texts (actionPayload action value endValue) timing = .ok (action, value, endValue) := by
  obtain ⟨commands, hcommands⟩ := h.value
  have hfields : ∀ entries, entries = [("id", PyValue.str action.id), ("value", value)] ++
      (if endValue.isNone then [] else [("end_value", endValue)]) →
      knownFields entries ["id", "value", "end_value"] "action" = .ok () ∧
        getValue entries "id" = .str action.id ∧ getValue entries "value" = value ∧
        getValue entries "end_value" = endValue := by
    rintro entries rfl
    cases hnone : endValue.isNone with
    | true =>
      rw [isNone_eq_true.mp hnone]
      simp [knownFields, firstUnknown, getValue, dictGet, List.lookup_cons]
    | false => simp [knownFields, firstUnknown, getValue, dictGet, List.lookup_cons]
  obtain ⟨hknown, hid, hvalue, hendValue⟩ := hfields _ rfl
  simp only [parseAction, bind_eq_ok]
  refine ⟨_, rfl, (), hknown, action, ?_, commands, ?_, ?_⟩
  · rw [hid, scheduleAction_id texts h.mem]
  · rw [hvalue, hcommands]
  · rw [hvalue, hendValue]
    cases hend : timing.windowEnd? with
    | none =>
      have hnone := h.endValue_isNone.mp hend
      exact bind_eq_ok.mpr ⟨(), require_eq_ok.mpr hnone, rfl⟩
    | some t =>
      have hsome : endValue.isNone = false := by
        rw [Bool.eq_false_iff, ne_eq, ← h.endValue_isNone, hend]
        exact Option.some_ne_none t
      obtain ⟨endCommands, hendCommands⟩ := h.endValue hsome
      refine bind_eq_ok.mpr ⟨(), require_eq_ok.mpr ?_, bind_eq_ok.mpr ⟨endCommands, hendCommands, rfl⟩⟩
      simp [hsome]

/-- The target of an action, as the parser leaves it. -/
def TargetRead (action : ScheduleAction) (device identity : Option String) : Prop :=
  if action.perDevice then
    (∃ name, device = some name ∧ TextOf deviceNameMaxLength name) ∧
      ∀ text ∈ identity, pyStrip text = text ∧ text ≠ ""
  else device = none ∧ identity = none

theorem read_of_parseTarget (h : parseTarget texts payload action = .ok (device, identity)) :
    TargetRead action device identity := by
  simp only [parseTarget, bind_eq_ok] at h
  obtain ⟨entries, -, _, -, h⟩ := h
  cases hdevice : action.perDevice with
  | true =>
    simp only [hdevice, if_true] at h
    split at h
    · obtain ⟨name, hname, h⟩ := bind_eq_ok.mp h
      obtain ⟨text, htext, hret⟩ := bind_eq_ok.mp h
      cases hret
      rw [TargetRead, hdevice, if_pos rfl]
      exact ⟨⟨name, rfl, textOf_of_parseDevice hname⟩, stripped_of_parseIdentity htext⟩
    · obtain ⟨text, -, h⟩ := bind_eq_ok.mp h
      cases h
  | false =>
    simp only [hdevice, Bool.false_eq_true, if_false] at h
    split at h
    · obtain ⟨_, -, hret⟩ := bind_eq_ok.mp h
      cases hret
      rw [TargetRead, hdevice, if_neg Bool.false_ne_true]
      exact ⟨rfl, rfl⟩
    · obtain ⟨text, -, h⟩ := bind_eq_ok.mp h
      cases h

def targetPayload (action : ScheduleAction) (device identity : Option String) : PyValue := .dict
  ([("scope", .str (if action.perDevice then "device" else "system"))] ++
    fieldOf "device" device .str ++ fieldOf "identity" identity .str)

theorem getValue_targetFields (scope : String) (device identity : Option String) :
    let entries := [("scope", PyValue.str scope)] ++ fieldOf "device" device .str ++
      fieldOf "identity" identity .str
    knownFields entries ["scope", "device", "identity"] "target" = .ok () ∧
      getValue entries "scope" = .str scope ∧ getValue entries "device" = orNull device .str ∧
      getValue entries "identity" = orNull identity .str := by
  cases device <;> cases identity <;>
    simp [fieldOf, orNull, getValue, dictGet, knownFields, firstUnknown, List.lookup_cons]

theorem parseTarget_targetPayload (texts : ValueTexts) (h : TargetRead action device identity) :
    parseTarget texts (targetPayload action device identity) action = .ok (device, identity) := by
  obtain ⟨hknown, hscope, hdevice, hidentity⟩ :=
    getValue_targetFields (if action.perDevice then "device" else "system") device identity
  simp only [parseTarget, bind_eq_ok]
  refine ⟨_, rfl, (), hknown, ?_⟩
  rw [hscope, hdevice, hidentity]
  cases hper : action.perDevice with
  | true =>
    rw [TargetRead, hper, if_pos rfl] at h
    obtain ⟨⟨name, rfl, hname⟩, htext⟩ := h
    rw [if_pos (by simp [PyValue.eqStr])]
    exact bind_eq_ok.mpr ⟨name, parseDevice_str hname,
      bind_eq_ok.mpr ⟨identity, parseIdentity_orNull htext, rfl⟩⟩
  | false =>
    rw [TargetRead, hper, if_neg Bool.false_ne_true] at h
    obtain ⟨rfl, rfl⟩ := h
    rw [if_pos (by simp [PyValue.eqStr])]
    exact bind_eq_ok.mpr ⟨(), require_eq_ok.mpr ⟨rfl, rfl⟩, rfl⟩

/-! ### Rules -/

/-- Rules that the source holds equal. -/
structure EditableRule.Same (fields fields' : EditableRule) : Prop where
  timing : fields.timing.Same fields'.timing
  rest : fields = { fields' with timing := fields.timing }

structure ScheduleRule.Same (rule rule' : ScheduleRule) : Prop where
  timing : rule.timing.Same rule'.timing
  rest : rule = { rule' with timing := rule.timing }

theorem parseEditable_editableFieldsOf
    {fields : EditableRule} (h : parseEditable texts payload = .ok fields) :
    ∃ read, parseEditable texts
      (.dict (editableFieldsOf fields (whenPayload fields.timing))) = .ok read ∧
        read.Same fields := by
  simp only [parseEditable, bind_eq_ok] at h
  obtain ⟨entries, -, _, -, name, hname, enabled, -, timing, htiming, ⟨action, value, endValue⟩,
    haction, ⟨device, identity⟩, htarget, hret⟩ := h
  cases hret
  obtain ⟨dates, hwhen, hdates⟩ := parseWhen_whenPayload htiming
  have hread := read_of_parseAction haction
  have htimingSame : When.Same { timing with exceptions := dates } timing := ⟨rfl, rfl, rfl, hdates⟩
  refine ⟨⟨name, enabled, action, device, identity, value, endValue,
    { timing with exceptions := dates }⟩, ?_, ⟨htimingSame, rfl⟩⟩
  simp only [parseEditable, bind_eq_ok]
  exact ⟨_, rfl, (), rfl, name, parseName_str (textOf_of_parseName hname), enabled, rfl, _, hwhen,
    (action, value, endValue),
    parseAction_actionPayload texts ⟨hread.mem, hread.value, hread.endValue_isNone, hread.endValue⟩,
    (device, identity), parseTarget_targetPayload texts (read_of_parseTarget htarget), rfl⟩

/-! ### Stamps -/

theorem parseId_eq_ok (h : parseId value = .ok id) :
    value = .str id ∧ isRuleId id = true := by
  rw [parseId.eq_def] at h
  split at h
  · split at h
    · next hrule =>
      cases h
      exact ⟨rfl, hrule⟩
    · cases h
  · cases h

theorem parseRevision_eq_ok (h : parseRevision value = .ok revision) :
    value = .int revision ∧ 1 ≤ revision := by
  rw [parseRevision.eq_def] at h
  split at h
  · split at h
    · next hone =>
      cases h
      exact ⟨rfl, hone⟩
    · cases h
  · cases h

theorem parseEditor_eq_ok {editor : String} (h : parseEditor value = .ok editor) :
    editor ∈ editors := by
  rw [parseEditor] at h
  split at h
  · next hfind =>
    cases h
    exact List.mem_of_find?_eq_some hfind
  · cases h

theorem parseStamp_eq_ok {entries : List (String × PyValue)} {stamp : RuleStamp}
    (h : parseStamp entries = .ok stamp) :
    (getValue entries "id" = .str stamp.id ∧ isRuleId stamp.id = true) ∧
      (getValue entries "revision" = .int stamp.revision ∧ 1 ≤ stamp.revision) ∧
      stamp.updatedBy ∈ editors := by
  simp only [parseStamp, bind_eq_ok] at h
  obtain ⟨_, -, id, hid, revision, hrevision, updatedBy, heditor, updatedAt, -, hret⟩ := h
  cases hret
  exact ⟨parseId_eq_ok hid, parseRevision_eq_ok hrevision, parseEditor_eq_ok heditor⟩

/-- The rule of an editor's fields and what the store adds. -/
def EditableRule.stamped (fields : EditableRule) (stamp : RuleStamp) : ScheduleRule :=
  { fields with
    id := stamp.id, revision := stamp.revision, updatedAt := stamp.updatedAt,
    updatedBy := stamp.updatedBy }

def EditableRule.entry (fields : EditableRule) (stamp : RuleStamp) : PyValue :=
  stampFields (editableFieldsOf fields (whenPayload fields.timing)) stamp

/-- **A stored entry is read where its id and its revision are ones of a rule.** -/
theorem parseRule_entry {texts : ValueTexts} {payload : PyValue} {fields : EditableRule}
    (h : parseEditable texts payload = .ok fields) {stamp : RuleStamp}
    (hid : isRuleId stamp.id = true) (hrevision : 1 ≤ stamp.revision)
    (hby : stamp.updatedBy ∈ editors) :
    ∃ rule, parseRule texts (fields.entry stamp) = .ok rule ∧ rule.Same (fields.stamped stamp) := by
  obtain ⟨read, hparse, hsame⟩ := parseEditable_editableFieldsOf h
  have heditor : parseEditor (.str stamp.updatedBy) = .ok stamp.updatedBy := by
    have hall : ∀ by_ ∈ editors, parseEditor (.str by_) = .ok by_ := by decide
    exact hall _ hby
  have hstamp : ∀ entries, fields.entry stamp = .dict entries → parseStamp entries = .ok stamp := by
    intro entries hentries
    cases hentries
    simp only [parseStamp, bind_eq_ok]
    refine ⟨(), rfl, stamp.id, ?_, stamp.revision, ?_, stamp.updatedBy, heditor, stamp.updatedAt, ?_, rfl⟩
    · show parseId (.str stamp.id) = _
      rw [parseId, if_pos hid]
    · show parseRevision (.int stamp.revision) = _
      rw [parseRevision, if_pos hrevision]
    · show parseUtc (.str (formatUtc stamp.updatedAt)) _ = _
      simp only [parseUtc, PyValue.str?, Option.bind_some, strptimeUtc_formatUtc]
  refine ⟨read.stamped stamp, ?_, ⟨hsame.timing, ?_⟩⟩
  · exact bind_eq_ok.mpr ⟨_, rfl, bind_eq_ok.mpr ⟨stamp, hstamp _ rfl, bind_eq_ok.mpr ⟨read, hparse, rfl⟩⟩⟩
  · rw [hsame.rest]
    rfl

theorem parseRule_rulePayload {entry : PyValue} (h : parseRule texts entry = .ok rule) :
    ∃ read, parseRule texts (rulePayload rule) = .ok read ∧ read.Same rule := by
  simp only [parseRule, bind_eq_ok] at h
  obtain ⟨entries, -, stamp, hstamp, fields, hfields, hret⟩ := h
  cases hret
  obtain ⟨⟨-, hid⟩, ⟨-, hrevision⟩, hby⟩ := parseStamp_eq_ok hstamp
  exact parseRule_entry hfields hid hrevision hby

/-! ### The store -/

/-- `secrets.token_hex(4)` draws eight hex digits. -/
def IsTokenHex (draw : String) : Prop := draw.length = 8 ∧ draw.toList.all isIdDigit

theorem isRuleId_of_isTokenHex {draw : String} (h : IsTokenHex draw) : isRuleId ("r_" ++ draw) = true := by
  obtain ⟨hlength, hdigits⟩ := h
  have hlist : ("r_" ++ draw).toList = 'r' :: '_' :: draw.toList := by
    rw [String.toList_append]
    rfl
  have hlen : draw.toList.length = 8 := by rw [String.length_toList, hlength]
  have htake : draw.toList.take 8 = draw.toList := List.take_of_length_le hlen.le
  have hdrop : draw.toList.drop 8 = [] := List.drop_of_length_le hlen.le
  simp only [isRuleId, hlist, htake, hdrop, hlen, hdigits, decide_true, Bool.true_or, Bool.and_self]

/-- The schedules read from `written` hold a rule at a place, and not a broken one. -/
structure HoldsRule (texts : ValueTexts) (written : ScheduleData) (index : ℕ) (rule : ScheduleRule) :
    Prop where
  entry : ∃ entry read, written.rules[index]? = some entry ∧
    bookRule texts entry = .ok (.valid read) ∧ read.Same rule
  book : ∀ b, book texts written = .ok b → ∃ read, b.rules[index]? = some (.valid read) ∧ read.Same rule

theorem parseRule_of_bookRule {entry : PyValue}
    (h : bookRule texts entry = .ok (.valid rule)) : parseRule texts entry = .ok rule := by
  rw [bookRule] at h
  split at h
  · next hrule =>
    cases h
    exact hrule
  · obtain ⟨id, -, h⟩ := bind_eq_ok.mp h
    cases h
  · cases h

theorem holdsRule_of_parseRule {index : ℕ}
    {entry : PyValue} {read : ScheduleRule} (hentry : written.rules[index]? = some entry)
    (hread : parseRule texts entry = .ok read) (hsame : read.Same rule) :
    HoldsRule texts written index rule := by
  have hvalid : bookRule texts entry = .ok (.valid read) := by
    rw [bookRule, hread]
  refine ⟨⟨entry, read, hentry, hvalid, hsame⟩, ?_⟩
  intro b hb
  obtain ⟨rules, hrules, hb⟩ := bind_eq_ok.mp hb
  obtain ⟨applied, -, hret⟩ := bind_eq_ok.mp hb
  cases hret
  refine ⟨read, ?_, hsame⟩
  obtain ⟨hindex, hget⟩ := List.getElem?_eq_some_iff.mp hentry
  have hforall := mapM_eq_ok.mp hrules
  have hindex' : index < rules.length := hforall.length_eq ▸ hindex
  have hat := (List.forall₂_iff_get.mp hforall).2 index hindex hindex'
  rw [List.get_eq_getElem, hget, hvalid] at hat
  rw [List.getElem?_eq_getElem hindex']
  exact congrArg some (Except.ok.inj hat).symm

theorem editable_eq_ok
    {stored : List (String × PyValue)} (h : editable texts payload by_ = .ok stored) :
    by_ ∈ editors ∧ ∃ fields, parseEditable texts payload = .ok fields ∧
      stored = editableFieldsOf fields (whenPayload fields.timing) := by
  obtain ⟨_, hby, h⟩ := bind_eq_ok.mp h
  obtain ⟨fields, hfields, hret⟩ := bind_eq_ok.mp h
  cases hret
  exact ⟨require_eq_ok.mp hby, fields, hfields, rfl⟩

theorem holdsRule_create {draws : List String} (hdraws : ∀ draw ∈ draws, IsTokenHex draw)
    (h : create texts payload by_ check draws now stored = .ok written) :
    ∃ fields, parseEditable texts payload = .ok fields ∧ ∃ draw ∈ draws,
      HoldsRule texts written stored.rules.length (fields.stamped
        { id := "r_" ++ draw, revision := 1, updatedAt := now, updatedBy := by_ }) := by
  obtain ⟨entries, heditable, h⟩ := bind_eq_ok.mp h
  obtain ⟨_, -, h⟩ := bind_eq_ok.mp h
  obtain ⟨_, -, h⟩ := bind_eq_ok.mp h
  obtain ⟨taken, -, h⟩ := bind_eq_ok.mp h
  obtain ⟨hby, fields, hfields, rfl⟩ := editable_eq_ok heditable
  split at h
  · cases h
  · next id hnew =>
    cases h
    obtain ⟨draw, hdraw, rfl⟩ := List.mem_map.mp (List.mem_of_find?_eq_some hnew)
    refine ⟨fields, hfields, draw, hdraw, ?_⟩
    obtain ⟨read, hread, hsame⟩ := @parseRule_entry texts payload fields hfields
      ⟨"r_" ++ draw, 1, now, by_⟩ (isRuleId_of_isTokenHex (hdraws draw hdraw)) le_rfl hby
    refine holdsRule_of_parseRule ?_ hread hsame
    exact List.getElem?_concat_length

/-- What `replace` writes in the place of an entry. -/
theorem replace_eq_ok (h : replace texts id payload revision by_ check now stored = .ok written) :
    by_ ∈ editors ∧ ∃ fields, parseEditable texts payload = .ok fields ∧ ∃ index,
      indexOf texts id (some revision) stored.rules = .ok index ∧
      written.rules = stored.rules.set index (fields.entry
        { id, revision := revision + 1, updatedAt := now, updatedBy := by_ }) := by
  obtain ⟨entries, heditable, h⟩ := bind_eq_ok.mp h
  obtain ⟨index, hindex, h⟩ := bind_eq_ok.mp h
  obtain ⟨_, -, hret⟩ := bind_eq_ok.mp h
  cases hret
  obtain ⟨hby, fields, hfields, rfl⟩ := editable_eq_ok heditable
  exact ⟨hby, fields, hfields, index, hindex, rfl⟩

/-- The replaced entry stood under an id and a revision that a rule can have. -/
def CanBeARule (id : String) (revision : ℤ) : Prop := isRuleId id = true ∧ 0 ≤ revision

/-- **Replace writes a rule that is read back exactly where a rule can have the id and the next
revision.** -/
theorem holdsRule_replace_iff
    (h : replace texts id payload revision by_ check now stored = .ok written) :
    ∃ fields, parseEditable texts payload = .ok fields ∧ ∃ index,
      indexOf texts id (some revision) stored.rules = .ok index ∧
      (HoldsRule texts written index (fields.stamped
        { id, revision := revision + 1, updatedAt := now, updatedBy := by_ }) ↔
        CanBeARule id revision) := by
  obtain ⟨hby, fields, hfields, index, hindex, hrules⟩ := replace_eq_ok h
  obtain ⟨entry, hentry, -⟩ := indexOf_ok hindex
  have hlt : index < stored.rules.length := (List.getElem?_eq_some_iff.mp hentry).1
  have hwritten : written.rules[index]? = some (fields.entry
      { id, revision := revision + 1, updatedAt := now, updatedBy := by_ }) := by
    rw [hrules, List.getElem?_set_self hlt]
  refine ⟨fields, hfields, index, hindex, ?_, ?_⟩
  · rintro ⟨⟨entry', read, hentry', hread, -⟩, -⟩
    obtain rfl := Option.some_inj.mp (hwritten.symm.trans hentry')
    have hstamp := parseRule_of_bookRule hread
    simp only [parseRule, bind_eq_ok] at hstamp
    obtain ⟨entries, hentries, stamp, hstamp, -⟩ := hstamp
    cases hentries
    obtain ⟨⟨hvalue, hid⟩, ⟨hvalue', hrevision⟩, -⟩ := parseStamp_eq_ok hstamp
    obtain rfl : id = stamp.id := PyValue.str.inj hvalue
    have hsucc : revision + 1 = stamp.revision := PyValue.int.inj hvalue'
    exact ⟨hid, by omega⟩
  · rintro ⟨hid, hrevision⟩
    obtain ⟨read, hread, hsame⟩ := @parseRule_entry texts payload fields hfields
      ⟨id, revision + 1, now, by_⟩ hid (show 1 ≤ revision + 1 by omega) hby
    exact holdsRule_of_parseRule hwritten hread hsame

/-- **What is read, created or replaced is read back as the same, and never as broken**, but for a
replaced entry that no rule can be. -/
theorem written_rules_read_back (texts : ValueTexts) :
    (∀ payload w, parseWhen payload = .ok w →
      ∃ read, parseWhen (whenPayload w) = .ok read ∧ read.Same w) ∧
    (∀ entry rule, parseRule texts entry = .ok rule →
      ∃ read, parseRule texts (rulePayload rule) = .ok read ∧ read.Same rule) ∧
    (∀ payload by_ check draws now stored written, (∀ draw ∈ draws, IsTokenHex draw) →
      create texts payload by_ check draws now stored = .ok written →
      ∃ fields, parseEditable texts payload = .ok fields ∧ ∃ draw ∈ draws,
        HoldsRule texts written stored.rules.length (fields.stamped
          { id := "r_" ++ draw, revision := 1, updatedAt := now, updatedBy := by_ })) ∧
    ∀ id payload revision by_ check now stored written,
      replace texts id payload revision by_ check now stored = .ok written →
      ∃ fields, parseEditable texts payload = .ok fields ∧ ∃ index,
        indexOf texts id (some revision) stored.rules = .ok index ∧
        (HoldsRule texts written index (fields.stamped
          { id, revision := revision + 1, updatedAt := now, updatedBy := by_ }) ↔
          CanBeARule id revision) := by
  refine ⟨?_, ?_, ?_, ?_⟩
  · intro payload w h
    obtain ⟨dates, hread, hdates⟩ := parseWhen_whenPayload h
    exact ⟨_, hread, rfl, rfl, rfl, hdates⟩
  · intro entry rule h
    exact parseRule_rulePayload h
  · intro payload by_ check draws now stored written hdraws h
    exact holdsRule_create hdraws h
  · intro id payload revision by_ check now stored written h
    exact holdsRule_replace_iff h

/-- A window of the first of each month, twice, with a date it skips. -/
def monthlyWindow : PyValue := .dict
  [("start", .str " 2026-10-01t6:00"), ("end", .str "2026-10-02T06:30"),
    ("repeat", .dict [("freq", .str "monthly"), ("by_month_day", .list [.int 1, .int 1]),
      ("count", .int 2)]),
    ("exceptions", .list [.str "20261101", .str "2026-11-01"])]

/-- A rule that charges one device from the grid in those windows. -/
def monthlyCharge : PyValue := .dict
  [("name", .str " Charge "), ("target", .dict [("scope", .str "device"), ("device", .str "roof")]),
    ("action", .dict [("id", .str "charge_from_grid"), ("value", .int 400), ("end_value", .int 0)]),
    ("when", monthlyWindow)]

theorem exists_ok_of_isOk {α ε : Type*} {x : Except ε α} (h : x.isOk = true) : ∃ a, x = .ok a := by
  cases x with
  | ok a => exact ⟨a, rfl⟩
  | error e => cases h

theorem written_rules_read_back_monthly :
    (∃ w, parseWhen monthlyWindow = .ok w ∧
      ∃ read, parseWhen (whenPayload w) = .ok read ∧ read.Same w) ∧
    (∃ rule, parseRule noTexts quietRule = .ok rule ∧
      ∃ read, parseRule noTexts (rulePayload rule) = .ok read ∧ read.Same rule) ∧
    (∃ written fields,
      create noTexts monthlyCharge "emsctl" none ["0123abcd"] ⟨0, by decide⟩ emptyData = .ok written ∧
      parseEditable noTexts monthlyCharge = .ok fields ∧ ∃ draw ∈ ["0123abcd"],
        HoldsRule noTexts written 0 (fields.stamped
          { id := "r_" ++ draw, revision := 1, updatedAt := ⟨0, by decide⟩, updatedBy := "emsctl" })) ∧
    ∃ written fields index, replace noTexts "r_0123abcd" monthlyCharge 1 "dashboard" none
        ⟨0, by decide⟩ quietData = .ok written ∧
      parseEditable noTexts monthlyCharge = .ok fields ∧
      HoldsRule noTexts written index (fields.stamped
        { id := "r_0123abcd", revision := 2, updatedAt := ⟨0, by decide⟩, updatedBy := "dashboard" }) := by
  obtain ⟨hwhen, hrule, hcreate, hreplace⟩ := written_rules_read_back noTexts
  refine ⟨?_, ?_, ?_, ?_⟩
  · obtain ⟨w, hw⟩ := exists_ok_of_isOk
      (show (parseWhen monthlyWindow).isOk = true by decide)
    exact ⟨w, hw, hwhen _ w hw⟩
  · obtain ⟨rule, hread⟩ := exists_ok_of_isOk
      (show (parseRule noTexts quietRule).isOk = true by decide)
    exact ⟨rule, hread, hrule _ rule hread⟩
  · obtain ⟨written, hwritten⟩ := exists_ok_of_isOk (show (create noTexts monthlyCharge "emsctl" none
      ["0123abcd"] ⟨0, by decide⟩ emptyData).isOk = true by decide)
    have hdraws : ∀ draw ∈ ["0123abcd"], IsTokenHex draw := by
      intro draw hdraw
      rw [List.mem_singleton.mp hdraw]
      exact ⟨by decide, by decide⟩
    obtain ⟨fields, hfields, hholds⟩ := hcreate _ _ _ _ _ _ _ hdraws hwritten
    exact ⟨written, fields, hwritten, hfields, hholds⟩
  · obtain ⟨written, hwritten⟩ := exists_ok_of_isOk (show (replace noTexts "r_0123abcd" monthlyCharge 1
      "dashboard" none ⟨0, by decide⟩ quietData).isOk = true by decide)
    obtain ⟨fields, hfields, index, hindex, hholds⟩ := hreplace _ _ _ _ _ _ _ _ hwritten
    have hzero : (indexOf noTexts "r_0123abcd" (some 1) quietData.rules).toOption = some 0 := by
      decide
    rw [hindex] at hzero
    obtain rfl : index = 0 := Option.some.inj hzero
    exact ⟨written, fields, 0, hwritten, hfields, hholds.mpr ⟨by decide, by decide⟩⟩

/-- A broken rule under an id of its own making. -/
def eveningData : ScheduleData :=
  { quietData with rules := [.dict [("id", .str "evening"), ("revision", .int 1)]] }

/-- **A broken rule that is replaced stays broken**: the entry is written under the id it had. -/
theorem evening_stays_broken :
    ∃ written fields, replace noTexts "evening" monthlyCharge 1 "dashboard" none ⟨0, by decide⟩
        eveningData = .ok written ∧ parseEditable noTexts monthlyCharge = .ok fields ∧
      ¬HoldsRule noTexts written 0 (fields.stamped
        { id := "evening", revision := 2, updatedAt := ⟨0, by decide⟩, updatedBy := "dashboard" }) := by
  obtain ⟨written, hwritten⟩ := exists_ok_of_isOk (show (replace noTexts "evening" monthlyCharge 1
    "dashboard" none ⟨0, by decide⟩ eveningData).isOk = true by decide)
  obtain ⟨fields, hfields, index, hindex, hholds⟩ := holdsRule_replace_iff hwritten
  have hzero : (indexOf noTexts "evening" (some 1) eveningData.rules).toOption = some 0 := by
    decide
  rw [hindex] at hzero
  obtain rfl : index = 0 := Option.some.inj hzero
  exact ⟨written, fields, hwritten, hfields, fun h => absurd (hholds.mp h).1 (by decide)⟩

end SolarFlowEms.Schedule
