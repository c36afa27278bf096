import SolarFlowEms.Schedule.Clash

/-!
# Searching two streams of windows

The windows of a stream come in the order of their starts and of their ends.  The merge of two
streams then drops a window only where no window to come overlaps it, and the lookup around a
window goes by only those that are over.  Either search ends in an exception where it asks a
stream for a window that the stream cannot build.
-/

namespace SolarFlowEms.Schedule

open Python Calendar TimeText Zones Generator

/-! ### Windows in their order -/

def Window.Meets (a b : Window) : Prop :=
  b.start.minutes < a.finish.minutes ∧ a.start.minutes < b.finish.minutes

variable {b : Window} {t : LocalTime} {rest rest' : Unit → Trace Window PyException}
  {result : Except PyException (Option LocalTime)} {dense : When}

theorem Window.Meets.symm {a : Window} (h : a.Meets b) : b.Meets a := ⟨h.2, h.1⟩

theorem laterStart_minutes (a b : Window) :
    (laterStart a b).minutes = max a.start.minutes b.start.minutes := by
  rw [laterStart]
  split
  · omega
  · omega

theorem isBehind_iff {until_ : Moment} :
    isBehind t until_ = true ↔ until_.micros < t.minutes * microsPerMinute := by
  rw [isBehind, decide_eq_true_iff]
  rfl

theorem isBehind_mono {t' : LocalTime} {until_ : Moment} (h : isBehind t until_ = true)
    (hle : t.minutes ≤ t'.minutes) : isBehind t' until_ = true := by
  rw [isBehind_iff] at h ⊢
  exact h.trans_le (Nat.mul_le_mul_right _ hle)

/-- Windows that are not empty, in the order of their starts and of their ends. -/
structure InOrder (windows : List Window) : Prop where
  pairwise : windows.Pairwise fun a b =>
    a.start.minutes ≤ b.start.minutes ∧ a.finish.minutes ≤ b.finish.minutes
  nonempty : ∀ a ∈ windows, a.start.minutes < a.finish.minutes

namespace InOrder

variable {a : Window} {windows : List Window}

theorem tail (h : InOrder (a :: windows)) : InOrder windows :=
  ⟨(List.pairwise_cons.mp h.pairwise).2, fun b hb => h.nonempty b (List.mem_cons_of_mem _ hb)⟩

theorem head_le (h : InOrder (a :: windows)) {b : Window} (hb : b ∈ a :: windows) :
    a.start.minutes ≤ b.start.minutes ∧ a.finish.minutes ≤ b.finish.minutes := by
  obtain rfl | hb := List.mem_cons.mp hb
  · exact ⟨le_rfl, le_rfl⟩
  · exact (List.pairwise_cons.mp h.pairwise).1 b hb

end InOrder

/-! ### Where a merge cannot go on -/

/-- A stream that raises has given its last window by the bound, and the other stream has one
behind it. -/
def RunsShort (until_ : Moment) (mine theirs : Trace Window PyException) : Prop :=
  mine.raised?.isSome ∧ ∃ a b, mine.yields.getLast? = some a ∧ theirs.yields.getLast? = some b ∧
    isBehind a.start until_ = false ∧ a.finish.minutes ≤ b.start.minutes

/-- **The merge asks for a window that cannot be built.** -/
inductive Stuck (until_ : Moment) (mine theirs : Trace Window PyException) : Prop where
  | first (h : mine.raised?.isSome) (hnone : mine.yields = [])
  | second (h : theirs.raised?.isSome) (hnone : theirs.yields = [])
  | mine (hapart : ∀ a ∈ mine.yields, ∀ b ∈ theirs.yields, ¬ a.Meets b)
      (h : RunsShort until_ mine theirs)
  | theirs (hapart : ∀ a ∈ mine.yields, ∀ b ∈ theirs.yields, ¬ a.Meets b)
      (h : RunsShort until_ theirs mine)

variable {until_ : Moment} {mine theirs : Trace Window PyException}

theorem Stuck.symm (h : Stuck until_ mine theirs) : Stuck until_ theirs mine := by
  cases h with
  | first h hnone => exact .second h hnone
  | second h hnone => exact .first h hnone
  | mine hapart h => exact .theirs (fun b hb a ha hmeets => hapart a ha b hb hmeets.symm) h
  | theirs hapart h => exact .mine (fun b hb a ha hmeets => hapart a ha b hb hmeets.symm) h

theorem not_meets_of_over {a : Window} {rest : List Window} (hb : InOrder (b :: rest))
    (hover : a.finish.minutes ≤ b.start.minutes) : ∀ b' ∈ b :: rest, ¬ a.Meets b' := by
  intro b' hb' hmeets
  have hle := (hb.head_le hb').1
  have hlt := hmeets.1
  omega

/-- **Dropping a window that is over changes nothing.** -/
theorem stuck_drop {a : Window}
    (ha : InOrder (a :: (rest ()).yields)) (hb : InOrder (b :: (rest' ()).yields))
    (hover : a.finish.minutes ≤ b.start.minutes) (hbound : isBehind a.start until_ = false) :
    Stuck until_ (.yield a rest) (.yield b rest') ↔ Stuck until_ (rest ()) (.yield b rest') := by
  have hnot := not_meets_of_over hb hover
  constructor
  · intro h
    cases h with
    | first _ hnone | second _ hnone => cases hnone
    | mine hapart h =>
      obtain ⟨hraised, a', b', ha', hb', hstart, hover'⟩ := h
      by_cases hnil : (rest ()).yields = []
      · exact .first hraised hnil
      · rw [Trace.yields_yield, List.getLast?_cons_of_ne_nil hnil] at ha'
        exact .mine (fun x hx => hapart x (List.mem_cons_of_mem _ hx))
          ⟨hraised, a', b', ha', hb', hstart, hover'⟩
    | theirs hapart h =>
      obtain ⟨hraised, b', a', hb', ha', hstart, hover'⟩ := h
      by_cases hnil : (rest ()).yields = []
      · -- The last window of theirs is not over where the dropped one starts.
        rw [Trace.yields_yield, hnil] at ha'
        obtain rfl : a = a' := Option.some.inj ha'
        have hlast := hb.head_le (List.mem_of_getLast? hb')
        have hlt := ha.nonempty a List.mem_cons_self
        have hlt' := hb.nonempty b List.mem_cons_self
        omega
      · rw [Trace.yields_yield, List.getLast?_cons_of_ne_nil hnil] at ha'
        exact .theirs (fun x hx => hapart x (List.mem_cons_of_mem _ hx))
          ⟨hraised, b', a', hb', ha', hstart, hover'⟩
  · have hapart' (hapart : ∀ x ∈ (rest ()).yields, ∀ y ∈ b :: (rest' ()).yields, ¬ x.Meets y) :
        ∀ x ∈ a :: (rest ()).yields, ∀ y ∈ b :: (rest' ()).yields, ¬ x.Meets y := by
      intro x hx
      obtain rfl | hx := List.mem_cons.mp hx
      · exact hnot
      · exact hapart x hx
    intro h
    cases h with
    | first h hnone =>
      obtain ⟨b', hb'⟩ : ∃ b', (b :: (rest' ()).yields).getLast? = some b' :=
        ⟨_, List.getLast?_eq_some_getLast (List.cons_ne_nil _ _)⟩
      have hle := (hb.head_le (List.mem_of_getLast? hb')).1
      refine .mine (hapart' fun x hx => ?_) ⟨h, a, b', ?_, hb', hbound, by omega⟩
      · rw [hnone] at hx
        cases hx
      · rw [Trace.yields_yield, hnone]
        rfl
    | second _ hnone => cases hnone
    | mine hapart h =>
      obtain ⟨hraised, a', b', ha', hb', hstart, hover'⟩ := h
      refine .mine (hapart' hapart) ⟨hraised, a', b', ?_, hb', hstart, hover'⟩
      rw [Trace.yields_yield, List.getLast?_cons, ha', Option.getD_some]
    | theirs hapart h =>
      obtain ⟨hraised, b', a', hb', ha', hstart, hover'⟩ := h
      refine .theirs (hapart' hapart) ⟨hraised, b', a', hb', ?_, hstart, hover'⟩
      rw [Trace.yields_yield, List.getLast?_cons, ha', Option.getD_some]

/-! ### The merge -/

/-- What the merge of two streams comes to. -/
structure Merges (until_ : Moment) (mine theirs : Trace Window PyException)
    (result : Except PyException (Option LocalTime)) : Prop where
  returns : (∃ r, result = .ok r) ↔ ¬ Stuck until_ mine theirs
  sound : ∀ t, result = .ok (some t) →
    ∃ a ∈ mine.yields, ∃ b ∈ theirs.yields, a.Meets b ∧ t = laterStart a b
  complete : result = .ok none → ∀ a ∈ mine.yields, ∀ b ∈ theirs.yields, a.Meets b →
    isBehind (laterStart a b) until_ = true

theorem Merges.of_ok_none (hstuck : ¬ Stuck until_ mine theirs)
    (hcomplete : ∀ a ∈ mine.yields, ∀ b ∈ theirs.yields, a.Meets b →
      isBehind (laterStart a b) until_ = true) : Merges until_ mine theirs (.ok none) where
  returns := ⟨fun _ => hstuck, fun _ => ⟨none, rfl⟩⟩
  sound := fun t h => by cases h
  complete := fun _ => hcomplete

theorem Merges.of_error (hstuck : Stuck until_ mine theirs) (e : PyException) :
    Merges until_ mine theirs (.error e) where
  returns := ⟨fun ⟨_, h⟩ => (by cases h), fun h => absurd hstuck h⟩
  sound := fun t h => by cases h
  complete := fun h => by cases h

theorem Merges.drop {a : Window}
    (h : Merges until_ (rest ()) (.yield b rest') result) (ha : InOrder (a :: (rest ()).yields))
    (hb : InOrder (b :: (rest' ()).yields)) (hover : a.finish.minutes ≤ b.start.minutes)
    (hbound : isBehind a.start until_ = false) :
    Merges until_ (.yield a rest) (.yield b rest') result where
  returns := by rw [stuck_drop ha hb hover hbound, h.returns]
  sound := by
    intro t ht
    obtain ⟨x, hx, y, hy, hmeets, rfl⟩ := h.sound t ht
    exact ⟨x, List.mem_cons_of_mem _ hx, y, hy, hmeets, rfl⟩
  complete := by
    intro hnone x hx y hy hmeets
    obtain rfl | hx := List.mem_cons.mp hx
    · exact absurd hmeets (not_meets_of_over hb hover y hy)
    · exact h.complete hnone x hx y hy hmeets

theorem laterStart_minutes_comm (a b : Window) :
    (laterStart a b).minutes = (laterStart b a).minutes := by
  rw [laterStart_minutes, laterStart_minutes, max_comm]

theorem laterStart_comm (a b : Window) : laterStart a b = laterStart b a := by
  have h := laterStart_minutes_comm a b
  cases hab : laterStart a b
  cases hba : laterStart b a
  rw [hab, hba] at h
  simp only [LocalTime.mk.injEq]
  exact h

theorem Merges.symm (h : Merges until_ mine theirs result) : Merges until_ theirs mine result where
  returns := by
    rw [h.returns]
    exact not_congr ⟨Stuck.symm, Stuck.symm⟩
  sound := by
    intro t ht
    obtain ⟨a, ha, b, hb, hmeets, rfl⟩ := h.sound t ht
    exact ⟨b, hb, a, ha, hmeets.symm, laterStart_comm a b⟩
  complete := by
    intro hnone b hb a ha hmeets
    rw [laterStart_comm]
    exact h.complete hnone a ha b hb hmeets.symm

theorem merges_behind {a : Window}
    (ha : InOrder (a :: (rest ()).yields)) (hb : InOrder (b :: (rest' ()).yields))
    (hbehind : isBehind a.start until_ = true ∧ isBehind b.start until_ = true) :
    Merges until_ (.yield a rest) (.yield b rest') (.ok none) := by
  have hmine : ∀ x ∈ a :: (rest ()).yields, isBehind x.start until_ = true :=
    fun x hx => isBehind_mono hbehind.1 (ha.head_le hx).1
  have htheirs : ∀ y ∈ b :: (rest' ()).yields, isBehind y.start until_ = true :=
    fun y hy => isBehind_mono hbehind.2 (hb.head_le hy).1
  apply Merges.of_ok_none
  · intro h
    cases h with
    | first _ hnone | second _ hnone => cases hnone
    | mine _ h =>
      obtain ⟨-, x, -, hx, -, hstart, -⟩ := h
      rw [hmine x (List.mem_of_getLast? hx)] at hstart
      cases hstart
    | theirs _ h =>
      obtain ⟨-, y, -, hy, -, hstart, -⟩ := h
      rw [htheirs y (List.mem_of_getLast? hy)] at hstart
      cases hstart
  · intro x hx y hy hmeets
    exact isBehind_mono (hmine x hx) (by rw [laterStart_minutes]; exact le_max_left _ _)

theorem merges_meet {a : Window}
    (ha : InOrder (a :: (rest ()).yields)) (hb : InOrder (b :: (rest' ()).yields))
    (hmeets : a.Meets b) : Merges until_ (.yield a rest) (.yield b rest')
      (.ok (if isBehind (laterStart a b) until_ then none else some (laterStart a b))) where
  returns := by
    refine ⟨fun _ h => ?_, fun _ => ⟨_, rfl⟩⟩
    cases h with
    | first _ hnone | second _ hnone => cases hnone
    | mine hapart _
    | theirs hapart _ => exact hapart a List.mem_cons_self b List.mem_cons_self hmeets
  sound := by
    intro t ht
    split at ht
    · cases ht
    · cases ht
      exact ⟨a, List.mem_cons_self, b, List.mem_cons_self, hmeets, rfl⟩
  complete := by
    intro hnone x hx y hy _
    split at hnone
    · next hbehind =>
      refine isBehind_mono hbehind ?_
      have hxle := (ha.head_le hx).1
      have hyle := (hb.head_le hy).1
      rw [laterStart_minutes, laterStart_minutes]
      omega
    · cases hnone

theorem merges_againstWindow {a : Window} (ha : InOrder (a :: (rest ()).yields))
    {next : Trace Window PyException → Except PyException (Option LocalTime)}
    (hnext : ∀ theirs, InOrder theirs.yields → Merges until_ (rest ()) theirs (next theirs))
    (hb : InOrder theirs.yields) :
    Merges until_ (.yield a rest) theirs (againstWindow until_ a next theirs) := by
  induction theirs with
  | done =>
    refine .of_ok_none (fun h => ?_) fun x _ y hy => absurd hy List.not_mem_nil
    cases h with
    | first _ hnone => cases hnone
    | second h _ => cases h
    | mine _ h =>
      obtain ⟨_, x, y, _, hnone, _⟩ := h
      cases hnone
    | theirs _ h => cases h.1
  | raises e => exact .of_error (.second rfl rfl) e
  | yield b rest' ih =>
    rw [againstWindow]
    split
    · next hbehind => exact merges_behind ha hb hbehind
    · next hnot =>
      split
      · next hover =>
        have hbound : isBehind a.start until_ = false := by
          by_contra htrue
          rw [Bool.not_eq_false] at htrue
          have hlt := ha.nonempty a List.mem_cons_self
          exact hnot ⟨htrue, isBehind_mono htrue (by omega)⟩
        exact (hnext _ hb).drop ha hb hover hbound
      · next hlate =>
        split
        · next hover =>
          have hbound : isBehind b.start until_ = false := by
            by_contra htrue
            rw [Bool.not_eq_false] at htrue
            have hlt := hb.nonempty b List.mem_cons_self
            exact hnot ⟨isBehind_mono htrue (by omega), htrue⟩
          exact ((ih () hb.tail).symm.drop hb ha hover hbound).symm
        · next hlate' => exact merges_meet ha hb ⟨by omega, by omega⟩

/-- **The merge of two streams in their order** returns exactly where it is not stuck, and finds
what there is by the bound. -/
theorem merges_overlapInOrder (ha : InOrder mine.yields) (hb : InOrder theirs.yields) :
    Merges until_ mine theirs (overlapInOrder until_ mine theirs) := by
  induction mine generalizing theirs with
  | done =>
    cases theirs with
    | raises e => exact .of_error (.second rfl rfl) e
    | done =>
      refine .of_ok_none (fun h => ?_) fun x hx => absurd hx List.not_mem_nil
      cases h with
      | first h _ | second h _ => cases h
      | mine _ h | theirs _ h => cases h.1
    | yield b rest' =>
      refine .of_ok_none (fun h => ?_) fun x hx => absurd hx List.not_mem_nil
      cases h with
      | first h _ => cases h
      | second _ hnone => cases hnone
      | mine _ h => cases h.1
      | theirs _ h =>
        obtain ⟨_, y, x, _, hnone, _⟩ := h
        cases hnone
  | raises e => exact .of_error (.first rfl rfl) e
  | yield a rest ih => exact merges_againstWindow ha (fun theirs htheirs => ih () ha.tail htheirs) hb

/-! ### The search around each window -/

/-- A stream comes to a window with `p`, or ends without an exception. -/
def ComesTo (p : Window → Prop) (stream : Trace Window PyException) : Prop :=
  (∃ a ∈ stream.yields, p a) ∨ stream.raised? = none

theorem comesTo_yield {p : Window → Prop} {a : Window}
    (h : ¬ p a) : ComesTo p (.yield a rest) ↔ ComesTo p (rest ()) := by
  rw [ComesTo, ComesTo, Trace.yields_yield, Trace.raised?_yield, List.exists_mem_cons_iff]
  simp only [h, false_or]

theorem lookUp_spec {a : Window} {stream : Trace Window PyException} (hs : InOrder stream.yields) :
    ((∃ r, lookUp a stream = .ok r) ↔ ComesTo (fun b => a.start.minutes < b.finish.minutes) stream) ∧
      (∀ t, lookUp a stream = .ok (some t) →
        ∃ b ∈ stream.yields, a.Meets b ∧ t = laterStart a b) ∧
      (lookUp a stream = .ok none → ∀ b ∈ stream.yields, ¬ a.Meets b) := by
  induction stream with
  | done => exact ⟨⟨fun _ => .inr rfl, fun _ => ⟨none, rfl⟩⟩, fun t h => (by cases h), fun _ b hb =>
      absurd hb List.not_mem_nil⟩
  | raises e =>
    refine ⟨⟨fun ⟨_, h⟩ => (by cases h), fun h => ?_⟩, fun t h => (by cases h), fun h => (by cases h)⟩
    obtain ⟨b, hb, -⟩ | hnone := h
    · cases hb
    · cases hnone
  | yield b rest ih =>
    rw [lookUp]
    split
    · next hover =>
      obtain ⟨hok, hsome, hnone⟩ := ih () hs.tail
      rw [comesTo_yield (by omega)]
      refine ⟨hok, ?_, ?_⟩
      · intro t ht
        obtain ⟨b', hb', hmeets⟩ := hsome t ht
        exact ⟨b', List.mem_cons_of_mem _ hb', hmeets⟩
      · intro h b' hb' hmeets
        obtain rfl | hb' := List.mem_cons.mp hb'
        · have := hmeets.2
          omega
        · exact hnone h b' hb' hmeets
    · next hafter =>
      have hcomes : ComesTo (fun b => a.start.minutes < b.finish.minutes) (.yield b rest) :=
        .inl ⟨b, List.mem_cons_self, by omega⟩
      split
      · next hbefore =>
        refine ⟨⟨fun _ => hcomes, fun _ => ⟨_, rfl⟩⟩, ?_, fun h => by cases h⟩
        intro t ht
        cases ht
        exact ⟨b, List.mem_cons_self, ⟨hbefore, by omega⟩, rfl⟩
      · next hlate =>
        refine ⟨⟨fun _ => hcomes, fun _ => ⟨_, rfl⟩⟩, fun t ht => (by cases ht), ?_⟩
        intro _ b' hb' hmeets
        have hle := (hs.head_le hb').1
        have hlt := hmeets.1
        omega

/-- A window of a stream meets one of the other rule, looked up around it. -/
def MeetsAround (dense : When) (a : Window) : Prop :=
  ∃ b ∈ (wallWindows dense (ofLocal a.start)).yields, a.Meets b

def Answers (dense : When) (a : Window) : Prop :=
  ComesTo (fun b => a.start.minutes < b.finish.minutes) (wallWindows dense (ofLocal a.start))

/-- **The search ends**, at a window that meets another, by the bound or with the stream. -/
structure SearchEnds (dense : When) (until_ : Moment) (stream : Trace Window PyException) : Prop where
  answers : ∀ before a after, stream.yields = before ++ a :: after → isBehind a.start until_ = false →
    (∀ c ∈ before, ¬ MeetsAround dense c) → Answers dense a
  comesTo : (∀ a ∈ stream.yields, isBehind a.start until_ = false → ¬ MeetsAround dense a) →
    ComesTo (fun a => isBehind a.start until_ = true) stream

/-- What the search comes to. -/
structure Searches (dense : When) (until_ : Moment) (stream : Trace Window PyException)
    (result : Except PyException (Option LocalTime)) : Prop where
  returns : (∃ r, result = .ok r) ↔ SearchEnds dense until_ stream
  sound : ∀ t, result = .ok (some t) → ∃ a ∈ stream.yields, isBehind a.start until_ = false ∧
    ∃ b ∈ (wallWindows dense (ofLocal a.start)).yields, a.Meets b ∧ t = laterStart a b
  complete : result = .ok none → ∀ a ∈ stream.yields, isBehind a.start until_ = false →
    ¬ MeetsAround dense a

theorem searchEnds_yield {a : Window}
    (hbound : isBehind a.start until_ = false) (hanswers : Answers dense a)
    (hnot : ¬ MeetsAround dense a) :
    SearchEnds dense until_ (.yield a rest) ↔ SearchEnds dense until_ (rest ()) := by
  have hnotBehind : ¬ isBehind a.start until_ = true := by
    rw [hbound]
    exact Bool.false_ne_true
  constructor
  · intro h
    refine ⟨fun before a' after heq hbound' hbefore => ?_, fun hnone => ?_⟩
    · apply h.answers (a :: before) a' after (by rw [Trace.yields_yield, heq]; rfl) hbound'
      intro c hc
      obtain rfl | hc := List.mem_cons.mp hc
      · exact hnot
      · exact hbefore c hc
    · refine (comesTo_yield hnotBehind).mp (h.comesTo fun c hc hbound' => ?_)
      obtain rfl | hc := List.mem_cons.mp hc
      · exact hnot
      · exact hnone c hc hbound'
  · intro h
    refine ⟨fun before a' after heq hbound' hbefore => ?_, fun hnone => ?_⟩
    · cases before with
      | nil =>
        obtain ⟨rfl, -⟩ := List.cons_eq_cons.mp heq
        exact hanswers
      | cons c before =>
        obtain ⟨-, heq⟩ := List.cons_eq_cons.mp heq
        exact h.answers before a' after heq hbound' fun c' hc' => hbefore c' (List.mem_cons_of_mem _ hc')
    · exact (comesTo_yield hnotBehind).mpr
        (h.comesTo fun c hc hbound' => hnone c (List.mem_cons_of_mem _ hc) hbound')

theorem searches_searchAround
    (hdense : ∀ since, InOrder (wallWindows dense since).yields) {stream : Trace Window PyException}
    (hs : InOrder stream.yields) :
    Searches dense until_ stream (searchAround dense until_ stream) := by
  induction stream with
  | done =>
    refine ⟨⟨fun _ => ⟨fun before a after h => ?_, fun _ => .inr rfl⟩, fun _ => ⟨none, rfl⟩⟩,
      fun t h => (by cases h), fun _ a ha => absurd ha List.not_mem_nil⟩
    rw [Trace.yields_done] at h
    exact absurd h.symm (by simp)
  | raises e =>
    refine ⟨⟨fun ⟨_, h⟩ => (by cases h), fun h => ?_⟩, fun t h => (by cases h), fun h => (by cases h)⟩
    obtain ⟨a, ha, -⟩ | hnone := h.comesTo fun a ha => absurd ha List.not_mem_nil
    · cases ha
    · cases hnone
  | yield a rest ih =>
    obtain ⟨hok, hsome, hnone⟩ := @lookUp_spec a _ (hdense (ofLocal a.start))
    rw [searchAround]
    split
    · next hbehind =>
      have hall : ∀ c ∈ a :: (rest ()).yields, isBehind c.start until_ = true :=
        fun c hc => isBehind_mono hbehind (hs.head_le hc).1
      refine ⟨⟨fun _ => ⟨fun before a' after heq hbound _ => ?_, fun _ => .inl ⟨a, List.mem_cons_self, hbehind⟩⟩,
        fun _ => ⟨none, rfl⟩⟩, fun t h => (by cases h), fun _ c hc hbound => ?_⟩
      · rw [Trace.yields_yield] at heq
        rw [hall a' (heq ▸ List.mem_append_right _ List.mem_cons_self)] at hbound
        cases hbound
      · rw [hall c hc] at hbound
        cases hbound
    · next hbound =>
      rw [Bool.not_eq_true] at hbound
      cases hlook : lookUp a (wallWindows dense (ofLocal a.start)) with
      | error e =>
        refine ⟨⟨fun ⟨_, h⟩ => (by cases h), fun h => ?_⟩, fun t h => (by cases h), fun h => (by cases h)⟩
        obtain ⟨r, hr⟩ := hok.mpr (h.answers [] a _ rfl hbound fun c hc => absurd hc List.not_mem_nil)
        rw [hlook] at hr
        cases hr
      | ok found =>
        cases found with
        | some t =>
          obtain ⟨b, hb, hmeets, ht⟩ := hsome t hlook
          have hmeetsAround : MeetsAround dense a := ⟨b, hb, hmeets⟩
          refine ⟨⟨fun _ => ⟨fun before a' after heq _ hbefore => ?_, fun hnot => ?_⟩,
            fun _ => ⟨some t, rfl⟩⟩, ?_, fun h => by cases h⟩
          · cases before with
            | nil =>
              obtain ⟨rfl, -⟩ := List.cons_eq_cons.mp heq
              exact hok.mp ⟨_, hlook⟩
            | cons c before =>
              obtain ⟨rfl, -⟩ := List.cons_eq_cons.mp heq
              exact absurd hmeetsAround (hbefore a List.mem_cons_self)
          · exact absurd hmeetsAround (hnot a List.mem_cons_self hbound)
          · intro t' ht'
            cases ht'
            exact ⟨a, List.mem_cons_self, hbound, b, hb, hmeets, ht⟩
        | none =>
          have hnot : ¬ MeetsAround dense a := fun ⟨b, hb, hmeets⟩ => hnone hlook b hb hmeets
          have hrest := ih () hs.tail
          refine ⟨?_, ?_, ?_⟩
          · rw [searchEnds_yield hbound (hok.mp ⟨_, hlook⟩) hnot]
            exact hrest.returns
          · intro t ht
            obtain ⟨a', ha', hmeets⟩ := hrest.sound t ht
            exact ⟨a', List.mem_cons_of_mem _ ha', hmeets⟩
          · intro h c hc hbound'
            obtain rfl | hc := List.mem_cons.mp hc
            · exact hnot
            · exact hrest.complete h c hc hbound'

end SolarFlowEms.Schedule
