import SolarFlowEms.Schedule.Occurrences

/-!
# The days an expansion skips

An expansion that skips to a day starts with the period that the interval leads to just before
it.  The days of the periods left out are all before that day, and behind them the expansion
from the start goes on as the other begins, as long as no run of empty periods ends either.
-/

namespace SolarFlowEms.Schedule

open Python Calendar Generator Fallible Repeat

namespace Repeat

variable {r : Repeat} {first : Date}

/-! ### The first period of a later start -/

theorem startIndex_eq (r : Repeat) (first skip : Date) : r.startIndex first skip =
    (((r.freq.unit skip : ℤ) - r.freq.unit first) / r.interval).toNat := by
  have hfirst := first.ordinal_eq_week
  have hskip := skip.ordinal_eq_week
  have hf₁ := first.valid.2.2.1
  have hs₁ := skip.valid.2.2.1
  have hw := skip.weekday_lt
  rw [startIndex]
  cases r.freq with
  | daily => rfl
  | weekly =>
    simp only [Freq.unit]
    congr 2
    omega
  | monthly =>
    simp only [Freq.unit, Date.monthNumber]
    congr 2
    omega
  | yearly => rfl

theorem unit_add_le {skip : Date} {j : ℕ} (h : j < r.startIndex first skip) :
    r.freq.unit first + j * r.interval + r.interval ≤ r.freq.unit skip := by
  rw [startIndex_eq] at h
  have hpos := r.interval_pos
  have hle : ((j : ℤ) + 1) ≤ ((r.freq.unit skip : ℤ) - r.freq.unit first) / r.interval := by omega
  have hmul := (Int.le_ediv_iff_mul_le (by omega : (0 : ℤ) < r.interval)).mp hle
  rw [Int.add_mul, Int.one_mul] at hmul
  have hcast : ((j * r.interval : ℕ) : ℤ) = (j : ℤ) * r.interval := Nat.cast_mul j r.interval
  omega

theorem not_leaves_of_lt_startIndex {skip : Date} {j : ℕ} (h : j < r.startIndex first skip) :
    ¬ r.Leaves first j := by
  have hunit := unit_add_le h
  have hpos := r.interval_pos
  have hmax := skip.le_max
  cases hfreq : r.freq with
  | daily =>
    simp only [hfreq, Freq.unit] at hunit
    simp only [Leaves, hfreq]
    omega
  | weekly =>
    have hfirst := first.ordinal_eq_week
    have hskip := skip.ordinal_eq_week
    simp only [hfreq, Freq.unit] at hunit
    simp only [Leaves, hfreq]
    rintro ⟨w, hw, hlt⟩
    have hw7 : w < 7 := by
      split at hw
      · rw [List.mem_singleton.mp hw]
        exact first.weekday_lt
      · exact r.weekday_range w hw
    omega
  | monthly =>
    have hy := skip.year_le
    have hf := first.valid.2.2.1
    have hs := skip.valid.2.2.2.1
    simp only [hfreq, Freq.unit, Date.monthNumber] at hunit
    simp only [Leaves, hfreq]
    omega
  | yearly =>
    have hy := skip.year_le
    simp only [hfreq, Freq.unit] at hunit
    simp only [Leaves, hfreq]
    omega

theorem FallsIn.lt_skip {skip d : Date} {j : ℕ} (h : r.FallsIn first j d)
    (hj : j < r.startIndex first skip) : d.ordinal < skip.ordinal := by
  by_contra hle
  have hmono := r.freq.unit_mono (Nat.le_of_not_lt hle)
  have hunit := unit_add_le hj
  have hpos := r.interval_pos
  rw [h.unit_eq] at hmono
  omega

/-! ### Runs of empty periods -/

/-- **No run of periods without a day is longer than the expansion allows**, inside the
calendar. -/
def NoLongRun (r : Repeat) (first : Date) : Prop :=
  ∀ s, ¬ r.Leaves first (s + r.maxEmptyPeriods) →
    ∃ i d, s ≤ i ∧ i ≤ s + r.maxEmptyPeriods ∧ r.FallsIn first i d

theorem emptyRun_le (hsorted : r.Ordered) (hfloat : ¬ r.FloatPosition) (hno : r.NoLongRun first)
    {n : ℕ} (hbuilt : ∀ j < n, ∃ days, (r.pager first none).page j = .ok days) :
    (r.pager first none).emptyRun n ≤ r.maxEmptyPeriods := by
  by_contra hlong
  obtain ⟨hlt, hempty⟩ := Pager.lt_emptyRun_iff.mp (Nat.lt_of_not_le hlong)
  obtain ⟨days, hlast⟩ := hbuilt (n - 1) (by omega)
  have hinside : ¬ r.Leaves first (n - 1) :=
    (candidates_ok_iff hfloat).mp ⟨days, pager_candidates hlast⟩
  obtain ⟨i, d, hsi, his, hd⟩ := hno (n - 1 - r.maxEmptyPeriods)
    (by rwa [show n - 1 - r.maxEmptyPeriods + r.maxEmptyPeriods = n - 1 by omega])
  obtain ⟨days', hpage⟩ := hbuilt i (by omega)
  have hnone := hempty i (by omega) (by omega)
  rw [hpage] at hnone
  have hmem := ((candidates_spec hsorted (pager_candidates hpage)).2 d).mpr hd
  rw [show days' = [] from hnone] at hmem
  cases hmem

/-- The calendar goes on: a period from the one that is started with on has a day. -/
def GoesOn (r : Repeat) (first skip d : Date) : Prop :=
  ∃ k, r.startIndex first skip ≤ k ∧ r.FallsIn first k d ∧ ¬ r.Leaves first k

/-- A day behind the end by date. -/
def PastUntil (r : Repeat) (d : Date) : Prop := ∃ u ∈ r.until?, u.ordinal < d.ordinal

/-- A day from the `i`-th period on that the repeat comes to. -/
def ComesFrom (r : Repeat) (first : Date) (i : ℕ) (d : Date) : Prop :=
  ∃ k, i ≤ k ∧ r.FallsIn first k d ∧ ¬ r.Leaves first k ∧ ¬ r.PastUntil d

/-- A day of a period before the one that is started with. -/
def LeavesOut (r : Repeat) (first skip d : Date) : Prop :=
  ∃ k < r.startIndex first skip, r.FallsIn first k d ∧ ¬ r.PastUntil d

/-- The repeat has come to its end by date before the period that is started with. -/
def EndsBefore (r : Repeat) (first skip : Date) : Prop :=
  ∃ k < r.startIndex first skip, ∃ d, r.FallsIn first k d ∧ r.PastUntil d

theorem ends_eq (hcount : r.count = none) (produced : ℕ) (d : Date) :
    r.ends produced d = true ↔ r.PastUntil d := by
  rw [ends, hcount, PastUntil]
  cases r.until? <;> simp

theorem pager_later (r : Repeat) (first skip : Date) : r.pager first (some skip) =
    (r.pager first none).later (r.startIndex first skip) := by
  rw [pager, pager, Pager.later]
  congr 1
  funext k
  show r.candidates first (r.startIndex first skip + k) =
    r.candidates first (0 + (r.startIndex first skip + k))
  rw [Nat.zero_add]

/-- A day of a period that is behind the walk was got to. -/
theorem exists_getsTo_of_falls (hsorted : r.Ordered) {skip d : Date} {n k : ℕ}
    (hreaches : (r.pager first (some skip)).Reaches n) (hn : n ≤ maxOrdinal + 1)
    (hk : r.startIndex first skip ≤ k) (hkn : k < r.startIndex first skip + n)
    (hfalls : r.FallsIn first k d) :
    ∃ m < maxOrdinal + 1, ∃ before, (r.pager first (some skip)).GetsTo m before d := by
  obtain ⟨values, hvalues⟩ := hreaches.built (k - r.startIndex first skip) (by omega)
  have hcandidates : r.candidates first (r.startIndex first skip + (k - r.startIndex first skip)) =
      .ok values := hvalues
  rw [Nat.add_sub_cancel' hk] at hcandidates
  have hmem := ((candidates_spec hsorted hcandidates).2 d).mpr hfalls
  obtain ⟨before, hgets⟩ := hreaches.getsTo (by omega) hvalues hmem
  exact ⟨_, by omega, before, hgets⟩

end Repeat

/-! ### The expansion behind the days left out -/

namespace When

variable {w : When} {r : Repeat}

theorem days_skip (hr : w.repeat? = some r) (hcount : r.count = none) (skip : Date) :
    days w (some skip) = (r.pager w.start.date none).walk (maxOrdinal + 1)
      (r.startIndex w.start.date skip) 0 0 := by
  have hdays : days w (some skip) = (r.pager w.start.date (some skip)).walkAt (maxOrdinal + 1) 0 := by
    simp only [days, hr, hcount, Option.isNone_none, if_true]
  rw [hdays, pager_later, Pager.walkAt, Pager.walk_later]
  rfl

theorem days_eq_skip (hr : w.repeat? = some r) (hcount : r.count = none) (hsorted : r.Ordered)
    (hfloat : ¬ r.FloatPosition) (hno : r.NoLongRun w.start.date) {skip : Date}
    (hends : ∀ j < r.startIndex w.start.date skip, ∀ d, r.FallsIn w.start.date j d →
      ¬ r.PastUntil d) :
    days w none = .yieldAll ((r.pager w.start.date none).items (r.startIndex w.start.date skip))
      (days w (some skip)) := by
  have hbuilt : ∀ j < r.startIndex w.start.date skip,
      ∃ days, (r.pager w.start.date none).page j = .ok days := by
    intro j hj
    rw [pager_page]
    exact (candidates_ok_iff hfloat).mpr (not_leaves_of_lt_startIndex hj)
  have hreaches : (r.pager w.start.date none).Reaches (r.startIndex w.start.date skip) := by
    refine ⟨hbuilt, fun n hn => ?_, fun i d hi => ?_⟩
    · exact emptyRun_le hsorted hfloat hno fun j hj => hbuilt j (by omega)
    · obtain ⟨j, hj, hd⟩ := (items_spec hsorted hbuilt d).mp (List.mem_of_getElem? hi)
      rw [Bool.eq_false_iff]
      exact fun h => hends j hj d hd ((ends_eq hcount _ d).mp h)
  have hindex : r.startIndex w.start.date skip ≤ maxOrdinal := by
    by_contra hlarge
    have hlt : maxOrdinal < r.startIndex w.start.date skip := Nat.lt_of_not_le hlarge
    exact not_leaves_of_lt_startIndex hlt (leaves_of_le r w.start.date le_rfl)
  generalize hk : r.startIndex w.start.date skip = k at *
  obtain ⟨rest, hrest⟩ : ∃ rest, maxOrdinal + 1 = k + rest := ⟨maxOrdinal + 1 - k, by omega⟩
  have hwalk : ∃ values, (r.pager w.start.date none).items (0 + k) =
      (r.pager w.start.date none).items 0 ++ values ∧
      (r.pager w.start.date none).walkAt (k + rest) 0 =
        .yieldAll values ((r.pager w.start.date none).walkAt rest (0 + k)) := by
    apply Pager.walkAt_of_reaches
    rwa [Nat.zero_add]
  obtain ⟨values, hitems, hwalk⟩ := hwalk
  rw [Nat.zero_add] at hitems hwalk
  obtain ⟨e, he⟩ := exists_page_error hfloat (leaves_of_le r w.start.date le_rfl)
  have hfuel : (r.pager w.start.date none).walk (rest + k) k _ _ = _ :=
    Pager.walk_fuel_add hindex (by omega) he k ((r.pager w.start.date none).emptyRun k)
      ((r.pager w.start.date none).items k).length
  have hends : ∀ n n' d, (r.pager w.start.date none).ends n d =
      (r.pager w.start.date none).ends n' d := by
    intro n n' d
    rw [Bool.eq_iff_iff]
    exact (ends_eq hcount n d).trans (ends_eq hcount n' d).symm
  have hrun : ∀ n, (∀ j, k ≤ j → j < n → ∃ days, (r.pager w.start.date none).page j = .ok days) →
      (r.pager w.start.date none).emptyRun n ≤ (r.pager w.start.date none).maxEmpty := by
    intro n hn
    refine emptyRun_le hsorted hfloat hno fun j hj => ?_
    rcases Nat.lt_or_ge j k with hlt | hge
    · exact hbuilt j hlt
    · exact hn j hge hj
  have hlater : (r.pager w.start.date none).walk (maxOrdinal + 1) k 0 0 = _ :=
    Pager.walk_eq_of_le hends hrun (Nat.zero_le _) 0 ((r.pager w.start.date none).items k).length
  rw [days_eq hr, hrest, hwalk, days_skip hr hcount, hk, hlater, hrest, Nat.add_comm k rest, hfuel]
  rw [show values = (r.pager w.start.date none).items k from hitems.symm]
  rfl

theorem fallsIn_of_getsTo_later (hcount : r.count = none) (hsorted : r.Ordered) {first skip : Date}
    {n : ℕ} {before : List Date} {d : Date}
    (h : (r.pager first (some skip)).GetsTo n before d) :
    r.FallsIn first (r.startIndex first skip + n) d ∧ ¬ r.PastUntil d := by
  obtain ⟨⟨after, hpage⟩, -, hgo⟩ := h
  have hlast : (before ++ [d])[before.length]? = some d := by simp
  have hmem : d ∈ before ++ d :: after := List.mem_append_right _ List.mem_cons_self
  refine ⟨((candidates_spec hsorted hpage).2 d).mp hmem, fun hpast => ?_⟩
  have hends := hgo before.length d hlast
  rw [show (r.pager first (some skip)).ends = r.ends from rfl,
    (ends_eq hcount _ d).mpr hpast] at hends
  cases hends

section

variable (hr : w.repeat? = some r) (hcount : r.count = none)
include hr hcount

theorem mem_days_skip_iff {skip d : Date} :
    d ∈ (days w (some skip)).yields ↔
      ∃ n < maxOrdinal + 1, ∃ before, (r.pager w.start.date (some skip)).GetsTo n before d := by
  have hdays : days w (some skip) = (r.pager w.start.date (some skip)).walkAt (maxOrdinal + 1) 0 := by
    simp only [days, hr, hcount, Option.isNone_none, if_true]
  rw [hdays, Pager.mem_yields_walkAt_iff (Pager.reaches_zero _)]
  simp only [Nat.zero_le, true_and, Nat.zero_add]

section

variable (hsorted : r.Ordered) (hfloat : ¬ r.FloatPosition)
include hsorted hfloat

theorem exists_getsTo_of_raised? {skip d : Date} {e : PyException}
    (hon : r.GoesOn w.start.date skip d) (h : (days w (some skip)).raised? = some e) :
    ∃ n < maxOrdinal + 1, ∃ before, (r.pager w.start.date (some skip)).GetsTo n before d := by
  have hdays : days w (some skip) = (r.pager w.start.date (some skip)).walkAt (maxOrdinal + 1) 0 := by
    simp only [days, hr, hcount, Option.isNone_none, if_true]
  rw [hdays] at h
  obtain ⟨n, -, hlt, hreaches, hpage⟩ := Pager.reaches_of_raised? (Pager.reaches_zero _) h
  obtain ⟨k, hk, hfalls, hinside⟩ := hon
  have hleaves : r.Leaves w.start.date (r.startIndex w.start.date skip + n) := by
    by_contra hin
    obtain ⟨values, hvalues⟩ := (candidates_ok_iff hfloat).mpr hin
    have hok : (r.pager w.start.date (some skip)).page n = .ok values := hvalues
    rw [hpage] at hok
    cases hok
  have hkn : k < r.startIndex w.start.date skip + n := by
    by_contra hge
    exact not_leaves_of_le hinside (Nat.le_of_not_lt hge) hleaves
  exact exists_getsTo_of_falls hsorted hreaches (by omega) hk hkn hfalls

theorem days_ended {skip d : Date} {j : ℕ}
    (hj : j < r.startIndex w.start.date skip) (hd : r.FallsIn w.start.date j d)
    (hpast : r.PastUntil d) :
    ((days w none).raised? = none ∧
        ∀ x ∈ (days w none).yields, r.LeavesOut w.start.date skip x) ∧
      (days w (some skip)).yields = [] ∧
        ((∃ x, r.GoesOn w.start.date skip x) → days w (some skip) = .done) := by
  have hsorted' : ∀ r ∈ w.repeat?, r.Ordered := by
    intro r' hr'
    rw [hr] at hr'
    cases hr'
    exact hsorted
  have hfloat' : ∀ r ∈ w.repeat?, ¬ r.FloatPosition := by
    intro r' hr'
    rw [hr] at hr'
    cases hr'
    exact hfloat
  have hlater : ∀ n before x, ¬ (r.pager w.start.date (some skip)).GetsTo n before x := by
    intro n before x hgets
    obtain ⟨hfalls, hnot⟩ := fallsIn_of_getsTo_later hcount hsorted hgets
    obtain ⟨u, hu, hlt⟩ := hpast
    have hx := hd.lt hfalls (by omega)
    exact hnot ⟨u, hu, by omega⟩
  have hnone : (days w (some skip)).yields = [] := by
    apply List.eq_nil_iff_forall_not_mem.mpr
    intro x hx
    obtain ⟨n, -, before, hgets⟩ := (mem_days_skip_iff hr hcount).mp hx
    exact hlater n before x hgets
  refine ⟨⟨?_, fun x hx => ?_⟩, hnone, fun ⟨x, hon⟩ => ?_⟩
  · cases hraised : (days w none).raised? with
    | none => rfl
    | some e =>
      obtain ⟨r', hr', n, hout, -⟩ := runsOut_of_raised? hfloat' hraised
      rw [hr] at hr'
      cases hr'
      have hjn : j < n := by
        by_contra hge
        exact not_leaves_of_le (not_leaves_of_lt_startIndex hj)
          (Nat.le_of_not_lt hge) hout.leaves
      have hmem := (items_spec hsorted hout.reaches.built d).mpr ⟨j, hjn, hd⟩
      obtain ⟨i, hi⟩ := List.mem_iff_getElem?.mp hmem
      have hends := hout.reaches.goesOn i d hi
      rw [show (r.pager w.start.date none).ends = r.ends from rfl,
        (ends_eq hcount _ d).mpr hpast] at hends
      cases hends
  · have hdenotes := denotes_of_mem_days hsorted' hfloat' hx
    rw [Denotes, hr] at hdenotes
    obtain ⟨k, hk⟩ := hdenotes.matching
    have hnot : ¬ r.PastUntil x := by
      rintro ⟨u, hu, hlt⟩
      have := hdenotes.by_until u hu
      omega
    refine ⟨k, ?_, hk, hnot⟩
    by_contra hge
    obtain ⟨u, hu, hlt⟩ := hpast
    have hdx := hd.lt hk (by omega)
    exact hnot ⟨u, hu, by omega⟩
  · cases hraised : (days w (some skip)).raised? with
    | none =>
      rw [Trace.eq_yieldAll_of_returns hraised, hnone]
      rfl
    | some e =>
      obtain ⟨n, -, before, hgets⟩ := exists_getsTo_of_raised? hr hcount hsorted hfloat hon hraised
      exact absurd hgets (hlater n before x)

/-- **The expansion from the start yields the days left out and then those of the other
one**, and unless it has ended before them it ends as that one does. -/
theorem days_split (hno : r.NoLongRun w.start.date) (skip : Date) :
    ∃ left, (∀ d ∈ left, r.LeavesOut w.start.date skip d) ∧
      (days w none).yields = left ++ (days w (some skip)).yields ∧
        ((r.EndsBefore w.start.date skip → ∃ d, r.GoesOn w.start.date skip d) →
          days w none = .yieldAll left (days w (some skip))) := by
  by_cases hended : r.EndsBefore w.start.date skip
  · obtain ⟨j, hj, d, hd, hpast⟩ := id hended
    obtain ⟨⟨hreturns, hleft⟩, hnone, hdone⟩ := days_ended hr hcount hsorted hfloat hj hd hpast
    refine ⟨(days w none).yields, hleft, ?_, fun hon => ?_⟩
    · rw [hnone, List.append_nil]
    · rw [hdone (hon hended)]
      exact Trace.eq_yieldAll_of_returns hreturns
  · have heq : days w none = .yieldAll
        ((r.pager w.start.date none).items (r.startIndex w.start.date skip)) (days w (some skip)) :=
      days_eq_skip hr hcount hsorted hfloat hno fun j hj d hd hpast => hended ⟨j, hj, d, hd, hpast⟩
    refine ⟨_, fun d hd => ?_, ?_, fun _ => heq⟩
    · obtain ⟨k, hk, days, hpage, hmem⟩ := Pager.mem_items.mp hd
      have hfalls := ((candidates_spec hsorted (pager_candidates hpage)).2 d).mp hmem
      exact ⟨k, hk, hfalls, fun hpast => hended ⟨k, hk, d, hfalls, hpast⟩⟩
    · rw [heq, Trace.yields_yieldAll]

/-! ### The days of either expansion -/

theorem mem_days_none_iff (hno : r.NoLongRun w.start.date) {d : Date} :
    d ∈ (days w none).yields ↔ r.ComesFrom w.start.date 0 d := by
  constructor
  · intro hd
    obtain ⟨k, -, before, hgets⟩ := (mem_days_iff hr).mp hd
    obtain ⟨hdenotes, hfalls, hinside, -⟩ := denotes_of_getsTo hsorted hfloat hgets
    refine ⟨k, Nat.zero_le k, hfalls, hinside, ?_⟩
    rintro ⟨u, hu, hlt⟩
    have := hdenotes.by_until u hu
    omega
  · rintro ⟨k, -, hfalls, hinside, hnot⟩
    have hk : k < maxOrdinal + 1 := by
      by_contra hlarge
      exact hinside (leaves_of_le r w.start.date (by omega))
    have hdenotes : r.Denotes w.start.date d := by
      refine ⟨⟨k, hfalls⟩, fun u hu => ?_, fun c hc => ?_⟩
      · by_contra hlt
        exact hnot ⟨u, hu, by omega⟩
      · rw [hcount] at hc
        cases hc
    obtain ⟨before, hgets⟩ := getsTo_of_denotes hsorted hfloat hdenotes hfalls hinside
      fun s hs => hno s (not_leaves_of_le hinside hs.le)
    exact (mem_days_iff hr).mpr ⟨k, hk, before, hgets⟩

theorem comesFrom_of_mem_days_skip {skip d : Date} (h : d ∈ (days w (some skip)).yields) :
    r.ComesFrom w.start.date (r.startIndex w.start.date skip) d := by
  obtain ⟨n, -, before, hgets⟩ := (mem_days_skip_iff hr hcount).mp h
  obtain ⟨hfalls, hnot⟩ := fallsIn_of_getsTo_later hcount hsorted hgets
  obtain ⟨after, hpage⟩ := hgets.page
  exact ⟨_, Nat.le_add_right _ n, hfalls, (candidates_ok_iff hfloat).mp ⟨_, hpage⟩, hnot⟩

theorem mem_days_some_iff (hno : r.NoLongRun w.start.date)
    {skip d : Date} : d ∈ (days w (some skip)).yields ↔
      r.ComesFrom w.start.date (r.startIndex w.start.date skip) d := by
  refine ⟨comesFrom_of_mem_days_skip hr hcount hsorted hfloat, ?_⟩
  rintro ⟨k, hk, hfalls, hinside, hnot⟩
  have hmem := (mem_days_none_iff hr hcount hsorted hfloat hno).mpr
    ⟨k, Nat.zero_le k, hfalls, hinside, hnot⟩
  obtain ⟨left, hleft, hyields, -⟩ := days_split hr hcount hsorted hfloat hno skip
  rw [hyields] at hmem
  rcases List.mem_append.mp hmem with hd | hd
  · obtain ⟨k', hk', hfalls', -⟩ := hleft d hd
    rw [hfalls.unique hfalls'] at hk
    omega
  · exact hd

theorem days_skip_head {skip d : Date} (hon : r.GoesOn w.start.date skip d) :
    days w (some skip) = .done ∨
      ∃ d' rest, days w (some skip) = .yield d' rest ∧ d'.ordinal ≤ d.ordinal := by
  cases hdays : days w (some skip) with
  | done => exact .inl rfl
  | raises e =>
    obtain ⟨n, hn, before, hgets⟩ := exists_getsTo_of_raised? hr hcount hsorted hfloat hon
      (congrArg Trace.raised? hdays)
    have hmem := (mem_days_skip_iff hr hcount).mpr ⟨n, hn, before, hgets⟩
    rw [hdays] at hmem
    cases hmem
  | yield d' rest =>
    refine .inr ⟨d', rest, rfl, ?_⟩
    by_contra hlt
    have hd' : d' ∈ (days w (some skip)).yields := by
      rw [hdays]
      exact List.mem_cons_self
    obtain ⟨n, hn, before, hgets⟩ := (mem_days_skip_iff hr hcount).mp hd'
    obtain ⟨hfalls', -⟩ := fallsIn_of_getsTo_later hcount hsorted hgets
    obtain ⟨k, hk, hfalls, -⟩ := hon
    have hasc : Ascending (days w (some skip)).yields := by
      apply ascending_days
      intro r' hr'
      rw [hr] at hr'
      cases hr'
      exact hsorted
    -- Then `d` is got to as well, and it is not behind the first day.
    have hgets' : ∃ m < maxOrdinal + 1, ∃ before,
        (r.pager w.start.date (some skip)).GetsTo m before d := by
      rcases Nat.lt_or_ge k (r.startIndex w.start.date skip + n) with hkn | hkn
      · exact exists_getsTo_of_falls hsorted hgets.reaches (by omega) hk hkn hfalls
      · have hkn : k = r.startIndex w.start.date skip + n := by
          by_contra hne
          have := hfalls'.lt hfalls (by omega)
          omega
        obtain ⟨after, hafter⟩ := hgets.page
        have hpage : r.candidates w.start.date (r.startIndex w.start.date skip + n) =
            .ok (before ++ d' :: after) := hafter
        have hspec := candidates_spec hsorted hpage
        have hmem := (hspec.2 d).mpr (hkn ▸ hfalls)
        rcases List.mem_append.mp hmem with hbefore | hrest
        · obtain ⟨before', hgets'⟩ := hgets.of_mem hbefore
          exact ⟨n, hn, before', hgets'⟩
        · have htail := (List.pairwise_append.mp hspec.1).2.1
          rcases List.mem_cons.mp hrest with rfl | hlater
          · omega
          · have := List.rel_of_pairwise_cons htail hlater
            omega
    have hmem := (mem_days_skip_iff hr hcount).mpr hgets'
    rw [hdays] at hmem hasc
    rcases List.mem_cons.mp hmem with rfl | hrest
    · omega
    · have := List.rel_of_pairwise_cons hasc hrest
      omega

end

end

end When

end SolarFlowEms.Schedule
