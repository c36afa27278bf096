import Mathlib.Algebra.Order.Field.Rat
import Mathlib.Logic.Function.Basic
import SolarFlowEms.Library.Run
import SolarFlowEms.Library.Table

/-!
# Sessions of the dashboard

A session ends when it has been idle for the timeout, when it has lasted as long as any may, when
it is destroyed, and when it is asked for with another password record than the one it was opened
against.  The store keeps all sessions in one table and drops what has expired as it comes upon it;
seen from outside each session lives by itself.
-/

namespace SolarFlowEms.Dashboard

open Run Tables

/-- A session; an end of `none` is never. -/
structure Session (κ : Type*) where
  sessionId : κ
  csrfToken : κ
  createdAt : ℚ
  expiresAt : Option ℚ
  credential : Option String

/-- `SessionStore`, as it was made; a bound of `none` is disabled.  Its state is the table of the
sessions by their ids, which `create` draws; the empty id is none of them. -/
structure SessionStore where
  timeoutSeconds : Option ℤ
  absoluteMaxSeconds : Option ℤ

inductive SessionCall (κ : Type*) where
  | create (id csrfToken : κ) (credential : Option String)
  | get (id : κ) (credential : Option String)
  | touch (id : κ)
  | destroy (id : κ)
  | cleanup

def expired (expiresAt : Option ℚ) (now : ℚ) : Bool := expiresAt.any (· ≤ now)

namespace SessionStore

variable {κ : Type*} [DecidableEq κ] (store : SessionStore)

def expiry (createdAt now : ℚ) : Option ℚ :=
  ((store.timeoutSeconds.map fun s => now + s).toList ++
    (store.absoluteMaxSeconds.map fun s => createdAt + s).toList).min?

def cleanup (sessions : Table κ (Session κ)) (now : ℚ) : Table κ (Session κ) :=
  sessions.keep fun row => !expired row.2.expiresAt now

def create (sessions : Table κ (Session κ)) (id csrfToken : κ) (credential : Option String)
    (now : ℚ) : Option (Session κ) × Table κ (Session κ) :=
  let session := ⟨id, csrfToken, now, store.expiry now now, credential⟩
  (some session, (cleanup sessions now).upsert id session)

def get (sessions : Table κ (Session κ)) (id : κ) (credential : Option String) (now : ℚ) :
    Option (Session κ) × Table κ (Session κ) :=
  match sessions.lookup id with
  | none => (none, sessions)
  | some session =>
    if expired session.expiresAt now then (none, sessions.erase id)
    else if session.credential.any (credential.getD "" ≠ ·) then (none, sessions.erase id)
    else (some session, sessions)

def touch (sessions : Table κ (Session κ)) (id : κ) (now : ℚ) :
    Option (Session κ) × Table κ (Session κ) :=
  match sessions.lookup id with
  | none => get sessions id none now
  | some session =>
    if expired session.expiresAt now then get sessions id none now
    else
      let session := { session with expiresAt := store.expiry session.createdAt now }
      (some session, sessions.upsert id session)

/-- One call at its time, with the session it answers. -/
def call (sessions : Table κ (Session κ)) (c : SessionCall κ × ℚ) :
    Option (Session κ) × Table κ (Session κ) :=
  match c.1 with
  | .create id csrfToken credential => store.create sessions id csrfToken credential c.2
  | .get id credential => get sessions id credential c.2
  | .touch id => store.touch sessions id c.2
  | .destroy id => (none, sessions.erase id)
  | .cleanup => (none, cleanup sessions c.2)

def step (sessions : Table κ (Session κ)) (c : SessionCall κ × ℚ) : Table κ (Session κ) :=
  (store.call sessions c).2

/-! ### Each session by itself -/

/-- What there is to know of a session: what it was made with, and when it was used last. -/
structure Life (κ : Type*) where
  csrfToken : κ
  createdAt : ℚ
  usedAt : ℚ
  credential : Option String

/-- Neither idle for the timeout nor older than any session may be. -/
def alive (life : Life κ) (now : ℚ) : Bool :=
  store.timeoutSeconds.all (now < life.usedAt + ·) &&
    store.absoluteMaxSeconds.all (now < life.createdAt + ·)

def session (id : κ) (life : Life κ) : Session κ :=
  ⟨id, life.csrfToken, life.createdAt, store.expiry life.createdAt life.usedAt, life.credential⟩

/-- One call, where nothing has to be dropped: whether a session is alive is known from its life. -/
def liveCall (lives : κ → Option (Life κ)) (c : SessionCall κ × ℚ) :
    Option (Session κ) × (κ → Option (Life κ)) :=
  let found (id : κ) := (lives id).filter (store.alive · c.2)
  match c.1 with
  | .create id csrfToken credential =>
    let life := ⟨csrfToken, c.2, c.2, credential⟩
    (some (store.session id life), Function.update lives id (some life))
  | .get id credential =>
    match found id with
    | none => (none, lives)
    | some life =>
      if life.credential.any (credential.getD "" ≠ ·) then (none, Function.update lives id none)
      else (some (store.session id life), lives)
  | .touch id =>
    match found id with
    | none => (none, lives)
    | some life =>
      let life := { life with usedAt := c.2 }
      (some (store.session id life), Function.update lives id (some life))
  | .destroy id => (none, Function.update lives id none)
  | .cleanup => (none, lives)

def liveStep (lives : κ → Option (Life κ)) (c : SessionCall κ × ℚ) : κ → Option (Life κ) :=
  (store.liveCall lives c).2

variable {store} {sessions : Table κ (Session κ)} {lives : κ → Option (Life κ)} {t now now' : ℚ}
  {id : κ} {life : Life κ}

theorem expired_mono {expiresAt : Option ℚ} (hle : now ≤ now')
    (h : expired expiresAt now = true) : expired expiresAt now' = true := by
  rw [expired, Option.any_eq_true] at h ⊢
  obtain ⟨e, he, hend⟩ := h
  exact ⟨e, he, decide_eq_true ((of_decide_eq_true hend).trans hle)⟩

omit [DecidableEq κ] in
theorem expired_session : (!expired (store.session id life).expiresAt now) = store.alive life now := by
  obtain ⟨timeout, most⟩ := store
  rw [session, expired, expiry, alive]
  cases timeout <;> cases most <;> simp [List.min?, ← not_lt]

omit [DecidableEq κ] in
theorem filter_session : (some (store.session id life)).filter (fun s => !expired s.expiresAt now) =
    ((some life).filter (store.alive · now)).map (store.session id) := by
  rw [Option.filter_some, Option.filter_some, expired_session]
  split <;> rfl

omit [DecidableEq κ] in
theorem expired_of_over {s : Session κ}
    (hover : (some s).filter (fun s => !expired s.expiresAt now) = none) :
    expired s.expiresAt now = true := by
  cases hend : expired s.expiresAt now with
  | true => rfl
  | false => simp [hend] at hover

theorem touch_of_over
    (hover : (sessions.lookup id).filter (fun s => !expired s.expiresAt now) = none) :
    store.touch sessions id now = get sessions id none now := by
  rw [touch]
  cases hfound : sessions.lookup id with
  | none => rfl
  | some s => exact if_pos (expired_of_over (hfound ▸ hover))

/-- The sessions of the table that have not expired are those that are alive, from a time on. -/
def Agree (store : SessionStore) (sessions : Table κ (Session κ)) (lives : κ → Option (Life κ))
    (t : ℚ) : Prop :=
  ∀ now, t ≤ now → ∀ id, (sessions.lookup id).filter (fun s => !expired s.expiresAt now) =
    ((lives id).filter (store.alive · now)).map (store.session id)

namespace Agree

section

variable (h : Agree store sessions lives t)
include h

theorem mono (hle : t ≤ now) : Agree store sessions lives now :=
  fun now' hle' => h now' (hle.trans hle')

theorem set (id : κ) (life : Life κ) :
    Agree store (sessions.upsert id (store.session id life)) (Function.update lives id (some life))
      t := by
  intro now hle id'
  rw [Table.lookup_upsert]
  by_cases hid : id' = id
  · subst hid
    rw [if_pos rfl, Function.update_self]
    exact filter_session
  · rw [if_neg hid, Function.update_of_ne hid]
    exact h now hle id'

theorem erase (id : κ) :
    Agree store (sessions.erase id) (Function.update lives id none) t := by
  intro now hle id'
  rw [Table.lookup_erase]
  by_cases hid : id' = id
  · subst hid
    rw [if_pos rfl, Function.update_self]
    rfl
  · rw [if_neg hid, Function.update_of_ne hid]
    exact h now hle id'

theorem cleanup (hle : t ≤ now) :
    Agree store (cleanup sessions now) lives now := by
  intro now' hle' id
  rw [← h now' (hle.trans hle') id, SessionStore.cleanup, Table.lookup_keep, Option.filter_filter]
  congr 1
  funext s
  cases hend : expired s.expiresAt now with
  | false => simp
  | true => simp [expired_mono hle' hend]

theorem drop (hle : t ≤ now) {s : Session κ}
    (hfound : sessions.lookup id = some s) (hend : expired s.expiresAt now = true) :
    Agree store (sessions.erase id) lives now := by
  intro now' hle' id'
  rw [← h now' (hle.trans hle') id', Table.lookup_erase]
  by_cases hid : id' = id
  · subst hid
    rw [if_pos rfl, hfound, Option.filter_some, expired_mono hle' hend]
    rfl
  · rw [if_neg hid]

/-- **A call for a session that is over answers none**, and drops no other. -/
theorem get_over (hle : t ≤ now)
    (hover : (sessions.lookup id).filter (fun s => !expired s.expiresAt now) = none)
    (credential : Option String) :
    (get sessions id credential now).1 = none ∧
      Agree store (get sessions id credential now).2 lives now := by
  rw [get]
  cases hfound : sessions.lookup id with
  | none => exact ⟨rfl, h.mono hle⟩
  | some s =>
    have hend := expired_of_over (hfound ▸ hover)
    dsimp only
    rw [if_pos hend]
    exact ⟨rfl, h.drop hle hfound hend⟩

/-- **What is found of a session**: none that is alive, or the one that its life gives. -/
theorem found (hle : t ≤ now) (id : κ) :
    ((lives id).filter (store.alive · now) = none ∧
        (sessions.lookup id).filter (fun s => !expired s.expiresAt now) = none) ∨
      ∃ life, (lives id).filter (store.alive · now) = some life ∧
        sessions.lookup id = some (store.session id life) ∧
        expired (store.session id life).expiresAt now = false := by
  have heq := h now hle id
  cases hlife : (lives id).filter (store.alive · now) with
  | none =>
    rw [hlife] at heq
    exact .inl ⟨rfl, heq⟩
  | some life =>
    rw [hlife, Option.map_some, Option.filter_eq_some_iff] at heq
    exact .inr ⟨life, rfl, heq.1, by simpa using heq.2⟩

end

end Agree

theorem call_agrees (h : Agree store sessions lives t) (c : SessionCall κ × ℚ) (hle : t ≤ c.2) :
    (store.call sessions c).1 = (store.liveCall lives c).1 ∧
      Agree store (store.step sessions c) (store.liveStep lives c) c.2 := by
  obtain ⟨c, now⟩ := c
  cases c with
  | create id csrfToken credential => exact ⟨rfl, (h.cleanup hle).set id ⟨csrfToken, now, now, credential⟩⟩
  | get id credential =>
    rw [step, liveStep, call, liveCall]
    dsimp only
    rcases h.found hle id with ⟨hlife, hend⟩ | ⟨life, hlife, hlookup, hend⟩
    · rw [hlife]
      exact h.get_over hle hend credential
    · rw [hlife, get, hlookup]
      have hsame : (store.session id life).credential = life.credential := rfl
      simp only [hend, Bool.false_eq_true, if_false, hsame]
      by_cases hother : life.credential.any (credential.getD "" ≠ ·) = true
      · rw [if_pos hother, if_pos hother]
        exact ⟨rfl, (h.mono hle).erase id⟩
      · rw [if_neg hother, if_neg hother]
        exact ⟨rfl, h.mono hle⟩
  | touch id =>
    rw [step, liveStep, call, liveCall]
    dsimp only
    rcases h.found hle id with ⟨hlife, hend⟩ | ⟨life, hlife, hlookup, hend⟩
    · rw [hlife, touch_of_over hend]
      exact h.get_over hle hend none
    · rw [hlife, touch, hlookup]
      simp only [hend, Bool.false_eq_true, if_false]
      exact ⟨rfl, (h.mono hle).set id { life with usedAt := now }⟩
  | destroy id => exact ⟨rfl, (h.mono hle).erase id⟩
  | cleanup => exact ⟨rfl, h.cleanup hle⟩

theorem agree_run (h : Agree store sessions lives t) {calls : List (SessionCall κ × ℚ)}
    (hordered : (t :: calls.map Prod.snd).Pairwise (· ≤ ·)) (hle : t ≤ now)
    (hlast : ∀ c ∈ calls, c.2 ≤ now) :
    Agree store (run store.step sessions calls) (run store.liveStep lives calls) now := by
  induction calls generalizing sessions lives t with
  | nil => exact h.mono hle
  | cons c calls ih =>
    rw [List.map_cons, List.pairwise_cons] at hordered
    have hc : t ≤ c.2 := hordered.1 c.2 List.mem_cons_self
    exact ih (call_agrees h c hc).2 hordered.2 (hlast c List.mem_cons_self)
      fun c' hc' => hlast c' (List.mem_cons_of_mem c hc')

/-- **Sessions live apart.**  In every run of calls at times that do not go back, each call answers
as if its session lived by itself: until it was idle for the timeout or as old as any may be, was
destroyed, or was asked for with another password record.  What is dropped of others, and when,
changes no answer, and no touch brings a session back. -/
theorem sessions_live_apart (store : SessionStore) (start : ℚ) (calls : List (SessionCall κ × ℚ))
    (c : SessionCall κ × ℚ)
    (hordered : (start :: (calls ++ [c]).map Prod.snd).Pairwise (· ≤ ·)) :
    (store.call (run store.step .empty calls) c).1 =
      (store.liveCall (run store.liveStep (fun _ => none) calls) c).1 := by
  have hempty : Agree store (.empty : Table κ (Session κ)) (fun _ => none) start :=
    fun _ _ _ => rfl
  rw [List.map_append, ← List.cons_append, List.pairwise_append] at hordered
  obtain ⟨hcalls, -, hlast⟩ := hordered
  have hlast' : ∀ u ∈ start :: calls.map Prod.snd, u ≤ c.2 := fun u hu =>
    hlast u hu c.2 List.mem_cons_self
  have hagree := agree_run hempty hcalls (hlast' start List.mem_cons_self) fun c' hc' =>
    hlast' c'.2 (List.mem_cons_of_mem _ (List.mem_map_of_mem hc'))
  exact (call_agrees hagree c le_rfl).1

/-- Two sessions of ten seconds, of which one is used in time and a cleanup drops the other. -/
def touchedCalls : List (SessionCall ℕ × ℚ) :=
  [(.create 1 2 none, 0), (.create 2 3 none, 4), (.touch 1, 9), (.cleanup, 15)]

/-- A session asked for after these calls is answered as if it lived alone. -/
def TouchedAlone (id : ℕ) : Prop :=
  ((⟨some 10, none⟩ : SessionStore).call (run (step ⟨some 10, none⟩) .empty touchedCalls)
      (.get id none, 16)).1 =
    (liveCall ⟨some 10, none⟩ (run (liveStep ⟨some 10, none⟩) (fun _ => none) touchedCalls)
      (.get id none, 16)).1

theorem sessions_live_apart_touched : TouchedAlone 1 ∧ TouchedAlone 2 := by
  have halone (id : ℕ) : TouchedAlone id :=
    sessions_live_apart ⟨some 10, none⟩ 0 touchedCalls (.get id none, 16)
      (show ([0, 0, 4, 9, 15, 16] : List ℚ).Pairwise (· ≤ ·) by decide)
  exact ⟨halone 1, halone 2⟩

end SessionStore

end SolarFlowEms.Dashboard
