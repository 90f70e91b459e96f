/-
  The deadlines of the sampler's worker (`TelemetrySampler._run`).

  Once a sample is published, the worker moves its deadline on by one interval
  and, if the clock has passed that one, to the next point of the same grid; then
  it waits.  With a clock that does not go back and waits that last until the clock
  shows the deadline, no wait is longer than an interval, no deadline comes twice
  and no two samples are taken in one interval (`deadlines_skip`).
-/
import Mathlib.Data.Rat.Floor
import Mathlib.Order.Interval.Set.Defs
import SweatMeter.Clock
import SweatMeter.Grid
import SweatMeter.Quiescence

namespace SweatMeter

open Py Number

/-- The deadline after the one of a sample, at a clock that shows `now`. -/
def nextDeadline (interval : Seconds) (deadline now : ℚ) : ℚ :=
  let deadline := deadline + interval.value
  if deadline ≤ now then
    let missedIntervals := ⌊(now - deadline) / interval.value⌋ + 1
    deadline + missedIntervals * interval.value
  else deadline

/-- The timeout of `_stop_event.wait`. -/
def waitSeconds (deadline now : ℚ) : ℚ := max 0 (deadline - now)

/-! ## Runs of the sampler with a clock -/

/-- The local variables of a thread in `_run`. -/
structure Pace where
  deadline : ℚ
  /-- the clock shows this time, or a later one -/
  reached : ℚ

structure PacedSampler (σ : Type) where
  sampler : Sampler σ
  pace : ℕ → Pace

/-- A step, with the read of the clocks in it, if there is one. -/
structure PacedAct (σ : Type) where
  act : Act σ
  read : Option ClockRead := none

variable {σ : Type}

/-- What `_monotonic_now` returns in a step. -/
def PacedAct.now (a : PacedAct σ) : Option ℚ :=
  match a.read.map ClockRead.monotonicNow with
  | some (.ok now) => some now
  | _ => none

/-- The effect of a step of the thread, which reads `now`.  A thread that leaves
    `_run` by an exception has computed no deadline. -/
def Pace.move (interval : Seconds) (p : Pace) (now : Option ℚ) : Move σ → Option Pace
  | .boot => now.map fun now => ⟨now, now⟩
  | .collected _ sampledAt =>
    if now = some sampledAt ∧ p.reached ≤ sampledAt then some { p with reached := sampledAt }
    else none
  | .timeout => now.bind fun now =>
    if p.reached ≤ now then
      let next := nextDeadline interval p.deadline now
      some ⟨next, max now next⟩
    else none
  | .signalled => now.bind fun now =>
    if p.reached ≤ now then some ⟨nextDeadline interval p.deadline now, now⟩ else none
  | _ => some p

def PacedSampler.step (cfg : SamplerConfig) (interval : Seconds) (s : PacedSampler σ)
    (a : PacedAct σ) : Option (PacedSampler σ) :=
  match a.act with
  | .worker t m => ((s.pace t).move interval a.now m).bind fun p =>
    (s.sampler.step cfg (.worker t m)).map fun sampler =>
      ⟨sampler, Function.update s.pace t p⟩
  | act => (s.sampler.step cfg act).map fun sampler => { s with sampler }

/-- The sampler, if the clock that a thread reads does not go back, and shows the
    deadline when a wait for it is over. -/
def pacedLts (σ : Type) (cfg : SamplerConfig) (interval : Seconds) :
    Lts (PacedSampler σ) (PacedAct σ) where
  init := ⟨.initial, fun _ => ⟨0, 0⟩⟩
  step s a := s.step cfg interval a

/-! ## What a thread has scheduled -/

/-- A sample, and the deadline it was taken for. -/
structure Sampled where
  deadline : ℚ
  sampledAt : ℚ

/-- A pass through the scheduling of the next deadline. -/
structure Scheduled where
  /-- the deadline before it -/
  deadline : ℚ
  now : ℚ
  next : ℚ
  wait : ℚ

structure PaceLog where
  start : ℚ := 0
  samples : List Sampled := []
  schedules : List Scheduled := []

/-- The deadlines of the thread: the time it has started at, and those it has computed. -/
def PaceLog.deadlines (log : PaceLog) : List ℚ := log.start :: log.schedules.map Scheduled.next

/-- The log after the next deadline has been computed. -/
def PaceLog.schedule (interval : Seconds) (log : PaceLog) (p : Pace) (now : ℚ) : PaceLog :=
  let next := nextDeadline interval p.deadline now
  { log with schedules := log.schedules ++ [⟨p.deadline, now, next, waitSeconds next now⟩] }

def PaceLog.move (interval : Seconds) (log : PaceLog) (p : Pace) (now : Option ℚ) :
    Move σ → PaceLog
  | .boot => now.elim log fun now => { start := now }
  | .collected _ sampledAt => { log with samples := log.samples ++ [⟨p.deadline, sampledAt⟩] }
  | .timeout | .signalled => now.elim log fun now => log.schedule interval p now
  | _ => log

/-- What every thread has scheduled so far. -/
def observePace (interval : Seconds) (s : PacedSampler σ) (a : PacedAct σ) (log : ℕ → PaceLog) :
    ℕ → PaceLog :=
  match a.act with
  | .worker t m => Function.update log t ((log t).move interval (s.pace t) a.now m)
  | _ => log

/-- The worker skips the deadlines it has missed, and makes up for none of them. -/
structure Skips (interval : Seconds) (log : PaceLog) : Prop where
  wait : ∀ e ∈ log.schedules, e.wait ∈ Set.Ioc 0 interval.value
  /-- a new deadline is the least point of the grid after the last one and the clock -/
  next : ∀ e ∈ log.schedules,
    IsLeast {g ∈ Grid log.start interval.value | e.deadline < g ∧ e.now < g} e.next
  previous : log.schedules.map Scheduled.deadline = log.deadlines.dropLast
  deadlines : ∃ ks : List ℤ,
    ks.Pairwise (· < ·) ∧ log.deadlines = ks.map fun k : ℤ => log.start + k * interval.value
  /-- no two samples are for the same deadline -/
  scheduled : (log.samples.map Sampled.deadline).Pairwise (· < ·)
  /-- no two samples are taken in the same interval -/
  sampled : (log.samples.map fun e => ⌊(e.sampledAt - log.start) / interval.value⌋).Pairwise
    (· < ·)

/-! ## One pass -/

section
variable {interval : Seconds} {start deadline now : ℚ}

theorem nextDeadline_isLeast (h : deadline ∈ Grid start interval.value) (now : ℚ) :
    IsLeast {g ∈ Grid start interval.value | deadline < g ∧ now < g}
      (nextDeadline interval deadline now) := by
  have hstep := Grid.isLeast_add_step interval.pos h
  simp only [nextDeadline]
  split_ifs with hmissed
  · have hcatch := Grid.isLeast_catch_up interval.pos (Grid.add_step_mem h) now
    refine ⟨⟨hcatch.1.1, ?_, hcatch.1.2⟩, ?_⟩
    · exact hstep.1.2.trans_le (hmissed.trans hcatch.1.2.le)
    · rintro g ⟨hg, -, hnow⟩
      exact hcatch.2 ⟨hg, hnow⟩
  · refine ⟨⟨hstep.1.1, hstep.1.2, not_le.1 hmissed⟩, ?_⟩
    rintro g ⟨hg, hlt, -⟩
    exact hstep.2 ⟨hg, hlt⟩

theorem nextDeadline_le (interval : Seconds) (h : deadline ≤ now) :
    nextDeadline interval deadline now ≤ now + interval.value := by
  simp only [nextDeadline]
  split_ifs with hmissed
  · exact Grid.catch_up_le interval.pos
  · linarith

theorem waitSeconds_mem (hgrid : deadline ∈ Grid start interval.value) (h : deadline ≤ now) :
    waitSeconds (nextDeadline interval deadline now) now ∈ Set.Ioc 0 interval.value := by
  have hlt := (nextDeadline_isLeast hgrid now).1.2.2
  have hle := nextDeadline_le interval h
  rw [waitSeconds, max_eq_right (by linarith)]
  exact ⟨by linarith, by linarith⟩

end

/-! ## What a pass adds to the log -/

section
variable {interval : Seconds} {p : Pace} {log : PaceLog} {now : ℚ}

/-- The thread is about to take a sample for its deadline. -/
structure Due (p : Pace) (log : PaceLog) : Prop where
  current : log.deadlines = log.schedules.map Scheduled.deadline ++ [p.deadline]
  samples : log.samples.map Sampled.deadline = log.schedules.map Scheduled.deadline
  reached : p.deadline ≤ p.reached
  sampled : ∀ e ∈ log.samples, e.sampledAt < p.deadline

/-- The thread has taken the sample, and is about to compute the next deadline. -/
structure Taken (p : Pace) (log : PaceLog) : Prop where
  current : log.deadlines = log.schedules.map Scheduled.deadline ++ [p.deadline]
  samples : log.samples.map Sampled.deadline = log.deadlines
  reached : p.deadline ≤ p.reached
  sampled : ∀ e ∈ log.samples, e.sampledAt ≤ p.reached

theorem Skips.increasing (h : Skips interval log) :
    (∀ d ∈ log.deadlines, d ∈ Grid log.start interval.value) ∧ log.deadlines.Pairwise (· < ·) :=
  (Grid.indices_iff interval.pos).1 h.deadlines

theorem skips_start (interval : Seconds) (start : ℚ) : Skips interval { start } where
  wait := by rintro e ⟨⟩
  next := by rintro e ⟨⟩
  previous := rfl
  deadlines := ⟨[0], List.pairwise_singleton _ _, by simp [PaceLog.deadlines]⟩
  scheduled := .nil
  sampled := .nil

theorem due_start (start : ℚ) : Due ⟨start, start⟩ { start } where
  current := rfl
  samples := rfl
  reached := le_rfl
  sampled := by rintro e ⟨⟩

/-- The first sample for a deadline. -/
theorem skips_sample (h : Skips interval log) (hdue : Due p log) {sampledAt : ℚ}
    (hle : p.reached ≤ sampledAt) :
    Skips interval { log with samples := log.samples ++ [⟨p.deadline, sampledAt⟩] } := by
  have hcurrent : p.deadline ∈ log.deadlines := by simp [hdue.current]
  have hgrid := h.increasing.1 _ hcurrent
  refine ⟨h.wait, h.next, h.previous, h.deadlines, ?_, ?_⟩
  · have hlt := h.increasing.2
    rw [hdue.current] at hlt
    simpa [hdue.samples] using hlt
  · rw [List.map_append, List.pairwise_append]
    refine ⟨h.sampled, List.pairwise_singleton _ _, ?_⟩
    intro a ha b hb
    rcases List.mem_map.1 ha with ⟨e, he, rfl⟩
    rcases List.mem_singleton.1 hb with rfl
    exact Grid.floor_lt_floor interval.pos hgrid (hdue.sampled e he) (hdue.reached.trans hle)

theorem taken_sample (hdue : Due p log) {sampledAt : ℚ} (hle : p.reached ≤ sampledAt) :
    Taken { p with reached := sampledAt }
      { log with samples := log.samples ++ [⟨p.deadline, sampledAt⟩] } where
  current := hdue.current
  samples := by
    rw [List.map_append, hdue.samples]
    exact hdue.current.symm
  reached := hdue.reached.trans hle
  sampled := by
    intro e he
    rcases List.mem_append.1 he with he | he
    · exact (hdue.sampled e he).le.trans (hdue.reached.trans hle)
    · rcases List.mem_singleton.1 he with rfl
      exact le_rfl

theorem deadlines_schedule :
    (log.schedule interval p now).deadlines =
      log.deadlines ++ [nextDeadline interval p.deadline now] := by
  simp [PaceLog.schedule, PaceLog.deadlines]

/-- The deadline of the thread is the latest one. -/
theorem le_current (h : Skips interval log) (htaken : Taken p log) :
    ∀ d ∈ log.deadlines, d ≤ p.deadline := by
  intro d hd
  have hlt := h.increasing.2
  rw [htaken.current] at hlt hd
  rcases List.mem_append.1 hd with hd | hd
  · exact ((List.pairwise_append.1 hlt).2.2 d hd _ (List.mem_singleton.2 rfl)).le
  · exact (List.mem_singleton.1 hd).le

theorem skips_schedule (h : Skips interval log) (htaken : Taken p log) (hle : p.reached ≤ now) :
    Skips interval (log.schedule interval p now) := by
  have hcurrent : p.deadline ∈ log.deadlines := by simp [htaken.current]
  have hgrid := h.increasing.1 _ hcurrent
  have hleast := nextDeadline_isLeast hgrid now
  have hnow := htaken.reached.trans hle
  refine ⟨?_, ?_, ?_, ?_, h.scheduled, h.sampled⟩
  · intro e he
    rcases List.mem_append.1 he with he | he
    · exact h.wait e he
    · rcases List.mem_singleton.1 he with rfl
      exact waitSeconds_mem hgrid hnow
  · intro e he
    rcases List.mem_append.1 he with he | he
    · exact h.next e he
    · rcases List.mem_singleton.1 he with rfl
      exact hleast
  · rw [deadlines_schedule, List.dropLast_concat, htaken.current]
    simp [PaceLog.schedule]
  · refine (Grid.indices_iff interval.pos).2 ?_
    rw [deadlines_schedule]
    constructor
    · intro d hd
      rcases List.mem_append.1 hd with hd | hd
      · exact h.increasing.1 d hd
      · rcases List.mem_singleton.1 hd with rfl
        exact hleast.1.1
    · refine List.pairwise_append.2 ⟨h.increasing.2, List.pairwise_singleton _ _, ?_⟩
      intro d hd d' hd'
      rcases List.mem_singleton.1 hd' with rfl
      exact (le_current h htaken d hd).trans_lt hleast.1.2.1

theorem due_schedule (h : Skips interval log) (htaken : Taken p log) (hle : p.reached ≤ now) :
    Due ⟨nextDeadline interval p.deadline now, max now (nextDeadline interval p.deadline now)⟩
      (log.schedule interval p now) where
  current := by
    rw [deadlines_schedule, htaken.current]
    simp [PaceLog.schedule]
  samples := by
    have hsamples : (log.schedule interval p now).samples = log.samples := rfl
    rw [hsamples, htaken.samples, htaken.current]
    simp [PaceLog.schedule]
  reached := le_max_right _ _
  sampled := by
    intro e he
    have hcurrent : p.deadline ∈ log.deadlines := by simp [htaken.current]
    have hleast := nextDeadline_isLeast (h.increasing.1 _ hcurrent) now
    exact ((htaken.sampled e he).trans hle).trans_lt hleast.1.2.2

end

/-! ## The whole sampler -/

section
variable {cfg : SamplerConfig} {interval : Seconds}

/-- What holds at a point of `_run`. -/
def AtPoint (p : Pace) (log : PaceLog) : Worker σ → Prop
  | .loop | .collect => Due p log
  | .publish _ _ | .published _ | .callback | .pause => Taken p log
  | _ => True

theorem pace_flow {s : Sampler σ} {t : ℕ} {w q : Worker σ} {m : Move σ} {p p' : Pace}
    {log : PaceLog} {now : Option ℚ} (hflow : Sampler.Flow cfg s t w m q)
    (hskips : Skips interval log) (hpoint : AtPoint p log w)
    (hmove : p.move interval now m = some p') :
    Skips interval (log.move interval p now m) ∧ AtPoint p' (log.move interval p now m) q := by
  cases hflow with
  | boot =>
    rcases Option.map_eq_some_iff.1 hmove with ⟨start, rfl, rfl⟩
    exact ⟨skips_start interval start, due_start start⟩
  | @collected x sampledAt =>
    simp only [Pace.move] at hmove
    split_ifs at hmove with hread
    cases hmove
    exact ⟨skips_sample hskips hpoint hread.2, taken_sample hpoint hread.2⟩
  | timeout =>
    rcases now with _ | now
    · cases hmove
    simp only [Pace.move, Option.bind_some] at hmove
    split_ifs at hmove with hle
    cases hmove
    exact ⟨skips_schedule hskips hpoint hle, due_schedule hskips hpoint hle⟩
  | signalled _ =>
    rcases now with _ | now
    · cases hmove
    simp only [Pace.move, Option.bind_some] at hmove
    split_ifs at hmove with hle
    cases hmove
    exact ⟨skips_schedule hskips hpoint hle, trivial⟩
  | run _ | publish | call _ | noCall _ | ret _ =>
    cases hmove
    exact ⟨hskips, hpoint⟩
  | stop _ | bootAbort | collectAbort | pauseAbort | callbackAbort _ | notify | die =>
    cases hmove
    exact ⟨hskips, trivial⟩

/-- Other steps leave a thread where it is, or start it. -/
theorem worker_of_step {s s' : Sampler σ} {a : Act σ} (h : Sampler.Stepped cfg s a s')
    (ha : ∀ t m, a ≠ .worker t m) (t : ℕ) : s'.worker t = s.worker t ∨ s'.worker t = .boot := by
  cases h with
  | @start c ok _ =>
    unfold Sampler.start
    split_ifs with halive
    · exact .inl rfl
    · by_cases ht : t = s.spawned
      · rw [ht]
        exact .inr (Function.update_self _ _ _)
      · exact .inl (Function.update_of_ne ht _ _)
    · exact .inl rfl
  | @stop c d _ => exact .inl (congrFun (Sampler.stop_frame s c d).2.1 t)
  | @worker t m q _ => exact absurd rfl (ha t m)
  | @check i n _ => exact .inl (congrFun (Sampler.check_frame s i n).2.1 t)
  | _ => exact .inl rfl

structure PacedInv (interval : Seconds) (s : PacedSampler σ) (log : ℕ → PaceLog) : Prop where
  skips : ∀ t, Skips interval (log t)
  point : ∀ t, AtPoint (s.pace t) (log t) (s.sampler.worker t)

theorem pacedInv_step (s : PacedSampler σ) (a : PacedAct σ) (s' : PacedSampler σ)
    (log : ℕ → PaceLog) (h : PacedInv interval s log)
    (hstep : (pacedLts σ cfg interval).step s a = some s') :
    PacedInv interval s' (observePace interval s a log) := by
  rcases a with ⟨act, read⟩
  by_cases hworker : ∃ t m, act = .worker t m
  · rcases hworker with ⟨t, m, rfl⟩
    rcases Option.bind_eq_some_iff.1 hstep with ⟨p, hp, hstep⟩
    rcases Option.map_eq_some_iff.1 hstep with ⟨sampler, hsampler, rfl⟩
    rcases Sampler.move_cases hsampler with ⟨q, hflow, rfl⟩
    have hnew := pace_flow hflow (h.skips t) (h.point t) hp
    constructor
    · intro u
      by_cases hu : u = t
      · subst hu
        simpa [observePace] using hnew.1
      · simpa [observePace, hu] using h.skips u
    · intro u
      by_cases hu : u = t
      · subst hu
        simpa [observePace] using hnew.2
      · simpa [observePace, hu] using h.point u
  · have hne : ∀ t m, act ≠ .worker t m := by
      intro t m heq
      exact hworker ⟨t, m, heq⟩
    have hmap : (s.sampler.step cfg act).map (fun sampler => { s with sampler }) = some s' := by
      cases act with
      | worker t m => exact absurd rfl (hne t m)
      | _ => exact hstep
    have hlog : observePace interval s ⟨act, read⟩ log = log := by
      cases act with
      | worker t m => exact absurd rfl (hne t m)
      | _ => rfl
    rcases Option.map_eq_some_iff.1 hmap with ⟨sampler, hsampler, rfl⟩
    rw [hlog]
    refine ⟨h.skips, ?_⟩
    intro t
    rcases worker_of_step (Sampler.step_cases hsampler) hne t with hw | hw
    · simpa [hw] using h.point t
    · rw [hw]
      trivial

/-- **Deadlines are skipped, and never made up for.**  In every run in which the clocks
    read by a thread do not go back and every wait lasts until the clock shows the deadline,
    each wait is positive and at most one interval, each new deadline is the least point
    of the grid after the one before and after the clock, and no two samples belong to the
    same deadline or the same interval. -/
theorem deadlines_skip {as : List (PacedAct σ)} {s : PacedSampler σ}
    (hrun : (pacedLts σ cfg interval).exec (pacedLts σ cfg interval).init as = some s) (t : ℕ) :
    Skips interval ((pacedLts σ cfg interval).record (observePace interval)
      (pacedLts σ cfg interval).init (fun _ => {}) as t) := by
  refine (Lts.record_inv pacedInv_step ⟨?_, ?_⟩ hrun).skips t
  · intro t
    exact skips_start interval 0
  · intro t
    trivial

end

/-! ## A late worker -/

/-- The injected clock shows a number. -/
def readsAt (now : ℚ) : Option ClockRead := some ⟨.ok (.num (.float (.finite now))), 0⟩

/-- With an interval of ten seconds, the first sample takes 30, up to a point of the grid,
    and the second one 7. -/
def lateWorker : List (PacedAct Unit) := [
  ⟨.start (.outside 0) true, none⟩,
  ⟨.worker 0 .boot, readsAt 100⟩,
  ⟨.worker 0 .test, none⟩,
  ⟨.worker 0 (.collected () 130), readsAt 130⟩,
  ⟨.worker 0 .publish, none⟩,
  ⟨.worker 0 .call, none⟩,
  ⟨.worker 0 .timeout, readsAt 130⟩,
  ⟨.worker 0 .test, none⟩,
  ⟨.worker 0 (.collected () 147), readsAt 147⟩,
  ⟨.worker 0 .publish, none⟩,
  ⟨.worker 0 .call, none⟩,
  ⟨.worker 0 .timeout, readsAt 147⟩]

def tenSeconds : Seconds := ⟨10, by norm_num⟩

def newestOnly : SamplerConfig := ⟨1, false, Nat.one_pos, 9223372036⟩

theorem deadlines_skip_late :
    Skips tenSeconds ((pacedLts Unit newestOnly tenSeconds).record (observePace tenSeconds)
      (pacedLts Unit newestOnly tenSeconds).init (fun _ => {}) lateWorker 0) ∧
    ((pacedLts Unit newestOnly tenSeconds).record (observePace tenSeconds)
      (pacedLts Unit newestOnly tenSeconds).init (fun _ => {}) lateWorker 0).deadlines =
        [100, 140, 150] := by
  have hrun : ((pacedLts Unit newestOnly tenSeconds).exec
      (pacedLts Unit newestOnly tenSeconds).init lateWorker).isSome = true := by
    decide +kernel
  rcases Option.isSome_iff_exists.1 hrun with ⟨s, hrun⟩
  exact ⟨deadlines_skip hrun 0, by decide +kernel⟩

end SweatMeter
