/-
  The pace of the sampler's worker over a whole run.

  Deadline number `k` lies `k` intervals after the start of the worker, and as many
  more as had been missed by then (`missedBefore`): delays do not add up, and a worker
  that is never late by an interval takes sample number `k` in interval number `k`
  (`sampling_schedule`).  In a period of any length the samples are at most one more
  than the intervals that fit in it and the one it ends in (`sampling_rate`).
-/
import Mathlib.Algebra.BigOperators.Group.List.Basic
import SweatMeter.Deadlines

namespace SweatMeter

open Py

/-! ## Missed intervals -/

/-- The whole intervals that have passed since the deadline of the pass. -/
def Scheduled.missed (interval : Seconds) (e : Scheduled) : ℤ :=
  ⌊(e.now - e.deadline) / interval.value⌋

/-- The intervals missed in the first `k` passes. -/
def missedBefore (interval : Seconds) (log : PaceLog) (k : ℕ) : ℤ :=
  ((log.schedules.take k).map (Scheduled.missed interval)).sum

/-- The samples and the passes of a worker belong together. -/
structure Paired (interval : Seconds) (log : PaceLog) : Prop where
  passes : ∀ e ∈ log.schedules,
    e.deadline ≤ e.now ∧ e.next = nextDeadline interval e.deadline e.now
  /-- sample number `k` is taken for deadline number `k` -/
  samples : log.samples.map Sampled.deadline <+: log.deadlines
  late : ∀ e ∈ log.samples, e.deadline ≤ e.sampledAt
  sampledBefore : ∀ (k : ℕ) (e : Sampled) (f : Scheduled), log.samples[k]? = some e →
    log.schedules[k]? = some f → e.sampledAt ≤ f.now

section
variable {interval : Seconds} {deadline now : ℚ}

/-- The next deadline is one interval on, and one more for each that was missed. -/
theorem nextDeadline_eq (h : deadline ≤ now) : nextDeadline interval deadline now =
    deadline + (1 + ⌊(now - deadline) / interval.value⌋ : ℤ) * interval.value := by
  have hpos := interval.pos
  simp only [nextDeadline]
  split_ifs with hmissed
  · have hshift : (now - (deadline + interval.value)) / interval.value =
        (now - deadline) / interval.value - 1 := by
      rw [← sub_sub, sub_div, div_self hpos.ne']
    rw [hshift, Int.floor_sub_one]
    push_cast
    ring
  · have hzero : ⌊(now - deadline) / interval.value⌋ = 0 := by
      rw [Int.floor_eq_zero_iff]
      refine ⟨div_nonneg (by linarith) hpos.le, ?_⟩
      rw [div_lt_one hpos]
      linarith
    rw [hzero]
    push_cast
    ring

theorem missed_nonneg {e : Scheduled} (h : e.deadline ≤ e.now) : 0 ≤ e.missed interval :=
  Int.floor_nonneg.2 (div_nonneg (by linarith) interval.pos.le)

end

/-! ## One step -/

section
variable {interval : Seconds} {p : Pace} {log : PaceLog} {now : ℚ}

theorem paired_start (interval : Seconds) (start : ℚ) : Paired interval { start } where
  passes := by rintro e ⟨⟩
  samples := List.nil_prefix
  late := by rintro e ⟨⟩
  sampledBefore := by simp

theorem paired_sample (h : Paired interval log) (hdue : Due p log) {sampledAt : ℚ}
    (hle : p.reached ≤ sampledAt) :
    Paired interval { log with samples := log.samples ++ [⟨p.deadline, sampledAt⟩] } where
  passes := h.passes
  samples := by
    rw [List.map_append, hdue.samples]
    exact hdue.current ▸ List.prefix_refl _
  late := by
    intro e he
    rcases List.mem_append.1 he with he | he
    · exact h.late e he
    · rcases List.mem_singleton.1 he with rfl
      exact hdue.reached.trans hle
  sampledBefore := by
    intro k e f he hf
    have hlen : log.samples.length = log.schedules.length := by
      simpa using congrArg List.length hdue.samples
    have hk : k < log.samples.length := by
      rw [hlen]
      exact (List.getElem?_eq_some_iff.1 hf).1
    rw [List.getElem?_append_left hk] at he
    exact h.sampledBefore k e f he hf

theorem paired_schedule (h : Paired interval log) (htaken : Taken p log) (hle : p.reached ≤ now) :
    Paired interval (log.schedule interval p now) where
  passes := by
    intro e he
    rcases List.mem_append.1 he with he | he
    · exact h.passes e he
    · rcases List.mem_singleton.1 he with rfl
      exact ⟨htaken.reached.trans hle, rfl⟩
  samples := by
    rw [deadlines_schedule]
    exact h.samples.trans (List.prefix_append _ _)
  late := h.late
  sampledBefore := by
    intro k e f he hf
    rcases List.mem_append.1 (List.mem_of_getElem? hf) with hmem | hmem
    · by_cases hk : k < log.schedules.length
      · rw [PaceLog.schedule, List.getElem?_append_left hk] at hf
        exact h.sampledBefore k e f he hf
      · rw [PaceLog.schedule, List.getElem?_append_right (not_lt.1 hk)] at hf
        obtain rfl := List.mem_singleton.1 (List.mem_of_getElem? hf)
        exact (htaken.sampled e (List.mem_of_getElem? he)).trans hle
    · obtain rfl := List.mem_singleton.1 hmem
      exact (htaken.sampled e (List.mem_of_getElem? he)).trans hle

variable {σ : Type} {cfg : SamplerConfig}

theorem paired_flow {s : Sampler σ} {t : ℕ} {w q : Worker σ} {m : Move σ} {p' : Pace}
    {now : Option ℚ} (hflow : Sampler.Flow cfg s t w m q) (h : Paired interval log)
    (hpoint : AtPoint p log w) (hmove : p.move interval now m = some p') :
    Paired interval (log.move interval p now m) := by
  cases hflow with
  | boot =>
    rcases Option.map_eq_some_iff.1 hmove with ⟨start, rfl, -⟩
    exact paired_start interval start
  | @collected x sampledAt =>
    simp only [Pace.move] at hmove
    split_ifs at hmove with hread
    exact paired_sample h hpoint hread.2
  | timeout | signalled _ =>
    rcases now with _ | now
    · cases hmove
    simp only [Pace.move, Option.bind_some] at hmove
    split_ifs at hmove with hle
    exact paired_schedule h hpoint hle
  | _ => exact h

/-- The log of a step: a worker's is moved on, or none is. -/
theorem observePace_cases {s s' : PacedSampler σ} {a : PacedAct σ} (log : ℕ → PaceLog)
    (hstep : (pacedLts σ cfg interval).step s a = some s') :
    observePace interval s a log = log ∨ ∃ t m q p,
      Sampler.Flow cfg s.sampler t (s.sampler.worker t) m q ∧
      (s.pace t).move interval a.now m = some p ∧
      observePace interval s a log =
        Function.update log t ((log t).move interval (s.pace t) a.now m) := by
  rcases a with ⟨act, read⟩
  cases act with
  | worker t m =>
    rcases Option.bind_eq_some_iff.1 hstep with ⟨p, hp, hstep⟩
    rcases Option.map_eq_some_iff.1 hstep with ⟨sampler, hsampler, -⟩
    rcases Sampler.move_cases hsampler with ⟨q, hflow, -⟩
    exact .inr ⟨t, m, q, p, hflow, hp, rfl⟩
  | _ => exact .inl rfl

theorem paired_step {s s' : PacedSampler σ} {a : PacedAct σ} {log : ℕ → PaceLog}
    (hinv : PacedInv interval s log) (h : ∀ t, Paired interval (log t))
    (hstep : (pacedLts σ cfg interval).step s a = some s') :
    ∀ t, Paired interval (observePace interval s a log t) := by
  intro u
  rcases observePace_cases log hstep with hlog | ⟨t, m, q, p, hflow, hmove, hlog⟩
  · rw [hlog]
    exact h u
  · rw [hlog]
    by_cases hu : u = t
    · subst hu
      rw [Function.update_self]
      exact paired_flow hflow (h u) (hinv.point u) hmove
    · rw [Function.update_of_ne hu]
      exact h u

/-- In every run, the samples and the passes of each thread belong together. -/
theorem paired_run {as : List (PacedAct σ)} {s : PacedSampler σ}
    (hrun : (pacedLts σ cfg interval).exec (pacedLts σ cfg interval).init as = some s) (t : ℕ) :
    let log := (pacedLts σ cfg interval).record (observePace interval)
      (pacedLts σ cfg interval).init (fun _ => {}) as t
    Skips interval log ∧ Paired interval log := by
  intro log
  have hinit : PacedInv interval (pacedLts σ cfg interval).init (fun _ => {}) :=
    ⟨fun t => skips_start interval 0, fun t => trivial⟩
  have hboth : PacedInv interval s _ ∧ ∀ t, Paired interval _ :=
    Lts.record_inv (P := fun s log => PacedInv interval s log ∧ ∀ t, Paired interval (log t))
      (fun s a s' log h hstep =>
        ⟨pacedInv_step s a s' log h.1 hstep, paired_step h.1 h.2 hstep⟩)
      ⟨hinit, fun t => paired_start interval 0⟩ hrun
  exact ⟨hboth.1.skips t, hboth.2 t⟩

end

/-! ## The whole run -/

section
variable {interval : Seconds} {log : PaceLog}

theorem missedBefore_succ {k : ℕ} {e : Scheduled} (he : log.schedules[k]? = some e) :
    missedBefore interval log (k + 1) = missedBefore interval log k + e.missed interval := by
  obtain ⟨hk, rfl⟩ := List.getElem?_eq_some_iff.1 he
  rw [missedBefore, missedBefore, List.take_succ_eq_append_getElem hk, List.map_append,
    List.sum_append]
  simp

/-- The deadline of a pass, and the one after it. -/
theorem Skips.deadlines_getElem? (h : Skips interval log) {k : ℕ} {e : Scheduled}
    (he : log.schedules[k]? = some e) :
    log.deadlines[k]? = some e.deadline ∧ log.deadlines[k + 1]? = some e.next := by
  constructor
  · have hprevious := congrArg (·[k]?) h.previous
    simp only [List.getElem?_map, he, Option.map_some] at hprevious
    have hk : k < log.deadlines.dropLast.length := (List.getElem?_eq_some_iff.1 hprevious.symm).1
    rw [List.getElem?_dropLast] at hprevious
    split_ifs at hprevious with hlt
    exact hprevious.symm
  · simp [PaceLog.deadlines, he]

/-- **Deadlines do not drift.** -/
theorem deadline_eq (h : Skips interval log) (hpaired : Paired interval log) {k : ℕ} {d : ℚ}
    (hd : log.deadlines[k]? = some d) :
    d = log.start + (k + missedBefore interval log k : ℤ) * interval.value := by
  induction k generalizing d with
  | zero =>
    obtain rfl : log.start = d := by simpa [PaceLog.deadlines] using hd
    simp [missedBefore]
  | succ k ih =>
    have hk : k < log.schedules.length := by
      have := (List.getElem?_eq_some_iff.1 hd).1
      simpa [PaceLog.deadlines] using this
    have he := List.getElem?_eq_getElem hk
    obtain ⟨hcurrent, hnext⟩ := h.deadlines_getElem? he
    obtain ⟨hle, heq⟩ := hpaired.passes _ (List.getElem_mem hk)
    obtain rfl : _ = d := Option.some.inj (hnext.symm.trans hd)
    rw [heq, nextDeadline_eq hle, missedBefore_succ he, Scheduled.missed]
    generalize ⌊(log.schedules[k].now - log.schedules[k].deadline) / interval.value⌋ = m
    rw [ih hcurrent]
    push_cast
    ring

/-- The samples of a worker, by the intervals since its start. -/
structure Schedule (interval : Seconds) (log : PaceLog) : Prop where
  missed : ∀ e ∈ log.schedules, 0 ≤ e.missed interval
  /-- the deadlines are whole intervals after the start, and no interval is skipped
      that was not missed -/
  deadline : ∀ (k : ℕ) (d : ℚ), log.deadlines[k]? = some d →
    d = log.start + (k + missedBefore interval log k : ℤ) * interval.value
  sample : ∀ (k : ℕ) (e : Sampled), log.samples[k]? = some e →
    log.deadlines[k]? = some e.deadline ∧ e.deadline ≤ e.sampledAt
  /-- a pass that misses no interval has taken its sample in the one of its deadline -/
  punctual : ∀ (k : ℕ) (e : Sampled) (f : Scheduled), log.samples[k]? = some e →
    log.schedules[k]? = some f → f.missed interval = 0 →
      e.sampledAt < e.deadline + interval.value

/-- Sample number `k` is taken for deadline number `k`, or later. -/
theorem Paired.sample (h : Paired interval log) {k : ℕ} {e : Sampled}
    (he : log.samples[k]? = some e) :
    log.deadlines[k]? = some e.deadline ∧ e.deadline ≤ e.sampledAt := by
  have hk := (List.getElem?_eq_some_iff.1 he).1
  refine ⟨?_, h.late e (List.mem_of_getElem? he)⟩
  obtain ⟨later, hlater⟩ := h.samples
  rw [← hlater, List.getElem?_append_left (by simpa using hk), List.getElem?_map, he]
  rfl

theorem schedule_of_paired (hskips : Skips interval log) (hpaired : Paired interval log) :
    Schedule interval log where
  missed e he := missed_nonneg (hpaired.passes e he).1
  deadline k d hd := deadline_eq hskips hpaired hd
  sample k e he := hpaired.sample he
  punctual := by
    intro k e f he hf hmissed
    have hdeadline : e.deadline = f.deadline :=
      Option.some.inj ((hpaired.sample he).1.symm.trans (hskips.deadlines_getElem? hf).1)
    have hnow : f.now < f.deadline + interval.value := by
      have hlt := Int.lt_floor_add_one ((f.now - f.deadline) / interval.value)
      rw [Scheduled.missed] at hmissed
      rw [hmissed, div_lt_iff₀ interval.pos] at hlt
      push_cast at hlt
      linarith
    rw [hdeadline]
    exact (hpaired.sampledBefore k e f he hf).trans_lt hnow

/-- The samples of a period. -/
def PaceLog.during (log : PaceLog) (a b : ℚ) : List Sampled :=
  log.samples.filter fun e => a ≤ e.sampledAt ∧ e.sampledAt ≤ b

theorem length_during_lt (h : Skips interval log) {a b : ℚ} (hab : a ≤ b) :
    ((log.during a b).length : ℚ) * interval.value < b - a + 2 * interval.value := by
  have hmem : ∀ e ∈ log.during a b, a ≤ e.sampledAt ∧ e.sampledAt ≤ b := by
    intro e he
    exact of_decide_eq_true (List.mem_filter.1 he).2
  have hcells : (((log.during a b).map Sampled.sampledAt).map
      fun x => ⌊(x - log.start) / interval.value⌋).Pairwise (· < ·) := by
    rw [List.map_map]
    exact h.sampled.sublist (List.filter_sublist.map _)
  have hlt := Grid.length_mul_lt interval.pos hcells hab
    (List.forall_mem_map.2 fun e he => (hmem e he).1)
    (List.forall_mem_map.2 fun e he => (hmem e he).2)
  rwa [List.length_map] at hlt

end

section
variable {σ : Type} {cfg : SamplerConfig} {interval : Seconds}

/-- **Sampling keeps to its schedule.**  In every run in which the clocks read by a thread
    do not go back and every wait lasts until the clock shows the deadline, sample number
    `k` is taken at or after the point `k + m` intervals from the start of the worker, where
    `m` intervals have been missed before; and in that very interval, if none is missed in
    its own pass. -/
theorem sampling_schedule {as : List (PacedAct σ)} {s : PacedSampler σ}
    (hrun : (pacedLts σ cfg interval).exec (pacedLts σ cfg interval).init as = some s) (t : ℕ) :
    Schedule interval ((pacedLts σ cfg interval).record (observePace interval)
      (pacedLts σ cfg interval).init (fun _ => {}) as t) :=
  schedule_of_paired (paired_run hrun t).1 (paired_run hrun t).2

/-- **The sampler never exceeds its rate.**  In the same runs, a worker takes fewer samples
    in a period of any length than the intervals the period lasts, and two more. -/
theorem sampling_rate {as : List (PacedAct σ)} {s : PacedSampler σ}
    (hrun : (pacedLts σ cfg interval).exec (pacedLts σ cfg interval).init as = some s) (t : ℕ)
    {a b : ℚ} (hab : a ≤ b) :
    ((((pacedLts σ cfg interval).record (observePace interval)
      (pacedLts σ cfg interval).init (fun _ => {}) as t).during a b).length : ℚ) * interval.value <
      b - a + 2 * interval.value :=
  length_during_lt (paired_run hrun t).1 hab

/-- The late worker misses three intervals in its first pass and none in its second, and
    takes its two samples at 130 and 147. -/
theorem sampling_schedule_late :
    Schedule tenSeconds ((pacedLts Unit newestOnly tenSeconds).record (observePace tenSeconds)
      (pacedLts Unit newestOnly tenSeconds).init (fun _ => {}) lateWorker 0) ∧
    missedBefore tenSeconds ((pacedLts Unit newestOnly tenSeconds).record (observePace tenSeconds)
      (pacedLts Unit newestOnly tenSeconds).init (fun _ => {}) lateWorker 0) 2 = 3 := by
  have hrun : ((pacedLts Unit newestOnly tenSeconds).exec
      (pacedLts Unit newestOnly tenSeconds).init lateWorker).isSome = true := by
    decide +kernel
  rcases Option.isSome_iff_exists.1 hrun with ⟨s, hrun⟩
  exact ⟨sampling_schedule hrun 0, by decide +kernel⟩

/-- The first of them, and no other, is taken in the ten seconds from 130 on. -/
theorem sampling_rate_late :
    (((pacedLts Unit newestOnly tenSeconds).record (observePace tenSeconds)
      (pacedLts Unit newestOnly tenSeconds).init (fun _ => {}) lateWorker 0).during 130 140).length =
        1 ∧
    ((((pacedLts Unit newestOnly tenSeconds).record (observePace tenSeconds)
      (pacedLts Unit newestOnly tenSeconds).init (fun _ => {}) lateWorker 0).during
        130 140).length : ℚ) * 10 < 140 - 130 + 2 * 10 := by
  have hrun : ((pacedLts Unit newestOnly tenSeconds).exec
      (pacedLts Unit newestOnly tenSeconds).init lateWorker).isSome = true := by
    decide +kernel
  rcases Option.isSome_iff_exists.1 hrun with ⟨s, hrun⟩
  exact ⟨by decide +kernel, sampling_rate hrun 0 (by norm_num)⟩

end

end SweatMeter
