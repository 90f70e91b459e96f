/-
  The age of the newest sample (`TelemetrySampler.latest_age_seconds`).

  A sample is stamped with one read of the sampler's clocks, and every query reads
  them again.  Each read shows the injected clock or, where that one fails, the
  standard clock, whose origin is another: a query that falls back and one that
  does not are not comparable.  The age of a sample does not decrease exactly if
  no change of the clock takes the time back behind an age already reported
  (`sample_never_younger_iff`).
-/
import Mathlib.Data.List.Chain
import Mathlib.Tactic.Linarith
import SweatMeter.Clock
import SweatMeter.Sampler

namespace SweatMeter

open Py

variable {σ : Type}

/-- `latest_age_seconds`, with what the clocks show. -/
def Sampler.latestAgeSeconds (s : Sampler σ) (r : ClockRead) : Except Exn (Option ℚ) :=
  match s.history.getLast? with
  | none => .ok none
  | some e => do return some (max 0 ((← r.monotonicNow) - e.sampledAt))

/-! ## The sampler and its clocks -/

structure AgedSampler (σ : Type) where
  sampler : Sampler σ
  clocks : ClockState

inductive AgedAct (σ : Type) where
  /-- a step of a thread, with the clock read in it, if there is one -/
  | step (a : Act σ) (read : Option ClockRead)
  /-- a call of `latest_age_seconds` -/
  | age (read : ClockRead)

/-- A snapshot is stamped with what `_monotonic_now` returns. -/
def stampedBy (read : Option ClockRead) : Act σ → Bool
  | .worker _ (.collected _ sampledAt) => match read.map ClockRead.monotonicNow with
    | some (.ok now) => now = sampledAt
    | _ => false
  | _ => true

/-- The clocks after a step. -/
def ClockState.readIfAny (k : ClockState) : Option ClockRead → Option ClockState
  | none => some k
  | some r => k.read r

namespace AgedSampler

variable (s : AgedSampler σ)

def step (cfg : SamplerConfig) : AgedAct σ → Option (AgedSampler σ)
  | .step a read =>
    if stampedBy read a then
      (s.clocks.readIfAny read).bind fun clocks =>
        (s.sampler.step cfg a).map fun sampler => ⟨sampler, clocks⟩
    else none
  | .age read => match s.sampler.history.getLast? with
    | none => some s
    | some _ => (s.clocks.read read).map fun clocks => { s with clocks }

end AgedSampler

/-- The sampler with every thread that uses it, and with clocks that do not go back. -/
def agedLts (σ : Type) (cfg : SamplerConfig) : Lts (AgedSampler σ) (AgedAct σ) where
  init := ⟨.initial, {}⟩
  step s a := s.step cfg a

/-! ## What the queries return -/

/-- A query that returned a number: what it read, and the stamp of the sample. -/
structure AgeQuery where
  age : ℚ
  read : ClockRead
  sampledAt : ℚ

/-- The time of the query. -/
def AgeQuery.now (q : AgeQuery) : ℚ := q.read.element.getD q.read.standard

/-- The query has read the injected clock. -/
def AgeQuery.ofInjected (q : AgeQuery) : Bool := q.read.element.isSome

inductive AgeEvent where
  | published
  | queried (q : AgeQuery)

/-- What a run has published and answered so far. -/
def observeAges (s : AgedSampler σ) : AgedAct σ → List AgeEvent → List AgeEvent
  | .step (.worker _ .publish) _, log => log ++ [.published]
  | .step _ _, log => log
  | .age read, log => match s.sampler.history.getLast?, s.sampler.latestAgeSeconds read with
    | some e, .ok (some age) => log ++ [.queried ⟨age, read, e.sampledAt⟩]
    | _, _ => log

/-- A relation between successive queries without a publication in between. -/
def Successive (rel : AgeQuery → AgeQuery → Prop) : AgeEvent → AgeEvent → Prop
  | .queried p, .queried q => rel p q
  | _, _ => True

/-- No age is negative, and a sample never gets younger. -/
structure NeverYounger (log : List AgeEvent) : Prop where
  nonneg : ∀ q, .queried q ∈ log → 0 ≤ q.age
  monotone : log.IsChain (Successive fun p q => p.age ≤ q.age)

/-- Where the clock changes between two queries of a sample, its time does not go back,
    or had not passed the stamp of the sample yet. -/
def ClockChange (p q : AgeQuery) : Prop :=
  p.ofInjected ≠ q.ofInjected → p.now ≤ q.now ∨ p.now ≤ p.sampledAt

/-! ## The invariant -/

variable {cfg : SamplerConfig}

theorem history_of_step {s s' : Sampler σ} {a : Act σ} (h : Sampler.Stepped cfg s a s') :
    (∃ t, a = .worker t .publish) ∨ s'.history = s.history := by
  cases h with
  | start _ =>
    refine .inr ?_
    unfold Sampler.start
    split <;> rfl
  | stop _ =>
    refine .inr ?_
    unfold Sampler.stop
    split
    · rfl
    · split <;> rfl
  | @worker t m q hflow =>
    generalize s.worker t = p at hflow ⊢
    cases hflow with
    | publish => exact .inl ⟨t, rfl⟩
    | _ => exact .inr rfl
  | @check i n _ =>
    refine .inr ?_
    unfold Sampler.check
    split_ifs <;> rfl
  | _ => exact .inr rfl

/-- Successive queries are about one sample, and the clocks have not gone back. -/
structure Comparable (p q : AgeQuery) : Prop where
  sampledAt : p.sampledAt = q.sampledAt
  before : p.read.Before q.read

/-- The query was about the newest sample, and is past. -/
structure Latest (s : AgedSampler σ) (q : AgeQuery) : Prop where
  sampledAt : s.sampler.history.getLast?.map Entry.sampledAt = some q.sampledAt
  past : q.read.Past s.clocks

structure AgeInv (s : AgedSampler σ) (log : List AgeEvent) : Prop where
  age : ∀ q, .queried q ∈ log → q.age = max 0 (q.now - q.sampledAt)
  comparable : log.IsChain (Successive Comparable)
  latest : ∀ q, log.getLast? = some (.queried q) → Latest s q

theorem Latest.later {s s' : AgedSampler σ} {q : AgeQuery} (h : Latest s q)
    (hhistory : s'.sampler.history = s.sampler.history)
    (hpast : q.read.Past s.clocks → q.read.Past s'.clocks) : Latest s' q := by
  refine ⟨?_, hpast h.past⟩
  rw [hhistory]
  exact h.sampledAt

theorem past_readIfAny {k k' : ClockState} {r : ClockRead} {read : Option ClockRead}
    (h : k.readIfAny read = some k') (hr : r.Past k) : r.Past k' := by
  cases read with
  | none =>
    cases h
    exact hr
  | some r' => exact hr.later h

/-- The step of a thread: a publication is logged, and nothing else changes. -/
theorem ageInv_thread {s s' : AgedSampler σ} {a : Act σ} {read : Option ClockRead}
    {log : List AgeEvent} (h : AgeInv s log)
    (hstep : s.step cfg (.step a read) = some s') :
    AgeInv s' (observeAges s (.step a read) log) := by
  simp only [AgedSampler.step] at hstep
  split_ifs at hstep
  rcases Option.bind_eq_some_iff.1 hstep with ⟨clocks, hclocks, hstep⟩
  rcases Option.map_eq_some_iff.1 hstep with ⟨sampler, hsampler, rfl⟩
  by_cases hpublish : ∃ t, a = .worker t .publish
  · rcases hpublish with ⟨t, rfl⟩
    refine ⟨?_, ?_, ?_⟩
    · intro q hq
      refine h.age q ?_
      simpa [observeAges] using hq
    · refine h.comparable.append (List.isChain_singleton _) ?_
      rintro x - y hy
      rcases Option.mem_some_iff.1 hy with rfl
      cases x <;> trivial
    · intro q hq
      simp [observeAges] at hq
  · have hlog : observeAges s (.step a read) log = log := by
      unfold observeAges
      split
      · rename_i t _ heq
        cases heq
        exact absurd ⟨t, rfl⟩ hpublish
      · rfl
      · rename_i heq
        cases heq
    rw [hlog]
    refine ⟨h.age, h.comparable, ?_⟩
    intro q hq
    have hhistory := (history_of_step (Sampler.step_cases hsampler)).resolve_left hpublish
    exact (h.latest q hq).later hhistory (past_readIfAny hclocks)

/-- A query is comparable with the one before it. -/
theorem ageInv_age {s s' : AgedSampler σ} {read : ClockRead} {log : List AgeEvent}
    (h : AgeInv s log) (hstep : s.step cfg (.age read) = some s') :
    AgeInv s' (observeAges s (.age read) log) := by
  cases hlast : s.sampler.history.getLast? with
  | none =>
    simp only [AgedSampler.step, hlast] at hstep
    cases hstep
    simp only [observeAges, hlast]
    exact h
  | some e =>
    simp only [AgedSampler.step, hlast] at hstep
    rcases Option.map_eq_some_iff.1 hstep with ⟨clocks, hclocks, rfl⟩
    cases hnow : read.monotonicNow with
    | error err =>
      have hlog : observeAges s (.age read) log = log := by
        simp only [observeAges, Sampler.latestAgeSeconds, hlast, hnow]
        rfl
      rw [hlog]
      refine ⟨h.age, h.comparable, ?_⟩
      intro q hq
      exact (h.latest q hq).later rfl fun hpast => hpast.later hclocks
    | ok now =>
      have hlog : observeAges s (.age read) log =
          log ++ [.queried ⟨max 0 (now - e.sampledAt), read, e.sampledAt⟩] := by
        simp only [observeAges, Sampler.latestAgeSeconds, hlast, hnow]
        rfl
      rw [hlog]
      refine ⟨?_, ?_, ?_⟩
      · intro q hq
        rcases List.mem_append.1 hq with hq | hq
        · exact h.age q hq
        · cases List.mem_singleton.1 hq
          rw [ClockRead.monotonicNow_eq hnow]
          rfl
      · refine h.comparable.append (List.isChain_singleton _) ?_
        intro x hx y hy
        rcases Option.mem_some_iff.1 hy with rfl
        cases x with
        | published => trivial
        | queried p =>
          have hp := h.latest p hx
          have hsample := hp.sampledAt
          rw [hlast] at hsample
          exact ⟨(Option.some.inj hsample).symm, ClockState.read_before hclocks hp.past⟩
      · intro q hq
        rw [List.getLast?_concat, Option.some.injEq] at hq
        cases hq
        refine ⟨?_, ClockState.read_past hclocks⟩
        rw [hlast]
        rfl

theorem ageInv_step (s : AgedSampler σ) (a : AgedAct σ) (s' : AgedSampler σ) (log : List AgeEvent)
    (h : AgeInv s log) (hstep : (agedLts σ cfg).step s a = some s') :
    AgeInv s' (observeAges s a log) := by
  cases a with
  | step a read => exact ageInv_thread h hstep
  | age read => exact @ageInv_age σ cfg s s' read log h hstep

/-! ## The age along a run -/

/-- Two successive queries of a sample, each clock going forward. -/
theorem age_le_iff {p q : AgeQuery} (h : Comparable p q)
    (hp : p.age = max 0 (p.now - p.sampledAt)) (hq : q.age = max 0 (q.now - q.sampledAt)) :
    p.age ≤ q.age ↔ ClockChange p q := by
  rw [hp, hq, ← h.sampledAt]
  constructor
  · intro hle hchange
    by_cases hnow : p.now ≤ q.now
    · exact .inl hnow
    · refine .inr ?_
      by_contra hlate
      have hpos : 0 < p.now - p.sampledAt := by linarith
      rw [max_eq_right hpos.le] at hle
      rcases le_max_iff.1 hle with hle | hle <;> linarith
  · intro hchange
    have hcases : p.now ≤ q.now ∨ p.now ≤ p.sampledAt := by
      by_cases hsame : p.ofInjected = q.ofInjected
      · exact .inl (h.before.le hsame)
      · exact hchange hsame
    rcases hcases with hle | hle
    · exact max_le_max le_rfl (by linarith)
    · rw [max_eq_left (by linarith)]
      exact le_max_left _ _

theorem neverYounger_of_inv {s : AgedSampler σ} {log : List AgeEvent} (h : AgeInv s log) :
    NeverYounger log ↔ log.IsChain (Successive ClockChange) := by
  have hiff : log.IsChain (Successive fun p q => p.age ≤ q.age) ↔
      log.IsChain (Successive ClockChange) := by
    have hcomparable := List.isChain_iff_forall_rel_of_append_cons_cons.1 h.comparable
    simp only [List.isChain_iff_forall_rel_of_append_cons_cons]
    refine forall₄_congr fun a b pre post => forall_congr' fun hlog => ?_
    have hrel := hcomparable hlog
    cases a with
    | published => exact Iff.rfl
    | queried p =>
      cases b with
      | published => exact Iff.rfl
      | queried q =>
        have hp : .queried p ∈ log := by simp [hlog]
        have hq : .queried q ∈ log := by simp [hlog]
        exact age_le_iff hrel (h.age p hp) (h.age q hq)
  rw [← hiff]
  constructor
  · exact NeverYounger.monotone
  · intro hmonotone
    refine ⟨?_, hmonotone⟩
    intro q hq
    rw [h.age q hq]
    exact le_max_left _ _

/-- **Stale samples and changes of the clock.**  In every run of the sampler and its
    clocks, ages are not negative and a sample never gets younger exactly if, where
    two successive queries of it read different clocks, the second one's time is
    not behind the first one's, or the first one's not past the stamp. -/
theorem sample_never_younger_iff {as : List (AgedAct σ)} {s : AgedSampler σ}
    (hrun : (agedLts σ cfg).exec (agedLts σ cfg).init as = some s) :
    NeverYounger ((agedLts σ cfg).record observeAges (agedLts σ cfg).init [] as) ↔
      ((agedLts σ cfg).record observeAges (agedLts σ cfg).init [] as).IsChain
        (Successive ClockChange) := by
  refine neverYounger_of_inv (Lts.record_inv ageInv_step ?_ hrun)
  refine ⟨by rintro q ⟨⟩, List.isChain_nil, by rintro q ⟨⟩⟩

/-! ## One failed call of the clock -/

def singleBuffer : SamplerConfig := ⟨1, false, Nat.one_pos, 9223372036⟩

/-- The injected clock shows a number. -/
def shows (injected standard : ℚ) : ClockRead := ⟨.ok (.num (.float (.finite injected))), standard⟩

/-- The injected clock raises. -/
def fails (standard : ℚ) : ClockRead := ⟨.error ⟨"OSError"⟩, standard⟩

/-- A sample is published at 100 of the injected clock; then its age is queried twice. -/
def twoQueries (first second : ClockRead) : List (AgedAct Unit) := [
  .step (.start (.outside 0) true) none,
  .step (.worker 0 .boot) (some (shows 99 8899)),
  .step (.worker 0 .test) none,
  .step (.worker 0 (.collected () 100)) (some (shows 100 8900)),
  .step (.worker 0 .publish) none,
  .age first,
  .age second]

/-- The clock of the queries fails and stays so: the age of the sample increases. -/
theorem sample_never_younger_failed :
    NeverYounger ((agedLts Unit singleBuffer).record observeAges (agedLts Unit singleBuffer).init []
      (twoQueries (fails 9000) (fails 9001))) := by
  have hrun : (agedLts Unit singleBuffer).exec (agedLts Unit singleBuffer).init
    (twoQueries (fails 9000) (fails 9001)) = some _ := rfl
  have hlog : (agedLts Unit singleBuffer).record observeAges (agedLts Unit singleBuffer).init []
      (twoQueries (fails 9000) (fails 9001)) =
    [.published, .queried ⟨max 0 (9000 - 100), fails 9000, 100⟩,
      .queried ⟨max 0 (9001 - 100), fails 9001, 100⟩] := rfl
  refine (sample_never_younger_iff hrun).2 ?_
  rw [hlog]
  refine .cons_cons trivial (.cons_cons ?_ (.singleton _))
  intro hchange
  exact absurd rfl hchange

/-- The clock fails once: the sample is 8900 seconds old, and then 1 second. -/
theorem sample_gets_younger :
    ((agedLts Unit singleBuffer).exec (agedLts Unit singleBuffer).init
      (twoQueries (fails 9000) (shows 101 9001))).isSome = true ∧
    ¬ NeverYounger ((agedLts Unit singleBuffer).record observeAges (agedLts Unit singleBuffer).init
      [] (twoQueries (fails 9000) (shows 101 9001))) := by
  refine ⟨rfl, ?_⟩
  intro h
  have hlog : (agedLts Unit singleBuffer).record observeAges (agedLts Unit singleBuffer).init []
      (twoQueries (fails 9000) (shows 101 9001)) =
    [.published, .queried ⟨max 0 (9000 - 100), fails 9000, 100⟩,
      .queried ⟨max 0 (101 - 100), shows 101 9001, 100⟩] := rfl
  rw [hlog] at h
  have hle : max 0 (9000 - 100) ≤ max 0 (101 - 100 : ℚ) :=
    (List.isChain_cons_cons.1 (List.isChain_cons_cons.1 h.monotone).2).1
  norm_num at hle

end SweatMeter
