/-
  How a sampler comes to an end.

  `start` does nothing while the current worker is alive, so a stop request that
  finds a live worker stays in force until that worker is dead, whatever calls of
  `start` and `stop` follow.  In a state with such a request the control flow of
  `_run` has no cycle: `stepsLeft` counts the steps that are left of it, and
  `stop_irrevocable` bounds what the worker still does.
-/
import SweatMeter.Restart
import SweatMeter.Quiescence

namespace SweatMeter

/-- The label is a step of thread `t`. -/
def Act.isStepOf {σ : Type} (t : ℕ) : Act σ → Bool
  | .worker u _ => u = t
  | _ => false

/-- The label is the locked part of `_publish`, run by thread `t`. -/
def Act.isPublishOf {σ : Type} (t : ℕ) : Act σ → Bool
  | .worker u .publish => u = t
  | _ => false

/-- The label is thread `t` coming to the call of `on_sample`. -/
def Act.isCallOf {σ : Type} (t : ℕ) : Act σ → Bool
  | .worker u .call => u = t
  | _ => false

/-- The steps of `_run` left to a worker that was told to stop, at most. -/
def Worker.stepsLeft {σ : Type} : Worker σ → ℕ
  | .collect => 8
  | .publish _ _ => 7
  | .published _ => 6
  | .callback => 5
  | .boot | .pause => 4
  | .loop => 3
  | .leaving => 2
  | .exiting => 1
  | .unstarted | .dead => 0

/-- The snapshots that are left to publish. -/
def Worker.publishesLeft {σ : Type} : Worker σ → ℕ
  | .collect | .publish _ _ => 1
  | _ => 0

/-- The callbacks that are left to call. -/
def Worker.callsLeft {σ : Type} : Worker σ → ℕ
  | .collect | .publish _ _ | .published _ => 1
  | _ => 0

namespace Sampler

variable {σ : Type} {cfg : SamplerConfig} {s s' : Sampler σ} {t : ℕ}

/-! ## Told to stop -/

/-- No worker is inside a `join`: a callback that stops its own sampler joins nobody. -/
def Unjoined (s : Sampler σ) : Prop := ∀ t u d, s.call (.worker t) ≠ .joining u d

/-- Thread `t` was told to stop, and is dead or has the request in force. -/
structure Doomed (t : ℕ) (s : Sampler σ) : Prop where
  sole : s.Sole
  unjoined : s.Unjoined
  fate : s.worker t = .dead ∨ (s.worker t).isAlive = true ∧ s.stopEvent = true

theorem unjoined_initial : (initial : Sampler σ).Unjoined := by
  intro t u d h
  cases h

theorem Unjoined.step (h : s.Unjoined) (hsole : s.Sole) {a : Act σ} (hs : Stepped cfg s a s') :
    s'.Unjoined := by
  intro t u d hjoin
  cases ha : a.isStopBy (.worker t) with
  | true =>
    cases hs with
    | @stop c e hcall =>
      obtain rfl : c = .worker t := by simpa [Act.isStopBy] using ha
      have halive : (s.worker t).isAlive = true := by
        cases hw : s.worker t <;> simp_all [canCall, Worker.isAlive]
      have hthread := hsole.current t halive
      simp [Sampler.stop, hthread, setCall_self] at hjoin
    | @reject c o e _ _ =>
      obtain rfl : c = .worker t := by simpa [Act.isStopBy] using ha
      rw [setCall_self] at hjoin
      cases hjoin
    | _ => cases ha
  | false =>
    rcases call_step ha hs with hk | ⟨v, e, hv, -⟩
    · exact h t u d (hk.symm.trans hjoin)
    · exact h t v e hv

/-- A dead thread stays dead. -/
theorem dead_step (hsole : s.Sole) (hdead : s.worker t = .dead) {a : Act σ}
    (hs : Stepped cfg s a s') : s'.worker t = .dead := by
  by_cases ha : ∃ u m, a = .worker u m
  · obtain ⟨u, m, rfl⟩ := ha
    cases hs with
    | worker hf =>
      have hne : t ≠ u := by
        rintro rfl
        have := hf.isAlive
        rw [hdead] at this
        cases this
      rw [setWorker_worker, effect_worker, Function.update_of_ne hne, hdead]
  · have hne : ∀ u m, a ≠ .worker u m := fun u m heq => ha ⟨u, m, heq⟩
    rcases worker_frame hsole hne hs t with hw | ⟨hw, -⟩
    · rw [hw, hdead]
    · rw [hdead] at hw
      cases hw

/-- Other parties neither move a live worker nor take its stop request back. -/
theorem doomed_frame (hsole : s.Sole) (halive : (s.worker t).isAlive = true)
    (hstop : s.stopEvent = true) {a : Act σ} (ha : a.isStepOf t = false)
    (hs : Stepped cfg s a s') :
    s'.worker t = s.worker t ∧ s'.stopEvent = true ∧ s'.sequence = s.sequence := by
  have hcurrent : s.isAlive = true := by
    rw [Sampler.isAlive, hsole.current t halive]
    exact halive
  cases hs with
  | @start c ok _ => rw [start_of_alive s hcurrent]; exact ⟨rfl, hstop, rfl⟩
  | @stop c d _ =>
    refine ⟨congrFun (stop_frame s c d).2.1 t, ?_, ?_⟩
    all_goals
      unfold Sampler.stop
      split
      · rfl
      · split <;> rfl
  | @worker u m q hf =>
    have hu : u ≠ t := by simpa [Act.isStepOf] using ha
    exact absurd (hsole.unique hf.isAlive halive) hu
  | @check i n _ =>
    unfold check
    split_ifs <;> exact ⟨rfl, hstop, rfl⟩
  | _ => exact ⟨rfl, hstop, rfl⟩

/-- A step of a worker that was told to stop brings it nearer to its end. -/
theorem Flow.stepsLeft {p q : Worker σ} {m : Move σ} (h : Flow cfg s t p m q)
    (hstop : s.stopEvent = true) :
    q.stepsLeft < p.stepsLeft ∧ q.publishesLeft + (if (Act.worker t m).isPublishOf t then 1 else 0) ≤
      p.publishesLeft ∧
    q.callsLeft + (if (Act.worker t m).isCallOf t then 1 else 0) ≤ p.callsLeft := by
  cases h with
  | run hrun => rw [hstop] at hrun; cases hrun
  | _ => simp [Worker.stepsLeft, Worker.publishesLeft, Worker.callsLeft, Act.isPublishOf,
      Act.isCallOf]

/-- A step leaves a thread alive, or dead. -/
theorem Flow.fate {p q : Worker σ} {m : Move σ} (h : Flow cfg s t p m q) :
    q = .dead ∨ q.isAlive = true := by
  cases h with
  | die => exact .inl rfl
  | _ => exact .inr rfl

/-- What a step of any party leaves of the steps, publications and calls of thread `t`. -/
structure Spends (t : ℕ) (s s' : Sampler σ) (a : Act σ) : Prop where
  steps : (s'.worker t).stepsLeft + (if a.isStepOf t then 1 else 0) ≤ (s.worker t).stepsLeft
  publishes : (s'.worker t).publishesLeft + (if a.isPublishOf t then 1 else 0) ≤
    (s.worker t).publishesLeft
  calls : (s'.worker t).callsLeft + (if a.isCallOf t then 1 else 0) ≤ (s.worker t).callsLeft

theorem spends_of_other {a : Act σ} (ha : a.isStepOf t = false) (hw : s'.worker t = s.worker t) :
    Spends t s s' a := by
  have hpublish : a.isPublishOf t = false := by
    cases a with
    | worker u m => cases m <;> first | rfl | exact ha
    | _ => rfl
  have hcall : a.isCallOf t = false := by
    cases a with
    | worker u m => cases m <;> first | rfl | exact ha
    | _ => rfl
  constructor <;> simp [hw, ha, hpublish, hcall]

/-- **A stop request for a live worker stays in force until it is dead.** -/
theorem Doomed.step (h : Doomed t s) {a : Act σ} (hs : Stepped cfg s a s') :
    Doomed t s' ∧ Spends t s s' a := by
  have hsole := h.sole.step hs
  have hunjoined := h.unjoined.step h.sole hs
  cases ha : a.isStepOf t with
  | false =>
    rcases h.fate with hdead | ⟨halive, hstop⟩
    · have hdead' := dead_step h.sole hdead hs
      exact ⟨⟨hsole, hunjoined, .inl hdead'⟩, spends_of_other ha (hdead'.trans hdead.symm)⟩
    · obtain ⟨hw, hstop', -⟩ := doomed_frame h.sole halive hstop ha hs
      exact ⟨⟨hsole, hunjoined, .inr ⟨hw ▸ halive, hstop'⟩⟩, spends_of_other ha hw⟩
  | true =>
    cases hs with
    | @worker u m q hf =>
      obtain rfl : u = t := by simpa [Act.isStepOf] using ha
      have hstop : s.stopEvent = true := by
        rcases h.fate with hdead | ⟨-, hstop⟩
        · have := hf.isAlive
          rw [hdead] at this
          cases this
        · exact hstop
      obtain ⟨hsteps, hpublishes, hcalls⟩ := hf.stepsLeft hstop
      refine ⟨⟨hsole, hunjoined, ?_⟩, ?_, ?_, ?_⟩
      · rcases hf.fate with hq | hq
        · exact .inl (by rw [setWorker_worker, Function.update_self, hq])
        · refine .inr ⟨by rw [setWorker_worker, Function.update_self, hq], ?_⟩
          exact (effect_stopEvent _ _).trans hstop
      · rw [setWorker_worker, Function.update_self, ha, if_pos rfl]
        exact hsteps
      · rw [setWorker_worker, Function.update_self]
        exact hpublishes
      · rw [setWorker_worker, Function.update_self]
        exact hcalls
    | _ => cases ha

/-- What a worker that was told to stop publishes, it has left to publish. -/
theorem Flow.sequence_le {p q : Worker σ} {m : Move σ} (h : Flow cfg s t p m q)
    (hstop : s.stopEvent = true) :
    ((s.effect cfg p m).setWorker t q).sequence + q.publishesLeft ≤
      s.sequence + p.publishesLeft := by
  cases h with
  | run hrun => rw [hstop] at hrun; cases hrun
  | publish => exact le_rfl
  | _ => exact Nat.add_le_add_left (by simp [Worker.publishesLeft]) s.sequence

/-- Until the thread is dead, nothing but its own last snapshot is published. -/
theorem Doomed.sequence_le (h : Doomed t s) {a : Act σ} (hs : Stepped cfg s a s')
    (halive' : (s'.worker t).isAlive = true) :
    (s.worker t).isAlive = true ∧ s'.sequence + (s'.worker t).publishesLeft ≤
      s.sequence + (s.worker t).publishesLeft := by
  obtain ⟨halive, hstop⟩ : (s.worker t).isAlive = true ∧ s.stopEvent = true := by
    rcases h.fate with hdead | hfate
    · rw [dead_step h.sole hdead hs] at halive'
      cases halive'
    · exact hfate
  refine ⟨halive, ?_⟩
  cases ha : a.isStepOf t with
  | false =>
    obtain ⟨hw, -, hseq⟩ := doomed_frame h.sole halive hstop ha hs
    rw [hw, hseq]
  | true =>
    cases hs with
    | @worker u m q hf =>
      obtain rfl : u = t := by simpa [Act.isStepOf] using ha
      have hw : ((s.effect cfg (s.worker u) m).setWorker u q).worker u = q :=
        Function.update_self _ _ _
      rw [hw]
      exact hf.sequence_le hstop
    | _ => cases ha

/-! ## The end of a worker -/

/-- A worker that was told to stop can go on, until it is dead. -/
theorem Doomed.exists_step (h : Doomed t s) (cfg : SamplerConfig) (x : σ)
    (hleft : (s.worker t).stepsLeft ≠ 0) :
    ∃ m, (s.step cfg (.worker t m)).isSome := by
  have hstop : s.stopEvent = true := by
    rcases h.fate with hdead | ⟨-, hstop⟩
    · rw [hdead] at hleft
      exact absurd rfl hleft
    · exact hstop
  have hcall : s.worker t = .callback → s.canCall (.worker t) = true := by
    intro hw
    have hjoin := h.unjoined t
    cases hc : s.call (.worker t) <;> simp_all [canCall]
  cases hw : s.worker t with
  | unstarted => simp [hw, Worker.stepsLeft] at hleft
  | dead => simp [hw, Worker.stepsLeft] at hleft
  | boot => exact ⟨.boot, by simp [Sampler.step, hw, move]⟩
  | loop => exact ⟨.test, by simp [Sampler.step, hw, move]⟩
  | collect => exact ⟨.collected x 0, by simp [Sampler.step, hw, move]⟩
  | publish y a => exact ⟨.publish, by simp [Sampler.step, hw, move]⟩
  | published y => exact ⟨.call, by simp [Sampler.step, hw, move]⟩
  | callback => exact ⟨.ret, by simp [Sampler.step, hw, move, hcall hw]⟩
  | pause => exact ⟨.signalled, by simp [Sampler.step, hw, move, hstop]⟩
  | leaving => exact ⟨.notify, by simp [Sampler.step, hw, move]⟩
  | exiting => exact ⟨.die, by simp [Sampler.step, hw, move]⟩

theorem Doomed.dead_of_stepsLeft (h : Doomed t s) (hleft : (s.worker t).stepsLeft = 0) :
    s.worker t = .dead := by
  rcases h.fate with hdead | ⟨halive, -⟩
  · exact hdead
  · cases hw : s.worker t <;> simp_all [Worker.stepsLeft, Worker.isAlive]

/-- Its own steps bring a worker that was told to stop to its end. -/
theorem Doomed.exists_end (h : Doomed t s) (cfg : SamplerConfig) (x : σ) :
    ∃ rest s', (∀ a ∈ rest, a.isStepOf t = true) ∧ rest.length ≤ (s.worker t).stepsLeft ∧
      (samplerLts σ cfg).exec s rest = some s' ∧ s'.worker t = .dead := by
  obtain ⟨rest, s', hrest, hlen, hexec, hs', hzero⟩ :=
    Lts.exists_run_of_measure (L := samplerLts σ cfg) (P := Doomed t)
      (μ := fun u : Sampler σ => (u.worker t).stepsLeft) (Q := fun a => a.isStepOf t = true) (by
        intro u hu hleft
        obtain ⟨m, hm⟩ := hu.exists_step cfg x hleft
        obtain ⟨u', hstep⟩ := Option.isSome_iff_exists.1 hm
        have hown : (Act.worker t m).isStepOf t = true := by simp [Act.isStepOf]
        obtain ⟨hu', hspends⟩ := hu.step (step_cases hstep)
        have hlt := hspends.steps
        rw [hown, if_pos rfl] at hlt
        exact ⟨_, u', hown, hstep, hu', hlt⟩) h
  exact ⟨rest, s', hrest, hlen, hexec, hs'.dead_of_stepsLeft hzero⟩

theorem unjoined_run {as : List (Act σ)} (h : (samplerLts σ cfg).exec initial as = some s) :
    s.Unjoined := by
  have hboth : s.Sole ∧ s.Unjoined :=
    Lts.inv_of_step (P := fun u : Sampler σ => u.Sole ∧ u.Unjoined)
      (fun _ _ _ hu hs => ⟨hu.1.step (step_cases hs), hu.2.step hu.1 (step_cases hs)⟩)
      ⟨sole_initial, unjoined_initial⟩ h
  exact hboth.2

/-- After the locked section of a `stop`, the live worker is told to stop. -/
theorem doomed_of_stop {pre : List (Act σ)} {c : Caller} {timeout : Seconds}
    (h : (samplerLts σ cfg).exec initial (pre ++ [.stop c timeout]) = some s)
    (halive : (s.worker t).isAlive = true) : Doomed t s := by
  refine ⟨sole_run h, unjoined_run h, .inr ⟨halive, ?_⟩⟩
  obtain ⟨s₀, -, hstep⟩ := Lts.exec_snoc_eq.1 h
  cases step_cases (show s₀.step cfg (.stop c timeout) = some s from hstep)
  unfold Sampler.stop
  split
  · rfl
  · split <;> rfl

/-- **A stop request is irrevocable for the worker it finds.**  Whatever calls of
    `start` and `stop` follow it, by whichever threads, the worker takes at most eight
    more steps, publishes at most one more snapshot and comes to its callback at most
    once.  As long as it lives it is the only worker and the request is in force; and
    its own steps lead to its death, after which each `stop` that waits for it returns. -/
theorem stop_irrevocable (cfg : SamplerConfig) {pre post : List (Act σ)} {c : Caller}
    {timeout : Seconds} {s u : Sampler σ}
    (h : (samplerLts σ cfg).exec initial (pre ++ [.stop c timeout]) = some s)
    (halive : (s.worker t).isAlive = true) (hpost : (samplerLts σ cfg).exec s post = some u)
    (x : σ) :
    post.countP (Act.isStepOf t) ≤ 8 ∧ post.countP (Act.isPublishOf t) ≤ 1 ∧
    post.countP (Act.isCallOf t) ≤ 1 ∧
    ((u.worker t).isAlive = true →
      u.thread = some t ∧ u.stopEvent = true ∧ u.sequence ≤ s.sequence + 1) ∧
    ∃ rest v, (∀ a ∈ rest, a.isStepOf t = true) ∧
      post.countP (Act.isStepOf t) + rest.length ≤ 8 ∧
      (samplerLts σ cfg).exec u rest = some v ∧ v.worker t = .dead ∧
      ∀ d timeout', u.call d = .joining t timeout' →
        ∃ w, (samplerLts σ cfg).step v (.joined d) = some w ∧ w.call d = .returned := by
  have hs := doomed_of_stop h halive
  have hsteps := Lts.count_le_of_step (P := Doomed t) (c := Act.isStepOf t)
    (fun _ _ _ hu hstep => ⟨(hu.step (step_cases hstep)).1, (hu.step (step_cases hstep)).2.steps⟩)
    hs hpost
  have hpublishes := Lts.count_le_of_step (P := Doomed t) (c := Act.isPublishOf t)
    (fun _ _ _ hu hstep =>
      ⟨(hu.step (step_cases hstep)).1, (hu.step (step_cases hstep)).2.publishes⟩) hs hpost
  have hcalls := Lts.count_le_of_step (P := Doomed t) (c := Act.isCallOf t)
    (fun _ _ _ hu hstep => ⟨(hu.step (step_cases hstep)).1, (hu.step (step_cases hstep)).2.calls⟩)
    hs hpost
  have hle : (s.worker t).stepsLeft ≤ 8 ∧ (s.worker t).publishesLeft ≤ 1 ∧
      (s.worker t).callsLeft ≤ 1 := by
    cases s.worker t <;> simp [Worker.stepsLeft, Worker.publishesLeft, Worker.callsLeft]
  have hu : Doomed t u := Lts.inv_of_step (P := Doomed t)
    (fun _ _ _ hv hstep => (hv.step (step_cases hstep)).1) hs hpost
  refine ⟨by omega, by omega, by omega, ?_, ?_⟩
  · intro hu'
    have hseq : Doomed t u ∧ ((u.worker t).isAlive = true →
        u.sequence + (u.worker t).publishesLeft ≤ s.sequence + (s.worker t).publishesLeft) :=
      Lts.inv_of_step (P := fun v : Sampler σ => Doomed t v ∧ ((v.worker t).isAlive = true →
          v.sequence + (v.worker t).publishesLeft ≤ s.sequence + (s.worker t).publishesLeft))
        (by
          rintro v a v' ⟨hv, hle⟩ hstep
          refine ⟨(hv.step (step_cases hstep)).1, ?_⟩
          intro hv'
          obtain ⟨hvalive, hvle⟩ := hv.sequence_le (step_cases hstep) hv'
          exact hvle.trans (hle hvalive)) ⟨hs, fun _ => le_rfl⟩ hpost
    have hstop : u.stopEvent = true := by
      rcases hu.fate with hdead | ⟨-, hstop⟩
      · rw [hdead] at hu'
        cases hu'
      · exact hstop
    have := hseq.2 hu'
    exact ⟨hu.sole.current t hu', hstop, by omega⟩
  · obtain ⟨rest, v, hrest, hlen, hexec, hdead⟩ := hu.exists_end cfg x
    refine ⟨rest, v, hrest, by omega, hexec, hdead, ?_⟩
    intro d timeout' hd
    have hv : v.call d = u.call d := by
      refine Lts.const_of_step (f := fun w : Sampler σ => w.call d)
        (Q := fun a => a.isStepOf t = true) ?_ hrest hexec
      intro w a w' ha hstep
      cases step_cases hstep with
      | worker _ => exact congrFun (effect_call _ _) d
      | _ => cases ha
    refine ⟨v.setCall d .returned, ?_, setCall_self _ _ _⟩
    show v.step cfg (.joined d) = _
    simp [Sampler.step, hv, hd, hdead]

/-- Two `start`s while the worker, told to stop in the collector, is publishing: they
    neither keep it alive nor let it take another sample. -/
theorem stop_irrevocable_restarting :
    ∃ s u, (samplerLts Unit ⟨1, true, by decide, 9223372036⟩).exec initial
        ([.start (.outside 0) true, .worker 0 .boot, .worker 0 .test] ++
          [.stop (.outside 1) defaultTimeout]) = some s ∧
      (samplerLts Unit ⟨1, true, by decide, 9223372036⟩).exec s [.start (.outside 0) true,
        .worker 0 (.collected () 0), .worker 0 .publish, .worker 0 .call,
        .start (.worker 0) true, .worker 0 .ret, .worker 0 .timeout] = some u ∧
      u.stopEvent = true := by
  obtain ⟨s, u, hs, hu, halive, halive'⟩ : ∃ s u,
      (samplerLts Unit ⟨1, true, by simp, 9223372036⟩).exec initial
        ([.start (.outside 0) true, .worker 0 .boot, .worker 0 .test] ++
          [.stop (.outside 1) defaultTimeout]) = some s ∧
      (samplerLts Unit ⟨1, true, by simp, 9223372036⟩).exec s [.start (.outside 0) true,
        .worker 0 (.collected () 0), .worker 0 .publish, .worker 0 .call,
        .start (.worker 0) true, .worker 0 .ret, .worker 0 .timeout] = some u ∧
      (s.worker 0).isAlive = true ∧ (u.worker 0).isAlive = true :=
    ⟨_, _, rfl, rfl, rfl, rfl⟩
  obtain ⟨-, -, -, hlive, -⟩ := stop_irrevocable _ hs halive hu ()
  exact ⟨s, u, hs, hu, (hlive halive').2.1⟩

end Sampler

end SweatMeter
