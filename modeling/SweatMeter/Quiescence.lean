/-
  One worker at a time, and silence after `stop`.

  `start` replaces the thread field only when the thread in it is not alive, so
  a live worker is always the thread in the field (`Sole`).  `stop` joins the
  thread it captured under the lock; when the join comes back the captured
  thread is dead, and as long as no `start` runs its locked section the field
  still holds it: no worker is left that could publish (`stop_quiesces`).
-/
import SweatMeter.Sampler

namespace SweatMeter

/-- The label is the locked section of a `start`. -/
def Act.isStart {σ : Type} : Act σ → Bool
  | .start _ _ => true
  | _ => false

/-- The label is a call of `stop` by this caller. -/
def Act.isStopBy {σ : Type} (c : Caller) : Act σ → Bool
  | .stop d _ | .reject d _ => d = c
  | _ => false

namespace Sampler

variable {σ : Type} {cfg : SamplerConfig} {s s' : Sampler σ}

/-! ## Where a step leaves the threads -/

/-- No worker is alive. -/
def Silent (s : Sampler σ) : Prop := ∀ t, (s.worker t).isAlive = false

/-- A live worker is the current thread, and thread objects not created yet are unstarted. -/
structure Sole (s : Sampler σ) : Prop where
  current : ∀ t, (s.worker t).isAlive = true → s.thread = some t
  fresh : ∀ t, s.spawned ≤ t → s.worker t = .unstarted
  spawned : ∀ t, s.thread = some t → t < s.spawned

/-- Only a live worker takes steps. -/
theorem Flow.isAlive {t : ℕ} {p q : Worker σ} {m : Move σ} (h : Flow cfg s t p m q) :
    p.isAlive = true := by
  cases h <;> rfl

@[simp] theorem effect_thread (p : Worker σ) (m : Move σ) :
    (s.effect cfg p m).thread = s.thread := by
  unfold effect; split <;> rfl

@[simp] theorem effect_worker (p : Worker σ) (m : Move σ) :
    (s.effect cfg p m).worker = s.worker := by
  unfold effect; split <;> rfl

@[simp] theorem effect_spawned (p : Worker σ) (m : Move σ) :
    (s.effect cfg p m).spawned = s.spawned := by
  unfold effect; split <;> rfl

@[simp] theorem effect_call (p : Worker σ) (m : Move σ) :
    (s.effect cfg p m).call = s.call := by
  unfold effect; split <;> rfl

theorem stop_frame (s : Sampler σ) (c : Caller) (d : Seconds) :
    (s.stop c d).thread = s.thread ∧ (s.stop c d).worker = s.worker ∧
      (s.stop c d).spawned = s.spawned := by
  unfold stop; split
  · exact ⟨rfl, rfl, rfl⟩
  · split <;> exact ⟨rfl, rfl, rfl⟩

theorem check_frame (s : Sampler σ) (i n : ℕ) :
    (s.check i n).thread = s.thread ∧ (s.check i n).worker = s.worker ∧
      (s.check i n).spawned = s.spawned ∧ (s.check i n).call = s.call := by
  unfold check; split_ifs <;> exact ⟨rfl, rfl, rfl, rfl⟩

/-- A label other than `start` leaves the thread field as it is; the workers are
    as they were, but for the one that takes the step. -/
theorem threads_step {a : Act σ} (ha : a.isStart = false) (h : Stepped cfg s a s') :
    s'.thread = s.thread ∧ s'.spawned = s.spawned ∧
      (s'.worker = s.worker ∨
        ∃ t q, (s.worker t).isAlive = true ∧ s'.worker = Function.update s.worker t q) := by
  cases h with
  | start _ => cases ha
  | @stop c d _ =>
    obtain ⟨h1, h2, h3⟩ := stop_frame s c d
    exact ⟨h1, h3, Or.inl h2⟩
  | @worker t m q hf =>
    refine ⟨by simp, ?_, Or.inr ⟨t, q, hf.isAlive, by simp⟩⟩
    exact effect_spawned (s.worker t) m
  | @check i n _ =>
    obtain ⟨h1, h2, h3, -⟩ := check_frame s i n
    exact ⟨h1, h3, Or.inl h2⟩
  | _ => exact ⟨rfl, rfl, Or.inl rfl⟩

/-- A label of no worker leaves every thread where it is, but for one it starts. -/
theorem worker_frame (hsole : s.Sole) {a : Act σ} (ha : ∀ t m, a ≠ .worker t m)
    (hs : Stepped cfg s a s') (t : ℕ) :
    s'.worker t = s.worker t ∨ s.worker t = .unstarted ∧ s'.worker t = .boot := by
  cases hs with
  | @start c ok _ =>
    unfold Sampler.start
    split_ifs
    · exact .inl rfl
    · by_cases ht : t = s.spawned
      · rw [ht]
        exact .inr ⟨hsole.fresh _ le_rfl, Function.update_self _ _ _⟩
      · exact .inl (Function.update_of_ne ht _ _)
    · exact .inl rfl
  | @stop c d _ => exact .inl (congrFun (stop_frame s c d).2.1 t)
  | @worker t m q _ => exact absurd rfl (ha t m)
  | @check i n _ => exact .inl (congrFun (check_frame s i n).2.1 t)
  | _ => exact .inl rfl

theorem silent_of_not_isAlive (h : s.Sole) (ha : s.isAlive = false) : s.Silent := by
  intro t
  by_contra hw
  rw [Bool.not_eq_false] at hw
  rw [isAlive, h.current t hw, Option.any_some, hw] at ha
  cases ha

/-! ## One worker -/

theorem sole_initial : (initial : Sampler σ).Sole where
  current t ht := by cases ht
  fresh t _ := rfl
  spawned t ht := by cases ht

theorem Sole.start (h : s.Sole) (ok : Bool) : (s.start ok).Sole := by
  cases ha : s.isAlive with
  | true => rw [start_of_alive s ha]; exact h
  | false =>
    have hsilent := silent_of_not_isAlive h ha
    have hdef : s.start ok = { s with
        stopEvent := false
        thread := some s.spawned
        spawned := s.spawned + 1
        worker := if ok then Function.update s.worker s.spawned .boot else s.worker } := by
      simp [Sampler.start, ha]
    rw [hdef]
    constructor
    · intro t ht
      by_cases heq : t = s.spawned
      · rw [heq]
      · cases ok with
        | true =>
          simp only [if_true] at ht
          rw [Function.update_of_ne heq, hsilent t] at ht; cases ht
        | false =>
          simp only [Bool.false_eq_true, if_false] at ht
          rw [hsilent t] at ht; cases ht
    · intro t ht
      have ht' : s.spawned + 1 ≤ t := ht
      have hne : t ≠ s.spawned := by omega
      cases ok with
      | true =>
        simp only [if_true]
        rw [Function.update_of_ne hne]; exact h.fresh t (by omega)
      | false => exact h.fresh t (by omega)
    · intro t ht
      cases ht; exact Nat.lt_succ_self _

/-- **One step keeps at most one worker alive.** -/
theorem Sole.step (h : s.Sole) {a : Act σ} (hs : Stepped cfg s a s') : s'.Sole := by
  cases hstart : a.isStart with
  | true => cases hs with
    | start _ => exact h.start _
    | _ => cases hstart
  | false =>
    obtain ⟨hthread, hspawned, hworker⟩ := threads_step hstart hs
    rcases hworker with hw | ⟨u, q, hu, hw⟩
    · constructor
      · rw [hw, hthread]; exact h.current
      · rw [hw, hspawned]; exact h.fresh
      · rw [hthread, hspawned]; exact h.spawned
    · have hcur := h.current u hu
      constructor
      · intro t ht
        rw [hthread]
        by_cases heq : t = u
        · rw [heq]; exact hcur
        · rw [hw, Function.update_of_ne heq] at ht; exact h.current t ht
      · intro t ht
        rw [hspawned] at ht
        have hne : t ≠ u := by have := h.spawned u hcur; omega
        rw [hw, Function.update_of_ne hne]; exact h.fresh t ht
      · rw [hthread, hspawned]; exact h.spawned

/-- Every reachable state has at most one live worker. -/
theorem sole_run {as : List (Act σ)} (h : (samplerLts σ cfg).exec initial as = some s) : s.Sole :=
  Lts.inv_of_step (P := fun u : Sampler σ => u.Sole)
    (fun _ _ _ hS hs => hS.step (step_cases hs)) sole_initial h

theorem Sole.unique (h : s.Sole) {t u : ℕ} (ht : (s.worker t).isAlive = true)
    (hu : (s.worker u).isAlive = true) : t = u :=
  Option.some.inj ((h.current t ht).symm.trans (h.current u hu))

/-! ## Silence -/

/-- Without a `start`, no worker comes back to life. -/
theorem Silent.step (h : s.Silent) {a : Act σ} (ha : a.isStart = false) (hs : Stepped cfg s a s') :
    s'.Silent := by
  obtain ⟨-, -, hw | ⟨t, q, ht, -⟩⟩ := threads_step ha hs
  · intro u; rw [hw]; exact h u
  · rw [h t] at ht; cases ht

/-- In a silent state no worker takes a step. -/
theorem Silent.not_worker (h : s.Silent) {t : ℕ} {m : Move σ} :
    ¬ Stepped cfg s (.worker t m) s' := by
  intro hs
  cases hs with
  | worker hf => have := hf.isAlive; rw [h t] at this; cases this

/-- Where the call of `stop` by `c` that captured `captured` may be, as long as no
    other `start` or `stop` by `c` has run: inside `join`, or back with the thread dead. -/
structure Stopping (c : Caller) (captured : Option ℕ) (s : Sampler σ) : Prop where
  sole : s.Sole
  thread : s.thread = captured
  joining : ∀ t d, s.call c = .joining t d → captured = some t
  returned : s.call c = .returned → s.Silent

theorem setCall_self (s : Sampler σ) (c : Caller) (p : Call) : (s.setCall c p).call c = p := by
  simp [setCall]

theorem setCall_of_ne (s : Sampler σ) {c d : Caller} (h : c ≠ d) (p : Call) :
    (s.setCall d p).call c = s.call c := by
  simp [setCall, h]

/-- The locked section of a `stop` by a thread that is not the worker. -/
theorem stopping_stop (h : s.Sole) (i : ℕ) (d : Seconds) :
    Stopping (.outside i) s.thread (s.stop (.outside i) d) := by
  have hs : (s.stop (.outside i) d).Sole := by
    obtain ⟨h1, h2, h3⟩ := stop_frame s (.outside i) d
    exact ⟨by rw [h1, h2]; exact h.current, by rw [h2, h3]; exact h.fresh,
      by rw [h1, h3]; exact h.spawned⟩
  refine ⟨hs, (stop_frame s _ d).1, ?_, ?_⟩
  · intro t e ht
    unfold stop at ht
    split at ht
    · rw [setCall_self] at ht; cases ht
    · rename_i u hu
      rw [if_neg (by simp), setCall_self] at ht
      cases ht; exact hu
  · intro hret
    unfold stop at hret
    split at hret
    · rename_i hnone
      intro t
      rw [(stop_frame s _ d).2.1]
      exact silent_of_not_isAlive h (by simp [isAlive, hnone]) t
    · rw [if_neg (by simp), setCall_self] at hret; cases hret

/-- A caller's call changes only by its own `stop` and by the end of its own `join`. -/
theorem call_step {c : Caller} {a : Act σ} (hc : a.isStopBy c = false) (hs : Stepped cfg s a s') :
    s'.call c = s.call c ∨
      ∃ t d, s.call c = .joining t d ∧ s'.worker = s.worker ∧
        ((s.worker t = .dead ∧ s'.call c = .returned) ∨
         (s.worker t = .unstarted ∧ s'.call c = .failed ⟨"RuntimeError"⟩) ∨
         ((s.worker t).isAlive = true ∧ d ≤ cfg.timeoutMax ∧ s'.call c = .timedOut) ∨
         ((s.worker t).wasStarted = true ∧ cfg.timeoutMax < d ∧
           s'.call c = .failed ⟨"OverflowError"⟩)) := by
  have other {b : Caller} {p : Call} (hne : c ≠ b) : (s.setCall b p).call c = s.call c :=
    setCall_of_ne _ hne p
  cases hs with
  | start _ => left; unfold start; split <;> rfl
  | @stop b d _ =>
    have hne : c ≠ b := by rintro rfl; simp [Act.isStopBy] at hc
    left; unfold stop
    split
    · rw [setCall_of_ne _ hne]; rfl
    · split <;> rw [setCall_of_ne _ hne] <;> rfl
  | @reject b o e _ _ =>
    have hne : c ≠ b := by rintro rfl; simp [Act.isStopBy] at hc
    exact Or.inl (other hne)
  | @joined b t d hd hw =>
    by_cases hne : c = b
    · subst hne
      exact Or.inr ⟨t, d, hd, rfl, Or.inl ⟨hw, setCall_self _ _ _⟩⟩
    · exact Or.inl (other hne)
  | @joinFailed b t d hd hw =>
    by_cases hne : c = b
    · subst hne
      exact Or.inr ⟨t, d, hd, rfl, Or.inr (Or.inl ⟨hw, setCall_self _ _ _⟩)⟩
    · exact Or.inl (other hne)
  | @joinTimeout b t d hd hw hle =>
    by_cases hne : c = b
    · subst hne
      exact Or.inr ⟨t, d, hd, rfl, Or.inr (Or.inr (Or.inl ⟨hw, hle, setCall_self _ _ _⟩))⟩
    · exact Or.inl (other hne)
  | @joinOverflow b t d hd hw hlt =>
    by_cases hne : c = b
    · subst hne
      exact Or.inr ⟨t, d, hd, rfl, Or.inr (Or.inr (Or.inr ⟨hw, hlt, setCall_self _ _ _⟩))⟩
    · exact Or.inl (other hne)
  | worker _ => left; exact congrFun (effect_call _ _) c
  | check _ => left; exact congrFun (check_frame s _ _).2.2.2 c
  | _ => exact Or.inl rfl

/-- **One step of another party keeps a `stop` on its way to silence**, and so does a
    further `stop` of its own that is rejected. -/
theorem Stopping.step {c : Caller} {captured : Option ℕ} (h : Stopping c captured s) {a : Act σ}
    (hstart : a.isStart = false) (hc : ∀ d, a ≠ .stop c d) (hs : Stepped cfg s a s') :
    Stopping c captured s' := by
  have hthread := (threads_step hstart hs).1
  have hsole := h.sole.step hs
  cases hby : a.isStopBy c with
  | true =>
    have hfailed : ∃ e, s'.call c = .failed e := by
      cases hs with
      | @stop b d _ =>
        obtain rfl : b = c := by simpa [Act.isStopBy] using hby
        exact absurd rfl (hc d)
      | @reject b o e _ _ =>
        obtain rfl : b = c := by simpa [Act.isStopBy] using hby
        exact ⟨e, setCall_self _ _ _⟩
      | _ => cases hby
    obtain ⟨e, he⟩ := hfailed
    refine ⟨hsole, hthread.trans h.thread, ?_, ?_⟩
    · intro t d ht; rw [he] at ht; cases ht
    · intro hret; rw [he] at hret; cases hret
  | false =>
    refine ⟨hsole, hthread.trans h.thread, ?_, ?_⟩
    · intro t d ht
      rcases call_step hby hs with hk | ⟨u, e, -, -, ⟨-, hk⟩ | ⟨-, hk⟩ | ⟨-, -, hk⟩ | ⟨-, -, hk⟩⟩
      · exact h.joining t d (hk.symm.trans ht)
      all_goals rw [hk] at ht; cases ht
    · intro hret
      rcases call_step hby hs with
        hk | ⟨u, e, hu, hw, ⟨hd, -⟩ | ⟨-, hk⟩ | ⟨-, -, hk⟩ | ⟨-, -, hk⟩⟩
      · exact (h.returned (hk.symm.trans hret)).step hstart hs
      · have hdead : s.isAlive = false := by
          simp [isAlive, h.thread, h.joining u e hu, hd, Worker.isAlive]
        intro t
        rw [hw]
        exact silent_of_not_isAlive h.sole hdead t
      all_goals rw [hk] at hret; cases hret

/-- A label of no worker and no `start` publishes nothing. -/
theorem publishes_step {a : Act σ} (ha : ∀ t m, a ≠ .worker t m) (h : Stepped cfg s a s') :
    s'.sequence = s.sequence ∧ s'.history = s.history := by
  cases h with
  | start _ => unfold start; split <;> exact ⟨rfl, rfl⟩
  | stop _ =>
    unfold stop; split
    · exact ⟨rfl, rfl⟩
    · split <;> exact ⟨rfl, rfl⟩
  | @worker t m q _ => exact absurd rfl (ha t m)
  | check _ => unfold check; split_ifs <;> exact ⟨rfl, rfl⟩
  | _ => exact ⟨rfl, rfl⟩

/-- From a silent state, a run without `start` has no step of a worker. -/
theorem silent_run (h : s.Silent) {as : List (Act σ)} (hstart : ∀ a ∈ as, a.isStart = false)
    (hexec : (samplerLts σ cfg).exec s as = some s') :
    (∀ t m, .worker t m ∉ as) ∧ s'.sequence = s.sequence ∧ s'.history = s.history := by
  induction as generalizing s with
  | nil => cases hexec; simp
  | cons a as ih =>
    obtain ⟨u, hu, hexec⟩ := Lts.exec_cons_eq.1 hexec
    have hstep := step_cases (show s.step cfg a = some u from hu)
    have hne : ∀ t m, a ≠ .worker t m := by
      rintro t m rfl
      exact h.not_worker hstep
    obtain ⟨hw, hseq, hhist⟩ := ih (h.step (hstart a List.mem_cons_self) hstep)
      (fun b hb => hstart b (List.mem_cons_of_mem _ hb)) hexec
    obtain ⟨hseq', hhist'⟩ := publishes_step hne hstep
    refine ⟨?_, hseq.trans hseq', hhist.trans hhist'⟩
    intro t m hm
    rcases List.mem_cons.1 hm with heq | hm
    · exact hne t m heq.symm
    · exact hw t m hm

/-- **One worker at a time, and none after `stop`.**  In every reachable state
    at most one worker is alive.  When a `stop` by a thread that is not the worker
    has returned, no step of a worker, and so no `_publish`, follows in any run
    without the locked section of a `start` since the locked section of that `stop`. -/
theorem stop_quiesces (cfg : SamplerConfig) :
    (∀ (as : List (Act σ)) (s : Sampler σ),
      (samplerLts σ cfg).exec initial as = some s →
      ∀ t u, (s.worker t).isAlive = true → (s.worker u).isAlive = true → t = u) ∧
    (∀ (i : ℕ) (timeout : Seconds) (pre mid post : List (Act σ)) (s s' : Sampler σ),
      (samplerLts σ cfg).exec initial (pre ++ .stop (.outside i) timeout :: mid) = some s →
      (∀ d, .stop (.outside i) d ∉ mid) → s.call (.outside i) = .returned →
      (samplerLts σ cfg).exec s post = some s' → (∀ a ∈ mid ++ post, a.isStart = false) →
      (∀ t m, .worker t m ∉ post) ∧ s'.sequence = s.sequence ∧ s'.history = s.history) := by
  constructor
  · intro as s h t u ht hu
    exact (sole_run h).unique ht hu
  · intro i timeout pre mid post s s' h hmid hret hpost hstart
    obtain ⟨s₀, h₀, h⟩ := Lts.exec_append_eq.1 h
    obtain ⟨u, hu, h⟩ := Lts.exec_cons_eq.1 h
    have hstop : Stopping (.outside i) s₀.thread u := by
      cases step_cases (show s₀.step cfg (.stop (.outside i) timeout) = some u from hu)
      exact stopping_stop (sole_run h₀) i timeout
    have hs : Stopping (.outside i) s₀.thread s :=
      Lts.inv_of_labels (P := Stopping (.outside i) s₀.thread)
        (Q := fun a => a.isStart = false ∧ ∀ d, a ≠ .stop (.outside i) d)
        (fun _ _ _ ha hS hs => hS.step ha.1 ha.2 (step_cases hs))
        (fun a ha => ⟨hstart a (List.mem_append_left _ ha), fun d heq => hmid d (heq ▸ ha)⟩) hstop h
    exact silent_run (hs.returned hret) (fun a ha => hstart a (List.mem_append_right _ ha)) hpost

/-- After the locked section of `stop`, the worker publishes the sample it was
    collecting, leaves its loop and dies, and the `join` comes back. -/
def drained : List (Act Unit) :=
  [.worker 0 (.collected () 0), .worker 0 .publish, .worker 0 .call, .worker 0 .signalled,
    .worker 0 .notify, .worker 0 .die, .joined (.outside 0)]

/-- A worker told to stop in its collector call still publishes; once `stop` has
    returned, what an iterator takes is all there is. -/
theorem stop_quiesces_collecting :
    ∃ s s', (samplerLts Unit ⟨1, false, by decide, 9223372036⟩).exec initial
        ([.start (.outside 1) true, .worker 0 .boot, .worker 0 .test] ++
          .stop (.outside 0) defaultTimeout :: drained) = some s ∧
      (samplerLts Unit ⟨1, false, by decide, 9223372036⟩).exec s [.iter 0, .check 0] = some s' ∧
      s'.sequence = 1 := by
  obtain ⟨s, hs, hret, hseq⟩ : ∃ s, (samplerLts Unit ⟨1, false, by simp, 9223372036⟩).exec initial
      ([.start (.outside 1) true, .worker 0 .boot, .worker 0 .test] ++
        .stop (.outside 0) defaultTimeout :: drained) = some s ∧ s.call (.outside 0) = .returned ∧
      s.sequence = 1 := ⟨_, rfl, rfl, rfl⟩
  obtain ⟨s', hs'⟩ : ∃ s', (samplerLts Unit ⟨1, false, by simp, 9223372036⟩).exec s
      [.iter 0, .check 0] = some s' := by
    cases hs; exact ⟨_, rfl⟩
  refine ⟨s, s', hs, hs', ?_⟩
  obtain ⟨-, hkeep, -⟩ := (stop_quiesces _).2 0 _ _ drained [.iter 0, .check 0] s s' hs
    (by simp [drained]) hret hs' (by simp [drained, Act.isStart])
  rw [hkeep, hseq]

end Sampler

end SweatMeter
