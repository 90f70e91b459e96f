/-
  Wake-ups of the sampler's iterators.

  `_run` notifies for the last time in its `finally` clause and dies later, and
  `__iter__` decides to wait by `is_alive()`.  An iterator whose locked section
  runs in between waits for a notification that no worker will send:
  `iter_lost_wakeup`.  So does one that waits for a worker whose first read of
  the clock raises, before the `try`.  But for these every wait is attended by a
  worker that still has its last `notify_all` ahead of it (`Attended`), so no
  wake-up is lost (`iter_wakeup`).
-/
import SweatMeter.Quiescence

namespace SweatMeter

/-- A thread in `_run` with its last `notify_all` still to come, if its first read of the
    clock does not raise. -/
def Worker.willNotify {σ : Type} : Worker σ → Bool
  | .unstarted | .exiting | .dead => false
  | _ => true

theorem Worker.isAlive_of_willNotify {σ : Type} {p : Worker σ} (h : p.willNotify = true) :
    p.isAlive = true := by
  cases p <;> simp_all [willNotify, isAlive]

namespace Sampler

variable {σ : Type} {cfg : SamplerConfig} {s s' : Sampler σ}

/-- The worker is dead and consumer `i` is blocked in `wait`, not notified. -/
def LostWakeup (s : Sampler σ) (i : ℕ) : Prop := s.isAlive = false ∧ s.Waiting i

/-- The current thread has no notification left to send and is still alive. -/
def exiting (s : Sampler σ) : Bool :=
  s.thread.any fun t => match s.worker t with
    | .exiting => true
    | _ => false

/-- A locked section of `__iter__` that finds nothing to take does not run between the last
    notification of the current thread, or its first read of the clock if that raises, and
    its death; and no consumer waits when that read raises. -/
def Prompt (s : Sampler σ) : Act σ → Prop
  | .check i => match s.consumer i with
    | .ready n | .woken n => s.available n ≠ [] ∨ s.exiting = false
    | _ => True
  | .worker t .abort => match s.worker t with
    | .boot => ∀ i, ¬ s.Waiting i
    | _ => True
  | _ => True

/-- A consumer that waits is attended by a thread that will notify it. -/
def Attended (s : Sampler σ) : Prop :=
  ∀ i, s.Waiting i → ∃ t, s.thread = some t ∧ (s.worker t).willNotify = true

theorem attended_initial : (initial : Sampler σ).Attended := by
  rintro i ⟨n, h⟩; cases h

theorem Attended.isAlive (h : s.Attended) {i : ℕ} (hi : s.Waiting i) : s.isAlive = true := by
  obtain ⟨t, ht, hw⟩ := h i hi
  rw [Sampler.isAlive, ht]
  exact Worker.isAlive_of_willNotify hw

/-- A state where no consumer waits is attended. -/
theorem attended_of_not_waiting (h : ∀ i, ¬ s.Waiting i) : s.Attended :=
  fun i hi => absurd hi (h i)

/-- Being attended depends on the consumers and the current thread only. -/
theorem Attended.congr (h : s.Attended) (hc : s'.consumer = s.consumer)
    (ht : s'.thread = s.thread) (hw : s'.worker = s.worker) : s'.Attended := by
  intro i hi
  obtain ⟨t, h1, h2⟩ := h i ((waiting_congr hc i).1 hi)
  exact ⟨t, ht.trans h1, by rw [hw]; exact h2⟩

theorem Attended.setConsumer (h : s.Attended) {i : ℕ} {p : Consumer σ}
    (hp : ∀ n, p ≠ .waiting n) : (s.setConsumer i p).Attended := by
  rintro j ⟨n, hn⟩
  rcases eq_or_ne j i with rfl | hj
  · rw [setConsumer_consumer, Function.update_self] at hn; exact absurd hn (hp n)
  · rw [setConsumer_consumer, Function.update_of_ne hj] at hn; exact h j ⟨n, hn⟩

/-- A thread that was going to notify still is after a step that is not its
    last notification; the last notification leaves no consumer waiting, and a
    first read of the clock that raises finds none. -/
theorem Attended.flow (h : s.Attended) {t : ℕ} {m : Move σ} {q : Worker σ}
    (hG : s.Prompt (.worker t m)) (hf : Flow cfg s t (s.worker t) m q) :
    ((s.effect cfg (s.worker t) m).setWorker t q).Attended := by
  generalize hp : s.worker t = p at hf
  have keep : q.willNotify = true ∨ p.willNotify = false → (s.setWorker t q).Attended := by
    intro hq i hi
    obtain ⟨u, hu, hw⟩ := h i hi
    refine ⟨u, hu, ?_⟩
    rcases eq_or_ne u t with rfl | hut
    · rw [setWorker_worker, Function.update_self]
      rcases hq with hq | hq
      · exact hq
      · rw [hp, hq] at hw; cases hw
    · rw [setWorker_worker, Function.update_of_ne hut]; exact hw
  cases hf with
  | bootAbort =>
    have hG' : ∀ i, ¬ s.Waiting i := by simpa only [Prompt, hp] using hG
    exact attended_of_not_waiting hG'
  | publish =>
    exact attended_of_not_waiting fun i hi => notifyAll_not_waiting _ i hi
  | notify =>
    exact attended_of_not_waiting fun i hi => notifyAll_not_waiting s i hi
  | die => exact keep (Or.inr rfl)
  | _ => exact keep (Or.inl rfl)

/-- In the exiting window the current thread will not notify, and conversely a
    live thread outside the window will. -/
theorem willNotify_of_not_exiting (ha : s.isAlive = true) (he : s.exiting = false) :
    ∃ t, s.thread = some t ∧ (s.worker t).willNotify = true := by
  rw [Sampler.isAlive] at ha
  rw [exiting] at he
  cases ht : s.thread with
  | none => rw [ht] at ha; cases ha
  | some t =>
    rw [ht] at ha he
    refine ⟨t, rfl, ?_⟩
    simp only [Option.any_some] at ha he
    cases hw : s.worker t <;> simp_all [Worker.isAlive, Worker.willNotify]

/-- **One step keeps every waiting consumer attended**, if no section of
    `__iter__` starts to wait in the exiting window and none waits as it is entered
    without a notification. -/
theorem attended_step {a : Act σ} (hG : s.Prompt a) (h : s.Attended)
    (hs : Stepped cfg s a s') : s'.Attended := by
  cases hs with
  | @start c ok _ =>
    cases ha : s.isAlive with
    | true => rw [start_of_alive s ha]; exact h
    | false =>
      refine attended_of_not_waiting ?_
      intro i hi
      have hi' : s.Waiting i := (waiting_congr (start_consumer s ok) i).1 hi
      rw [h.isAlive hi'] at ha; cases ha
  | @stop c d _ =>
    exact attended_of_not_waiting fun i hi =>
      notifyAll_not_waiting s i ((waiting_congr (stop_consumer s c d) i).1 hi)
  | reject _ _ | joined _ _ | joinFailed _ _ | joinTimeout _ _ _ | joinOverflow _ _ _ =>
    exact h.congr rfl rfl rfl
  | worker hf => exact h.flow hG hf
  | iter _ => exact h.setConsumer fun n hn => by cases hn
  | @check i n hc =>
    have hG' : s.available n = [] → s.exiting = false := by
      intro hav
      rcases hc with hc | hc <;> simpa [Prompt, hc, hav] using hG
    have hframe : (s.check i n).thread = s.thread ∧ (s.check i n).worker = s.worker := by
      unfold check; split_ifs <;> exact ⟨rfl, rfl⟩
    intro j hj
    rw [hframe.1, hframe.2]
    rcases check_waiting hj with ⟨-, hav, ha⟩ | hw
    · exact willNotify_of_not_exiting ha (hG' hav)
    · exact h j hw
  | next _ => exact h.setConsumer fun n hn => by cases hn
  | again _ => exact h.setConsumer fun n hn => by cases hn

/-- Every state of a guarded run is attended. -/
theorem attended_run {as : List (Act σ)}
    (hG : (samplerLts σ cfg).Guarded Prompt initial as)
    (h : (samplerLts σ cfg).exec initial as = some s) : s.Attended :=
  hG.inv (fun _ _ _ ha hs h => attended_step ha hs (step_cases h)) attended_initial h

theorem exists_of_exiting (h : s.exiting = true) :
    ∃ t, s.thread = some t ∧ s.worker t = .exiting := by
  rw [exiting, Option.any_eq_true] at h
  obtain ⟨t, ht, hw⟩ := h
  refine ⟨t, ht, ?_⟩
  split at hw
  · assumption
  · cases hw

/-- A section of `__iter__` that finds nothing to take in the exiting window
    waits, and the death of the thread then loses its wake-up. -/
theorem lost_of_check {i : ℕ} (hG : ¬ s.Prompt (.check i)) (h : s.step cfg (.check i) = some s') :
    ∃ t u, s'.step cfg (.worker t .die) = some u ∧ u.LostWakeup i := by
  have key : ∀ n, s.available n = [] → s.exiting = true →
      ∃ t u, (s.check i n).step cfg (.worker t .die) = some u ∧ u.LostWakeup i := by
    intro n hav hex
    obtain ⟨t, ht, hw⟩ := exists_of_exiting hex
    have ha : s.isAlive = true := by simp [isAlive, ht, hw, Worker.isAlive]
    have hc : s.check i n = s.setConsumer i (.waiting n) := by simp [check, hav, ha]
    refine ⟨t, (s.setConsumer i (.waiting n)).setWorker t .dead, ?_, ?_, n, ?_⟩
    · simp [hc, step, hw, move]
    · simp [isAlive, ht, Worker.isAlive]
    · simp
  simp only [step] at h
  split at h
  · rename_i n hc
    have hno : s.available n = [] ∧ s.exiting = true := by simpa [Prompt, hc] using hG
    cases h
    exact key n hno.1 hno.2
  · rename_i n hc
    have hno : s.available n = [] ∧ s.exiting = true := by simpa [Prompt, hc] using hG
    cases h
    exact key n hno.1 hno.2
  · cases h

/-- A consumer that waits while the first read of the clock raises is not notified, and
    the death of the thread loses its wake-up. -/
theorem lost_of_abort (hsole : s.Sole) {t : ℕ} (hG : ¬ s.Prompt (.worker t .abort))
    (h : s.step cfg (.worker t .abort) = some s') :
    ∃ i u, s'.step cfg (.worker t .die) = some u ∧ u.LostWakeup i := by
  obtain ⟨hw, i, n, hi⟩ : s.worker t = .boot ∧ ∃ i, s.Waiting i := by
    cases hw : s.worker t <;> simp_all [Prompt]
  have ht : s.thread = some t := hsole.current t (by rw [hw]; rfl)
  have hs' : s' = s.setWorker t .exiting := by simpa [step, hw, move] using h.symm
  subst hs'
  refine ⟨i, (s.setWorker t .exiting).setWorker t .dead, ?_, ?_, n, hi⟩
  · simp [step, move]
  · simp [isAlive, ht, Worker.isAlive]

/-- **No wake-up is lost** in a run whose waits all start outside the exiting
    window of the worker, and in which no consumer waits when a worker fails before its
    `try`; elsewhere one is lost as soon as the worker dies. -/
theorem iter_wakeup (cfg : SamplerConfig) :
    (∀ (as : List (Act σ)) (s : Sampler σ),
      (samplerLts σ cfg).Guarded Prompt initial as →
      (samplerLts σ cfg).exec initial as = some s → ∀ i, ¬ s.LostWakeup i) ∧
    (∀ (as : List (Act σ)) (s s' : Sampler σ) (a : Act σ),
      (samplerLts σ cfg).exec initial as = some s → ¬ s.Prompt a →
      (samplerLts σ cfg).step s a = some s' →
      ∃ t i u, (samplerLts σ cfg).step s' (.worker t .die) = some u ∧ u.LostWakeup i) := by
  constructor
  · rintro as s hG h i ⟨hdead, hw⟩
    rw [(attended_run hG h).isAlive hw] at hdead; cases hdead
  · intro as s s' a hrun hG h
    cases a with
    | check i =>
      obtain ⟨t, u, hu, hlost⟩ := lost_of_check hG h
      exact ⟨t, i, u, hu, hlost⟩
    | worker t m =>
      cases m with
      | abort =>
        obtain ⟨i, u, hu, hlost⟩ := lost_of_abort (sole_run hrun) hG h
        exact ⟨t, i, u, hu, hlost⟩
      | _ => exact absurd trivial hG
    | _ => exact absurd trivial hG

/-- One sample is published and taken, `stop` is called, and the iterator
    checks again. -/
def wakeupRun : List (Act Unit) :=
  [.start (.outside 0) true, .worker 0 .boot, .worker 0 .test, .worker 0 (.collected () 0),
    .worker 0 .publish, .worker 0 .call, .iter 0, .check 0, .next 0, .next 0]

/-- The iterator waits before `stop`, and is woken by it. -/
theorem iter_wakeup_stopped :
    ∃ s, (samplerLts Unit ⟨1, false, by decide, 9223372036⟩).exec initial
      (wakeupRun ++ [.check 0, .stop (.outside 0) defaultTimeout, .worker 0 .signalled,
        .worker 0 .notify, .worker 0 .die]) = some s ∧ s.isAlive = false ∧ ¬ s.LostWakeup 0 := by
  obtain ⟨s, hs, hd⟩ : ∃ s, (samplerLts Unit ⟨1, false, by decide, 9223372036⟩).exec initial
      (wakeupRun ++ [.check 0, .stop (.outside 0) defaultTimeout, .worker 0 .signalled,
        .worker 0 .notify, .worker 0 .die]) = some s ∧ s.isAlive = false := ⟨_, rfl, by decide⟩
  refine ⟨s, hs, hd, (iter_wakeup _).1 _ s ?_ hs 0⟩
  exact ⟨trivial, trivial, trivial, trivial, trivial, trivial, trivial, Or.inr rfl, trivial, trivial,
    Or.inr rfl, trivial, trivial, trivial, trivial, trivial⟩

/-- The iterator checks between the last notification and the death of the
    worker, and its wake-up is lost; so is that of an iterator that waits while the
    first read of the clock raises. -/
theorem iter_lost_wakeup :
    (∃ s, (samplerLts Unit ⟨1, false, by decide, 9223372036⟩).exec initial
      (wakeupRun ++ [.stop (.outside 0) defaultTimeout, .worker 0 .signalled, .worker 0 .notify,
        .check 0, .worker 0 .die]) = some s ∧ s.LostWakeup 0) ∧
    ∃ s, (samplerLts Unit ⟨1, false, by decide, 9223372036⟩).exec initial
      [.start (.outside 0) true, .iter 0, .check 0, .worker 0 .abort, .worker 0 .die] = some s ∧
      s.LostWakeup 0 :=
  ⟨⟨_, rfl, by decide, 2, rfl⟩, ⟨_, rfl, by decide, 1, rfl⟩⟩

end Sampler

end SweatMeter
