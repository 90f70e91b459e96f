/-
  What `stop` can raise.

  `start` stores the new thread object before it starts it.  When the operating
  system refuses the thread, `Thread.start` raises and the field keeps an object
  that was never started; `Thread.join` on it raises `RuntimeError`, and so does
  every `stop` until a later `start` succeeds.  A timeout that is positive and
  finite may still be too large: for a double, which `math.isfinite` raises on
  before anything else, or for `join`.  `stop_safe_iff` says in which runs, and
  with which timeouts, `stop` returns or raises `TimeoutError`.
-/
import SweatMeter.Quiescence
import SweatMeter.Restart

namespace SweatMeter

open Py

/-- The call has come back to its caller, by a return or by an exception. -/
def Call.ended : Call → Bool
  | .returned | .timedOut | .failed _ => true
  | _ => false

/-- `stop(timeout=timeout)` by `c`, as far as its first step. -/
def Act.stopWith {σ : Type} (c : Caller) (timeout : Obj) : Act σ :=
  match positiveSeconds timeout with
  | .ok d => .stop c d
  | .error _ => .reject c timeout

namespace Sampler

variable {σ : Type} {cfg : SamplerConfig} {s s' : Sampler σ}

/-- The label is a `start` whose `Thread.start` raises. -/
def refuses (s : Sampler σ) : Act σ → Bool
  | .start _ ok => !s.startReturns ok
  | _ => false

/-- The thread in the field, if there is one, was started. -/
def Started (s : Sampler σ) : Prop := ∀ t, s.thread = some t → s.worker t ≠ .unstarted

/-! ## A `stop` on its way -/

/-- The call of `stop` by `c` has returned, has raised `TimeoutError`, or is in a
    `join` that can still end in one of the two; the latter while the worker lives. -/
def Ends (cfg : SamplerConfig) (s : Sampler σ) (c : Caller) : Prop :=
  s.call c = .returned ∨ s.call c = .timedOut ∨
    ∃ t d, s.call c = .joining t d ∧
      ((∃ s', s.step cfg (.joined c) = some s' ∧ s'.call c = .returned) ∨
       ((s.worker t).isAlive = true ∧
         ∃ s', s.step cfg (.joinTimeout c) = some s' ∧ s'.call c = .timedOut))

/-- A further `stop` with this timeout, by whichever thread can call it and whatever the
    other parties do after its first step, returns or raises `TimeoutError`. -/
def StopSafe (cfg : SamplerConfig) (s : Sampler σ) (timeout : Obj) : Prop :=
  ∀ c as s', (∀ a ∈ as, a.isStopBy c = false) →
    (samplerLts σ cfg).exec s (.stopWith c timeout :: as) = some s' → Ends cfg s' c

/-- The state `call` of a `stop` by `c` from `s` at some point after its first step. -/
def Outcome (cfg : SamplerConfig) (s : Sampler σ) (c : Caller) (timeout : Obj) (call : Call) :
    Prop :=
  ∃ as s', (∀ a ∈ as, a.isStopBy c = false) ∧
    (samplerLts σ cfg).exec s (.stopWith c timeout :: as) = some s' ∧ s'.call c = call

/-- Nothing retained and no later call of `stop` or `start` tells `s'` from `s`. -/
structure Unnoticed (cfg : SamplerConfig) (s s' : Sampler σ) : Prop where
  history : s'.history = s.history
  sequence : s'.sequence = s.sequence
  stop : ∀ c timeout call, call.ended = true →
    (Outcome cfg s' c timeout call ↔ Outcome cfg s c timeout call)
  start : ∀ ok, s'.startReturns ok = s.startReturns ok

/-- The call has ended well, or joins a thread that was started, for a time that can be
    waited. -/
def Sound (cfg : SamplerConfig) (s : Sampler σ) (c : Caller) : Prop :=
  s.call c = .returned ∨ s.call c = .timedOut ∨
    ∃ t d, s.call c = .joining t d ∧ s.worker t ≠ .unstarted ∧ d ≤ cfg.timeoutMax

theorem stopWith_of_accepted {c : Caller} {timeout : Obj} {d : Seconds}
    (h : positiveSeconds timeout = .ok d) : (Act.stopWith c timeout : Act σ) = .stop c d := by
  rw [Act.stopWith, h]

theorem Flow.ne_unstarted {t : ℕ} {p q : Worker σ} {m : Move σ} (h : Flow cfg s t p m q) :
    q ≠ .unstarted := by
  cases h <;> simp

/-- A thread that was started stays so. -/
theorem started_step {a : Act σ} {t : ℕ} (ht : s.worker t ≠ .unstarted) (hs : Stepped cfg s a s') :
    s'.worker t ≠ .unstarted := by
  cases hs with
  | @start c ok _ =>
    unfold Sampler.start
    split
    · exact ht
    · cases ok with
      | false => exact ht
      | true =>
        by_cases heq : t = s.spawned
        · simp [heq]
        · simpa [Function.update_of_ne heq] using ht
  | @stop c d _ => rw [(stop_frame s c d).2.1]; exact ht
  | @worker u m q hf =>
    by_cases heq : t = u
    · subst heq; simpa using hf.ne_unstarted
    · simpa [Function.update_of_ne heq] using ht
  | @check i n _ => rw [(check_frame s i n).2.1]; exact ht
  | _ => exact ht

/-- **A sound call stays sound** whatever step another party takes. -/
theorem Sound.step {c : Caller} (h : s.Sound cfg c) {a : Act σ} (hc : a.isStopBy c = false)
    (hs : Stepped cfg s a s') : s'.Sound cfg c := by
  rcases call_step hc hs with
    hk | ⟨t, d, ht, -, ⟨-, hk⟩ | ⟨hw, -⟩ | ⟨-, -, hk⟩ | ⟨-, hlt, -⟩⟩
  · rcases h with hret | htime | ⟨t, d, ht, hw, hle⟩
    · exact Or.inl (hk.trans hret)
    · exact Or.inr (Or.inl (hk.trans htime))
    · exact Or.inr (Or.inr ⟨t, d, hk.trans ht, started_step hw hs, hle⟩)
  · exact Or.inl hk
  · rcases h with hret | htime | ⟨u, e, hu, hne, -⟩
    · rw [ht] at hret; cases hret
    · rw [ht] at htime; cases htime
    · rw [ht] at hu; cases hu; exact absurd hw hne
  · exact Or.inr (Or.inl hk)
  · rcases h with hret | htime | ⟨u, e, hu, -, hle⟩
    · rw [ht] at hret; cases hret
    · rw [ht] at htime; cases htime
    · rw [ht] at hu; cases hu; exact absurd hle (not_le.2 hlt)

theorem Sound.ends {c : Caller} (h : s.Sound cfg c) : Ends cfg s c := by
  rcases h with hret | htime | ⟨t, d, ht, hw, hle⟩
  · exact Or.inl hret
  · exact Or.inr (Or.inl htime)
  · refine Or.inr (Or.inr ⟨t, d, ht, ?_⟩)
    cases ha : (s.worker t).isAlive with
    | true =>
      refine Or.inr ⟨rfl, s.setCall c .timedOut, ?_, setCall_self _ _ _⟩
      simp [Sampler.step, ht, ha, hle]
    | false =>
      have hdead : s.worker t = .dead := by
        cases hp : s.worker t <;> simp_all [Worker.isAlive]
      refine Or.inl ⟨s.setCall c .returned, ?_, setCall_self _ _ _⟩
      simp [Sampler.step, ht, hdead]

/-- The locked part of a `stop` where the thread in the field was started, and can be
    waited for, or where there is none. -/
theorem stop_sound (h : s.Started) (c : Caller) {d : Seconds}
    (hd : d.value ≤ cfg.timeoutMax ∨ s.thread = none) : (s.stop c d).Sound cfg c := by
  have hw := (stop_frame s c d).2.1
  unfold Sound
  rw [hw]
  unfold stop
  split
  · exact Or.inl (setCall_self _ _ _)
  · rename_i t ht
    split
    · exact Or.inl (setCall_self _ _ _)
    · refine Or.inr (Or.inr ⟨t, d.value, setCall_self _ _ _, h t ht, hd.resolve_right ?_⟩)
      rw [ht]
      simp

/-- `stop` is safe where the thread in the field was started and the timeout is one that
    can be waited, or where there is no thread. -/
theorem Started.stopSafe (h : s.Started) {timeout : Obj} {d : Seconds}
    (htimeout : positiveSeconds timeout = .ok d)
    (hd : d.value ≤ cfg.timeoutMax ∨ s.thread = none) : StopSafe cfg s timeout := by
  intro c as s' hc hexec
  obtain ⟨u, hu, hexec⟩ := Lts.exec_cons_eq.1 hexec
  rw [stopWith_of_accepted htimeout] at hu
  have hsound : u.Sound cfg c := by
    cases step_cases (show s.step cfg (.stop c d) = some u from hu)
    exact stop_sound h c hd
  exact (Lts.inv_of_labels (P := fun v : Sampler σ => v.Sound cfg c)
    (Q := fun a => a.isStopBy c = false)
    (fun _ _ _ ha hv hs => hv.step ha (step_cases hs)) hc hsound hexec).ends

/-! ## The runs in which no `start` is refused -/

theorem started_initial : (initial : Sampler σ).Started := by
  intro t ht; cases ht

theorem Started.step (h : s.Started) {a : Act σ} (ha : s.refuses a = false)
    (hs : Stepped cfg s a s') : s'.Started := by
  cases hstart : a.isStart with
  | false =>
    intro t ht
    rw [(threads_step hstart hs).1] at ht
    exact started_step (h t ht) hs
  | true => cases hs with
    | @start c ok _ =>
      cases hal : s.isAlive with
      | true => rw [start_of_alive s hal]; exact h
      | false =>
        have hok : ok = true := by simpa [refuses, startReturns, hal] using ha
        subst hok
        intro t ht
        simp only [Sampler.start, hal, Bool.false_eq_true, if_false] at ht ⊢
        cases ht
        simp
    | _ => cases hstart

/-- A `start` that is not refused leaves a live thread in the field. -/
theorem isAlive_start {c : Caller} {ok : Bool} (h : s.refuses (.start c ok) = false) :
    (s.start ok).isAlive = true := by
  cases hal : s.isAlive with
  | true => rw [start_of_alive s hal]; exact hal
  | false =>
    have hok : ok = true := by simpa [refuses, startReturns, hal] using h
    subst hok
    unfold Sampler.start
    rw [if_neg (by simp [hal])]
    simp [isAlive, Worker.isAlive]

/-- A refused `start` leaves a thread object in the field that was never started. -/
theorem start_refused (hf : s.Sole) {c : Caller} {ok : Bool} (h : s.refuses (.start c ok) = true) :
    (s.start ok).thread = some s.spawned ∧ (s.start ok).worker s.spawned = .unstarted := by
  have hboth : s.isAlive = false ∧ ok = false := by simpa [refuses, startReturns] using h
  obtain ⟨hal, rfl⟩ := hboth
  simp [Sampler.start, hal, hf.fresh]

/-- Without a `start` there is no thread. -/
theorem thread_of_no_start {as : List (Act σ)} (hstart : ∀ a ∈ as, a.isStart = false)
    (h : (samplerLts σ cfg).exec initial as = some s) : s.thread = none :=
  Lts.const_of_step (f := fun u : Sampler σ => u.thread)
    (fun _ _ _ ha hs => (threads_step ha (step_cases hs)).1) hstart h

/-! ## A free caller -/

/-- All but finitely many outside threads have made no call yet. -/
theorem exists_idle {as : List (Act σ)} (h : (samplerLts σ cfg).exec initial as = some s) :
    ∃ n, ∀ i, n ≤ i → s.call (.outside i) = .idle := by
  refine Lts.inv_of_step (P := fun u : Sampler σ => ∃ n, ∀ i, n ≤ i → u.call (.outside i) = .idle)
    ?_ ⟨0, fun i _ => rfl⟩ h
  rintro u a u' ⟨n, hn⟩ hstep
  have hstep : Stepped cfg u a u' := step_cases hstep
  have hother : ∃ m, ∀ i, m ≤ i → a.isStopBy (.outside i) = false := by
    cases a with
    | stop c d =>
      cases c with
      | outside j => exact ⟨j + 1, fun i hi => by simp [Act.isStopBy]; omega⟩
      | worker t => exact ⟨0, fun i _ => by simp [Act.isStopBy]⟩
    | reject c o =>
      cases c with
      | outside j => exact ⟨j + 1, fun i hi => by simp [Act.isStopBy]; omega⟩
      | worker t => exact ⟨0, fun i _ => by simp [Act.isStopBy]⟩
    | _ => exact ⟨0, fun i _ => rfl⟩
  obtain ⟨m, hm⟩ := hother
  refine ⟨max n m, ?_⟩
  intro i hi
  have hidle := hn i ((le_max_left n m).trans hi)
  rcases call_step (hm i ((le_max_right n m).trans hi)) hstep with hk | ⟨t, d, ht, -⟩
  · exact hk.trans hidle
  · rw [hidle] at ht; cases ht

/-- A caller whose call has raised something else was not safe. -/
theorem not_stopSafe_of_failed {i : ℕ} {timeout : Obj} {as : List (Act σ)} {e : Exn}
    (has : ∀ a ∈ as, a.isStopBy (.outside i) = false)
    (hexec : (samplerLts σ cfg).exec s (.stopWith (.outside i) timeout :: as) = some s')
    (hfailed : s'.call (.outside i) = .failed e) : ¬ StopSafe cfg s timeout := by
  intro hsafe
  rcases hsafe (.outside i) as s' has hexec with h | h | ⟨u, d, h, -⟩
  all_goals rw [hfailed] at h; cases h

/-- A timeout that is not accepted raises. -/
theorem not_stopSafe_of_rejected {i : ℕ} {timeout : Obj} {e : Exn}
    (hi : s.call (.outside i) = .idle) (htimeout : positiveSeconds timeout = .error e) :
    ¬ StopSafe cfg s timeout := by
  refine not_stopSafe_of_failed (List.forall_mem_nil _) ?_ (setCall_self s (.outside i) (.failed e))
  have hlabel : (Act.stopWith (.outside i) timeout : Act σ) = .reject (.outside i) timeout := by
    rw [Act.stopWith, htimeout]
  rw [hlabel]
  refine Lts.exec_cons_eq.2 ⟨_, ?_, rfl⟩
  show s.step cfg (.reject (.outside i) timeout) = _
  simp [Sampler.step, htimeout, canCall, hi]

/-- An outside `stop` that finds a thread joins it. -/
theorem stop_joins {i t : ℕ} {d : Seconds} (hi : s.call (.outside i) = .idle)
    (ht : s.thread = some t) :
    s.step cfg (.stop (.outside i) d) = some (s.stop (.outside i) d) ∧
      (s.stop (.outside i) d).call (.outside i) = .joining t d.value ∧
      (s.stop (.outside i) d).worker = s.worker := by
  refine ⟨?_, ?_, (stop_frame s _ d).2.1⟩
  · simp [Sampler.step, canCall, hi]
  · simp [Sampler.stop, ht, setCall_self]

/-- Where the thread in the field was never started, an outside `stop` raises
    `RuntimeError`. -/
theorem not_stopSafe_of_unstarted {i t : ℕ} {timeout : Obj} {d : Seconds}
    (htimeout : positiveSeconds timeout = .ok d) (hi : s.call (.outside i) = .idle)
    (ht : s.thread = some t) (hw : s.worker t = .unstarted) : ¬ StopSafe cfg s timeout := by
  obtain ⟨hstop, hcall, hworker⟩ := @stop_joins σ cfg s i t d hi ht
  have hend : ∀ a ∈ [(.joined (.outside i) : Act σ)], a.isStopBy (.outside i) = false :=
    List.forall_mem_singleton.2 rfl
  refine not_stopSafe_of_failed hend ?_
    (setCall_self (s.stop (.outside i) d) (.outside i) (.failed ⟨"RuntimeError"⟩))
  rw [stopWith_of_accepted htimeout]
  refine Lts.exec_cons_eq.2 ⟨_, hstop, Lts.exec_cons_eq.2 ⟨_, ?_, rfl⟩⟩
  show (s.stop (.outside i) d).step cfg (.joined (.outside i)) = _
  simp [Sampler.step, hcall, hworker, hw]

/-- Where the worker lives, an outside `stop` with a timeout that cannot be waited
    raises `OverflowError`. -/
theorem not_stopSafe_of_overflow {i : ℕ} {timeout : Obj} {d : Seconds}
    (htimeout : positiveSeconds timeout = .ok d) (hd : cfg.timeoutMax < d.value)
    (hi : s.call (.outside i) = .idle) (halive : s.isAlive = true) :
    ¬ StopSafe cfg s timeout := by
  obtain ⟨t, ht, hw⟩ : ∃ t, s.thread = some t ∧ (s.worker t).isAlive = true := by
    simpa [isAlive, Option.any_eq_true] using halive
  have hstarted : (s.worker t).wasStarted = true := by
    cases hp : s.worker t <;> simp_all [Worker.isAlive, Worker.wasStarted]
  obtain ⟨hstop, hcall, hworker⟩ := @stop_joins σ cfg s i t d hi ht
  have hend : ∀ a ∈ [(.joinOverflow (.outside i) : Act σ)], a.isStopBy (.outside i) = false :=
    List.forall_mem_singleton.2 rfl
  refine not_stopSafe_of_failed hend ?_
    (setCall_self (s.stop (.outside i) d) (.outside i) (.failed ⟨"OverflowError"⟩))
  rw [stopWith_of_accepted htimeout]
  refine Lts.exec_cons_eq.2 ⟨_, hstop, Lts.exec_cons_eq.2 ⟨_, ?_, rfl⟩⟩
  show (s.stop (.outside i) d).step cfg (.joinOverflow (.outside i)) = _
  simp [Sampler.step, hcall, hworker, hstarted, hd]

/-- A positive finite number is accepted where it fits a double, and raises elsewhere. -/
theorem positiveSeconds_cases {x : Number} {seconds : ℚ} (hx : x.toRat = some seconds)
    (hpos : 0 < seconds) :
    (Fits (.num x) ∧ positiveSeconds (.num x) = .ok ⟨seconds, hpos⟩) ∨
      (¬ Fits (.num x) ∧ ∃ e, positiveSeconds (.num x) = .error e) := by
  by_cases hfits : Fits (.num x)
  · obtain ⟨finite, hfinite⟩ := returns_isfinite.2 hfits
    refine Or.inl ⟨hfits, positiveSeconds_eq_ok.2 ⟨x, rfl, ?_, hx⟩⟩
    cases x with
    | int n =>
      simp only [Number.isfinite] at hfinite ⊢
      split_ifs at hfinite ⊢
      rfl
    | float y => cases y <;> cases hx; rfl
  · refine Or.inr ⟨hfits, ?_⟩
    cases hfinite : x.isfinite with
    | ok finite => exact absurd (returns_isfinite.1 ⟨finite, hfinite⟩) hfits
    | error e => exact ⟨e, by simp [positiveSeconds, hfinite]⟩

/-- **When `stop` is safe.**  In every run, for a timeout that is a positive finite number:
    no `start` is refused, the timeout fits a double, and `join` can wait for it unless the
    run has no `start`, exactly if in every state of the run a further `stop` with this
    timeout can only return or raise `TimeoutError`, and every refused `start` goes
    unnoticed. -/
theorem stop_safe_iff (cfg : SamplerConfig) {as : List (Act σ)} {s : Sampler σ}
    (h : (samplerLts σ cfg).exec initial as = some s) {x : Number} {seconds : ℚ}
    (hx : x.toRat = some seconds) (hpos : 0 < seconds) :
    ((samplerLts σ cfg).Guarded (fun u a => u.refuses a = false) initial as ∧
      Fits (.num x) ∧ (seconds ≤ cfg.timeoutMax ∨ ∀ a ∈ as, a.isStart = false)) ↔
      (∀ pre u, pre <+: as → (samplerLts σ cfg).exec initial pre = some u →
        StopSafe cfg u (.num x)) ∧
      (∀ pre c ok u u', pre ++ [.start c ok] <+: as →
        (samplerLts σ cfg).exec initial pre = some u → u.refuses (.start c ok) = true →
        (samplerLts σ cfg).step u (.start c ok) = some u' → Unnoticed cfg u u') := by
  constructor
  · rintro ⟨hG, hfits, hwait⟩
    have htimeout : positiveSeconds (.num x) = .ok ⟨seconds, hpos⟩ := by
      rcases positiveSeconds_cases hx hpos with ⟨-, hok⟩ | ⟨hno, -⟩
      · exact hok
      · exact absurd hfits hno
    constructor
    · intro pre u hpre hu
      have hstarted : u.Started :=
        (hG.of_initial hpre).inv (P := fun v : Sampler σ => v.Started)
          (fun _ _ _ ha hv hs => hv.step ha (step_cases hs)) started_initial hu
      refine hstarted.stopSafe htimeout (hwait.imp_right ?_)
      exact fun hstart => thread_of_no_start (fun a ha => hstart a (hpre.subset ha)) hu
    · intro pre c ok u u' hpre hu href _
      have := Lts.guarded_iff.1 hG pre _ u hpre hu
      rw [href] at this; cases this
  · rintro ⟨hsafe, -⟩
    have hidle : (initial : Sampler σ).call (.outside 0) = .idle := rfl
    obtain ⟨hfits, htimeout⟩ : Fits (.num x) ∧
        positiveSeconds (.num x) = .ok ⟨seconds, hpos⟩ := by
      rcases positiveSeconds_cases hx hpos with hboth | ⟨-, e, he⟩
      · exact hboth
      · exact absurd (hsafe [] _ (List.nil_prefix) rfl) (not_stopSafe_of_rejected hidle he)
    have hG : (samplerLts σ cfg).Guarded (fun u a => u.refuses a = false) initial as := by
      rw [Lts.guarded_iff]
      intro pre a u hpre hu
      by_contra href
      rw [Bool.not_eq_false] at href
      obtain ⟨post, rfl⟩ := hpre
      obtain ⟨u', hu', -⟩ := Lts.exec_append_eq.1 h
      cases a with
      | start c ok =>
        obtain ⟨v, hv, hstep⟩ := Lts.exec_snoc_eq.1 hu'
        cases hu.symm.trans hv
        cases step_cases (show u.step cfg (.start c ok) = some u' from hstep)
        obtain ⟨hthread, hworker⟩ := start_refused (sole_run hu) href
        obtain ⟨n, hn⟩ := exists_idle hu'
        exact not_stopSafe_of_unstarted htimeout (hn n (le_refl n)) hthread hworker
          (hsafe _ _ (List.prefix_append _ post) hu')
      | _ => cases href
    refine ⟨hG, hfits, ?_⟩
    by_contra hnot
    push Not at hnot
    obtain ⟨hlong, a, ha, hstart⟩ := hnot
    obtain ⟨pre, post, rfl⟩ := List.append_of_mem ha
    have hpre : pre ++ [a] <+: pre ++ a :: post := ⟨post, by simp⟩
    obtain ⟨u', hu', -⟩ := Lts.exec_append_eq.1 (by simpa using h : (samplerLts σ cfg).exec initial
      ((pre ++ [a]) ++ post) = some s)
    obtain ⟨u, hu, hstep⟩ := Lts.exec_snoc_eq.1 hu'
    cases a with
    | start c ok =>
      have href := Lts.guarded_iff.1 hG pre _ u hpre hu
      cases step_cases (show u.step cfg (.start c ok) = some u' from hstep)
      obtain ⟨n, hn⟩ := exists_idle hu'
      exact not_stopSafe_of_overflow htimeout hlong (hn n (le_refl n)) (isAlive_start href)
        (hsafe _ _ hpre hu')
    | _ => exact absurd rfl hstart

/-- Started, stopped in its callback and restarted, the sampler can be stopped. -/
theorem stop_safe_restarted :
    ∃ s, (samplerLts Unit ⟨1, true, by decide, 9223372036⟩).exec initial
      [.start (.outside 0) true, .worker 0 .boot, .worker 0 .test, .worker 0 (.collected () 0),
        .worker 0 .publish, .worker 0 .call, .stop (.worker 0) defaultTimeout, .worker 0 .ret,
        .worker 0 .signalled, .worker 0 .notify, .worker 0 .die, .start (.outside 0) true] = some s ∧
      StopSafe ⟨1, true, by decide, 9223372036⟩ s (.num (.float (.finite 5))) := by
  obtain ⟨s, hs⟩ : ∃ s, (samplerLts Unit ⟨1, true, by decide, 9223372036⟩).exec initial
      [.start (.outside 0) true, .worker 0 .boot, .worker 0 .test, .worker 0 (.collected () 0),
        .worker 0 .publish, .worker 0 .call, .stop (.worker 0) defaultTimeout, .worker 0 .ret,
        .worker 0 .signalled, .worker 0 .notify, .worker 0 .die, .start (.outside 0) true] =
      some s := ⟨_, rfl⟩
  have hsafe := (stop_safe_iff (x := .float (.finite 5)) _ hs rfl (by decide)).1
    ⟨by decide, trivial, Or.inl (by decide)⟩
  exact ⟨s, hs, hsafe.1 _ s (List.prefix_refl _) hs⟩

/-- The thread is refused, and `stop` then raises `RuntimeError`; for a live worker, a `stop`
    with a timeout of 10000000000 raises `OverflowError`. -/
theorem stop_raises_after_refused_start :
    (∃ s, (samplerLts Unit ⟨1, true, by decide, 9223372036⟩).exec initial
        [.start (.outside 0) false, .stopWith (.outside 0) (.num (.float (.finite 5))),
          .joined (.outside 0)] = some s ∧
      s.call (.outside 0) = .failed ⟨"RuntimeError"⟩) ∧
    ∃ s, (samplerLts Unit ⟨1, true, by decide, 9223372036⟩).exec initial
        [.start (.outside 0) true,
          .stopWith (.outside 0) (.num (.float (.finite 10000000000))),
          .joinOverflow (.outside 0)] = some s ∧
      s.call (.outside 0) = .failed ⟨"OverflowError"⟩ :=
  ⟨⟨_, rfl, rfl⟩, ⟨_, rfl, rfl⟩⟩

end Sampler

end SweatMeter
