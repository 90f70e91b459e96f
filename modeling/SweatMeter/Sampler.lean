/-
  The background sampler (`TelemetrySampler`) as a transition system.

  One label is one atomic step of one party: a section run under `_condition`
  (the body of `start`, the locked parts of `stop`, `_publish`, `__iter__` and
  of the `finally` clause of `_run`), or a step of a thread outside the lock (a
  test of `_stop_event`, the collector call, the callback, the end of a
  `join`).  The worker dies (`is_alive()` turns false) in a step of its own
  after its `finally` clause, or after its first read of the clock has raised:
  that read stands before the `try`.

  Thread objects are numbered in the order `start` creates them; a caller of
  `start` or `stop` is an outside thread or a worker inside its `on_sample`
  callback.
-/
import Mathlib.Data.Rat.Defs
import Mathlib.Logic.Function.Basic
import SweatMeter.Lts
import SweatMeter.Seconds

namespace SweatMeter

open Py

/-- One element of the sampler's ring buffer. -/
structure Entry (σ : Type) where
  sequence : ℕ
  snapshot : σ
  sampledAt : ℚ

/-- Where a thread object is in `_run`. -/
inductive Worker (σ : Type) where
  /-- not created yet, or created and never started -/
  | unstarted
  /-- reading the first deadline -/
  | boot
  /-- about to test `_stop_event.is_set()` -/
  | loop
  /-- inside `collector.snapshot()` -/
  | collect
  /-- about to enter `_publish` -/
  | publish (snapshot : σ) (sampledAt : ℚ)
  /-- past the locked part of `_publish`, the callback not called yet -/
  | published (snapshot : σ)
  /-- inside `on_sample` -/
  | callback
  /-- scheduling the next deadline and waiting on `_stop_event` -/
  | pause
  /-- about to run the `finally` clause -/
  | leaving
  /-- past the `finally` clause, or out of `_run` before its `try`, the thread still alive -/
  | exiting
  | dead

/-- `Thread.is_alive()`. -/
def Worker.isAlive {σ : Type} : Worker σ → Bool
  | .unstarted | .dead => false
  | _ => true

/-- The thread object has been started; `join` raises on one that has not. -/
def Worker.wasStarted {σ : Type} : Worker σ → Bool
  | .unstarted => false
  | _ => true

/-- Where a generator made by `__iter__` is. -/
inductive Consumer (σ : Type) where
  | absent
  /-- about to enter the locked section, with this `next_sequence` -/
  | ready (next : ℕ)
  /-- blocked in `_condition.wait()`, no notification pending -/
  | waiting (next : ℕ)
  /-- notified, not running yet -/
  | woken (next : ℕ)
  /-- yielding the rest of a batch outside the lock -/
  | yielding (next : ℕ) (batch : List (Entry σ))
  | done

/-- A thread that may call `start` and `stop`. -/
inductive Caller where
  | outside (i : ℕ)
  | worker (t : ℕ)
  deriving DecidableEq

/-- The state of a caller's latest `stop`. -/
inductive Call where
  | idle
  /-- inside `join` on the captured thread, with this timeout -/
  | joining (t : ℕ) (timeout : ℚ)
  | returned
  /-- raised `TimeoutError` -/
  | timedOut
  /-- raised something else -/
  | failed (e : Exn)
  deriving DecidableEq

/-- The fields of a `TelemetrySampler`, with the position of every thread that
    uses it. -/
structure Sampler (σ : Type) where
  stopEvent : Bool
  thread : Option ℕ
  /-- the number of thread objects created -/
  spawned : ℕ
  history : List (Entry σ)
  sequence : ℕ
  worker : ℕ → Worker σ
  consumer : ℕ → Consumer σ
  call : Caller → Call

/-- The steps of a worker thread. -/
inductive Move (σ : Type) where
  /-- `deadline = self._monotonic_now()` -/
  | boot
  /-- `while not self._stop_event.is_set()` -/
  | test
  /-- `collector.snapshot()` returned, and the clock was read -/
  | collected (snapshot : σ) (sampledAt : ℚ)
  /-- the locked part of `_publish` -/
  | publish
  /-- the callback is called, if there is one -/
  | call
  /-- the callback came back (an ordinary exception is absorbed by `_safe`) -/
  | ret
  /-- an exception leaves the body of the `try`, or the read of the clock before it -/
  | abort
  /-- `_stop_event.wait` returned false -/
  | timeout
  /-- `_stop_event.wait` returned true -/
  | signalled
  /-- the locked part of the `finally` clause -/
  | notify
  | die

inductive Act (σ : Type) where
  /-- the locked body of `start`; `ok` tells whether `Thread.start` would succeed -/
  | start (c : Caller) (ok : Bool)
  /-- the locked part of `stop`, with what follows when there is nothing to join -/
  | stop (c : Caller) (timeout : Seconds)
  /-- `stop` with a timeout that `_positive_seconds` does not accept -/
  | reject (c : Caller) (timeout : Obj)
  /-- `join` came back and the thread was dead, or had never been started -/
  | joined (c : Caller)
  /-- `join` came back and the thread was alive -/
  | joinTimeout (c : Caller)
  /-- `join` raised, for a timeout too long to wait for -/
  | joinOverflow (c : Caller)
  | worker (t : ℕ) (m : Move σ)
  /-- `iter(sampler)`: a new generator -/
  | iter (i : ℕ)
  /-- the locked section of `__iter__`, up to `wait`, `return` or the `for` loop -/
  | check (i : ℕ)
  /-- one turn of the `for` loop, or its end -/
  | next (i : ℕ)

/-- The default of `stop`'s `timeout`. -/
def defaultTimeout : Seconds := ⟨5, by decide⟩

/-- What the constructor and the platform fix. -/
structure SamplerConfig where
  /-- `maxlen` of the history -/
  bufferSize : ℕ
  hasCallback : Bool
  bufferSize_pos : 0 < bufferSize
  /-- `threading.TIMEOUT_MAX` -/
  timeoutMax : ℚ

namespace Sampler

variable {σ : Type} (s : Sampler σ)

/-- The state after the constructor. -/
def initial : Sampler σ where
  stopEvent := false
  thread := none
  spawned := 0
  history := []
  sequence := 0
  worker _ := .unstarted
  consumer _ := .absent
  call _ := .idle

/-- `_thread_is_alive_locked`. -/
def isAlive : Bool := s.thread.any fun t => (s.worker t).isAlive

/-- `_condition.notify_all()`. -/
def notifyAll : Sampler σ :=
  { s with
    consumer := fun i => match s.consumer i with
      | .waiting n => .woken n
      | p => p }

/-- Move thread `t` to `p`. -/
def setWorker (t : ℕ) (p : Worker σ) : Sampler σ :=
  { s with worker := Function.update s.worker t p }

def setConsumer (i : ℕ) (p : Consumer σ) : Sampler σ :=
  { s with consumer := Function.update s.consumer i p }

def setCall (c : Caller) (p : Call) : Sampler σ :=
  { s with call := Function.update s.call c p }

/-- A caller can enter `start` or `stop`: it is not inside an earlier `join`,
    and a worker calls them from its callback only. -/
def canCall (c : Caller) : Bool :=
  (match s.call c with
    | .joining _ _ => false
    | _ => true) &&
  (match c with
    | .outside _ => true
    | .worker t => match s.worker t with
      | .callback => true
      | _ => false)

/-- The body of `start`. -/
def start (ok : Bool) : Sampler σ :=
  if s.isAlive then s else
    { s with
      stopEvent := false
      thread := some s.spawned
      spawned := s.spawned + 1
      worker := if ok then Function.update s.worker s.spawned .boot else s.worker }

/-- The locked part of `stop` and, if there is nothing to join, its return. -/
def stop (c : Caller) (timeout : Seconds) : Sampler σ :=
  let s' := { s with stopEvent := true }.notifyAll
  match s.thread with
  | none => s'.setCall c .returned
  | some t =>
    if c = .worker t then s'.setCall c .returned else s'.setCall c (.joining t timeout.value)

/-- `deque.append` with a maximal length. -/
def appendBounded (maxlen : ℕ) (h : List (Entry σ)) (e : Entry σ) : List (Entry σ) :=
  (h ++ [e]).drop ((h ++ [e]).length - maxlen)

/-- The locked part of `_publish`. -/
def publish (maxlen : ℕ) (snapshot : σ) (sampledAt : ℚ) : Sampler σ :=
  { s with
    sequence := s.sequence + 1
    history := appendBounded maxlen s.history ⟨s.sequence + 1, snapshot, sampledAt⟩ }.notifyAll

/-- The entries an iterator with this `next_sequence` has not taken yet. -/
def available (next : ℕ) : List (Entry σ) :=
  s.history.filter fun e => next ≤ e.sequence

/-- The locked section of `__iter__`: take a batch, wait, or return. -/
def check (i next : ℕ) : Sampler σ :=
  if s.available next ≠ [] then s.setConsumer i (.yielding next (s.available next))
  else if s.isAlive then s.setConsumer i (.waiting next)
  else s.setConsumer i .done

/-- A step of thread `t` in `_run`. -/
def move (cfg : SamplerConfig) (t : ℕ) : Worker σ → Move σ → Option (Sampler σ)
  | .boot, .boot => some (s.setWorker t .loop)
  | .boot, .abort => some (s.setWorker t .exiting)
  | .loop, .test => some (s.setWorker t (if s.stopEvent then .leaving else .collect))
  | .collect, .collected x at' => some (s.setWorker t (.publish x at'))
  | .publish x at', .publish => some ((s.publish cfg.bufferSize x at').setWorker t (.published x))
  | .published _, .call => some (s.setWorker t (if cfg.hasCallback then .callback else .pause))
  | .callback, .ret => if s.canCall (.worker t) then some (s.setWorker t .pause) else none
  | .collect, .abort | .pause, .abort => some (s.setWorker t .leaving)
  | .callback, .abort => if s.canCall (.worker t) then some (s.setWorker t .leaving) else none
  | .pause, .timeout => some (s.setWorker t .loop)
  | .pause, .signalled => if s.stopEvent then some (s.setWorker t .leaving) else none
  | .leaving, .notify => some (s.notifyAll.setWorker t .exiting)
  | .exiting, .die => some (s.setWorker t .dead)
  | _, _ => none

/-- One atomic step. -/
def step (cfg : SamplerConfig) : Act σ → Option (Sampler σ)
  | .start c ok => if s.canCall c then some (s.start ok) else none
  | .stop c timeout => if s.canCall c then some (s.stop c timeout) else none
  | .reject c timeout => match positiveSeconds timeout with
    | .error e => if s.canCall c then some (s.setCall c (.failed e)) else none
    | .ok _ => none
  -- a timeout that is too long raises for a live thread; for a dead one, in some versions
  | .joined c => match s.call c with
    | .joining t _ => match s.worker t with
      | .dead => some (s.setCall c .returned)
      | .unstarted => some (s.setCall c (.failed ⟨"RuntimeError"⟩))
      | _ => none
    | _ => none
  | .joinTimeout c => match s.call c with
    | .joining t timeout =>
      if (s.worker t).isAlive ∧ timeout ≤ cfg.timeoutMax then some (s.setCall c .timedOut) else none
    | _ => none
  | .joinOverflow c => match s.call c with
    | .joining t timeout =>
      if (s.worker t).wasStarted ∧ cfg.timeoutMax < timeout then
        some (s.setCall c (.failed ⟨"OverflowError"⟩))
      else none
    | _ => none
  | .worker t m => s.move cfg t (s.worker t) m
  | .iter i => match s.consumer i with
    | .absent => some (s.setConsumer i (.ready 1))
    | _ => none
  | .check i => match s.consumer i with
    | .ready n | .woken n => some (s.check i n)
    | _ => none
  | .next i => match s.consumer i with
    | .yielding _ (e :: rest) => some (s.setConsumer i (.yielding (e.sequence + 1) rest))
    | .yielding n [] => some (s.setConsumer i (.ready n))
    | _ => none

end Sampler

/-- The sampler with every thread that uses it. -/
def samplerLts (σ : Type) (cfg : SamplerConfig) : Lts (Sampler σ) (Act σ) where
  init := Sampler.initial
  step s a := s.step cfg a

namespace Sampler

variable {σ : Type} {s s' : Sampler σ}

/-! ## What the operations change -/

section
variable (s)

@[simp] theorem setWorker_consumer (t : ℕ) (p : Worker σ) : (s.setWorker t p).consumer = s.consumer := rfl
@[simp] theorem setWorker_thread (t : ℕ) (p : Worker σ) : (s.setWorker t p).thread = s.thread := rfl
@[simp] theorem setWorker_stopEvent (t : ℕ) (p : Worker σ) :
    (s.setWorker t p).stopEvent = s.stopEvent := rfl
@[simp] theorem setWorker_worker (t : ℕ) (p : Worker σ) :
    (s.setWorker t p).worker = Function.update s.worker t p := rfl

@[simp] theorem setConsumer_consumer (i : ℕ) (p : Consumer σ) :
    (s.setConsumer i p).consumer = Function.update s.consumer i p := rfl
@[simp] theorem setConsumer_thread (i : ℕ) (p : Consumer σ) :
    (s.setConsumer i p).thread = s.thread := rfl
@[simp] theorem setConsumer_worker (i : ℕ) (p : Consumer σ) :
    (s.setConsumer i p).worker = s.worker := rfl
@[simp] theorem setConsumer_stopEvent (i : ℕ) (p : Consumer σ) :
    (s.setConsumer i p).stopEvent = s.stopEvent := rfl

@[simp] theorem setCall_consumer (c : Caller) (p : Call) : (s.setCall c p).consumer = s.consumer := rfl
@[simp] theorem setCall_thread (c : Caller) (p : Call) : (s.setCall c p).thread = s.thread := rfl
@[simp] theorem setCall_worker (c : Caller) (p : Call) : (s.setCall c p).worker = s.worker := rfl
@[simp] theorem setCall_stopEvent (c : Caller) (p : Call) :
    (s.setCall c p).stopEvent = s.stopEvent := rfl

@[simp] theorem notifyAll_thread : s.notifyAll.thread = s.thread := rfl
@[simp] theorem notifyAll_worker : s.notifyAll.worker = s.worker := rfl
@[simp] theorem notifyAll_stopEvent : s.notifyAll.stopEvent = s.stopEvent := rfl

@[simp] theorem publish_thread (c : ℕ) (x : σ) (a : ℚ) : (s.publish c x a).thread = s.thread := rfl
@[simp] theorem publish_worker (c : ℕ) (x : σ) (a : ℚ) : (s.publish c x a).worker = s.worker := rfl
@[simp] theorem publish_stopEvent (c : ℕ) (x : σ) (a : ℚ) :
    (s.publish c x a).stopEvent = s.stopEvent := rfl

theorem start_of_alive {ok : Bool} (h : s.isAlive = true) : s.start ok = s := if_pos h

theorem start_stopEvent {ok : Bool} (h : s.isAlive = false) : (s.start ok).stopEvent = false := by
  simp [start, h]

theorem start_consumer (ok : Bool) : (s.start ok).consumer = s.consumer := by
  unfold start; split <;> rfl

theorem stop_consumer (c : Caller) (d : Seconds) :
    (s.stop c d).consumer = s.notifyAll.consumer := by
  unfold stop; split
  · rfl
  · split <;> rfl

end

/-- Consumer `i` is blocked in `wait` and nothing has notified it. -/
def Waiting (s : Sampler σ) (i : ℕ) : Prop := ∃ n, s.consumer i = .waiting n

/-- After `notify_all` no consumer waits. -/
theorem notifyAll_not_waiting (s : Sampler σ) (i : ℕ) : ¬ s.notifyAll.Waiting i := by
  rintro ⟨n, h⟩
  simp only [notifyAll] at h
  split at h
  · cases h
  · rename_i hne; exact hne n h

theorem waiting_congr (h : s'.consumer = s.consumer) (i : ℕ) : s'.Waiting i ↔ s.Waiting i := by
  simp only [Waiting, h]

/-- A consumer that waits after its locked section found nothing to take and a
    live thread; the other consumers are as they were. -/
theorem check_waiting {i n j : ℕ} (h : (s.check i n).Waiting j) :
    (j = i ∧ s.available n = [] ∧ s.isAlive = true) ∨ s.Waiting j := by
  obtain ⟨m, hm⟩ := h
  unfold check at hm
  by_cases hj : j = i
  · subst hj
    split_ifs at hm with h1 h2
    · simp at hm
    · exact Or.inl ⟨rfl, by simpa using h1, h2⟩
    · simp at hm
  · refine Or.inr ⟨m, ?_⟩
    split_ifs at hm <;> simpa [hj] using hm

/-! ## The steps of a worker -/

/-- The control flow of `_run`: where thread `t` goes from one point, and when. -/
inductive Flow (cfg : SamplerConfig) (s : Sampler σ) (t : ℕ) : Worker σ → Move σ → Worker σ → Prop
  | boot : Flow cfg s t .boot .boot .loop
  | bootAbort : Flow cfg s t .boot .abort .exiting
  | run : s.stopEvent = false → Flow cfg s t .loop .test .collect
  | stop : s.stopEvent = true → Flow cfg s t .loop .test .leaving
  | collected {x a} : Flow cfg s t .collect (.collected x a) (.publish x a)
  | publish {x a} : Flow cfg s t (.publish x a) .publish (.published x)
  | call {x} : cfg.hasCallback = true → Flow cfg s t (.published x) .call .callback
  | noCall {x} : cfg.hasCallback = false → Flow cfg s t (.published x) .call .pause
  | ret : s.canCall (.worker t) = true → Flow cfg s t .callback .ret .pause
  | collectAbort : Flow cfg s t .collect .abort .leaving
  | pauseAbort : Flow cfg s t .pause .abort .leaving
  | callbackAbort : s.canCall (.worker t) = true → Flow cfg s t .callback .abort .leaving
  | timeout : Flow cfg s t .pause .timeout .loop
  | signalled : s.stopEvent = true → Flow cfg s t .pause .signalled .leaving
  | notify : Flow cfg s t .leaving .notify .exiting
  | die : Flow cfg s t .exiting .die .dead

/-- What a step of a worker does to the shared fields. -/
def effect (cfg : SamplerConfig) (s : Sampler σ) : Worker σ → Move σ → Sampler σ
  | .publish x a, .publish => s.publish cfg.bufferSize x a
  | _, .notify => s.notifyAll
  | _, _ => s

/-- Every step of a worker is one edge of the control flow. -/
theorem move_cases {cfg : SamplerConfig} {t : ℕ} {p : Worker σ} {m : Move σ}
    (h : s.move cfg t p m = some s') :
    ∃ q, Flow cfg s t p m q ∧ s' = (s.effect cfg p m).setWorker t q := by
  unfold move at h
  split at h
  · cases h; exact ⟨_, .boot, rfl⟩
  · cases h; exact ⟨_, .bootAbort, rfl⟩
  · cases h
    cases he : s.stopEvent with
    | true => exact ⟨_, .stop he, rfl⟩
    | false => exact ⟨_, .run he, rfl⟩
  · cases h; exact ⟨_, .collected, rfl⟩
  · cases h; exact ⟨_, .publish, rfl⟩
  · cases h
    cases hc : cfg.hasCallback with
    | true => exact ⟨_, .call hc, rfl⟩
    | false => exact ⟨_, .noCall hc, rfl⟩
  · split_ifs at h with hc; cases h; exact ⟨_, .ret hc, rfl⟩
  · cases h; exact ⟨_, .collectAbort, rfl⟩
  · cases h; exact ⟨_, .pauseAbort, rfl⟩
  · split_ifs at h with hc; cases h; exact ⟨_, .callbackAbort hc, rfl⟩
  · cases h; exact ⟨_, .timeout, rfl⟩
  · split_ifs at h with hc; cases h; exact ⟨_, .signalled hc, rfl⟩
  · cases h; exact ⟨_, .notify, rfl⟩
  · cases h; exact ⟨_, .die, rfl⟩
  · cases h

/-! ## The steps of the system -/

/-- Everything one step of the system can do. -/
inductive Stepped (cfg : SamplerConfig) (s : Sampler σ) : Act σ → Sampler σ → Prop
  | start {c ok} : s.canCall c = true → Stepped cfg s (.start c ok) (s.start ok)
  | stop {c d} : s.canCall c = true → Stepped cfg s (.stop c d) (s.stop c d)
  | reject {c o e} : s.canCall c = true → positiveSeconds o = .error e →
      Stepped cfg s (.reject c o) (s.setCall c (.failed e))
  | joined {c t d} : s.call c = .joining t d → s.worker t = .dead →
      Stepped cfg s (.joined c) (s.setCall c .returned)
  | joinFailed {c t d} : s.call c = .joining t d → s.worker t = .unstarted →
      Stepped cfg s (.joined c) (s.setCall c (.failed ⟨"RuntimeError"⟩))
  | joinTimeout {c t d} : s.call c = .joining t d → (s.worker t).isAlive = true →
      d ≤ cfg.timeoutMax → Stepped cfg s (.joinTimeout c) (s.setCall c .timedOut)
  | joinOverflow {c t d} : s.call c = .joining t d → (s.worker t).wasStarted = true →
      cfg.timeoutMax < d → Stepped cfg s (.joinOverflow c) (s.setCall c (.failed ⟨"OverflowError"⟩))
  | worker {t m q} : Flow cfg s t (s.worker t) m q →
      Stepped cfg s (.worker t m) ((s.effect cfg (s.worker t) m).setWorker t q)
  | iter {i} : s.consumer i = .absent → Stepped cfg s (.iter i) (s.setConsumer i (.ready 1))
  | check {i n} : s.consumer i = .ready n ∨ s.consumer i = .woken n →
      Stepped cfg s (.check i) (s.check i n)
  | next {i n e rest} : s.consumer i = .yielding n (e :: rest) →
      Stepped cfg s (.next i) (s.setConsumer i (.yielding (e.sequence + 1) rest))
  | again {i n} : s.consumer i = .yielding n [] →
      Stepped cfg s (.next i) (s.setConsumer i (.ready n))

theorem step_cases {cfg : SamplerConfig} {a : Act σ} (h : s.step cfg a = some s') :
    Stepped cfg s a s' := by
  cases a with
  | start c ok => simp only [step] at h; split_ifs at h with hc; cases h; exact .start hc
  | stop c d => simp only [step] at h; split_ifs at h with hc; cases h; exact .stop hc
  | reject c o =>
    simp only [step] at h
    split at h
    · rename_i e he; split_ifs at h with hc; cases h; exact .reject hc he
    · cases h
  | joined c =>
    simp only [step] at h
    split at h
    · rename_i t d hc
      split at h
      · rename_i hw; cases h; exact .joined hc hw
      · rename_i hw; cases h; exact .joinFailed hc hw
      · cases h
    · cases h
  | joinTimeout c =>
    simp only [step] at h
    split at h
    · rename_i t d hc; split_ifs at h with hw; cases h; exact .joinTimeout hc hw.1 hw.2
    · cases h
  | joinOverflow c =>
    simp only [step] at h
    split at h
    · rename_i t d hc; split_ifs at h with hw; cases h; exact .joinOverflow hc hw.1 hw.2
    · cases h
  | worker t m =>
    obtain ⟨q, hq, rfl⟩ := move_cases h; exact .worker hq
  | iter i =>
    simp only [step] at h
    split at h
    · rename_i hc; cases h; exact .iter hc
    · cases h
  | check i =>
    simp only [step] at h
    split at h
    · rename_i n hc; cases h; exact .check (Or.inl hc)
    · rename_i n hc; cases h; exact .check (Or.inr hc)
    · cases h
  | next i =>
    simp only [step] at h
    split at h
    · rename_i n e rest hc; cases h; exact .next hc
    · rename_i n hc; cases h; exact .again hc
    · cases h

end Sampler

end SweatMeter
