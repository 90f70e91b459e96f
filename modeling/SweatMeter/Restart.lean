/-
  Restarting the sampler.

  `start` decides by the liveness of the thread and clears `_stop_event` only
  when it creates a new one, while a worker that was told to stop lives on
  until its collector call or its callback ends.  A `start` in that time
  returns normally and leaves the request in force: `start_stop_pending`.
  `start_clears_stop` says when a stop request does not survive a later `start`.
-/
import SweatMeter.Sampler

namespace SweatMeter

/-- The label is the locked section of a `start` or of a `stop`. -/
def Act.isControl {σ : Type} : Act σ → Bool
  | .start _ _ | .stop _ _ => true
  | _ => false

namespace Sampler

variable {σ : Type} {cfg : SamplerConfig} {s s' : Sampler σ}

/-- `start` returns normally from this state: it finds a live thread, or
    `Thread.start` succeeds. -/
def startReturns (s : Sampler σ) (ok : Bool) : Bool := s.isAlive || ok

theorem effect_stopEvent (p : Worker σ) (m : Move σ) :
    (s.effect cfg p m).stopEvent = s.stopEvent := by
  unfold effect; split <;> rfl

/-- Only `start` and `stop` change the stop event. -/
theorem stopEvent_step {a : Act σ} (ha : a.isControl = false) (h : s.step cfg a = some s') :
    s'.stopEvent = s.stopEvent := by
  cases step_cases h with
  | start _ => cases ha
  | stop _ => cases ha
  | worker _ => exact effect_stopEvent _ _
  | check _ => unfold check; split_ifs <;> rfl
  | _ => rfl

/-- After `start` the stop event is clear, unless the thread was alive and the
    event set before. -/
theorem start_stopEvent_iff (s : Sampler σ) (ok : Bool) :
    (s.start ok).stopEvent = false ↔ (s.isAlive = true → s.stopEvent = false) := by
  cases ha : s.isAlive with
  | true => rw [start_of_alive s ha]; simp
  | false => simp [start_stopEvent s ha]

/-- **When a stop request does not survive a later `start`.**  In every run, as
    long as a `start` is the latest of the calls to have run its locked section,
    the stop event is clear exactly if that `start` found no live thread or
    found the event clear; whether `Thread.start` succeeded does not matter. -/
theorem start_clears_stop (cfg : SamplerConfig) {pre post : List (Act σ)} {c : Caller} {ok : Bool}
    {s : Sampler σ} (hpost : ∀ a ∈ post, a.isControl = false)
    (h : (samplerLts σ cfg).exec initial (pre ++ .start c ok :: post) = some s) :
    ∃ s₀, (samplerLts σ cfg).exec initial pre = some s₀ ∧
      (s.stopEvent = false ↔ (s₀.isAlive = true → s₀.stopEvent = false)) := by
  obtain ⟨s₀, h₀, h⟩ := Lts.exec_append_eq.1 h
  obtain ⟨u, hu, h⟩ := Lts.exec_cons_eq.1 h
  have hconst : s.stopEvent = u.stopEvent :=
    Lts.const_of_step (f := fun s : Sampler σ => s.stopEvent)
      (fun _ _ _ ha hs => stopEvent_step ha hs) hpost h
  cases step_cases (show s₀.step cfg (.start c ok) = some u from hu)
  exact ⟨s₀, h₀, by rw [hconst, start_stopEvent_iff]⟩

/-- A worker blocked in the collector is told to stop and the `stop` times out. -/
def stopTimedOut : List (Act Unit) :=
  [.start (.outside 0) true, .worker 0 .boot, .worker 0 .test, .stop (.outside 0) defaultTimeout,
    .joinTimeout (.outside 0)]

/-- Restarted after the worker died, the sampler has no stop request pending. -/
theorem start_clears_stop_joined :
    ∃ s, (samplerLts Unit ⟨1, false, by decide, 9223372036⟩).exec initial
      ((stopTimedOut ++ [.worker 0 .abort, .worker 0 .notify, .worker 0 .die]) ++
        .start (.outside 0) true :: [.worker 1 .boot]) = some s ∧ s.stopEvent = false := by
  obtain ⟨s, h⟩ : ∃ s, (samplerLts Unit ⟨1, false, by decide, 9223372036⟩).exec initial
      ((stopTimedOut ++ [.worker 0 .abort, .worker 0 .notify, .worker 0 .die]) ++
        .start (.outside 0) true :: [.worker 1 .boot]) = some s := ⟨_, rfl⟩
  obtain ⟨s₀, h₀, hiff⟩ := start_clears_stop _ (by simp [Act.isControl]) h
  cases h₀
  exact ⟨s, h, hiff.2 (by decide)⟩

/-- Restarted while the worker is still in the collector, the sampler keeps the
    stop request although `start` returned normally. -/
theorem start_stop_pending :
    ∃ s₀ s, (samplerLts Unit ⟨1, false, by decide, 9223372036⟩).exec initial stopTimedOut = some s₀ ∧
      s₀.startReturns true = true ∧
      (samplerLts Unit ⟨1, false, by decide, 9223372036⟩).step s₀ (.start (.outside 0) true) = some s ∧
      s.stopEvent = true :=
  ⟨_, _, rfl, by decide, rfl, by decide⟩

end Sampler

end SweatMeter
