/-
  The sampler on top of the collector.

  A worker publishes each snapshot it collects, once and in order: nothing is lost
  or doubled between the return of `collector.snapshot()` and the ring
  (`published_once`).  `sharedLts` is the sampler together with the collector it
  calls, which other threads may call as well; every call runs under the collector's
  lock and is one step.  Its runs are runs of the sampler whose snapshots are the
  answers of one sequential session with the collector (`shared_collector`).
-/
import SweatMeter.Delivery
import SweatMeter.ProfileDiagnostics
import SweatMeter.Scripted
import SweatMeter.WellFormed

namespace SweatMeter

open Py

/-- The snapshot and the time a collector call has returned, for the label of its return. -/
def Act.collected {σ : Type} : Act σ → Option (σ × ℚ)
  | .worker _ (.collected x at') => some (x, at')
  | _ => none

namespace Sampler

variable {σ : Type} {cfg : SamplerConfig} {s s' : Sampler σ}

/-! ## From the collector to the ring -/

/-- Everything collected is published, but for the snapshot a worker is about to publish. -/
def InFlight (s : Sampler σ) (published collected : List (σ × ℚ)) : Prop :=
  (∃ t x at', s.worker t = .publish x at' ∧ collected = published ++ [(x, at')]) ∨
    (∀ t x at', s.worker t ≠ .publish x at') ∧ collected = published

/-- A step of thread `t` that neither collects nor publishes. -/
theorem InFlight.setWorker {published collected : List (σ × ℚ)} {u : Sampler σ} {t : ℕ}
    {q : Worker σ} (h : InFlight s published collected) (hu : u.worker = s.worker)
    (hp : ∀ x at', s.worker t ≠ .publish x at') (hq : ∀ x at', q ≠ .publish x at') :
    InFlight (u.setWorker t q) published collected := by
  have hiff : ∀ v x at', (u.setWorker t q).worker v = .publish x at' ↔
      s.worker v = .publish x at' := by
    intro v x at'
    rw [setWorker_worker, hu]
    by_cases heq : v = t
    · subst heq
      simp [hq x at', hp x at']
    · rw [Function.update_of_ne heq]
  simpa only [InFlight, ne_eq, hiff] using h

/-- **One step keeps at most one snapshot in flight.** -/
theorem InFlight.step {g : Log σ} {collected : List (σ × ℚ)} (hsole : s.Sole)
    (h : InFlight s g.published collected) {a : Act σ} (hs : Stepped cfg s a s') :
    InFlight s' (g.observe cfg s a).published (collected ++ a.collected.toList) := by
  by_cases ha : ∃ t m, a = .worker t m
  · obtain ⟨t, m, rfl⟩ := ha
    cases hs with
    | @worker _ _ q hf =>
      have honly : ∀ u x at', s.worker u = .publish x at' → u = t := by
        intro u x at' hu
        exact hsole.unique (by rw [hu]; rfl) hf.isAlive
      generalize hp : s.worker t = p at hf
      cases hf with
      | @collected x at' =>
        refine .inl ⟨t, x, at', by simp, ?_⟩
        rcases h with ⟨u, y, b, hu, -⟩ | ⟨-, h⟩
        · rw [honly u y b hu, hp] at hu
          cases hu
        · rw [h]
          rfl
      | @publish x at' =>
        refine .inr ⟨?_, ?_⟩
        · intro u y b hu
          by_cases heq : u = t
          · subst heq
            simp at hu
          · rw [setWorker_worker, effect_worker, Function.update_of_ne heq] at hu
            exact heq (honly u y b hu)
        · rcases h with ⟨u, y, b, hu, h⟩ | ⟨hno, -⟩
          · rw [honly u y b hu, hp] at hu
            cases hu
            simp [Log.observe, hp, h, Act.collected]
          · exact absurd hp (hno t x at')
      | call hc =>
        have hpub : (g.observe cfg s (.worker t .call)).published = g.published := by
          simp [Log.observe, hp, hc]
        rw [hpub]
        simpa [Act.collected] using h.setWorker (effect_worker _ _) (by simp [hp]) (by simp)
      | noCall hc =>
        have hpub : (g.observe cfg s (.worker t .call)).published = g.published := by
          simp [Log.observe, hp, hc]
        rw [hpub]
        simpa [Act.collected] using h.setWorker (effect_worker _ _) (by simp [hp]) (by simp)
      | _ =>
        simpa [Log.observe, Act.collected] using
          h.setWorker (effect_worker _ _) (by simp [hp]) (by simp)
  · have hne : ∀ t m, a ≠ .worker t m := fun t m heq => ha ⟨t, m, heq⟩
    have hcollected : a.collected = none := by
      cases a with
      | worker t m => exact absurd rfl (hne t m)
      | _ => rfl
    have hiff : ∀ t x at', s'.worker t = .publish x at' ↔ s.worker t = .publish x at' := by
      intro t x at'
      rcases worker_frame hsole hne hs t with hw | ⟨hw, hw'⟩
      · rw [hw]
      · simp [hw, hw']
    rw [(observe_published cfg s g hne).1, hcollected]
    simpa [InFlight, hiff] using h

theorem inFlight_initial : InFlight (initial : Sampler σ) [] [] := by
  refine .inr ⟨?_, rfl⟩
  intro t x at' h
  cases h

/-- There is one worker, and what was collected is published or in flight. -/
def Conveys (s : Sampler σ) (x : Log σ × List (σ × ℚ)) : Prop :=
  s.Sole ∧ InFlight s x.1.published x.2

/-- In every run, by the labels it has taken. -/
theorem inFlight_run {as : List (Act σ)} (h : (samplerLts σ cfg).exec initial as = some s) :
    InFlight s ((samplerLts σ cfg).record (Log.observe cfg) initial Log.empty as).published
      (as.filterMap Act.collected) := by
  have hinit : Conveys (initial : Sampler σ) (Log.empty, []) := ⟨sole_initial, inFlight_initial⟩
  have hstep : ∀ (s : Sampler σ) a s' x, Conveys s x → (samplerLts σ cfg).step s a = some s' →
      Conveys s' (x.1.observe cfg s a, x.2 ++ a.collected.toList) :=
    fun s a s' x hx hs => ⟨hx.1.step (step_cases hs), hx.2.step hx.1 (step_cases hs)⟩
  have hinv := Lts.record_inv hstep hinit h
  rw [Lts.record_prod (Log.observe cfg) (fun _ a xs => xs ++ a.collected.toList),
    Lts.record_labels Act.collected [] h] at hinv
  exact hinv.2

theorem published_prefix {published collected : List (σ × ℚ)} (h : InFlight s published collected) :
    published <+: collected ∧ collected.length ≤ published.length + 1 := by
  rcases h with ⟨t, x, at', -, rfl⟩ | ⟨-, rfl⟩
  · exact ⟨List.prefix_append _ _, by simp⟩
  · exact ⟨List.prefix_refl _, Nat.le_succ _⟩

/-- **Each snapshot collected is published once, in order.**  In every run, what has
    been published is what has been collected, with its times, but for at most one
    snapshot at the end; and all of it once no worker is alive. -/
theorem published_once (cfg : SamplerConfig) {as : List (Act σ)} {s : Sampler σ}
    (h : (samplerLts σ cfg).exec initial as = some s) :
    let log := (samplerLts σ cfg).record (Log.observe cfg) initial Log.empty as
    log.published <+: as.filterMap Act.collected ∧
    (as.filterMap Act.collected).length ≤ log.published.length + 1 ∧
    (s.isAlive = false → as.filterMap Act.collected = log.published) := by
  intro log
  have hflight := inFlight_run h
  obtain ⟨hpublished, hlen⟩ := published_prefix hflight
  refine ⟨hpublished, hlen, ?_⟩
  intro hdead
  rcases hflight with ⟨t, x, at', hw, -⟩ | ⟨-, heq⟩
  · have hsilent := silent_of_not_isAlive (sole_run h) hdead t
    rw [hw] at hsilent
    cases hsilent
  · exact heq

/-- Stopped while it collects, the worker publishes the snapshot before it dies. -/
theorem published_once_stopped :
    ∃ s, (samplerLts Bool ⟨1, false, by decide, 9223372036⟩).exec initial
        [.start (.outside 0) true, .worker 0 .boot, .worker 0 .test,
          .stop (.outside 1) defaultTimeout, .worker 0 (.collected true 3), .worker 0 .publish,
          .worker 0 .call, .worker 0 .signalled, .worker 0 .notify, .worker 0 .die] = some s ∧
      [(true, 3)] = ((samplerLts Bool ⟨1, false, by decide, 9223372036⟩).record
        (Log.observe ⟨1, false, by decide, 9223372036⟩) initial Log.empty
        [.start (.outside 0) true, .worker 0 .boot, .worker 0 .test,
          .stop (.outside 1) defaultTimeout, .worker 0 (.collected true 3), .worker 0 .publish,
          .worker 0 .call, .worker 0 .signalled, .worker 0 .notify, .worker 0 .die]).published := by
  obtain ⟨s, hs, hdead⟩ : ∃ s, (samplerLts Bool ⟨1, false, by simp, 9223372036⟩).exec initial
        [.start (.outside 0) true, .worker 0 .boot, .worker 0 .test,
          .stop (.outside 1) defaultTimeout, .worker 0 (.collected true 3), .worker 0 .publish,
          .worker 0 .call, .worker 0 .signalled, .worker 0 .notify, .worker 0 .die] = some s ∧ s.isAlive = false := ⟨_, rfl, rfl⟩
  exact ⟨s, hs, (published_once _ hs).2.2 hdead⟩

/-! ## What consumers see -/

/-- Some consumer can have seen this snapshot. -/
def Seen (s : Sampler σ) (g : Log σ) (x : σ) : Prop :=
  s.latest = some x ∨ x ∈ s.buffered ∨ x ∈ g.called ∨ ∃ i, ∃ y ∈ g.yielded i, y.1.snapshot = x

theorem called_eq_nil (hcb : cfg.hasCallback = false) {as : List (Act σ)}
    (h : (samplerLts σ cfg).exec initial as = some s) :
    ((samplerLts σ cfg).record (Log.observe cfg) initial Log.empty as).called = [] := by
  refine Lts.record_inv (P := fun (_ : Sampler σ) (g : Log σ) => g.called = []) ?_ rfl h
  intro s a s' g hg _
  by_cases ha : ∃ t m, a = .worker t m
  · obtain ⟨t, m, rfl⟩ := ha
    cases m with
    | publish => simp only [Log.observe]; split <;> exact hg
    | call =>
      simp only [Log.observe, hcb, Bool.false_eq_true, ↓reduceIte]
      split <;> exact hg
    | _ => exact hg
  · exact (observe_published cfg s g fun t m heq => ha ⟨t, m, heq⟩).2.trans hg

/-- Consumers see what has been published. -/
theorem mem_published_of_seen {as : List (Act σ)} (h : (samplerLts σ cfg).exec initial as = some s)
    {x : σ} (hx : s.Seen ((samplerLts σ cfg).record (Log.observe cfg) initial Log.empty as) x) :
    x ∈ ((samplerLts σ cfg).record (Log.observe cfg) initial Log.empty as).published.map
      Prod.fst := by
  have htracks : Tracks cfg s ((samplerLts σ cfg).record (Log.observe cfg) initial Log.empty as) :=
    Lts.record_inv (P := Tracks cfg) (fun _ _ _ _ hT hs => hT.step (step_cases hs))
      tracks_initial h
  have hdelivery := htracks.delivery
  have hbuffered : x ∈ s.buffered → x ∈ ((samplerLts σ cfg).record (Log.observe cfg) initial
      Log.empty as).published.map Prod.fst := by
    intro hx
    rw [hdelivery.buffered] at hx
    exact List.mem_of_mem_drop hx
  rcases hx with hx | hx | hx | ⟨i, y, hy, rfl⟩
  · rw [hdelivery.latest.1] at hx
    exact hbuffered (List.mem_of_getLast? hx)
  · exact hbuffered hx
  · cases hcb : cfg.hasCallback with
    | true => exact (hdelivery.called hcb).1.subset hx
    | false => rw [called_eq_nil hcb h] at hx; cases hx
  · rw [← map_snapshot_numbered]
    exact List.mem_map_of_mem (hdelivery.genuine i y hy)

end Sampler

/-! ## Together with the collector -/

section Shared

variable {τ F : Type}

/-- A sampler, and the collector that it shares with other callers. -/
structure SharedSampler (τ : Type) where
  sampler : Sampler (TelemetrySnapshot Number)
  session : Session τ

inductive SharedAct where
  /-- thread `t` returns from `collector.snapshot()` and reads its clock -/
  | collect (t : ℕ) (clocks : Clocks) (sampledAt : ℚ)
  /-- any other step of the sampler -/
  | sampler (a : Act (TelemetrySnapshot Number))
  /-- another thread calls the collector -/
  | call (c : CollectorCall)

variable (host : HostReaderObject τ) (gpu : GpuReaderObject τ) (core : BaseAiCore F)

def SharedSampler.step (cfg : SamplerConfig) (s : SharedSampler τ) :
    SharedAct → Option (SharedSampler τ)
  | .collect t clocks sampledAt =>
    let (x, session) := s.session.snapshot host gpu clocks
    (s.sampler.step cfg (.worker t (.collected x sampledAt))).map fun sampler => ⟨sampler, session⟩
  | .sampler a =>
    if a.collected.isSome then none
    else (s.sampler.step cfg a).map fun sampler => { s with sampler }
  | .call c => some { s with session := (s.session.call host gpu core c).2 }

/-- The sampler with its collector, in a session that starts as `t`. -/
def sharedLts (cfg : SamplerConfig) (t : Session τ) : Lts (SharedSampler τ) SharedAct where
  init := ⟨.initial, t⟩
  step s a := s.step host gpu core cfg a

/-- The steps of the sampler and the calls of the collector in a run. -/
structure SharedLog where
  acts : List (Act (TelemetrySnapshot Number)) := []
  calls : List CollectorCall := []

def SharedLog.observe (s : SharedSampler τ) (a : SharedAct) (log : SharedLog) : SharedLog :=
  match a with
  | .collect t clocks sampledAt =>
    { acts := log.acts ++ [.worker t (.collected (s.session.snapshot host gpu clocks).1 sampledAt)]
      calls := log.calls ++ [.snapshot clocks] }
  | .sampler a => { log with acts := log.acts ++ [a] }
  | .call c => { log with calls := log.calls ++ [c] }

/-! ## One session -/

/-- The session after these calls. -/
def Session.after (t : Session τ) : List CollectorCall → Session τ
  | [] => t
  | c :: cs => Session.after (t.call host gpu core c).2 cs

theorem Session.after_snoc (t : Session τ) (cs : List CollectorCall) (c : CollectorCall) :
    t.after host gpu core (cs ++ [c]) = ((t.after host gpu core cs).call host gpu core c).2 := by
  induction cs generalizing t with
  | nil => rfl
  | cons d cs ih => exact ih (t.call host gpu core d).2

theorem Session.run_snoc (t : Session τ) (cs : List CollectorCall) (c : CollectorCall) :
    t.run host gpu core (cs ++ [c]) = t.run host gpu core cs ++
      [(((t.after host gpu core cs).call host gpu core c).1,
        ((t.after host gpu core cs).call host gpu core c).2.collector.unavailableReasons)] := by
  induction cs generalizing t with
  | nil => rfl
  | cons d cs ih => exact congrArg (List.cons _) (ih (t.call host gpu core d).2)

theorem wellFormed_snapshot (t : Session τ) (clocks : Clocks) :
    WellFormed (t.snapshot host gpu clocks).1 := by
  rw [Session.snapshot_fst, TelemetryCollector.snapshot]
  cases h : collect (observe host gpu clocks t.state).1 with
  | ok x => exact (collect_ok h).wellFormed
  | error e => exact emergencySnapshot_wellFormed _

theorem wellFormed_snapshots (t : Session τ) (cs : List CollectorCall) :
    ∀ x ∈ snapshots (t.run host gpu core cs), WellFormed x := by
  intro x hx
  obtain ⟨u, clocks, rfl⟩ := exists_of_mem_snapshots host gpu core hx
  exact wellFormed_snapshot host gpu u clocks

/-! ## The sampler in the session -/

/-- The run of the shared sampler, as one of the sampler and one session with the collector. -/
structure Refines (cfg : SamplerConfig) (t : Session τ) (s : SharedSampler τ) (log : SharedLog) :
    Prop where
  sampler : (samplerLts _ cfg).exec .initial log.acts = some s.sampler
  session : s.session = t.after host gpu core log.calls
  collected : ((log.acts.filterMap Act.collected).map Prod.fst).Sublist
    (snapshots (t.run host gpu core log.calls))

theorem refines_initial (cfg : SamplerConfig) (t : Session τ) :
    Refines host gpu core cfg t ⟨.initial, t⟩ {} :=
  ⟨rfl, rfl, List.Sublist.refl _⟩

/-- **One step of the shared sampler is a step of the sampler, or a call, or both.** -/
theorem Refines.step {cfg : SamplerConfig} {t : Session τ} {s s' : SharedSampler τ} {a : SharedAct}
    {log : SharedLog} (h : Refines host gpu core cfg t s log)
    (hs : (sharedLts host gpu core cfg t).step s a = some s') :
    Refines host gpu core cfg t s' (log.observe host gpu s a) := by
  obtain ⟨hsampler, hsession, hcollected⟩ := h
  cases a with
  | collect u clocks sampledAt =>
    obtain ⟨sampler, hstep, rfl⟩ := Option.map_eq_some_iff.1 hs
    constructor
    · exact Lts.exec_snoc_eq.2 ⟨_, hsampler, hstep⟩
    · rw [SharedLog.observe, Session.after_snoc, ← hsession]
      rfl
    · rw [SharedLog.observe, Session.run_snoc, ← hsession]
      simp only [List.filterMap_append, List.map_append, snapshots]
      exact hcollected.append (List.Sublist.refl _)
  | sampler a =>
    simp only [sharedLts, SharedSampler.step] at hs
    split_ifs at hs with hcollect
    obtain ⟨sampler, hstep, rfl⟩ := Option.map_eq_some_iff.1 hs
    refine ⟨Lts.exec_snoc_eq.2 ⟨_, hsampler, hstep⟩, hsession, ?_⟩
    have hnone : a.collected = none := by simpa using hcollect
    simpa [SharedLog.observe, List.filterMap_append, hnone] using hcollected
  | call c =>
    cases hs
    refine ⟨hsampler, ?_, ?_⟩
    · rw [SharedLog.observe, Session.after_snoc, ← hsession]
    · rw [SharedLog.observe, Session.run_snoc, snapshots, List.filterMap_append]
      exact hcollected.trans (List.sublist_append_left _ _)

theorem refines_run (cfg : SamplerConfig) (t : Session τ) {as : List SharedAct}
    {s : SharedSampler τ} (h : (sharedLts host gpu core cfg t).exec ⟨.initial, t⟩ as = some s) :
    Refines host gpu core cfg t s ((sharedLts host gpu core cfg t).record
      (SharedLog.observe host gpu) ⟨.initial, t⟩ {} as) :=
  Lts.record_inv (P := Refines host gpu core cfg t)
    (fun _ _ _ _ hr hs => hr.step host gpu core hs) (refines_initial host gpu core cfg t) h

section

variable {host gpu core} {cfg : SamplerConfig} {t : Session τ} {s : SharedSampler τ}
  {log : SharedLog}

theorem Refines.published (h : Refines host gpu core cfg t s log) :
    (((samplerLts _ cfg).record (Log.observe cfg) .initial Log.empty log.acts).published.map
      Prod.fst).Sublist (snapshots (t.run host gpu core log.calls)) := by
  have hpublished := (Sampler.published_prefix (Sampler.inFlight_run h.sampler)).1
  exact (hpublished.map Prod.fst).sublist.trans h.collected

/-- What a consumer sees is an answer of the session. -/
theorem Refines.mem_snapshots (h : Refines host gpu core cfg t s log)
    {x : TelemetrySnapshot Number}
    (hx : s.sampler.Seen
      ((samplerLts _ cfg).record (Log.observe cfg) .initial Log.empty log.acts) x) :
    x ∈ snapshots (t.run host gpu core log.calls) :=
  h.published.subset (Sampler.mem_published_of_seen h.sampler hx)

end

/-- **The sampler and its collector, shared with other callers.**  A run is one of the
    sampler on its own, and one sequential session with the collector; the snapshots that
    are published are answers of that session, in its order and each once; and whatever a
    consumer sees, by any way, is one of them and well formed. -/
theorem shared_collector (cfg : SamplerConfig) (t : Session τ) {as : List SharedAct}
    {s : SharedSampler τ} (h : (sharedLts host gpu core cfg t).exec ⟨.initial, t⟩ as = some s) :
    let log := (sharedLts host gpu core cfg t).record (SharedLog.observe host gpu)
      ⟨.initial, t⟩ {} as
    let delivered := (samplerLts _ cfg).record (Log.observe cfg) .initial Log.empty log.acts
    (samplerLts _ cfg).exec .initial log.acts = some s.sampler ∧
    s.session = t.after host gpu core log.calls ∧
    (delivered.published.map Prod.fst).Sublist (snapshots (t.run host gpu core log.calls)) ∧
    ∀ x, s.sampler.Seen delivered x →
      x ∈ snapshots (t.run host gpu core log.calls) ∧ WellFormed x := by
  intro log delivered
  have hrefines := refines_run host gpu core cfg t h
  have hsublist := hrefines.published
  refine ⟨hrefines.sampler, hrefines.session, hsublist, fun x hx => ?_⟩
  have hmem := hrefines.mem_snapshots hx
  exact ⟨hmem, wellFormed_snapshots host gpu core t log.calls x hmem⟩

/-- Another thread takes the first sample of a script, and the sampler publishes the second. -/
theorem shared_collector_contended :
    ∃ s, (sharedLts (ScriptedHostReader.reader [{}, {}])
        (ScriptedGpuReader.reader accepting [[], []]) accepting
        ⟨1, false, by decide, 9223372036⟩ { state := ({} : Cursors) }).exec
        ⟨.initial, { state := {} }⟩
        [.sampler (.start (.outside 0) true), .sampler (.worker 0 .boot),
          .sampler (.worker 0 .test), .call (.snapshot silentHost.clocks),
          .collect 0 silentHost.clocks 3, .sampler (.worker 0 .publish)] = some s ∧
      ∃ x, s.sampler.latest = some x ∧ WellFormed x := by
  obtain ⟨s, x, hs, hx⟩ : ∃ s x, (sharedLts (ScriptedHostReader.reader [{}, {}])
        (ScriptedGpuReader.reader accepting [[], []]) accepting
        ⟨1, false, by simp, 9223372036⟩ { state := ({} : Cursors) }).exec
        ⟨.initial, { state := {} }⟩
        [.sampler (.start (.outside 0) true), .sampler (.worker 0 .boot),
          .sampler (.worker 0 .test), .call (.snapshot silentHost.clocks),
          .collect 0 silentHost.clocks 3, .sampler (.worker 0 .publish)] = some s ∧
        s.sampler.latest = some x := ⟨_, _, rfl, rfl⟩
  exact ⟨s, hs, x, hx, ((shared_collector _ _ _ _ _ hs).2.2.2 x (.inl hx)).2⟩

end Shared

end SweatMeter
