/-
  How a sampler goes on.

  Unless it is told to stop, a worker in its loop comes back to `_publish` in six of its
  steps: `stepsToPublish` counts them down, and a publication sets it back.  Nothing that
  other threads do keeps it from its next step, and each publication wakes whoever waits
  (`sampling_goes_on`).
-/
import SweatMeter.Draining
import SweatMeter.Shutdown

namespace SweatMeter

/-- The worker is in the loop of `_run`, or before it. -/
def Worker.isSampling {σ : Type} : Worker σ → Bool
  | .unstarted | .leaving | .exiting | .dead => false
  | _ => true

/-- The steps of `_run` up to the end of the next publication, at most. -/
def Worker.stepsToPublish {σ : Type} : Worker σ → ℕ
  | .published _ => 6
  | .callback => 5
  | .boot | .pause => 4
  | .loop => 3
  | .collect => 2
  | .publish _ _ => 1
  | _ => 0

/-- The label asks the sampler to stop, or takes thread `t` out of its loop by an exception. -/
def Act.interrupts {σ : Type} (t : ℕ) : Act σ → Bool
  | .stop _ _ => true
  | .worker u .abort => u = t
  | _ => false

namespace Sampler

variable {σ : Type} {cfg : SamplerConfig} {s s' : Sampler σ} {t : ℕ}

/-- Thread `t` samples, and is not told to stop. -/
structure Sampling (t : ℕ) (s : Sampler σ) : Prop where
  inLoop : (s.worker t).isSampling = true
  running : s.stopEvent = false

/-- The same in a state that is reached. -/
structure Going (t : ℕ) (s : Sampler σ) : Prop extends Sampling t s where
  sole : s.Sole
  unjoined : s.Unjoined

theorem isAlive_of_isSampling {p : Worker σ} (h : p.isSampling = true) : p.isAlive = true := by
  cases p <;> first | rfl | cases h

/-! ## One step -/

/-- What a step of any party does to the way to the next publication of thread `t`. -/
structure Advances (t : ℕ) (s s' : Sampler σ) (a : Act σ) : Prop where
  steps : (s'.worker t).stepsToPublish + (if a.isStepOf t then 1 else 0) ≤
    (s.worker t).stepsToPublish + if a.isPublishOf t then 6 else 0
  sequence : s'.sequence = s.sequence + if a.isPublishOf t then 1 else 0

/-- Other parties leave a worker in its loop as it is. -/
theorem Going.frame (h : Going t s) {a : Act σ} (hstep : a.isStepOf t = false)
    (ha : a.interrupts t = false) (hs : Stepped cfg s a s') :
    s'.worker t = s.worker t ∧ s'.stopEvent = false ∧ s'.sequence = s.sequence := by
  have halive := isAlive_of_isSampling h.inLoop
  have hcurrent : s.isAlive = true := by
    rw [Sampler.isAlive, h.sole.current t halive]
    exact halive
  cases hs with
  | @start c ok _ => rw [start_of_alive s hcurrent]; exact ⟨rfl, h.running, rfl⟩
  | stop _ => cases ha
  | @worker u m q hf =>
    have hu : u ≠ t := by simpa [Act.isStepOf] using hstep
    exact absurd (h.sole.unique hf.isAlive halive) hu
  | @check i n _ =>
    unfold check
    split_ifs <;> exact ⟨rfl, h.running, rfl⟩
  | _ => exact ⟨rfl, h.running, rfl⟩

/-- Its own steps lead a worker round its loop. -/
theorem Flow.advances {p q : Worker σ} {m : Move σ} (h : Flow cfg s t p m q)
    (hp : p.isSampling = true) (hrunning : s.stopEvent = false) (hm : m ≠ .abort) :
    q.isSampling = true ∧
    q.stepsToPublish + 1 ≤ p.stepsToPublish + (if (Act.worker t m).isPublishOf t then 6 else 0) ∧
    ((s.effect cfg p m).setWorker t q).sequence =
      s.sequence + if (Act.worker t m).isPublishOf t then 1 else 0 := by
  cases h with
  | stop hstop | signalled hstop => rw [hrunning] at hstop; cases hstop
  | bootAbort | collectAbort | pauseAbort | callbackAbort => exact absurd rfl hm
  | notify | die => cases hp
  | publish =>
    refine ⟨rfl, by simp [Worker.stepsToPublish, Act.isPublishOf], ?_⟩
    simp [effect, Sampler.publish, notifyAll, setWorker, Act.isPublishOf]
  | _ => exact ⟨rfl, by simp [Worker.stepsToPublish, Act.isPublishOf], rfl⟩

/-- **A worker that is not told to stop stays in its loop.** -/
theorem Going.step (h : Going t s) {a : Act σ} (ha : a.interrupts t = false)
    (hs : Stepped cfg s a s') : Going t s' ∧ Advances t s s' a := by
  have hsole := h.sole.step hs
  have hunjoined := h.unjoined.step h.sole hs
  cases hstep : a.isStepOf t with
  | false =>
    have hpublish : a.isPublishOf t = false := by
      cases a with
      | worker u m => cases m <;> first | rfl | exact hstep
      | _ => rfl
    obtain ⟨hw, hrunning, hsequence⟩ := h.frame hstep ha hs
    refine ⟨⟨⟨hw ▸ h.inLoop, hrunning⟩, hsole, hunjoined⟩, ?_, ?_⟩
    · simp [hw, hstep, hpublish]
    · simp [hsequence, hpublish]
  | true =>
    cases hs with
    | @worker u m q hf =>
      obtain rfl : u = t := by simpa [Act.isStepOf] using hstep
      have hm : m ≠ .abort := by
        rintro rfl
        simp [Act.interrupts] at ha
      obtain ⟨hloop, hsteps, hsequence⟩ := hf.advances h.inLoop h.running hm
      have hw : ((s.effect cfg (s.worker u) m).setWorker u q).worker u = q :=
        Function.update_self _ _ _
      refine ⟨⟨⟨by rw [hw]; exact hloop, ?_⟩, hsole, hunjoined⟩, ?_, hsequence⟩
      · exact (effect_stopEvent _ _).trans h.running
      · rw [hw, hstep, if_pos rfl]
        exact hsteps
    | _ => cases hstep

theorem Going.isAlive (h : Going t s) : s.isAlive = true := by
  have halive := isAlive_of_isSampling h.inLoop
  rw [Sampler.isAlive, h.sole.current t halive]
  exact halive

theorem Going.one_le (h : Going t s) : 1 ≤ (s.worker t).stepsToPublish := by
  have hloop := h.inLoop
  cases hw : s.worker t <;> simp_all [Worker.isSampling, Worker.stepsToPublish]

theorem stepsToPublish_le (p : Worker σ) : p.stepsToPublish ≤ 6 := by
  cases p <;> simp [Worker.stepsToPublish]

/-- No iterator comes to its end while a worker is alive. -/
theorem not_done_step (halive : s.isAlive = true) {a : Act σ} (hs : Stepped cfg s a s') {i : ℕ}
    (hi : s.consumer i ≠ .done) : s'.consumer i ≠ .done := by
  intro hdone
  have hturn := turn_step (g := Log.empty) hs i
  generalize hr : reader s' (Log.empty.observe cfg s a) i = r at hturn
  have hposition : r.position = .done := by rw [← hr]; exact hdone
  cases hturn with
  | rest => exact hi hposition
  | finish _ _ hdead => rw [halive] at hdead; cases hdead
  | _ => cases hposition

/-! ## The next publication -/

/-- A worker in its loop that is not about to publish can go on to it. -/
theorem Going.exists_step (h : Going t s) (cfg : SamplerConfig) (x : σ)
    (hleft : (s.worker t).stepsToPublish - 1 ≠ 0) :
    ∃ m s', s.step cfg (.worker t m) = some s' ∧ Going t s' ∧
      s'.sequence = s.sequence ∧ s'.consumer = s.consumer ∧
      (s'.worker t).stepsToPublish < (s.worker t).stepsToPublish := by
  have hcall : s.worker t = .callback → s.canCall (.worker t) = true := by
    intro hw
    have hjoin := h.unjoined t
    cases hc : s.call (.worker t) <;> simp_all [canCall]
  have hmove : ∃ m q, m ≠ .publish ∧ m ≠ .abort ∧
      s.move cfg t (s.worker t) m = some (s.setWorker t q) := by
    have hloop := h.inLoop
    cases hw : s.worker t with
    | boot => exact ⟨.boot, .loop, by simp, by simp, rfl⟩
    | loop => exact ⟨.test, if s.stopEvent then .leaving else .collect, by simp, by simp, rfl⟩
    | collect => exact ⟨.collected x 0, .publish x 0, by simp, by simp, rfl⟩
    | publish y a => simp [hw, Worker.stepsToPublish] at hleft
    | published y => exact ⟨.call, if cfg.hasCallback then .callback else .pause, by simp, by simp, rfl⟩
    | callback => exact ⟨.ret, .pause, by simp, by simp, by simp [move, hcall hw]⟩
    | pause => exact ⟨.timeout, .loop, by simp, by simp, rfl⟩
    | _ => rw [hw] at hloop; cases hloop
  obtain ⟨m, q, hpublish, habort, hmove⟩ := hmove
  have hstep : s.step cfg (.worker t m) = some (s.setWorker t q) := hmove
  have hgo : (Act.worker t m).interrupts t = false := by cases m <;> simp_all [Act.interrupts]
  have hnot : (Act.worker t m).isPublishOf t = false := by cases m <;> simp_all [Act.isPublishOf]
  obtain ⟨hgoing, hadvances⟩ := h.step hgo (step_cases hstep)
  have hsteps := hadvances.steps
  rw [hnot] at hsteps
  simp only [Act.isStepOf, decide_true, if_true, Bool.false_eq_true, if_false] at hsteps
  exact ⟨m, _, hstep, hgoing, rfl, rfl, by omega⟩

/-- Its own steps bring a worker to the end of its next publication. -/
theorem Going.exists_publication (h : Going t s) (cfg : SamplerConfig) (x : σ) :
    ∃ rest s', (∀ a ∈ rest, a.isStepOf t = true) ∧ rest.length ≤ (s.worker t).stepsToPublish ∧
      (samplerLts σ cfg).exec s rest = some s' ∧ Going t s' ∧ s'.sequence = s.sequence + 1 ∧
      ∀ i, s'.consumer i = s.notifyAll.consumer i := by
  obtain ⟨rest, u, hrest, hlen, hexec, ⟨hu, hsequence, hconsumer⟩, hzero⟩ :=
    Lts.exists_run_of_measure (L := samplerLts σ cfg)
      (P := fun v : Sampler σ => Going t v ∧ v.sequence = s.sequence ∧ v.consumer = s.consumer)
      (μ := fun v : Sampler σ => (v.worker t).stepsToPublish - 1)
      (Q := fun a => a.isStepOf t = true) (by
        rintro v ⟨hv, hsequence, hconsumer⟩ hleft
        obtain ⟨m, v', hstep, hv', hsequence', hconsumer', hlt⟩ := hv.exists_step cfg x hleft
        refine ⟨.worker t m, v', by simp [Act.isStepOf], hstep,
          ⟨hv', hsequence'.trans hsequence, hconsumer'.trans hconsumer⟩, ?_⟩
        omega) ⟨h, rfl, rfl⟩
  have hpos := h.one_le
  obtain ⟨y, at', hw⟩ : ∃ y at', u.worker t = .publish y at' := by
    have hloop := hu.inLoop
    cases hw : u.worker t <;> simp_all [Worker.isSampling, Worker.stepsToPublish]
  have hstep : u.step cfg (.worker t .publish) =
      some ((u.publish cfg.bufferSize y at').setWorker t (.published y)) := by
    simp [Sampler.step, hw, move]
  obtain ⟨hgoing, -⟩ := hu.step (by simp [Act.interrupts]) (step_cases hstep)
  have hexec' : (samplerLts σ cfg).exec s (rest ++ [.worker t .publish]) = some _ :=
    Lts.exec_snoc_eq.2 ⟨u, hexec, hstep⟩
  refine ⟨rest ++ [.worker t .publish], _, ?_, ?_, hexec', hgoing, ?_, ?_⟩
  · intro a ha
    rcases List.mem_append.1 ha with ha | ha
    · exact hrest a ha
    · rw [List.mem_singleton.1 ha]
      simp [Act.isStepOf]
  · rw [List.length_append, List.length_singleton]
    omega
  · show u.sequence + 1 = _
    rw [hsequence]
  · intro i
    simp only [setWorker, Sampler.publish, notifyAll, hconsumer]

/-- The cursor of a waiting iterator is at most at the next snapshot. -/
theorem Tracks.cursor_le (h : Tracks cfg s g) {i n : ℕ} (hi : s.consumer i = .waiting n) :
    1 ≤ n ∧ n ≤ s.sequence + 1 := by
  have hposition := (h.reader i).position
  rw [show (Sampler.reader s g i).position = .waiting n from hi] at hposition
  have hlast : lastSequence (Sampler.reader s g i).yielded ≤ s.sequence := by
    rcases List.eq_nil_or_concat (Sampler.reader s g i).yielded with hnil | ⟨ys, y, hys⟩
    · rw [hnil]
      exact Nat.zero_le _
    · have hy := (h.reader i).genuine y (by simp [hys])
      have hnumber : y.1.sequence ∈ List.range' 1 g.published.length := by
        rw [← map_sequence_numbered]
        exact List.mem_map_of_mem hy
      rw [List.mem_range'_1] at hnumber
      rw [hys, List.concat_eq_append, lastSequence_snoc, h.ring.sequence]
      omega
  omega

/-- **A sampler goes on.**  As long as nobody stops it and no exception ends its loop, a
    worker stays the current one, and one at least of every six of its steps is the
    publication of a snapshot, each under the next number; no iterator comes to its end.
    Whatever state that leads to, with whichever threads in the middle of what, the
    worker's own steps reach the next publication, and every iterator that waits is woken by
    it and finds something to take. -/
theorem sampling_goes_on (cfg : SamplerConfig) {pre post : List (Act σ)} {s u : Sampler σ}
    (h : (samplerLts σ cfg).exec initial pre = some s) (hs : Sampling t s)
    (hpost : (samplerLts σ cfg).exec s post = some u)
    (hgo : ∀ a ∈ post, a.interrupts t = false) (x : σ) :
    Sampling t u ∧ u.thread = some t ∧
    u.sequence = s.sequence + post.countP (Act.isPublishOf t) ∧
    (∀ i, s.consumer i ≠ .done → u.consumer i ≠ .done) ∧
    ∃ rest v, (∀ a ∈ rest, a.isStepOf t = true) ∧
      post.countP (Act.isStepOf t) + rest.length ≤ 6 * (post.countP (Act.isPublishOf t) + 1) ∧
      (samplerLts σ cfg).exec u rest = some v ∧ Sampling t v ∧ v.sequence = u.sequence + 1 ∧
      ∀ i n, u.consumer i = .waiting n →
        ∃ w, (samplerLts σ cfg).step v (.check i) = some w ∧
          w.consumer i = .yielding n (v.available n) ∧ v.available n ≠ [] := by
  have hgoing : Going t s := ⟨hs, sole_run h, unjoined_run h⟩
  have hu : Going t u := Lts.inv_of_labels (P := Going t) (Q := fun a => a.interrupts t = false)
    (fun _ _ _ ha hv hstep => (hv.step ha (step_cases hstep)).1) hgo hgoing hpost
  have hsequence := Lts.eq_add_count (P := Going t) (Q := fun a => a.interrupts t = false)
    (μ := Sampler.sequence) (c := Act.isPublishOf t) (fun _ _ _ ha hv hstep =>
      ⟨(hv.step ha (step_cases hstep)).1, (hv.step ha (step_cases hstep)).2.sequence⟩)
    hgo hgoing hpost
  have hpace := Lts.count_le_of_refills (P := Going t) (Q := fun a => a.interrupts t = false)
    (μ := fun v : Sampler σ => (v.worker t).stepsToPublish) (c := Act.isStepOf t)
    (d := Act.isPublishOf t) (k := 6) (fun _ _ _ ha hv hstep =>
      ⟨(hv.step ha (step_cases hstep)).1, (hv.step ha (step_cases hstep)).2.steps⟩)
    hgo hgoing hpost
  refine ⟨hu.toSampling, hu.sole.current t (isAlive_of_isSampling hu.inLoop), hsequence, ?_, ?_⟩
  · intro i hi
    exact (Lts.inv_of_labels (P := fun v : Sampler σ => Going t v ∧ v.consumer i ≠ .done)
      (Q := fun a => a.interrupts t = false) (fun _ _ _ ha hv hstep =>
        ⟨(hv.1.step ha (step_cases hstep)).1, not_done_step hv.1.isAlive (step_cases hstep) hv.2⟩)
      hgo ⟨hgoing, hi⟩ hpost).2
  · obtain ⟨rest, v, hrest, hlen, hexec, hv, hnext, hconsumer⟩ := hu.exists_publication cfg x
    have hle := stepsToPublish_le (s.worker t)
    refine ⟨rest, v, hrest, by omega, hexec, hv.toSampling, hnext, ?_⟩
    intro i n hi
    have hreached := Lts.exec_append_eq.2 ⟨s, h, hpost⟩
    have hcursor := (tracks_run hreached).cursor_le hi
    have hring := (tracks_run (Lts.exec_append_eq.2 ⟨u, hreached, hexec⟩)).ring
    have hwoken : v.consumer i = .woken n := by
      rw [hconsumer i]
      simp [notifyAll, hi]
    have hav : v.available n ≠ [] := by
      intro hav
      have := hring.exhausted hav hcursor.1
      omega
    refine ⟨v.check i n, ?_, ?_, hav⟩
    · show v.step cfg (.check i) = _
      simp [Sampler.step, hwoken]
    · simp [check, hav]

/-- An iterator waits for the first snapshot while the sampler is started once more. -/
theorem sampling_goes_on_waiting :
    ∃ s u, (samplerLts Unit ⟨1, true, by decide, 9223372036⟩).exec initial
        [.start (.outside 0) true, .worker 0 .boot, .iter 0, .check 0] = some s ∧
      (samplerLts Unit ⟨1, true, by decide, 9223372036⟩).exec s
        [.worker 0 .test, .start (.outside 1) true] = some u ∧
      ∃ rest v, (∀ a ∈ rest, a.isStepOf 0 = true) ∧
        (samplerLts Unit ⟨1, true, by decide, 9223372036⟩).exec u rest = some v ∧
        v.sequence = u.sequence + 1 := by
  obtain ⟨s, u, hs, hu, hloop, hrunning⟩ : ∃ s u,
      (samplerLts Unit ⟨1, true, by simp, 9223372036⟩).exec initial
        [.start (.outside 0) true, .worker 0 .boot, .iter 0, .check 0] = some s ∧
      (samplerLts Unit ⟨1, true, by simp, 9223372036⟩).exec s
        [.worker 0 .test, .start (.outside 1) true] = some u ∧
      (s.worker 0).isSampling = true ∧ s.stopEvent = false := ⟨_, _, rfl, rfl, rfl, rfl⟩
  obtain ⟨-, -, -, -, rest, v, hrest, -, hexec, -, hnext, -⟩ :=
    sampling_goes_on _ hs ⟨hloop, hrunning⟩ hu (by simp [Act.interrupts]) ()
  exact ⟨s, u, hs, hu, rest, v, hrest, hexec, hnext⟩

end Sampler

end SweatMeter
