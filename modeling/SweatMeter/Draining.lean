/-
  How the iterators of a sampler come to an end.

  Once the worker is dead and no `start` follows, nothing is added to the ring, and
  an iterator yields the rest of its batch and then what the ring holds from its
  cursor on: its entries yielded and its entries `pending` make up the same list all
  along (`supply_step`).  It needs a bounded number of turns for that (`turnsLeft`),
  and then it ends, unless it is blocked in `wait`.
-/
import SweatMeter.Delivery
import SweatMeter.StopSafety
import SweatMeter.Wakeup

namespace SweatMeter

/-- The label is a turn of iterator `i`. -/
def Act.isTurnOf {σ : Type} (i : ℕ) : Act σ → Bool
  | .iter j | .check j | .next j => j = i
  | _ => false

/-- `next_sequence` after the batch has been yielded. -/
def cursorAfter {σ : Type} : ℕ → List (Entry σ) → ℕ
  | n, [] => n
  | _, e :: rest => cursorAfter (e.sequence + 1) rest

namespace Sampler

variable {σ : Type} {cfg : SamplerConfig} {s s' : Sampler σ} {g : Log σ} {i : ℕ}

/-! ## What is left for an iterator -/

section
variable (s)

/-- The entries an iterator at this point has still to yield, if nothing is added. -/
def pending : Consumer σ → List (Entry σ)
  | .absent => s.available 1
  | .ready n | .waiting n | .woken n => s.available n
  | .yielding n batch => batch ++ s.available (cursorAfter n batch)
  | .done => []

/-- The turns of an iterator that is about to check from `n` on. -/
def turnsFrom (n : ℕ) : ℕ := if s.available n = [] then 1 else (s.available n).length + 3

/-- The turns an iterator at this point has still to take, if nothing is added. -/
def turnsLeft : Consumer σ → ℕ
  | .absent => 1 + s.turnsFrom 1
  | .ready n | .waiting n | .woken n => s.turnsFrom n
  | .yielding n batch => batch.length + 1 + s.turnsFrom (cursorAfter n batch)
  | .done => 0

end

/-- The ring is in the order of the numbers. -/
def Ascending (s : Sampler σ) : Prop := s.history.Pairwise fun e f => e.sequence < f.sequence

/-- Everything available has been taken once a batch of it has been yielded. -/
theorem available_cursorAfter (h : s.Ascending) {batch : List (Entry σ)} {n : ℕ}
    (hbatch : s.available n = batch) : s.available (cursorAfter n batch) = [] := by
  induction batch generalizing n with
  | nil => exact hbatch
  | cons e rest ih =>
    obtain ⟨-, -, -, hrest⟩ := available_cons h hbatch
    exact ih hrest.symm

theorem available_congr (h : s'.history = s.history) (n : ℕ) : s'.available n = s.available n := by
  rw [available, available, h]

theorem pending_congr (h : s'.history = s.history) (p : Consumer σ) : s'.pending p = s.pending p := by
  cases p <;> simp only [pending, available_congr h]

theorem turnsLeft_congr (h : s'.history = s.history) (p : Consumer σ) :
    s'.turnsLeft p = s.turnsLeft p := by
  cases p <;> simp only [turnsLeft, turnsFrom, available_congr h]

theorem turnsFrom_le (s : Sampler σ) (n : ℕ) : s.turnsFrom n ≤ s.history.length + 3 := by
  have hle : (s.available n).length ≤ s.history.length := List.length_filter_le _ _
  unfold turnsFrom
  split_ifs <;> omega

/-! ## One step -/

/-- The worker is dead, and the ring holds these entries. -/
structure Settled (history : List (Entry σ)) (s : Sampler σ) : Prop where
  silent : s.Silent
  history : s.history = history

/-- Without a `start` nothing changes that. -/
theorem Settled.step {history : List (Entry σ)} (h : Settled history s) {a : Act σ}
    (ha : a.isStart = false) (hs : Stepped cfg s a s') : Settled history s' := by
  have hne : ∀ t m, a ≠ .worker t m := by
    rintro t m rfl
    exact h.silent.not_worker hs
  exact ⟨h.silent.step ha hs, (publishes_step hne hs).2.trans h.history⟩

theorem not_isAlive_of_silent (h : s.Silent) : s.isAlive = false := by
  unfold isAlive
  cases s.thread with
  | none => rfl
  | some t => exact h t

/-- What an iterator has yielded, and what it has still to yield. -/
def Reader.supply (s : Sampler σ) (r : Reader σ) : List (Entry σ) :=
  r.yielded.map Prod.fst ++ s.pending r.position

theorem Turn.supply_eq (hsorted : s.Ascending) {r r' : Reader σ} (h : Turn s r r') :
    r'.supply s = r.supply s := by
  unfold Reader.supply
  cases h with
  | rest => rfl
  | wake hp => rw [hp]; rfl
  | begin hp => rw [hp]; rfl
  | @take n hp _ =>
    have hpending : s.pending r.position = s.available n := by
      rcases hp with hp | hp <;> rw [hp] <;> rfl
    rw [hpending, pending, available_cursorAfter hsorted rfl, List.append_nil]
  | wait hp => rcases hp with hp | hp <;> rw [hp] <;> rfl
  | finish hp hav _ =>
    have hpending : s.pending r.position = [] := by
      rcases hp with hp | hp <;> rw [hp] <;> exact hav
    rw [hpending]
    rfl
  | @yield n e rest hp =>
    rw [hp]
    simp [pending, cursorAfter]
  | again hp => rw [hp]; rfl

/-- **What an iterator has yielded and what is pending make up the same list.** -/
theorem supply_step (hsorted : s.Ascending) (hhistory : s'.history = s.history) {a : Act σ}
    (hs : Stepped cfg s a s') (i : ℕ) :
    (reader s' (g.observe cfg s a) i).supply s' = (reader s g i).supply s := by
  rw [Reader.supply, pending_congr hhistory]
  exact (turn_step hs i).supply_eq hsorted

/-- The step of another party can only wake the iterator. -/
theorem consumer_of_other {a : Act σ} (ha : a.isTurnOf i = false) (hs : Stepped cfg s a s') :
    s'.consumer i = s.consumer i ∨ s'.consumer i = s.notifyAll.consumer i := by
  cases hs with
  | start _ => exact .inl (congrFun (start_consumer s _) i)
  | stop _ => exact .inr (congrFun (stop_consumer s _ _) i)
  | @worker t m q hf =>
    generalize s.worker t = p at hf
    cases hf with
    | publish => exact .inr rfl
    | notify => exact .inr rfl
    | _ => exact .inl rfl
  | @iter j _ =>
    have hne : i ≠ j := by simpa [Act.isTurnOf, eq_comm] using ha
    exact .inl (Function.update_of_ne hne _ _)
  | @check j n _ =>
    have hne : i ≠ j := by simpa [Act.isTurnOf, eq_comm] using ha
    refine .inl ?_
    unfold check
    split_ifs <;> exact Function.update_of_ne hne _ _
  | @next j n e rest _ =>
    have hne : i ≠ j := by simpa [Act.isTurnOf, eq_comm] using ha
    exact .inl (Function.update_of_ne hne _ _)
  | @again j n _ =>
    have hne : i ≠ j := by simpa [Act.isTurnOf, eq_comm] using ha
    exact .inl (Function.update_of_ne hne _ _)
  | _ => exact .inl rfl

theorem turnsLeft_notifyAll (s : Sampler σ) (i : ℕ) :
    s.turnsLeft (s.notifyAll.consumer i) = s.turnsLeft (s.consumer i) := by
  simp only [notifyAll]
  cases s.consumer i <;> simp [turnsLeft]

/-- The locked section of an iterator while no worker is alive. -/
theorem turnsLeft_check (hsorted : s.Ascending) (hdead : s.isAlive = false) (n : ℕ) :
    s.turnsLeft ((s.check i n).consumer i) + 1 ≤ s.turnsFrom n := by
  by_cases hav : s.available n = []
  · have hdone : (s.check i n).consumer i = .done := by simp [check, hav, hdead]
    rw [hdone, turnsFrom, if_pos hav]
    rfl
  · have hbatch : (s.check i n).consumer i = .yielding n (s.available n) := by simp [check, hav]
    rw [hbatch, turnsLeft, turnsFrom, turnsFrom, available_cursorAfter hsorted rfl, if_pos rfl,
      if_neg hav]

/-- **Every turn of an iterator is one of those it had left.** -/
theorem turnsLeft_step (hsorted : s.Ascending) (hsilent : s.Silent)
    (hhistory : s'.history = s.history) {a : Act σ} (hs : Stepped cfg s a s') (i : ℕ) :
    s'.turnsLeft (s'.consumer i) + (if a.isTurnOf i then 1 else 0) ≤ s.turnsLeft (s.consumer i) := by
  have hdead := not_isAlive_of_silent hsilent
  rw [turnsLeft_congr hhistory]
  cases ha : a.isTurnOf i with
  | false =>
    rcases consumer_of_other ha hs with hc | hc
    · rw [hc]; exact le_rfl
    · rw [hc, turnsLeft_notifyAll]; exact le_rfl
  | true =>
    rw [if_pos rfl]
    cases hs with
    | @iter j hj =>
      obtain rfl : j = i := by simpa [Act.isTurnOf] using ha
      rw [setConsumer_consumer, Function.update_self, hj]
      exact (Nat.add_comm _ 1).le
    | @check j n hj =>
      obtain rfl : j = i := by simpa [Act.isTurnOf] using ha
      have hturns : s.turnsLeft (s.consumer j) = s.turnsFrom n := by
        rcases hj with hj | hj <;> rw [hj] <;> rfl
      rw [hturns]
      exact turnsLeft_check hsorted hdead n
    | @next j n e rest hj =>
      obtain rfl : j = i := by simpa [Act.isTurnOf] using ha
      rw [setConsumer_consumer, Function.update_self, hj]
      simp only [turnsLeft, cursorAfter, List.length_cons]
      omega
    | @again j n hj =>
      obtain rfl : j = i := by simpa [Act.isTurnOf] using ha
      rw [setConsumer_consumer, Function.update_self, hj]
      simp only [turnsLeft, cursorAfter, List.length_nil]
      omega
    | _ => cases ha

/-! ## The end of an iterator -/

/-- An iterator that has begun and is not blocked in `wait`. -/
def Running (i : ℕ) (s : Sampler σ) : Prop := s.consumer i ≠ .absent ∧ ¬ s.Waiting i

theorem done_of_turnsLeft (h : s.Running i) (hleft : s.turnsLeft (s.consumer i) = 0) :
    s.consumer i = .done := by
  have hpos (n : ℕ) : s.turnsFrom n ≠ 0 := by
    unfold turnsFrom
    split_ifs <;> omega
  cases hc : s.consumer i with
  | absent => exact absurd hc h.1
  | waiting n => exact absurd ⟨n, hc⟩ h.2
  | ready n => rw [hc] at hleft; exact absurd hleft (hpos n)
  | woken n => rw [hc] at hleft; exact absurd hleft (hpos n)
  | yielding n batch => simp [hc, turnsLeft] at hleft
  | done => rfl

/-- An iterator that runs while no worker is alive can take its next turn, and runs on. -/
theorem Running.exists_turn (h : s.Running i) (cfg : SamplerConfig) (hdead : s.isAlive = false)
    (hleft : s.turnsLeft (s.consumer i) ≠ 0) :
    ∃ a s', a.isTurnOf i = true ∧ s.step cfg a = some s' ∧ s'.Running i := by
  have hcheck (n : ℕ) : (s.check i n).Running i := by
    constructor
    · unfold check
      split_ifs <;> simp
    · rintro ⟨m, hm⟩
      rcases check_waiting ⟨m, hm⟩ with ⟨-, -, ha⟩ | hw
      · rw [hdead] at ha; cases ha
      · exact h.2 hw
  cases hc : s.consumer i with
  | absent => exact absurd hc h.1
  | waiting n => exact absurd ⟨n, hc⟩ h.2
  | done => rw [hc] at hleft; exact absurd rfl hleft
  | ready n =>
    exact ⟨.check i, s.check i n, by simp [Act.isTurnOf], by simp [Sampler.step, hc], hcheck n⟩
  | woken n =>
    exact ⟨.check i, s.check i n, by simp [Act.isTurnOf], by simp [Sampler.step, hc], hcheck n⟩
  | yielding n batch =>
    cases batch with
    | nil =>
      refine ⟨.next i, s.setConsumer i (.ready n), by simp [Act.isTurnOf],
        by simp [Sampler.step, hc], by simp, ?_⟩
      rintro ⟨m, hm⟩
      simp at hm
    | cons e rest =>
      refine ⟨.next i, s.setConsumer i (.yielding (e.sequence + 1) rest), by simp [Act.isTurnOf],
        by simp [Sampler.step, hc], by simp, ?_⟩
      rintro ⟨m, hm⟩
      simp at hm

/-- Its own turns bring an iterator that runs to its end. -/
theorem exists_end_of_running (hsorted : s.Ascending) (hsilent : s.Silent) (h : s.Running i) :
    ∃ rest s', (∀ a ∈ rest, a.isTurnOf i = true) ∧
      (samplerLts σ cfg).exec s rest = some s' ∧ s'.consumer i = .done := by
  obtain ⟨rest, s', hrest, -, hexec, ⟨-, hrunning⟩, hzero⟩ :=
    Lts.exists_run_of_measure (L := samplerLts σ cfg)
      (P := fun u : Sampler σ => Settled s.history u ∧ u.Running i)
      (μ := fun u : Sampler σ => u.turnsLeft (u.consumer i)) (Q := fun a => a.isTurnOf i = true) (by
        rintro u ⟨hu, hrunning⟩ hleft
        obtain ⟨a, u', ha, hstep, hrunning'⟩ :=
          hrunning.exists_turn cfg (not_isAlive_of_silent hu.silent) hleft
        have hstart : a.isStart = false := by cases a <;> first | rfl | cases ha
        have hu' := hu.step hstart (step_cases hstep)
        have hascending : u.Ascending := by
          rw [Ascending, hu.history]
          exact hsorted
        have hlt := turnsLeft_step hascending hu.silent (hu'.history.trans hu.history.symm)
          (step_cases hstep) i
        rw [ha, if_pos rfl] at hlt
        exact ⟨a, u', ha, hstep, ⟨hu', hrunning'⟩, hlt⟩) ⟨⟨hsilent, rfl⟩, h⟩
  exact ⟨rest, s', hrest, hexec, done_of_turnsLeft hrunning hzero⟩

theorem tracks_run {as : List (Act σ)} (h : (samplerLts σ cfg).exec initial as = some s) :
    Tracks cfg s ((samplerLts σ cfg).record (Log.observe cfg) initial Log.empty as) :=
  Lts.record_inv (P := Tracks cfg) (fun _ _ _ _ hT hs => hT.step (step_cases hs)) tracks_initial h

theorem Holds.length_le {xs : List (σ × ℚ)} (h : Holds cfg s xs) :
    s.history.length ≤ cfg.bufferSize := by
  rw [h.history, lastOf, List.length_drop]
  omega

/-- No iterator has more turns to take than twice the ring allows. -/
theorem Tracks.turnsLeft_le (h : Tracks cfg s g) (i : ℕ) :
    s.turnsLeft (s.consumer i) ≤ 2 * cfg.bufferSize + 4 := by
  have hlen := h.ring.length_le
  have hturns (n : ℕ) := turnsFrom_le s n
  cases hc : s.consumer i with
  | yielding n batch =>
    have hposition := (h.reader i).position
    rw [show (Sampler.reader s g i).position = .yielding n batch from hc] at hposition
    obtain ⟨-, hbatch, xs, -, hholds⟩ := hposition
    have hle : batch.length ≤ cfg.bufferSize := by
      rw [hbatch]
      exact (List.length_filter_le _ _).trans hholds.length_le
    have := hturns (cursorAfter n batch)
    simp only [turnsLeft]
    omega
  | done => exact Nat.zero_le _
  | absent => have := hturns 1; simp only [turnsLeft]; omega
  | ready n => have := hturns n; simp only [turnsLeft]; omega
  | waiting n => have := hturns n; simp only [turnsLeft]; omega
  | woken n => have := hturns n; simp only [turnsLeft]; omega

/-- **Iterators drain and end.**  Once no worker is alive and as long as no `start`
    follows, each iterator yields exactly what it had pending, in order, and takes at
    most `2 * bufferSize + 4` turns.  An iterator that is not blocked in `wait` gets to
    its end by its own turns, and a further `stop` leaves none of them blocked. -/
theorem iterators_end (cfg : SamplerConfig) {pre post : List (Act σ)} {s u : Sampler σ}
    (h : (samplerLts σ cfg).exec initial pre = some s) (hdead : s.isAlive = false)
    (hpost : (samplerLts σ cfg).exec s post = some u) (hstart : ∀ a ∈ post, a.isStart = false)
    (i : ℕ) :
    let log as := (samplerLts σ cfg).record (Log.observe cfg) initial Log.empty as
    ((log (pre ++ post)).yielded i).map Prod.fst ++ u.pending (u.consumer i) =
      ((log pre).yielded i).map Prod.fst ++ s.pending (s.consumer i) ∧
    post.countP (Act.isTurnOf i) ≤ 2 * cfg.bufferSize + 4 ∧
    (u.Running i → ∃ rest v, (∀ a ∈ rest, a.isTurnOf i = true) ∧
      (samplerLts σ cfg).exec u rest = some v ∧ v.consumer i = .done) ∧
    ∀ timeout, ∃ j v, (samplerLts σ cfg).step u (.stop (.outside j) timeout) = some v ∧
      v.isAlive = false ∧ ∀ k, ¬ v.Waiting k := by
  intro log
  have htracks := tracks_run h
  have hsorted : s.Ascending := htracks.ring.sorted
  have hsilent := silent_of_not_isAlive (sole_run h) hdead
  have hascending {v : Sampler σ} (hv : Settled s.history v) : v.Ascending := by
    rw [Ascending, hv.history]
    exact hsorted
  have hu : Settled s.history u :=
    Lts.inv_of_labels (P := Settled s.history) (Q := fun a => a.isStart = false)
      (fun _ _ _ ha hv hs => hv.step ha (step_cases hs)) hstart ⟨hsilent, rfl⟩ hpost
  refine ⟨?_, ?_, ?_, ?_⟩
  · have hsupply : Settled s.history u ∧ (reader u (log (pre ++ post)) i).supply u =
        (reader s (log pre) i).supply s := by
      show _ ∧ (reader u ((samplerLts σ cfg).record _ _ _ _) i).supply u = _
      rw [Lts.record_append h]
      refine Lts.record_inv_of_labels (Q := fun a => a.isStart = false)
        (P := fun v g => Settled s.history v ∧
          (reader v g i).supply v = (reader s (log pre) i).supply s) ?_ hstart
        ⟨⟨hsilent, rfl⟩, rfl⟩ hpost
      rintro v a v' g' ha ⟨hv, hsupply⟩ hstep
      have hv' := hv.step ha (step_cases hstep)
      refine ⟨hv', ?_⟩
      rw [supply_step (hascending hv) (hv'.history.trans hv.history.symm) (step_cases hstep) i]
      exact hsupply
    exact hsupply.2
  · have hcount := Lts.count_le_of_labels (P := Settled s.history)
      (Q := fun a => a.isStart = false) (μ := fun v : Sampler σ => v.turnsLeft (v.consumer i))
      (c := Act.isTurnOf i) (by
        intro v a v' ha hv hstep
        have hv' := hv.step ha (step_cases hstep)
        exact ⟨hv', turnsLeft_step (hascending hv) hv.silent (hv'.history.trans hv.history.symm)
          (step_cases hstep) i⟩) hstart ⟨hsilent, rfl⟩ hpost
    have := htracks.turnsLeft_le i
    omega
  · exact exists_end_of_running (hascending hu) hu.silent
  · intro timeout
    obtain ⟨n, hidle⟩ := exists_idle (Lts.exec_append_eq.2 ⟨s, h, hpost⟩)
    refine ⟨n, u.stop (.outside n) timeout, ?_, ?_, ?_⟩
    · show u.step cfg (.stop (.outside n) timeout) = _
      simp [Sampler.step, canCall, hidle n le_rfl]
    · have hsilent' : (u.stop (.outside n) timeout).Silent := by
        intro t
        rw [(stop_frame u _ _).2.1]
        exact hu.silent t
      exact not_isAlive_of_silent hsilent'
    · intro k hk
      exact notifyAll_not_waiting u k ((waiting_congr (stop_consumer u _ _) k).1 hk)

/-- An iterator in the middle of a batch of two when the worker dies. -/
theorem iterators_end_batch :
    ∃ s u, (samplerLts Bool ⟨2, false, by decide, 9223372036⟩).exec initial
        [.start (.outside 0) true, .worker 0 .boot, .iter 0, .worker 0 .test,
          .worker 0 (.collected false 0), .worker 0 .publish, .worker 0 .call, .worker 0 .timeout,
          .worker 0 .test, .worker 0 (.collected true 1), .worker 0 .publish, .check 0, .next 0,
          .stop (.outside 0) defaultTimeout, .worker 0 .call, .worker 0 .signalled,
          .worker 0 .notify, .worker 0 .die] = some s ∧
      (samplerLts Bool ⟨2, false, by decide, 9223372036⟩).exec s [.next 0, .joined (.outside 0)] =
        some u ∧
      ∃ rest v, (∀ a ∈ rest, a.isTurnOf 0 = true) ∧
        (samplerLts Bool ⟨2, false, by decide, 9223372036⟩).exec u rest = some v ∧
        v.consumer 0 = .done := by
  obtain ⟨s, u, hs, hu, hdead, hposition⟩ : ∃ s u,
      (samplerLts Bool ⟨2, false, by simp, 9223372036⟩).exec initial
        [.start (.outside 0) true, .worker 0 .boot, .iter 0, .worker 0 .test,
          .worker 0 (.collected false 0), .worker 0 .publish, .worker 0 .call, .worker 0 .timeout,
          .worker 0 .test, .worker 0 (.collected true 1), .worker 0 .publish, .check 0, .next 0,
          .stop (.outside 0) defaultTimeout, .worker 0 .call, .worker 0 .signalled,
          .worker 0 .notify, .worker 0 .die] = some s ∧
      (samplerLts Bool ⟨2, false, by simp, 9223372036⟩).exec s [.next 0, .joined (.outside 0)] =
        some u ∧
      s.isAlive = false ∧ u.consumer 0 = .yielding 3 [] := ⟨_, _, rfl, rfl, rfl, rfl⟩
  have hrunning : u.Running 0 := by
    constructor
    · rw [hposition]; simp
    · rintro ⟨n, hn⟩
      rw [hposition] at hn
      cases hn
  exact ⟨s, u, hs, hu, (iterators_end _ hs hdead hu (by simp [Act.isStart]) 0).2.2.1 hrunning⟩

end Sampler

end SweatMeter
