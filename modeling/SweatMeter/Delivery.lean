/-
  What the sampler delivers.

  `Log` records along a run what was published, with which snapshots `on_sample`
  was called, and for each iterator what it yielded, the state its last batch was
  taken in, and the state in which it found the worker dead.  `sampler_delivery`
  relates the log to the ring and to the iterators' cursors in every run.
-/
import Mathlib.Data.List.Chain
import SweatMeter.Quiescence

namespace SweatMeter

/-! ## The ring -/

/-- The entries `_publish` makes of these snapshots and times, numbered from 1. -/
def numbered {σ : Type} (xs : List (σ × ℚ)) : List (Entry σ) :=
  (xs.zipIdx 1).map fun p => ⟨p.2, p.1.1, p.1.2⟩

/-- The last `n` elements. -/
def lastOf {α : Type*} (n : ℕ) (xs : List α) : List α := xs.drop (xs.length - n)

section
variable {σ : Type} {xs : List (σ × ℚ)}

@[simp] theorem length_numbered : (numbered xs).length = xs.length := by simp [numbered]

theorem numbered_snoc (x : σ) (at' : ℚ) :
    numbered (xs ++ [(x, at')]) = numbered xs ++ [⟨xs.length + 1, x, at'⟩] := by
  simp [numbered, List.zipIdx_append, Nat.add_comm]

theorem map_snapshot_numbered : (numbered xs).map Entry.snapshot = xs.map Prod.fst := by
  rw [numbered, List.map_map]
  have : (Entry.snapshot ∘ fun p : (σ × ℚ) × ℕ => (⟨p.2, p.1.1, p.1.2⟩ : Entry σ)) =
      Prod.fst ∘ Prod.fst := rfl
  rw [this, ← List.map_map, List.zipIdx_map_fst]

theorem map_sequence_numbered :
    (numbered xs).map Entry.sequence = List.range' 1 xs.length := by
  rw [numbered, List.map_map]
  exact List.zipIdx_map_snd 1 xs

/-- The retained entries have consecutive numbers that end at the number of snapshots. -/
theorem map_sequence_lastOf (c : ℕ) :
    (lastOf c (numbered xs)).map Entry.sequence =
      List.range' (xs.length - min xs.length c + 1) (min xs.length c) := by
  rw [lastOf, List.map_drop, map_sequence_numbered, length_numbered, List.drop_range']
  congr 1 <;> omega

theorem mem_lastOf_sequence (xs : List (σ × ℚ)) {c m : ℕ} :
    (∃ e ∈ lastOf c (numbered xs), e.sequence = m) ↔
      xs.length < m + c ∧ 1 ≤ m ∧ m ≤ xs.length := by
  have : (∃ e ∈ lastOf c (numbered xs), e.sequence = m) ↔
      m ∈ (lastOf c (numbered xs)).map Entry.sequence := by simp
  rw [this, map_sequence_lastOf, List.mem_range'_1]
  omega

theorem map_lastOf {α β : Type*} (f : α → β) (n : ℕ) (ys : List α) :
    (lastOf n ys).map f = lastOf n (ys.map f) := by
  rw [lastOf, lastOf, List.map_drop, List.length_map]

theorem getLast?_lastOf {α : Type*} {n : ℕ} (hn : 0 < n) (ys : List α) :
    (lastOf n ys).getLast? = ys.getLast? := by
  rw [lastOf, List.getLast?_drop]
  by_cases h : ys = []
  · simp [h]
  · have := List.length_pos_iff.2 h
    rw [if_neg (by omega)]

/-- `deque.append` keeps the last `c` of everything that was appended. -/
theorem appendBounded_lastOf {c : ℕ} (ys : List (Entry σ)) (e : Entry σ) :
    Sampler.appendBounded c (lastOf c ys) e = lastOf c (ys ++ [e]) := by
  rw [Sampler.appendBounded, lastOf, lastOf]
  by_cases h : ys.length ≤ c
  · rw [Nat.sub_eq_zero_of_le h, List.drop_zero]
  · rw [← List.drop_append_of_le_length (by omega), List.drop_drop]
    congr 1
    simp; omega

end

namespace Sampler

variable {σ : Type} {cfg : SamplerConfig} {s s' : Sampler σ}

/-- `buffered`. -/
def buffered (s : Sampler σ) : List σ := s.history.map fun e => e.snapshot

/-- `latest`. -/
def latest (s : Sampler σ) : Option σ := s.history.getLast?.map fun e => e.snapshot

/-- The number `m` was given to a snapshot that is no longer in the ring. -/
def Evicted (s : Sampler σ) (m : ℕ) : Prop :=
  1 ≤ m ∧ m ≤ s.sequence ∧ ∀ e ∈ s.history, e.sequence ≠ m

end Sampler

/-! ## The log of a run -/

/-- What a run has delivered so far. -/
structure Log (σ : Type) where
  /-- the arguments of `_publish`, in order -/
  published : List (σ × ℚ)
  /-- the arguments of `on_sample`, in order -/
  called : List σ
  /-- the state in which iterator `i` took its last batch -/
  taken : ℕ → Sampler σ
  /-- what iterator `i` yielded, each entry with the state its batch was taken in -/
  yielded : ℕ → List (Entry σ × Sampler σ)
  /-- the state in which iterator `i` found nothing to take and the worker dead -/
  ended : ℕ → Option (Sampler σ)

namespace Log

open Sampler

variable {σ : Type}

def empty : Log σ where
  published := []
  called := []
  taken _ := initial
  yielded _ := []
  ended _ := none

/-- The log after the label `a` was taken in `s`. -/
def observe (cfg : SamplerConfig) (s : Sampler σ) (a : Act σ) (g : Log σ) : Log σ :=
  match a with
  | .worker t .publish => match s.worker t with
    | .publish x at' => { g with published := g.published ++ [(x, at')] }
    | _ => g
  | .worker t .call => match s.worker t with
    | .published x => if cfg.hasCallback then { g with called := g.called ++ [x] } else g
    | _ => g
  | .check i => match s.consumer i with
    | .ready n | .woken n =>
      if s.available n ≠ [] then { g with taken := Function.update g.taken i s }
      else if s.isAlive then g
      else { g with ended := Function.update g.ended i (some s) }
    | _ => g
  | .next i => match s.consumer i with
    | .yielding _ (e :: _) =>
      { g with yielded := Function.update g.yielded i (g.yielded i ++ [(e, g.taken i)]) }
    | _ => g
  | _ => g

end Log

/-! ## What an iterator yields -/

section
variable {σ : Type} {ys : List (Entry σ × Sampler σ)}

/-- The number of the last entry yielded, 0 before the first. -/
def lastSequence (ys : List (Entry σ × Sampler σ)) : ℕ :=
  (ys.getLast?.map fun y => y.1.sequence).getD 0

@[simp] theorem lastSequence_nil : lastSequence ([] : List (Entry σ × Sampler σ)) = 0 := rfl

@[simp] theorem lastSequence_snoc (y : Entry σ × Sampler σ) :
    lastSequence (ys ++ [y]) = y.1.sequence := by
  simp [lastSequence]

/-- Every entry yielded was in the ring its batch was taken from and is newer than
    the one before it; what lies between had been evicted when the batch was taken. -/
inductive Delivered : List (Entry σ × Sampler σ) → Prop
  | nil : Delivered []
  | snoc {ys e u} : Delivered ys → e ∈ u.history → lastSequence ys < e.sequence →
      (∀ m, lastSequence ys < m → m < e.sequence → u.Evicted m) → Delivered (ys ++ [(e, u)])

theorem Delivered.le_last (h : Delivered ys) : ∀ y ∈ ys, y.1.sequence ≤ lastSequence ys := by
  induction h with
  | nil => simp
  | @snoc ys e u _ _ hlt _ ih =>
    intro y hy
    rw [lastSequence_snoc]
    rcases List.mem_append.1 hy with hy | hy
    · exact Nat.le_of_lt (Nat.lt_of_le_of_lt (ih y hy) hlt)
    · rw [List.mem_singleton.1 hy]

/-- Numbers strictly increase from one yielded entry to the next. -/
theorem Delivered.increasing (h : Delivered ys) :
    ys.Pairwise fun y z => y.1.sequence < z.1.sequence := by
  induction h with
  | nil => exact List.Pairwise.nil
  | snoc h _ hlt _ ih =>
    rw [List.pairwise_append]
    refine ⟨ih, List.pairwise_singleton _ _, ?_⟩
    intro y hy z hz
    rw [List.mem_singleton.1 hz]
    exact Nat.lt_of_le_of_lt (h.le_last y hy) hlt

/-- Between two consecutive yields, and before the first, everything was evicted. -/
theorem Delivered.gap (h : Delivered ys) {pre post : List (Entry σ × Sampler σ)}
    {e : Entry σ} {u : Sampler σ} (hys : ys = pre ++ (e, u) :: post) :
    e ∈ u.history ∧ ∀ m, lastSequence pre < m → m < e.sequence → u.Evicted m := by
  induction h generalizing post with
  | nil => simp at hys
  | snoc _ hmem _ hgap ih =>
    rcases Lts.split_snoc hys with ⟨rfl, heq, -⟩ | ⟨post', hys⟩
    · cases heq; exact ⟨hmem, hgap⟩
    · exact ih hys

/-- Every number up to the last yielded one was yielded, or skipped as evicted. -/
theorem Delivered.covers (h : Delivered ys) :
    ∀ m, 1 ≤ m → m ≤ lastSequence ys →
      ∃ y ∈ ys, y.1.sequence = m ∨ (m < y.1.sequence ∧ y.2.Evicted m) := by
  induction h with
  | nil => intro m h1 hm; rw [lastSequence_nil] at hm; omega
  | @snoc ys e u _ _ _ hgap ih =>
    intro m h1 hm
    rw [lastSequence_snoc] at hm
    have hlast : (e, u) ∈ ys ++ [(e, u)] := List.mem_append_right _ (List.mem_singleton_self _)
    rcases Nat.lt_or_ge (lastSequence ys) m with hlt | hle
    · rcases Nat.lt_or_eq_of_le hm with hm | hm
      · exact ⟨(e, u), hlast, Or.inr ⟨hm, hgap m hlt hm⟩⟩
      · exact ⟨(e, u), hlast, Or.inl hm.symm⟩
    · obtain ⟨y, hy, hm⟩ := ih m h1 hle
      exact ⟨y, List.mem_append_left _ hy, hm⟩

end

namespace Sampler

variable {σ : Type} {cfg : SamplerConfig} {s s' : Sampler σ} {g : Log σ}

/-! ## The ring along a run -/

/-- The ring and the counter after the snapshots `xs`. -/
structure Holds (cfg : SamplerConfig) (s : Sampler σ) (xs : List (σ × ℚ)) : Prop where
  sequence : s.sequence = xs.length
  history : s.history = lastOf cfg.bufferSize (numbered xs)

theorem Holds.publish {xs : List (σ × ℚ)} (h : Holds cfg s xs) (x : σ) (at' : ℚ) :
    Holds cfg (s.publish cfg.bufferSize x at') (xs ++ [(x, at')]) := by
  constructor
  · show s.sequence + 1 = _
    rw [h.sequence, List.length_append]; rfl
  · show appendBounded cfg.bufferSize s.history _ = _
    rw [h.history, h.sequence, appendBounded_lastOf, numbered_snoc]

/-- Only a worker's label is logged as a publication or as a call. -/
theorem observe_published (cfg : SamplerConfig) (s : Sampler σ) (g : Log σ) {a : Act σ}
    (ha : ∀ t m, a ≠ .worker t m) :
    (g.observe cfg s a).published = g.published ∧ (g.observe cfg s a).called = g.called := by
  cases a with
  | worker t m => exact absurd rfl (ha t m)
  | check i => simp only [Log.observe]; split <;> first | (split_ifs <;> exact ⟨rfl, rfl⟩) | exact ⟨rfl, rfl⟩
  | next i => simp only [Log.observe]; split <;> exact ⟨rfl, rfl⟩
  | _ => exact ⟨rfl, rfl⟩

/-- A step publishes what it logs, and nothing else changes the ring. -/
theorem published_step {a : Act σ} (hs : Stepped cfg s a s') :
    (∃ t x at', s.worker t = .publish x at' ∧
      s' = (s.publish cfg.bufferSize x at').setWorker t (.published x) ∧
      (g.observe cfg s a).published = g.published ++ [(x, at')]) ∨
    (s'.sequence = s.sequence ∧ s'.history = s.history ∧
      (g.observe cfg s a).published = g.published) := by
  by_cases ha : ∃ t m, a = .worker t m
  · obtain ⟨t, m, rfl⟩ := ha
    cases hs with
    | @worker _ _ q hf =>
      generalize hp : s.worker t = p at hf
      cases hf with
      | @publish x at' => exact Or.inl ⟨t, x, at', hp, rfl, by simp [Log.observe, hp]⟩
      | call hc => exact Or.inr ⟨rfl, rfl, by simp [Log.observe, hp, hc]⟩
      | noCall hc => exact Or.inr ⟨rfl, rfl, by simp [Log.observe, hp, hc]⟩
      | _ => exact Or.inr ⟨rfl, rfl, rfl⟩
  · have hne : ∀ t m, a ≠ .worker t m := fun t m heq => ha ⟨t, m, heq⟩
    obtain ⟨hseq, hhist⟩ := publishes_step hne hs
    exact Or.inr ⟨hseq, hhist, (observe_published cfg s g hne).1⟩

theorem Holds.step {a : Act σ} (h : Holds cfg s g.published) (hs : Stepped cfg s a s') :
    Holds cfg s' (g.observe cfg s a).published := by
  rcases published_step (g := g) hs with ⟨t, x, at', -, rfl, hpub⟩ | ⟨hseq, hhist, hpub⟩
  · rw [hpub]
    obtain ⟨h1, h2⟩ := h.publish x at'
    exact ⟨h1, h2⟩
  · rw [hpub]
    exact ⟨hseq.trans h.sequence, hhist.trans h.history⟩

/-! ## The callback along a run -/

/-- The callback has been called with every published snapshot, but for the one
    of a worker between the locked part of `_publish` and the call. -/
def Calls (s : Sampler σ) (g : Log σ) : Prop :=
  (∃ t x, s.worker t = .published x ∧ g.published.map Prod.fst = g.called ++ [x]) ∨
    ((∀ t x, s.worker t ≠ .published x) ∧ g.published.map Prod.fst = g.called)

/-- Only a worker's label moves a worker to the call of its callback or past it. -/
theorem published_iff {a : Act σ} (hsole : s.Sole) (ha : ∀ t m, a ≠ .worker t m)
    (hs : Stepped cfg s a s') (t : ℕ) (x : σ) :
    s'.worker t = .published x ↔ s.worker t = .published x := by
  cases hs with
  | @start c ok _ =>
    have hfresh := hsole.fresh s.spawned (le_refl _)
    unfold start
    split
    · rfl
    · cases ok with
      | false => rfl
      | true =>
        by_cases heq : t = s.spawned
        · subst heq; simp [hfresh]
        · simp [Function.update_of_ne heq]
  | @stop c d _ => rw [(stop_frame s c d).2.1]
  | @worker t m q _ => exact absurd rfl (ha t m)
  | @check i n _ => rw [(check_frame s i n).2.1]
  | _ => rfl

/-- A worker's step that neither publishes nor calls keeps the callback where it is. -/
theorem Calls.setWorker {g' : Log σ} {u : Sampler σ} {t : ℕ} {q : Worker σ} (h : Calls s g)
    (hu : u.worker = s.worker) (hpub : g'.published = g.published) (hcall : g'.called = g.called)
    (hp : ∀ x, s.worker t ≠ .published x) (hq : ∀ x, q ≠ .published x) :
    Calls (u.setWorker t q) g' := by
  have hiff : ∀ v x, (u.setWorker t q).worker v = .published x ↔ s.worker v = .published x := by
    intro v x
    rw [setWorker_worker, hu]
    by_cases heq : v = t
    · subst heq; simp [hq x, hp x]
    · rw [Function.update_of_ne heq]
  simpa only [Calls, ne_eq, hiff, hpub, hcall] using h

/-- **One step keeps the callback at most one behind.** -/
theorem Calls.step (hcb : cfg.hasCallback = true) (hsole : s.Sole) (h : Calls s g) {a : Act σ}
    (hs : Stepped cfg s a s') : Calls s' (g.observe cfg s a) := by
  by_cases ha : ∃ t m, a = .worker t m
  · obtain ⟨t, m, rfl⟩ := ha
    cases hs with
    | @worker _ _ q hf =>
      have hsole : ∀ u x, s.worker u = .published x → u = t := by
        intro u x hu
        exact hsole.unique (by rw [hu]; rfl) hf.isAlive
      generalize hp : s.worker t = p at hf
      cases hf with
      | @publish x at' =>
        refine Or.inl ⟨t, x, by simp, ?_⟩
        rcases h with ⟨u, y, hu, -⟩ | ⟨-, h⟩
        · rw [hsole u y hu, hp] at hu; cases hu
        · simp [Log.observe, hp, h]
      | @call x _ =>
        rcases h with ⟨u, y, hu, h⟩ | ⟨hno, -⟩
        · rw [hsole u y hu, hp] at hu
          cases hu
          refine Or.inr ⟨?_, by simp [Log.observe, hp, hcb, h]⟩
          intro v y hv
          by_cases heq : v = t
          · subst heq; simp [effect] at hv
          · rw [setWorker_worker, Function.update_of_ne heq] at hv
            exact heq (hsole v y hv)
        · exact absurd hp (hno t x)
      | noCall hno => rw [hcb] at hno; cases hno
      | _ => exact h.setWorker (effect_worker _ _) rfl rfl (by simp [hp]) (by simp)
  · have hne : ∀ t m, a ≠ .worker t m := fun t m heq => ha ⟨t, m, heq⟩
    obtain ⟨hpub, hcall⟩ := observe_published cfg s g hne
    simpa [Calls, published_iff hsole hne hs, hpub, hcall] using h

/-! ## An iterator along a run -/

/-- Iterator `i` and what the log says of it. -/
structure Reader (σ : Type) where
  position : Consumer σ
  taken : Sampler σ
  yielded : List (Entry σ × Sampler σ)
  ended : Option (Sampler σ)

def reader (s : Sampler σ) (g : Log σ) (i : ℕ) : Reader σ :=
  ⟨s.consumer i, g.taken i, g.yielded i, g.ended i⟩

/-- What a step taken in `s` can do to an iterator. -/
inductive Turn (s : Sampler σ) (r : Reader σ) : Reader σ → Prop
  | rest : Turn s r r
  | wake {n} : r.position = .waiting n → Turn s r { r with position := .woken n }
  | begin : r.position = .absent → Turn s r { r with position := .ready 1 }
  | take {n} : r.position = .ready n ∨ r.position = .woken n → s.available n ≠ [] →
      Turn s r { r with position := .yielding n (s.available n), taken := s }
  | wait {n} : r.position = .ready n ∨ r.position = .woken n →
      Turn s r { r with position := .waiting n }
  | finish {n} : r.position = .ready n ∨ r.position = .woken n → s.available n = [] →
      s.isAlive = false → Turn s r { r with position := .done, ended := some s }
  | yield {n e rest} : r.position = .yielding n (e :: rest) →
      Turn s r { r with
        position := .yielding (e.sequence + 1) rest
        yielded := r.yielded ++ [(e, r.taken)] }
  | again {n} : r.position = .yielding n [] → Turn s r { r with position := .ready n }

/-- `notify_all` wakes an iterator that waits and leaves the others. -/
theorem turn_notifyAll (i : ℕ) :
    Turn s (reader s g i) { reader s g i with position := s.notifyAll.consumer i } := by
  cases hc : s.consumer i with
  | waiting n =>
    have hpos : s.notifyAll.consumer i = .woken n := by simp [notifyAll, hc]
    rw [hpos]
    exact .wake hc
  | _ =>
    have hpos : s.notifyAll.consumer i = s.consumer i := by simp [notifyAll, hc]
    rw [hpos]
    exact .rest

/-- The log records nothing of an iterator when a label of another party is taken. -/
theorem observe_reader (cfg : SamplerConfig) (s : Sampler σ) (g : Log σ) {a : Act σ} {i : ℕ}
    (hc : a ≠ .check i) (hn : a ≠ .next i) :
    (g.observe cfg s a).taken i = g.taken i ∧ (g.observe cfg s a).yielded i = g.yielded i ∧
      (g.observe cfg s a).ended i = g.ended i := by
  cases a with
  | worker t m =>
    cases m with
    | publish => simp only [Log.observe]; split <;> exact ⟨rfl, rfl, rfl⟩
    | call =>
      simp only [Log.observe]; split
      · split_ifs <;> exact ⟨rfl, rfl, rfl⟩
      · exact ⟨rfl, rfl, rfl⟩
    | _ => exact ⟨rfl, rfl, rfl⟩
  | check j =>
    have hne : i ≠ j := by rintro rfl; exact hc rfl
    simp only [Log.observe]
    split
    · split_ifs <;> simp [hne]
    · split_ifs <;> simp [hne]
    · exact ⟨rfl, rfl, rfl⟩
  | next j =>
    have hne : i ≠ j := by rintro rfl; exact hn rfl
    simp only [Log.observe]
    split
    · simp [hne]
    · exact ⟨rfl, rfl, rfl⟩
  | _ => exact ⟨rfl, rfl, rfl⟩

/-- A step that moves iterator `i` from `p` to `q` and logs nothing of it. -/
theorem reader_of_other {a : Act σ} {i : ℕ} (hc : a ≠ .check i) (hn : a ≠ .next i) :
    reader s' (g.observe cfg s a) i = { reader s g i with position := s'.consumer i } := by
  obtain ⟨h1, h2, h3⟩ := observe_reader cfg s g hc hn
  simp only [reader, h1, h2, h3]

theorem turn_of_other {a : Act σ} {i : ℕ} (hc : a ≠ .check i) (hn : a ≠ .next i)
    (hpos : s'.consumer i = s.consumer i ∨ s'.consumer i = s.notifyAll.consumer i) :
    Turn s (reader s g i) (reader s' (g.observe cfg s a) i) := by
  rw [reader_of_other hc hn]
  rcases hpos with hpos | hpos
  · rw [hpos]; exact .rest
  · rw [hpos]; exact turn_notifyAll i

/-- The locked section of `__iter__`. -/
theorem turn_check {i n : ℕ} (hi : s.consumer i = .ready n ∨ s.consumer i = .woken n) :
    Turn s (reader s g i) (reader (s.check i n) (g.observe cfg s (.check i)) i) := by
  by_cases hav : s.available n = []
  · cases ha : s.isAlive with
    | true =>
      have : reader (s.check i n) (g.observe cfg s (.check i)) i =
          { reader s g i with position := .waiting n } := by
        rcases hi with hi | hi <;> simp [reader, Log.observe, check, hi, hav, ha]
      rw [this]
      exact .wait hi
    | false =>
      have : reader (s.check i n) (g.observe cfg s (.check i)) i =
          { reader s g i with position := .done, ended := some s } := by
        rcases hi with hi | hi <;> simp [reader, Log.observe, check, hi, hav, ha]
      rw [this]
      exact .finish hi hav ha
  · have : reader (s.check i n) (g.observe cfg s (.check i)) i =
        { reader s g i with position := .yielding n (s.available n), taken := s } := by
      rcases hi with hi | hi <;> simp [reader, Log.observe, check, hi, hav]
    rw [this]
    exact .take hi hav

/-- **One step of the system is one turn of every iterator.** -/
theorem turn_step {a : Act σ} (hs : Stepped cfg s a s') (i : ℕ) :
    Turn s (reader s g i) (reader s' (g.observe cfg s a) i) := by
  cases hs with
  | @start c ok _ =>
    exact turn_of_other (by simp) (by simp) (Or.inl (congrFun (start_consumer s ok) i))
  | @stop c d _ =>
    exact turn_of_other (by simp) (by simp) (Or.inr (congrFun (stop_consumer s c d) i))
  | @worker t m q hf =>
    refine turn_of_other (by simp) (by simp) ?_
    generalize s.worker t = p at hf
    cases hf with
    | publish => exact Or.inr rfl
    | notify => exact Or.inr rfl
    | _ => exact Or.inl rfl
  | @iter j hj =>
    by_cases hne : i = j
    · subst hne
      rw [reader_of_other (by simp) (by simp), setConsumer_consumer, Function.update_self]
      exact .begin hj
    · exact turn_of_other (by simp) (by simp)
        (Or.inl (by rw [setConsumer_consumer, Function.update_of_ne hne]))
  | @check j n hj =>
    by_cases hne : i = j
    · subst hne; exact turn_check hj
    · refine turn_of_other (by simpa using Ne.symm hne) (by simp) (Or.inl ?_)
      unfold check; split_ifs <;> rw [setConsumer_consumer, Function.update_of_ne hne]
  | @next j n e rest hj =>
    by_cases hne : i = j
    · subst hne
      have : reader (s.setConsumer i (.yielding (e.sequence + 1) rest))
          (g.observe cfg s (.next i)) i = { reader s g i with
            position := .yielding (e.sequence + 1) rest
            yielded := (reader s g i).yielded ++ [(e, (reader s g i).taken)] } := by
        simp [reader, Log.observe, hj]
      rw [this]
      exact .yield hj
    · exact turn_of_other (by simp) (by simpa using Ne.symm hne)
        (Or.inl (by rw [setConsumer_consumer, Function.update_of_ne hne]))
  | @again j n hj =>
    by_cases hne : i = j
    · subst hne
      have : reader (s.setConsumer i (.ready n)) (g.observe cfg s (.next i)) i =
          { reader s g i with position := .ready n } := by
        simp [reader, Log.observe, hj]
      rw [this]
      exact .again hj
    · exact turn_of_other (by simp) (by simpa using Ne.symm hne)
        (Or.inl (by rw [setConsumer_consumer, Function.update_of_ne hne]))
  | _ => exact turn_of_other (by simp) (by simp) (Or.inl rfl)

/-! ## The cursor -/

/-- In a ring sorted by number, the first entry from `n` on is the least such, and
    what follows it is what is left from the number after it. -/
theorem available_cons {u : Sampler σ} {n : ℕ} {e : Entry σ} {rest : List (Entry σ)}
    (hsorted : u.history.Pairwise fun e f => e.sequence < f.sequence)
    (h : u.available n = e :: rest) :
    e ∈ u.history ∧ n ≤ e.sequence ∧ (∀ f ∈ u.history, n ≤ f.sequence → e.sequence ≤ f.sequence) ∧
      rest = u.available (e.sequence + 1) := by
  simp only [available] at h ⊢
  generalize u.history = l at hsorted h
  induction l with
  | nil => cases h
  | cons f l ih =>
    obtain ⟨hf, hl⟩ := List.pairwise_cons.1 hsorted
    by_cases hn : n ≤ f.sequence
    · rw [List.filter_cons_of_pos (by simpa using hn)] at h
      obtain ⟨rfl, hrest⟩ := List.cons.inj h
      refine ⟨List.mem_cons_self, hn, ?_, ?_⟩
      · intro k hk _
        rcases List.mem_cons.1 hk with rfl | hk
        · exact le_refl _
        · exact Nat.le_of_lt (hf k hk)
      · rw [List.filter_cons_of_neg (by simp), ← hrest]
        refine List.filter_congr ?_
        intro k hk
        have := hf k hk
        rw [decide_eq_decide]
        omega
    · rw [List.filter_cons_of_neg (by simpa using hn)] at h
      obtain ⟨hmem, hle, hmin, hrest⟩ := ih hl h
      refine ⟨List.mem_cons_of_mem _ hmem, hle, ?_, ?_⟩
      · intro k hk hnk
        rcases List.mem_cons.1 hk with rfl | hk
        · exact absurd hnk hn
        · exact hmin k hk hnk
      · rw [List.filter_cons_of_neg (by simp; omega)]
        exact hrest

theorem Holds.sorted {u : Sampler σ} {xs : List (σ × ℚ)} (h : Holds cfg u xs) :
    u.history.Pairwise fun e f => e.sequence < f.sequence := by
  have : (u.history.map Entry.sequence).Pairwise (· < ·) := by
    rw [h.history, map_sequence_lastOf]
    exact List.pairwise_lt_range'
  exact List.pairwise_map.1 this

theorem Holds.mem {u : Sampler σ} {xs : List (σ × ℚ)} (h : Holds cfg u xs) {e : Entry σ}
    (he : e ∈ u.history) : e ∈ numbered xs ∧ 1 ≤ e.sequence ∧ e.sequence ≤ u.sequence := by
  rw [h.history] at he
  have hmem := (mem_lastOf_sequence xs).1 ⟨e, he, rfl⟩
  rw [h.sequence]
  exact ⟨List.mem_of_mem_drop he, hmem.2⟩

/-- An iterator with nothing to take has passed the newest entry. -/
theorem Holds.exhausted {u : Sampler σ} {xs : List (σ × ℚ)} (h : Holds cfg u xs) {n : ℕ}
    (hav : u.available n = []) (hn : 1 ≤ n) : u.sequence < n := by
  by_contra hle
  have hpos := cfg.bufferSize_pos
  have hseq := h.sequence
  obtain ⟨e, he, heq⟩ := (mem_lastOf_sequence xs (c := cfg.bufferSize)).2
    (show xs.length < u.sequence + cfg.bufferSize ∧ 1 ≤ u.sequence ∧ u.sequence ≤ xs.length by omega)
  rw [← h.history] at he
  have := List.filter_eq_nil_iff.1 hav e he
  simp only [decide_eq_true_eq] at this
  omega

/-- The state of an iterator that has followed the ring so far. -/
structure Follows (cfg : SamplerConfig) (published : List (σ × ℚ)) (r : Reader σ) : Prop where
  delivered : Delivered r.yielded
  genuine : ∀ y ∈ r.yielded, y.1 ∈ numbered published
  position : match r.position with
    | .absent => r.yielded = []
    | .ready n | .waiting n | .woken n => n = lastSequence r.yielded + 1
    | .yielding n batch => n = lastSequence r.yielded + 1 ∧ batch = r.taken.available n ∧
        ∃ xs, xs <+: published ∧ Holds cfg r.taken xs
    | .done => ∃ u, r.ended = some u ∧ u.isAlive = false ∧ u.sequence ≤ lastSequence r.yielded

theorem numbered_mono {xs ys : List (σ × ℚ)} (h : xs <+: ys) : numbered xs <+: numbered ys := by
  obtain ⟨zs, rfl⟩ := h
  rw [numbered, numbered, List.zipIdx_append, List.map_append]
  exact List.prefix_append _ _

theorem Follows.mono {published published' : List (σ × ℚ)} {r : Reader σ}
    (h : Follows cfg published r) (hpre : published <+: published') :
    Follows cfg published' r := by
  refine ⟨h.delivered, fun y hy => (numbered_mono hpre).subset (h.genuine y hy), ?_⟩
  have hpos := h.position
  split at hpos
  case h_5 =>
    obtain ⟨hn, hb, xs, hxs, hh⟩ := hpos
    exact ⟨hn, hb, xs, hxs.trans hpre, hh⟩
  all_goals exact hpos

/-- **One turn keeps an iterator on the ring.** -/
theorem Follows.turn {published : List (σ × ℚ)} {r r' : Reader σ} (h : Follows cfg published r)
    (hs : Holds cfg s published) (ht : Turn s r r') : Follows cfg published r' := by
  obtain ⟨hd, hg, hpos⟩ := h
  cases ht with
  | rest => exact ⟨hd, hg, hpos⟩
  | wake hp => rw [hp] at hpos; exact ⟨hd, hg, hpos⟩
  | begin hp => rw [hp] at hpos; exact ⟨hd, hg, by simp [hpos]⟩
  | @take n hp _ =>
    have hn : n = lastSequence r.yielded + 1 := by
      rcases hp with hp | hp <;> rw [hp] at hpos <;> exact hpos
    exact ⟨hd, hg, hn, rfl, published, List.prefix_refl _, hs⟩
  | @wait n hp =>
    have hn : n = lastSequence r.yielded + 1 := by
      rcases hp with hp | hp <;> rw [hp] at hpos <;> exact hpos
    exact ⟨hd, hg, hn⟩
  | @finish n hp hav hdead =>
    have hn : n = lastSequence r.yielded + 1 := by
      rcases hp with hp | hp <;> rw [hp] at hpos <;> exact hpos
    have hlt := hs.exhausted hav (by omega)
    exact ⟨hd, hg, s, rfl, hdead, by show s.sequence ≤ lastSequence r.yielded; omega⟩
  | @yield n e rest hp =>
    rw [hp] at hpos
    obtain ⟨hn, hbatch, xs, hxs, hh⟩ := hpos
    obtain ⟨hmem, hle, hmin, hrest⟩ := available_cons hh.sorted hbatch.symm
    obtain ⟨hnum, -, hseq⟩ := hh.mem hmem
    refine ⟨hd.snoc hmem (by omega) ?_, ?_, ?_⟩
    · intro m hm hlt
      refine ⟨by omega, by omega, ?_⟩
      intro f hf heq
      have := hmin f hf (by omega)
      omega
    · intro y hy
      rcases List.mem_append.1 hy with hy | hy
      · exact hg y hy
      · rw [List.mem_singleton.1 hy]; exact (numbered_mono hxs).subset hnum
    · exact ⟨by simp, hrest, xs, hxs, hh⟩
  | again hp => rw [hp] at hpos; exact ⟨hd, hg, hpos.1⟩

/-! ## Delivery -/

/-- What has been delivered when the log of a run that ends in `s` is `g`. -/
structure Delivery (cfg : SamplerConfig) (s : Sampler σ) (g : Log σ) : Prop where
  sequence : s.sequence = g.published.length
  /-- the ring is the newest entries, as many as it holds -/
  history : s.history = lastOf cfg.bufferSize (numbered g.published)
  numbers : s.history.map Entry.sequence = List.range'
    (s.sequence - min s.sequence cfg.bufferSize + 1) (min s.sequence cfg.bufferSize)
  buffered : s.buffered = lastOf cfg.bufferSize (g.published.map Prod.fst)
  latest : s.latest = s.buffered.getLast? ∧ s.latest = (g.published.map Prod.fst).getLast?
  increasing : ∀ i, (g.yielded i).Pairwise fun y z => y.1.sequence < z.1.sequence
  genuine : ∀ i, ∀ y ∈ g.yielded i, y.1 ∈ numbered g.published
  /-- what an iterator skips had left the ring when it took its batch -/
  skipped : ∀ i pre e u post, g.yielded i = pre ++ (e, u) :: post →
    e ∈ u.history ∧ ∀ m, lastSequence pre < m → m < e.sequence → u.Evicted m
  /-- an iterator that ends has seen to everything published before -/
  ended : ∀ i, s.consumer i = .done → ∃ u, g.ended i = some u ∧ u.isAlive = false ∧
    ∀ m, 1 ≤ m → m ≤ u.sequence →
      ∃ y ∈ g.yielded i, y.1.sequence = m ∨ (m < y.1.sequence ∧ y.2.Evicted m)
  called : cfg.hasCallback = true →
    g.called <+: g.published.map Prod.fst ∧ g.published.length ≤ g.called.length + 1

/-- The invariant that carries the delivery along a run. -/
structure Tracks (cfg : SamplerConfig) (s : Sampler σ) (g : Log σ) : Prop where
  sole : s.Sole
  ring : Holds cfg s g.published
  calls : cfg.hasCallback = true → Calls s g
  reader : ∀ i, Follows cfg g.published (reader s g i)

theorem tracks_initial : Tracks cfg (initial : Sampler σ) Log.empty where
  sole := sole_initial
  ring := ⟨rfl, by simp [initial, Log.empty, numbered, lastOf]⟩
  calls _ := Or.inr ⟨by simp [initial], rfl⟩
  reader i := ⟨.nil, by simp [Sampler.reader, Log.empty], rfl⟩

theorem Tracks.step (h : Tracks cfg s g) {a : Act σ} (hs : Stepped cfg s a s') :
    Tracks cfg s' (g.observe cfg s a) where
  sole := h.sole.step hs
  ring := h.ring.step hs
  calls hcb := (h.calls hcb).step hcb h.sole hs
  reader i := by
    refine ((h.reader i).turn h.ring (turn_step hs i)).mono ?_
    rcases published_step (g := g) hs with ⟨t, x, at', -, -, hpub⟩ | ⟨-, -, hpub⟩
    · rw [hpub]; exact List.prefix_append _ _
    · exact hpub.symm ▸ List.prefix_refl g.published

theorem Tracks.delivery (h : Tracks cfg s g) : Delivery cfg s g := by
  have hbuf : s.buffered = lastOf cfg.bufferSize (g.published.map Prod.fst) := by
    rw [buffered, h.ring.history, map_lastOf, ← map_snapshot_numbered]
  have hlatest : s.latest = s.buffered.getLast? := by rw [latest, buffered, List.getLast?_map]
  constructor
  case sequence => exact h.ring.sequence
  case history => exact h.ring.history
  case numbers => rw [h.ring.history, h.ring.sequence]; exact map_sequence_lastOf _
  case buffered => exact hbuf
  case latest =>
    refine ⟨hlatest, ?_⟩
    rw [hlatest, hbuf, getLast?_lastOf cfg.bufferSize_pos]
  case increasing => intro i; exact (h.reader i).delivered.increasing
  case genuine => intro i; exact (h.reader i).genuine
  case skipped => intro i pre e u post hys; exact (h.reader i).delivered.gap hys
  case ended =>
    intro i hdone
    have hpos := (h.reader i).position
    rw [show (Sampler.reader s g i).position = .done from hdone] at hpos
    obtain ⟨u, hu, hdead, hle⟩ := hpos
    exact ⟨u, hu, hdead, fun m h1 hm => (h.reader i).delivered.covers m h1 (hm.trans hle)⟩
  case called =>
    intro hcb
    rcases h.calls hcb with ⟨t, x, -, hpub⟩ | ⟨-, hpub⟩
    · rw [← List.length_map (f := Prod.fst), hpub]
      exact ⟨List.prefix_append _ _, by simp⟩
    · rw [← List.length_map (f := Prod.fst), hpub]
      exact ⟨List.prefix_refl _, Nat.le_succ _⟩

/-- **Delivery.**  In every run of the sampler, its worker, its callers and its
    iterators, the ring, the iterators and the callback deliver what was published. -/
theorem sampler_delivery (cfg : SamplerConfig) {as : List (Act σ)} {s : Sampler σ}
    (h : (samplerLts σ cfg).exec initial as = some s) :
    Delivery cfg s ((samplerLts σ cfg).record (Log.observe cfg) initial Log.empty as) :=
  (Lts.record_inv (P := Tracks cfg) (fun _ _ _ _ hT hs => hT.step (step_cases hs))
    tracks_initial h).delivery

/-- Two samples go through a ring of one, and an iterator takes the second. -/
def overrun : List (Act Bool) :=
  [.start (.outside 0) true, .worker 0 .boot, .iter 0,
    .worker 0 .test, .worker 0 (.collected false 0), .worker 0 .publish, .worker 0 .call,
    .worker 0 .ret, .worker 0 .timeout,
    .worker 0 .test, .worker 0 (.collected true 1), .worker 0 .publish,
    .check 0, .next 0, .stop (.outside 0) defaultTimeout, .worker 0 .call, .worker 0 .abort,
    .worker 0 .notify, .worker 0 .die, .next 0, .check 0]

/-- The overrun iterator ends having yielded the second sample and skipped the first. -/
theorem sampler_delivery_overrun :
    ∃ s, (samplerLts Bool ⟨1, true, by decide, 9223372036⟩).exec initial overrun = some s ∧
      s.buffered = [true] := by
  obtain ⟨s, hs⟩ : ∃ s, (samplerLts Bool ⟨1, true, by decide, 9223372036⟩).exec initial
      overrun = some s := ⟨_, rfl⟩
  exact ⟨s, hs, (sampler_delivery _ hs).buffered.trans rfl⟩

end Sampler

end SweatMeter
