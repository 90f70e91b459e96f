/-
  Labelled transition systems with a partial step function.

  A run is a list of labels; `exec s as` is the state it ends in, if every
  label is enabled when its turn comes.  Three rules carry invariants:
  `inv_of_step` for the reachable states of the whole system, `record_inv` for
  what a run has recorded along its way, and `Guarded.inv` for the runs whose
  steps all meet a condition on the state they start from.  A measure that the
  steps lower bounds how often they are taken (`count_le_of_step`), also where some of
  them refill it (`count_le_of_refills`), and leads to where it is zero (`exists_run_of_measure`).
-/
import Mathlib.Data.List.Basic
import Mathlib.Data.Option.Basic

/-- A labelled transition system: an initial state and a partial step function. -/
structure Lts (S A : Type*) where
  init : S
  step : S → A → Option S

namespace Lts

/-- Where an element of a list lies that has grown by one at its end. -/
theorem split_snoc {α : Type*} {l pre post : List α} {x y : α} (h : l ++ [y] = pre ++ x :: post) :
    (l = pre ∧ y = x ∧ post = []) ∨ ∃ post', l = pre ++ x :: post' := by
  rcases List.eq_nil_or_concat post with rfl | ⟨post', z, rfl⟩
  · obtain ⟨h1, h2⟩ := List.append_inj' h rfl
    exact Or.inl ⟨h1, by simpa using h2, rfl⟩
  · rw [List.concat_eq_append, ← List.cons_append, ← List.append_assoc] at h
    exact Or.inr ⟨post', (List.append_inj' h rfl).1⟩

variable {S A : Type*} (L : Lts S A)

/-- The state after the labels `as`, taken in order from `s`. -/
def exec (s : S) : List A → Option S
  | [] => some s
  | a :: as => (L.step s a).bind fun s' => exec s' as

variable {L}

@[simp] theorem exec_nil (s : S) : L.exec s [] = some s := rfl

theorem exec_cons (s : S) (a : A) (as : List A) :
    L.exec s (a :: as) = (L.step s a).bind fun s' => L.exec s' as := rfl

theorem exec_cons_eq {s s' : S} {a : A} {as : List A} :
    L.exec s (a :: as) = some s' ↔ ∃ u, L.step s a = some u ∧ L.exec u as = some s' := by
  rw [exec_cons, Option.bind_eq_some_iff]

theorem exec_append (s : S) (as bs : List A) :
    L.exec s (as ++ bs) = (L.exec s as).bind fun s' => L.exec s' bs := by
  induction as generalizing s with
  | nil => rfl
  | cons a as ih =>
    rw [List.cons_append, exec_cons, exec_cons, Option.bind_assoc]
    exact congrArg _ (funext fun u => ih u)

theorem exec_append_eq {s s' : S} {as bs : List A} :
    L.exec s (as ++ bs) = some s' ↔ ∃ u, L.exec s as = some u ∧ L.exec u bs = some s' := by
  rw [exec_append, Option.bind_eq_some_iff]

theorem exec_snoc_eq {s s' : S} {as : List A} {a : A} :
    L.exec s (as ++ [a]) = some s' ↔ ∃ u, L.exec s as = some u ∧ L.step u a = some s' := by
  simp only [exec_append_eq, exec_cons_eq, exec_nil, Option.some.injEq, exists_eq_right]

/-! ## Invariants of all runs -/

/-- A property kept by the steps of these labels is kept by a run of them. -/
theorem inv_of_labels {P : S → Prop} {Q : A → Prop}
    (hstep : ∀ s a s', Q a → P s → L.step s a = some s' → P s')
    {s s' : S} {as : List A} (hQ : ∀ a ∈ as, Q a) (hs : P s) (h : L.exec s as = some s') :
    P s' := by
  induction as generalizing s with
  | nil => cases h; exact hs
  | cons a as ih =>
    obtain ⟨u, hu, h⟩ := exec_cons_eq.1 h
    have hP := hstep s a u (hQ a List.mem_cons_self) hs hu
    exact ih (fun b hb => hQ b (List.mem_cons_of_mem _ hb)) hP h

/-- A property kept by every step is kept by every run. -/
theorem inv_of_step {P : S → Prop} (hstep : ∀ s a s', P s → L.step s a = some s' → P s')
    {s s' : S} {as : List A} (hs : P s) (h : L.exec s as = some s') : P s' :=
  inv_of_labels (Q := fun _ => True) (fun s a s' _ => hstep s a s') (fun _ _ => trivial) hs h

/-- A quantity that no label of the run changes is the same at both ends. -/
theorem const_of_step {α : Type*} {f : S → α} {Q : A → Prop}
    (hstep : ∀ s a s', Q a → L.step s a = some s' → f s' = f s)
    {s s' : S} {as : List A} (hQ : ∀ a ∈ as, Q a) (h : L.exec s as = some s') : f s' = f s := by
  refine inv_of_labels (P := fun u => f u = f s) ?_ hQ rfl h
  intro u a u' ha hu hstep'
  rw [hstep u a u' ha hstep', hu]

/-! ## History variables -/

section
variable {H : Type*} (L)

/-- A quantity recorded along a run: `observe s a h` is its value after the
    label `a` was taken in `s`. -/
def record (observe : S → A → H → H) (s : S) (h : H) : List A → H
  | [] => h
  | a :: as => match L.step s a with
    | some s' => record observe s' (observe s a h) as
    | none => h

variable {L}

theorem record_append {observe : S → A → H → H} {s u : S} {h : H} {as : List A}
    (hexec : L.exec s as = some u) (bs : List A) :
    L.record observe s h (as ++ bs) = L.record observe u (L.record observe s h as) bs := by
  induction as generalizing s h with
  | nil => cases hexec; rfl
  | cons a as ih =>
    obtain ⟨v, hv, hexec⟩ := exec_cons_eq.1 hexec
    rw [List.cons_append, record, record, hv]
    exact ih hexec

/-- What a run records of its labels only. -/
theorem record_labels {B : Type*} (f : A → Option B) {s s' : S} {as : List A} (bs : List B)
    (hexec : L.exec s as = some s') :
    L.record (fun _ a bs => bs ++ (f a).toList) s bs as = bs ++ as.filterMap f := by
  induction as generalizing s bs with
  | nil => simp [record]
  | cons a as ih =>
    obtain ⟨u, hu, hexec⟩ := exec_cons_eq.1 hexec
    rw [record, hu]
    simp only [ih _ hexec, List.append_assoc]
    congr 1
    cases hf : f a <;> simp [hf]

/-- Two records of one run. -/
theorem record_prod {K : Type*} (f : S → A → H → H) (g : S → A → K → K) (s : S) (h : H) (k : K)
    (as : List A) :
    L.record (fun s a x => (f s a x.1, g s a x.2)) s (h, k) as =
      (L.record f s h as, L.record g s k as) := by
  induction as generalizing s h k with
  | nil => rfl
  | cons a as ih =>
    rw [record, record, record]
    cases L.step s a with
    | none => rfl
    | some u => exact ih u _ _

/-- A relation between the state and the record that the steps of these labels
    keep is kept by a run of them. -/
theorem record_inv_of_labels {observe : S → A → H → H} {P : S → H → Prop} {Q : A → Prop}
    (hstep : ∀ s a s' h, Q a → P s h → L.step s a = some s' → P s' (observe s a h))
    {s s' : S} {h : H} {as : List A} (hQ : ∀ a ∈ as, Q a) (hP : P s h)
    (hexec : L.exec s as = some s') : P s' (L.record observe s h as) := by
  induction as generalizing s h with
  | nil => cases hexec; exact hP
  | cons a as ih =>
    obtain ⟨u, hu, hexec⟩ := exec_cons_eq.1 hexec
    rw [record, hu]
    have hP := hstep s a u h (hQ a List.mem_cons_self) hP hu
    exact ih (fun b hb => hQ b (List.mem_cons_of_mem _ hb)) hP hexec

/-- A relation between the state and the record that every step keeps is kept
    by every run. -/
theorem record_inv {observe : S → A → H → H} {P : S → H → Prop}
    (hstep : ∀ s a s' h, P s h → L.step s a = some s' → P s' (observe s a h))
    {s s' : S} {h : H} {as : List A} (hP : P s h) (hexec : L.exec s as = some s') :
    P s' (L.record observe s h as) :=
  record_inv_of_labels (Q := fun _ => True) (fun s a s' h _ => hstep s a s' h)
    (fun _ _ => trivial) hP hexec

end

/-! ## Measures -/

/-- If every step of these labels lowers the measure, by one or more where it is counted,
    and a refill raises it by `k` besides, a run counts no more steps than the measure it
    starts from and its refills. -/
theorem count_le_of_refills {P : S → Prop} {Q : A → Prop} {μ : S → ℕ} {c d : A → Bool} {k : ℕ}
    (hstep : ∀ s a s', Q a → P s → L.step s a = some s' →
      P s' ∧ μ s' + (if c a then 1 else 0) ≤ μ s + if d a then k else 0)
    {s s' : S} {as : List A} (hQ : ∀ a ∈ as, Q a) (hs : P s) (h : L.exec s as = some s') :
    μ s' + as.countP c ≤ μ s + k * as.countP d := by
  induction as generalizing s with
  | nil => cases h; simp
  | cons a as ih =>
    obtain ⟨u, hu, h⟩ := exec_cons_eq.1 h
    obtain ⟨hP, hμ⟩ := hstep s a u (hQ a List.mem_cons_self) hs hu
    have hrest := ih (fun b hb => hQ b (List.mem_cons_of_mem _ hb)) hP h
    have hrefill : k * (as.countP d + if d a then 1 else 0) =
        k * as.countP d + if d a then k else 0 := by
      rw [Nat.mul_add]
      split <;> simp
    rw [List.countP_cons, List.countP_cons, hrefill]
    omega

/-- A quantity that goes up by one with the steps counted, and with no other. -/
theorem eq_add_count {P : S → Prop} {Q : A → Prop} {μ : S → ℕ} {c : A → Bool}
    (hstep : ∀ s a s', Q a → P s → L.step s a = some s' →
      P s' ∧ μ s' = μ s + if c a then 1 else 0)
    {s s' : S} {as : List A} (hQ : ∀ a ∈ as, Q a) (hs : P s) (h : L.exec s as = some s') :
    μ s' = μ s + as.countP c := by
  induction as generalizing s with
  | nil => cases h; simp
  | cons a as ih =>
    obtain ⟨u, hu, h⟩ := exec_cons_eq.1 h
    obtain ⟨hP, hμ⟩ := hstep s a u (hQ a List.mem_cons_self) hs hu
    rw [ih (fun b hb => hQ b (List.mem_cons_of_mem _ hb)) hP h, hμ, List.countP_cons]
    omega

/-- If every step of these labels lowers the measure, by one or more where it is
    counted, a run of them counts no more steps than the measure it starts from. -/
theorem count_le_of_labels {P : S → Prop} {Q : A → Prop} {μ : S → ℕ} {c : A → Bool}
    (hstep : ∀ s a s', Q a → P s → L.step s a = some s' →
      P s' ∧ μ s' + (if c a then 1 else 0) ≤ μ s)
    {s s' : S} {as : List A} (hQ : ∀ a ∈ as, Q a) (hs : P s) (h : L.exec s as = some s') :
    μ s' + as.countP c ≤ μ s := by
  have hcount := count_le_of_refills (d := fun _ => false) (k := 0)
    (fun s a s' ha hs h => by simpa using hstep s a s' ha hs h) hQ hs h
  omega

/-- The same for all labels. -/
theorem count_le_of_step {P : S → Prop} {μ : S → ℕ} {c : A → Bool}
    (hstep : ∀ s a s', P s → L.step s a = some s' →
      P s' ∧ μ s' + (if c a then 1 else 0) ≤ μ s)
    {s s' : S} {as : List A} (hs : P s) (h : L.exec s as = some s') :
    μ s' + as.countP c ≤ μ s :=
  count_le_of_labels (Q := fun _ => True) (fun s a s' _ => hstep s a s') (fun _ _ => trivial) hs h

/-- A state from which some step always lowers a measure, until it is zero, gets there. -/
theorem exists_run_of_measure {P : S → Prop} {μ : S → ℕ} {Q : A → Prop}
    (hstep : ∀ s, P s → μ s ≠ 0 → ∃ a s', Q a ∧ L.step s a = some s' ∧ P s' ∧ μ s' < μ s)
    {s : S} (hs : P s) :
    ∃ as s', (∀ a ∈ as, Q a) ∧ as.length ≤ μ s ∧ L.exec s as = some s' ∧ P s' ∧ μ s' = 0 := by
  induction hn : μ s using Nat.strongRecOn generalizing s with
  | ind n ih =>
    by_cases hzero : μ s = 0
    · exact ⟨[], s, by simp, by simp, rfl, hs, hzero⟩
    · obtain ⟨a, u, ha, hu, hP, hlt⟩ := hstep s hs hzero
      obtain ⟨as, s', has, hlen, hexec, hP', hzero'⟩ := ih (μ u) (by omega) hP rfl
      refine ⟨a :: as, s', List.forall_mem_cons.2 ⟨ha, has⟩, ?_, exec_cons_eq.2 ⟨u, hu, hexec⟩, hP',
        hzero'⟩
      rw [List.length_cons]
      omega

/-! ## Runs whose steps meet a condition -/

variable (L) in
/-- Every step of the run `as` from `s` meets the condition `G` in the state it is taken in. -/
def Guarded (G : S → A → Prop) (s : S) : List A → Prop
  | [] => True
  | a :: as => G s a ∧ match L.step s a with
    | some s' => Guarded G s' as
    | none => True

instance Guarded.decidable (G : S → A → Prop) [∀ s a, Decidable (G s a)] :
    ∀ (s : S) (as : List A), Decidable (L.Guarded G s as)
  | _, [] => isTrue trivial
  | s, a :: as => by
    unfold Guarded
    exact @instDecidableAnd _ _ _ (match L.step s a with
      | some s' => Guarded.decidable G s' as
      | none => isTrue trivial)

theorem Guarded.cons {G : S → A → Prop} {s u : S} {a : A} {as : List A}
    (hG : L.Guarded G s (a :: as)) (hu : L.step s a = some u) : G s a ∧ L.Guarded G u as := by
  obtain ⟨ha, h⟩ := hG
  rw [hu] at h; exact ⟨ha, h⟩

/-- A run is guarded exactly if each of its labels meets the condition in the
    state it is reached in. -/
theorem guarded_iff {G : S → A → Prop} {s : S} {as : List A} :
    L.Guarded G s as ↔
      ∀ pre a u, pre ++ [a] <+: as → L.exec s pre = some u → G u a := by
  constructor
  · intro hG pre a u hpre hu
    obtain ⟨post, rfl⟩ := hpre
    induction pre generalizing s with
    | nil => cases hu; exact hG.1
    | cons b pre ih =>
      obtain ⟨v, hv, hu⟩ := exec_cons_eq.1 hu
      exact ih hu (hG.cons hv).2
  · intro h
    induction as generalizing s with
    | nil => trivial
    | cons b as ih =>
      refine ⟨h [] b s (List.prefix_append [b] as) rfl, ?_⟩
      cases hv : L.step s b with
      | none => trivial
      | some v =>
        refine ih fun pre a u hpre hu => h (b :: pre) a u (List.cons_prefix_cons.2 ⟨rfl, hpre⟩) ?_
        exact exec_cons_eq.2 ⟨v, hv, hu⟩

theorem Guarded.of_initial {G : S → A → Prop} {s : S} {as pre : List A} (h : L.Guarded G s as)
    (hpre : pre <+: as) : L.Guarded G s pre :=
  guarded_iff.2 fun q a u hq hu => guarded_iff.1 h q a u (hq.trans hpre) hu

/-- A property kept by every step that meets `G` is kept by every run guarded by `G`. -/
theorem Guarded.inv {G : S → A → Prop} {P : S → Prop}
    (hstep : ∀ s a s', G s a → P s → L.step s a = some s' → P s')
    {s s' : S} {as : List A} (hG : L.Guarded G s as) (hs : P s) (h : L.exec s as = some s') :
    P s' := by
  induction as generalizing s with
  | nil => cases h; exact hs
  | cons a as ih =>
    obtain ⟨u, hu, h⟩ := exec_cons_eq.1 h
    obtain ⟨ha, hG⟩ := hG.cons hu
    exact ih hG (hstep s a u ha hs hu) h

end Lts
