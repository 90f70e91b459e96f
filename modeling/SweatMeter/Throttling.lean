/-
  The throttle reasons of the two NVIDIA backends.

  Both list the reasons whose bits are set in both masks, but each in the order of
  its own table, and these differ: `_THROTTLE_FIELDS` has the two hardware reasons
  before sync boost and the thermal slowdown by software, `_THROTTLE_BITS` after.
  And NVML has the reasons available where any bit is supported, the command where
  a named one is.
-/
import SweatMeter.Backends

namespace SweatMeter

open Py

/-! ## The two orders -/

/-- The reasons both tables start with. -/
def leadingReasons : List String :=
  ["gpu_idle", "applications_clocks_setting", "sw_power_cap", "hw_slowdown"]

/-- The reasons `_THROTTLE_FIELDS` has next. -/
def hardwareReasons : List String := ["hw_thermal_slowdown", "hw_power_brake_slowdown"]

/-- The reasons `_THROTTLE_BITS` has next. -/
def softwareReasons : List String := ["sync_boost", "sw_thermal_slowdown"]

theorem throttleFields_names :
    throttleFields.map Prod.fst = leadingReasons ++ hardwareReasons ++ softwareReasons := rfl

theorem throttleBits_names :
    throttleBits.map Prod.fst = leadingReasons ++ softwareReasons ++ hardwareReasons := rfl

/-- Two disjoint lists commute only if one of them is empty. -/
theorem append_comm_iff {α : Type} {xs ys : List α} (h : xs.Disjoint ys) :
    xs ++ ys = ys ++ xs ↔ xs = [] ∨ ys = [] := by
  constructor
  · intro heq
    cases xs with
    | nil => exact .inl rfl
    | cons x xs => cases ys with
      | nil => exact .inr rfl
      | cons y ys =>
        cases (List.cons.inj heq).1
        exact absurd List.mem_cons_self (h List.mem_cons_self)
  · rintro (rfl | rfl) <;> simp

namespace GpuDevice

variable (d : GpuDevice)

/-- The reason is set in both masks. -/
def Active (name : String) : Prop :=
  d.supported &&& throttleBit name ≠ 0 ∧ d.current &&& throttleBit name ≠ 0

instance : DecidablePred d.Active := fun _ => inferInstanceAs (Decidable (_ ∧ _))

/-- A named reason is supported. -/
def Named : Prop := ∃ p ∈ throttleFields, d.supported &&& throttleBit p.1 ≠ 0

instance : Decidable d.Named := inferInstanceAs (Decidable (∃ p ∈ throttleFields, _))

/-- The active reasons are the same in both orders. -/
def Ordered : Prop :=
  (∀ name ∈ hardwareReasons, ¬ d.Active name) ∨ ∀ name ∈ softwareReasons, ¬ d.Active name

theorem filter_order_iff :
    (throttleFields.map Prod.fst).filter d.Active = (throttleBits.map Prod.fst).filter d.Active ↔
      d.Ordered := by
  have hdisjoint : (hardwareReasons.filter d.Active).Disjoint (softwareReasons.filter d.Active) := by
    have hnames : ∀ name ∈ hardwareReasons, name ∉ softwareReasons := by decide
    intro name hname hname'
    exact hnames name (List.mem_of_mem_filter hname) (List.mem_of_mem_filter hname')
  rw [throttleFields_names, throttleBits_names]
  simp only [List.filter_append, List.append_assoc, List.append_cancel_left_eq]
  rw [append_comm_iff hdisjoint]
  simp only [List.filter_eq_nil_iff, decide_eq_true_eq, Ordered]

/-! ## Reasons of a printed row -/

theorem lookup_throttle (i : ℕ) {p : String × String} (hp : p ∈ throttleFields) :
    (toRow throttleColumns (d.throttleCells i)).lookup p.2 = some (parseCell (d.throttleCell p.1)) := by
  simp only [throttleFields, List.mem_cons, List.not_mem_nil, or_false] at hp
  rcases hp with rfl | rfl | rfl | rfl | rfl | rfl | rfl | rfl <;> rfl

/-- What a throttle column says. -/
theorem throttleState_eq (i : ℕ) {p : String × String} (hp : p ∈ throttleFields) :
    throttleState (toRow throttleColumns (d.throttleCells i)) p.2 =
      if d.supported &&& throttleBit p.1 = 0 then none
      else if d.current &&& throttleBit p.1 = 0 then some "not active".toList
      else some "active".toList := by
  have hnotActive : parseCell "Not Active".toList = some "Not Active".toList := rfl
  have hactive : parseCell "Active".toList = some "Active".toList := rfl
  rw [throttleState, d.lookup_throttle i hp, throttleCell]
  split_ifs
  · rw [parseCell_notAvailable]
  · rw [hnotActive]
    decide
  · rw [hactive]
    decide

theorem throttleState_active (i : ℕ) {p : String × String} (hp : p ∈ throttleFields) :
    throttleState (toRow throttleColumns (d.throttleCells i)) p.2 = some "active".toList ↔
      d.Active p.1 := by
  have hne : "not active".toList ≠ "active".toList := by decide
  rw [d.throttleState_eq i hp, Active]
  split_ifs with hs hc <;> simp_all

theorem throttleState_recognized (i : ℕ) {p : String × String} (hp : p ∈ throttleFields) :
    (throttleState (toRow throttleColumns (d.throttleCells i)) p.2 = some "active".toList ∨
      throttleState (toRow throttleColumns (d.throttleCells i)) p.2 = some "not active".toList) ↔
        d.supported &&& throttleBit p.1 ≠ 0 := by
  rw [d.throttleState_eq i hp]
  split_ifs with hs hc <;> simp_all

/-- The reasons of a row are those active, in the order of the columns. -/
theorem rowThrottle_eq (i : ℕ) :
    rowThrottle (toRow throttleColumns (d.throttleCells i)) =
      ((throttleFields.map Prod.fst).filter d.Active, decide d.Named) := by
  refine Prod.ext ?_ ?_
  · rw [rowThrottle, List.filter_map]
    refine congrArg (List.map Prod.fst) (List.filter_congr fun p hp => ?_)
    exact decide_eq_decide.2 (d.throttleState_active i hp)
  · rw [Bool.eq_iff_iff, decide_eq_true_eq, rowThrottle, List.any_eq_true]
    refine exists_congr fun p => and_congr_right fun hp => ?_
    rw [decide_eq_true_eq, d.throttleState_recognized i hp]

/-- The reasons NVML lists are those active, in the order of the bits. -/
theorem activeBits_eq :
    activeBits d.supported d.current = (throttleBits.map Prod.fst).filter d.Active := by
  have hbits : ∀ p ∈ throttleBits, throttleBit p.1 = p.2 := by decide
  rw [activeBits, List.filter_map]
  refine congrArg (List.map Prod.fst) (List.filter_congr fun p hp => ?_)
  refine decide_eq_decide.2 ?_
  rw [Active, hbits p hp]

/-- The tuple and the flag of a device do not depend on the backend. -/
def SameThrottling (c : SmiCall) (ds : List GpuDevice) : Prop :=
  d.supported = 0 ∨ throttleTableBytes ds ≤ c.maxOutputBytes ∧ d.Named ∧ d.Ordered

theorem not_named_of_supported (h : d.supported = 0) : ¬ d.Named := by
  rintro ⟨p, -, hp⟩
  rw [h, Nat.zero_and] at hp
  exact hp rfl

theorem filter_active_of_supported (h : d.supported = 0) (names : List String) :
    names.filter d.Active = [] := by
  rw [List.filter_eq_nil_iff]
  intro name _ hactive
  have := (of_decide_eq_true hactive).1
  rw [h, Nat.zero_and] at this
  exact this rfl

end GpuDevice

/-! ## Agreement -/

/-- The same device with the same throttle reasons, as available. -/
structure SameThrottle (s t : GpuSample Number) : Prop where
  index : s.index = t.index
  reasons : s.throttleReasons = t.throttleReasons
  available : s.throttleReasonsAvailable = t.throttleReasonsAvailable

theorem sameThrottle_iff {c : SmiCall} {ds : List GpuDevice} {B : NvmlBinding} {i : ℕ}
    {d : GpuDevice} {s : GpuSample Number} (hd : B.ReportsDevice i d) (hs : B.SampleOf i s) :
    SameThrottle (smiSample c ds (d, i)) s ↔ d.SameThrottling c ds := by
  have hnvml := hs.throttle.trans hd.throttle_eq
  have hsmi : ((smiSample c ds (d, i)).throttleReasons,
      (smiSample c ds (d, i)).throttleReasonsAvailable) =
      if c.maxOutputBytes < throttleTableBytes ds then ([], false)
        else rowThrottle (toRow throttleColumns (d.throttleCells i)) := rfl
  have hsame : SameThrottle (smiSample c ds (d, i)) s ↔
      ((smiSample c ds (d, i)).throttleReasons,
        (smiSample c ds (d, i)).throttleReasonsAvailable) =
          (s.throttleReasons, s.throttleReasonsAvailable) := by
    constructor
    · intro h
      exact Prod.ext h.reasons h.available
    · intro h
      exact ⟨hs.index.symm, congrArg Prod.fst h, congrArg Prod.snd h⟩
  rw [hsame, hsmi, hnvml, d.rowThrottle_eq, d.activeBits_eq, GpuDevice.SameThrottling]
  by_cases h0 : d.supported = 0
  · rw [if_pos h0, d.filter_active_of_supported h0, decide_eq_false (d.not_named_of_supported h0),
      ite_self]
    exact iff_of_true rfl (.inl h0)
  · rw [if_neg h0]
    split_ifs with hbytes
    · refine iff_of_false (fun h => Bool.false_ne_true (congrArg Prod.snd h)) ?_
      rintro (h | ⟨h, -⟩)
      · exact h0 h
      · omega
    · rw [Prod.mk.injEq, d.filter_order_iff, decide_eq_true_eq]
      constructor
      · rintro ⟨horder, hnamed⟩
        exact .inr ⟨not_lt.1 hbytes, hnamed, horder⟩
      · rintro (h | ⟨-, hnamed, horder⟩)
        · exact absurd h h0
        · exact ⟨horder, hnamed⟩

/-- **The backends agree on throttling** for devices that both can read, exactly
    if no device supports unnamed reasons only, or has active reasons that the two
    tables order differently. -/
theorem backends_agree_on_throttling_iff {c : SmiCall} {ds : List GpuDevice} {B : NvmlBinding}
    (hc : c.Prints ds) (hB : B.Reports ds) (r : NvmlGpuReader) :
    Agree SameThrottle c.sample.outcome (r.sample ⟨.ok (), B⟩).1 ↔
      Readable c ds ∧ ∀ d ∈ ds, d.SameThrottling c ds :=
  agree_iff hc hB r fun i d _ hget _ hs => sameThrottle_iff (hB.devices i d hget) hs

/-! ## A device that throttles -/

/-- A device with throttle reasons only. -/
def throttler (supported current : ℕ) : GpuDevice :=
  { bareDevice with supported := supported, current := current }

theorem readable_throttler : Readable (printing [throttler 255 4]) [throttler 255 4] where
  length := Nat.one_le_pow _ _ (by simp)
  inRange := by
    intro d hd f n hn
    cases List.mem_singleton.1 hd
    cases f <;> cases hn
  bytes := by decide +kernel

/-- The backends agree on a device slowed down by software. -/
theorem backends_agree_on_sw_power_cap : Agree SameThrottle
    (printing [throttler 255 4]).sample.outcome
    ((NvmlGpuReader.mk true false ∅).sample ⟨.ok (), reporting [throttler 255 4]⟩).1 := by
  refine (backends_agree_on_throttling_iff (prints_printing _) (reports_reporting _) _).2
    ⟨readable_throttler, ?_⟩
  intro d hd
  cases List.mem_singleton.1 hd
  refine .inr ⟨by decide +kernel, by decide, .inl (by decide)⟩

/-- A device slowed down both by its temperature and by sync boost has its reasons
    in two orders. -/
theorem backends_order_reasons_differently :
    ¬ ∀ (c : SmiCall) (ds : List GpuDevice) (B : NvmlBinding), c.Prints ds → B.Reports ds →
      ∀ r : NvmlGpuReader, Agree SameThrottle c.sample.outcome (r.sample ⟨.ok (), B⟩).1 := by
  intro h
  have hds := h _ [throttler 255 0x50] _ (prints_printing _) (reports_reporting _) {}
  rw [agree_iff (prints_printing _) (reports_reporting _) _ fun i d _ hget _ hs =>
    sameThrottle_iff ((reports_reporting _).devices i d hget) hs] at hds
  rcases hds.2 _ List.mem_cons_self with h0 | ⟨-, -, horder⟩
  · exact absurd h0 (by decide)
  · rcases horder with horder | horder
    · exact absurd (by decide) (horder "hw_thermal_slowdown" (by decide))
    · exact absurd (by decide) (horder "sync_boost" (by decide))

end SweatMeter
