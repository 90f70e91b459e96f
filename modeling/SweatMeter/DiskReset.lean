/-
  Disk throughput across a counter reset or a change of devices.

  The reader keeps the machine-wide counters only.  Where one device's counter
  falls, or a device comes or goes, the totals may still have grown, and then the
  rate is a difference of unrelated numbers.  Over the same devices without a reset,
  the difference of the totals is the sum of the devices' increases.
-/
import Mathlib.Algebra.BigOperators.Group.Finset.Basic
import Mathlib.Algebra.BigOperators.Group.Finset.Piecewise
import Mathlib.Algebra.BigOperators.Ring.Finset
import SweatMeter.Linux

namespace SweatMeter

open Py

/-! ## Rows -/

def DiskLine.row? : DiskLine → Option DiskRow
  | row r => some r
  | _ => none

/-- The rows of the selected devices. -/
def diskRows (devices : Option (List Text)) (text : Text) : List DiskRow :=
  (splitlines text).filterMap fun line => (parseDiskLine (isSelected devices) line).row?

/-- The devices of the rows. -/
def names (rows : List DiskRow) : Finset Text := (rows.map DiskRow.name).toFinset

/-- The machine-wide counter. -/
def totalSectors (d : Direction) (rows : List DiskRow) : ℕ := (rows.map (·.sectors d)).sum

/-- The counter of a device. -/
def deviceSectors (d : Direction) (rows : List DiskRow) (name : Text) : ℕ :=
  totalSectors d (rows.filter (·.name = name))

theorem diskLoop_sectors {selected : Text → Bool} {lines : List Text} {totals totals' : DiskTotals}
    (h : diskLoop selected totals lines = some totals') (d : Direction) :
    totals'.sectors d = totals.sectors d +
      totalSectors d (lines.filterMap fun line => (parseDiskLine selected line).row?) := by
  induction lines generalizing totals with
  | nil => cases h; rfl
  | cons line lines ih =>
    rw [diskLoop] at h
    cases hline : parseDiskLine selected line with
    | skipped =>
      rw [hline] at h
      rw [ih h, List.filterMap_cons_none]
      rw [hline]; rfl
    | malformed => rw [hline] at h; cases h
    | row r =>
      rw [hline] at h
      rw [ih h, List.filterMap_cons_some (b := r)]
      · simp only [totalSectors, DiskTotals.add, List.map_cons, List.sum_cons, Nat.add_assoc]
      · rw [hline]; rfl

/-- The bytes of a text are those of its rows. -/
theorem parseDiskstats_eq {text : Text} {devices : Option (List Text)} {p : Direction → ℕ}
    (h : parseDiskstats text devices = some p) (d : Direction) :
    p d = totalSectors d (diskRows devices text) * 512 := by
  unfold parseDiskstats at h
  cases hloop : diskLoop (isSelected devices) {} (splitlines text) with
  | none => rw [hloop] at h; cases h
  | some totals =>
    simp only [hloop] at h
    split_ifs at h
    cases h
    change totals.sectors d * 512 = _
    rw [diskLoop_sectors hloop, Nat.zero_add]; rfl

/-- The devices' counters add up to the machine-wide one. -/
theorem sum_deviceSectors (d : Direction) {rows : List DiskRow} {s : Finset Text}
    (h : names rows ⊆ s) : ∑ name ∈ s, deviceSectors d rows name = totalSectors d rows := by
  induction rows with
  | nil => simp [deviceSectors, totalSectors]
  | cons r rows ih =>
    have hr : r.name ∈ s := h (by simp [names])
    have hrows : names rows ⊆ s := fun name hname => h (by simp_all [names])
    have hcons (name : Text) : deviceSectors d (r :: rows) name =
        (if r.name = name then r.sectors d else 0) + deviceSectors d rows name := by
      unfold deviceSectors totalSectors
      by_cases hname : r.name = name <;> simp [hname]
    simp only [hcons, Finset.sum_add_distrib, ih hrows, Finset.sum_ite_eq, hr, ↓reduceIte]
    simp [totalSectors]

/-! ## Honest rates -/

/-- A device's counter falls, or a device is in one of the texts only. -/
def Faulty (d : Direction) (rows rows' : List DiskRow) : Prop :=
  (∃ name ∈ names rows, name ∈ names rows' ∧
    deviceSectors d rows' name < deviceSectors d rows name) ∨ names rows ≠ names rows'

/-- The sum of the devices' increases, in bytes. -/
def byteIncrease (d : Direction) (rows rows' : List DiskRow) : ℤ :=
  ∑ name ∈ names rows, ((deviceSectors d rows' name : ℤ) - deviceSectors d rows name) * 512

def DiskThroughput.rate {T : Type} (x : DiskThroughput T) : Direction → T
  | .read => x.readBytesPerSec
  | .write => x.writeBytesPerSec

/-- The rate is unsupported over a fault, and the devices' own otherwise. -/
structure HonestRate (d : Direction) (rows rows' : List DiskRow) (elapsed : ℚ)
    (m : Measurement Number) : Prop where
  unsupported : Faulty d rows rows' → m = none
  value : ∀ x ∈ m, x.toRat = some (byteIncrease d rows rows' / elapsed)

/-- A call returns, with honest rates. -/
def Honest (rows rows' : List DiskRow) (elapsed : ℚ)
    (outcome : Except Exn (DiskThroughput (Measurement Number))) : Prop :=
  ∃ x, outcome = .ok x ∧ ∀ d, HonestRate d rows rows' elapsed (x.rate d)

/-- The machine-wide counter shows the fault, or there is none and the increase fits
    a double. -/
def Shows (d : Direction) (rows rows' : List DiskRow) : Prop :=
  totalSectors d rows' < totalSectors d rows ∨
    ¬ Faulty d rows rows' ∧ (totalSectors d rows' - totalSectors d rows) * 512 < doubleLimit

/-- Without a fault, the increases add up. -/
theorem byteIncrease_eq {d : Direction} {rows rows' : List DiskRow} (h : ¬ Faulty d rows rows') :
    byteIncrease d rows rows' = (totalSectors d rows' - totalSectors d rows : ℤ) * 512 := by
  have hnames : names rows = names rows' := not_not.1 fun hne => h (.inr hne)
  have hsum : ∑ name ∈ names rows, deviceSectors d rows name = totalSectors d rows :=
    sum_deviceSectors d subset_rfl
  have hsum' : ∑ name ∈ names rows, deviceSectors d rows' name = totalSectors d rows' :=
    sum_deviceSectors d (Finset.subset_of_eq hnames.symm)
  rw [byteIncrease, ← Finset.sum_mul, Finset.sum_sub_distrib, ← hsum, ← hsum', Nat.cast_sum,
    Nat.cast_sum]

/-! ## Calls -/

/-- The call parses this text at this reading of the clock. -/
structure DiskCall.Counted (c : DiskCall) (devices : Option (List Text)) (text : Text) (t : ℚ) :
    Prop where
  text_eq : c.text = .ok text
  parses : parseDiskstats text devices ≠ none
  clock : ∃ x, c.now = some x ∧ x.isfinite = .ok true ∧ x.toRat = some t

/-- A call that is counted becomes the baseline. -/
theorem diskThroughput_of_counted {r : LinuxHostReader} {c : DiskCall} {text : Text} {t : ℚ}
    (h : c.Counted r.diskDevices text t) :
    ∃ p, parseDiskstats text r.diskDevices = some p ∧
      r.diskThroughput c = (diskRates r.previousDisk t p, { r with previousDisk := some (t, p) }) := by
  obtain ⟨p, hp⟩ := Option.ne_none_iff_exists'.1 h.parses
  obtain ⟨x, hnow, hfin, hrat⟩ := h.clock
  refine ⟨p, hp, ?_⟩
  have hparsed : c.parsed r.diskDevices = some p := by
    rw [DiskCall.parsed, h.text_eq]
    exact hp
  rw [LinuxHostReader.diskThroughput, hparsed, hnow]
  simp only [hfin, hrat]

/-- Any other call leaves the baseline. -/
theorem diskThroughput_of_not_counted {r : LinuxHostReader} {c : DiskCall}
    (h : ∀ text t, ¬ c.Counted r.diskDevices text t) : (r.diskThroughput c).2 = r := by
  unfold LinuxHostReader.diskThroughput
  cases hparsed : c.parsed r.diskDevices with
  | none => rfl
  | some p => cases hnow : c.now with
    | none => rfl
    | some x => cases hfin : x.isfinite with
      | error e => simp only [hfin]
      | ok fin => cases fin with
        | false => simp only [hfin]
        | true =>
          obtain ⟨t, ht⟩ := Number.toRat_of_isfinite hfin
          unfold DiskCall.parsed at hparsed
          cases htext : c.text with
          | error e => rw [htext] at hparsed; cases hparsed
          | ok text =>
            rw [htext] at hparsed
            refine absurd ⟨htext, ?_, x, hnow, hfin, ht⟩ (h text t)
            exact Option.ne_none_iff_exists'.2 ⟨p, hparsed⟩

/-- The reader's allowlist stays. -/
theorem diskThroughput_devices (r : LinuxHostReader) (c : DiskCall) :
    (r.diskThroughput c).2.diskDevices = r.diskDevices := by
  by_cases h : ∃ text t, c.Counted r.diskDevices text t
  · obtain ⟨text, t, h⟩ := h
    obtain ⟨p, -, heq⟩ := diskThroughput_of_counted h
    rw [heq]
  · rw [diskThroughput_of_not_counted fun text t hc => h ⟨text, t, hc⟩]

/-- The baseline is the latest call that is counted. -/
theorem baseline_of_run {devices : Option (List Text)} {pre mid : List DiskCall} {c : DiskCall}
    {text : Text} {t : ℚ} (hc : c.Counted devices text t)
    (hmid : ∀ c ∈ mid, ∀ text t, ¬ c.Counted devices text t) {r : LinuxHostReader}
    (hr : (diskRuns devices).exec (diskRuns devices).init (pre ++ c :: mid) = some r) :
    ∃ p, parseDiskstats text devices = some p ∧ r = ⟨devices, some (t, p)⟩ := by
  obtain ⟨r₀, hpre, hr⟩ := Lts.exec_append_eq.1 hr
  obtain ⟨r₁, hstep, hr⟩ := Lts.exec_cons_eq.1 hr
  have hdevices : r₀.diskDevices = devices := by
    refine Lts.inv_of_step (P := fun r => r.diskDevices = devices) ?_ rfl hpre
    intro r c r' hP hstep
    cases hstep
    rw [diskThroughput_devices, hP]
  subst hdevices
  obtain ⟨p, hp, heq⟩ := diskThroughput_of_counted hc
  cases hstep
  refine ⟨p, hp, ?_⟩
  rw [heq] at hr
  refine Lts.inv_of_labels (P := fun r => r = ⟨r₀.diskDevices, some (t, p)⟩) ?_ hmid rfl hr
  rintro r c r' hnot rfl hstep
  cases hstep
  exact diskThroughput_of_not_counted hnot

/-! ## Honesty -/

theorem diskRate_ok {previous current : ℕ} {elapsed : ℚ} {m : Measurement Number} :
    diskRate previous current elapsed = .ok m ↔
      current < previous ∧ m = none ∨
        previous ≤ current ∧ current - previous < doubleLimit ∧
          m = some (.float (.finite ((current - previous : ℕ) / elapsed))) := by
  unfold diskRate
  split_ifs with hlt hlimit
  · constructor
    · intro h; cases h; exact .inl ⟨hlt, rfl⟩
    · rintro (⟨-, rfl⟩ | ⟨h, -⟩)
      · rfl
      · omega
  · constructor
    · intro h; cases h
    · rintro (⟨h, -⟩ | ⟨-, h, -⟩) <;> omega
  · constructor
    · intro h; cases h; exact .inr ⟨by omega, by omega, rfl⟩
    · rintro (⟨h, -⟩ | ⟨-, -, rfl⟩)
      · omega
      · rfl

/-- A rate is honest exactly if the totals show what the devices' counters did. -/
theorem honestRate_iff (d : Direction) (rows rows' : List DiskRow) {elapsed : ℚ} :
    (∃ m, diskRate (totalSectors d rows * 512) (totalSectors d rows' * 512) elapsed = .ok m ∧
      HonestRate d rows rows' elapsed m) ↔ Shows d rows rows' := by
  constructor
  · rintro ⟨m, hm, honest⟩
    rcases diskRate_ok.1 hm with ⟨hlt, -⟩ | ⟨hle, hfit, rfl⟩
    · exact .inl (by omega)
    · refine .inr ⟨?_, by omega⟩
      intro hfault
      have := honest.unsupported hfault
      cases this
  · intro h
    by_cases hlt : totalSectors d rows' < totalSectors d rows
    · refine ⟨none, diskRate_ok.2 (.inl ⟨by omega, rfl⟩), fun _ => rfl, ?_⟩
      rintro x ⟨⟩
    · obtain ⟨hfault, hfit⟩ := h.resolve_left hlt
      refine ⟨_, diskRate_ok.2 (.inr ⟨by omega, by omega, rfl⟩), fun h => absurd h hfault, ?_⟩
      rintro x ⟨⟩
      rw [Number.toRat, byteIncrease_eq hfault, ← Nat.sub_mul, Nat.cast_mul,
        Nat.cast_sub (not_lt.1 hlt)]
      push_cast
      rfl

theorem honest_diskRates_iff {rows rows' : List DiskRow} {p p' : Direction → ℕ} {t t' : ℚ}
    (hp : ∀ d, p d = totalSectors d rows * 512) (hp' : ∀ d, p' d = totalSectors d rows' * 512)
    (ht : t < t') :
    Honest rows rows' (t' - t) (diskRates (some (t, p)) t' p') ↔ ∀ d, Shows d rows rows' := by
  have hpos : ¬ t' - t ≤ 0 := not_le.2 (sub_pos.2 ht)
  simp only [Honest, diskRates, if_neg hpos, hp, hp', ← @honestRate_iff _ _ _ (t' - t)]
  constructor
  · rintro ⟨x, hx, honest⟩
    obtain ⟨m, hm, hx⟩ := bind_eq_ok.1 hx
    obtain ⟨m', hm', hx⟩ := bind_eq_ok.1 hx
    cases hx
    intro d
    cases d with
    | read => exact ⟨m, hm, honest .read⟩
    | write => exact ⟨m', hm', honest .write⟩
  · intro h
    obtain ⟨m, hm, hread⟩ := h .read
    obtain ⟨m', hm', hwrite⟩ := h .write
    refine ⟨⟨m, m'⟩, bind_eq_ok.2 ⟨m, hm, bind_eq_ok.2 ⟨m', hm', rfl⟩⟩, ?_⟩
    intro d
    cases d with
    | read => exact hread
    | write => exact hwrite

/-- **Throughput is honest** between two calls that are counted, whatever calls
    fail between them, exactly if the totals show what the devices' counters did. -/
theorem disk_throughput_honest_iff {devices : Option (List Text)} {pre mid : List DiskCall}
    {c c' : DiskCall} {text text' : Text} {t t' : ℚ} (hc : c.Counted devices text t)
    (hc' : c'.Counted devices text' t')
    (hmid : ∀ c ∈ mid, ∀ text t, ¬ c.Counted devices text t) (ht : t < t') {r : LinuxHostReader}
    (hr : (diskRuns devices).exec (diskRuns devices).init (pre ++ c :: mid) = some r) :
    Honest (diskRows devices text) (diskRows devices text') (t' - t) (r.diskThroughput c').1 ↔
      ∀ d, Shows d (diskRows devices text) (diskRows devices text') := by
  obtain ⟨p, hp, rfl⟩ := baseline_of_run hc hmid hr
  obtain ⟨p', hp', heq⟩ := diskThroughput_of_counted (r := ⟨devices, some (t, p)⟩) hc'
  rw [heq]
  exact honest_diskRates_iff (parseDiskstats_eq hp) (parseDiskstats_eq hp') ht

/-! ## One device masks another -/

/-- The text of one row per device: its name, and its sectors read and written. -/
def diskText (rows : List (String × ℕ × ℕ)) : Text :=
  rows.flatMap fun row => s!"8 0 {row.1} 1 0 {row.2.1} 0 1 0 {row.2.2} 0\n".toList

def diskCall (rows : List (String × ℕ × ℕ)) (t : ℚ) : DiskCall :=
  ⟨.ok (diskText rows), .ok (.num (.float (.finite t)))⟩

instance (d : Direction) (rows rows' : List DiskRow) : Decidable (Faulty d rows rows') :=
  inferInstanceAs (Decidable (_ ∨ _))

instance (d : Direction) (rows rows' : List DiskRow) : Decidable (Shows d rows rows') :=
  inferInstanceAs (Decidable (_ ∨ _))

theorem counted_diskCall {rows : List (String × ℕ × ℕ)} (t : ℚ)
    (h : parseDiskstats (diskText rows) none ≠ none) :
    (diskCall rows t).Counted none (diskText rows) t where
  text_eq := rfl
  parses := h
  clock := ⟨_, rfl, rfl, rfl⟩

/-- Over one device without a reset, both rates are honest. -/
theorem disk_throughput_honest_sda :
    Honest (diskRows none (diskText [("sda", 10, 10)])) (diskRows none (diskText [("sda", 30, 10)]))
      (1 - 0) ((({} : LinuxHostReader).diskThroughput (diskCall [("sda", 10, 10)] 0)).2.diskThroughput
        (diskCall [("sda", 30, 10)] 1)).1 := by
  have hc : (diskCall [("sda", 10, 10)] 0).Counted none _ 0 := counted_diskCall 0 (by decide +kernel)
  have hc' : (diskCall [("sda", 30, 10)] 1).Counted none _ 1 :=
    counted_diskCall 1 (by decide +kernel)
  have hmid : ∀ c ∈ ([] : List DiskCall), ∀ text t, ¬ c.Counted none text t := by simp
  have hr : (diskRuns none).exec (diskRuns none).init ([] ++ diskCall [("sda", 10, 10)] 0 :: []) =
    some (({} : LinuxHostReader).diskThroughput (diskCall [("sda", 10, 10)] 0)).2 := rfl
  refine (disk_throughput_honest_iff hc hc' hmid zero_lt_one hr).2 ?_
  intro d
  cases d <;> decide +kernel

/-- The reset of one disk is masked by the traffic on another. -/
theorem disk_reset_masked : ¬ ∀ (devices : Option (List Text)) (pre mid : List DiskCall)
    (c c' : DiskCall) (text text' : Text) (t t' : ℚ), c.Counted devices text t →
      c'.Counted devices text' t' → (∀ c ∈ mid, ∀ text t, ¬ c.Counted devices text t) → t < t' →
        ∀ r, (diskRuns devices).exec (diskRuns devices).init (pre ++ c :: mid) = some r →
          Honest (diskRows devices text) (diskRows devices text') (t' - t)
            (r.diskThroughput c').1 := by
  intro h
  have hc : (diskCall [("sda", 2000, 0), ("sdb", 0, 0)] 0).Counted none _ 0 :=
    counted_diskCall 0 (by decide +kernel)
  have hc' : (diskCall [("sda", 100, 0), ("sdb", 10000, 0)] 1).Counted none _ 1 :=
    counted_diskCall 1 (by decide +kernel)
  have hmid : ∀ c ∈ ([] : List DiskCall), ∀ text t, ¬ c.Counted none text t := by simp
  obtain ⟨r, hr⟩ : ∃ r, (diskRuns none).exec (diskRuns none).init
      ([] ++ diskCall [("sda", 2000, 0), ("sdb", 0, 0)] 0 :: []) = some r := ⟨_, rfl⟩
  have honest := h none [] [] _ _ _ _ _ _ hc hc' hmid zero_lt_one r hr
  obtain ⟨p, hp, rfl⟩ := baseline_of_run hc hmid hr
  obtain ⟨p', hp', heq⟩ := diskThroughput_of_counted (r := ⟨none, some (0, p)⟩) hc'
  change parseDiskstats _ none = some p' at hp'
  rw [heq] at honest
  have hshows := (honest_diskRates_iff (parseDiskstats_eq hp) (parseDiskstats_eq hp')
    zero_lt_one).1 honest .read
  exact absurd hshows (by decide +kernel)

end SweatMeter
