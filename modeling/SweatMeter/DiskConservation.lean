/-
  Conservation of bytes by `LinuxHostReader.disk_throughput`, in exact arithmetic.

  The clock and the counters of a call become the baseline together or not at all.
  So over one set of devices whose counters do not fall, with a clock that goes
  forward, the rates times the elapsed times add up to the bytes of the whole run,
  whatever calls fail (`disk_bytes_conserved`).

  `exactThroughput` is `diskThroughput` without the conversions to doubles: where the
  latter returns, they agree, and where it raises, a number does not fit a double
  (`diskThroughput_cases`).
-/
import Mathlib.Algebra.Order.BigOperators.Group.Finset
import Mathlib.Algebra.Order.Field.Basic
import Mathlib.Tactic.NormNum.Basic
import SweatMeter.DiskReset
import SweatMeter.Meter

namespace SweatMeter

open Py

/-! ## The reader in exact arithmetic -/

/-- The clock's reading, if it is a finite number. -/
def DiskCall.time (c : DiskCall) : Option ℚ := c.now.bind Number.toRat

/-- The rate of one direction. -/
def exactRate (previous current : ℕ) (elapsed : ℚ) : Measurement ℚ :=
  if current < previous then none else some ((current - previous : ℕ) / elapsed)

def exactRates (baseline : Option (ℚ × (Direction → ℕ))) (now : ℚ) (parsed : Direction → ℕ) :
    DiskThroughput (Measurement ℚ) :=
  match baseline with
  | none => ⟨none, none⟩
  | some (before, previous) =>
    if now - before ≤ 0 then ⟨none, none⟩
    else
      ⟨exactRate (previous .read) (parsed .read) (now - before),
        exactRate (previous .write) (parsed .write) (now - before)⟩

/-- `disk_throughput`. -/
def LinuxHostReader.exactThroughput (r : LinuxHostReader) (c : DiskCall) :
    DiskThroughput (Measurement ℚ) × LinuxHostReader :=
  match c.parsed r.diskDevices, c.time with
  | some parsed, some now =>
    (exactRates r.previousDisk now parsed, { r with previousDisk := some (now, parsed) })
  | _, _ => (⟨none, none⟩, r)

/-- Exact values for the numbers of a result. -/
def DiskThroughput.exact (x : DiskThroughput (Measurement Number)) :
    DiskThroughput (Measurement ℚ) :=
  ⟨x.readBytesPerSec.bind Number.toRat, x.writeBytesPerSec.bind Number.toRat⟩

theorem exactRate_of_ok {previous current : ℕ} {elapsed : ℚ} {m : Measurement Number}
    (h : diskRate previous current elapsed = .ok m) :
    exactRate previous current elapsed = m.bind Number.toRat := by
  rcases diskRate_ok.1 h with ⟨hlt, rfl⟩ | ⟨hle, -, rfl⟩
  · exact if_pos hlt
  · exact if_neg (not_lt.2 hle)

theorem diskRate_cases (previous current : ℕ) (elapsed : ℚ) :
    (∃ m, diskRate previous current elapsed = .ok m) ∨
      diskRate previous current elapsed = .error ⟨"OverflowError"⟩ := by
  unfold diskRate
  split_ifs
  · exact .inl ⟨_, rfl⟩
  · exact .inr rfl
  · exact .inl ⟨_, rfl⟩

theorem diskRates_cases (baseline : Option (ℚ × (Direction → ℕ))) (now : ℚ)
    (parsed : Direction → ℕ) :
    (∃ x, diskRates baseline now parsed = .ok x ∧ exactRates baseline now parsed = x.exact) ∨
      diskRates baseline now parsed = .error ⟨"OverflowError"⟩ := by
  rcases baseline with _ | ⟨before, previous⟩
  · exact .inl ⟨_, rfl, rfl⟩
  · simp only [diskRates, exactRates]
    split_ifs with helapsed
    · exact .inl ⟨_, rfl, rfl⟩
    · rcases diskRate_cases (previous .read) (parsed .read) (now - before) with ⟨m, hm⟩ | hm
      · rcases diskRate_cases (previous .write) (parsed .write) (now - before) with ⟨m', hm'⟩ | hm'
        · rw [hm, hm', exactRate_of_ok hm, exactRate_of_ok hm']
          exact .inl ⟨_, rfl, rfl⟩
        · rw [hm, hm']
          exact .inr rfl
      · rw [hm]
        exact .inr rfl

theorem isfinite_error {x : Number} {e : Exn} (h : x.isfinite = .error e) :
    e = ⟨"OverflowError"⟩ := by
  cases x with
  | int n =>
    simp only [Number.isfinite] at h
    split_ifs at h
    cases h
    rfl
  | float d => cases d <;> cases h

theorem toRat_of_not_finite {x : Number} (h : x.isfinite = .ok false) : x.toRat = none := by
  cases x with
  | int n =>
    simp only [Number.isfinite] at h
    split_ifs at h
    cases h
  | float d =>
    cases d with
    | finite q => cases h
    | nan => rfl
    | inf neg => rfl

/-- The reader returns what it does in exact arithmetic, or raises where a number does
    not fit a double. -/
theorem diskThroughput_cases (r : LinuxHostReader) (c : DiskCall) :
    (∃ x, r.diskThroughput c = (.ok x, (r.exactThroughput c).2) ∧
      (r.exactThroughput c).1 = x.exact) ∨
    (r.diskThroughput c).1 = .error ⟨"OverflowError"⟩ := by
  unfold LinuxHostReader.diskThroughput LinuxHostReader.exactThroughput DiskCall.time
  cases c.parsed r.diskDevices with
  | none => exact .inl ⟨_, rfl, rfl⟩
  | some parsed =>
    cases c.now with
    | none => exact .inl ⟨_, rfl, rfl⟩
    | some now =>
      cases hfinite : now.isfinite with
      | error e =>
        simp only [hfinite, isfinite_error hfinite]
        exact .inr trivial
      | ok finite =>
        cases finite with
        | false =>
          simp only [hfinite, toRat_of_not_finite hfinite, Option.bind_some]
          exact .inl ⟨unsupportedThroughput, rfl, rfl⟩
        | true =>
          rcases Number.toRat_of_isfinite hfinite with ⟨t, ht⟩
          simp only [hfinite, ht, Option.bind_some]
          rcases diskRates_cases r.previousDisk t parsed with ⟨x, hx, hexact⟩ | hx
          · exact .inl ⟨x, by rw [hx], hexact⟩
          · exact .inr hx

/-! ## Runs -/

/-- What a call that does not fail has read. -/
structure DiskSample where
  now : ℚ
  rows : List DiskRow
  bytes : Direction → ℕ

/-- What the call reads, unless the text or the clock fails. -/
def DiskCall.sample (devices : Option (List Text)) (c : DiskCall) : Option DiskSample :=
  match c.text, c.time with
  | .ok text, some now =>
    (parseDiskstats text devices).map fun bytes => ⟨now, diskRows devices text, bytes⟩
  | _, _ => none

/-- The second sample is later, of the same devices, and no counter has fallen. -/
structure Continues (a b : DiskSample) : Prop where
  now : a.now < b.now
  devices : names a.rows = names b.rows
  counters : ∀ d name, deviceSectors d a.rows name ≤ deviceSectors d b.rows name

/-- A call: what it has read, the baseline before and after it, and its result. -/
structure DiskEvent where
  sample : Option DiskSample
  before : Option (ℚ × (Direction → ℕ))
  result : DiskThroughput (Measurement ℚ)
  after : Option (ℚ × (Direction → ℕ))

/-- The calls of a run. -/
def diskEventsFrom (r : LinuxHostReader) : List DiskCall → List DiskEvent
  | [] => []
  | c :: calls =>
    let (result, r') := r.exactThroughput c
    ⟨c.sample r.diskDevices, r.previousDisk, result, r'.previousDisk⟩ :: diskEventsFrom r' calls

def diskEvents (devices : Option (List Text)) (calls : List DiskCall) : List DiskEvent :=
  diskEventsFrom { diskDevices := devices } calls

/-- The bytes that a call reports: its rate times the time since the baseline. -/
def DiskEvent.moved (d : Direction) (e : DiskEvent) : ℚ :=
  match e.before, e.sample, e.result.rate d with
  | some (before, _), some y, some rate => rate * (y.now - before)
  | _, _, _ => 0

/-- The bytes that these calls report. -/
def bytesMoved (d : Direction) : List DiskEvent → ℚ
  | [] => 0
  | e :: log => e.moved d + bytesMoved d log

structure ConservesBytes (log : List DiskEvent) : Prop where
  /-- a failed call is unsupported in both directions, and leaves the baseline -/
  failed : ∀ e ∈ log, e.sample = none → e.result = ⟨none, none⟩ ∧ e.after = e.before
  /-- the baseline is the last call before that has not failed -/
  baseline : ∀ pre e post, log = pre ++ e :: post → e.before =
    (pre.map DiskEvent.sample).reduceOption.getLast?.map fun a => (a.now, a.bytes)
  /-- after the first one, a call that does not fail returns two rates -/
  rates : ∀ pre e post, log = pre ++ e :: post → e.sample ≠ none →
    (pre.map DiskEvent.sample).reduceOption ≠ [] → ∀ d, ∃ x, e.result.rate d = some x ∧ 0 ≤ x
  conserved : ∀ d first last, (log.map DiskEvent.sample).reduceOption.head? = some first →
    (log.map DiskEvent.sample).reduceOption.getLast? = some last →
      bytesMoved d log = last.bytes d - first.bytes d

/-- What the calls of the reader return or raise. -/
def diskOutcomes (r : LinuxHostReader) :
    List DiskCall → List (Except Exn (DiskThroughput (Measurement Number)))
  | [] => []
  | c :: calls => (r.diskThroughput c).1 :: diskOutcomes (r.diskThroughput c).2 calls

/-- A run in which every call returns is a run in exact arithmetic. -/
theorem diskOutcomes_exact {r : LinuxHostReader} {calls : List DiskCall}
    {xs : List (DiskThroughput (Measurement Number))} (h : diskOutcomes r calls = xs.map .ok) :
    (diskEventsFrom r calls).map DiskEvent.result = xs.map DiskThroughput.exact := by
  induction calls generalizing r xs with
  | nil =>
    cases xs with
    | nil => rfl
    | cons x xs => cases h
  | cons c calls ih =>
    cases xs with
    | nil => cases h
    | cons x xs =>
      rw [diskOutcomes, List.map_cons, List.cons.injEq] at h
      rcases diskThroughput_cases r c with ⟨y, hy, hexact⟩ | hy
      · rw [hy] at h
        cases h.1
        rw [diskEventsFrom, List.map_cons, List.map_cons, ← hexact, ih h.2]
      · cases hy.symm.trans h.1

/-- The clock and the counters that the call reads fit doubles. -/
structure DiskCall.Fits (devices : Option (List Text)) (c : DiskCall) : Prop where
  clock : ∀ x, c.now = some x → Py.Fits (.num x)
  counters : ∀ p, c.parsed devices = some p → ∀ d, p d < doubleLimit

theorem returns_diskRates {baseline : Option (ℚ × (Direction → ℕ))} {now : ℚ}
    {parsed : Direction → ℕ} (h : ∀ d, parsed d < doubleLimit) :
    Returns (diskRates baseline now parsed) := by
  have hrate (d : Direction) (previous : ℕ) (elapsed : ℚ) :
      Returns (diskRate previous (parsed d) elapsed) := by
    have hlimit : ¬ doubleLimit ≤ parsed d - previous := by
      have := h d
      omega
    unfold diskRate
    split_ifs <;> exact ⟨_, rfl⟩
  rcases baseline with _ | ⟨before, previous⟩
  · exact ⟨_, rfl⟩
  · simp only [diskRates]
    split_ifs
    · exact ⟨_, rfl⟩
    · obtain ⟨x, hx⟩ := hrate .read (previous .read) (now - before)
      obtain ⟨y, hy⟩ := hrate .write (previous .write) (now - before)
      rw [hx, hy]
      exact ⟨_, rfl⟩

/-- A call returns where what it reads fits. -/
theorem returns_diskThroughput {r : LinuxHostReader} {c : DiskCall} (h : c.Fits r.diskDevices) :
    Returns (r.diskThroughput c).1 := by
  unfold LinuxHostReader.diskThroughput
  cases hparsed : c.parsed r.diskDevices with
  | none => exact ⟨_, rfl⟩
  | some parsed =>
    cases hnow : c.now with
    | none => exact ⟨_, rfl⟩
    | some now =>
      obtain ⟨finite, hfinite⟩ := returns_isfinite.2 (h.clock now hnow)
      cases finite with
      | false => simp only [hfinite]; exact ⟨_, rfl⟩
      | true =>
        obtain ⟨t, ht⟩ := Number.toRat_of_isfinite hfinite
        simp only [hfinite, ht]
        exact returns_diskRates (h.counters parsed hparsed)

theorem diskThroughput_diskDevices (r : LinuxHostReader) (c : DiskCall) :
    (r.diskThroughput c).2.diskDevices = r.diskDevices := by
  unfold LinuxHostReader.diskThroughput
  split
  · split <;> rfl
  · rfl

/-- A run of calls that read numbers which fit has a result for each. -/
theorem returns_diskOutcomes {r : LinuxHostReader} {calls : List DiskCall}
    (h : ∀ c ∈ calls, c.Fits r.diskDevices) :
    ∃ xs : List (DiskThroughput (Measurement Number)), diskOutcomes r calls = xs.map .ok := by
  induction calls generalizing r with
  | nil => exact ⟨[], rfl⟩
  | cons c calls ih =>
    obtain ⟨hc, hcalls⟩ := List.forall_mem_cons.1 h
    obtain ⟨x, hx⟩ := returns_diskThroughput hc
    have hrest : ∀ c' ∈ calls, c'.Fits (r.diskThroughput c).2.diskDevices := by
      rwa [diskThroughput_diskDevices]
    obtain ⟨xs, hxs⟩ := ih hrest
    exact ⟨x :: xs, by rw [diskOutcomes, hx, hxs, List.map_cons]⟩

/-! ## The reader is a meter -/

/-- The part of a sample that the reader keeps. -/
def DiskSample.baseline (a : DiskSample) : ℚ × (Direction → ℕ) := (a.now, a.bytes)

/-- The result of a call, by the last sample and its own. -/
def sampleRates (before : Option DiskSample) : Option DiskSample → DiskThroughput (Measurement ℚ)
  | none => ⟨none, none⟩
  | some y => exactRates (before.map DiskSample.baseline) y.now y.bytes

def DiskEvent.ofMeter (e : Meter.Event DiskSample (DiskThroughput (Measurement ℚ))) : DiskEvent :=
  ⟨e.sample, e.before.map DiskSample.baseline, e.result, e.after.map DiskSample.baseline⟩

theorem exactThroughput_eq (devices : Option (List Text)) (before : Option DiskSample)
    (c : DiskCall) :
    LinuxHostReader.exactThroughput ⟨devices, before.map DiskSample.baseline⟩ c =
      (sampleRates before (c.sample devices),
        ⟨devices, ((c.sample devices).or before).map DiskSample.baseline⟩) := by
  unfold LinuxHostReader.exactThroughput DiskCall.parsed DiskCall.sample
  cases c.text with
  | error e => rfl
  | ok text =>
    cases c.time with
    | none => cases hparsed : parseDiskstats text devices <;> simp only [hparsed] <;> rfl
    | some now => cases hparsed : parseDiskstats text devices <;> simp only [hparsed] <;> rfl

theorem diskEventsFrom_eq (devices : Option (List Text)) (before : Option DiskSample)
    (calls : List DiskCall) :
    diskEventsFrom ⟨devices, before.map DiskSample.baseline⟩ calls =
      (Meter.log sampleRates before (calls.map (DiskCall.sample devices))).map
        DiskEvent.ofMeter := by
  induction calls generalizing before with
  | nil => rfl
  | cons c calls ih =>
    rw [diskEventsFrom, exactThroughput_eq, List.map_cons, Meter.log, List.map_cons, ← ih]
    rfl

theorem diskEvents_eq (devices : Option (List Text)) (calls : List DiskCall) :
    diskEvents devices calls =
      (Meter.log sampleRates none (calls.map (DiskCall.sample devices))).map DiskEvent.ofMeter :=
  diskEventsFrom_eq devices none calls

theorem map_sample_ofMeter (log : List (Meter.Event DiskSample (DiskThroughput (Measurement ℚ)))) :
    (log.map DiskEvent.ofMeter).map DiskEvent.sample = log.map Meter.Event.sample := by
  rw [List.map_map]
  rfl

theorem bytesMoved_map (d : Direction)
    (log : List (Meter.Event DiskSample (DiskThroughput (Measurement ℚ)))) :
    bytesMoved d (log.map DiskEvent.ofMeter) =
      Meter.total (fun e => (DiskEvent.ofMeter e).moved d) log := by
  induction log with
  | nil => rfl
  | cons e log ih => rw [List.map_cons, bytesMoved, ih, Meter.total]

/-! ## One interval -/

/-- The second sample is later, and the machine-wide counters have not fallen. -/
structure Grows (a b : DiskSample) : Prop where
  now : a.now < b.now
  bytes : ∀ d, a.bytes d ≤ b.bytes d

theorem bytes_of_sample {devices : Option (List Text)} {c : DiskCall} {y : DiskSample}
    (h : c.sample devices = some y) (d : Direction) : y.bytes d = totalSectors d y.rows * 512 := by
  unfold DiskCall.sample at h
  split at h
  · rcases Option.map_eq_some_iff.1 h with ⟨bytes, hbytes, rfl⟩
    exact parseDiskstats_eq hbytes d
  · cases h

theorem totalSectors_le {a b : DiskSample} (h : Continues a b) (d : Direction) :
    totalSectors d a.rows ≤ totalSectors d b.rows := by
  rw [← sum_deviceSectors d (subset_refl (names a.rows)),
    ← sum_deviceSectors d (Finset.subset_of_eq h.devices.symm)]
  exact Finset.sum_le_sum fun name _ => h.counters d name

theorem rate_eq {a b : DiskSample} (h : Grows a b) (d : Direction) :
    (exactRates (some a.baseline) b.now b.bytes).rate d =
      some (((b.bytes d - a.bytes d : ℕ) : ℚ) / (b.now - a.now)) := by
  have hpos : ¬ b.now - a.now ≤ 0 := not_le.2 (sub_pos.2 h.now)
  have hrate : exactRate (a.bytes d) (b.bytes d) (b.now - a.now) =
      some (((b.bytes d - a.bytes d : ℕ) : ℚ) / (b.now - a.now)) := if_neg (not_lt.2 (h.bytes d))
  have hrates : exactRates (some a.baseline) b.now b.bytes =
      ⟨exactRate (a.bytes .read) (b.bytes .read) (b.now - a.now),
        exactRate (a.bytes .write) (b.bytes .write) (b.now - a.now)⟩ := if_neg hpos
  rw [hrates]
  cases d with
  | read => exact hrate
  | write => exact hrate

theorem measures_bytes (d : Direction) : Meter.Measures sampleRates
    (fun e => (DiskEvent.ofMeter e).moved d) (fun y => (y.bytes d : ℚ)) Grows where
  missing before := by cases before <;> rfl
  first y := rfl
  interval a b h := by
    have hne : b.now - a.now ≠ 0 := (sub_pos.2 h.now).ne'
    have hrate : (sampleRates (some a) (some b)).rate d = _ := rate_eq h d
    simp only [DiskEvent.moved, DiskEvent.ofMeter, Option.map_some, hrate, DiskSample.baseline]
    rw [div_mul_cancel₀ _ hne, Nat.cast_sub (h.bytes d)]

/-! ## Whole runs -/

theorem reduceOption_map_sample (devices : Option (List Text)) (calls : List DiskCall) :
    (calls.map (DiskCall.sample devices)).reduceOption =
      calls.filterMap (DiskCall.sample devices) := by
  rw [List.reduceOption, List.filterMap_map]
  rfl

/-- Over one set of devices, the totals grow if the counters do. -/
theorem grows_of_continues {devices : Option (List Text)} {calls : List DiskCall}
    (h : (calls.filterMap (DiskCall.sample devices)).IsChain Continues) :
    (calls.filterMap (DiskCall.sample devices)).IsChain Grows := by
  refine h.imp_of_mem_imp ?_
  intro a b ha hb hab
  rcases List.mem_filterMap.1 ha with ⟨c, -, hc⟩
  rcases List.mem_filterMap.1 hb with ⟨c', -, hc'⟩
  refine ⟨hab.now, ?_⟩
  intro d
  rw [bytes_of_sample hc, bytes_of_sample hc']
  exact Nat.mul_le_mul_right 512 (totalSectors_le hab d)

theorem conservesBytes_of_grows {devices : Option (List Text)} {calls : List DiskCall}
    (h : (calls.filterMap (DiskCall.sample devices)).IsChain Grows) :
    ConservesBytes (diskEvents devices calls) := by
  rw [← reduceOption_map_sample] at h
  rw [diskEvents_eq]
  refine ⟨?_, ?_, ?_, ?_⟩
  · intro e he hfailed
    rcases List.mem_map.1 he with ⟨⟨before, sample, result⟩, hmem, rfl⟩
    obtain rfl : result = sampleRates before sample := Meter.result_of_mem hmem
    obtain rfl : sample = none := hfailed
    exact ⟨rfl, rfl⟩
  · intro pre e post hsplit
    rcases Meter.split_of_map hsplit with ⟨pre', e', post', hlog, rfl, rfl⟩
    rw [map_sample_ofMeter]
    exact congrArg (Option.map DiskSample.baseline) ((Meter.before_eq hlog).trans Option.or_none)
  · intro pre e post hsplit hsample hpre d
    rcases Meter.split_of_map hsplit with ⟨pre', ⟨before, sample, result⟩, post', hlog, rfl, rfl⟩
    rw [map_sample_ofMeter] at hpre
    have hmem := hlog ▸ List.mem_append_right pre' List.mem_cons_self
    obtain rfl : result = sampleRates before sample := Meter.result_of_mem hmem
    cases sample with
    | none => exact absurd rfl hsample
    | some y =>
      cases before with
      | none =>
        have hnone := (Meter.before_eq hlog).trans Option.or_none
        exact absurd (List.getLast?_eq_none_iff.1 hnone.symm) hpre
      | some a =>
        have hgrows := Meter.rel_before h hlog rfl rfl
        refine ⟨_, rate_eq hgrows d, ?_⟩
        exact div_nonneg (Nat.cast_nonneg _) (sub_pos.2 hgrows.now).le
  · intro d first last hfirst hlast
    rw [map_sample_ofMeter, Meter.map_sample_log] at hfirst hlast
    rw [bytesMoved_map]
    exact Meter.total_eq_sub (measures_bytes d) h hfirst hlast

/-- **Disk throughput conserves bytes.**  Whatever calls fail, over one set of devices
    whose counters do not fall and with a clock that goes forward, every call after the
    first has two rates, and rate times elapsed time adds up to the bytes of the run.
    The reader itself agrees wherever it returns, which it does where the clock and
    the counters fit doubles. -/
theorem disk_bytes_conserved (devices : Option (List Text)) {calls : List DiskCall}
    (h : (calls.filterMap (DiskCall.sample devices)).IsChain Continues) :
    ConservesBytes (diskEvents devices calls) ∧
      (∀ xs : List (DiskThroughput (Measurement Number)),
        diskOutcomes { diskDevices := devices } calls = xs.map .ok →
          (diskEvents devices calls).map DiskEvent.result = xs.map DiskThroughput.exact) ∧
      ((∀ c ∈ calls, c.Fits devices) →
        ∃ xs : List (DiskThroughput (Measurement Number)),
          diskOutcomes { diskDevices := devices } calls = xs.map .ok) :=
  ⟨conservesBytes_of_grows (grows_of_continues h), fun _ hxs => diskOutcomes_exact hxs,
    fun hfits => returns_diskOutcomes hfits⟩

/-! ## Two failures -/

/-- The second call cannot read the text, and the third one has no clock. -/
def flakyDisk : List DiskCall := [
  diskCall [("sda", 10, 10)] 0,
  ⟨.error ⟨"PermissionError"⟩, .ok (.num (.float (.finite 1)))⟩,
  ⟨.ok (diskText [("sda", 20, 10)]), .ok (.num (.float .nan))⟩,
  diskCall [("sda", 30, 10)] 2]

theorem sample_diskCall {rows : List (String × ℕ × ℕ)} (t : ℚ)
    (h : parseDiskstats (diskText rows) none ≠ none) :
    ∃ bytes, (diskCall rows t).sample none = some ⟨t, diskRows none (diskText rows), bytes⟩ := by
  rcases Option.ne_none_iff_exists'.1 h with ⟨bytes, hbytes⟩
  exact ⟨bytes, congrArg (Option.map _) hbytes⟩

/-- A device without a row counts nothing. -/
theorem deviceSectors_of_notMem {d : Direction} {rows : List DiskRow} {name : Text}
    (h : name ∉ names rows) : deviceSectors d rows name = 0 := by
  have hnil : rows.filter (·.name = name) = [] := by
    rw [List.filter_eq_nil_iff]
    intro r hr heq
    refine h ?_
    rw [names, List.mem_toFinset, List.mem_map]
    exact ⟨r, hr, of_decide_eq_true heq⟩
  rw [deviceSectors, hnil]
  rfl

theorem disk_bytes_conserved_flaky :
    (ConservesBytes (diskEvents none flakyDisk) ∧
      (∀ xs : List (DiskThroughput (Measurement Number)),
        diskOutcomes { diskDevices := none } flakyDisk = xs.map .ok →
          (diskEvents none flakyDisk).map DiskEvent.result = xs.map DiskThroughput.exact) ∧
      ((∀ c ∈ flakyDisk, c.Fits none) →
        ∃ xs : List (DiskThroughput (Measurement Number)),
          diskOutcomes { diskDevices := none } flakyDisk = xs.map .ok)) ∧
    (diskEvents none flakyDisk).map (fun e => e.result.rate .read) =
      [none, none, none, some 5120] := by
  refine ⟨disk_bytes_conserved none ?_, by decide +kernel⟩
  have hparses : parseDiskstats (diskText [("sda", 10, 10)]) none ≠ none := by decide +kernel
  have hparses' : parseDiskstats (diskText [("sda", 30, 10)]) none ≠ none := by decide +kernel
  rcases sample_diskCall 0 hparses with ⟨bytes, hfirst⟩
  rcases sample_diskCall 2 hparses' with ⟨bytes', hlast⟩
  have hsamples : flakyDisk.filterMap (DiskCall.sample none) =
      [⟨0, diskRows none (diskText [("sda", 10, 10)]), bytes⟩,
        ⟨2, diskRows none (diskText [("sda", 30, 10)]), bytes'⟩] := by
    rw [flakyDisk, List.filterMap_cons_some hfirst, List.filterMap_cons_none rfl,
      List.filterMap_cons_none rfl, List.filterMap_cons_some hlast]
    rfl
  have hnames : names (diskRows none (diskText [("sda", 10, 10)])) =
      names (diskRows none (diskText [("sda", 30, 10)])) := by
    decide +kernel
  have hcounters (d : Direction) : ∀ name ∈ names (diskRows none (diskText [("sda", 10, 10)])),
      deviceSectors d (diskRows none (diskText [("sda", 10, 10)])) name ≤
        deviceSectors d (diskRows none (diskText [("sda", 30, 10)])) name := by
    cases d <;> decide +kernel
  rw [hsamples]
  refine List.isChain_pair.2 ⟨by norm_num, hnames, ?_⟩
  intro d name
  by_cases hname : name ∈ names (diskRows none (diskText [("sda", 10, 10)]))
  · exact hcounters d name hname
  · rw [deviceSectors_of_notMem hname]
    exact Nat.zero_le _

end SweatMeter
