/-
  Which instant a snapshot and a profile are stamped with.

  A valid reading of the injected clock is taken in UTC, and an invalid one is
  replaced by the instant of `utc_now`.  A clock that raises is read as the
  default of `_read`, which is a valid datetime: the epoch is taken although
  `utc_now` is there (`timestamp_honest_iff`).
-/
import SweatMeter.Identity
import SweatMeter.Isolation
import SweatMeter.ProfileDiagnostics

namespace SweatMeter

open Py

/-- `_FALLBACK_INSTANT`, in UTC. -/
def epoch : Datetime := utcDatetime fallbackInstant.wall

namespace Clocks

/-- The injected reading in UTC, if it is valid: a datetime that knows its offset
    and can be converted. -/
def reading (c : Clocks) : Option Datetime :=
  match c.clock with
  | .ok (some value) => if value.isAware then (astimezone c.localToUtc value).toOption else none
  | _ => none

/-- The instant of `utc_now`, if it can be had. -/
def now (c : Clocks) : Option Datetime :=
  match c.utcNow with
  | .ok (some value) => (astimezone c.localToUtc value).toOption
  | _ => none

/-- What `_fallback_timestamp` returns on the emergency path. -/
def emergency (c : Clocks) : Datetime := fallbackTimestamp c.localToUtc c.utcNowEmergency

/-- The injected clock raises. -/
def Raises (c : Clocks) : Prop := ∃ e, c.clock = .error e

end Clocks

/-- The timestamp is that of the injected clock, or that of `utc_now` and noted;
    the epoch only stands in for a `utc_now` that fails. -/
structure HonestTimestamp (c : Clocks) (t : Datetime) (reasons : Dict String) : Prop where
  valid : ∀ u, c.reading = some u → t = u
  invalid : c.reading = none → t = c.now.getD epoch ∧ "timestamp" ∈ reasons

/-! ## Reading the clock -/

theorem fallbackTimestamp_utcNow (c : Clocks) :
    fallbackTimestamp c.localToUtc c.utcNow = c.now.getD epoch := by
  unfold fallbackTimestamp Clocks.now
  cases c.utcNow with
  | error e => rfl
  | ok now =>
    cases now with
    | none => rfl
    | some value => cases h : astimezone c.localToUtc value <;> simp only [h] <;> rfl

/-- What `_timestamp` returns for a clock that raises, one that is valid, and one
    that is neither. -/
theorem timestampOf_raises {c : Clocks} (h : c.Raises) (r : Dict String) :
    timestampOf c r = (epoch, r.set "timestamp" "reader_error") := by
  obtain ⟨e, he⟩ := h
  unfold timestampOf
  rw [he]
  rfl

theorem timestampOf_valid {c : Clocks} {u : Datetime} (h : c.reading = some u) (r : Dict String) :
    timestampOf c r = (u, r) := by
  unfold Clocks.reading at h
  unfold timestampOf
  cases hclock : c.clock with
  | error e => rw [hclock] at h; cases h
  | ok raw =>
    cases raw with
    | none => rw [hclock] at h; cases h
    | some value =>
      rw [hclock] at h
      simp only [read, Option.bind_some, h]

theorem timestampOf_invalid {c : Clocks} (hraises : ¬ c.Raises) (h : c.reading = none)
    (r : Dict String) :
    timestampOf c r = (c.now.getD epoch, r.set "timestamp" "invalid_clock") := by
  unfold Clocks.reading at h
  unfold timestampOf
  rw [← fallbackTimestamp_utcNow]
  cases hclock : c.clock with
  | error e => exact absurd ⟨e, hclock⟩ hraises
  | ok raw =>
    cases raw with
    | none => rfl
    | some value =>
      rw [hclock] at h
      simp only [read, Option.bind_some, h]

theorem reading_of_raises {c : Clocks} (h : c.Raises) : c.reading = none := by
  obtain ⟨e, he⟩ := h
  rw [Clocks.reading, he]

/-- The clock is read honestly unless it raises while `utc_now` tells another time. -/
theorem honest_timestampOf {c : Clocks} {r : Dict String} {t : Datetime} {reasons : Dict String}
    (ht : t = (timestampOf c r).1)
    (hkeeps : "timestamp" ∈ (timestampOf c r).2 → "timestamp" ∈ reasons) :
    HonestTimestamp c t reasons ↔ (c.Raises → c.now.getD epoch = epoch) := by
  by_cases hraises : c.Raises
  · rw [timestampOf_raises hraises] at ht hkeeps
    have hnone := reading_of_raises hraises
    constructor
    · intro h _
      rw [← (h.invalid hnone).1, ht]
    · intro h
      refine ⟨?_, fun _ => ⟨?_, hkeeps (by simp)⟩⟩
      · intro u hu
        rw [hnone] at hu
        cases hu
      · rw [ht, h hraises]
  · refine iff_of_true ?_ (fun h => absurd h hraises)
    cases hreading : c.reading with
    | some u =>
      rw [timestampOf_valid hreading] at ht
      refine ⟨?_, ?_⟩
      · intro u' hu'
        rw [hreading] at hu'
        cases hu'
        exact ht
      · intro hnone
        rw [hreading] at hnone
        cases hnone
    | none =>
      rw [timestampOf_invalid hraises hreading] at ht hkeeps
      refine ⟨?_, fun _ => ⟨ht, hkeeps (by simp)⟩⟩
      intro u hu
      rw [hreading] at hu
      cases hu

/-- On the emergency path only a valid reading can be honest, and only by chance. -/
theorem honest_emergency {c : Clocks} {reasons : Dict String} (h : "timestamp" ∉ reasons) :
    HonestTimestamp c c.emergency reasons ↔ c.reading = some c.emergency := by
  constructor
  · intro hhonest
    cases hreading : c.reading with
    | some u => rw [hhonest.valid u hreading]
    | none => exact absurd (hhonest.invalid hreading).2 h
  · intro hreading
    refine ⟨?_, ?_⟩
    · intro u hu
      rw [hreading] at hu
      exact Option.some.inj hu
    · intro hnone
      rw [hreading] at hnone
      cases hnone

/-! ## The diagnostics -/

/-- The note of the clock is in the diagnostics of the snapshot. -/
theorem timestamp_mem_snapshot {b : Boundary} {x : TelemetrySnapshot Number} (h : collect b = .ok x)
    (hmem : "timestamp" ∈ (timestampOf b.clocks ∅).2) : "timestamp" ∈ x.unavailableReasons := by
  obtain ⟨-, n, r, hr, gr, hloop, -, -, -, hreasons⟩ := collect_spec h
  rw [TelemetrySnapshot.unavailableReasons, hreasons, Dict.ofItems_sortedItems, mem_finishNotes]
  refine Or.inl ((normalizeGpuValues_notes hloop).keeps _ ?_)
  simp only [boundaryNotes, mem_readNote, mem_malformedNote]
  simp only [hmem, true_or]

section

variable {F : Type} {core : BaseAiCore F}

/-- The note of the clock is in the diagnostics after the profile. -/
theorem timestamp_mem_profile {b : ProfileBoundary} {p : MachineProfile F} {r : Dict String}
    (h : assemble core b = .ok (p, r))
    (hmem : ∀ r, "timestamp" ∈ (timestampOf b.clocks r).2) : "timestamp" ∈ r := by
  obtain ⟨fingerprint, r₁, hr, gr, -, -, -, -, rfl⟩ := assemble_notes h
  have hmarked : "timestamp" ∈ b.marked r₁ :=
    mem_markMissing.2 (Or.inl (mem_markMissing.2 (Or.inl (hmem r₁))))
  have hupdate :=
    (Dict.mem_update (b.marked r₁) (ProfileBoundary.reported hr gr)).2 (Or.inl hmarked)
  unfold ProfileBoundary.finish
  split_ifs
  · exact (Dict.mem_setdefault _ _ _).2 (Or.inr hupdate)
  · exact hupdate

end

/-! ## Snapshots and profiles -/

/-- When the timestamp is honest, for a collection that completes or does not: the
    clock does not raise, unless `utc_now` fails too or tells the epoch; and on
    the emergency path the reading is valid and `utc_now` tells the same time. -/
def StampsHonestly (c : Clocks) (completes : Prop) : Prop :=
  (completes ∧ (c.Raises → c.now.getD epoch = epoch)) ∨
    (¬ completes ∧ c.reading = some c.emergency)

theorem stampsHonestly_of_completes {c : Clocks} {completes : Prop} (h : completes) :
    StampsHonestly c completes ↔ (c.Raises → c.now.getD epoch = epoch) := by
  simp [StampsHonestly, h]

theorem stampsHonestly_of_not_completes {c : Clocks} {completes : Prop} (h : ¬ completes) :
    StampsHonestly c completes ↔ c.reading = some c.emergency := by
  simp [StampsHonestly, h]

theorem snapshot_timestamp_honest (c : TelemetryCollector) (b : Boundary) :
    HonestTimestamp b.clocks (c.snapshot b).1.timestamp (c.snapshot b).2.unavailableReasons ↔
      StampsHonestly b.clocks (Tolerated b) := by
  by_cases htol : Tolerated b
  · rw [stampsHonestly_of_completes htol]
    obtain ⟨x, hx⟩ := returns_collect.2 htol
    have hsnapshot : c.snapshot b = (x, ⟨x.unavailableReasons⟩) := by
      simp only [TelemetryCollector.snapshot, hx]
    rw [hsnapshot]
    exact honest_timestampOf (collect_ok hx).timestamp (timestamp_mem_snapshot hx)
  · rw [stampsHonestly_of_not_completes htol]
    have hfst := emergency_of_not_tolerated c htol
    have hreasons : (c.snapshot b).2.unavailableReasons =
        (emergencySnapshot b.clocks).unavailableReasons := by
      rw [← hfst]
      rfl
    rw [hfst, hreasons]
    refine honest_emergency ?_
    rw [TelemetrySnapshot.unavailableReasons, Dict.ofItems, Dict.mem_update]
    simp [emergencySnapshot]

section

variable {F : Type} (core : BaseAiCore F)

/-- Every profile that is returned is stamped honestly. -/
def HonestProfile (c : TelemetryCollector) (b : ProfileBoundary) : Prop :=
  ∀ p, (c.machineProfile core b).1 = .ok p →
    HonestTimestamp b.clocks p.observedAt (c.machineProfile core b).2.unavailableReasons

/-- A profile that is assembled is stamped with the time of its own reading. -/
theorem honestProfile_of_assembles (c : TelemetryCollector) {b : ProfileBoundary}
    (h : Assembles core b) :
    HonestProfile core c b ↔ (b.clocks.Raises → b.clocks.now.getD epoch = epoch) := by
  obtain ⟨⟨p, r⟩, hok⟩ := returns_assemble.2 h
  have hprofile : c.machineProfile core b = (.ok p, ⟨r⟩) := by
    simp only [TelemetryCollector.machineProfile, hok]
  obtain ⟨-, ⟨fingerprint, -, hp⟩, -⟩ := assemble_ok.1 hok
  have htime : p.observedAt = (timestampOf b.clocks ∅).1 := by rw [hp]; rfl
  have hmem : "timestamp" ∈ (timestampOf b.clocks ∅).2 → "timestamp" ∈ r := by
    intro h
    refine timestamp_mem_profile hok ?_
    intro r'
    rcases timestampOf_notes b.clocks with hnotes | hnotes
    · rw [hnotes] at h
      simp at h
    · exact (hnotes r' _).2 (Or.inr rfl)
  rw [← honest_timestampOf htime hmem, HonestProfile, hprofile]
  constructor
  · intro h
    exact h p rfl
  · intro h q hq
    cases hq
    exact h

/-- The emergency profile is stamped with `utc_now`, and nothing says so. -/
theorem honestProfile_of_emergency (c : TelemetryCollector) {b : ProfileBoundary}
    (h : ¬ Assembles core b) :
    HonestProfile core c b ↔ b.clocks.reading = some b.clocks.emergency ∨
      ∀ p, emergencyProfile core b.clocks ≠ .ok p := by
  have hprofile : c.machineProfile core b =
      (emergencyProfile core b.clocks, ⟨collectorError⟩) := by
    cases hok : assemble core b with
    | ok a => exact absurd (returns_assemble.1 ⟨a, hok⟩) h
    | error e => simp only [TelemetryCollector.machineProfile, hok]
  have hnotMem : "timestamp" ∉ collectorError := by
    rw [mem_collectorError]
    decide
  have htime : ∀ p, emergencyProfile core b.clocks = .ok p →
      p.observedAt = b.clocks.emergency := by
    intro p hp
    simp only [emergencyProfile, bind_eq_ok] at hp
    obtain ⟨fingerprint, -, ⟨⟩, -, hp⟩ := hp
    rw [← pure_eq_ok.1 hp]
    rfl
  rw [HonestProfile, hprofile]
  constructor
  · intro h
    by_cases hrefused : ∀ p, emergencyProfile core b.clocks ≠ .ok p
    · exact Or.inr hrefused
    · push Not at hrefused
      obtain ⟨p, hp⟩ := hrefused
      have := h p hp
      rw [htime p hp] at this
      exact Or.inl ((honest_emergency hnotMem).1 this)
  · rintro (h | hrefused) p hp
    · rw [htime p hp]
      exact (honest_emergency hnotMem).2 h
    · exact absurd hp (hrefused p)

theorem profile_timestamp_honest (c : TelemetryCollector) (b : ProfileBoundary) :
    HonestProfile core c b ↔ StampsHonestly b.clocks (Assembles core b) ∨
      (¬ Assembles core b ∧ ∀ p, emergencyProfile core b.clocks ≠ .ok p) := by
  by_cases hassembles : Assembles core b
  · rw [stampsHonestly_of_completes hassembles, honestProfile_of_assembles core c hassembles]
    simp [hassembles]
  · rw [stampsHonestly_of_not_completes hassembles, honestProfile_of_emergency core c hassembles]
    simp [hassembles]

end

/-- **Clock failures and timestamps.**  Snapshots and profiles are stamped with the
    valid reading, or with the noted instant of `utc_now`, exactly if the clock
    does not raise (or `utc_now` is no better than the epoch), as far as the
    collection completes. -/
theorem timestamp_honest_iff {F : Type} (core : BaseAiCore F) (c : TelemetryCollector)
    (b : Boundary) (pb : ProfileBoundary) :
    (HonestTimestamp b.clocks (c.snapshot b).1.timestamp (c.snapshot b).2.unavailableReasons ↔
      StampsHonestly b.clocks (Tolerated b)) ∧
    (HonestProfile core c pb ↔ StampsHonestly pb.clocks (Assembles core pb) ∨
      (¬ Assembles core pb ∧ ∀ p, emergencyProfile core pb.clocks ≠ .ok p)) :=
  ⟨snapshot_timestamp_honest c b, profile_timestamp_honest core c pb⟩

/-! ## A clock that raises -/

/-- An instant of the year 2026. -/
def springOf2026 : RawDatetime := ⟨63912596800000000, some (.ok (.delta 0))⟩

/-- The injected clock raises, and `utc_now` works. -/
def stoppedClock : Clocks where
  clock := .error ⟨"OSError"⟩
  utcNow := .ok (some springOf2026)
  utcNowEmergency := .ok (some springOf2026)
  localToUtc := .ok

/-- Readers without anything to report, at the stopped clock. -/
def idleSnapshot : Boundary where
  clocks := stoppedClock
  host := {
    cpuPercent := .ok .unsupported
    loadAverage1m := .ok .unsupported
    memory := .ok (some emptyMemory)
    cpuTemperature := .ok .unsupported
    diskThroughput := .ok (some emptyDisk)
    processRssBytes := .ok .unsupported
    unavailableReasons := .absent }
  gpu := { sample := .ok [], unavailableReasons := .absent }

/-- Static facts without anything to report, at the stopped clock. -/
def idleProfile : ProfileBoundary where
  clocks := stoppedClock
  staticFacts := .ok (some emptyFacts)
  hostReasons := .absent
  staticInfo := .ok []
  gpuReasons := .absent

/-- Snapshot and profile are stamped with the epoch, in 2026. -/
theorem stamped_at_epoch :
    stoppedClock.now = some (utcDatetime springOf2026.wall) ∧
    ((TelemetryCollector.mk ∅).snapshot idleSnapshot).1.timestamp = epoch ∧
    ¬ HonestTimestamp stoppedClock ((TelemetryCollector.mk ∅).snapshot idleSnapshot).1.timestamp
      ((TelemetryCollector.mk ∅).snapshot idleSnapshot).2.unavailableReasons ∧
    ¬ HonestProfile listing ⟨∅⟩ idleProfile := by
  have htime : ((TelemetryCollector.mk ∅).snapshot idleSnapshot).1.timestamp = epoch := by
    decide +kernel
  have hnow : stoppedClock.now = some (utcDatetime springOf2026.wall) := by decide +kernel
  have hother : stoppedClock.now.getD epoch ≠ epoch := by
    rw [hnow]
    decide
  refine ⟨hnow, htime, ?_, ?_⟩
  · intro h
    exact hother ((h.invalid rfl).1.symm.trans htime)
  · intro h
    rcases (profile_timestamp_honest listing ⟨∅⟩ idleProfile).1 h with h | ⟨hnot, -⟩
    · rcases h with ⟨-, h⟩ | ⟨-, h⟩
      · exact hother (h ⟨_, rfl⟩)
      · cases h
    · refine hnot ⟨fun _ => trivial, by rintro o ⟨⟩, ⟨_, rfl, rfl⟩, ?_, ?_⟩
      · rintro _ ⟨⟩
      · rintro _ ⟨⟩

end SweatMeter
