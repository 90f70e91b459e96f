/-
  CPU utilization of a Linux host (`LinuxHostReader.cpu_percent`), from the texts of
  `/proc/stat`.

  The reader is a meter: a text that cannot be read or parsed leaves its baseline,
  every other one becomes the baseline, whether or not it yields a percentage.  So the
  busy times that the calls of a run report add up to that of the whole run
  (`cpu_percent_tracks`).
-/
import Mathlib.Data.List.GetD
import Mathlib.Tactic.FieldSimp
import Mathlib.Tactic.Linarith
import Mathlib.Tactic.Ring
import SweatMeter.Linux
import SweatMeter.Meter
import SweatMeter.Temperature

namespace SweatMeter

open Py

/-! ## `/proc/stat` -/

/-- Jiffies, as `parse_proc_stat` adds them up. -/
structure CpuTimes where
  total : ℕ
  idle : ℕ
  deriving DecidableEq

/-- The first field of the aggregate line. -/
def isAggregate (fields : List Text) : Bool := fields.head? = some "cpu".toList

/-- The body of the loop of `parse_proc_stat`, for the aggregate line. -/
def parseCpuFields (fields : List Text) : Option CpuTimes :=
  if fields.length < 5 then none
  else match (fields.drop 1).mapM toInt with
    | .error _ => none
    | .ok counters =>
      if counters.any (· < 0) then none
      else
        let counters := counters.map Int.toNat
        -- user, nice, system, idle, iowait, irq, softirq, steal; guest fields follow
        some ⟨(counters.take 8).foldl (· + ·) 0, counters.getD 3 0 + counters.getD 4 0⟩

/-- The loop of `parse_proc_stat`. -/
def cpuLoop : List Text → Option CpuTimes
  | [] => none
  | line :: lines => if isAggregate (split line) then parseCpuFields (split line) else cpuLoop lines

/-- `parse_proc_stat`. -/
def parseProcStat (text : Text) : Option CpuTimes := cpuLoop (splitlines text)

/-! ## The reader -/

/-- `total_delta`. -/
def totalDelta (previous parsed : CpuTimes) : ℤ := parsed.total - previous.total

/-- `idle_delta`. -/
def idleDelta (previous parsed : CpuTimes) : ℤ := parsed.idle - previous.idle

/-- The percentage against a baseline; an interval that is too long for a double raises. -/
def cpuDelta (previous parsed : CpuTimes) : Except Exn (Measurement ℚ) :=
  let total := totalDelta previous parsed
  let idle := idleDelta previous parsed
  if total ≤ 0 ∨ idle < 0 ∨ total < idle then .ok none
  else if (doubleLimit : ℤ) ≤ total then .error ⟨"OverflowError"⟩
  else .ok (some (min 100 (max 0 ((total - idle) * 100 / total))))

/-- What `parse_proc_stat` makes of the text, if it can be read. -/
def parsedStat : Except Exn Text → Option CpuTimes
  | .ok text => parseProcStat text
  | .error _ => none

/-- The result of `cpu_percent`, by the baseline and the parsed text. -/
def cpuResult : Option CpuTimes → Option CpuTimes → Except Exn (Measurement ℚ)
  | some previous, some parsed => cpuDelta previous parsed
  | _, _ => .ok none

/-- `cpu_percent`, and the baseline it leaves. -/
def cpuPercent (previous : Option CpuTimes) (stat : Except Exn Text) :
    Except Exn (Measurement ℚ) × Option CpuTimes :=
  match parsedStat stat with
  | none => (.ok none, previous)
  | some parsed => (cpuResult previous (some parsed), some parsed)

/-- The fields of a `LinuxHostReader` that its operations assign. -/
structure HostState where
  previousCpu : Option CpuTimes := none
  disk : LinuxHostReader := {}
  temperatureFile : Option Path := none

/-- A call of one of the operations, with what it meets. -/
inductive HostCall where
  /-- the text of `/proc/stat`, or what reading it raises -/
  | cpuPercent (stat : Except Exn Text)
  | cpuTemperature (files : SysFiles)
  | diskThroughput (call : DiskCall)
  -- the others assign no field
  | loadAverage1m
  | memory
  | processRssBytes
  | staticFacts

/-- The reader after a call. -/
def HostState.call (s : HostState) : HostCall → HostState
  | .cpuPercent stat => { s with previousCpu := (SweatMeter.cpuPercent s.previousCpu stat).2 }
  | .cpuTemperature files =>
    { s with temperatureFile := (files.cpuTemperature s.temperatureFile).2 }
  | .diskThroughput call => { s with disk := (s.disk.diskThroughput call).2 }
  | .loadAverage1m | .memory | .processRssBytes | .staticFacts => s

/-- A reader that is called again and again. -/
def hostRuns (devices : Option (List Text)) : Lts HostState HostCall where
  init := { disk := { diskDevices := devices } }
  step s c := some (s.call c)

/-! ## What the calls report -/

/-- A call of `cpu_percent`: what it parsed, the baseline before and after it, and its result. -/
structure CpuEvent where
  parsed : Option CpuTimes
  before : Option CpuTimes
  result : Except Exn (Measurement ℚ)
  after : Option CpuTimes

/-- The calls of `cpu_percent` so far. -/
def observeCpu (s : HostState) : HostCall → List CpuEvent → List CpuEvent
  | .cpuPercent stat, log =>
    let r := SweatMeter.cpuPercent s.previousCpu stat
    log ++ [⟨parsedStat stat, s.previousCpu, r.1, r.2⟩]
  | _, log => log

/-- The calls of `cpu_percent` in a run. -/
def cpuEvents (devices : Option (List Text)) (calls : List HostCall) : List CpuEvent :=
  (hostRuns devices).record observeCpu (hostRuns devices).init [] calls

/-- The idle time between the two is not negative, and no more than the whole. -/
structure NoRollback (previous parsed : CpuTimes) : Prop where
  nonneg : 0 ≤ idleDelta previous parsed
  le : idleDelta previous parsed ≤ totalDelta previous parsed

/-- The percentage of the time between the two that was busy. -/
def percent (previous parsed : CpuTimes) : ℚ :=
  100 * (totalDelta previous parsed - idleDelta previous parsed) / totalDelta previous parsed

/-- The busy jiffies since boot. -/
def CpuTimes.busy (p : CpuTimes) : ℚ := p.total - p.idle

/-- The busy jiffies that a call reports. -/
def CpuEvent.reported (e : CpuEvent) : ℚ :=
  match e.before, e.parsed, e.result with
  | some previous, some parsed, .ok (some x) => x * totalDelta previous parsed / 100
  | _, _, _ => 0

/-- The busy jiffies that these calls report. -/
def reportedBusy : List CpuEvent → ℚ
  | [] => 0
  | e :: log => e.reported + reportedBusy log

/-- What one call does with its text and its baseline. -/
structure CpuEvent.Correct (e : CpuEvent) : Prop where
  /-- a text without counters is unsupported, and the baseline stays -/
  unparsed : e.parsed = none → e.result = .ok none ∧ e.after = e.before
  /-- counters become the baseline -/
  parsed : ∀ p, e.parsed = some p → e.after = some p
  /-- there is a number exactly if time has passed since the baseline, without a rollback -/
  numeric : ∀ x, e.result = .ok (some x) ↔ ∃ previous p, e.before = some previous ∧
    e.parsed = some p ∧ 0 < totalDelta previous p ∧ NoRollback previous p ∧ x = percent previous p
  bounded : ∀ x, e.result = .ok (some x) → 0 ≤ x ∧ x ≤ 100
  returns : Returns e.result

structure TracksCpu (log : List CpuEvent) : Prop where
  correct : ∀ e ∈ log, e.Correct
  /-- the baseline is what the last call before with counters parsed -/
  baseline : ∀ pre e post, log = pre ++ e :: post →
    e.before = (pre.map CpuEvent.parsed).reduceOption.getLast?
  /-- no busy time is lost or counted twice -/
  conserved : (log.map CpuEvent.parsed).reduceOption.IsChain NoRollback →
    ∀ first last, (log.map CpuEvent.parsed).reduceOption.head? = some first →
      (log.map CpuEvent.parsed).reduceOption.getLast? = some last →
        reportedBusy log = last.busy - first.busy

/-- The fields of the aggregate line. -/
def aggregateLine (text : Text) : Option (List Text) :=
  ((splitlines text).map split).find? isAggregate

/-- The texts differ in lines other than the aggregate one, or in the guest columns of that. -/
inductive SameTimes (text text' : Text) : Prop where
  | perCore (h : aggregateLine text = aggregateLine text')
  | guests (fields guests guests' : List Text) (hlength : fields.length = 9)
      (h : aggregateLine text = some (fields ++ guests))
      (h' : aggregateLine text' = some (fields ++ guests'))
      (hguests : ∀ g ∈ guests ++ guests', ∃ n : ℕ, toInt g = .ok n)

/-- The calls are the same, but for such a difference of the texts. -/
def SameCall : HostCall → HostCall → Prop
  | .cpuPercent (.ok text), .cpuPercent (.ok text') => SameTimes text text'
  | c, c' => c = c'

/-- The counters of the call are in the range of a double. -/
def HostCall.InRange : HostCall → Prop
  | .cpuPercent stat => ∀ p, parsedStat stat = some p → p.total < doubleLimit
  | _ => True

/-! ## Parsing -/

theorem cpuLoop_eq (lines : List Text) :
    cpuLoop lines = ((lines.map split).find? isAggregate).bind parseCpuFields := by
  induction lines with
  | nil => rfl
  | cons line lines ih =>
    rw [cpuLoop, ih, List.map_cons, List.find?_cons]
    cases isAggregate (split line) <;> rfl

theorem parseProcStat_eq (text : Text) :
    parseProcStat text = (aggregateLine text).bind parseCpuFields := cpuLoop_eq _

/-- Guest columns that are numbers do not matter. -/
theorem parseCpuFields_append {fields guests : List Text} (hlength : fields.length = 9)
    (hguests : ∀ g ∈ guests, ∃ n : ℕ, toInt g = .ok n) :
    parseCpuFields (fields ++ guests) = parseCpuFields fields := by
  have hfields : ¬ fields.length < 5 := by omega
  have hall : ¬ (fields ++ guests).length < 5 := by
    rw [List.length_append]
    omega
  have hdrop : (fields ++ guests).drop 1 = fields.drop 1 ++ guests :=
    List.drop_append_of_le_length (by omega)
  have hreads : ∃ ns : List ℕ, guests.mapM toInt = .ok (ns.map Int.ofNat) := by
    clear hall hdrop
    induction guests with
    | nil => exact ⟨[], rfl⟩
    | cons g guests ih =>
      rcases hguests g List.mem_cons_self with ⟨n, hn⟩
      rcases ih fun g hg => hguests g (List.mem_cons_of_mem _ hg) with ⟨ns, hns⟩
      exact ⟨n :: ns, by rw [List.mapM_cons, hn, hns]; rfl⟩
  rcases hreads with ⟨ns, hns⟩
  unfold parseCpuFields
  rw [if_neg hfields, if_neg hall, hdrop, List.mapM_append, hns]
  cases hcounters : (fields.drop 1).mapM toInt with
  | error e => rfl
  | ok counters =>
    have hcount : counters.length = 8 := by
      rw [length_of_mapM hcounters, List.length_drop, hlength]
    have hnone : (ns.map Int.ofNat).any (· < 0) = false := by
      rw [List.any_eq_false]
      intro i hi
      rcases List.mem_map.1 hi with ⟨n, -, rfl⟩
      simp
    have hany : (counters ++ ns.map Int.ofNat).any (· < 0) = counters.any (· < 0) := by
      rw [List.any_append, hnone, Bool.or_false]
    have hmap : (counters.map Int.toNat).length = 8 := by rw [List.length_map, hcount]
    change (if (counters ++ ns.map Int.ofNat).any (· < 0) then _ else _) = _
    rw [hany]
    simp only [List.map_append, List.take_append_of_le_length hmap.ge,
      List.getD_append _ _ _ _ (hmap.ge.trans_lt' (by omega : 3 < 8)),
      List.getD_append _ _ _ _ (hmap.ge.trans_lt' (by omega : 4 < 8))]

theorem parseProcStat_congr {text text' : Text} (h : SameTimes text text') :
    parseProcStat text = parseProcStat text' := by
  rw [parseProcStat_eq, parseProcStat_eq]
  cases h with
  | perCore h => rw [h]
  | guests fields guests guests' hlength h h' hguests =>
    rw [h, h', Option.bind_some, Option.bind_some, parseCpuFields_append hlength,
      parseCpuFields_append hlength]
    · intro g hg
      exact hguests g (List.mem_append_right _ hg)
    · intro g hg
      exact hguests g (List.mem_append_left _ hg)

/-! ## The reader is a meter -/

/-- The counters that a call of `cpu_percent` parses. -/
def HostCall.sample : HostCall → Option (Option CpuTimes)
  | .cpuPercent stat => some (parsedStat stat)
  | _ => none

def CpuEvent.ofMeter (e : Meter.Event CpuTimes (Except Exn (Measurement ℚ))) : CpuEvent :=
  ⟨e.sample, e.before, e.result, e.after⟩

theorem cpuPercent_eq (previous : Option CpuTimes) (stat : Except Exn Text) :
    cpuPercent previous stat =
      (cpuResult previous (parsedStat stat), (parsedStat stat).or previous) := by
  unfold cpuPercent
  cases parsedStat stat with
  | none => cases previous <;> rfl
  | some parsed => rfl

theorem record_eq (devices : Option (List Text)) (s : HostState) (log : List CpuEvent)
    (calls : List HostCall) :
    (hostRuns devices).record observeCpu s log calls = log ++
      (Meter.log cpuResult s.previousCpu (calls.filterMap HostCall.sample)).map
        CpuEvent.ofMeter := by
  induction calls generalizing s log with
  | nil => simp [Lts.record, Meter.log]
  | cons c calls ih =>
    change (hostRuns devices).record observeCpu (s.call c) (observeCpu s c log) calls = _
    rw [ih]
    cases c with
    | cpuPercent stat =>
      simp only [HostState.call, observeCpu, cpuPercent_eq, HostCall.sample, List.append_assoc]
      rfl
    | _ => rfl

theorem cpuEvents_eq (devices : Option (List Text)) (calls : List HostCall) :
    cpuEvents devices calls =
      (Meter.log cpuResult none (calls.filterMap HostCall.sample)).map CpuEvent.ofMeter := by
  rw [cpuEvents, record_eq]
  rfl

/-! ## One interval -/

section
variable {previous parsed : CpuTimes}

theorem totalDelta_lt (h : parsed.total < doubleLimit) :
    totalDelta previous parsed < doubleLimit := by
  unfold totalDelta
  omega

/-- A number in range is the percentage. -/
theorem percent_mem (h : 0 < totalDelta previous parsed) (hp : NoRollback previous parsed) :
    0 ≤ percent previous parsed ∧ percent previous parsed ≤ 100 := by
  have htotal : (0 : ℚ) < totalDelta previous parsed := Int.cast_pos.2 h
  have hidle : (0 : ℚ) ≤ idleDelta previous parsed := Int.cast_nonneg hp.nonneg
  have hle : (idleDelta previous parsed : ℚ) ≤ totalDelta previous parsed := Int.cast_le.2 hp.le
  constructor
  · exact div_nonneg (by linarith) htotal.le
  · rw [percent, div_le_iff₀ htotal]
    linarith

theorem cpuDelta_of_noRollback (h : parsed.total < doubleLimit)
    (hpos : 0 < totalDelta previous parsed) (hp : NoRollback previous parsed) :
    cpuDelta previous parsed = .ok (some (percent previous parsed)) := by
  have hbad : ¬ (totalDelta previous parsed ≤ 0 ∨ idleDelta previous parsed < 0 ∨
      totalDelta previous parsed < idleDelta previous parsed) := by
    have hnonneg := hp.nonneg
    have hle := hp.le
    omega
  have hfits : ¬ (doubleLimit : ℤ) ≤ totalDelta previous parsed := not_le.2 (totalDelta_lt h)
  have hmem := percent_mem hpos hp
  have hpercent : ((totalDelta previous parsed - idleDelta previous parsed) * 100 /
      totalDelta previous parsed : ℚ) = percent previous parsed := by
    rw [percent, mul_comm]
  simp only [cpuDelta, if_neg hbad, if_neg hfits, hpercent]
  rw [max_eq_right hmem.1, min_eq_right hmem.2]

theorem cpuDelta_of_not (h : ¬ (0 < totalDelta previous parsed ∧ NoRollback previous parsed)) :
    cpuDelta previous parsed = .ok none := by
  refine if_pos ?_
  by_contra hgood
  rw [not_or, not_or, not_le, not_lt, not_lt] at hgood
  exact h ⟨hgood.1, hgood.2.1, hgood.2.2⟩

theorem cpuDelta_eq_ok (h : parsed.total < doubleLimit) {x : ℚ} :
    cpuDelta previous parsed = .ok (some x) ↔
      0 < totalDelta previous parsed ∧ NoRollback previous parsed ∧
        x = percent previous parsed := by
  by_cases hgood : 0 < totalDelta previous parsed ∧ NoRollback previous parsed
  · rw [cpuDelta_of_noRollback h hgood.1 hgood.2]
    constructor
    · intro hx
      cases hx
      exact ⟨hgood.1, hgood.2, rfl⟩
    · rintro ⟨-, -, rfl⟩
      rfl
  · rw [cpuDelta_of_not hgood]
    constructor
    · intro hx
      cases hx
    · rintro ⟨hpos, hp, -⟩
      exact absurd ⟨hpos, hp⟩ hgood

theorem returns_cpuDelta (h : parsed.total < doubleLimit) : Returns (cpuDelta previous parsed) := by
  by_cases hgood : 0 < totalDelta previous parsed ∧ NoRollback previous parsed
  · rw [cpuDelta_of_noRollback h hgood.1 hgood.2]
    exact returns_ok _
  · rw [cpuDelta_of_not hgood]
    exact returns_ok _

end

/-- A call whose counters are in range. -/
theorem correct_ofMeter {before sample : Option CpuTimes}
    (h : ∀ p, sample = some p → p.total < doubleLimit) :
    (CpuEvent.ofMeter ⟨before, sample, cpuResult before sample⟩).Correct := by
  cases sample with
  | none =>
    have hresult : cpuResult before none = .ok none := by cases before <;> rfl
    refine ⟨fun _ => ⟨hresult, rfl⟩, by rintro p ⟨⟩, ?_, ?_, hresult ▸ returns_ok _⟩
    · intro x
      constructor
      · intro hx
        cases hresult.symm.trans hx
      · rintro ⟨_, _, _, ⟨⟩, _⟩
    · intro x hx
      cases hresult.symm.trans hx
  | some p =>
    have hp := h p rfl
    refine ⟨by rintro ⟨⟩, by rintro _ ⟨⟩; rfl, ?_, ?_, ?_⟩
    · intro x
      cases before with
      | none =>
        constructor
        · rintro ⟨⟩
        · rintro ⟨_, _, ⟨⟩, _⟩
      | some previous =>
        refine (cpuDelta_eq_ok hp).trans ?_
        constructor
        · rintro ⟨hpos, hforward, rfl⟩
          exact ⟨previous, p, rfl, rfl, hpos, hforward, rfl⟩
        · rintro ⟨_, _, ⟨⟩, ⟨⟩, hpos, hforward, rfl⟩
          exact ⟨hpos, hforward, rfl⟩
    · intro x hx
      cases before with
      | none => cases hx
      | some previous =>
        rcases (cpuDelta_eq_ok hp).1 hx with ⟨hpos, hforward, rfl⟩
        exact percent_mem hpos hforward
    · cases before with
      | none => exact returns_ok _
      | some previous => exact returns_cpuDelta hp

/-! ## Whole runs -/

/-- Without rollbacks, the calls report the busy time. -/
theorem measures_busy : Meter.Measures cpuResult (fun e => (CpuEvent.ofMeter e).reported)
    CpuTimes.busy fun x y => NoRollback x y ∧ y.total < doubleLimit where
  missing before := by cases before <;> rfl
  first x := rfl
  interval x y h := by
    have hbusy : y.busy - x.busy = totalDelta x y - idleDelta x y := by
      simp only [CpuTimes.busy, totalDelta, idleDelta]
      push_cast
      ring
    by_cases hpos : 0 < totalDelta x y
    · have hresult : cpuResult (some x) (some y) = .ok (some (percent x y)) :=
        cpuDelta_of_noRollback h.2 hpos h.1
      have htotal : (totalDelta x y : ℚ) ≠ 0 := Int.cast_ne_zero.2 hpos.ne'
      simp only [CpuEvent.reported, CpuEvent.ofMeter, hresult, percent]
      rw [hbusy]
      field_simp
    · have hresult : cpuResult (some x) (some y) = .ok none :=
        cpuDelta_of_not fun hgood => hpos hgood.1
      have hnonneg := h.1.nonneg
      have hle := h.1.le
      have hidle : idleDelta x y = 0 := by omega
      have htotal : totalDelta x y = 0 := by omega
      simp only [CpuEvent.reported, CpuEvent.ofMeter, hresult]
      rw [hbusy, hidle, htotal, sub_self]

theorem reportedBusy_map (log : List (Meter.Event CpuTimes (Except Exn (Measurement ℚ)))) :
    reportedBusy (log.map CpuEvent.ofMeter) =
      Meter.total (fun e => (CpuEvent.ofMeter e).reported) log := by
  induction log with
  | nil => rfl
  | cons e log ih => rw [List.map_cons, reportedBusy, ih, Meter.total]

theorem map_parsed_ofMeter (log : List (Meter.Event CpuTimes (Except Exn (Measurement ℚ)))) :
    (log.map CpuEvent.ofMeter).map CpuEvent.parsed = log.map Meter.Event.sample := by
  rw [List.map_map]
  rfl

/-- The parsed counters of a run are in range. -/
theorem total_lt_of_inRange {calls : List HostCall} (h : ∀ c ∈ calls, c.InRange) {p : CpuTimes}
    (hp : some p ∈ calls.filterMap HostCall.sample) : p.total < doubleLimit := by
  rcases List.mem_filterMap.1 hp with ⟨c, hc, hsample⟩
  cases c with
  | cpuPercent stat => exact h _ hc p (Option.some.inj hsample)
  | _ => cases hsample

theorem tracksCpu_of_inRange (devices : Option (List Text)) {calls : List HostCall}
    (h : ∀ c ∈ calls, c.InRange) : TracksCpu (cpuEvents devices calls) := by
  rw [cpuEvents_eq]
  constructor
  · intro e he
    rcases List.mem_map.1 he with ⟨⟨before, sample, result⟩, hmem, rfl⟩
    obtain rfl : result = cpuResult before sample := Meter.result_of_mem hmem
    refine correct_ofMeter ?_
    rintro p rfl
    refine total_lt_of_inRange h ?_
    have hsample := List.mem_map_of_mem (f := Meter.Event.sample) hmem
    rwa [Meter.map_sample_log] at hsample
  · intro pre e post hsplit
    rcases Meter.split_of_map hsplit with ⟨pre', e', post', hlog, rfl, rfl⟩
    rw [map_parsed_ofMeter]
    exact (Meter.before_eq hlog).trans Option.or_none
  · intro hchain first last hfirst hlast
    rw [map_parsed_ofMeter, Meter.map_sample_log] at hchain hfirst hlast
    rw [reportedBusy_map]
    refine Meter.total_eq_sub measures_busy ?_ hfirst hlast
    refine hchain.imp_of_mem_imp ?_
    intro x y _ hy hxy
    exact ⟨hxy, total_lt_of_inRange h (List.reduceOption_mem_iff.1 hy)⟩

theorem sample_of_same {c c' : HostCall} (h : SameCall c c') : c.sample = c'.sample := by
  unfold SameCall at h
  split at h
  · exact congrArg some (parseProcStat_congr h)
  · rw [h]

theorem samples_of_same {calls calls' : List HostCall} (h : List.Forall₂ SameCall calls calls') :
    calls.filterMap HostCall.sample = calls'.filterMap HostCall.sample := by
  induction h with
  | nil => rfl
  | cons hc _ ih => rw [List.filterMap_cons, List.filterMap_cons, sample_of_same hc, ih]

/-- **CPU utilization over whole runs.**  Whatever calls fail, and whatever other
    operations are called in between, each result is the percentage since the last call
    that parsed its counters, and the busy times reported add up.  Guest columns and
    the lines of single cores do not matter. -/
theorem cpu_percent_tracks (devices : Option (List Text)) {calls : List HostCall}
    (h : ∀ c ∈ calls, c.InRange) :
    TracksCpu (cpuEvents devices calls) ∧ ∀ calls', List.Forall₂ SameCall calls calls' →
      cpuEvents devices calls' = cpuEvents devices calls := by
  refine ⟨tracksCpu_of_inRange devices h, ?_⟩
  intro calls' hsame
  rw [cpuEvents_eq, cpuEvents_eq, samples_of_same hsame]

/-! ## A failed read -/

def statCall (text : String) : HostCall := .cpuPercent (.ok text.toList)

/-- The second call fails, and the third one reports on the time since the first. -/
def failedRead : List HostCall := [
  statCall "cpu 100 0 100 800\n",
  .memory,
  .cpuPercent (.error ⟨"PermissionError"⟩),
  statCall "cpu0 7 7 7 7\ncpu 200 0 200 900 0 0 0 0 60\n"]

theorem cpu_percent_tracks_failed :
    (TracksCpu (cpuEvents none failedRead) ∧ ∀ calls', List.Forall₂ SameCall failedRead calls' →
      cpuEvents none calls' = cpuEvents none failedRead) ∧
    (cpuEvents none failedRead).map CpuEvent.result =
      [.ok none, .ok none, .ok (some (200 / 3))] := by
  refine ⟨cpu_percent_tracks none ?_, by decide +kernel⟩
  have hfits : 1300 < doubleLimit := by decide +kernel
  intro c hc
  simp only [failedRead, List.mem_cons, List.not_mem_nil, or_false] at hc
  rcases hc with rfl | rfl | rfl | rfl
  · intro p hp
    obtain rfl : p = ⟨1000, 800⟩ := by
      have hparsed : parsedStat (.ok "cpu 100 0 100 800\n".toList) = some ⟨1000, 800⟩ := by
        decide +kernel
      exact Option.some.inj (hp.symm.trans hparsed)
    exact hfits.trans' (by norm_num)
  · trivial
  · rintro p ⟨⟩
  · intro p hp
    obtain rfl : p = ⟨1300, 900⟩ := by
      have hparsed : parsedStat (.ok "cpu0 7 7 7 7\ncpu 200 0 200 900 0 0 0 0 60\n".toList) =
          some ⟨1300, 900⟩ := by
        decide +kernel
      exact Option.some.inj (hp.symm.trans hparsed)
    exact hfits

end SweatMeter
