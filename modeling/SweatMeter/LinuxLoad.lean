/-
  The load of a Linux machine, from what its kernel counts to what the snapshots show.

  The kernel tells its counters in texts under `/proc`, and the reader takes their
  differences.  Where each text that can be read tells the counters of its moment, the
  snapshots of a session show the figures of these counters, computed without the texts:
  rates since the last moment that could be read, and amounts as they are (`linux_load`).
-/
import Mathlib.Algebra.Order.BigOperators.Group.List
import SweatMeter.DiskReset
import SweatMeter.LinuxSession
import SweatMeter.WholeDevices

namespace SweatMeter

open Py Py.Stateful

/-! ## The load -/

/-- Jiffies since boot, by what they were spent on. -/
structure Jiffies where
  user : ℕ
  nice : ℕ
  system : ℕ
  idle : ℕ
  iowait : ℕ
  irq : ℕ
  softirq : ℕ
  steal : ℕ

namespace Jiffies

variable (k : Jiffies)

def busy : ℕ := k.user + k.nice + k.system + k.irq + k.softirq + k.steal

def idling : ℕ := k.idle + k.iowait

def total : ℕ := k.busy + k.idling

/-- The columns of the line. -/
def columns : List ℕ := [k.user, k.nice, k.system, k.idle, k.iowait, k.irq, k.softirq, k.steal]

/-- The busy part of the time since `previous`, in percent. -/
def utilization (previous : Jiffies) : Measurement ℚ :=
  if previous.total < k.total ∧ previous.idling ≤ k.idling ∧ previous.busy ≤ k.busy then
    some (100 * (k.busy - previous.busy) / (k.total - previous.total))
  else none

end Jiffies

/-- What a Linux machine counts. -/
structure Load where
  jiffies : Jiffies
  /-- the average of the last minute, in hundredths -/
  average : ℕ
  totalKib : ℕ
  availableKib : ℕ
  rssKib : ℕ
  /-- the whole devices that are read -/
  disks : List DiskRow
  /-- the reading of the clock that goes with the devices -/
  uptime : ℚ
  available_le : availableKib ≤ totalKib
  disks_ne : disks ≠ []

namespace Load

variable (l : Load)

def bytes (d : Direction) : ℕ := totalSectors d l.disks * 512

/-- The bytes per second since `previous`. -/
def throughput (previous : Load) (d : Direction) : Measurement ℚ :=
  if previous.uptime < l.uptime ∧ previous.bytes d ≤ l.bytes d then
    some ((l.bytes d - previous.bytes d) / (l.uptime - previous.uptime))
  else none

/-- Its counters fit a double. -/
structure InRange : Prop where
  jiffies : l.jiffies.total < doubleLimit
  average : l.average < doubleLimit
  ram : l.totalKib * 1024 < doubleLimit
  rss : l.rssKib * 1024 < doubleLimit
  bytes : ∀ d, l.bytes d < doubleLimit

end Load

/-! ## Its texts -/

/-- A text of `/proc/stat`: the first line of all CPUs has these columns, and perhaps more. -/
def ShowsJiffies (k : Jiffies) (text : Text) : Prop :=
  ∃ guests : List ℕ, (∀ g ∈ guests, g < 10 ^ maxStrDigits) ∧
    aggregateLine text = some ("cpu".toList :: (k.columns ++ guests).map numeral)

/-- A text of `/proc/loadavg`. -/
def ShowsAverage (average : ℕ) (text : Text) : Prop :=
  (split text).head? = some (hundredths average)

/-- A text of `/proc/self/status`: no line before that of the amount has its key. -/
def ShowsRss (kib : ℕ) (text : Text) : Prop :=
  ∃ before blanks after, (∀ c ∈ blanks, isspace c = true) ∧
    splitlines text =
      before ++ ("VmRSS:".toList ++ (blanks ++ (numeral kib ++ " kB".toList))) :: after ∧
    ∀ line ∈ before, (partition ':' line).1 ≠ "VmRSS".toList

/-- The fields of a line of `/proc/diskstats` with the counters of this device. -/
structure ShowsDisk (fields : List Text) (r : DiskRow) : Prop where
  columns : 10 ≤ fields.length
  name : fields[2]? = some r.name
  sectors : ∀ d : Direction, fields.getD d.column [] = numeral (r.sectors d)

/-- A text of `/proc/diskstats`: its selected lines are those of the rows. -/
def ShowsDisks (devices : Option (List Text)) (rows : List DiskRow) (text : Text) : Prop :=
  List.Forall₂ ShowsDisk (selectedRows devices text) rows ∧
    ∀ names ∈ devices, ∀ name ∈ names, ∃ r ∈ rows, r.name = name

/-! ## What is read of them -/

section

variable {l : Load} {text : Text}

theorem mapM_numerals {ns : List ℕ} (h : ∀ n ∈ ns, n < 10 ^ maxStrDigits) :
    (ns.map numeral).mapM toInt = .ok (ns.map Int.ofNat) := by
  rw [List.mapM_map]
  exact mapM_eq_map fun n hn => toInt_numeral (h n hn)

theorem printable_nat {n : ℕ} (h : n < doubleLimit) : n < 10 ^ maxStrDigits := by
  have hfits : Fits (.num (.int n)) := h
  exact printable_of_fits hfits

theorem parseProcStat_of_shows {k : Jiffies} (h : ShowsJiffies k text)
    (hk : k.total < doubleLimit) :
    parseProcStat text = some ⟨k.total, k.idling⟩ := by
  obtain ⟨guests, hguests, hline⟩ := h
  have hcolumns : ∀ n ∈ k.columns ++ guests, n < 10 ^ maxStrDigits := by
    intro n hn
    rcases List.mem_append.1 hn with hn | hn
    · refine printable_nat (lt_of_le_of_lt ?_ hk)
      simp only [Jiffies.columns, List.mem_cons, List.not_mem_nil, or_false] at hn
      unfold Jiffies.total Jiffies.busy Jiffies.idling
      omega
    · exact hguests n hn
  rw [parseProcStat_eq, hline, Option.bind_some, parseCpuFields, if_neg, List.drop_one,
    List.tail_cons, mapM_numerals hcolumns]
  · simp only
    rw [if_neg]
    · simp [Jiffies.columns, Jiffies.total, Jiffies.busy, Jiffies.idling]
      omega
    · simp
  · simp [Jiffies.columns]

theorem parseLoadavg_of_shows {average : ℕ} (h : ShowsAverage average text)
    (hfits : average < doubleLimit) : parseLoadavg text = some (average / 100 : ℚ) := by
  obtain ⟨rest, hsplit⟩ := List.head?_eq_some_iff.1 h
  have hnonneg : (0 : ℚ) ≤ average / 100 := div_nonneg (Nat.cast_nonneg _) (by norm_num)
  have hfinite : toDouble (average / 100 : ℚ) = .finite (average / 100) := by
    rw [toDouble, if_neg]
    rw [not_le, abs_of_nonneg hnonneg]
    have : (average : ℚ) < doubleLimit := by exact_mod_cast hfits
    linarith
  rw [parseLoadavg, hsplit]
  simp only [toFloat_hundredths, hfinite, if_pos hnonneg]

theorem parseRss_of_shows {kib : ℕ} (h : ShowsRss kib text) (hfits : kib < 10 ^ maxStrDigits) :
    parseRss text = some (kib * 1024 : ℕ) := by
  obtain ⟨before, blanks, after, hblanks, hlines, hbefore⟩ := h
  have hnone : before.findSome? rssLine = none := by
    rw [List.findSome?_eq_none_iff]
    intro line hline
    have hkey := hbefore line hline
    unfold rssLine
    split
    · rfl
    · rename_i key remainder heq
      rw [heq] at hkey
      rw [if_pos hkey]
  have hcolon : "VmRSS:".toList ++ (blanks ++ (numeral kib ++ " kB".toList)) =
      "VmRSS".toList ++ ':' :: (blanks ++ (numeral kib ++ " kB".toList)) := rfl
  have hline : rssLine ("VmRSS:".toList ++ (blanks ++ (numeral kib ++ " kB".toList))) =
      some (some ((kib * 1024 : ℕ) : ℤ)) := by
    rw [hcolon, rssLine, partition_append (by decide)]
    simp only [split_kib hblanks, toInt_numeral hfits]
    rw [if_neg (by simp), if_neg (by decide), if_pos (Int.natCast_nonneg _)]
    norm_cast
  rw [parseRss, hlines, List.findSome?_append, hnone, Option.none_or, List.findSome?_cons, hline]
  rfl

theorem parseMeminfo_of_shows (htotal : ShowsKib "MemTotal" l.totalKib text)
    (havailable : ShowsKib "MemAvailable" l.availableKib text) (hl : l.InRange) :
    parseMeminfo text = ⟨some (l.totalKib * 1024 : ℕ), some (l.availableKib * 1024 : ℕ),
      some ((l.totalKib - l.availableKib) * 1024 : ℕ)⟩ := by
  have hle := l.available_le
  have hram := hl.ram
  have hvalues := getElem?_of_showsKib htotal (by decide) (by decide) (printable_nat (by omega))
  have hvalues' :=
    getElem?_of_showsKib havailable (by decide) (by decide) (printable_nat (by omega))
  rw [parseMeminfo, memoryOf, hvalues, hvalues']
  show MemoryReading.mk _ _ (if _ then _ else _) = _
  rw [if_pos (by omega)]
  congr 2
  omega

/-! ### The devices -/

theorem ShowsDisk.counter_eq {fields : List Text} {r : DiskRow} (h : ShowsDisk fields r)
    (hr : ∀ d, r.sectors d < 10 ^ maxStrDigits) (d : Direction) :
    counter d fields = r.sectors d := by
  rw [counter, h.sectors, toInt_numeral (hr d)]
  rfl

theorem ShowsDisk.not_malformed {fields : List Text} {r : DiskRow} (h : ShowsDisk fields r)
    (hr : ∀ d, r.sectors d < 10 ^ maxStrDigits) : ¬ Malformed fields := by
  have hcolumns := h.columns
  rintro (hshort | ⟨d, hneg⟩)
  · omega
  · have := hneg (r.sectors d) (by rw [h.sectors, toInt_numeral (hr d)])
    omega

variable {devices : Option (List Text)}

theorem counterSum_of_shows {rows : List (List Text)} {disks : List DiskRow}
    (h : List.Forall₂ ShowsDisk rows disks)
    (hdisks : ∀ r ∈ disks, ∀ d, r.sectors d < 10 ^ maxStrDigits) (d : Direction) :
    counterSum d rows = totalSectors d disks := by
  induction h with
  | nil => rfl
  | cons hr _ ih =>
    obtain ⟨hsectors, hdisks⟩ := List.forall_mem_cons.1 hdisks
    rw [counterSum, totalSectors, List.map_cons, List.map_cons, List.sum_cons, List.sum_cons,
      hr.counter_eq hsectors]
    exact congrArg _ (ih hdisks)

theorem Load.InRange.sectors (hl : l.InRange) :
    ∀ r ∈ l.disks, ∀ d, r.sectors d < 10 ^ maxStrDigits := by
  intro r hr d
  have hle : r.sectors d ≤ totalSectors d l.disks :=
    List.single_le_sum (fun _ _ => Nat.zero_le _) _ (List.mem_map_of_mem hr)
  have hbytes := hl.bytes d
  unfold Load.bytes at hbytes
  exact printable_nat (by omega)

theorem readable_of_shows (h : ShowsDisks devices l.disks text) (hl : l.InRange) :
    ¬ Unreadable devices (selectedRows devices text) := by
  obtain ⟨hrows, hnames⟩ := h
  rintro (⟨fields, hmem, hbad⟩ | hnil | ⟨names, hdevices, name, hname, hnone⟩)
  · obtain ⟨i, hi, rfl⟩ := List.mem_iff_getElem.1 hmem
    have hi' : i < l.disks.length := hrows.length_eq ▸ hi
    exact (hrows.get hi hi').not_malformed (hl.sectors _ (List.getElem_mem hi')) hbad
  · rw [hnil] at hrows
    exact l.disks_ne (List.forall₂_nil_left_iff.1 hrows)
  · obtain ⟨r, hr, rfl⟩ := hnames names hdevices name hname
    obtain ⟨i, hi, rfl⟩ := List.mem_iff_getElem.1 hr
    have hi' : i < (selectedRows devices text).length := hrows.length_eq ▸ hi
    exact hnone _ (List.getElem_mem hi') (hrows.get hi' hi).name

theorem parseDiskstats_of_shows (h : ShowsDisks devices l.disks text) (hl : l.InRange) :
    parseDiskstats text devices = some l.bytes := by
  obtain ⟨hnone, hsome⟩ := parseDiskstats_spec text devices
  obtain ⟨p, hp⟩ := Option.ne_none_iff_exists'.1 (mt hnone.1 (readable_of_shows h hl))
  rw [hp]
  refine congrArg some (funext fun d => ?_)
  rw [hsome p hp d, counterSum_of_shows h.1 hl.sectors, Load.bytes, Nat.mul_comm]

end

/-! ## What is computed of them -/

/-- The percentage is that of the busy time. -/
theorem cpuDelta_of_jiffies {k previous : Jiffies} (hk : k.total < doubleLimit) :
    cpuDelta ⟨previous.total, previous.idling⟩ ⟨k.total, k.idling⟩ =
      .ok (k.utilization previous) := by
  by_cases h : previous.total < k.total ∧ previous.idling ≤ k.idling ∧ previous.busy ≤ k.busy
  · obtain ⟨htotal, hidle, hbusy⟩ := h
    rw [cpuDelta_of_noRollback hk, Jiffies.utilization, if_pos ⟨htotal, hidle, hbusy⟩, percent]
    · simp only [totalDelta, idleDelta, Jiffies.total]
      push_cast
      congr 3
      ring
    · simp only [totalDelta]
      omega
    · constructor
      · simp only [idleDelta]
        omega
      · simp only [idleDelta, totalDelta, Jiffies.total]
        omega
  · rw [cpuDelta_of_not, Jiffies.utilization, if_neg h]
    rintro ⟨hpos, hnonneg, hle⟩
    simp only [totalDelta, idleDelta, Jiffies.total] at hpos hnonneg hle
    refine h ⟨?_, ?_, ?_⟩
    · unfold Jiffies.total
      omega
    · omega
    · omega

/-- The rates are those of the bytes. -/
theorem diskRates_of_loads {l previous : Load} (hl : l.InRange) :
    diskRates (some (previous.uptime, previous.bytes)) l.uptime l.bytes =
      .ok ⟨ofFloat (l.throughput previous .read), ofFloat (l.throughput previous .write)⟩ := by
  have hrate (d : Direction) (helapsed : previous.uptime < l.uptime) :
      diskRate (previous.bytes d) (l.bytes d) (l.uptime - previous.uptime) =
        .ok (ofFloat (l.throughput previous d)) := by
    have hfits := hl.bytes d
    unfold diskRate Load.throughput
    by_cases hle : previous.bytes d ≤ l.bytes d
    · rw [if_neg (by omega), if_neg (by omega), if_pos ⟨helapsed, hle⟩, Nat.cast_sub hle]
      rfl
    · rw [if_pos (by omega), if_neg (fun h => hle h.2)]
      rfl
  by_cases helapsed : previous.uptime < l.uptime
  · rw [diskRates, if_neg (not_le.2 (sub_pos.2 helapsed)), hrate .read helapsed,
      hrate .write helapsed]
    rfl
  · have hnone (d : Direction) : l.throughput previous d = none := if_neg fun h => helapsed h.1
    rw [diskRates, if_pos (sub_nonpos.2 (not_lt.1 helapsed)), hnone, hnone]
    rfl

/-! ## The session -/

namespace LinuxHostReader

variable (met : HostOperation → ℕ → Machine) (devices : Option (List Text)) (loads : ℕ → Load)

/-- Each text that can be read tells the load of its moment. -/
structure Tells : Prop where
  stat : ∀ n text, (met .cpuPercent n).proc .stat = .ok text → ShowsJiffies (loads n).jiffies text
  loadavg : ∀ n text, (met .loadAverage1m n).proc .loadavg = .ok text →
    ShowsAverage (loads n).average text
  meminfo : ∀ n text, (met .memory n).proc .meminfo = .ok text →
    ShowsKib "MemTotal" (loads n).totalKib text ∧
      ShowsKib "MemAvailable" (loads n).availableKib text
  selfStatus : ∀ n text, (met .processRssBytes n).proc .selfStatus = .ok text →
    ShowsRss (loads n).rssKib text
  diskstats : ∀ n text, (met .diskThroughput n).proc .diskstats = .ok text →
    ShowsDisks devices (loads n).disks text ∧
      (met .diskThroughput n).clock = .ok (.num (.float (.finite (loads n).uptime)))
  inRange : ∀ n, (loads n).InRange

/-- The load of a moment at which the operation can read its text. -/
def told (op : HostOperation) (file : ProcFile) (n : ℕ) : Option Load :=
  ((met op n).proc file).toOption.map fun _ => loads n

/-- A rate of the load since the last moment that was told. -/
def since {T : Type} (op : HostOperation) (file : ProcFile) (rate : Load → Load → Option T)
    (n : ℕ) : Option T :=
  (told met loads op file n).bind fun l => (lastOf (told met loads op file) n).bind (rate l)

/-- The figure of a field, computed of the load. -/
def figure (n : ℕ) : HostField → Measurement Number
  | .cpuPercent =>
    ofFloat (since met loads .cpuPercent .stat (fun l p => l.jiffies.utilization p.jiffies) n)
  | .loadAverage1m =>
    ofFloat ((told met loads .loadAverage1m .loadavg n).map fun l => (l.average / 100 : ℚ))
  | .ramUsedBytes => ofInt ((told met loads .memory .meminfo n).map fun l =>
      ((l.totalKib - l.availableKib) * 1024 : ℕ))
  | .ramAvailableBytes => ofInt ((told met loads .memory .meminfo n).map fun l =>
      (l.availableKib * 1024 : ℕ))
  | .ramTotalBytes => ofInt ((told met loads .memory .meminfo n).map fun l =>
      (l.totalKib * 1024 : ℕ))
  | .cpuTemperatureC => ofFloat (temperatureAt met n)
  | .diskReadBytesPerSec =>
    ofFloat (since met loads .diskThroughput .diskstats (fun l p => l.throughput p .read) n)
  | .diskWriteBytesPerSec =>
    ofFloat (since met loads .diskThroughput .diskstats (fun l p => l.throughput p .write) n)
  | .processRssBytes => ofInt ((told met loads .processRssBytes .selfStatus n).map fun l =>
      (l.rssKib * 1024 : ℕ))

variable {met devices loads} {n : ℕ}

theorem lastOf_map {S T : Type} (f : ℕ → Option S) (g : S → T) (n : ℕ) :
    lastOf (fun i => (f i).map g) n = (lastOf f n).map g := by
  induction n with
  | zero => rfl
  | succ n ih =>
    rw [lastOf_succ, lastOf_succ, ih]
    cases f n <;> rfl

/-- What a parser makes of a text, by the load that it tells. -/
theorem parsedOr_of_told {T : Type} {op : HostOperation} {file : ProcFile} {parse : Text → T}
    {default : T} {g : Load → T}
    (h : ∀ text, (met op n).proc file = .ok text → parse text = g (loads n)) :
    parsedOr parse default ((met op n).proc file) =
      ((told met loads op file n).map g).getD default := by
  unfold told
  cases htext : (met op n).proc file with
  | error e => rfl
  | ok text => exact h text htext

theorem parsedStat_of_tells (h : Tells met devices loads) (n : ℕ) :
    parsedStat ((met .cpuPercent n).proc .stat) =
      (told met loads .cpuPercent .stat n).map fun l => ⟨l.jiffies.total, l.jiffies.idling⟩ := by
  unfold told
  cases htext : (met .cpuPercent n).proc .stat with
  | error e => rfl
  | ok text => exact parseProcStat_of_shows (h.stat n text htext) (h.inRange n).jiffies

theorem cpuAt_of_tells (h : Tells met devices loads) (n : ℕ) : cpuAt met n =
    .ok (since met loads .cpuPercent .stat (fun l p => l.jiffies.utilization p.jiffies) n) := by
  have hbaseline : cpuBaseline met n = (lastOf (told met loads .cpuPercent .stat) n).map
      fun l => ⟨l.jiffies.total, l.jiffies.idling⟩ := by
    rw [cpuBaseline, ← lastOf_map]
    exact congrArg (lastOf · n) (funext fun i => parsedStat_of_tells h i)
  have htold : ∀ l ∈ told met loads .cpuPercent .stat n, l = loads n := by
    intro l hl
    obtain ⟨_, -, rfl⟩ := Option.map_eq_some_iff.1 hl
    rfl
  rw [cpuAt, SweatMeter.cpuPercent, parsedStat_of_tells h, hbaseline, since]
  cases hl : told met loads .cpuPercent .stat n with
  | none => rfl
  | some l => cases hp : lastOf (told met loads .cpuPercent .stat) n with
    | none => rfl
    | some p =>
      refine cpuDelta_of_jiffies ?_
      rw [htold l hl]
      exact (h.inRange n).jiffies

theorem counted_of_tells (h : Tells met devices loads) (n : ℕ) :
    (met .diskThroughput n).diskCall.counted devices =
      (told met loads .diskThroughput .diskstats n).map fun l => (l.uptime, l.bytes) := by
  unfold told DiskCall.counted DiskCall.parsed Machine.diskCall
  cases htext : (met .diskThroughput n).proc .diskstats with
  | error e => rfl
  | ok text =>
    obtain ⟨hshows, hclock⟩ := h.diskstats n text htext
    rw [hclock]
    simp only [parseDiskstats_of_shows hshows (h.inRange n)]
    rfl

theorem diskAt_of_tells (h : Tells met devices loads) (n : ℕ) : diskAt met devices n = .ok
    ⟨ofFloat (since met loads .diskThroughput .diskstats (fun l p => l.throughput p .read) n),
      ofFloat (since met loads .diskThroughput .diskstats (fun l p => l.throughput p .write) n)⟩ := by
  have hbaseline : diskBaseline met devices n =
      (lastOf (told met loads .diskThroughput .diskstats) n).map fun l => (l.uptime, l.bytes) := by
    rw [diskBaseline, ← lastOf_map]
    exact congrArg (lastOf · n) (funext fun i => counted_of_tells h i)
  rw [diskAt, hbaseline, since, since, told]
  unfold LinuxHostReader.diskThroughput DiskCall.parsed Machine.diskCall
  cases htext : (met .diskThroughput n).proc .diskstats with
  | error e => rfl
  | ok text =>
    obtain ⟨hshows, hclock⟩ := h.diskstats n text htext
    rw [hclock]
    simp only [parseDiskstats_of_shows hshows (h.inRange n)]
    cases lastOf (told met loads .diskThroughput .diskstats) n with
    | none => rfl
    | some p => exact diskRates_of_loads (h.inRange n)

/-- **The reader computes the figures of the load.** -/
theorem value_of_tells (h : Tells met devices loads) (n : ℕ) (f : HostField) :
    value met devices n f = figure met loads n f := by
  have hmemory : (met .memory n).memoryFigures =
      ((told met loads .memory .meminfo n).map fun l => (⟨some (l.totalKib * 1024 : ℕ),
        some (l.availableKib * 1024 : ℕ), some ((l.totalKib - l.availableKib) * 1024 : ℕ)⟩ :
          MemoryReading (Measurement ℤ))).getD ⟨none, none, none⟩ :=
    parsedOr_of_told fun text htext =>
      parseMeminfo_of_shows (h.meminfo n text htext).1 (h.meminfo n text htext).2 (h.inRange n)
  cases f with
  | cpuPercent =>
    rw [value, cpuAt_of_tells h]
    rfl
  | loadAverage1m =>
    have haverage : (met .loadAverage1m n).loadAverage1m =
        ((told met loads .loadAverage1m .loadavg n).map fun l =>
          some (l.average / 100 : ℚ)).getD none :=
      parsedOr_of_told fun text htext =>
        parseLoadavg_of_shows (h.loadavg n text htext) (h.inRange n).average
    rw [value, haverage, figure]
    cases told met loads .loadAverage1m .loadavg n <;> rfl
  | processRssBytes =>
    have hfits := (h.inRange n).rss
    have hrss : (met .processRssBytes n).processRssBytes =
        ((told met loads .processRssBytes .selfStatus n).map fun l =>
          some ((l.rssKib * 1024 : ℕ) : ℤ)).getD none :=
      parsedOr_of_told fun text htext =>
        parseRss_of_shows (h.selfStatus n text htext) (printable_nat (by omega))
    rw [value, hrss, figure]
    cases told met loads .processRssBytes .selfStatus n <;> rfl
  | cpuTemperatureC => rfl
  | diskReadBytesPerSec =>
    rw [value, diskAt_of_tells h]
    rfl
  | diskWriteBytesPerSec =>
    rw [value, diskAt_of_tells h]
    rfl
  | ramUsedBytes =>
    rw [value, Machine.memory, hmemory, figure]
    cases told met loads .memory .meminfo n <;> rfl
  | ramAvailableBytes =>
    rw [value, Machine.memory, hmemory, figure]
    cases told met loads .memory .meminfo n <;> rfl
  | ramTotalBytes =>
    rw [value, Machine.memory, hmemory, figure]
    cases told met loads .memory .meminfo n <;> rfl

theorem raises_of_tells (h : Tells met devices loads) (n : ℕ) (f : HostField) :
    raises met devices n f = false := by
  cases f with
  | cpuPercent => rw [raises, cpuAt_of_tells h]; rfl
  | diskReadBytesPerSec => rw [raises, diskAt_of_tells h]; rfl
  | diskWriteBytesPerSec => rw [raises, diskAt_of_tells h]; rfl
  | _ => rfl

theorem fits_ofInt {x : Option Load} {g : Load → ℕ} (h : ∀ l ∈ x, g l < doubleLimit) :
    Fits (measured (ofInt (x.map fun l => (g l : ℤ)))) := by
  cases x with
  | none => trivial
  | some l => exact h l rfl

theorem representable_of_tells (h : Tells met devices loads) (n : ℕ) :
    Representable met devices n := by
  have htold {op : HostOperation} {file : ProcFile} : ∀ l ∈ told met loads op file n,
      l.InRange := by
    intro l hl
    obtain ⟨_, -, rfl⟩ := Option.map_eq_some_iff.1 hl
    exact h.inRange n
  intro f
  rw [value_of_tells h]
  cases f with
  | ramUsedBytes =>
    exact fits_ofInt (g := fun l => (l.totalKib - l.availableKib) * 1024) fun l hl =>
      lt_of_le_of_lt (by omega) (htold l hl).ram
  | ramAvailableBytes =>
    exact fits_ofInt (g := fun l => l.availableKib * 1024) fun l hl =>
      lt_of_le_of_lt (by have := l.available_le; omega) (htold l hl).ram
  | ramTotalBytes =>
    exact fits_ofInt (g := fun l => l.totalKib * 1024) fun l hl => (htold l hl).ram
  | processRssBytes =>
    exact fits_ofInt (g := fun l => l.rssKib * 1024) fun l hl => (htold l hl).rss
  | _ => exact fits_ofFloat _

variable {τ F : Type} {gpu : GpuReaderObject τ}

/-- **The snapshots show the load.**  In any session of a collector on a Linux machine whose
    texts, as far as they can be read, tell its load, the n-th snapshot shows the figures of
    the load at its moment: amounts as they are, and rates since the last moment whose text
    could be read, whatever other calls come in between.  A figure is missing exactly if the
    text cannot be read or the counters do not allow a rate, and with that reason. -/
theorem linux_load (storageDevice : StorageDevice → Except Exn Unit) (h : Tells met devices loads)
    (hgpu : gpu.Plain) (core : BaseAiCore F) (t : τ) (calls : List CollectorCall) (n : ℕ)
    (x : TelemetrySnapshot Number)
    (hx : (snapshots (Session.run (reader met storageDevice).onFst gpu.onSnd core
      { state := (fresh devices, t) } calls))[n]? = some x) (f : HostField) :
    x.host f = figure met loads n f ∧ x.unavailableReasons[f.name]? =
      if figure met loads n f = none then some "sensor_unsupported" else none := by
  have hrun := snapshots_run met devices storageDevice hgpu core calls
    (t := { state := (fresh devices, t) }) (fresh_eq met devices) n x hx
  rw [Nat.zero_add] at hrun
  obtain ⟨hvalue, hreason⟩ := hrun.shows (representable_of_tells h n)
  refine ⟨(hvalue f).trans (value_of_tells h n f), (hreason f).trans ?_⟩
  rw [reason, raises_of_tells h, value_of_tells h]
  rfl

/-! ## A busy machine -/

/-- The load at boot, and a second later. -/
def busyLoad (n : ℕ) : Load where
  jiffies := if n = 0 then ⟨100, 0, 100, 800, 0, 0, 0, 0⟩ else ⟨200, 0, 200, 850, 50, 0, 0, 0⟩
  average := 50
  totalKib := 1000
  availableKib := 400
  rssKib := 12
  disks := [⟨"sda".toList, fun _ => if n = 0 then 10 else 30⟩]
  uptime := if n = 0 then 0 else 1
  available_le := by decide
  disks_ne := List.cons_ne_nil _ _

/-- The `/proc/diskstats` of a disk with one partition. -/
def busyDisks (sectors : String) : Text :=
  ("8 0 sda 5 0 " ++ sectors ++ " 0 3 0 " ++ sectors ++ " 0 0 0 0\n" ++
    "8 1 sda1 5 0 9 0 3 0 9 0 0 0 0\n").toList

/-- A machine that tells it. -/
def busyMachine (n : ℕ) : Machine where
  proc
    | .stat => .ok (if n = 0 then "cpu  100 0 100 800 0 0 0 0 7\ncpu0 50 0 50 400\n".toList
        else "cpu  200 0 200 850 50 0 0 0\nintr 12\n".toList)
    | .loadavg => .ok "0.50 0.25 0.10 1/99 1234\n".toList
    | .meminfo =>
      .ok "MemTotal:       1000 kB\nMemFree:          10 kB\nMemAvailable:    400 kB\n".toList
    | .selfStatus => .ok "Name:\tpython\nVmRSS:\t      12 kB\n".toList
    | .diskstats => .ok (busyDisks (if n = 0 then "10" else "30"))
    | _ => .error ⟨"PermissionError"⟩
  sys := ⟨fun _ => .error ⟨"OSError"⟩, fun _ => .error ⟨"OSError"⟩⟩
  clock := .ok (.num (.float (.finite (if n = 0 then 0 else 1))))
  reports _ := .error ⟨"OSError"⟩

theorem showsDisks_busy {sectors : ℕ} (h : sectors = 10 ∨ sectors = 30) :
    ShowsDisks none [⟨"sda".toList, fun _ => sectors⟩]
      (busyDisks (String.ofList (numeral sectors))) := by
  refine ⟨?_, by rintro names ⟨⟩⟩
  have hrows : selectedRows none (busyDisks (String.ofList (numeral sectors))) =
      [split ("8 0 sda 5 0 ".toList ++ numeral sectors ++ " 0 3 0 ".toList ++ numeral sectors ++
        " 0 0 0 0".toList)] := by
    rcases h with rfl | rfl <;> decide +kernel
  rw [hrows]
  refine .cons ⟨?_, ?_, fun d => ?_⟩ .nil
  · rcases h with rfl | rfl <;> decide +kernel
  · rcases h with rfl | rfl <;> decide +kernel
  · rcases h with rfl | rfl <;> cases d <;> decide +kernel

theorem isspace_blanks (n : ℕ) : ∀ c ∈ List.replicate n ' ', isspace c = true := by
  intro c hc
  rw [List.eq_of_mem_replicate hc]
  rfl

theorem tells_busy : Tells (fun _ => busyMachine) none busyLoad where
  stat n text h := by
    cases h
    by_cases hn : n = 0
    · refine ⟨[7], by decide +kernel, ?_⟩
      simp only [if_pos hn, busyLoad]
      decide +kernel
    · refine ⟨[], by simp, ?_⟩
      simp only [if_neg hn, busyLoad]
      decide +kernel
  loadavg n text h := by
    cases h
    unfold ShowsAverage
    simp only [busyLoad]
    decide +kernel
  meminfo n text h := by
    cases h
    simp only [busyLoad]
    refine ⟨⟨[], List.replicate 7 ' ', ["MemFree:          10 kB".toList,
      "MemAvailable:    400 kB".toList], isspace_blanks 7, by decide +kernel, by decide +kernel⟩,
      ["MemTotal:       1000 kB".toList, "MemFree:          10 kB".toList],
      List.replicate 4 ' ', [], isspace_blanks 4, by decide +kernel, by simp⟩
  selfStatus n text h := by
    cases h
    simp only [busyLoad]
    exact ⟨["Name:\tpython".toList], '\t' :: List.replicate 6 ' ', [],
      List.forall_mem_cons.2 ⟨rfl, isspace_blanks 6⟩, by decide +kernel, by decide +kernel⟩
  diskstats n text h := by
    cases h
    by_cases hn : n = 0
    · simp only [busyMachine, busyLoad, if_pos hn]
      exact ⟨showsDisks_busy (.inl rfl), trivial⟩
    · simp only [busyMachine, busyLoad, if_neg hn]
      exact ⟨showsDisks_busy (.inr rfl), trivial⟩
  inRange n := by
    have hlimit : 2000000 < doubleLimit := by decide +kernel
    refine ⟨?_, by simp only [busyLoad]; omega, by simp only [busyLoad]; omega,
      by simp only [busyLoad]; omega, ?_⟩
    · simp only [busyLoad, Jiffies.total, Jiffies.busy, Jiffies.idling]
      split_ifs <;> (simp only; omega)
    · intro d
      simp only [Load.bytes, busyLoad, totalSectors, List.map_cons, List.map_nil, List.sum_cons,
        List.sum_nil]
      split_ifs <;> omega

/-- Two thirds of the jiffies between two snapshots were busy, and 20 sectors went each way. -/
theorem linux_load_busy :
    ∃ x, (snapshots (Session.run (reader (fun _ => busyMachine) fun _ => .ok ()).onFst
        (NullGpuReader.reader ⟨"none", by decide⟩).onSnd accepting { state := (fresh none, ()) }
        [.snapshot silentHost.clocks, .machineProfile silentHost.clocks,
          .snapshot silentHost.clocks]))[1]? = some x ∧
      x.host .cpuPercent = some (.float (.finite (200 / 3))) ∧
      x.host .loadAverage1m = some (.float (.finite (1 / 2))) ∧
      x.host .ramUsedBytes = some (.int 614400) ∧
      x.host .processRssBytes = some (.int 12288) ∧
      x.host .diskReadBytesPerSec = some (.float (.finite 10240)) ∧
      x.host .diskWriteBytesPerSec = some (.float (.finite 10240)) ∧
      x.host .cpuTemperatureC = none := by
  obtain ⟨x, hx⟩ : ∃ x, (snapshots (Session.run
      (reader (fun _ => busyMachine) fun _ => .ok ()).onFst
      (NullGpuReader.reader ⟨"none", by decide⟩).onSnd accepting { state := (fresh none, ()) }
      [.snapshot silentHost.clocks, .machineProfile silentHost.clocks,
        .snapshot silentHost.clocks]))[1]? = some x := by
    refine ⟨_, List.getElem?_eq_getElem ?_⟩
    rw [length_snapshots]
    decide
  have hvalue (f : HostField) : x.host f = figure (fun _ => busyMachine) busyLoad 1 f :=
    (linux_load (fun _ => .ok ()) tells_busy (NullGpuReader.plain ⟨"none", by decide⟩) accepting ()
      _ 1 x hx f).1
  refine ⟨x, hx, ?_⟩
  simp only [hvalue]
  decide +kernel

end LinuxHostReader

end SweatMeter
