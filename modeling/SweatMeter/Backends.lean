/-
  The two NVIDIA backends on the same devices.

  Both keep a reading as it is where it is within their bounds, and the bounds
  differ for the temperature only: `NvidiaSmiReader` takes no negative number,
  `NvmlGpuReader` anything above absolute zero.  Besides, either backend loses all
  devices at once where it cannot read them: the command's output must be within
  its limit, and a number that NVML reports must fit a double.
-/
import SweatMeter.DeviceTables

namespace SweatMeter

open Py

/-! ## What NVML reports, read -/

/-- The value read for a number, or for none. -/
def readingObj : Option ℤ → Obj
  | none => .none
  | some n => .num (.int n)

theorem Answers.imp {T : Type} {call : Except Exn NvmlObject} {reading : Option T}
    {P Q : T → NvmlObject → Prop} (h : Answers call reading P) (hPQ : ∀ x o, P x o → Q x o) :
    Answers call reading Q := by
  cases reading with
  | none => exact h
  | some x =>
    obtain ⟨o, hcall, ho⟩ := h
    exact ⟨o, hcall, hPQ x o ho⟩

theorem Answers.obj {T : Type} {call : Except Exn NvmlObject} {reading : Option T} {g : T → ℤ}
    (h : Answers call reading fun x => IsNumber (g x)) :
    (guarded (some call)).obj = readingObj (reading.map g) := by
  cases reading with
  | none => cases h; rfl
  | some x =>
    obtain ⟨o, rfl, ho⟩ := h
    exact ho

theorem Answers.attr {T : Type} {call : Except Exn NvmlObject} {reading : Option T} {g : T → ℤ}
    {name : String} (h : Answers call reading fun x => HasNumber name (g x)) :
    ((guarded (some call)).attr name).get = .ok (readingObj (reading.map g)) := by
  cases reading with
  | none => cases h; rfl
  | some x =>
    obtain ⟨o, rfl, ho⟩ := h
    rw [guarded, ho]; rfl

/-- A text is read without the blanks around it. -/
theorem nvmlText_of_isText {t : Text} {o : Obj}
    (h : o = .str (String.ofList t) ∨ o = .bytes (String.ofList t)) (hne : strip t ≠ []) :
    nvmlText o = some (String.ofList (strip t)) := by
  have hstrip : strip (String.ofList t).toList ≠ [] := by rwa [String.toList_ofList]
  rcases h with rfl | rfl <;>
  · rw [nvmlText, if_neg hstrip, String.toList_ofList]

theorem range_eq_positions {T : Type} (xs : List T) :
    List.range xs.length = xs.zipIdx.map Prod.snd := by
  rw [List.zipIdx_map_snd, List.range_eq_range']

namespace NvmlBinding

variable {B : NvmlBinding} {i : ℕ} {d : GpuDevice}

theorem ReportsDevice.fieldValue (h : B.ReportsDevice i d) (f : GpuField) :
    B.fieldValue i f = .ok (readingObj (d.reported f)) := by
  cases f with
  | utilizationPercent =>
    rw [GpuDevice.reported, Option.map_map]
    exact (h.utilization.imp fun _ _ ho => ho.1).attr
  | memoryUtilizationPercent =>
    rw [GpuDevice.reported, Option.map_map]
    exact (h.utilization.imp fun _ _ ho => ho.2).attr
  | vramUsedBytes =>
    rw [GpuDevice.reported, Option.map_map]
    exact (h.memory.imp fun _ _ ho => ho.1).attr
  | vramTotalBytes =>
    rw [GpuDevice.reported, Option.map_map]
    exact (h.memory.imp fun _ _ ho => ho.2).attr
  | temperatureC =>
    have := h.temperature.obj
    rw [Option.map_id'] at this
    exact congrArg Except.ok this
  | memoryTemperatureC => rfl
  | powerWatts => exact congrArg Except.ok h.power.obj
  | powerLimitWatts => exact congrArg Except.ok h.powerLimit.obj
  | fanPercent => exact congrArg Except.ok h.fan.obj
  | coreClockMhz => exact congrArg Except.ok h.smClock.obj
  | memoryClockMhz => exact congrArg Except.ok h.memoryClock.obj

theorem keeps_nvmlNumber {reading : Option ℤ} (h : ∀ n ∈ reading, n.natAbs < doubleLimit)
    (scale lo : ℚ) (hi : Option ℚ) {m : Measurement Number}
    (hm : nvmlNumber (readingObj reading) scale lo hi = .ok m) :
    Keeps m (reading.map fun n : ℤ => n / scale) lo hi := by
  cases reading with
  | none => cases hm; exact keeps_none lo hi
  | some n =>
    have hn : (Number.int n).isfinite = .ok true := if_neg (not_le.2 (h n rfl))
    rw [readingObj, nvmlNumber_eq hn] at hm
    cases hm
    have hx : (if scale = 1 then Number.int n else (Number.int n).div scale).toRat =
        some (n / scale) := by
      split
      · rename_i hscale; rw [hscale, div_one]; rfl
      · rfl
    have hgt := funext (Number.gtRat_eq hx)
    simp only [Number.ltRat_eq hx, hgt, decide_eq_true_eq]
    exact keeps_ite hx

/-- **What NVML reports of a device is read.** -/
theorem ReportsDevice.keeps (h : B.ReportsDevice i d) (hd : d.InRange) {f : GpuField}
    {m : Measurement Number} (hm : B.measurement i f = .ok m) :
    Keeps m (d.value f) f.nvmlMinimum f.nvmlMaximum := by
  rw [measurement, h.fieldValue] at hm
  exact keeps_nvmlNumber (hd f) _ _ _ hm

theorem ReportsDevice.uuid_eq (h : B.ReportsDevice i d) :
    nvmlText (B.answer .uuid i).obj = some (String.ofList d.uuid.text) := by
  have hne : strip d.uuid.text ≠ [] := by
    rw [d.uuid.trimmed]
    exact d.uuid.printed.ne_nil
  obtain ⟨o, hcall, ho⟩ := h.uuid
  rw [answer, hcall, guarded, nvmlText_of_isText ho hne, d.uuid.trimmed]

theorem ReportsDevice.throttle_eq (h : B.ReportsDevice i d) :
    B.throttle i = if d.supported = 0 then ([], false)
      else (activeBits d.supported d.current, true) := by
  obtain ⟨o, hcall, ho⟩ := h.supported
  obtain ⟨o', hcall', ho'⟩ := h.current
  have hmasks : throttleMasks (B.answer .supportedThrottleReasons i).obj
      (B.answer .currentThrottleReasons i).obj =
        if d.supported = 0 then none else some (d.supported, d.current) := by
    rw [answer, answer, hcall, hcall', guarded, guarded, ho, ho']
    simp only [throttleMasks]
    split_ifs with h1 h2 h2 <;> first | rfl | omega
  by_cases hs : d.supported = 0
  · rw [throttle, hmasks, if_pos hs, if_pos hs]
  · rw [throttle, hmasks, if_neg hs, if_neg hs]

/-! ## What NVML lists -/

variable {ds : List GpuDevice}

theorem count_of_answers {n : ℕ} (h : B.AnswersWith .nvmlDeviceGetCount (IsNumber n)) :
    B.count = n := by
  obtain ⟨o, ho, hn⟩ := h.lookup
  rw [NvmlBinding.count, NvmlBinding.system, ho]
  simp only [guarded]
  rw [hn, validCount, if_neg (by omega)]
  rfl

theorem Reports.count_eq (h : B.Reports ds) : B.count = ds.length := count_of_answers h.count

theorem Reports.count_present (h : B.Reports ds) : B.function .nvmlDeviceGetCount ≠ .absent :=
  AnswersWith.present h.count

/-- The devices that `sample` takes are all there, in order. -/
theorem over_iff {T : Type} {P : ℕ → T → Prop} {is : List ℕ} {xs : List T}
    (h : ∀ i ∈ is, B.Addressable i) :
    B.Over P is xs ↔ (∀ i ∈ is, Printable i) ∧ List.Forall₂ P is xs := by
  induction is generalizing xs with
  | nil =>
    constructor
    · intro ho; cases ho; exact ⟨by simp, .nil⟩
    · rintro ⟨-, hf⟩; cases hf; exact .nil
  | cons i is ih =>
    have hi := h i List.mem_cons_self
    have his {ys : List T} := @ih ys fun j hj => h j (.tail _ hj)
    rw [List.forall_mem_cons]
    constructor
    · intro ho
      cases ho with
      | skip _ hno _ => exact absurd hi hno
      | take hp _ hx hrest =>
        obtain ⟨hps, hxs⟩ := his.1 hrest
        exact ⟨⟨hp, hps⟩, .cons hx hxs⟩
    · rintro ⟨⟨hp, hps⟩, hf⟩
      cases hf with
      | cons hx hxs => exact .take hp hi hx (his.2 ⟨hps, hxs⟩)

theorem Reports.addressable (h : B.Reports ds) :
    ∀ i ∈ List.range ds.length, B.Addressable i := by
  intro i hi
  rw [List.mem_range] at hi
  exact (h.devices i ds[i] (List.getElem?_eq_getElem hi)).handle

/-- `sample` takes a sample of each device. -/
theorem Reports.sampleAll_ok (h : B.Reports ds) {ys : List (GpuSample Number)} :
    (sampleAll B).outcome = .ok ys ↔
      (∀ i ∈ List.range ds.length, Printable i) ∧
        List.Forall₂ (fun p s => B.SampleOf p.2 s) ds.zipIdx ys := by
  have hrange := range_eq_positions ds
  rw [SweatMeter.sampleAll_ok, h.count_eq, over_iff h.addressable, and_iff_right h.count_present]
  refine and_congr_right ?_
  intro _
  rw [hrange, List.forall₂_map_left_iff]

/-- `sample` returns if every number fits a double. -/
theorem Reports.returns_sampleAll (h : B.Reports ds) :
    Returns (sampleAll B).outcome ↔
      (∀ i ∈ List.range ds.length, Printable i) ∧ ∀ d ∈ ds, d.InRange := by
  have hfits : ∀ {r : Option ℤ}, Fits (readingObj r) ↔ ∀ n ∈ r, n.natAbs < doubleLimit := by
    intro r
    cases r with
    | none => simp [readingObj, Fits]
    | some n => simp [readingObj, Fits]
  have hdevice : ∀ i d, ds[i]? = some d →
      ((∀ f, ∃ v, B.fieldValue i f = .ok v ∧ Fits v) ↔ d.InRange) := by
    intro i d hd
    refine forall_congr' ?_
    intro f
    rw [(h.devices i d hd).fieldValue, ← hfits]
    constructor
    · rintro ⟨v, hv, hfit⟩; cases hv; exact hfit
    · exact fun hfit => ⟨_, rfl, hfit⟩
  rw [SweatMeter.returns_sampleAll]
  constructor
  · intro hr
    refine ⟨fun i hi => (hr.devices i (h.count_eq ▸ List.mem_range.1 hi)).1, ?_⟩
    intro d hd
    obtain ⟨i, hi, hget⟩ := List.getElem_of_mem hd
    have hget' : ds[i]? = some d := by rw [List.getElem?_eq_getElem hi, hget]
    refine (hdevice i d hget').1 ((hr.devices i (h.count_eq ▸ hi)).2 ?_)
    exact (h.devices i d hget').handle
  · rintro ⟨hp, hin⟩
    refine ⟨h.count_present, ?_⟩
    intro i hi
    rw [h.count_eq] at hi
    refine ⟨hp i (List.mem_range.2 hi), ?_⟩
    intro _
    exact (hdevice i _ (List.getElem?_eq_getElem hi)).2 (hin _ (List.getElem_mem hi))

end NvmlBinding

/-! ## Agreement -/

/-- Both backends return samples, and these correspond one by one. -/
def Agree (R : GpuSample Number → GpuSample Number → Prop)
    (x y : Except Exn (List (GpuSample Number))) : Prop :=
  ∃ xs ys, x = .ok xs ∧ y = .ok ys ∧ List.Forall₂ R xs ys

/-- Both backends can read these devices. -/
structure Readable (c : SmiCall) (ds : List GpuDevice) : Prop where
  length : ds.length ≤ 10 ^ maxStrDigits
  inRange : ∀ d ∈ ds, d.InRange
  bytes : sampleTableBytes ds ≤ c.maxOutputBytes

/-- The sample `NvidiaSmiReader` takes of a device. -/
def smiSample (c : SmiCall) (ds : List GpuDevice) (p : GpuDevice × ℕ) : GpuSample Number :=
  rowSample (toRow sampleFields (p.1.sampleCells p.2)) p.2
    (if c.maxOutputBytes < throttleTableBytes ds then ([], false)
      else rowThrottle (toRow throttleColumns (p.1.throttleCells p.2)))

section

variable {c : SmiCall} {ds : List GpuDevice}

/-- `NvidiaSmiReader` takes a sample of each device, if the output is within its limit. -/
theorem sample_prints (h : c.Prints ds) (hlen : ds.length ≤ 10 ^ maxStrDigits)
    (hin : ∀ d ∈ ds, d.InRange) :
    c.sample.outcome = .ok (if c.maxOutputBytes < sampleTableBytes ds then []
      else ds.zipIdx.map (smiSample c ds)) := by
  obtain ⟨rows, hperm, hrun⟩ := h.sample
  obtain ⟨rows', hperm', hrun'⟩ := h.throttle
  have hlist : Lists sampleFields (entries GpuDevice.sampleCells ds) rows :=
    lists_entries (fun _ _ => ⟨_, rfl⟩) hlen
      (fun d hd i hi => GpuDevice.printedRow_sampleCells (hin d hd) hi) hperm
  have hlist' : Lists throttleColumns (entries GpuDevice.throttleCells ds) rows' :=
    lists_entries (fun _ _ => ⟨_, rfl⟩) hlen
      (fun d hd i hi => GpuDevice.printedRow_throttleCells hi) hperm'
  have hreasons : ∀ p ∈ ds.zipIdx, rowReasons
      (((c.kept rows' (entries GpuDevice.throttleCells ds)).map (readEntry throttleColumns)).lookup
        (p.2 : ℤ)) = if c.maxOutputBytes < throttleTableBytes ds then ([], false)
          else rowThrottle (toRow throttleColumns (p.1.throttleCells p.2)) := by
    intro p hp
    rw [SmiCall.kept, utf8Length_table_perm hperm']
    unfold throttleTableBytes
    split
    · rfl
    · have hmem : ((p.2 : ℤ), toRow throttleColumns (p.1.throttleCells p.2)) ∈
          (entries GpuDevice.throttleCells ds).map (readEntry throttleColumns) :=
        List.mem_map.2 ⟨_, List.mem_map.2 ⟨p, hp, rfl⟩, rfl⟩
      rw [lookup_of_mem (nodup_keys hlist'.indexed.sorted) hmem]
      rfl
  rw [sample_outcome hrun hrun' hlist hlist']
  have hkept : c.kept rows (entries GpuDevice.sampleCells ds) =
      if c.maxOutputBytes < sampleTableBytes ds then [] else entries GpuDevice.sampleCells ds := by
    rw [SmiCall.kept, utf8Length_table_perm hperm]; rfl
  refine congrArg Except.ok ?_
  rw [hkept]
  split
  · rfl
  · rw [List.map_map, entries.eq_def GpuDevice.sampleCells, List.map_map]
    refine List.map_congr_left ?_
    intro p hp
    exact congrArg (rowSample _ _) (hreasons p hp)

theorem printable_range {n : ℕ} :
    (∀ i ∈ List.range n, Printable i) ↔ n ≤ 10 ^ maxStrDigits := by
  simp only [List.mem_range, Printable, Int.natAbs_natCast]
  constructor
  · intro h
    by_contra hn
    exact lt_irrefl _ (h _ (not_le.1 hn))
  · intro h i hi
    exact hi.trans_le h

theorem forall₂_iff_of_forall₂ {α β : Type} {A R : α → β → Prop} {P : α → Prop} {xs : List α}
    {ys : List β} (hA : List.Forall₂ A xs ys) (h : ∀ x ∈ xs, ∀ y, A x y → (R x y ↔ P x)) :
    List.Forall₂ R xs ys ↔ ∀ x ∈ xs, P x := by
  induction hA with
  | nil => exact iff_of_true .nil (by simp)
  | cons hxy _ ih =>
    rw [List.forall₂_cons, List.forall_mem_cons, h _ List.mem_cons_self _ hxy,
      ih fun x hx => h x (.tail _ hx)]

/-- **The backends agree where both can read the devices, and agree on each.** -/
theorem agree_iff {R : GpuSample Number → GpuSample Number → Prop} {P : GpuDevice → Prop}
    {B : NvmlBinding} (hc : c.Prints ds) (hB : B.Reports ds) (r : NvmlGpuReader)
    (hR : ∀ i d s, ds[i]? = some d → d.InRange → B.SampleOf i s →
      (R (smiSample c ds (d, i)) s ↔ P d)) :
    Agree R c.sample.outcome (r.sample ⟨.ok (), B⟩).1 ↔ Readable c ds ∧ ∀ d ∈ ds, P d := by
  have hdevices : (∀ p ∈ ds.zipIdx, P p.1) ↔ ∀ d ∈ ds, P d := by
    have := List.forall_mem_map (f := Prod.fst) (l := ds.zipIdx) (P := P)
    rw [← this, List.zipIdx_map_fst]
  have hrelated (hin : ∀ d ∈ ds, d.InRange) : ∀ p ∈ ds.zipIdx, ∀ s, B.SampleOf p.2 s →
      (R (smiSample c ds p) s ↔ P p.1) := by
    rintro ⟨d, i⟩ hp s hs
    have hget := List.mem_zipIdx_iff_getElem?.1 hp
    exact hR i d s hget (hin d (List.mem_of_getElem? hget)) hs
  have hreturns := hB.returns_sampleAll
  rw [printable_range] at hreturns
  rw [NvmlGpuReader.sample, operate_eq hB.init]
  constructor
  · rintro ⟨xs, ys, hx, hy, hxy⟩
    obtain ⟨hlen, hin⟩ := hreturns.1 ⟨ys, hy⟩
    obtain ⟨-, hsamples⟩ := hB.sampleAll_ok.1 hy
    rw [sample_prints hc hlen hin] at hx
    cases hx
    split_ifs at hxy with hbytes
    · cases hxy
      cases List.zipIdx_eq_nil_iff.1 (List.forall₂_nil_right_iff.1 hsamples)
      exact absurd hbytes (Nat.not_lt_zero _)
    · rw [List.forall₂_map_left_iff, forall₂_iff_of_forall₂ hsamples (hrelated hin), hdevices] at hxy
      exact ⟨⟨hlen, hin, not_lt.1 hbytes⟩, hxy⟩
  · rintro ⟨⟨hlen, hin, hbytes⟩, hP⟩
    obtain ⟨ys, hy⟩ := hreturns.2 ⟨hlen, hin⟩
    obtain ⟨-, hsamples⟩ := hB.sampleAll_ok.1 hy
    refine ⟨_, ys, sample_prints hc hlen hin, hy, ?_⟩
    rw [if_neg (not_lt.2 hbytes), List.forall₂_map_left_iff,
      forall₂_iff_of_forall₂ hsamples (hrelated hin), hdevices]
    exact hP

end

/-! ## The same readings -/

/-- The same device with the same values, where both backends take them. -/
structure SameReadings (s t : GpuSample Number) : Prop where
  index : s.index = t.index
  uuid : s.uuid = t.uuid
  measurement : ∀ f, f ≠ .memoryTemperatureC →
    exactValue (s.measurement f) = exactValue (t.measurement f)

/-- The temperature, if supported, is not negative. -/
def GpuDevice.Warm (d : GpuDevice) : Prop := ∀ t ∈ d.temperature, 0 ≤ t

theorem sameValue_iff {d : GpuDevice} {f : GpuField} (hf : f ≠ .memoryTemperatureC)
    {m m' : Measurement Number} (hm : Keeps m (d.value f) 0 f.smiMaximum)
    (hm' : Keeps m' (d.value f) f.nvmlMinimum f.nvmlMaximum) :
    exactValue m = exactValue m' ↔ (f = .temperatureC → d.Warm) := by
  rw [hm, hm', Option.map_inj_right fun _ _ h => Option.some.inj h]
  cases f with
  | memoryTemperatureC => exact absurd rfl hf
  | temperatureC =>
    have hge := d.temperature_ge
    simp only [GpuDevice.value, GpuDevice.reported, GpuDevice.Warm, GpuField.smiMaximum,
      GpuField.nvmlMinimum, GpuField.nvmlMaximum, GpuField.nvmlScale, div_one, true_implies]
    cases ht : d.temperature with
    | none => simp
    | some t =>
      have ht' : (-273 : ℚ) ≤ t := by exact_mod_cast hge t ht
      have hlo : within (-27315 / 100) none (t : ℚ) = true := by
        rw [within_eq, not_or]
        exact ⟨not_lt.2 (le_trans (by norm_num) ht'), by simp⟩
      rw [Option.map_some, Option.filter_some, Option.filter_some, hlo]
      by_cases hpos : 0 ≤ t
      · have h0 : within 0 none (t : ℚ) = true := by
          rw [within_eq, not_or]
          exact ⟨not_lt.2 (by exact_mod_cast hpos), by simp⟩
        rw [h0]
        exact iff_of_true rfl fun t' ht' => by cases ht'; exact hpos
      · have h0 : within 0 none (t : ℚ) = false := by
          rw [Bool.eq_false_iff, Ne, within_eq, not_not]
          exact .inl (by exact_mod_cast not_le.1 hpos)
        rw [h0]
        refine iff_of_false ?_ fun h => hpos (h t rfl)
        rintro ⟨⟩
  | _ =>
    refine iff_of_true rfl ?_
    rintro ⟨⟩

theorem sameReadings_iff {c : SmiCall} {ds : List GpuDevice} {B : NvmlBinding} {i : ℕ}
    {d : GpuDevice} {s : GpuSample Number} (hd : B.ReportsDevice i d) (hin : d.InRange)
    (hs : B.SampleOf i s) : SameReadings (smiSample c ds (d, i)) s ↔ d.Warm := by
  have hsmi (f : GpuField) : (smiSample c ds (d, i)).measurement f =
      cellValue f (some (parseCell (d.cell f))) :=
    congrArg (cellValue f) (lookup_column d i f)
  have huuid : (smiSample c ds (d, i)).uuid = some (String.ofList d.uuid.text) := by
    change Option.map _ (Option.join _) = _
    rw [lookup_uuid]; rfl
  have hvalue (f : GpuField) (hf : f ≠ .memoryTemperatureC) :
      exactValue ((smiSample c ds (d, i)).measurement f) = exactValue (s.measurement f) ↔
        (f = .temperatureC → d.Warm) := by
    rw [hsmi]
    exact sameValue_iff hf (GpuDevice.keeps_cell hin hf) (hd.keeps hin (hs.measurement f))
  constructor
  · intro h
    exact (hvalue .temperatureC (by simp)).1 (h.measurement _ (by simp)) rfl
  · intro h
    exact ⟨hs.index.symm, huuid.trans (hd.uuid_eq ▸ hs.uuid.symm),
      fun f hf => (hvalue f hf).2 fun _ => h⟩

/-- **The backends agree on the sensors** of devices that both can read, exactly
    if no core temperature is negative. -/
theorem backends_agree_on_readings_iff {c : SmiCall} {ds : List GpuDevice} {B : NvmlBinding}
    (hc : c.Prints ds) (hB : B.Reports ds) (r : NvmlGpuReader) :
    Agree SameReadings c.sample.outcome (r.sample ⟨.ok (), B⟩).1 ↔
      Readable c ds ∧ ∀ d ∈ ds, d.Warm :=
  agree_iff hc hB r fun i d _ hget hin hs => sameReadings_iff (hB.devices i d hget) hin hs

/-! ## A device in the cold -/

/-- A device with a core temperature only. -/
def thermometer (temperature : ℤ) (h : -273 ≤ temperature) : GpuDevice :=
  { bareDevice with
    temperature := some temperature
    temperature_ge := by rintro t ⟨⟩; exact h }

theorem readable_thermometer : Readable (printing [thermometer 41 (by decide)])
    [thermometer 41 (by decide)] where
  length := Nat.one_le_pow _ _ (by simp)
  inRange := by
    intro d hd f n hn
    cases List.mem_singleton.1 hd
    cases f <;> cases hn
    decide +kernel
  bytes := by decide +kernel

/-- The backends agree on a device at 41 degrees. -/
theorem backends_agree_at_41 : Agree SameReadings
    (printing [thermometer 41 (by decide)]).sample.outcome
    ((NvmlGpuReader.mk true false ∅).sample ⟨.ok (), reporting [thermometer 41 (by decide)]⟩).1 := by
  refine (backends_agree_on_readings_iff (prints_printing _) (reports_reporting _) _).2
    ⟨readable_thermometer, ?_⟩
  intro d hd t ht
  cases List.mem_singleton.1 hd
  cases ht
  decide

/-- At five degrees below zero, one backend has no temperature. -/
theorem backends_disagree_below_zero : ¬ ∀ (c : SmiCall) (ds : List GpuDevice) (B : NvmlBinding),
    c.Prints ds → B.Reports ds → ∀ r : NvmlGpuReader,
      Agree SameReadings c.sample.outcome (r.sample ⟨.ok (), B⟩).1 := by
  intro h
  have hds := h _ [thermometer (-5) (by decide)] _ (prints_printing _) (reports_reporting _) {}
  rw [agree_iff (prints_printing _) (reports_reporting _) _ fun i d _ hget hin hs =>
    sameReadings_iff ((reports_reporting _).devices i d hget) hin hs] at hds
  exact absurd (hds.2 _ List.mem_cons_self (-5) rfl) (by simp)

end SweatMeter
