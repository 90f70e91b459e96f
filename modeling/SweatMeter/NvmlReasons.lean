/-
  What the diagnostics of an NVML sample say about its causes.

  Every sensor call notes the class of its failure under one key.  Memory info
  and utilization rates feed two fields each but note their first one only; the
  second gets the default reason, whatever the failure was.  And a device whose
  handle is `None` is skipped without a word.  The diagnostics name the causes
  exactly if neither happens (`nvml_causes_iff`).
-/
import SweatMeter.Diagnostics
import SweatMeter.NvmlFaults
import SweatMeter.StaticIdentity

namespace SweatMeter

open Py

/-! ## Keys of a device -/

/-- The key of the device itself. -/
def deviceKey (d : ℕ) : String := "gpu." ++ toString (d : ℤ)

/-- The keys of its fields. -/
def FieldKey (name k : String) : Prop := ∃ field, k = name ++ "." ++ field

def DeviceKey (d : ℕ) (k : String) : Prop := k = deviceKey d ∨ FieldKey (deviceKey d) k

variable {d d' : ℕ} {k : String}

theorem deviceName_eq {name : String} (h : (deviceName d).outcome = .ok name) :
    name = deviceKey d := by
  rcases map_eq_ok.1 h with ⟨text, htext, rfl⟩
  rw [intText_ok htext, deviceKey]

/-- A key of a device, behind `gpu.`: its index up to a dot or the end. -/
theorem DeviceKey.toList (h : DeviceKey d k) : ∃ rest : Text, rest.head?.all (! ·.isDigit) = true ∧
    k.toList = "gpu.".toList ++ (numeral d ++ rest) := by
  have hindex : (deviceKey d).toList = "gpu.".toList ++ numeral d := by
    rw [deviceKey, toString_eq_intNumeral, String.toList_append]
    exact congrArg ("gpu.".toList ++ ·) String.toList_ofList
  rcases h with rfl | ⟨field, rfl⟩
  · exact ⟨[], rfl, by rw [hindex, List.append_nil]⟩
  · refine ⟨'.' :: field.toList, rfl, ?_⟩
    rw [String.toList_append, String.toList_append, hindex]
    simp

/-- Different devices have different keys. -/
theorem DeviceKey.unique (h : DeviceKey d k) (h' : DeviceKey d' k) : d = d' := by
  rcases h.toList with ⟨rest, hrest, hk⟩
  rcases h'.toList with ⟨rest', hrest', hk'⟩
  exact numeral_append_cancel hrest hrest' (List.append_cancel_left (hk.symm.trans hk'))

theorem not_deviceKey_gpu : ¬ DeviceKey d "gpu" := by
  intro h
  rcases h.toList with ⟨rest, -, hk⟩
  have hlength := congrArg List.length hk
  simp at hlength

theorem fieldKey_ne (name : String) {k : String} (h : FieldKey name k) : name ≠ k := by
  rintro rfl
  rcases h with ⟨field, hname⟩
  have hlength := congrArg String.length hname
  simp only [String.length_append] at hlength
  have hdot : ".".length = 1 := rfl
  omega

/-! ## What one device notes -/

/-- What a guarded call notes. -/
def callNote (call : Except Exn NvmlObject) (key : String) (r : Dict String) : Dict String :=
  match call with
  | .error e => r.set key (errorReason e)
  | .ok _ => r

theorem attempt_log (call : Except Exn NvmlObject) (key : String) :
    (attempt call key).log = callNote call key := by
  cases call <;> rfl

section
variable {P : String → Prop} {name : String}

theorem notesOnly_attempt (operation : Option (Except Exn NvmlObject)) {key : String} (h : P key) :
    NotesOnly P (attempt operation key) := by
  match operation with
  | none => exact .bind (.setReason _ h) fun _ _ => .pure _
  | some (.error e) => exact .bind (.setReason _ h) fun _ _ => .pure _
  | some (.ok v) => exact .pure _

theorem notesOnly_sense (call : Except Exn NvmlObject) {key : String} (scale lo : ℚ) (hi : Option ℚ)
    (h : P key) : NotesOnly P (sense call key scale lo hi) :=
  .bind (notesOnly_attempt _ h) fun _ _ => .lift _

theorem fieldKey_append (name field key : String) (h : "." ++ field = key) :
    FieldKey name (name ++ key) := ⟨field, by rw [String.append_assoc, h]⟩

theorem notesOnly_memory (B : NvmlBinding) (d : ℕ) (hused : P (name ++ ".vram_used_bytes"))
    (htotal : P (name ++ ".vram_total_bytes")) : NotesOnly P (memory B d name) := by
  unfold memory
  refine .bind (notesOnly_attempt _ hused) fun _ _ => .bind (.lift _) fun _ _ => ?_
  refine .bind (.lift _) fun _ _ => .bind (.setDefaultReasonIf _ _ hused) fun _ _ => ?_
  exact .bind (.setDefaultReasonIf _ _ htotal) fun _ _ => .pure _

theorem notesOnly_throttleReasons (B : NvmlBinding) (d : ℕ)
    (hkey : P (name ++ ".throttle_reasons")) : NotesOnly P (throttleReasons B d name) := by
  unfold throttleReasons
  refine .bind (notesOnly_attempt _ hkey) fun _ _ => .bind (notesOnly_attempt _ hkey) fun _ _ => ?_
  split
  · exact .bind (.setDefaultReasonIf _ _ hkey) fun _ _ => .pure _
  · exact .pure _

/-- The notes of `_sample_device` at its end. -/
theorem notesOnly_complete (name : String) (m : GpuField → Measurement Number) :
    NotesOnly (FieldKey name) (.note fun r => notedFields.foldl (fun r f =>
      if (m f).isNone then r.setdefault s!"{name}.{f.name}" "sensor_unsupported" else r) r) := by
  intro k hk r
  change (notedFields.foldl _ r)[k]? = r[k]?
  generalize notedFields = fields
  induction fields generalizing r with
  | nil => rfl
  | cons f fields ih =>
    rw [List.foldl_cons, ih]
    split
    · refine Dict.getElem?_setdefault_of_ne r _ ?_
      rintro rfl
      exact hk ⟨f.name, rfl⟩
    · rfl

theorem notesOnly_sampleDevice (B : NvmlBinding) (d : ℕ) (name : String) :
    NotesOnly (FieldKey name) (sampleDevice B d name) := by
  unfold sampleDevice
  refine .bind (notesOnly_memory B d (fieldKey_append name "vram_used_bytes" _ rfl)
    (fieldKey_append name "vram_total_bytes" _ rfl)) fun _ _ => ?_
  refine .bind (notesOnly_attempt _ (fieldKey_append name "utilization_percent" _ rfl))
    fun _ _ => ?_
  refine .bind (notesOnly_throttleReasons B d (fieldKey_append name "throttle_reasons" _ rfl))
    fun _ _ => ?_
  refine .bind (notesOnly_attempt _ (fieldKey_append name "uuid" _ rfl)) fun _ _ => ?_
  refine .bind (.lift _) fun _ _ => .bind (.lift _) fun _ _ => ?_
  refine .bind (notesOnly_sense _ _ _ _ (fieldKey_append name "temperature_c" _ rfl)) fun _ _ => ?_
  refine .bind (notesOnly_sense _ _ _ _ (fieldKey_append name "power_watts" _ rfl)) fun _ _ => ?_
  refine .bind (notesOnly_sense _ _ _ _ (fieldKey_append name "power_limit_watts" _ rfl))
    fun _ _ => ?_
  refine .bind (notesOnly_sense _ _ _ _ (fieldKey_append name "fan_percent" _ rfl)) fun _ _ => ?_
  refine .bind (notesOnly_sense _ _ _ _ (fieldKey_append name "core_clock_mhz" _ rfl)) fun _ _ => ?_
  refine .bind (notesOnly_sense _ _ _ _ (fieldKey_append name "memory_clock_mhz" _ rfl))
    fun _ _ => ?_
  refine .bind (.setDefaultReasonIf _ _ (fieldKey_append name "memory_temperature_c" _ rfl))
    fun _ _ => ?_
  exact .bind (notesOnly_complete name _) fun _ _ => .pure _

end

/-! ## The reason of a failed call -/

theorem GpuField.name_inj {f g : GpuField} : f.name = g.name ↔ f = g := by
  constructor
  · intro h
    cases f <;> cases g <;> first | rfl | exact absurd h (by decide)
  · rintro rfl
    rfl

/-- The notes of `_sample_device` at its end, for one field. -/
theorem getElem?_complete (name : String) (m : GpuField → Measurement Number) (f : GpuField)
    (fields : List GpuField) (r : Dict String) :
    (fields.foldl (fun r f =>
      if (m f).isNone then r.setdefault (name ++ "." ++ f.name) "sensor_unsupported" else r)
      r)[name ++ "." ++ f.name]? =
      if f ∈ fields ∧ m f = none then some (r[name ++ "." ++ f.name]?.getD "sensor_unsupported")
      else r[name ++ "." ++ f.name]? := by
  have hkey (g : GpuField) : name ++ "." ++ g.name = name ++ "." ++ f.name ↔ g = f := by
    rw [String.append_right_inj]
    exact GpuField.name_inj
  induction fields generalizing r with
  | nil => simp
  | cons g fields ih =>
    rw [List.foldl_cons, ih]
    by_cases hg : g = f
    · subst hg
      cases m g with
      | none =>
        simp only [Option.isNone_none, if_true, Dict.getElem?_setdefault, and_true, List.mem_cons,
          true_or]
        split <;> rfl
      | some x =>
        simp only [Option.isNone_some, Bool.false_eq_true, if_false, reduceCtorEq, and_false]
    · have hne : ¬ f = g := fun h => hg h.symm
      cases m g with
      | none =>
        simp only [Option.isNone_none, if_true, Dict.getElem?_setdefault, hkey, hg, if_false,
          List.mem_cons, hne, false_or]
      | some x =>
        simp only [Option.isNone_some, Bool.false_eq_true, if_false, List.mem_cons, hne, false_or]

section
variable {B : NvmlBinding} {name : String} {s : GpuSample Number} {c : SensorCall} {e : Exn}
  {f : GpuField}

theorem getElem?_callNote_of_ne (call : Except Exn NvmlObject) {key : String} (r : Dict String)
    (h : key ≠ k) : (callNote call key r)[k]? = r[k]? := by
  cases call with
  | error e => exact Dict.getElem?_set_of_ne r (errorReason e) h
  | ok v => rfl

theorem getElem?_callNote_error (e : Exn) (key : String) (r : Dict String) :
    (callNote (.error e) key r)[key]? = some (errorReason e) := by
  rw [callNote, Dict.getElem?_set, if_pos rfl]

theorem getElem?_memory (B : NvmlBinding) (r : Dict String) (hused : name ++ ".vram_used_bytes" ≠ k)
    (htotal : name ++ ".vram_total_bytes" ≠ k) : ((memory B d name).log r)[k]? = r[k]? := by
  refine @notesOnly_memory (· ≠ k) _ B d hused htotal k ?_ r
  exact fun h => h rfl

theorem getElem?_throttleReasons (B : NvmlBinding) (r : Dict String)
    (h : name ++ ".throttle_reasons" ≠ k) : ((throttleReasons B d name).log r)[k]? = r[k]? := by
  refine @notesOnly_throttleReasons (· ≠ k) _ B d h k ?_ r
  exact fun h => h rfl

/-- Memory info that raises. -/
theorem memory_log_of_error (h : B.sensor .memoryInfo d = .error e) (name : String)
    (r : Dict String) : (memory B d name).log r =
      ((r.set (name ++ ".vram_used_bytes") (errorReason e)).setdefault
        (name ++ ".vram_used_bytes") "sensor_unsupported").setdefault
          (name ++ ".vram_total_bytes") "sensor_unsupported" := by
  have h : B.invoke .nvmlDeviceGetMemoryInfo d = .error e := h
  unfold memory
  rw [h]
  rfl

theorem sense_log (call : Except Exn NvmlObject) (key : String) (scale lo : ℚ) (hi : Option ℚ) :
    (sense call key scale lo hi).log = callNote call key := by
  rw [sense, Logged.log_bind_of_ok (attempt_outcome _ _), attempt_log]
  rfl

/-- What the calls of `_sample_device` note, before its end. -/
def noteCalls (B : NvmlBinding) (d : ℕ) (name : String) (r : Dict String) : Dict String :=
  let r := callNote (B.sensor .utilizationRates d) (name ++ ".utilization_percent")
    ((memory B d name).log r)
  let r := callNote (B.sensor .uuid d) (name ++ ".uuid") ((throttleReasons B d name).log r)
  let r := callNote (B.sensor .temperature d) (name ++ ".temperature_c") r
  let r := callNote (B.sensor .powerUsage d) (name ++ ".power_watts") r
  let r := callNote (B.sensor .enforcedPowerLimit d) (name ++ ".power_limit_watts") r
  let r := callNote (B.sensor .fanSpeed d) (name ++ ".fan_percent") r
  let r := callNote (B.sensor .smClock d) (name ++ ".core_clock_mhz") r
  let r := callNote (B.sensor .memoryClock d) (name ++ ".memory_clock_mhz") r
  r.setdefault (name ++ ".memory_temperature_c") "sensor_unsupported"

theorem sampleDevice_log (h : (sampleDevice B d name).outcome = .ok s) (r : Dict String) :
    (sampleDevice B d name).log r =
      notedFields.foldl (fun r f =>
        if (s.measurement f).isNone then r.setdefault (name ++ "." ++ f.name) "sensor_unsupported"
        else r) (noteCalls B d name r) := by
  unfold sampleDevice at h ⊢
  rcases Logged.bind_ok.1 h with ⟨vram, hvram, h⟩
  rw [Logged.log_bind_of_ok hvram]
  have h := (Logged.bind_of_ok (attempt_outcome _ _)).1 h
  rw [Logged.log_bind_of_ok (attempt_outcome _ _), attempt_log]
  have h := (Logged.bind_of_ok (throttleReasons_outcome _ _ _)).1 h
  rw [Logged.log_bind_of_ok (throttleReasons_outcome _ _ _)]
  have h := (Logged.bind_of_ok (attempt_outcome _ _)).1 h
  rw [Logged.log_bind_of_ok (attempt_outcome _ _), attempt_log]
  rcases Logged.bind_ok.1 h with ⟨gpu, hgpu, h⟩
  rcases Logged.bind_ok.1 h with ⟨mem, hmem, h⟩
  rw [Logged.log_bind_of_ok hgpu, Logged.log_bind_of_ok hmem]
  rcases Logged.bind_ok.1 h with ⟨t, ht, h⟩
  rw [Logged.log_bind_of_ok ht, sense_log]
  rcases Logged.bind_ok.1 h with ⟨p, hp, h⟩
  rw [Logged.log_bind_of_ok hp, sense_log]
  rcases Logged.bind_ok.1 h with ⟨l, hl, h⟩
  rw [Logged.log_bind_of_ok hl, sense_log]
  rcases Logged.bind_ok.1 h with ⟨fan, hfan, h⟩
  rw [Logged.log_bind_of_ok hfan, sense_log]
  rcases Logged.bind_ok.1 h with ⟨core, hcore, h⟩
  rw [Logged.log_bind_of_ok hcore, sense_log]
  rcases Logged.bind_ok.1 h with ⟨clock, hclock, h⟩
  rw [Logged.log_bind_of_ok hclock, sense_log]
  cases h
  rfl

/-- The field under whose key a call is noted. -/
def SensorCall.noted : SensorCall → Option GpuField
  | memoryInfo => some .vramUsedBytes
  | utilizationRates => some .utilizationPercent
  | temperature => some .temperatureC
  | powerUsage => some .powerWatts
  | enforcedPowerLimit => some .powerLimitWatts
  | fanSpeed => some .fanPercent
  | smClock => some .coreClockMhz
  | memoryClock => some .memoryClockMhz
  | supportedThrottleReasons | currentThrottleReasons | uuid => none

theorem noteCalls_noted (he : B.sensor c d = .error e) (hf : c.noted = some f) (name : String)
    (r : Dict String) :
    (noteCalls B d name r)[name ++ ("." ++ f.name)]? = some (errorReason e) := by
  cases c <;> cases hf
  case memoryInfo =>
    simp only [noteCalls, memory_log_of_error he, GpuField.name, String.reduceAppend,
      getElem?_callNote_of_ne, getElem?_throttleReasons, Dict.getElem?_setdefault_of_ne,
      Dict.getElem?_set, Dict.getElem?_setdefault, ne_eq, String.append_right_inj, String.reduceEq,
      not_false_eq_true]
    rfl
  all_goals
    simp only [noteCalls, he, GpuField.name, String.reduceAppend, getElem?_callNote_error,
      getElem?_callNote_of_ne, getElem?_throttleReasons, Dict.getElem?_setdefault_of_ne, ne_eq,
      String.append_right_inj, String.reduceEq, not_false_eq_true]

theorem noteCalls_total (he : B.sensor .memoryInfo d = .error e) (name : String) (r : Dict String) :
    (noteCalls B d name r)[name ++ ("." ++ GpuField.vramTotalBytes.name)]? =
      some (r[name ++ ("." ++ GpuField.vramTotalBytes.name)]?.getD "sensor_unsupported") := by
  simp only [noteCalls, memory_log_of_error he, GpuField.name, String.reduceAppend,
    getElem?_callNote_of_ne, getElem?_throttleReasons, Dict.getElem?_setdefault_of_ne,
    Dict.getElem?_set_of_ne, Dict.getElem?_setdefault, ne_eq, String.append_right_inj,
    String.reduceEq, not_false_eq_true, if_true]

theorem noteCalls_memoryUtilization (B : NvmlBinding) (d : ℕ) (name : String) (r : Dict String) :
    (noteCalls B d name r)[name ++ ("." ++ GpuField.memoryUtilizationPercent.name)]? =
      r[name ++ ("." ++ GpuField.memoryUtilizationPercent.name)]? := by
  simp only [noteCalls, GpuField.name, String.reduceAppend, getElem?_callNote_of_ne,
    getElem?_memory, getElem?_throttleReasons, Dict.getElem?_setdefault_of_ne, ne_eq,
    String.append_right_inj, String.reduceEq, not_false_eq_true]

/-- The reason of a field whose call raised: the class of the failure where the call
    is noted, the default elsewhere. -/
theorem sampleDevice_reason (h : (sampleDevice B d name).outcome = .ok s) {r : Dict String}
    (hr : r[name ++ "." ++ f.name]? = none) (hc : f.call = some c) (he : B.sensor c d = .error e)
    (hnone : s.measurement f = none) :
    ((sampleDevice B d name).log r)[name ++ "." ++ f.name]? =
      some (if c.noted = some f then errorReason e else "sensor_unsupported") := by
  rw [sampleDevice_log h, getElem?_complete, hnone, String.append_assoc]
  rw [String.append_assoc] at hr
  by_cases hf : c.noted = some f
  · rw [noteCalls_noted he hf, if_pos hf]
    split <;> rfl
  · rw [if_neg hf]
    cases f with
    | vramTotalBytes =>
      cases hc
      rw [noteCalls_total he, hr]
      split <;> rfl
    | memoryUtilizationPercent =>
      rw [noteCalls_memoryUtilization, hr]
      rfl
    | memoryTemperatureC => cases hc
    | _ =>
      cases hc
      exact absurd rfl hf

end

/-! ## The loop over the devices -/

section
variable {T : Type} {B : NvmlBinding} {body : String → Diagnosed T}

theorem deviceName_of_printable (h : Printable d) : (deviceName d).outcome = .ok (deviceKey d) := by
  rcases deviceName_ok.2 h with ⟨name, hname⟩
  rw [hname, deviceName_eq hname]

theorem notesOnly_atDevice (hbody : NotesOnly (FieldKey (deviceKey d)) (body (deviceKey d))) :
    NotesOnly (DeviceKey d) (atDevice B d body) := by
  unfold atDevice
  refine .bind (.lift _) fun name hname => ?_
  rcases deviceName_eq hname with rfl
  refine .bind (notesOnly_attempt _ (.inl rfl)) fun handle _ => ?_
  split
  · exact .pure _
  · exact .bind (hbody.mono fun k hk => .inr hk) fun _ _ => .pure _

/-- A device that is skipped notes why there is no handle, if the call raised. -/
theorem atDevice_log_of_skipped (hp : Printable d) (h : ¬ B.Addressable d) (r : Dict String) :
    (atDevice B d body).log r =
      callNote (B.invoke .nvmlDeviceGetHandleByIndex d) (deviceKey d) r := by
  unfold atDevice
  rw [Logged.log_bind_of_ok (deviceName_of_printable hp),
    Logged.log_bind_of_ok (attempt_outcome _ _), attempt_log, if_pos (not_not.1 h)]
  rfl

theorem log_bind_pure {S : Type} (x : Diagnosed T) (f : T → S) :
    (x >>= fun a => (pure (f a) : Diagnosed S)).log = x.log := by
  cases hx : x.outcome with
  | error e => exact Logged.log_bind_of_error hx
  | ok a => exact Logged.log_bind_of_ok hx

/-- A device that is not skipped notes what its body does. -/
theorem atDevice_log_of_addressable (hp : Printable d) (h : B.Addressable d) (r : Dict String) :
    (atDevice B d body).log r = (body (deviceKey d)).log r := by
  have hcall : callNote (B.invoke .nvmlDeviceGetHandleByIndex d) (deviceKey d) r = r := by
    unfold NvmlBinding.Addressable at h
    cases hinvoke : B.invoke .nvmlDeviceGetHandleByIndex d with
    | error e =>
      rw [hinvoke] at h
      exact absurd rfl h
    | ok v => rfl
  unfold atDevice
  rw [Logged.log_bind_of_ok (deviceName_of_printable hp),
    Logged.log_bind_of_ok (attempt_outcome _ _), attempt_log, if_neg h, log_bind_pure]
  exact congrArg _ hcall

variable {body : ℕ → String → Diagnosed T}
  (hbody : ∀ d, NotesOnly (FieldKey (deviceKey d)) (body d (deviceKey d)))
include hbody

theorem notesOnly_overDevices (ds : List ℕ) :
    NotesOnly (fun k => ∃ d ∈ ds, DeviceKey d k) (overDevices B body ds) := by
  induction ds with
  | nil => exact .pure _
  | cons d ds ih =>
    refine .bind ((notesOnly_atDevice (hbody d)).mono ?_) fun _ _ =>
      .bind (ih.mono ?_) fun _ _ => .pure _
    · intro k hk
      exact ⟨d, List.mem_cons_self, hk⟩
    · rintro k ⟨d', hd', hk⟩
      exact ⟨d', .tail _ hd', hk⟩

/-- The reasons under a device's keys are those that its own turn notes. -/
theorem overDevices_log {ds : List ℕ} {xs : List T} (hnodup : ds.Nodup) (hd : d ∈ ds)
    (hok : (overDevices B body ds).outcome = .ok xs) (r : Dict String) :
    ∃ r' : Dict String, (∀ k, DeviceKey d k → r'[k]? = r[k]?) ∧
      ∀ k, DeviceKey d k →
        ((overDevices B body ds).log r)[k]? = ((atDevice B d (body d)).log r')[k]? := by
  induction ds generalizing r xs with
  | nil => cases hd
  | cons d' ds ih =>
    rcases List.nodup_cons.1 hnodup with ⟨hfresh, hnodup⟩
    rcases Logged.bind_ok.1 hok with ⟨here, hhere, hrest⟩
    rcases Logged.bind_ok.1 hrest with ⟨rest, hrest, -⟩
    have hlog : (overDevices B body (d' :: ds)).log r =
        (overDevices B body ds).log ((atDevice B d' (body d')).log r) := by
      rw [overDevices, Logged.log_bind_of_ok hhere, Function.comp_apply, log_bind_pure]
    rw [hlog]
    rcases List.mem_cons.1 hd with rfl | hd
    · refine ⟨r, fun _ _ => rfl, ?_⟩
      intro k hk
      refine notesOnly_overDevices hbody ds k ?_ _
      rintro ⟨d', hd', hk'⟩
      rw [hk.unique hk'] at hfresh
      exact hfresh hd'
    · rcases ih hnodup hd hrest ((atDevice B d' (body d')).log r) with ⟨r', hr', hk⟩
      refine ⟨r', ?_, hk⟩
      intro k hkey
      rw [hr' k hkey]
      refine notesOnly_atDevice (hbody d') k ?_ r
      intro hkey'
      rw [hkey'.unique hkey] at hfresh
      exact hfresh hd

omit hbody in
theorem atDevice_outcome_of_skipped (hp : Printable d) (h : ¬ B.Addressable d) :
    (atDevice B d (body d)).outcome = .ok [] := by
  rw [atDevice, Logged.outcome_bind, deviceName_of_printable hp, ok_bind, Logged.outcome_bind,
    attempt_outcome, ok_bind, if_pos (not_not.1 h)]
  rfl

/-- A loop that raises leaves a device without a reason. -/
theorem exists_unnoted {ds : List ℕ} {e : Exn} (hnodup : ds.Nodup)
    (hfail : (overDevices B body ds).outcome = .error e) {r : Dict String}
    (hr : ∀ d ∈ ds, r[deviceKey d]? = none) :
    ∃ d ∈ ds, ((overDevices B body ds).log r)[deviceKey d]? = none := by
  induction ds generalizing r with
  | nil => cases hfail
  | cons d ds ih =>
    rcases List.nodup_cons.1 hnodup with ⟨hfresh, hnodup⟩
    rw [List.forall_mem_cons] at hr
    cases hhere : (atDevice B d (body d)).outcome with
    | error e' =>
      refine ⟨d, List.mem_cons_self, ?_⟩
      rw [overDevices, Logged.log_bind_of_error hhere]
      by_cases hp : Printable d
      · by_cases ha : B.Addressable d
        · have hkey : ¬ FieldKey (deviceKey d) (deviceKey d) := fun h => fieldKey_ne _ h rfl
          rw [atDevice_log_of_addressable hp ha, hbody d _ hkey, hr.1]
        · rw [atDevice_outcome_of_skipped hp ha] at hhere
          cases hhere
      · cases hname : (deviceName d).outcome with
        | ok name => exact absurd (deviceName_ok.1 ⟨name, hname⟩) hp
        | error e' =>
          rw [atDevice, Logged.log_bind_of_error hname]
          exact hr.1
    | ok here =>
      have hrest : (overDevices B body ds).outcome = .error e := by
        rw [overDevices, Logged.outcome_bind, hhere, ok_bind, Logged.outcome_bind] at hfail
        cases ho : (overDevices B body ds).outcome with
        | ok xs =>
          rw [ho] at hfail
          cases hfail
        | error e' =>
          rw [ho] at hfail
          exact hfail
      have hr' : ∀ d' ∈ ds, ((atDevice B d (body d)).log r)[deviceKey d']? = none := by
        intro d' hd'
        rw [← hr.2 d' hd']
        refine notesOnly_atDevice (hbody d) _ ?_ r
        intro hkey
        rw [hkey.unique (.inl rfl)] at hfresh
        exact hfresh hd'
      rcases ih hnodup hrest hr' with ⟨d', hd', hnone⟩
      refine ⟨d', .tail _ hd', ?_⟩
      rw [overDevices, Logged.log_bind_of_ok hhere, Function.comp_apply, log_bind_pure]
      exact hnone

end

/-! ## Samples and their devices -/

section
variable {B : NvmlBinding} {ds : List ℕ} {xs : List (GpuSample Number)}

theorem device_of_over (h : B.Over B.SampleOf ds xs) {s : GpuSample Number} (hs : s ∈ xs) :
    ∃ d ∈ ds, Printable d ∧ B.Addressable d ∧ B.SampleOf d s := by
  induction h with
  | nil => cases hs
  | skip _ _ _ ih =>
    rcases ih hs with ⟨d, hd, h⟩
    exact ⟨d, .tail _ hd, h⟩
  | take hp ha hsample _ ih =>
    rcases List.mem_cons.1 hs with rfl | hs
    · exact ⟨_, List.mem_cons_self, hp, ha, hsample⟩
    · rcases ih hs with ⟨d, hd, h⟩
      exact ⟨d, .tail _ hd, h⟩

theorem over_of_device (h : B.Over B.SampleOf ds xs) (hd : d ∈ ds) :
    Printable d ∧ (B.Addressable d → ∃ s ∈ xs, B.SampleOf d s) := by
  induction h with
  | nil => cases hd
  | skip hp hno _ ih =>
    rcases List.mem_cons.1 hd with rfl | hd
    · exact ⟨hp, fun ha => absurd ha hno⟩
    · exact ih hd
  | take hp _ hsample _ ih =>
    rcases List.mem_cons.1 hd with rfl | hd
    · exact ⟨hp, fun _ => ⟨_, List.mem_cons_self, hsample⟩⟩
    · rcases ih hd with ⟨hp', h⟩
      refine ⟨hp', ?_⟩
      intro ha
      rcases h ha with ⟨s, hs, hsample⟩
      exact ⟨s, .tail _ hs, hsample⟩

/-- A field is `UNSUPPORTED` if its call raised. -/
theorem measurement_of_error {s : GpuSample Number} (hs : B.SampleOf d s) {f : GpuField}
    {c : SensorCall} {e : Exn} (hc : f.call = some c) (he : B.sensor c d = .error e) :
    s.measurement f = none := by
  have hanswer : B.answer c d = .none := by
    rw [NvmlBinding.answer, he]
    rfl
  have hvalue : B.fieldValue d f = .ok .none := by
    rw [NvmlBinding.fieldValue, hc]
    cases f.attribute with
    | none => exact congrArg (fun o => Except.ok (NvmlObject.obj o)) hanswer
    | some name => exact congrArg (fun o => (NvmlObject.attr o name).get) hanswer
  have hm := hs.measurement f
  rw [NvmlBinding.measurement, hvalue] at hm
  exact (Except.ok.inj hm).symm

end

/-! ## The whole operation -/

/-- The samples a call returns. -/
def samplesOf : Except Exn (List (GpuSample Number)) → List (GpuSample Number)
  | .ok xs => xs
  | .error _ => []

/-- The diagnostics name the causes: a sampled field has the class of the failure of
    its call as its reason, and a device that is not sampled has a reason. -/
structure NamesCauses (B : NvmlBinding) (out : Except Exn (List (GpuSample Number)))
    (reasons : Dict String) (count : ℕ) : Prop where
  failed : ∀ s ∈ samplesOf out, ∀ d : ℕ, s.index = d → ∀ f call e,
    f.call = some call → B.sensor call d = .error e →
      s.measurement f = none ∧ reasons[gpuKey d f]? = some (errorReason e)
  accounted : ∀ d < count, (∃ s ∈ samplesOf out, s.index = d) ∨ deviceKey d ∈ reasons

/-- A device can be sampled without its causes getting lost. -/
structure NvmlBinding.CausesKept (B : NvmlBinding) (d : ℕ) : Prop where
  printable : Printable d
  /-- no handle is `None` -/
  handle : ¬ B.Addressable d → ∃ e, B.invoke .nvmlDeviceGetHandleByIndex d = .error e
  fits : B.Addressable d → ∀ f, ∃ v, B.fieldValue d f = .ok v ∧ Fits v
  /-- the default reason of the second field is right -/
  shared : B.Addressable d → ∀ call, call = .memoryInfo ∨ call = .utilizationRates →
    ∀ e, B.sensor call d = .error e → errorReason e = "sensor_unsupported"

section
variable {B : NvmlBinding}

theorem notesOnly_deviceCount (B : NvmlBinding) : NotesOnly (· = "gpu") (deviceCount B) := by
  unfold deviceCount
  refine .bind (.lift _) fun _ _ => .bind (notesOnly_attempt _ rfl) fun _ _ => ?_
  exact .bind (.setDefaultReasonIf _ _ rfl) fun _ _ => .pure _

theorem DeviceKey.ne_gpu (h : DeviceKey d k) : k ≠ "gpu" := by
  rintro rfl
  exact not_deviceKey_gpu h

/-- The reasons under the keys of devices are those that the loop notes. -/
theorem sampleAll_log (hcount : B.function .nvmlDeviceGetCount ≠ .absent) :
    ∃ r : Dict String, (∀ d k, DeviceKey d k → r[k]? = none) ∧
      ∀ d k, DeviceKey d k → ((sampleAll B).log ∅)[k]? =
        ((overDevices B (sampleDevice B) (List.range B.count)).log r)[k]? := by
  have hn := deviceCount_ok.2 ⟨hcount, rfl⟩
  refine ⟨(deviceCount B).log ∅, ?_, ?_⟩
  · intro d k hk
    rw [notesOnly_deviceCount B k hk.ne_gpu]
    exact Std.ExtTreeMap.getElem?_empty
  · intro d k hk
    rw [sampleAll, Logged.log_bind_of_ok hn, Function.comp_apply]
    cases ho : (overDevices B (sampleDevice B) (List.range B.count)).outcome with
    | error e => rw [Logged.log_bind_of_error ho]
    | ok xs =>
      rw [Logged.log_bind_of_ok ho, Function.comp_apply, log_bind_pure]
      exact NotesOnly.setDefaultReasonIf (P := (· = "gpu")) _ _ rfl k hk.ne_gpu _

theorem sampleAll_outcome (hcount : B.function .nvmlDeviceGetCount ≠ .absent) :
    (sampleAll B).outcome = (overDevices B (sampleDevice B) (List.range B.count)).outcome := by
  have hn := deviceCount_ok.2 ⟨hcount, rfl⟩
  rw [sampleAll, Logged.outcome_bind, hn, ok_bind, Logged.outcome_bind]
  cases (overDevices B (sampleDevice B) (List.range B.count)).outcome <;> rfl

variable {xs : List (GpuSample Number)} {s : GpuSample Number} {f : GpuField} {call : SensorCall}
  {e : Exn}

/-- The reasons under the keys of one device, after a sample that returns. -/
theorem device_log (hok : (sampleAll B).outcome = .ok xs) (hd : d < B.count) :
    ∃ r : Dict String, (∀ k, DeviceKey d k → r[k]? = none) ∧ ∀ k, DeviceKey d k →
      ((sampleAll B).log ∅)[k]? = ((atDevice B d (sampleDevice B d)).log r)[k]? := by
  have hcount := (sampleAll_ok.1 hok).1
  rcases sampleAll_log hcount with ⟨r, hr, hlog⟩
  rw [sampleAll_outcome hcount] at hok
  rcases overDevices_log (fun d => notesOnly_sampleDevice B d _) List.nodup_range
    (List.mem_range.2 hd) hok r with ⟨r', hr', hlog'⟩
  refine ⟨r', ?_, ?_⟩
  · intro k hk
    rw [hr' k hk, hr d k hk]
  · intro k hk
    rw [hlog d k hk, hlog' k hk]

/-- The reason of a sampled field whose call raised. -/
theorem field_reason (hok : (sampleAll B).outcome = .ok xs) (hd : d < B.count)
    (hp : Printable d) (ha : B.Addressable d) (hs : B.SampleOf d s) (hc : f.call = some call)
    (he : B.sensor call d = .error e) : ((sampleAll B).log ∅)[gpuKey d f]? =
      some (if call.noted = some f then errorReason e else "sensor_unsupported") := by
  rcases device_log hok hd with ⟨r, hr, hlog⟩
  have hkey : DeviceKey d (gpuKey d f) := .inr ⟨f.name, rfl⟩
  rw [hlog _ hkey, atDevice_log_of_addressable hp ha]
  exact sampleDevice_reason (sampleDevice_ok.2 hs) (hr _ hkey) hc he (measurement_of_error hs hc he)

/-- A skipped device has a reason if the call for its handle raised. -/
theorem skipped_reason (hok : (sampleAll B).outcome = .ok xs) (hd : d < B.count) (hp : Printable d)
    (ha : ¬ B.Addressable d) : deviceKey d ∈ (sampleAll B).log ∅ ↔
      ∃ e, B.invoke .nvmlDeviceGetHandleByIndex d = .error e := by
  rcases device_log hok hd with ⟨r, hr, hlog⟩
  have hkey : DeviceKey d (deviceKey d) := .inl rfl
  rw [Std.ExtTreeMap.mem_iff_isSome_getElem?, hlog _ hkey, atDevice_log_of_skipped hp ha]
  cases B.invoke .nvmlDeviceGetHandleByIndex d with
  | error e => simp [getElem?_callNote_error]
  | ok v => simp [callNote, hr _ hkey]

/-- Only the second fields of memory info and utilization rates are not noted. -/
theorem shared_of_not_noted (hc : f.call = some call) (h : call.noted ≠ some f) :
    call = .memoryInfo ∨ call = .utilizationRates := by
  cases f <;> cases hc <;> first | exact absurd rfl h | exact .inl rfl | exact .inr rfl

/-- A call that raises leaves a device that is not accounted for. -/
theorem causes_of_error {e : Exn} (hok : (sampleAll B).outcome = .error e) :
    NamesCauses B (.error e) ((sampleAll B).log ∅) B.count ↔ ∀ d < B.count, B.CausesKept d := by
  by_cases hcount : B.function .nvmlDeviceGetCount = .absent
  · have hzero : B.count = 0 := by
      simp only [NvmlBinding.count, NvmlBinding.system, NvmlBinding.lookup, hcount]
      rfl
    rw [hzero]
    exact iff_of_true ⟨by rintro s ⟨⟩, by simp⟩ (by simp)
  · rw [sampleAll_outcome hcount] at hok
    constructor
    · intro h
      exfalso
      rcases sampleAll_log hcount with ⟨r, hr, hlog⟩
      rcases exists_unnoted (fun d => notesOnly_sampleDevice B d _) List.nodup_range hok
        (fun d _ => hr d _ (.inl rfl)) with ⟨d, hd, hnone⟩
      rcases h.accounted d (List.mem_range.1 hd) with ⟨s, hs, -⟩ | hmem
      · cases hs
      · rw [Std.ExtTreeMap.mem_iff_isSome_getElem?, hlog d _ (.inl rfl), hnone] at hmem
        cases hmem
    · intro h
      exfalso
      have hreadable : B.SampleReadable := by
        refine ⟨hcount, ?_⟩
        intro d hd
        exact ⟨(h d hd).printable, (h d hd).fits⟩
      rcases returns_sampleAll.2 hreadable with ⟨xs, hxs⟩
      rw [sampleAll_outcome hcount, hok] at hxs
      cases hxs

/-- The index of a sample is that of its device. -/
theorem device_unique {d' : ℕ} (hs : B.SampleOf d' s) (hindex : s.index = d) : d' = d :=
  Nat.cast_injective (hs.index.symm.trans hindex)

theorem causesKept_of_names (hok : (sampleAll B).outcome = .ok xs)
    (h : NamesCauses B (.ok xs) ((sampleAll B).log ∅) B.count) (hd : d < B.count) :
    B.CausesKept d := by
  have hover := (sampleAll_ok.1 hok).2
  rcases over_of_device hover (List.mem_range.2 hd) with ⟨hp, hsample⟩
  refine ⟨hp, ?_, ?_, ?_⟩
  · intro ha
    rcases h.accounted d hd with ⟨s, hs, hindex⟩ | hmem
    · rcases device_of_over hover hs with ⟨d', -, -, ha', hs'⟩
      rw [device_unique hs' hindex] at ha'
      exact absurd ha' ha
    · exact (skipped_reason hok hd hp ha).1 hmem
  · intro ha
    rcases hsample ha with ⟨s, -, hs⟩
    exact exists_sampleOf.1 ⟨s, hs⟩
  · intro ha call hcall e he
    rcases hsample ha with ⟨s, hs, hof⟩
    have hlost (f : GpuField) (hc : f.call = some call) (hnot : call.noted ≠ some f) :
        errorReason e = "sensor_unsupported" := by
      have hreason := (h.failed s hs d hof.index f _ e hc he).2
      rw [field_reason hok hd hp ha hof hc he, if_neg hnot] at hreason
      exact (Option.some.inj hreason).symm
    rcases hcall with rfl | rfl
    · exact hlost .vramTotalBytes rfl (by decide)
    · exact hlost .memoryUtilizationPercent rfl (by decide)

theorem names_of_causesKept (hok : (sampleAll B).outcome = .ok xs)
    (h : ∀ d < B.count, B.CausesKept d) :
    NamesCauses B (.ok xs) ((sampleAll B).log ∅) B.count := by
  have hover := (sampleAll_ok.1 hok).2
  constructor
  · intro s hs d hindex f call e hc he
    rcases device_of_over hover hs with ⟨d', hd', hp, ha, hof⟩
    rcases device_unique hof hindex with rfl
    have hd := List.mem_range.1 hd'
    refine ⟨measurement_of_error hof hc he, ?_⟩
    rw [field_reason hok hd hp ha hof hc he]
    by_cases hnoted : call.noted = some f
    · rw [if_pos hnoted]
    · rw [if_neg hnoted, (h d' hd).shared ha call (shared_of_not_noted hc hnoted) e he]
  · intro d hd
    by_cases ha : B.Addressable d
    · rcases (over_of_device hover (List.mem_range.2 hd)).2 ha with ⟨s, hs, hof⟩
      exact .inl ⟨s, hs, hof.index⟩
    · exact .inr ((skipped_reason hok hd (h d hd).printable ha).2 ((h d hd).handle ha))

theorem sampleAll_causes (B : NvmlBinding) :
    NamesCauses B (sampleAll B).outcome ((sampleAll B).log ∅) B.count ↔
      ∀ d < B.count, B.CausesKept d := by
  cases hok : (sampleAll B).outcome with
  | error e => exact causes_of_error hok
  | ok xs => exact ⟨fun h d hd => causesKept_of_names hok h hd, names_of_causesKept hok⟩

end

/-! ## A call of the reader -/

/-- The device count that NVML reports to the call. -/
def NvmlGpuReader.reportedCount (r : NvmlGpuReader) (c : NvmlCall) : ℕ :=
  if (r.ready c).1 then c.binding.count else 0

theorem ready_reasons {r : NvmlGpuReader} {c : NvmlCall} (h : (r.ready c).1 = true) :
    (r.ready c).2.reasons = ∅ := by
  unfold NvmlGpuReader.ready at h ⊢
  split at h
  · cases h
  · dsimp only at h ⊢
    split_ifs at h ⊢
    · rfl
    · split at h
      · cases h
      · cases h
      · split at h
        · cases h
        · rfl

theorem sample_eq (r : NvmlGpuReader) (c : NvmlCall) : r.sample c =
    if (r.ready c).1 then
      ((sampleAll c.binding).outcome,
        { (r.ready c).2 with reasons := (sampleAll c.binding).log (r.ready c).2.reasons })
    else (.ok [], (r.ready c).2) := by
  unfold NvmlGpuReader.sample NvmlGpuReader.operate
  cases r.ready c with
  | mk ready r' => cases ready <;> rfl

/-- **NVML diagnostics and their causes.**  The diagnostics of a sample name the real
    causes exactly if, on every device that NVML reports, there is a handle or a
    failure to note, the readings fit a double, and a failure of memory info or
    utilization rates is classified as the default reason. -/
theorem nvml_causes_iff (r : NvmlGpuReader) (c : NvmlCall) :
    NamesCauses c.binding (r.sample c).1 (r.sample c).2.reasons (r.reportedCount c) ↔
      ∀ d < r.reportedCount c, c.binding.CausesKept d := by
  rw [sample_eq, NvmlGpuReader.reportedCount]
  by_cases h : (r.ready c).1 = true
  · rw [if_pos h, if_pos h, ready_reasons h]
    exact sampleAll_causes c.binding
  · rw [if_neg h, if_neg h]
    exact iff_of_true ⟨by rintro s ⟨⟩, by simp⟩ (by simp)

/-! ## Two lost causes -/

/-- One device: what the calls for its handle and its memory info do. -/
def lostDevice (handle memoryInfo : Except Exn NvmlObject) : NvmlBinding where
  function
    | .nvmlInit | .nvmlShutdown => .callable fun _ => .ok .none
    | .nvmlDeviceGetCount => .callable fun _ => .ok { obj := .num (.int 1) }
    | .nvmlDeviceGetHandleByIndex => .callable fun _ => handle
    | .nvmlDeviceGetMemoryInfo => .callable fun _ => memoryInfo
    | _ => .callable fun _ => .error ⟨"NVMLError_NotSupported"⟩
  constant _ := some (.num (.int 0))

/-- A reader of this binding, before its first call. -/
def newReader : NvmlGpuReader := { loaded := true }

/-- The diagnostics of a first sample of this binding name the causes. -/
def FirstNamesCauses (B : NvmlBinding) : Prop :=
  NamesCauses B (newReader.sample ⟨.ok (), B⟩).1 (newReader.sample ⟨.ok (), B⟩).2.reasons
    (newReader.reportedCount ⟨.ok (), B⟩)

theorem causesKept_of_first {handle memoryInfo : Except Exn NvmlObject}
    (h : FirstNamesCauses (lostDevice handle memoryInfo)) :
    (lostDevice handle memoryInfo).CausesKept 0 := by
  have hready : (newReader.ready ⟨.ok (), lostDevice handle memoryInfo⟩).1 = true := rfl
  rw [FirstNamesCauses, sample_eq, NvmlGpuReader.reportedCount, if_pos hready, if_pos hready,
    ready_reasons hready] at h
  exact (sampleAll_causes _).1 h 0 Nat.one_pos

/-- A lost GPU is noted as an unsupported sensor under `vram_total_bytes`, and a handle
    that is `None` is not noted at all. -/
theorem nvml_causes_lost :
    ¬ FirstNamesCauses
      (lostDevice (.ok { obj := .other }) (.error ⟨"NVMLError_GpuIsLost"⟩)) ∧
    ¬ FirstNamesCauses (lostDevice (.ok .none) (.ok .none)) := by
  constructor
  · intro h
    have hlost := (causesKept_of_first h).shared (by rintro ⟨⟩) .memoryInfo (.inl rfl) _ rfl
    exact absurd hlost (by decide)
  · intro h
    rcases (causesKept_of_first h).handle (fun ha => ha rfl) with ⟨e, he⟩
    cases he

end SweatMeter
