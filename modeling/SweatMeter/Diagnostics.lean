/-
  The diagnostics of a snapshot.

  Several layers write reasons: the guarded reads, the replacement of malformed
  records, the normalization of the GPU rows, the marking of unsupported fields
  and the readers' own mappings.  Reasons are overwritten but never removed, so
  each layer is told by the keys it adds, and the keys of a collected snapshot
  are the union over the layers (`diagnostics_complete`).
-/
import SweatMeter.WellFormed

namespace SweatMeter

open Py

/-! ## Keys -/

/-- The key of a field of the GPU with this index. -/
def gpuKey (i : ℤ) (f : GpuField) : String := s!"gpu.{i}.{f.name}"

/-- The keys that name an element of `gpu.sample()` by its position. -/
def positionKeys (position : ℕ) : List String :=
  [s!"gpu.sample.{position}", s!"gpu.sample.{position}.index"]

/-- The key is about the GPUs. -/
def IsGpuKey (key : String) : Prop := key = "gpu" ∨ "gpu.".toList <+: key.toList

theorem isGpuKey_append (s : String) : IsGpuKey ("gpu." ++ s) := by
  refine Or.inr ?_
  rw [String.toList_append]
  exact List.prefix_append _ _

theorem isGpuKey_gpuKey (i : ℤ) (f : GpuField) : IsGpuKey (gpuKey i f) := by
  have : gpuKey i f = "gpu." ++ (toString i ++ ("." ++ f.name)) := by
    show "gpu." ++ toString i ++ "." ++ f.name = _
    rw [String.append_assoc, String.append_assoc]
  rw [this]
  exact isGpuKey_append _

theorem isGpuKey_positionKeys {k : ℕ} {key : String} (h : key ∈ positionKeys k) : IsGpuKey key := by
  have hsample : "gpu.sample." = "gpu." ++ "sample." := rfl
  rcases List.mem_cons.1 h with rfl | h
  · show IsGpuKey ("gpu.sample." ++ toString k)
    rw [hsample, String.append_assoc]
    exact isGpuKey_append _
  · rw [List.mem_singleton.1 h]
    show IsGpuKey ("gpu.sample." ++ toString k ++ ".index")
    rw [hsample, String.append_assoc, String.append_assoc]
    exact isGpuKey_append _

/-- Live host fields are not keys of GPUs. -/
theorem not_isGpuKey_name (f : HostField) : ¬ IsGpuKey f.name := by
  rintro (h | h)
  · cases f <;> exact absurd h (by decide)
  · cases f <;> exact absurd h (by decide)

/-! ## The keys each layer adds -/

variable {key : String}

theorem mem_foldl_set {fields : List String} {reason : String} {r : Dict String} :
    key ∈ fields.foldl (fun r f => r.set f reason) r ↔ key ∈ r ∨ key ∈ fields := by
  induction fields generalizing r with
  | nil => simp
  | cons f fields ih =>
    rw [List.foldl_cons, ih, Dict.mem_set, List.mem_cons]
    constructor
    · rintro ((h | h) | h)
      · exact Or.inr (Or.inl h.symm)
      · exact Or.inl h
      · exact Or.inr (Or.inr h)
    · rintro (h | h | h)
      · exact Or.inl (Or.inr h)
      · exact Or.inl (Or.inl h.symm)
      · exact Or.inr h

/-- A guarded read adds its fields if it raises. -/
theorem mem_readNote {T : Type} {fn : Except Exn T} {fields : List String} {r : Dict String} :
    key ∈ readNote fn fields r ↔ key ∈ r ∨ ((∃ e, fn = .error e) ∧ key ∈ fields) := by
  cases fn with
  | ok v => simp [readNote]
  | error e => simp [readNote, mem_foldl_set]

theorem mem_malformedNote {T : Type} {value : Option T} {fields : List String} {r : Dict String} :
    key ∈ malformedNote value fields r ↔ key ∈ r ∨ (value = none ∧ key ∈ fields) := by
  cases value with
  | some v => simp [malformedNote]
  | none => simp [malformedNote, mem_foldl_set]

theorem mem_timestampOf {c : Clocks} {r : Dict String} (h : key ∈ (timestampOf c r).2) :
    key ∈ r ∨ key = "timestamp" := by
  unfold timestampOf at h
  rw [read_eq] at h
  simp only at h
  split at h
  · rcases mem_readNote.1 h with h | ⟨-, h⟩
    · exact Or.inl h
    · exact Or.inr (List.mem_singleton.1 h)
  · rw [Dict.mem_set] at h
    rcases h with rfl | h
    · exact Or.inr rfl
    · rcases mem_readNote.1 h with h | ⟨-, h⟩
      · exact Or.inl h
      · exact Or.inr (List.mem_singleton.1 h)

theorem mem_markUnsupported {live : HostField → Measurement Number} {reason : String}
    {r : Dict String} :
    key ∈ markUnsupported live reason r ↔ key ∈ r ∨ ∃ f, live f = none ∧ f.name = key := by
  have hfold : ∀ fs : List HostField, ∀ r : Dict String,
      key ∈ fs.foldl (fun r f => if (live f).isNone then r.setdefault f.name reason else r) r ↔
        key ∈ r ∨ ∃ f ∈ fs, live f = none ∧ f.name = key := by
    intro fs
    induction fs with
    | nil => simp
    | cons f fs ih =>
      intro r
      rw [List.foldl_cons, ih]
      cases hf : live f with
      | some x => simp [hf]
      | none =>
        simp only [Option.isNone_none, if_true, Dict.mem_setdefault, List.mem_cons]
        constructor
        · rintro ((h | h) | ⟨g, hg, h⟩)
          · exact Or.inr ⟨f, Or.inl rfl, hf, h⟩
          · exact Or.inl h
          · exact Or.inr ⟨g, Or.inr hg, h⟩
        · rintro (h | ⟨g, rfl | hg, h⟩)
          · exact Or.inl (Or.inr h)
          · exact Or.inl (Or.inl h.2)
          · exact Or.inr ⟨g, hg, h⟩
  rw [markUnsupported, hfold]
  simp [HostField.mem_all]

/-! ## The rows -/

theorem intText_ok {i : ℤ} {text : String} (h : intText i = .ok text) : text = toString i := by
  unfold intText at h
  split_ifs at h
  cases h; rfl

theorem mem_noteUnsupported {i : ℤ} {f : GpuField} {m : Measurement Number} {r r' : Dict String}
    (h : noteUnsupported i f m r = .ok r') :
    key ∈ r' ↔ key ∈ r ∨ (m = none ∧ gpuKey i f = key) := by
  cases m with
  | some x => cases h; simp
  | none =>
    obtain ⟨text, htext, h⟩ := bind_eq_ok.1 h
    cases intText_ok htext
    cases h
    rw [Dict.mem_setdefault, or_comm]
    simp only [true_and]
    rfl

theorem mem_gpuMeasurements {i : ℤ} {row : GpuRow} {fs : List GpuField} (hfs : fs.Nodup)
    {m : GpuField → Measurement Number} {r r' : Dict String}
    (h : gpuMeasurements i row fs r = .ok (m, r')) :
    key ∈ r' ↔ key ∈ r ∨ ∃ f ∈ fs, m f = none ∧ gpuKey i f = key := by
  induction fs generalizing m r with
  | nil => cases pure_eq_ok.1 h; simp
  | cons f fs ih =>
    obtain ⟨hf, hnd⟩ := List.nodup_cons.1 hfs
    simp only [gpuMeasurements, bind_eq_ok] at h
    obtain ⟨v, -, x, -, r₁, hr₁, ⟨rest, r₂⟩, hrest, h⟩ := h
    obtain ⟨rfl, rfl⟩ := Prod.mk.inj (pure_eq_ok.1 h)
    rw [ih hnd hrest, mem_noteUnsupported hr₁]
    have hupd : ∀ g ∈ fs, Function.update rest f x g = rest g := by
      intro g hg
      exact Function.update_of_ne (fun heq => hf (by rwa [heq] at hg)) _ _
    constructor
    · rintro ((hk | ⟨hx, hk⟩) | ⟨g, hg, hm, hk⟩)
      · exact Or.inl hk
      · exact Or.inr ⟨f, List.mem_cons_self, by simpa using hx, hk⟩
      · exact Or.inr ⟨g, List.mem_cons_of_mem _ hg, by rw [hupd g hg]; exact hm, hk⟩
    · rintro (hk | ⟨g, hg, hm, hk⟩)
      · exact Or.inl (Or.inl hk)
      · rcases List.mem_cons.1 hg with rfl | hg
        · exact Or.inl (Or.inr ⟨by simpa using hm, hk⟩)
        · exact Or.inr ⟨g, hg, by rwa [hupd g hg] at hm, hk⟩

theorem mem_normalizeGpuRow {i : ℤ} {row : GpuRow} {s : GpuSample Number} {r r' : Dict String}
    (h : normalizeGpuRow i row r = .ok (s, r')) :
    key ∈ r' ↔ key ∈ r ∨ ∃ f, s.measurement f = none ∧ gpuKey i f = key := by
  simp only [normalizeGpuRow, bind_eq_ok] at h
  obtain ⟨⟨m, r₁⟩, hm, u, -, t, -, a, -, h⟩ := h
  obtain ⟨rfl, rfl⟩ := Prod.mk.inj (pure_eq_ok.1 h)
  rw [mem_gpuMeasurements (by decide) hm]
  simp [GpuField.mem_all]

/-- What one turn of the loop notes: the position of an element it drops, or the
    unsupported fields of a row it keeps. -/
inductive Noted (k : ℕ) (v : Option GpuRow) (n : List (GpuSample Number)) (r : Dict String) :
    List (GpuSample Number) → Dict String → Prop
  | dropped {key reason} : key ∈ positionKeys k → Noted k v n r n (r.set key reason)
  | kept {row i s r'} : v = some row → rowIndex v = some i → (∀ q ∈ n, q.index ≠ i) →
      RowOf i row s →
      (∀ key, key ∈ r' ↔ key ∈ r ∨ ∃ f, s.measurement f = none ∧ gpuKey i f = key) →
      Noted k v n r (n ++ [s]) r'

theorem normalizeGpuValue_noted {k : ℕ} {v : Option GpuRow} {n n' : List (GpuSample Number)}
    {r r' : Dict String} (h : normalizeGpuValue k v n r = .ok (n', r')) : Noted k v n r n' r' := by
  cases v with
  | none =>
    obtain ⟨rfl, rfl⟩ := Prod.mk.inj (pure_eq_ok.1 h)
    exact .dropped (by simp [positionKeys])
  | some row =>
    simp only [normalizeGpuValue, bind_eq_ok] at h
    obtain ⟨o, ho, h⟩ := h
    cases hi : validIndex o with
    | none =>
      rw [hi] at h
      obtain ⟨rfl, rfl⟩ := Prod.mk.inj (pure_eq_ok.1 h)
      exact .dropped (by simp [positionKeys])
    | some i =>
      simp only [hi] at h
      split_ifs at h with hdup
      · obtain ⟨rfl, rfl⟩ := Prod.mk.inj (pure_eq_ok.1 h)
        exact .dropped (by simp [positionKeys])
      · obtain ⟨⟨s, r₁⟩, hs, h⟩ := bind_eq_ok.1 h
        obtain ⟨rfl, rfl⟩ := Prod.mk.inj (pure_eq_ok.1 h)
        exact .kept rfl ((rowIndex_of_ok ho).trans hi) (by simpa using hdup)
          (normalizeGpuRow_ok.1 ⟨r₁, hs⟩) fun key => mem_normalizeGpuRow hs

theorem Noted.admit {k : ℕ} {v : Option GpuRow} {n n' : List (GpuSample Number)}
    {r r' : Dict String} (h : Noted k v n r n' r') :
    (∀ key, key ∈ r → key ∈ r') ∧ (∀ key, key ∈ r' → key ∈ r ∨ IsGpuKey key) ∧
      (∀ s ∈ n', s ∈ n ∨ ∀ f, s.measurement f = none → gpuKey s.index f ∈ r') := by
  cases h with
  | dropped hpos =>
    refine ⟨fun key hk => (Dict.mem_set _ _ _).2 (Or.inr hk), fun key hk => ?_,
      fun s hs => Or.inl hs⟩
    rcases (Dict.mem_set _ _ _).1 hk with rfl | hk
    · exact Or.inr (isGpuKey_positionKeys hpos)
    · exact Or.inl hk
  | @kept row i s r' _ _ _ hrow hkeys =>
    refine ⟨fun key hk => (hkeys key).2 (Or.inl hk), ?_, ?_⟩
    · intro key hk
      rcases (hkeys key).1 hk with hk | ⟨f, -, rfl⟩
      · exact Or.inl hk
      · exact Or.inr (isGpuKey_gpuKey i f)
    · intro t ht
      rcases List.mem_append.1 ht with ht | ht
      · exact Or.inl ht
      · rw [List.mem_singleton.1 ht, hrow.index]
        exact Or.inr fun f hf => (hkeys _).2 (Or.inr ⟨f, hf, rfl⟩)

/-- The element at position `j` is the first row of its index, and its normal form is kept. -/
def KeptAt (vs : List (Option GpuRow)) (j : ℕ) (rows : List (GpuSample Number)) : Prop :=
  ∃ row s, vs[j]? = some (some row) ∧ RowOf s.index row s ∧ rowIndex (some row) = some s.index ∧
    (∀ i < j, ∀ v, vs[i]? = some v → rowIndex v ≠ some s.index) ∧ s ∈ rows

/-- What the loop notes. -/
structure LoopNotes (k : ℕ) (vs : List (Option GpuRow)) (n : List (GpuSample Number))
    (r : Dict String) (n' : List (GpuSample Number)) (r' : Dict String) : Prop where
  keeps : ∀ key, key ∈ r → key ∈ r'
  adds : ∀ key, key ∈ r' → key ∈ r ∨ IsGpuKey key
  grows : ∀ s ∈ n, s ∈ n'
  fields : ∀ s ∈ n', s ∈ n ∨ ∀ f, s.measurement f = none → gpuKey s.index f ∈ r'
  positions : ∀ j < vs.length, (∃ key ∈ positionKeys (k + j), key ∈ r') ∨
    ∃ row s, vs[j]? = some (some row) ∧ RowOf s.index row s ∧ rowIndex (some row) = some s.index ∧
      (∀ q ∈ n, q.index ≠ s.index) ∧
      (∀ i < j, ∀ v, vs[i]? = some v → rowIndex v ≠ some s.index) ∧ s ∈ n'

/-- One turn, and the turns after it. -/
theorem LoopNotes.cons {k : ℕ} {v : Option GpuRow} {vs : List (Option GpuRow)}
    {n n₁ n' : List (GpuSample Number)} {r r₁ r' : Dict String} (hturn : Noted k v n r n₁ r₁)
    (hadm : Admit n v n₁) (hrest : LoopNotes (k + 1) vs n₁ r₁ n' r') :
    LoopNotes k (v :: vs) n r n' r' := by
  obtain ⟨hkeep, hadd, hfield⟩ := hturn.admit
  constructor
  · exact fun key hk => hrest.keeps key (hkeep key hk)
  · intro key hk
    rcases hrest.adds key hk with hk | hk
    · exact hadd key hk
    · exact Or.inr hk
  · intro s hs
    refine hrest.grows s ?_
    cases hturn with
    | dropped _ => exact hs
    | kept _ _ _ _ _ => exact List.mem_append_left _ hs
  · intro s hs
    rcases hrest.fields s hs with hs | hs
    · rcases hfield s hs with hs | hs
      · exact Or.inl hs
      · exact Or.inr fun f hf => hrest.keeps _ (hs f hf)
    · exact Or.inr hs
  · intro j hj
    cases j with
    | zero =>
      cases hturn with
      | @dropped key _ hpos =>
        exact Or.inl ⟨key, hpos, hrest.keeps key ((Dict.mem_set _ _ _).2 (Or.inl rfl))⟩
      | @kept row i s _ hrow hi hnew hs hkeys =>
        subst hrow
        obtain rfl := hs.index
        refine Or.inr ⟨row, s, rfl, hs, hi, hnew, fun i hi => absurd hi (Nat.not_lt_zero i), ?_⟩
        exact hrest.grows s (List.mem_append_right _ (List.mem_singleton_self s))
    | succ j =>
      rcases hrest.positions j (Nat.lt_of_succ_lt_succ hj) with
        ⟨key, hpos, hk⟩ | ⟨row, s, hat, hs, hi, hnew, hfirst, hmem⟩
      · exact Or.inl ⟨key, by rwa [Nat.add_succ, ← Nat.succ_add], hk⟩
      · obtain ⟨hnew', hne⟩ := (hadm.index_iff s.index).1 hnew
        refine Or.inr ⟨row, s, hat, hs, hi, hnew', ?_, hmem⟩
        intro m hm w hw
        cases m with
        | zero => cases hw; exact hne
        | succ m => exact hfirst m (Nat.lt_of_succ_lt_succ hm) w hw

/-- **The notes of the loop over the rows.** -/
theorem normalizeGpuValues_notes {k : ℕ} {vs : List (Option GpuRow)}
    {n n' : List (GpuSample Number)} {r r' : Dict String}
    (h : normalizeGpuValues k vs n r = .ok (n', r')) : LoopNotes k vs n r n' r' := by
  induction vs generalizing k n r with
  | nil =>
    obtain ⟨rfl, rfl⟩ := Prod.mk.inj (pure_eq_ok.1 h)
    exact ⟨fun _ hk => hk, fun _ hk => Or.inl hk, fun _ hs => hs, fun _ hs => Or.inl hs,
      fun j hj => absurd hj (Nat.not_lt_zero j)⟩
  | cons v vs ih =>
    simp only [normalizeGpuValues, bind_eq_ok] at h
    obtain ⟨⟨n₁, r₁⟩, hv, h⟩ := h
    exact (ih h).cons (normalizeGpuValue_noted hv) (normalizeGpuValue_ok.1 ⟨r₁, hv⟩)

/-! ## The whole snapshot -/

/-- A record that could not be read, or is malformed, is replaced by its default. -/
theorem readValue_default {T : Type} {fn : Except Exn (Option T)} {d : T}
    (h : (∃ e, fn = .error e) ∨ readValue fn (some d) = none) :
    (readValue fn (some d)).getD d = d := by
  rcases h with ⟨e, rfl⟩ | h
  · rfl
  · rw [h]; rfl

/-- A host field that the reads note is read as `UNSUPPORTED`. -/
theorem boundaryNotes_name {b : Boundary} {f : HostField} (h : f.name ∈ boundaryNotes b) :
    b.host.value f = .ok .unsupported := by
  simp only [boundaryNotes, mem_readNote, mem_malformedNote] at h
  have hclock : f.name ∉ (timestampOf b.clocks ∅).2 := by
    intro hmem
    rcases mem_timestampOf hmem with hmem | hmem
    · simp at hmem
    · cases f <;> exact absurd hmem (by decide)
  simp only [hclock, false_or] at h
  cases f with
  | cpuPercent =>
    obtain ⟨e, he⟩ : ∃ e, b.host.cpuPercent = .error e := by
      simpa [HostField.name, memoryFields, diskFields] using h
    simp [HostReader.value, readValue, he]
  | loadAverage1m =>
    obtain ⟨e, he⟩ : ∃ e, b.host.loadAverage1m = .error e := by
      simpa [HostField.name, memoryFields, diskFields] using h
    simp [HostReader.value, readValue, he]
  | cpuTemperatureC =>
    obtain ⟨e, he⟩ : ∃ e, b.host.cpuTemperature = .error e := by
      simpa [HostField.name, memoryFields, diskFields] using h
    simp [HostReader.value, readValue, he]
  | processRssBytes =>
    obtain ⟨e, he⟩ : ∃ e, b.host.processRssBytes = .error e := by
      simpa [HostField.name, memoryFields, diskFields] using h
    simp [HostReader.value, readValue, he]
  | diskReadBytesPerSec | diskWriteBytesPerSec =>
    have hdisk : (readValue b.host.diskThroughput (some emptyDisk)).getD emptyDisk = emptyDisk :=
      readValue_default (by simpa [HostField.name, memoryFields, diskFields] using h)
    simp only [HostReader.value, hdisk]; rfl
  | ramUsedBytes | ramAvailableBytes | ramTotalBytes =>
    have hmemory : (readValue b.host.memory (some emptyMemory)).getD emptyMemory = emptyMemory :=
      readValue_default (by simpa [HostField.name, memoryFields, diskFields] using h)
    simp only [HostReader.value, hmemory]; rfl

/-- The boundary hands back stored values, each integer within the range of a
    double, iterable throttle reasons, and ordinary dictionaries. -/
structure Orderly (b : Boundary) : Prop where
  host : ∀ f, ∃ v, b.host.value f = .ok v ∧ Fits v
  index : ∀ row, some row ∈ b.gpu.rows → ∃ v, row.index = .ok v ∧ Fits v
  measurement : ∀ row, some row ∈ b.gpu.rows → ∀ f, ∃ v, row.measurement f = .ok v ∧ Fits v
  uuid : ∀ row, some row ∈ b.gpu.rows → Returns row.uuid
  throttleReasons : ∀ row, some row ∈ b.gpu.rows → Returns row.throttleReasons
  available : ∀ row, some row ∈ b.gpu.rows → Returns row.throttleReasonsAvailable
  hostReasons : b.host.unavailableReasons.Unpacks
  gpuReasons : b.gpu.unavailableReasons.Unpacks

/-- An integer that fits a double can be printed. -/
theorem printable_of_fits {n : ℤ} (h : Fits (.num (.int n))) : Printable n := by
  have hlimit : doubleLimit ≤ 10 ^ maxStrDigits := by decide +kernel
  exact Nat.lt_of_lt_of_le h hlimit

theorem Orderly.tolerated {b : Boundary} (h : Orderly b) : Tolerated b := by
  refine ⟨h.host, ⟨?_, ?_⟩, h.hostReasons, h.gpuReasons⟩
  · intro row hrow
    obtain ⟨v, hv, -⟩ := h.index row hrow
    exact ⟨v, hv⟩
  · intro i row hown
    obtain ⟨hmem, hi⟩ := owner_eq_some hown
    refine ⟨h.measurement row hmem, fun _ => ?_, h.uuid row hmem, h.throttleReasons row hmem,
      h.available row hmem⟩
    obtain ⟨v, hv, hfit⟩ := h.index row hmem
    rw [rowIndex_of_ok hv] at hi
    unfold validIndex at hi
    split at hi
    · split_ifs at hi
      cases hi; exact printable_of_fits hfit
    · cases hi

/-- The diagnostics of `gpus`, `live` and the readers are all there. -/
theorem mem_finishNotes {live : HostField → Measurement Number} {gpus : List (GpuSample Number)}
    {hostReasons gpuReasons : List (String × String)} {r : Dict String} :
    key ∈ finishNotes live gpus hostReasons gpuReasons r ↔
      key ∈ r ∨ (∃ f, live f = none ∧ f.name = key) ∨
        (∃ p ∈ hostReasons, p.1 ∈ HostField.all.map HostField.name ∧ p.1 = key) ∨
        (∃ p ∈ gpuReasons, p.1 = key) ∨ (gpus = [] ∧ "gpu" = key) := by
  unfold finishNotes
  by_cases hg : gpus = []
  · simp only [hg, if_true, Dict.mem_setdefault, Dict.mem_update, mem_markUnsupported,
      List.mem_filter, decide_eq_true_eq, true_and, and_assoc]
    rw [or_comm]
    simp only [or_assoc]
  · simp only [hg, if_false, Dict.mem_update, mem_markUnsupported, List.mem_filter,
      decide_eq_true_eq, false_and, or_false, and_assoc]
    simp only [or_assoc]

/-- **The diagnostics of a snapshot are complete**, and for a host reader without
    reasons of its own and a GPU reader whose reasons are about GPUs they name a
    host field only if it is unsupported. -/
theorem diagnostics_complete (c : TelemetryCollector) {b : Boundary} (hb : Orderly b) :
    (∀ f, (c.snapshot b).1.host f = none → f.name ∈ (c.snapshot b).1.unavailableReasons) ∧
    (∀ s ∈ (c.snapshot b).1.gpus, ∀ f, s.measurement f = none →
      gpuKey s.index f ∈ (c.snapshot b).1.unavailableReasons) ∧
    (∀ j < b.gpu.rows.length, KeptAt b.gpu.rows j (c.snapshot b).1.gpus ∨
      ∃ key ∈ positionKeys j, key ∈ (c.snapshot b).1.unavailableReasons) ∧
    ((c.snapshot b).1.gpus = [] → "gpu" ∈ (c.snapshot b).1.unavailableReasons) ∧
    (b.host.unavailableReasons = .absent →
      (∀ reasons, readerReasons b.gpu.unavailableReasons = .ok reasons →
        ∀ p ∈ reasons, IsGpuKey p.1) →
      ∀ f, f.name ∈ (c.snapshot b).1.unavailableReasons → (c.snapshot b).1.host f = none) := by
  obtain ⟨x, hx⟩ := returns_collect.2 hb.tolerated
  have hsnap : (c.snapshot b).1 = x := by rw [TelemetryCollector.snapshot, hx]
  obtain ⟨n, r, hr, gr, hloop, hgpus, hhr, hgr, hreasons⟩ := (collect_spec hx).2
  have hnotes := normalizeGpuValues_notes hloop
  have hmem : ∀ key, key ∈ x.unavailableReasons ↔ key ∈ finishNotes x.host x.gpus hr gr r := by
    intro key
    rw [TelemetrySnapshot.unavailableReasons, hreasons, Dict.ofItems_sortedItems]
  rw [hsnap]
  refine ⟨?_, ?_, ?_, ?_, ?_⟩
  · intro f hf
    exact (hmem _).2 (mem_finishNotes.2 (Or.inr (Or.inl ⟨f, hf, rfl⟩)))
  · intro s hs f hf
    rcases hnotes.fields s ((hgpus s).1 hs) with hs | hs
    · cases hs
    · exact (hmem _).2 (mem_finishNotes.2 (Or.inl (hs f hf)))
  · intro j hj
    rcases hnotes.positions j hj with ⟨key, hpos, hk⟩ | ⟨row, s, hat, hs, hi, -, hfirst, hsn⟩
    · rw [Nat.zero_add] at hpos
      exact Or.inr ⟨key, hpos, (hmem _).2 (mem_finishNotes.2 (Or.inl hk))⟩
    · exact Or.inl ⟨row, s, hat, hs, hi, hfirst, (hgpus s).2 hsn⟩
  · intro hg
    exact (hmem _).2 (mem_finishNotes.2 (Or.inr (Or.inr (Or.inr (Or.inr ⟨hg, rfl⟩)))))
  · intro habs hkeys f hf
    have hnot := not_isGpuKey_name f
    rw [habs] at hhr
    cases hhr
    rcases mem_finishNotes.1 ((hmem _).1 hf) with hk | ⟨g, hg, hname⟩ | ⟨p, hp, -⟩ |
      ⟨p, hp, hname⟩ | ⟨-, hname⟩
    · rcases hnotes.adds _ hk with hk | hk
      · have hvalue := (collect_ok hx).host f
        rw [HostReader.measurement, boundaryNotes_name hk] at hvalue
        exact (Except.ok.inj hvalue).symm
      · exact absurd hk hnot
    · have hfg : g = f := by revert hname; cases g <;> cases f <;> simp [HostField.name]
      rw [← hfg]; exact hg
    · cases hp
    · exact absurd (hname ▸ hkeys gr hgr p hp) hnot
    · exact absurd (Or.inl hname.symm) hnot

/-- A host whose memory cannot be read, and a GPU reader that samples something else. -/
def unreadableMemory : Boundary where
  clocks := ⟨.ok (some fallbackInstant), .ok none, .ok none, fun us => .ok us⟩
  host := {
    cpuPercent := .ok (.num (.float (.finite 50)))
    loadAverage1m := .ok .unsupported
    memory := .error ⟨"OSError"⟩
    cpuTemperature := .ok .none
    diskThroughput := .ok none
    processRssBytes := .ok (.bool true)
    unavailableReasons := .absent }
  gpu := { sample := .ok [none], unavailableReasons := .raises ⟨"OSError"⟩ }

theorem orderly_unreadableMemory : Orderly unreadableMemory where
  host f := by cases f <;> exact ⟨_, rfl, trivial⟩
  index row h := by cases List.mem_singleton.1 h
  measurement row h := by cases List.mem_singleton.1 h
  uuid row h := by cases List.mem_singleton.1 h
  throttleReasons row h := by cases List.mem_singleton.1 h
  available row h := by cases List.mem_singleton.1 h
  hostReasons := by rintro _ ⟨⟩
  gpuReasons := by rintro _ ⟨⟩

/-- Its diagnostics name the memory fields, and not the processor. -/
theorem diagnostics_complete_memory :
    "ram_used_bytes" ∈ ((TelemetryCollector.mk ∅).snapshot unreadableMemory).1.unavailableReasons ∧
      "cpu_percent" ∉
        ((TelemetryCollector.mk ∅).snapshot unreadableMemory).1.unavailableReasons := by
  obtain ⟨hnamed, -, -, -, hexact⟩ :=
    diagnostics_complete (TelemetryCollector.mk ∅) orderly_unreadableMemory
  obtain ⟨x, hx⟩ := returns_collect.2 orderly_unreadableMemory.tolerated
  have hsnap : ((TelemetryCollector.mk ∅).snapshot unreadableMemory).1 = x := by
    rw [TelemetryCollector.snapshot, hx]
  rw [hsnap] at hnamed hexact ⊢
  constructor
  · have hram : unreadableMemory.host.measurement .ramUsedBytes = .ok none := rfl
    rw [(collect_ok hx).host] at hram
    exact hnamed .ramUsedBytes (Except.ok.inj hram)
  · intro hcpu
    have hnone := hexact rfl (by rintro _ ⟨⟩; rintro _ ⟨⟩) .cpuPercent hcpu
    have hvalue : unreadableMemory.host.measurement .cpuPercent =
        .ok (some (.float (.finite 50))) := by decide +kernel
    rw [(collect_ok hx).host, hnone] at hvalue
    cases hvalue

end SweatMeter
