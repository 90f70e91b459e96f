/-
  Which reasons outlive the layers above them.

  A layer overwrites the reasons of the keys it notes itself and leaves the
  others; marking what is unsupported overwrites nothing.  So what a failed read
  has noted under a field of the host is still there in the end, unless a
  reader's own mapping replaces it.
-/
import SweatMeter.ProfileDiagnostics

namespace SweatMeter

open Py

/-- The reason under this key, if there is one, is still the same. -/
def Outlives (key : String) (r r' : Dict String) : Prop := ∀ v, r[key]? = some v → r'[key]? = some v

variable {key : String}

theorem Outlives.refl (r : Dict String) : Outlives key r r := fun _ h => h

theorem Outlives.trans {r s t : Dict String} (h1 : Outlives key r s) (h2 : Outlives key s t) :
    Outlives key r t := fun v h => h2 v (h1 v h)

theorem outlives_set {a : String} (reason : String) (h : a ≠ key) (r : Dict String) :
    Outlives key r (r.set a reason) := by
  intro v hv
  rwa [Dict.getElem?_set_of_ne _ _ h]

/-- What outlives, and is not new, is the same. -/
theorem Outlives.getElem?_eq {r r' : Dict String} (h : Outlives key r r')
    (hnew : key ∈ r' → key ∈ r) : r'[key]? = r[key]? := by
  cases hr : r[key]? with
  | some reason => exact h reason hr
  | none =>
    refine Std.ExtTreeMap.getElem?_eq_none fun hmem => ?_
    have hold := hnew hmem
    rw [Std.ExtTreeMap.mem_iff_isSome_getElem?, hr] at hold
    cases hold

theorem outlives_setdefault (a reason : String) (r : Dict String) :
    Outlives key r (r.setdefault a reason) :=
  fun _ h => Dict.getElem?_setdefault_of_some _ a reason h

/-! ## The reads -/

theorem getElem?_foldl_set {fields : List String} {reason : String} {r : Dict String} :
    (fields.foldl (fun r f => r.set f reason) r)[key]? =
      if key ∈ fields then some reason else r[key]? := by
  induction fields generalizing r with
  | nil => simp
  | cons f fields ih =>
    rw [List.foldl_cons, ih, Dict.getElem?_set]
    by_cases hmem : key ∈ fields
    · simp [hmem]
    · simp [hmem, eq_comm]

/-- What a guarded read has noted under a key, or left there. -/
theorem getElem?_readNote {T : Type} {fn : Except Exn T} {fields : List String} {r : Dict String} :
    (readNote fn fields r)[key]? =
      match fn with
      | .ok _ => r[key]?
      | .error _ => if key ∈ fields then some "reader_error" else r[key]? := by
  cases fn with
  | ok v => rfl
  | error e => exact getElem?_foldl_set

theorem outlives_timestampOf (c : Clocks) (h : key ≠ "timestamp") (r : Dict String) :
    Outlives key r (timestampOf c r).2 := by
  intro v hv
  have hread : (readNote c.clock ["timestamp"] r)[key]? = some v := by
    rw [getElem?_readNote]
    cases c.clock with
    | ok value => exact hv
    | error e => simpa [h] using hv
  unfold timestampOf
  rw [read_eq]
  dsimp only
  split
  · exact hread
  · rwa [Dict.getElem?_set_of_ne _ _ (Ne.symm h)]

/-! ## Marking -/

theorem outlives_foldl {α : Type} {step : Dict String → α → Dict String}
    (h : ∀ r a, Outlives key r (step r a)) (l : List α) (r : Dict String) :
    Outlives key r (l.foldl step r) := by
  induction l generalizing r with
  | nil => exact Outlives.refl r
  | cons a l ih => exact (h r a).trans (ih (step r a))

theorem outlives_markUnsupported (live : HostField → Measurement Number) (reason : String)
    (r : Dict String) : Outlives key r (markUnsupported live reason r) := by
  refine outlives_foldl ?_ _ r
  intro r f
  split_ifs
  · exact outlives_setdefault _ _ r
  · exact Outlives.refl r

theorem getElem?_markUnsupported (live : HostField → Measurement Number) (reason : String)
    (r : Dict String) (f : HostField) : (markUnsupported live reason r)[f.name]? =
      r[f.name]?.or (if live f = none then some reason else none) := by
  have hfold : ∀ fs : List HostField, ∀ r : Dict String, (fs.foldl (fun r g =>
      if (live g).isNone then r.setdefault g.name reason else r) r)[f.name]? =
        r[f.name]?.or (if f ∈ fs ∧ live f = none then some reason else none) := by
    intro fs
    induction fs with
    | nil => simp
    | cons g fs ih =>
      intro r
      rw [List.foldl_cons, ih]
      by_cases hg : g = f
      · subst hg
        cases hlive : live g with
        | some x => simp
        | none =>
          have hset := Dict.getElem?_setdefault (k := g.name) r g.name reason
          rw [if_pos rfl] at hset
          rw [Option.isNone_none, if_pos rfl, hset]
          cases r[g.name]? <;> simp
      · have hname : g.name ≠ f.name := by
          revert hg
          cases g <;> cases f <;> simp [HostField.name]
        have hf : f ≠ g := fun h => hg h.symm
        cases hlive : live g with
        | some x => simp [hf]
        | none => simp only [Option.isNone_none, if_true, Dict.getElem?_setdefault_of_ne r _ hname,
            List.mem_cons, hf, false_or]
  rw [markUnsupported, hfold]
  simp [HostField.mem_all]

theorem outlives_markMissing {T : Type} (values : List (String × Option T)) (reason : String)
    (r : Dict String) : Outlives key r (markMissing values reason r) := by
  refine outlives_foldl ?_ _ r
  intro r p
  split_ifs
  · exact outlives_setdefault _ _ r
  · exact Outlives.refl r

/-! ## The loops over the GPUs -/

theorem outlives_gpuMeasurements {i : ℤ} {row : GpuRow} {fs : List GpuField}
    {m : GpuField → Measurement Number} {r r' : Dict String}
    (h : gpuMeasurements i row fs r = .ok (m, r')) : Outlives key r r' := by
  induction fs generalizing m r with
  | nil => cases pure_eq_ok.1 h; exact Outlives.refl _
  | cons f fs ih =>
    simp only [gpuMeasurements, bind_eq_ok] at h
    obtain ⟨v, -, x, -, r₁, hr₁, ⟨rest, r₂⟩, hrest, h⟩ := h
    obtain ⟨-, rfl⟩ := Prod.mk.inj (pure_eq_ok.1 h)
    refine Outlives.trans ?_ (ih hrest)
    cases x with
    | some x => cases hr₁; exact Outlives.refl r
    | none =>
      obtain ⟨text, -, hr₁⟩ := bind_eq_ok.1 hr₁
      cases hr₁
      exact outlives_setdefault _ _ r

/-- One turn overwrites the keys of its position only. -/
theorem outlives_turn {k : ℕ} {v : Option GpuRow} {n n' : List (GpuSample Number)}
    {r r' : Dict String} (hposition : ∀ a ∈ positionKeys k, a ≠ key)
    (h : normalizeGpuValue k v n r = .ok (n', r')) : Outlives key r r' := by
  cases v with
  | none =>
    obtain ⟨-, rfl⟩ := Prod.mk.inj (pure_eq_ok.1 h)
    exact outlives_set _ (hposition _ List.mem_cons_self) r
  | some row =>
    have hindex : s!"gpu.sample.{k}.index" ≠ key :=
      hposition _ (List.mem_cons_of_mem _ List.mem_cons_self)
    obtain ⟨o, -, h⟩ := bind_eq_ok.1 h
    split at h
    · obtain ⟨-, rfl⟩ := Prod.mk.inj (pure_eq_ok.1 h)
      exact outlives_set _ hindex r
    · split_ifs at h
      · obtain ⟨-, rfl⟩ := Prod.mk.inj (pure_eq_ok.1 h)
        exact outlives_set _ hindex r
      · obtain ⟨⟨s, r₁⟩, hrow, h⟩ := bind_eq_ok.1 h
        obtain ⟨-, rfl⟩ := Prod.mk.inj (pure_eq_ok.1 h)
        simp only [normalizeGpuRow, bind_eq_ok] at hrow
        obtain ⟨⟨m, r₂⟩, hm, u, -, t, -, a, -, hrow⟩ := hrow
        obtain ⟨-, rfl⟩ := Prod.mk.inj (pure_eq_ok.1 hrow)
        exact outlives_gpuMeasurements hm

theorem outlives_normalizeGpuValue {k : ℕ} {v : Option GpuRow} {n n' : List (GpuSample Number)}
    {r r' : Dict String} (hkey : ¬ IsGpuKey key) (h : normalizeGpuValue k v n r = .ok (n', r')) :
    Outlives key r r' := by
  refine outlives_turn ?_ h
  rintro a ha rfl
  exact hkey (isGpuKey_positionKeys ha)

theorem outlives_normalizeGpuValues {k : ℕ} {vs : List (Option GpuRow)}
    {n n' : List (GpuSample Number)} {r r' : Dict String} (hkey : ¬ IsGpuKey key)
    (h : normalizeGpuValues k vs n r = .ok (n', r')) : Outlives key r r' := by
  induction vs generalizing k n r with
  | nil =>
    obtain ⟨-, rfl⟩ := Prod.mk.inj (pure_eq_ok.1 h)
    exact Outlives.refl r
  | cons v vs ih =>
    obtain ⟨⟨n₁, r₁⟩, hv, h⟩ := bind_eq_ok.1 h
    exact (outlives_normalizeGpuValue hkey hv).trans (ih h)

/-- The notes of the loop over the rows are about GPUs. -/
theorem getElem?_normalizeGpuValues {k : ℕ} {vs : List (Option GpuRow)}
    {n n' : List (GpuSample Number)} {r r' : Dict String} (hkey : ¬ IsGpuKey key)
    (h : normalizeGpuValues k vs n r = .ok (n', r')) : r'[key]? = r[key]? := by
  refine (outlives_normalizeGpuValues hkey h).getElem?_eq fun hmem => ?_
  exact ((normalizeGpuValues_notes h).adds key hmem).resolve_right hkey

variable {F : Type} {core : BaseAiCore F}

theorem outlives_normalizeProfileValues {k : ℕ} {values : List (Option GpuProfileObject)}
    {n n' : List VendorGpuProfile} {r r' : Dict String} (hkey : ¬ IsGpuKey key)
    (h : normalizeProfileValues core k values n r = .ok (n', r')) : Outlives key r r' := by
  induction values generalizing k n r with
  | nil =>
    obtain ⟨-, rfl⟩ := Prod.mk.inj (pure_eq_ok.1 h)
    exact Outlives.refl r
  | cons value values ih =>
    obtain ⟨⟨n₁, r₁⟩, hv, h⟩ := bind_eq_ok.1 h
    refine Outlives.trans ?_ (ih h)
    rcases normalizeProfileValue_notes hv with ⟨o, -, -, -, rfl⟩ | ⟨-, -, a, reason, ha, rfl⟩
    · exact Outlives.refl _
    · refine outlives_set reason ?_ r
      rintro rfl
      exact hkey ha

/-! ## The diagnostics of a snapshot -/

/-- The readers report nothing of their own. -/
def ReasonSurface.Silent (s : ReasonSurface) : Prop := readerReasons s = .ok []

/-- What the reads have noted under a host field is the reason in the snapshot, if
    the readers report nothing of their own. -/
theorem collect_reason {b : Boundary} {x : TelemetrySnapshot Number} (h : collect b = .ok x)
    (hhost : b.host.unavailableReasons.Silent) (hgpu : b.gpu.unavailableReasons.Silent)
    {f : HostField} {reason : String} (hnote : (boundaryNotes b)[f.name]? = some reason) :
    x.unavailableReasons[f.name]? = some reason := by
  obtain ⟨-, n, r, hr, gr, hloop, -, hhr, hgr, hreasons⟩ := collect_spec h
  rw [hhost] at hhr
  rw [hgpu] at hgr
  cases hhr
  cases hgr
  have hrows := outlives_normalizeGpuValues (not_isGpuKey_name f) hloop reason hnote
  have hmark := outlives_markUnsupported x.host "sensor_unsupported" r reason hrows
  rw [TelemetrySnapshot.unavailableReasons, hreasons, Dict.ofItems_sortedItems]
  unfold finishNotes
  simp only [List.filter_nil]
  split_ifs
  · exact outlives_setdefault _ _ _ reason hmark
  · exact hmark

/-- **The reason of a host field**, next to a GPU reader whose reasons are about GPUs, is
    what the reads have noted, and else that it is unsupported. -/
theorem collect_host_reason {b : Boundary} {x : TelemetrySnapshot Number} (h : collect b = .ok x)
    (hhost : b.host.unavailableReasons.Silent)
    (hgpu : ∀ gr, readerReasons b.gpu.unavailableReasons = .ok gr → ∀ p ∈ gr, IsGpuKey p.1)
    (f : HostField) : x.unavailableReasons[f.name]? = (boundaryNotes b)[f.name]?.or
      (if x.host f = none then some "sensor_unsupported" else none) := by
  obtain ⟨-, n, r, hr, gr, hloop, -, hhr, hgr, hreasons⟩ := collect_spec h
  rw [hhost] at hhr
  cases hhr
  have hupdate (d : Dict String) : (d.update gr)[f.name]? = d[f.name]? := by
    refine Dict.getElem?_update_of_ne d ?_
    intro p hp hname
    exact not_isGpuKey_name f (hname ▸ hgpu gr hgr p hp)
  have hdefault (d : Dict String) : (d.setdefault "gpu" "no_gpus")[f.name]? = d[f.name]? := by
    refine Dict.getElem?_setdefault_of_ne d _ ?_
    intro hname
    exact not_isGpuKey_name f (.inl hname.symm)
  rw [TelemetrySnapshot.unavailableReasons, hreasons, Dict.ofItems_sortedItems, finishNotes,
    ← getElem?_normalizeGpuValues (not_isGpuKey_name f) hloop, ← getElem?_markUnsupported]
  simp only [List.filter_nil]
  split_ifs
  · rw [hdefault, hupdate]
    rfl
  · rw [hupdate]
    rfl

/-- What the reads have noted under a key that is not about the GPUs or the clock
    is the reason after the profile, if the readers report nothing of their own. -/
theorem assemble_reason {b : ProfileBoundary} {p : MachineProfile F} {r : Dict String}
    (h : assemble core b = .ok (p, r)) (hhost : b.hostReasons.Silent) (hgpu : b.gpuReasons.Silent)
    (hkey : ¬ IsGpuKey key) (htime : key ≠ "timestamp") {reason : String}
    (hnote : b.readNotes[key]? = some reason) : r[key]? = some reason := by
  obtain ⟨-, -, r₁, hr, gr, hloop, hhr, hgr, rfl⟩ := assemble_ok.1 h
  rw [hhost] at hhr
  rw [hgpu] at hgr
  cases hhr
  cases hgr
  have hrows := outlives_normalizeProfileValues hkey hloop reason hnote
  have hclock := outlives_timestampOf b.clocks htime r₁ reason hrows
  have hmarked : (b.marked r₁)[key]? = some reason :=
    outlives_markMissing _ _ _ reason (outlives_markMissing _ _ _ reason hclock)
  rw [Dict.ofItems_sortedItems]
  unfold ProfileBoundary.finish ProfileBoundary.reported
  simp only [List.filter_nil, List.append_nil]
  split_ifs
  · exact outlives_setdefault _ _ _ reason hmarked
  · exact hmarked

end SweatMeter
