/-
  Initialization and shutdown of NVML.

  `_ready` marks the reader initialized after a successful `nvmlInit`, `close`
  clears the mark before it attempts `nvmlShutdown`.  `readyTraced` and
  `closeTraced` are the two functions with the calls they make of these two
  names; along every run the calls match (`Matched`), whichever of them fail.
-/
import SweatMeter.Lts
import SweatMeter.NvmlSample

namespace SweatMeter

open Py

/-- A call of one of the two names, and whether `nvmlInit` succeeded. -/
inductive LibraryCall where
  | init (ok : Bool)
  | shutdown
  deriving DecidableEq

/-- The operations of a reader. -/
inductive NvmlOperation where
  | available
  | sample
  | staticInfo
  | close
  deriving DecidableEq

/-- Both names are there and callable. -/
structure NvmlBinding.Balanceable (B : NvmlBinding) : Prop where
  init : ∃ run, B.function .nvmlInit = .callable run
  shutdown : ∃ run, B.function .nvmlShutdown = .callable run

/-- `nvmlInit()` returns. -/
def NvmlBinding.initSucceeds (B : NvmlBinding) : Bool :=
  match B.function .nvmlInit with
  | .callable run => match run {} with
    | .ok _ => true
    | .error _ => false
  | _ => false

/-- The binding without the two names. -/
def NvmlBinding.without (B : NvmlBinding) : NvmlBinding where
  function
    | .nvmlInit | .nvmlShutdown => .absent
    | f => B.function f
  constant := B.constant

theorem overDevices_without {T : Type} (B : NvmlBinding) (body : ℕ → String → Diagnosed T)
    (ds : List ℕ) : overDevices B.without body ds = overDevices B body ds := by
  induction ds with
  | nil => rfl
  | cons d ds ih => rw [overDevices, overDevices, ih]; rfl

/-- What the collecting operations do with a binding that is ready calls neither name. -/
theorem operations_without (construct : GpuProfile → Except Exn Unit) (B : NvmlBinding) :
    deviceCount B.without = deviceCount B ∧ sampleAll B.without = sampleAll B ∧
      profileAll construct B.without = profileAll construct B := by
  refine ⟨rfl, ?_, ?_⟩
  · simp only [sampleAll, overDevices_without]; rfl
  · simp only [profileAll, overDevices_without]; rfl

namespace NvmlGpuReader

variable (r : NvmlGpuReader) (c : NvmlCall)

/-- `_ready`, with its calls of `nvmlInit`. -/
def readyTraced : (Bool × NvmlGpuReader) × List LibraryCall :=
  match r.loaded, c.load with
  | false, .error e =>
    let reason := if e.name = "DependencyUnavailableError" then "pynvml_not_installed"
      else "nvml_error"
    ((false, { r with reasons := (∅ : Dict String).set "gpu" reason }), [])
  | _, _ =>
    let r : NvmlGpuReader := { r with loaded := true, reasons := ∅ }
    if r.initialized then ((true, r), [])
    else match c.binding.function .nvmlInit with
      | .absent | .notCallable =>
        ((false, { r with reasons := r.reasons.set "gpu" "nvml_binding_incomplete" }), [])
      | .callable run => match run {} with
        | .error e =>
          ((false, { r with reasons := r.reasons.set "gpu" (errorReason e) }), [.init false])
        | .ok _ => ((true, { r with initialized := true }), [.init true])

/-- `close`, with its calls of `nvmlShutdown`. -/
def closeTraced : (Except Exn Unit × NvmlGpuReader) × List LibraryCall :=
  let (loaded, initialized) := (r.loaded, r.initialized)
  let r : NvmlGpuReader := { r with initialized := false }
  if loaded && initialized then
    let x := shutdown c.binding
    ((x.outcome, { r with reasons := x.log r.reasons }),
      match c.binding.function .nvmlShutdown with
      | .callable _ => [.shutdown]
      | _ => [])
  else ((.ok (), r), [])

theorem readyTraced_erase : (r.readyTraced c).1 = r.ready c := by
  obtain ⟨loaded, initialized, reasons⟩ := r
  have hinit : ∀ load, (readyTraced ⟨true, initialized, reasons⟩ ⟨load, c.binding⟩).1 =
      ready ⟨true, initialized, reasons⟩ ⟨load, c.binding⟩ := by
    intro load
    cases initialized with
    | true => rfl
    | false =>
      simp only [readyTraced, ready, Bool.false_eq_true, if_false]
      cases c.binding.function .nvmlInit with
      | callable run => cases hrun : run {} <;> simp [hrun]
      | _ => rfl
  cases loaded with
  | true => exact hinit c.load
  | false =>
    obtain ⟨load, B⟩ := c
    cases load with
    | error e => rfl
    | ok _ => exact hinit (.ok ())

theorem closeTraced_erase : (r.closeTraced c).1 = r.close c := by
  unfold closeTraced close
  simp only
  split_ifs <;> rfl

variable (construct : GpuProfile → Except Exn Unit)

/-- The reader after an operation. -/
def after : NvmlOperation → NvmlGpuReader
  | .available => (r.available c).2
  | .sample => (r.sample c).2
  | .staticInfo => (r.staticInfo c construct).2
  | .close => (r.close c).2

/-- The calls of the two names an operation makes: the operations other than
    `close` make theirs in `_ready`. -/
def libraryCalls : NvmlOperation → List LibraryCall
  | .close => (r.closeTraced c).2
  | _ => (r.readyTraced c).2

/-- An operation leaves the reader as `_ready` left it, but for the diagnostics. -/
theorem operate_initialized {T : Type} (default : T) (operation : NvmlBinding → Diagnosed T) :
    (r.operate c default operation).2.loaded = (r.ready c).2.loaded ∧
      (r.operate c default operation).2.initialized = (r.ready c).2.initialized := by
  unfold operate
  split <;> rename_i h <;> rw [h] <;> exact ⟨rfl, rfl⟩

theorem after_collecting {op : NvmlOperation} (hop : op ≠ .close) :
    (r.after c construct op).loaded = (r.ready c).2.loaded ∧
      (r.after c construct op).initialized = (r.ready c).2.initialized := by
  cases op with
  | close => exact absurd rfl hop
  | _ => exact operate_initialized r c _ _

variable {r c}

/-- **What a collecting operation does to an injected binding.** -/
theorem collecting_spec (hl : r.loaded = true) (hc : c.binding.Balanceable) {op : NvmlOperation}
    (hop : op ≠ .close) :
    r.libraryCalls c op = (if r.initialized then [] else [.init c.binding.initSucceeds]) ∧
      (r.after c construct op).loaded = true ∧
      (r.after c construct op).initialized = (r.initialized || c.binding.initSucceeds) := by
  obtain ⟨run, hrun⟩ := hc.init
  obtain ⟨hloaded, hinit⟩ := after_collecting r c construct hop
  have hcalls : r.libraryCalls c op = (r.readyTraced c).2 := by
    cases op with
    | close => exact absurd rfl hop
    | _ => rfl
  obtain ⟨loaded, initialized, reasons⟩ := r
  cases hl
  rw [hcalls, hloaded, hinit]
  cases initialized with
  | true => simp [readyTraced, ready]
  | false =>
    cases hans : run {} with
    | error e => simp [readyTraced, ready, NvmlBinding.initSucceeds, hrun, hans]
    | ok v => simp [readyTraced, ready, NvmlBinding.initSucceeds, hrun, hans]

theorem close_spec (hl : r.loaded = true) (hc : c.binding.Balanceable) :
    r.libraryCalls c .close = (if r.initialized then [.shutdown] else []) ∧
      (r.after c construct .close).loaded = true ∧
      (r.after c construct .close).initialized = false := by
  obtain ⟨run, hrun⟩ := hc.shutdown
  obtain ⟨loaded, initialized, reasons⟩ := r
  cases hl
  cases initialized with
  | true => simp [libraryCalls, after, closeTraced, close, hrun]
  | false => simp [libraryCalls, after, closeTraced, close]

end NvmlGpuReader

/-! ## Matching calls -/

/-- The successful initializations less the attempted shutdowns. -/
def balance (calls : List LibraryCall) : ℤ :=
  (calls.count (.init true) : ℤ) - calls.count .shutdown

/-- The calls of a library that is initialized at the end or not: it is only
    initialized when it is not, and only shut down when it is. -/
inductive Matched : List LibraryCall → Bool → Prop
  | nil : Matched [] false
  | failed {calls} : Matched calls false → Matched (calls ++ [.init false]) false
  | init {calls} : Matched calls false → Matched (calls ++ [.init true]) true
  | shutdown {calls} : Matched calls true → Matched (calls ++ [.shutdown]) false

theorem Matched.balance_eq {calls : List LibraryCall} {b : Bool} (h : Matched calls b) :
    balance calls = if b then 1 else 0 := by
  induction h with
  | nil => rfl
  | failed _ ih => simpa [balance, List.count_append] using ih
  | init _ ih =>
    simp only [balance, List.count_append, Bool.false_eq_true, if_false] at ih ⊢
    simp; omega
  | shutdown _ ih =>
    simp only [balance, List.count_append, if_true] at ih ⊢
    simp; omega

/-- The balance a call is made at. -/
def LibraryCall.due : LibraryCall → ℤ
  | init _ => 0
  | shutdown => 1

/-- What the balance is at each call. -/
theorem Matched.balance_before {calls : List LibraryCall} {b : Bool} (h : Matched calls b)
    {pre post : List LibraryCall} {x : LibraryCall} (heq : calls = pre ++ x :: post) :
    balance pre = x.due := by
  induction h generalizing post with
  | nil => simp at heq
  | failed h ih =>
    rcases Lts.split_snoc heq with ⟨rfl, rfl, -⟩ | ⟨post', h'⟩
    · exact h.balance_eq
    · exact ih h'
  | init h ih =>
    rcases Lts.split_snoc heq with ⟨rfl, rfl, -⟩ | ⟨post', h'⟩
    · exact h.balance_eq
    · exact ih h'
  | shutdown h ih =>
    rcases Lts.split_snoc heq with ⟨rfl, rfl, -⟩ | ⟨post', h'⟩
    · exact h.balance_eq
    · exact ih h'

/-! ## Runs -/

/-- A reader with an injected binding: a label is an operation, and what it meets. -/
def nvmlLts (construct : GpuProfile → Except Exn Unit) :
    Lts NvmlGpuReader (NvmlOperation × NvmlCall) where
  init := { loaded := true }
  step r a := some (r.after a.2 construct a.1)

/-- The calls of `nvmlInit` and `nvmlShutdown` along a run. -/
def runCalls (construct : GpuProfile → Except Exn Unit) (as : List (NvmlOperation × NvmlCall)) :
    List LibraryCall :=
  (nvmlLts construct).record (fun r a calls => calls ++ r.libraryCalls a.2 a.1)
    (nvmlLts construct).init [] as

/-- **One operation keeps the calls matched.** -/
theorem matched_step {construct : GpuProfile → Except Exn Unit} {r : NvmlGpuReader}
    {c : NvmlCall} {calls : List LibraryCall} (hl : r.loaded = true) (hc : c.binding.Balanceable)
    (h : Matched calls r.initialized) (op : NvmlOperation) :
    Matched (calls ++ r.libraryCalls c op) (r.after c construct op).initialized := by
  by_cases hop : op = .close
  · subst hop
    obtain ⟨hcalls, -, hinit⟩ := NvmlGpuReader.close_spec construct hl hc
    rw [hcalls, hinit]
    cases hi : r.initialized with
    | true => rw [hi] at h; exact .shutdown h
    | false => rw [hi] at h; simpa using h
  · obtain ⟨hcalls, -, hinit⟩ := NvmlGpuReader.collecting_spec construct hl hc hop
    rw [hcalls, hinit]
    cases hi : r.initialized with
    | true => rw [hi] at h; simpa using h
    | false =>
      rw [hi] at h
      cases c.binding.initSucceeds with
      | true => exact .init h
      | false => exact .failed h

theorem matched_run {construct : GpuProfile → Except Exn Unit}
    {as : List (NvmlOperation × NvmlCall)} {r : NvmlGpuReader}
    (hc : ∀ a ∈ as, a.2.binding.Balanceable)
    (h : (nvmlLts construct).exec (nvmlLts construct).init as = some r) :
    r.loaded = true ∧ Matched (runCalls construct as) r.initialized := by
  refine Lts.record_inv_of_labels
    (P := fun (u : NvmlGpuReader) calls => u.loaded = true ∧ Matched calls u.initialized)
    ?_ hc ⟨rfl, .nil⟩ h
  rintro u ⟨op, c⟩ u' calls hcall ⟨hl, hm⟩ hstep
  cases hstep
  refine ⟨?_, matched_step hl hcall hm op⟩
  by_cases hop : op = .close
  · subst hop; exact (NvmlGpuReader.close_spec construct hl hcall).2.1
  · exact (NvmlGpuReader.collecting_spec construct hl hcall hop).2.1

/-- **NVML is initialized and shut down in turn.**  In every run over bindings
    with the two names callable, whatever calls fail: the successful
    initializations less the attempted shutdowns are one if the reader is marked
    initialized and none otherwise; `nvmlInit` is called at balance zero and
    `nvmlShutdown` at balance one; a further collecting operation initializes a
    reader that is not, as it is after a failed initialization and after `close`. -/
theorem nvml_balanced (construct : GpuProfile → Except Exn Unit)
    {as : List (NvmlOperation × NvmlCall)} {r : NvmlGpuReader}
    (hc : ∀ a ∈ as, a.2.binding.Balanceable)
    (h : (nvmlLts construct).exec (nvmlLts construct).init as = some r) :
    balance (runCalls construct as) = (if r.initialized then 1 else 0) ∧
      (∀ pre x post, runCalls construct as = pre ++ x :: post → balance pre = x.due) ∧
      ∀ c : NvmlCall, c.binding.Balanceable →
        (∀ op, op ≠ .close →
          r.libraryCalls c op = (if r.initialized then [] else [.init c.binding.initSucceeds]) ∧
          (r.after c construct op).initialized = (r.initialized || c.binding.initSucceeds)) ∧
        (r.after c construct .close).initialized = false := by
  obtain ⟨hl, hm⟩ := matched_run hc h
  refine ⟨hm.balance_eq, fun pre x post heq => hm.balance_before heq, fun c hcall => ⟨?_, ?_⟩⟩
  · intro op hop
    obtain ⟨hcalls, -, hinit⟩ := NvmlGpuReader.collecting_spec construct hl hcall hop
    exact ⟨hcalls, hinit⟩
  · exact (NvmlGpuReader.close_spec construct hl hcall).2.2

/-- A binding that answers only the two names, `nvmlInit` with this outcome. -/
def bareBinding (init : Except Exn NvmlObject) : NvmlBinding where
  function
    | .nvmlInit => .callable fun _ => init
    | .nvmlShutdown => .callable fun _ => .error ⟨"NVMLError_Uninitialized"⟩
    | _ => .notCallable
  constant _ := none

/-- A failed initialization, a retry, a failing `close` and a probe. -/
def retriedRun : List (NvmlOperation × NvmlCall) :=
  [(.sample, ⟨.ok (), bareBinding (.error ⟨"NVMLError"⟩)⟩),
    (.sample, ⟨.ok (), bareBinding (.ok .none)⟩), (.close, ⟨.ok (), bareBinding (.ok .none)⟩),
    (.available, ⟨.ok (), bareBinding (.ok .none)⟩)]

/-- A failed initialization is retried, and a failed shutdown still counts. -/
theorem nvml_balanced_retried : balance (runCalls (fun _ => .ok ()) retriedRun) = 1 := by
  have hc : ∀ init, (bareBinding init).Balanceable := fun init => ⟨⟨_, rfl⟩, ⟨_, rfl⟩⟩
  exact (@nvml_balanced (fun _ => .ok ()) retriedRun _ (by simp [retriedRun, hc]) rfl).1

end SweatMeter
