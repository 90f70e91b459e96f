/-
  Static identity from `nvidia-smi` (`NvidiaSmiReader.static_info`).
-/
import SweatMeter.Py.Regex
import SweatMeter.Nvidia
import SweatMeter.Nvml

namespace SweatMeter

open Py

/-! ## The banner -/

/-- The word characters of `re`.  Beyond ASCII, `alnum` is `str.isalnum`. -/
def isWord (alnum : Char → Bool) (c : Char) : Bool :=
  if c.toNat < 128 then c.isAlphanum || c = '_' else alnum c

/-- `[0-9]+(?:\.[0-9]+)*` -/
def dottedDigits : Regex.Pattern :=
  Regex.seq (Regex.many1 (Regex.one Char.isDigit))
    (Regex.many (Regex.seq (Regex.one (· = '.')) (Regex.many1 (Regex.one Char.isDigit))))

/-- `\bCUDA Version:\s*` -/
def cudaPrefix (alnum : Char → Bool) : Regex.Pattern :=
  Regex.seq (Regex.boundary (isWord alnum))
    (Regex.seq (Regex.literal "CUDA Version:".toList) (Regex.many (Regex.one isspace)))

/-- The group of `_CUDA_VERSION.search(output)`. -/
def searchCudaVersion (alnum : Char → Bool) (output : Text) : Option Text :=
  Regex.search (Regex.group (cudaPrefix alnum) dottedDigits (Regex.boundary (isWord alnum))) []
    output

/-- `_read_cuda_version`. -/
def readCudaVersion (alnum : Char → Bool) (c : SmiCall) : Diagnosed (Option Text) := do
  match ← .lift (c.invoke []) with
  | .error reason => do
    setReason "gpu.cuda_version" reason
    return none
  | .ok output => match searchCudaVersion alnum output with
    | none => do
      setReason "gpu.cuda_version" "field_missing"
      return none
    | some version => return some version

/-! ## The profiles -/

/-- `_STATIC_FIELDS`. -/
def staticFields : List String := ["index", "name", "uuid", "memory.total", "driver_version"]

/-- `_COMPUTE_FIELDS`. -/
def computeFields : List String := ["index", "compute_cap"]

/-- The profile of a row, with its row of the compute query.  `construct` is what the
    constructor of `GpuProfile` checks. -/
def profileFromRow (construct : GpuProfile → Except Exn Unit) (cuda : Option Text)
    (computeRow row : SmiRow) (index : ℤ) : Diagnosed GpuProfile := do
  let name ← optionalText row "name" index "name"
  let uuid ← optionalText row "uuid" index "uuid"
  let total ← smiMeasurement row "memory.total" index .vramTotalBytes none true
  let driver ← optionalText row "driver_version" index "driver_version"
  let capability ← optionalText computeRow "compute_cap" index "compute_capability"
  let profile : GpuProfile := {
    index := index
    name := name.map String.ofList
    uuid := uuid.map String.ofList
    vramTotalBytes := total
    driverVersion := driver.map String.ofList
    cudaVersion := cuda.map String.ofList
    computeCapability := capability.map String.ofList }
  .lift (construct profile)
  return profile

/-- The profiles of these rows, with the rows of the compute query. -/
def profileRows (construct : GpuProfile → Except Exn Unit) (cuda : Option Text)
    (computeRows : List (ℤ × SmiRow)) : List (ℤ × SmiRow) → Diagnosed (List GpuProfile)
  | [] => return []
  | (index, row) :: rows => do
    let computeRow := (computeRows.lookup index).getD []
    let profile ← profileFromRow construct cuda computeRow row index
    let rest ← profileRows construct cuda computeRows rows
    return profile :: rest

/-- `static_info`, after the diagnostics are cleared. -/
def SmiCall.staticInfo (alnum : Char → Bool) (construct : GpuProfile → Except Exn Unit)
    (c : SmiCall) : Diagnosed (List GpuProfile) := do
  let rows ← query c staticFields "gpu"
  let coreRows ← rowsByIndex rows "gpu.static"
  if coreRows = [] then do
    noRows
    return []
  else do
    let rows ← query c computeFields "gpu.compute_capability"
    let computeRows ← rowsByIndex rows "gpu.compute"
    let cuda ← readCudaVersion alnum c
    profileRows construct cuda computeRows (coreRows.insertionSort fun a b => a.1 ≤ b.1)

end SweatMeter
