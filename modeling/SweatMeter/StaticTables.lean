/-
  The identity of a machine's NVIDIA devices, as the two backends meet it: the
  tables and the banner that `nvidia-smi` prints, and what an NVML binding
  reports.

  A text that `nvidia-smi` prints in a table stands between quotes, with its
  quotes doubled, or as it is if it holds no comma or quote.
-/
import SweatMeter.DeviceTables
import SweatMeter.NvidiaStatic
import SweatMeter.NvmlFaults

namespace SweatMeter

open Py

/-! ## Machines -/

/-- A text of one line that stands for no missing value. -/
structure Label where
  text : Text
  line : ∀ c ∈ text, isLineBreak c = false
  available : casefold (strip text) ∉ unavailableMarkers.map String.toList

structure DeviceIdentity where
  name : Label
  uuid : Label
  vramMib : ℕ
  capability : ℤ × ℤ

structure MachineIdentity where
  devices : List DeviceIdentity
  driver : Label
  cudaMajor : ℕ
  cudaMinor : ℕ
  minor_lt : cudaMinor < 100
  positive : 0 < cudaMajor * 1000 + cudaMinor * 10

/-- What a label is read as. -/
def Label.value (l : Label) : Text := strip l.text

/-- `major.minor` -/
def dotted (version : ℤ × ℤ) : Text := intNumeral version.1 ++ '.' :: intNumeral version.2

namespace MachineIdentity

variable (m : MachineIdentity)

def cuda : ℤ × ℤ := (m.cudaMajor, m.cudaMinor)

/-- The profile of a device, under its index. -/
def profile (p : DeviceIdentity × ℕ) : GpuProfile where
  index := p.2
  name := some (String.ofList p.1.name.value)
  uuid := some (String.ofList p.1.uuid.value)
  vramTotalBytes := some (.int (p.1.vramMib * 2 ^ 20 : ℕ))
  driverVersion := some (String.ofList m.driver.value)
  cudaVersion := some (String.ofList (dotted m.cuda))
  computeCapability := some (String.ofList (dotted p.1.capability))

def profiles : List GpuProfile := m.devices.zipIdx.map m.profile

end MachineIdentity

/-! ## What nvidia-smi prints -/

/-- The cell of a label. -/
inductive Label.Cell (l : Label) : Text → Prop
  | plain : (∀ c ∈ l.text, c ≠ ',' ∧ c ≠ Csv.quotechar) → Cell l l.text
  | quoted : Cell l (Csv.quoted l.text)

/-- A line of the static table. -/
def MachineIdentity.CoreLine (m : MachineIdentity) (p : DeviceIdentity × ℕ) (line : Text) : Prop :=
  ∃ name uuid driver, p.1.name.Cell name ∧ p.1.uuid.Cell uuid ∧ m.driver.Cell driver ∧
    line = Csv.join [numeral p.2, name, uuid, numeral p.1.vramMib, driver]

/-- A line of the compute table. -/
def ComputeLine (p : DeviceIdentity × ℕ) (line : Text) : Prop :=
  line = Csv.join [numeral p.2, dotted p.1.capability]

/-- The command prints such a line for each device, in any order. -/
def SmiCommand.PrintsLines (command : SmiCommand) (L : DeviceIdentity × ℕ → Text → Prop)
    (ds : List DeviceIdentity) : Prop :=
  ∃ lines lines', lines.Perm lines' ∧ List.Forall₂ L ds.zipIdx lines' ∧
    command.PrintsText (unlines lines)

def cudaLabel : Text := "CUDA Version:".toList

/-- The text advertises this CUDA version, as a word of its own and nowhere before. -/
def Advertises (alnum : Char → Bool) (version : ℤ × ℤ) (text : Text) : Prop :=
  ∃ before after, text = before ++ (cudaLabel ++ ' ' :: (dotted version ++ after)) ∧
    ¬ cudaLabel <:+: before ∧ Regex.ahead (isWord alnum) before.reverse = false ∧
    Regex.ahead (isWord alnum) after = false ∧
    ∀ c rest, after = '.' :: c :: rest → c.isDigit = false

/-- `nvidia-smi` prints the identity of this machine. -/
structure SmiCall.PrintsIdentity (alnum : Char → Bool) (c : SmiCall) (m : MachineIdentity) :
    Prop where
  core : (c.command (queryArguments staticFields)).PrintsLines m.CoreLine m.devices
  compute : (c.command (queryArguments computeFields)).PrintsLines ComputeLine m.devices
  banner : ∃ text, Advertises alnum m.cuda text ∧ (c.command []).PrintsText text

/-- What `static_info` has printed is within the limit of the output. -/
def SmiCall.WithinLimit (c : SmiCall) : Prop :=
  ∀ arguments ∈ [queryArguments staticFields, queryArguments computeFields, []],
    ∀ text, (c.command arguments).PrintsText text → utf8Length text ≤ c.maxOutputBytes

/-! ## What NVML reports -/

/-- The answer is this label, as `str` or `bytes`. -/
def IsLabel (l : Label) (o : NvmlObject) : Prop :=
  o.obj = .str (String.ofList l.text) ∨ o.obj = .bytes (String.ofList l.text)

/-- The answer is a pair of integers. -/
def IsPair (version : ℤ × ℤ) (o : NvmlObject) : Prop :=
  o.sequence = some ⟨.ok 2, .ok [.num (.int version.1), .num (.int version.2)]⟩

/-- The answer has this much memory in total, and a number of used bytes, or none. -/
def HasMemory (bytes : ℕ) (o : NvmlObject) : Prop :=
  HasNumber "total" bytes o ∧ ∃ used, (o.attr "used").get = .ok used ∧ Fits used

namespace NvmlBinding

variable (B : NvmlBinding)

/-- A function answers for this device. -/
def AnswersFor (f : NvmlFunction) (i : ℕ) (holds : NvmlObject → Prop) : Prop :=
  ∃ o, B.invoke f i = .ok o ∧ holds o

/-- The binding reports the identity of this device. -/
structure IdentifiesDevice (p : DeviceIdentity × ℕ) : Prop where
  handle : B.Addressable p.2
  name : B.AnswersFor .nvmlDeviceGetName p.2 (IsLabel p.1.name)
  uuid : B.AnswersFor .nvmlDeviceGetUUID p.2 (IsLabel p.1.uuid)
  memory : B.AnswersFor .nvmlDeviceGetMemoryInfo p.2 (HasMemory (p.1.vramMib * 2 ^ 20))
  capability : B.AnswersFor .nvmlDeviceGetCudaComputeCapability p.2 (IsPair p.1.capability)

/-- The binding reports the identity of this machine. -/
structure Identifies (m : MachineIdentity) : Prop where
  init : B.Initializes
  driver : B.AnswersWith .nvmlSystemGetDriverVersion (IsLabel m.driver)
  cuda : B.AnswersWith .nvmlSystemGetCudaDriverVersion
    (IsNumber (m.cudaMajor * 1000 + m.cudaMinor * 10 : ℕ))
  count : B.AnswersWith .nvmlDeviceGetCount (IsNumber m.devices.length)
  devices : ∀ p ∈ m.devices.zipIdx, B.IdentifiesDevice p

end NvmlBinding

end SweatMeter
