/-
  Disk throughput of a Linux host (`LinuxHostReader.disk_throughput`), from the
  texts of `/proc/diskstats` and the readings of a clock.
-/
import SweatMeter.Lts
import SweatMeter.Py.Text
import SweatMeter.Types

namespace SweatMeter

open Py

/-! ## Device names -/

/-- A decimal digit of any script, which `\d` matches. -/
def isDecimal (c : Char) : Bool := (asciiDigit c).isDigit

/-- The text after this prefix. -/
def afterPrefix (p : String) (t : Text) : Option Text :=
  if p.toList.isPrefixOf t then some (t.drop p.toList.length) else none

/-- A prefix, and then one or more characters of a class. -/
def prefixed (p : String) (isClass : Char → Bool) (name : Text) : Bool :=
  (afterPrefix p name).any fun t => t ≠ [] && t.all isClass

/-- `_WHOLE_DEVICE.fullmatch(name)`. -/
def wholeDevice (name : Text) : Bool :=
  prefixed "sd" Char.isLower name || prefixed "hd" Char.isLower name ||
    prefixed "vd" Char.isLower name || prefixed "xvd" Char.isLower name ||
    (afterPrefix "nvme" name).any (fun t =>
      let (digits, t) := t.span isDecimal
      digits ≠ [] && prefixed "n" isDecimal t) ||
    prefixed "mmcblk" isDecimal name || prefixed "dasd" Char.isLower name

/-! ## `/proc/diskstats` -/

inductive Direction where
  | read
  | write
  deriving DecidableEq

/-- The row of a selected device, with its counters in sectors. -/
structure DiskRow where
  name : Text
  sectors : Direction → ℕ

/-- What a line is to `parse_diskstats`. -/
inductive DiskLine where
  | skipped
  | malformed
  | row (r : DiskRow)

/-- The body of the loop of `parse_diskstats`, up to the counters. -/
def parseDiskLine (selected : Text → Bool) (line : Text) : DiskLine :=
  let fields := split line
  if fields.length ≤ 2 then .skipped
  else
    let name := fields.getD 2 []
    if !selected name then .skipped
    else if fields.length < 10 then .malformed
    else match toInt (fields.getD 5 []), toInt (fields.getD 9 []) with
      | .ok read, .ok write =>
        if read < 0 ∨ write < 0 then .malformed
        else .row ⟨name, fun | .read => read.toNat | .write => write.toNat⟩
      | _, _ => .malformed

/-- The variables of the loop. -/
structure DiskTotals where
  seen : List Text := []
  sectors : Direction → ℕ := fun _ => 0

def DiskTotals.add (totals : DiskTotals) (r : DiskRow) : DiskTotals :=
  ⟨r.name :: totals.seen, fun d => totals.sectors d + r.sectors d⟩

/-- The loop of `parse_diskstats`; `none` is its early return. -/
def diskLoop (selected : Text → Bool) (totals : DiskTotals) : List Text → Option DiskTotals
  | [] => some totals
  | line :: lines => match parseDiskLine selected line with
    | .skipped => diskLoop selected totals lines
    | .malformed => none
    | .row r => diskLoop selected (totals.add r) lines

/-- The devices a row may be of. -/
def isSelected (devices : Option (List Text)) (name : Text) : Bool :=
  match devices with
  | some names => names.contains name
  | none => wholeDevice name

/-- `parse_diskstats`: the bytes read and written, or `none` for `UNSUPPORTED`. -/
def parseDiskstats (text : Text) (devices : Option (List Text)) : Option (Direction → ℕ) :=
  match diskLoop (isSelected devices) {} (splitlines text) with
  | none => none
  | some totals =>
    if totals.seen = [] then none
    else if devices.any fun names => names.any (!totals.seen.contains ·) ||
        totals.seen.any (!names.contains ·) then none
    else some fun d => totals.sectors d * 512

/-! ## The reader -/

/-- What one call meets: the text of `/proc/diskstats`, and what the clock returns. -/
structure DiskCall where
  text : Except Exn Text
  clock : Except Exn Obj

/-- The reader's allowlist and its baseline: clock and counters. -/
structure LinuxHostReader where
  diskDevices : Option (List Text) := none
  previousDisk : Option (ℚ × (Direction → ℕ)) := none

/-- The counters a call parses. -/
def DiskCall.parsed (c : DiskCall) (devices : Option (List Text)) : Option (Direction → ℕ) :=
  match c.text with
  | .ok text => parseDiskstats text devices
  | .error _ => none

/-- The clock's reading, if it is an `int` or a `float`. -/
def DiskCall.now (c : DiskCall) : Option Number :=
  match c.clock with
  | .ok (.num x) => some x
  | .ok (.bool b) => some (.int (if b then 1 else 0))
  | _ => none

/-- The rate of one direction; a delta that is too large for a double raises. -/
def diskRate (previous current : ℕ) (elapsed : ℚ) : Except Exn (Measurement Number) :=
  if current < previous then .ok none
  else if doubleLimit ≤ current - previous then .error ⟨"OverflowError"⟩
  else .ok (some (.float (.finite ((current - previous : ℕ) / elapsed))))

def unsupportedThroughput : DiskThroughput (Measurement Number) := ⟨none, none⟩

/-- The rates against a baseline. -/
def diskRates (baseline : Option (ℚ × (Direction → ℕ))) (now : ℚ) (parsed : Direction → ℕ) :
    Except Exn (DiskThroughput (Measurement Number)) :=
  match baseline with
  | none => .ok unsupportedThroughput
  | some (before, previous) =>
    if now - before ≤ 0 then .ok unsupportedThroughput
    else do
      let readRate ← diskRate (previous .read) (parsed .read) (now - before)
      let writeRate ← diskRate (previous .write) (parsed .write) (now - before)
      return ⟨readRate, writeRate⟩

/-- `disk_throughput`. -/
def LinuxHostReader.diskThroughput (r : LinuxHostReader) (c : DiskCall) :
    Except Exn (DiskThroughput (Measurement Number)) × LinuxHostReader :=
  match c.parsed r.diskDevices, c.now with
  | some parsed, some now => match now.isfinite, now.toRat with
    | .error e, _ => (.error e, r)
    | .ok true, some t =>
      (diskRates r.previousDisk t parsed, { r with previousDisk := some (t, parsed) })
    | .ok _, _ => (.ok unsupportedThroughput, r)
  | _, _ => (.ok unsupportedThroughput, r)

/-- A reader that is called again and again. -/
def diskRuns (devices : Option (List Text)) : Lts LinuxHostReader DiskCall where
  init := { diskDevices := devices }
  step r c := some (r.diskThroughput c).2

end SweatMeter
