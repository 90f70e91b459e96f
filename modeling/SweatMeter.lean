import SweatMeter.Wakeup
import SweatMeter.Restart
import SweatMeter.Instants
import SweatMeter.ClockDrop
import SweatMeter.Isolation
import SweatMeter.NvmlFaults
import SweatMeter.NvmlBalance
import SweatMeter.Throttling
import SweatMeter.DiskReset
import SweatMeter.StopSafety
import SweatMeter.Delivery
import SweatMeter.PerDevice
import SweatMeter.ProfileDiagnostics
import SweatMeter.Identity
import SweatMeter.NvidiaStatic
import SweatMeter.StaticIdentity
import SweatMeter.Replay
import SweatMeter.ClockFailure
import SweatMeter.PhantomDrop
import SweatMeter.NvmlReasons
import SweatMeter.SensorCache
import SweatMeter.SampleAge
import SweatMeter.Deadlines
import SweatMeter.Meter
import SweatMeter.CpuStat
import SweatMeter.DiskConservation
import SweatMeter.SampleOrder
import SweatMeter.MissingData
import SweatMeter.SmiDiagnostics
import SweatMeter.SmiJoin
import SweatMeter.CsvTables
import SweatMeter.GpuRows
import SweatMeter.WholeDevices
import SweatMeter.Meminfo
import SweatMeter.Cpuinfo
import SweatMeter.Shutdown
import SweatMeter.Draining
import SweatMeter.Liveness
import SweatMeter.Pacing
import SweatMeter.Collecting
import SweatMeter.LinuxReader
import SweatMeter.Platform
import SweatMeter.LinuxSession
import SweatMeter.LinuxLoad
import SweatMeter.Relaying
import SweatMeter.SmiTelling
import SweatMeter.NvmlTelling
import SweatMeter.DefaultCollector
import SweatMeter.HardwareIdentity
import SweatMeter.EnergyIntegral
import SweatMeter.GrowingWindow
import SweatMeter.Metering
import SweatMeter.Interchange
