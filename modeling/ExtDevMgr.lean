import ExtDevMgr.Base.Loop
import ExtDevMgr.Usb.Descriptor
import ExtDevMgr.Usb.Parser
import ExtDevMgr.Base.Records
import ExtDevMgr.Usb.Walk
import ExtDevMgr.Usb.Steps
import ExtDevMgr.Usb.Turns
import ExtDevMgr.Usb.Progress
import ExtDevMgr.Usb.Counting
import ExtDevMgr.Usb.Entry
import ExtDevMgr.Usb.Trace
import ExtDevMgr.Usb.Slots
import ExtDevMgr.Usb.Callers
import ExtDevMgr.Usb.Memory
import ExtDevMgr.Usb.Outcome
import ExtDevMgr.Usb.Tree
import ExtDevMgr.Usb.Decode
import ExtDevMgr.Usb.RoundTrip
import ExtDevMgr.Base.Region
import ExtDevMgr.Scsi.MemMap
import ExtDevMgr.Scsi.Frame
import ExtDevMgr.Base.Machine
import ExtDevMgr.Base.Table
import ExtDevMgr.Manager.Controller
import ExtDevMgr.Manager.Device
import ExtDevMgr.Manager.Callbacks
import ExtDevMgr.Manager.ExtDeviceMgr
import ExtDevMgr.Manager.Frames
import ExtDevMgr.Manager.System
import ExtDevMgr.Manager.Visible
import ExtDevMgr.Manager.Loops
import ExtDevMgr.Manager.MatchMap
import ExtDevMgr.Scsi.Write
import ExtDevMgr.Base.Codec
import ExtDevMgr.Ipc.Parcel
import ExtDevMgr.Ipc.Types
import ExtDevMgr.Base.Text
import ExtDevMgr.Json.CJson
import ExtDevMgr.Manager.Permission
import ExtDevMgr.Pkg.DriverInfo
import ExtDevMgr.Pkg.Manifest
import ExtDevMgr.Base.Transaction
import ExtDevMgr.Pkg.PkgDatabase
import ExtDevMgr.Pkg.Atomicity
import ExtDevMgr.Pkg.BundleState
import ExtDevMgr.Base.Parts
import ExtDevMgr.Pkg.Parts
import ExtDevMgr.Pkg.Interleaving
import ExtDevMgr.Manager.Cleanup
import ExtDevMgr.Manager.Connect
import ExtDevMgr.Manager.LaunchOnBind
import ExtDevMgr.Manager.Notifiers
import ExtDevMgr.Manager.Detached
import ExtDevMgr.Manager.Connections
import ExtDevMgr.Manager.Connections.Binds
import ExtDevMgr.Manager.Connections.Launches
import ExtDevMgr.Manager.Connections.Runs
import ExtDevMgr.Base.Locks
import ExtDevMgr.Manager.Locking
import ExtDevMgr.Manager.Deadlock
import ExtDevMgr.Ipc.Truncation
import ExtDevMgr.Base.Access
import ExtDevMgr.Scsi.Sense
import ExtDevMgr.Ddk.Reads
import ExtDevMgr.Manager.Completions
import ExtDevMgr.Manager.Attached
import ExtDevMgr.Manager.Emits
import ExtDevMgr.Manager.Unload
import ExtDevMgr.Manager.Drivers
import ExtDevMgr.Manager.SharedDriver
import ExtDevMgr.Manager.DriverUids
import ExtDevMgr.Manager.DriverUids.Runs
import ExtDevMgr.Ddk.HidDdk
import ExtDevMgr.Ddk.HidConnect
import ExtDevMgr.Ddk.HidHandles
import ExtDevMgr.Ddk.HidRuns
import ExtDevMgr.Usb.Settings
import ExtDevMgr.Usb.Agreement
import ExtDevMgr.Usb.Accounting
import ExtDevMgr.Base.Bytes
import ExtDevMgr.Manager.DeviceIds
import ExtDevMgr.Manager.FailedBinds
import ExtDevMgr.Usb.Reads
import ExtDevMgr.Usb.ReadsInside
import ExtDevMgr.Pkg.IdLists
import ExtDevMgr.Pkg.Decoder
import ExtDevMgr.Pkg.FullScan
import ExtDevMgr.Pkg.MatchDriver
import ExtDevMgr.Scsi.Descriptors
import ExtDevMgr.Scsi.Encoding
import ExtDevMgr.Scsi.Formats
import ExtDevMgr.Scsi.Supplied
import ExtDevMgr.Scsi.Landing
import ExtDevMgr.Scsi.Arrays
import ExtDevMgr.Ddk.Results
import ExtDevMgr.Base.Numerals
import ExtDevMgr.Launch.Version
import ExtDevMgr.Launch.Config
import ExtDevMgr.Base.Ledger
import ExtDevMgr.Ddk.UsbMemMap
import ExtDevMgr.Ddk.DeviceHandles
import ExtDevMgr.Usb.StringDescriptor
import ExtDevMgr.EdmErrors
import ExtDevMgr.Notify.EventConfig
import ExtDevMgr.Usb.Attach
import ExtDevMgr.Report.SysEvent
import ExtDevMgr.Manager.BundleKeys
import ExtDevMgr.Base.Paths
import ExtDevMgr.Notify.Locale
import ExtDevMgr.Notify.LocaleCache
import ExtDevMgr.Js.DeviceManagerMiddle
import ExtDevMgr.Js.Registrations
import ExtDevMgr.Js.Told
import ExtDevMgr.Usb.Grammar
import ExtDevMgr.Usb.Denotation
import ExtDevMgr.Usb.Acceptance
import ExtDevMgr.Pkg.Installed
import ExtDevMgr.Manager.Installs
import ExtDevMgr.Client.DriverExtMgrClient
import ExtDevMgr.Client.Deaths
import ExtDevMgr.Service.DriverExtMgr
import ExtDevMgr.Base.History
import ExtDevMgr.Manager.Clients
import ExtDevMgr.Service.Requests
import ExtDevMgr.Service.Bindings
import ExtDevMgr.Service.DeviceQueries
import ExtDevMgr.Service.DriverQueries
import ExtDevMgr.Usb.Added
import ExtDevMgr.Service.Wire
