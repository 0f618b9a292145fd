import RsiDriver.PowerSave.UlpAck
import RsiDriver.PowerSave.SendSafety
import RsiDriver.PowerSave.WakeUp
import RsiDriver.SdioRx.Queue
import RsiDriver.SdioRx.Event
import RsiDriver.SdioRx.Accounting
import RsiDriver.Tx.Ownership
import RsiDriver.Tx.Drain
import RsiDriver.Security.ReplayProtection
import RsiDriver.Connection.DataBlock
import RsiDriver.Scan.Completion
import RsiDriver.PowerSave.AdaptivePs
import RsiDriver.Station.Table
import RsiDriver.Tx.PeerNotify
import RsiDriver.Interface.VifTable
import RsiDriver.Security.KeyTable
import RsiDriver.Tx.BlockAck
import RsiDriver.Tx.FlowControl
import RsiDriver.Tx.FrameOrder
import RsiDriver.Tx.Starvation
import RsiDriver.Rx.ReadPkt
import RsiDriver.ToMathlib.LockTrace
import RsiDriver.Mac80211.MutexBalance
import RsiDriver.Boot.Fsm
import RsiDriver.Twt.Agreement
import RsiDriver.Rx.Bounds
import RsiDriver.Rx.RoundTrip
import RsiDriver.Rx.Amsdu
import RsiDriver.SdioRx.Delivery
import RsiDriver.Coex.Scheduler
import RsiDriver.Interface.RemainOnChannel
import RsiDriver.Rrm.Requests
import RsiDriver.Mgmt.FrameBuilders
import RsiDriver.Tx.Backoff
import RsiDriver.Tx.QueueSelection
import RsiDriver.Mgmt.Beacon
import RsiDriver.Tx.DescriptorFields
import RsiDriver.PowerSave.SendPkt
import RsiDriver.Boot.Firmware
import RsiDriver.Rrm.RoundTrip
import RsiDriver.Bluedroid.Ring
import RsiDriver.SdioRx.Suspend
import RsiDriver.Boot.MasterWrite
import RsiDriver.Boot.SecureLoad
import RsiDriver.Usb.RegisterTransfer
import RsiDriver.Usb.RxUrb
import RsiDriver.Usb.Suspend
import RsiDriver.Rrm.BeaconBounds
import RsiDriver.Twt.Divisors
import RsiDriver.Twt.SelfConsistency
import RsiDriver.Twt.SessionFrame
import RsiDriver.Twt.Negotiation
import RsiDriver.Twt.PsSuspension
import RsiDriver.Twt.RefusedCommand
import RsiDriver.Tx.AutoRateEntries
import RsiDriver.Tx.RateMask
import RsiDriver.Scan.BgscanChannels
import RsiDriver.Tx.DataTid
import RsiDriver.Mgmt.IndicationBounds
import RsiDriver.Mgmt.MbssidBounds
import RsiDriver.Mgmt.BbValues
import RsiDriver.Mgmt.NetlinkBounds
import RsiDriver.Mgmt.FixedBuffers
import RsiDriver.Security.LoadKey
import RsiDriver.Mgmt.BandCheck
import RsiDriver.ToMathlib.Script
import RsiDriver.Boot.FlashUpgrade
import RsiDriver.Tx.SdioPacket
import RsiDriver.ToMathlib.Hysteresis
import RsiDriver.Mac80211.Cqm
import RsiDriver.Mgmt.PerBurst
import RsiDriver.PowerSave.UapsdMap
import RsiDriver.ToMathlib.Pieces
import RsiDriver.Boot.DataRegion
import RsiDriver.ToMathlib.Debounce
import RsiDriver.PowerSave.GpioHandshake
import RsiDriver.ToMathlib.LittleEndian
import RsiDriver.Boot.MasterReg
import RsiDriver.Boot.FirmwareFile
import RsiDriver.Boot.BootCommands
import RsiDriver.Boot.SdioFirmware
import RsiDriver.Tx.BufferStatus
import RsiDriver.Lifecycle.SdioProbe
