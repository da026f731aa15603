import Droidbox.Lib.Bytes
import Droidbox.Lib.Buffer
import Droidbox.Lib.Scripted
import Droidbox.Lib.Session
import Droidbox.Lib.Walk
import Droidbox.Lib.Printf
import Droidbox.Lib.Block
import Droidbox.Lib.BitPolynomial
import Droidbox.Lib.ShiftRegister
import Droidbox.Usb.Bulk
import Droidbox.Usb.Urb
import Droidbox.Usb.Abandoned
import Droidbox.Usb.Completion
import Droidbox.Usb.Descriptor
import Droidbox.Usb.Walks
import Droidbox.Usb.Dump
import Droidbox.Usb.Control
import Droidbox.Usb.StringDescriptor
import Droidbox.Usb.Parse
import Droidbox.Usb.ParseBounds
import Droidbox.Usb.Configuration
import Droidbox.Usb.Print
import Droidbox.Usb.Listing
import Droidbox.Usb.Readback
import Droidbox.Usb.Release
import Droidbox.Ptp.Container
import Droidbox.Ptp.Request
import Droidbox.Ptp.Operations
import Droidbox.Ptp.Calls
import Droidbox.Ptp.Encoding
import Droidbox.Ptp.Phases
import Droidbox.Ptp.Transaction
import Droidbox.Ptp.Collector
import Droidbox.Ptp.Reassembly
import Droidbox.Ptp.Payload
import Droidbox.Ptp.Outcome
import Droidbox.Ptp.Bounds
import Droidbox.Ptp.DataPhase
import Droidbox.Ptp.Params
import Droidbox.Ptp.Cutting
import Droidbox.Ptp.ZeroLength
import Droidbox.Ptp.Stale
import Droidbox.Ptp.Influence
import Droidbox.Adb.Message
import Droidbox.Adb.Crc
import Droidbox.Adb.Search
import Droidbox.Adb.Request
import Droidbox.Adb.Calls
import Droidbox.Adb.Delivery
import Droidbox.Adb.Encoding
import Droidbox.Adb.Sizing
import Droidbox.Adb.Independence
import Droidbox.Adb.Frames
import Droidbox.Adb.Pump
import Droidbox.Adb.Conversation
import Droidbox.Adb.Output
import Droidbox.Propagation
import Droidbox.Program
