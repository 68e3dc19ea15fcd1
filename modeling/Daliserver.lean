import Daliserver.Machine.Run
import Daliserver.Machine.Fifo
import Daliserver.Machine.SwapRemove
import Daliserver.Machine.Word
import Daliserver.Machine.Chain
import Daliserver.Machine.SocketPair
import Daliserver.Machine.Pattern
import Daliserver.Machine.Service
import Daliserver.Machine.Numeral
import Daliserver.Machine.Resources
import Daliserver.Machine.Getopt
import Daliserver.Machine.Writes
import Daliserver.Pack.Format
import Daliserver.Pack.Directives
import Daliserver.Pack.Memory
import Daliserver.Pack.RoundTrip
import Daliserver.LinkedList.Nodes
import Daliserver.LinkedList.Sequence
import Daliserver.DynamicArray.Storage
import Daliserver.DynamicArray.Elements
import Daliserver.Log.Channels
import Daliserver.Log.Routing
import Daliserver.Options.Parse
import Daliserver.Options.Accepted
import Daliserver.Usb.Device
import Daliserver.Usb.Driver
import Daliserver.Usb.DriverLaws
import Daliserver.Usb.Session
import Daliserver.Usb.Ledger
import Daliserver.Usb.Transfers
import Daliserver.Usb.Owners
import Daliserver.Usb.Closing
import Daliserver.Usb.Conservation
import Daliserver.Usb.Outstanding
import Daliserver.Usb.Cancellation
import Daliserver.Usb.Answers
import Daliserver.Usb.Invisible
import Daliserver.Usb.Progress
import Daliserver.Dispatch.Table
import Daliserver.Dispatch.TableLaws
import Daliserver.Dispatch.Pass
import Daliserver.Dispatch.Fairness
import Daliserver.Dispatch.Arrays
import Daliserver.Dispatch.Collection
import Daliserver.Net.Server
import Daliserver.Net.ServerLaws
import Daliserver.Net.System
import Daliserver.Net.Registered
import Daliserver.Net.Tidy
import Daliserver.Net.References
import Daliserver.Net.Accounts
import Daliserver.Net.Requests
import Daliserver.Net.Service
import Daliserver.Net.Waiting
import Daliserver.Net.Teardown
import Daliserver.Net.Lifetimes
import Daliserver.Net.Streams
import Daliserver.Net.DryRun
import Daliserver.Net.Frames
import Daliserver.Net.Broadcast
import Daliserver.Net.Delivery
import Daliserver.Net.Framing
import Daliserver.Daemon.Launch
import Daliserver.Daemon.Notification
import Daliserver.Daemon.Exclusion
import Daliserver.Main.Loop
import Daliserver.Main.Timeouts
import Daliserver.Main.Shutdown
import Daliserver.Main.Startup
import Daliserver.Perl.Commands
import Daliserver.Perl.Encoding
import Daliserver.Perl.Client
import Daliserver.Main.Released
