import LibUvc.Foundation.Checked
import LibUvc.Foundation.Mask
import LibUvc.Foundation.Program
import LibUvc.Foundation.Reassembly
import LibUvc.Foundation.Conservation
import LibUvc.Foundation.Flagging
import LibUvc.Foundation.Transition
import LibUvc.Stream.Reassembly
import LibUvc.Stream.Conservation
import LibUvc.Stream.Errors
import LibUvc.Device.Interfaces
import LibUvc.Device.Guard
import LibUvc.Device.Status
import LibUvc.Context.Handler
import LibUvc.Stream.Control
import LibUvc.Device.Close
import LibUvc.Device.Teardown
import LibUvc.Stream.Consumer
import LibUvc.Stream.Suppression
import LibUvc.Descriptor.Types
import LibUvc.Foundation.Scan
import LibUvc.Foundation.Search
import LibUvc.Descriptor.Parse
import LibUvc.Descriptor.Safety
import LibUvc.Lifetime.Heap
import LibUvc.Lifetime.Ownership
import LibUvc.Lifetime.Safety
import LibUvc.Descriptor.Lookup
import LibUvc.Stream.Frame
import LibUvc.Stream.Playback
import LibUvc.Stream.Negotiation
import LibUvc.Stream.Geometry
import LibUvc.Descriptor.Numbers
import LibUvc.Descriptor.Encode
import LibUvc.Descriptor.Growth
import LibUvc.Descriptor.Grammar
import LibUvc.Descriptor.Reading
import LibUvc.Descriptor.Foreign
import LibUvc.Descriptor.RoundTrip
import LibUvc.Device.Quarantine
import LibUvc.Lifetime.Slots
import LibUvc.Foundation.Embed
import LibUvc.Camera.Session
import LibUvc.Camera.Release
import LibUvc.Stream.Restart
import LibUvc.Descriptor.Diag
import LibUvc.Descriptor.Repair
import LibUvc.Stream.Mode
import LibUvc.Stream.Altsetting
import LibUvc.Lifetime.Start
import LibUvc.Foundation.Rounds
import LibUvc.Stream.Reuse
import LibUvc.Foundation.Blocks
import LibUvc.Image.Frame
import LibUvc.Image.Convert
import LibUvc.Image.Mjpeg
import LibUvc.Device.Open
import LibUvc.Stream.Polling
import LibUvc.Device.Reattach
import LibUvc.Stream.Formats
import LibUvc.Stream.Still
import LibUvc.Control.Accessors
import LibUvc.Descriptor.Controls
import LibUvc.Device.Helper
import LibUvc.Device.Rescue
import LibUvc.Control.Requests
import LibUvc.Control.Standard
import LibUvc.Stream.Transfers
import LibUvc.Descriptor.Disposal
import LibUvc.Context.OpenDevices
import LibUvc.Context.Devices
import LibUvc.Device.StatusPackets
