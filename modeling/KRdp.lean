import KRdp.Library.Run
import KRdp.Library.Box
import KRdp.Library.MachineInt
import KRdp.Library.Search
import KRdp.Library.Mailbox
import KRdp.Library.Cover
import KRdp.Library.Monitor
import KRdp.Library.Registry
import KRdp.Library.SharedStore
import KRdp.Library.SampleWindow
import KRdp.Library.LeastRecentlyUsed
import KRdp.Library.Register
import KRdp.Library.Pieces
import KRdp.Library.Utf16
import KRdp.Library.Binary64
import KRdp.Library.Pattern
import KRdp.Library.Announce
import KRdp.Library.Conveyor
import KRdp.Library.Custody
import KRdp.Qt.Geometry
import KRdp.Qt.Union
import KRdp.Qt.Image
import KRdp.DisplayControl.Decode
import KRdp.DisplayControl.ValidLayout
import KRdp.DisplayControl.Diagnosis
import KRdp.DisplayControl.SignedArithmetic
import KRdp.DisplayControl.AcceptedLayout
import KRdp.DisplayControl.Requests
import KRdp.DisplayControl.LayoutHandover
import KRdp.RdpConnection.State
import KRdp.VideoStream.Stream
import KRdp.VideoStream.Reset
import KRdp.VideoStream.Topology
import KRdp.VideoStream.Surfaces
import KRdp.VideoStream.Submission
import KRdp.VideoStream.LayoutUpdates
import KRdp.VideoStream.StaleFrames
import KRdp.VideoStream.Closing
import KRdp.VideoStream.Conservation
import KRdp.NetworkDetection.Detection
import KRdp.NetworkDetection.SequenceNumbers
import KRdp.NetworkDetection.RttMatching
import KRdp.NetworkDetection.Statistics
import KRdp.NetworkDetection.Characteristics
import KRdp.RdpConnection.Loop
import KRdp.RdpConnection.Channels
import KRdp.RdpConnection.ChannelLifetime
import KRdp.RdpConnection.ChannelLoop
import KRdp.RdpConnection.SuppressOutput
import KRdp.Cursor.Update
import KRdp.Cursor.PointerCache
import KRdp.Cursor.Recency
import KRdp.Clipboard.TextCodec
import KRdp.Qt.Text
import KRdp.Clipboard.RoundTrip
import KRdp.Clipboard.Server
import KRdp.Clipboard.Answers
import KRdp.Clipboard.Disabled
import KRdp.Clipboard.Convergence
import KRdp.NetworkDetection.BandwidthFrames
import KRdp.RdpConnection.PostConnect
import KRdp.RdpConnection.SamFile
import KRdp.Input.Handler
import KRdp.Input.PortalSession
import KRdp.Input.UnicodeTyping
import KRdp.Input.Scrolling
import KRdp.Server.Control
import KRdp.Server.Connections
import KRdp.Server.LifeCycle
import KRdp.Server.Logins
import KRdp.Server.Quitting
import KRdp.Server.ChannelMemory
import KRdp.Server.Startup
import KRdp.Server.Peer
import KRdp.VideoStream.Capabilities
import KRdp.VideoStream.FrameRate
import KRdp.VideoStream.FrameAcknowledge
import KRdp.VideoStream.FramesInFlight
import KRdp.Session.AbstractSession
import KRdp.Session.VirtualMonitor
import KRdp.Session.Portal
import KRdp.Session.PortalStartup
import KRdp.Session.PortalClosing
import KRdp.Session.RestoreToken
import KRdp.Session.Settings
import KRdp.Session.Streaming
import KRdp.Session.StreamCreation
import KRdp.Server.SessionWrapper
import KRdp.Kcm.EditUser
import KRdp.Kcm.Users
import KRdp.Plasma.Keymap
import KRdp.Plasma.Session
import KRdp.Plasma.Modifiers
import KRdp.Plasma.LogicalSize
import KRdp.AudioStream.Stream
import KRdp.AudioStream.Activity
import KRdp.AudioStream.Ownership
