import SprakCapture.ProcessCapture.TcpRoundTrip
import SprakCapture.ProcessCapture.UdpTerminals
import SprakCapture.ProcessCapture.OwnerAgreement
import SprakCapture.Capture.BodyLedger
import SprakCapture.Capture.FinishedTransactions
import SprakCapture.Capture.EntityIndex
import SprakCapture.Capture.Pages
import SprakCapture.Capture.MetadataLedger
import SprakCapture.UdpRecording.SpoolQueue
import SprakCapture.Socks5.AccountControllers
import SprakCapture.Socks5.FinalReports
import SprakCapture.Socks5.InstanceBatches
import SprakCapture.UdpRecording.CaptureQueue
import SprakCapture.UdpRecording.SpoolAccounting
import SprakCapture.Plugins.FailOpen
import SprakCapture.Plugins.TransformerChunks
import SprakCapture.Plugins.FilterRules
import SprakCapture.Plugins.HeldStreams
import SprakCapture.Client.ConfigurationRoundTrip
import SprakCapture.Client.ProfileRoundTrip
import SprakCapture.AccountService.CountedOnce
import SprakCapture.Control.MediaPreviewLeases
import SprakCapture.HttpProxy.BreakpointBarrier
import SprakCapture.Control.ProjectedOnce
import SprakCapture.Control.PacketProducers
import SprakCapture.Client.DnsAnswers
import SprakCapture.Control.PlainTargets
import SprakCapture.HttpProxy.MirrorWakeups
import SprakCapture.Client.TransparentPairing
import SprakCapture.HttpProxy.RootReplacement
import SprakCapture.HttpProxy.IdentityPersistence
import SprakCapture.HttpProxy.ToolEdits
import SprakCapture.Client.FrameInterop
import SprakCapture.ProcessCapture.UdpChecksum
import SprakCapture.ProcessCapture.PayloadReplacement
import SprakCapture.ProcessCapture.FlowRegistration
import SprakCapture.ProcessCapture.UdpAttribution
import SprakCapture.ProcessCapture.FragmentRejection
import SprakCapture.Capture.RefusedAdmission
import SprakCapture.Location.PathPrefixes
import SprakCapture.Control.WireModifications
import SprakCapture.Location.GlobMatching
import SprakCapture.Plugins.BytePatterns
import SprakCapture.Control.MediaPlan
import SprakCapture.HttpProxy.AutoSave
import SprakCapture.Socks5.BandwidthSchedule
import SprakCapture.Client.SharedAddresses
import SprakCapture.AccountService.AccountQueries
import SprakCapture.Capture.BoundedHeaders
import SprakCapture.HttpProxy.LeafCertificates
import SprakCapture.HttpProxy.LoopDetection
