import WebrtcApp.Runs.Routing
import WebrtcApp.Runs.Ownership
import WebrtcApp.Runs.SessionTable
import WebrtcApp.Runs.Paths
import WebrtcApp.Runs.Isolation
import WebrtcApp.Runs.Interleaving
import WebrtcApp.Runs.MediaThread
import WebrtcApp.Runs.TimerQueue
import WebrtcApp.Runs.Teardown
import WebrtcApp.Runs.CredentialFreshness
import WebrtcApp.Runs.Answers
import WebrtcApp.Runs.MediaUsers
import WebrtcApp.Runs.FrameDelivery
import WebrtcApp.Runs.ConnectionFlag
import WebrtcApp.Runs.StatsTimer
import WebrtcApp.Runs.SignalingClient
import WebrtcApp.Runs.MediaLoop
import WebrtcApp.Runs.Discovery
import WebrtcApp.Runs.CameraProcesses
import WebrtcApp.Runs.PendingOps
import WebrtcApp.Runs.OfferAccepted
import WebrtcApp.Runs.Sweep
import WebrtcApp.Runs.LockBalance
import WebrtcApp.Runs.SessionCreation
import WebrtcApp.Runs.Lifecycle
import WebrtcApp.Runs.OutgoingMessages
import WebrtcApp.Runs.RtspConfig
import WebrtcApp.Runs.PadSinks
import WebrtcApp.Runs.CaCert
import WebrtcApp.Runs.IceServers
import WebrtcApp.Runs.IceServerStats
import WebrtcApp.Runs.SignalingBringUp
import WebrtcApp.Runs.CertificatePool
import WebrtcApp.Runs.CertificateOwners
import WebrtcApp.Runs.CredentialLifecycle
import WebrtcApp.Runs.BandwidthEstimation
import WebrtcApp.Runs.MediaSourceInit
import WebrtcApp.Runs.EcsRequests
import WebrtcApp.Runs.EcsRefresh
import WebrtcApp.Runs.EcsResponse
import WebrtcApp.Runs.ElementOwnership
import WebrtcApp.Runs.StreamAgreement
import WebrtcApp.Runs.SampleDelivery
import WebrtcApp.Runs.StatsReports
import WebrtcApp.Runs.NumberedClients
import WebrtcApp.Runs.AnnouncedCodecs
import WebrtcApp.Runs.PeerConnectionRuns
import WebrtcApp.Runs.SweepRuns
import WebrtcApp.Runs.CameraLogins
import WebrtcApp.Runs.SequentialRuns
import WebrtcApp.Runs.MediaObjects
import WebrtcApp.Runs.EcsHandedOut
