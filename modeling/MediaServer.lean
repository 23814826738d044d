import MediaServer.Transition
import MediaServer.SinkDispatcher
import MediaServer.SinkMove
import MediaServer.SinkLane
import MediaServer.SinkOrder
import MediaServer.SinkRefine
import MediaServer.SinkDelivery
import MediaServer.SinkOverflow
import MediaServer.SinkIsolation
import MediaServer.Pool
import MediaServer.Ssrc
import MediaServer.Broadcast
import MediaServer.Server
import MediaServer.LiveService
import MediaServer.StreamTokens
import MediaServer.BroadcastService
import MediaServer.DeviceLifecycle
import MediaServer.Reconcile
import MediaServer.Signaling
import MediaServer.SessionMove
import MediaServer.SessionLife
import MediaServer.SessionGood
import MediaServer.SessionSection
import MediaServer.ServerFrames
import MediaServer.SessionReach
import MediaServer.SessionLifecycle
import MediaServer.DialogRequests
import MediaServer.PushCredentials
import MediaServer.SourceControl
import MediaServer.StreamIds
import MediaServer.PlayTokens
import MediaServer.FailedStart
import MediaServer.TalkMove
import MediaServer.TalkSetup
import MediaServer.DeviceStop
import MediaServer.Bytes
import MediaServer.Tlv
import MediaServer.StunMessage
import MediaServer.StunAuthentication
import MediaServer.StunRoundTrip
import MediaServer.Controller
import MediaServer.WebrtcSession
import MediaServer.IceNomination
import MediaServer.WhepPull
import MediaServer.PullConsent
import MediaServer.MediaStream
import MediaServer.SinkRemoval
import MediaServer.Hls
import MediaServer.HlsGeneration
import MediaServer.Flv
import MediaServer.FlvJoin
import MediaServer.Handler
import MediaServer.RtmpPublish
import MediaServer.PublishMove
import MediaServer.PublishTracks
import MediaServer.PublishAudio
import MediaServer.Framing
import MediaServer.GbTcp
import MediaServer.GbPlayback
import MediaServer.TcpRoundTrip
import MediaServer.PlaybackStream
import MediaServer.TalkUpload
import MediaServer.DeviceGates
import MediaServer.DeviceRegistry
import MediaServer.OnlineChannels
import MediaServer.SourceOperations
import MediaServer.PullTable
import MediaServer.PullHistory
import MediaServer.RtmpTimes
import MediaServer.RtmpRange
import MediaServer.HlsSegmenter
import MediaServer.HlsWindow
import MediaServer.HlsContent
import MediaServer.SenderReports
import MediaServer.SenderSync
import MediaServer.AlarmLog
import MediaServer.AudioTranscoder
import MediaServer.DtlsHandshake
import MediaServer.FiniteHttpInput
import MediaServer.FlvQueue
import MediaServer.HistoryRecording
import MediaServer.Interleaving
import MediaServer.MediaPortPool
import MediaServer.NinetyKilohertz
import MediaServer.PlayGeneration
import MediaServer.PullCleanup
import MediaServer.RtcpBye
import MediaServer.RtspFrames
import MediaServer.RtspPublish
import MediaServer.RtspReports
import MediaServer.RtspTransport
import MediaServer.SessionRegistry
import MediaServer.SimulatorIdentity
import MediaServer.SsrcSlots
import MediaServer.StunGrammar
import MediaServer.TcpTransport
import MediaServer.TranscoderGap
import MediaServer.UdpTransport
import MediaServer.WhepReports
import MediaServer.WhipRegistration
import MediaServer.HlsPlaySession
import MediaServer.HlsRefine
import MediaServer.WorkerPool
