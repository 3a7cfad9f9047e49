import RemoteDesktop.DRDX11Capture
import RemoteDesktop.DRDSharedRuntime
import RemoteDesktop.DRDClientIdentity
import RemoteDesktop.DRDPendingQueue
import RemoteDesktop.DRDRejectedConnection
import RemoteDesktop.DRDTileDiff
import RemoteDesktop.DRDEncodingManager
import RemoteDesktop.DRDPictureExact
import RemoteDesktop.DRDKeyframe
import RemoteDesktop.DRDHandoverStages
import RemoteDesktop.DRDHandoverProtocol
import RemoteDesktop.DRDCapsAdvertise
import RemoteDesktop.DRDPipelineSetup
import RemoteDesktop.DRDListenerSlot
import RemoteDesktop.DRDRoutingToken
import RemoteDesktop.DRDQtConfig
import RemoteDesktop.DRDQtBackpressure
import RemoteDesktop.DRDFrameQueue
import RemoteDesktop.DRDNlaSam
import RemoteDesktop.DRDRoutingTokenFormat
import RemoteDesktop.DRDRoutingTokenPeek
import RemoteDesktop.DRDCapsConfirm
import RemoteDesktop.LittleEndian
import RemoteDesktop.MixedHash
import RemoteDesktop.DRDTileHash
import RemoteDesktop.DRDEncodeReport
import RemoteDesktop.DRDCachedRefresh
import RemoteDesktop.DRDCodecContexts
import RemoteDesktop.HistoryStreak
import RemoteDesktop.DRDRefreshDrift
import RemoteDesktop.DRDConfigAccepted
import RemoteDesktop.AxisScale
import RemoteDesktop.DRDX11Input
import RemoteDesktop.CounterLoop
import RemoteDesktop.DRDTilePasses
import RemoteDesktop.DRDTilePartition
import RemoteDesktop.DRDTileRefinement
import RemoteDesktop.DRDCaptureLifecycle
import RemoteDesktop.DRDCapturePacing
import RemoteDesktop.DRDServerRuntime
import RemoteDesktop.DRDX11Keyboard
import RemoteDesktop.DRDTlsLogin
import RemoteDesktop.DRDFrameSequence
import RemoteDesktop.DRDRefreshTimer
import RemoteDesktop.DRDRedirection
import RemoteDesktop.DRDSoftwareFallback
