import Astrix.AcceptedTargets
import Astrix.ActivityWaits
import Astrix.AppsScript
import Astrix.BatchDispatch
import Astrix.BatchEnvelope
import Astrix.BatchEnvelopeSoundness
import Astrix.BatchSizes
import Astrix.BlockedHeads
import Astrix.BoundedWait
import Astrix.Carrier
import Astrix.Client
import Astrix.ClientConfig
import Astrix.ClientDirectory
import Astrix.ClientIsolation
import Astrix.ClientQueues
import Astrix.ClientRuns
import Astrix.CloseFlush
import Astrix.CompressionSkips
import Astrix.ConfigFields
import Astrix.ConfigFiles
import Astrix.ConfigMenu
import Astrix.ConnectRequests
import Astrix.CrossTalk
import Astrix.DownloadClient
import Astrix.DownloadOrder
import Astrix.DownloadServer
import Astrix.DrainAll
import Astrix.DrainBudget
import Astrix.DrainProgress
import Astrix.DrainRollback
import Astrix.EndpointBackoff
import Astrix.EndpointStatistics
import Astrix.EnvOverrides
import Astrix.ExitHandler
import Astrix.ExitServer
import Astrix.FailedPost
import Astrix.FrameGrammar
import Astrix.HighWater
import Astrix.IdleClient
import Astrix.IdleExpiry
import Astrix.InlineDecoder
import Astrix.InlineEncoder
import Astrix.InvocationCounts
import Astrix.Library.Base64
import Astrix.Library.ByteBuffer
import Astrix.Library.DecimalText
import Astrix.Library.FifoRelay
import Astrix.Library.HexText
import Astrix.Library.InetAddress
import Astrix.Library.JsNumber
import Astrix.Library.JsonValue
import Astrix.Library.KeyDirectory
import Astrix.Library.KeyedFold
import Astrix.Library.MovingAverage
import Astrix.Library.OrderStatistics
import Astrix.Library.OrderedDict
import Astrix.Library.PartialView
import Astrix.Library.ReservedQueue
import Astrix.Library.ServedInTurn
import Astrix.Library.SharedEvent
import Astrix.Library.StepCost
import Astrix.Library.StepMachine
import Astrix.Library.TextCodec
import Astrix.Library.TextEdits
import Astrix.Library.UrlSplit
import Astrix.Library.WakeLoop
import Astrix.LongPoll
import Astrix.LostConnection
import Astrix.MarshalCalls
import Astrix.NamedFrames
import Astrix.OneSession
import Astrix.OneWorker
import Astrix.OpenRequests
import Astrix.OrphanWorker
import Astrix.PlainBatch
import Astrix.PollRounds
import Astrix.ProxiedTunnel
import Astrix.QualityScore
import Astrix.QueueBytes
import Astrix.QueueSteps
import Astrix.QuietWorkers
import Astrix.ReceiveLoops
import Astrix.ResponseLedger
import Astrix.ResponseReadable
import Astrix.ResponsesInTurn
import Astrix.RunnableConfigs
import Astrix.ScriptKeys
import Astrix.ScriptedClient
import Astrix.SealedTunnel
import Astrix.SequenceNumbers
import Astrix.ServedRequest
import Astrix.ServerConfig
import Astrix.ServerDirectory
import Astrix.ServerQueues
import Astrix.ServerRuns
import Astrix.ServerStatus
import Astrix.SessionAccounting
import Astrix.SessionDispatch
import Astrix.SessionIds
import Astrix.SessionPool
import Astrix.ShippedClient
import Astrix.Socks5
import Astrix.SocksAuth
import Astrix.SocksFront
import Astrix.SocksSegments
import Astrix.SocksTasks
import Astrix.Stranded
import Astrix.Targets
import Astrix.Tunnel
import Astrix.UnauthenticatedPost
import Astrix.UploadClient
import Astrix.UploadOrder
import Astrix.UploadServer
import Astrix.UpstreamLimit
import Astrix.VirtualConn
import Astrix.WireFrame
import Astrix.WorkerEnding
import Astrix.WorkerRuns
import Astrix.WorkerSurvival
