import DevDriver.Analysis.GracefulClose
import DevDriver.Analysis.Handshake
import DevDriver.Analysis.Isolation
import DevDriver.Analysis.CallbackProtocol
import DevDriver.Analysis.ResetDrain
import DevDriver.Analysis.TransferInStep
import DevDriver.Analysis.VersionNegotiation
import DevDriver.Analysis.KeepAlive
import DevDriver.Analysis.SharedQueueOrder
import DevDriver.Analysis.MessageBoundaries
import DevDriver.Analysis.UriClientReset
import DevDriver.Analysis.ServerBlocks
import DevDriver.Analysis.DriverPauses
import DevDriver.Analysis.DriverSteps
import DevDriver.Analysis.StaleBytes
import DevDriver.Analysis.ClockQueries
import DevDriver.Analysis.SettingsValues
import DevDriver.Analysis.SiphonAnswers
import DevDriver.Analysis.JsonConversion
import DevDriver.Analysis.DiscoveryRuns
import DevDriver.Analysis.ProviderUpdates
import DevDriver.Analysis.EventStream
import DevDriver.Analysis.EventChunkOrder
import DevDriver.Analysis.ChunkSessions
import DevDriver.Analysis.ClientTables
import DevDriver.Analysis.FreshBlockIds
import DevDriver.Analysis.ClientIds
import DevDriver.Analysis.SocketSending
import DevDriver.Analysis.ListenQueue
import DevDriver.Analysis.RmtResources
import DevDriver.Analysis.PageTableTokens
import DevDriver.Analysis.BitSets
import DevDriver.Analysis.ValueAccess
import DevDriver.Analysis.StringAccess
import DevDriver.Analysis.FullResponse
import DevDriver.Analysis.SettingsBlobs
import DevDriver.Analysis.CrashEvents
import DevDriver.Analysis.HashBlocks
import DevDriver.Analysis.ProviderDirectory
import DevDriver.Analysis.UriResponses
import DevDriver.Analysis.HexStrings
import DevDriver.Analysis.EventBits
import DevDriver.Analysis.ScratchBuffers
import DevDriver.Analysis.RingBuffers
import DevDriver.Analysis.DynamicBuffers
import DevDriver.Analysis.DataStreams
import DevDriver.Analysis.EventStreamers
import DevDriver.Analysis.PipelineRecords
import DevDriver.Analysis.RmtFiles
import DevDriver.Analysis.RouterBroadcasts
