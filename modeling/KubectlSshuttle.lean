import KubectlSshuttle.Cmd.ChunkPump
import KubectlSshuttle.Cmd.Connect
import KubectlSshuttle.Cmd.KubectlExec
import KubectlSshuttle.Cmd.Lifecycle
import KubectlSshuttle.Cmd.Plugin
import KubectlSshuttle.Cmd.SshProxy
import KubectlSshuttle.Lib.Address
import KubectlSshuttle.Lib.AddressParser
import KubectlSshuttle.Lib.AddressRoundTrip
import KubectlSshuttle.Lib.ByteOrder
import KubectlSshuttle.Lib.CommandScript
import KubectlSshuttle.Lib.CoreSchema
import KubectlSshuttle.Lib.Counting
import KubectlSshuttle.Lib.Environ
import KubectlSshuttle.Lib.GoText
import KubectlSshuttle.Lib.Network
import KubectlSshuttle.Lib.PostOffice
import KubectlSshuttle.Lib.Registry
import KubectlSshuttle.Lib.RustText
import KubectlSshuttle.Lib.SelfDelimiting
import KubectlSshuttle.Lib.Settling
import KubectlSshuttle.Lib.Shell
import KubectlSshuttle.Lib.Transition
import KubectlSshuttle.Lib.Words
import KubectlSshuttle.Lib.Yaml
import KubectlSshuttle.Lib.YamlPrinter
import KubectlSshuttle.Lib.YamlRoundTrip
import KubectlSshuttle.Proxy.Deployment
import KubectlSshuttle.Proxy.ImageReference
import KubectlSshuttle.Proxy.Manifest
import KubectlSshuttle.Rushtle.Allocations
import KubectlSshuttle.Rushtle.Answers
import KubectlSshuttle.Rushtle.AtRest
import KubectlSshuttle.Rushtle.Backpressure
import KubectlSshuttle.Rushtle.Bootstrap
import KubectlSshuttle.Rushtle.ChannelIds
import KubectlSshuttle.Rushtle.ChannelOwnership
import KubectlSshuttle.Rushtle.Channels
import KubectlSshuttle.Rushtle.Classification
import KubectlSshuttle.Rushtle.Client
import KubectlSshuttle.Rushtle.ClientMap
import KubectlSshuttle.Rushtle.ClientRuns
import KubectlSshuttle.Rushtle.ComingToRest
import KubectlSshuttle.Rushtle.Connection
import KubectlSshuttle.Rushtle.ConnectionRuns
import KubectlSshuttle.Rushtle.Conversations
import KubectlSshuttle.Rushtle.Deliveries
import KubectlSshuttle.Rushtle.DemuxLock
import KubectlSshuttle.Rushtle.Dialing
import KubectlSshuttle.Rushtle.DnsBooks
import KubectlSshuttle.Rushtle.DnsMatching
import KubectlSshuttle.Rushtle.DnsSources
import KubectlSshuttle.Rushtle.DnsTasks
import KubectlSshuttle.Rushtle.Emissions
import KubectlSshuttle.Rushtle.Endings
import KubectlSshuttle.Rushtle.Fidelity
import KubectlSshuttle.Rushtle.Firewall
import KubectlSshuttle.Rushtle.FrameCap
import KubectlSshuttle.Rushtle.Grammar
import KubectlSshuttle.Rushtle.HalfClose
import KubectlSshuttle.Rushtle.HostSignals
import KubectlSshuttle.Rushtle.HostsFile
import KubectlSshuttle.Rushtle.LinkSetup
import KubectlSshuttle.Rushtle.LockWaits
import KubectlSshuttle.Rushtle.NatTables
import KubectlSshuttle.Rushtle.OpenQueues
import KubectlSshuttle.Rushtle.OriginalDst
import KubectlSshuttle.Rushtle.OutQueue
import KubectlSshuttle.Rushtle.OversizedFrames
import KubectlSshuttle.Rushtle.Parties
import KubectlSshuttle.Rushtle.PayloadSyntax
import KubectlSshuttle.Rushtle.PfAnchors
import KubectlSshuttle.Rushtle.PfRules
import KubectlSshuttle.Rushtle.Prices
import KubectlSshuttle.Rushtle.Probe
import KubectlSshuttle.Rushtle.ProbeAnswers
import KubectlSshuttle.Rushtle.ProbeDecision
import KubectlSshuttle.Rushtle.ProbeRetry
import KubectlSshuttle.Rushtle.ProbeTimeout
import KubectlSshuttle.Rushtle.ResolvConf
import KubectlSshuttle.Rushtle.SentFrames
import KubectlSshuttle.Rushtle.Server
import KubectlSshuttle.Rushtle.ServerLoop
import KubectlSshuttle.Rushtle.ServerRuns
import KubectlSshuttle.Rushtle.Serving
import KubectlSshuttle.Rushtle.Shutdown
import KubectlSshuttle.Rushtle.Ssnet
import KubectlSshuttle.Rushtle.SsnetPayloads
import KubectlSshuttle.Rushtle.SsnetStream
import KubectlSshuttle.Rushtle.Standstill
import KubectlSshuttle.Rushtle.StartUp
import KubectlSshuttle.Rushtle.Streams
import KubectlSshuttle.Rushtle.SyncHeader
import KubectlSshuttle.Rushtle.System
import KubectlSshuttle.Rushtle.Traffic
import KubectlSshuttle.Rushtle.UdpFlows
import KubectlSshuttle.Rushtle.UdpForwarding
import KubectlSshuttle.Rushtle.UdpPeers
import KubectlSshuttle.Rushtle.UdpRelay
import KubectlSshuttle.Rushtle.Winding
