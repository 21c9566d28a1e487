import Lorawan.Lib.Machine
import Lorawan.Lib.Loop
import Lorawan.Lib.WriteBehind
import Lorawan.Lib.Octets
import Lorawan.Lib.Text
import Lorawan.Lib.Cipher
import Lorawan.Lib.Json
import Lorawan.Lib.Ring
import Lorawan.Lib.Book
import Lorawan.Lib.Budget
import Lorawan.Lib.BitField
import Lorawan.Lib.Circular
import Lorawan.Lib.Records
import Lorawan.Lib.Query
import Lorawan.Lib.Transaction
import Lorawan.Backend.Crypto
import Lorawan.Backend.Frame
import Lorawan.Backend.Message
import Lorawan.Backend.Exchange
import Lorawan.Backend.SentAnswers
import Lorawan.Backend.HexTexts
import Lorawan.Backend.MetaData
import Lorawan.NetworkServer.MetaData
import Lorawan.NetworkServer.UplinkMetaData
import Lorawan.NetworkServer.DownlinkMetaData
import Lorawan.NetworkServer.Reception
import Lorawan.NetworkServer.Transactions
import Lorawan.NetworkServer.ReceivedTexts
import Lorawan.JoinServer.Tables
import Lorawan.JoinServer.Request
import Lorawan.JoinServer.Accept
import Lorawan.JoinServer.Replay
import Lorawan.JoinServer.FailedJoins
import Lorawan.JoinServer.FreshKeys
import Lorawan.NetworkServer.JoinRequest
import Lorawan.JoinServer.Device
import Lorawan.JoinServer.Agreement
import Lorawan.JoinServer.RejoinDispatch
import Lorawan.AppServer.Tables
import Lorawan.AppServer.Downlink
import Lorawan.AppServer.Keystream
import Lorawan.AppServer.TransactionList
import Lorawan.NetworkServer.Sessions
import Lorawan.NetworkServer.MacQueue
import Lorawan.NetworkServer.Schedule
import Lorawan.NetworkServer.MacRing
import Lorawan.NetworkServer.FrameLayout
import Lorawan.NetworkServer.MacCommands
import Lorawan.NetworkServer.Serving
import Lorawan.NetworkServer.SessionFallback
import Lorawan.NetworkServer.GatewayStream
import Lorawan.NetworkServer.GatewayDownlink
import Lorawan.NetworkServer.TokenRouting
import Lorawan.NetworkServer.BeaconDeferral
import Lorawan.NetworkServer.Changes
import Lorawan.NetworkServer.Frames
import Lorawan.NetworkServer.DeclaredCounter
import Lorawan.NetworkServer.UplinkReplay
import Lorawan.NetworkServer.DownlinkCounter
import Lorawan.NetworkServer.MoteList
import Lorawan.NetworkServer.JoinAddress
import Lorawan.NetworkServer.FreeAddress
import Lorawan.NetworkServer.FreedMotes
import Lorawan.NetworkServer.Requesters
import Lorawan.NetworkServer.RoamingStart
import Lorawan.NetworkServer.BestRequester
import Lorawan.NetworkServer.JoinAnswer
import Lorawan.NetworkServer.JoinTaken
import Lorawan.NetworkServer.Docket
import Lorawan.NetworkServer.AnsweredOnce
import Lorawan.NetworkServer.AppDownlink
import Lorawan.NetworkServer.AppBookkeeping
import Lorawan.NetworkServer.AppRelay
import Lorawan.NetworkServer.DownlinkClass
import Lorawan.NetworkServer.AwaitedAck
import Lorawan.NetworkServer.Leftovers
import Lorawan.NetworkServer.AlikeServers
import Lorawan.NetworkServer.SessionIsolation
import Lorawan.NetworkServer.MoteIdentity
import Lorawan.NetworkServer.MotesTable
import Lorawan.NetworkServer.RefusedUplinks
import Lorawan.NetworkServer.RefusedRoaming
import Lorawan.NetworkServer.RoamingStop
import Lorawan.NetworkServer.AddressLookups
import Lorawan.NetworkServer.RowUpdates
import Lorawan.NetworkServer.WaitingWindow
import Lorawan.NetworkServer.SessionMemory
import Lorawan.NetworkServer.SessionPruning
import Lorawan.NetworkServer.ExpiredSessions
import Lorawan.NetworkServer.Provisioning
import Lorawan.NetworkServer.FrameCounters
import Lorawan.NetworkServer.NetIDs
import Lorawan.Backend.PayloadCipher
import Lorawan.NetworkServer.KeyTexts
import Lorawan.NetworkServer.MacState
import Lorawan.NetworkServer.MacParser
import Lorawan.NetworkServer.StartCommands
import Lorawan.NetworkServer.Adr
import Lorawan.NetworkServer.ForceRejoin
import Lorawan.Lib.Preference
import Lorawan.Backend.DnsParser
import Lorawan.Backend.Resolver
import Lorawan.NetworkServer.DownlinkBlocks
import Lorawan.NetworkServer.PingSlots
import Lorawan.Lib.Rounds
import Lorawan.Lib.Gf256
import Lorawan.Lib.Rijndael
import Lorawan.Lib.Absorber
import Lorawan.Lib.Cmac
import Lorawan.Backend.Aes
import Lorawan.Backend.Cmac
import Lorawan.AppServer.Base64
import Lorawan.AppServer.UplinkKeys
import Lorawan.Lib.Keystream
import Lorawan.Backend.FrmPayload
import Lorawan.EndToEnd.Downlink
import Lorawan.NetworkServer.UplinkPayload
import Lorawan.AppServer.UplinkFrames
import Lorawan.EndToEnd.Uplink
import Lorawan.Lib.FirstRow
import Lorawan.JoinServer.Registry
import Lorawan.JoinServer.RegisteredJoins
import Lorawan.JoinServer.HomeNS
import Lorawan.NetworkServer.Discovery
import Lorawan.EndToEnd.Discovery
