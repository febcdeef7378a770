import SM.Lib.BigEndian
import SM.Lib.CyclicCounter
import SM.Lib.Framing
import SM.Lib.HeadedFrames
import SM.Utils.PackInt
import SM.Utils.Base64
import SM.Utils.CommandHead
import SM.Utils.QueryString
import SM.Utils.HeadDecoders
import SM.Utils.Base64Heads
import SM.Utils.StringView
import SM.Network.StreamNetDealer
import SM.Network.TcpChannelImpl
import SM.Network.HeaderRange
import SM.Network.TcpReceive
import SM.Network.ReceiveLoop
import SM.Network.TcpSend
import SM.Network.TcpStreamHandler
import SM.Network.StreamCalls
import SM.Network.StreamDelivery
import SM.Network.TcpChannel
import SM.Network.StreamSends
import SM.Lib.Schedule
import SM.Network.SharedSend
import SM.Network.FullDuplexChannel
import SM.Network.NngChannels
import SM.Network.ReqImpl
import SM.Network.AsynRep
import SM.Network.RepContext
import SM.Network.Links
import SM.Network.SendReports
import SM.Network.LocalNetManager
import SM.Network.SocketNumbers
import SM.Network.MessageSplitFuncs
import SM.Network.EncodeDecode
import SM.Lib.Machine
import SM.Hotupdate.FileOp
import SM.Hotupdate.ConcurrentLoads
import SM.Hotupdate.FilePathMonitor
import SM.Lib.LexicalPath
import SM.Hotupdate.ResourcePath
import SM.Configs.Routers
import SM.Configs.RouterReports
import SM.Configs.HttpRouters
import SM.Network.PlatformPack
import SM.Network.PackUnpackManager
import SM.Network.PackDealerMainSub
import SM.Network.PackDealers
import SM.Network.MessageRouter
import SM.Network.Dispatcher
import SM.Network.MainCommands
import SM.Database.DBConnectManager
import SM.Database.DBConnect
import SM.Database.QueryReplies
import SM.Database.NNGDatabaseReq
import SM.Lib.Places
import SM.Database.ChannelPools
import SM.Inc.TemplateFuncs
import SM.Inc.ReqReps
import SM.Lib.Numerals
import SM.Inc.Itoa
import SM.Inc.StringStream
import SM.Inc.JsonReader
import SM.Inc.JsonStrings
import SM.Inc.JsonTokens
import SM.Inc.JsonProgress
import SM.Inc.Json
import SM.Inc.JsonValues
import SM.Inc.JsonObjects
import SM.Inc.JsonContainers
import SM.Inc.JsonRecords
import SM.Inc.JsonFront
import SM.Inc.JsonEntries
import SM.Inc.JsonRoundTrip
import SM.Inc.JsonArguments
import SM.Inc.OneShot
import SM.Inc.OneShotChannel
import SM.Inc.OneShotSteps
import SM.Inc.OneShotDelivery
import SM.Inc.HttpCmdTag
import SM.Inc.TransCmdTag
import SM.Inc.Apps
import SM.Inc.WebSocket
import SM.Database.DealAuth
import SM.Lib.OrderedMap
import SM.Database.DbCommon
import SM.Database.UserGenInfo
import SM.Database.Regist
import SM.Database.SysAdmin
import SM.Database.Login
import SM.Network.Process
import SM.Network.ProcessSteps
import SM.Lib.Holders
import SM.Network.PendingSignals
import SM.Network.OwnNumbers
import SM.Network.Assertions
import SM.Lib.Keyed
import SM.Network.ProcessViews
import SM.Network.Exchange
import SM.Network.TwoEnds
import SM.Network.ReqNumbers
import SM.Network.NumberCycles
import SM.Network.Tracking
import SM.Network.Correlation
import SM.Network.CallsReturn
import SM.Network.RequestReply
import SM.Network.ByteWires
import SM.Network.SignalChannels
