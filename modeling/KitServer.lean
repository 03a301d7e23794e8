import KitServer.Lib.Slice
import KitServer.ByteArray.Store
import KitServer.ByteArray.Flat
import KitServer.ByteArray.Refine
import KitServer.Lib.Digits
import KitServer.Lib.Zigzag
import KitServer.ByteArray.Codec
import KitServer.ByteArray.Numbers
import KitServer.ByteArray.Strings
import KitServer.Lib.OrderedSet
import KitServer.Timer.Manager
import KitServer.Timer.Expired
import KitServer.Http.RequestTable
import KitServer.Http.ResponseTable
import KitServer.Lib.Loop
import KitServer.Http.Message
import KitServer.Http.Receive
import KitServer.Http.Reads
import KitServer.Http.FixedBody
import KitServer.Http.ChunkRounds
import KitServer.Http.Limits
import KitServer.Http.ChunkSafety
import KitServer.Http.RequestScan
import KitServer.Http.HeadCuts
import KitServer.Lib.Machine
import KitServer.Timer.Operations
import KitServer.Timer.Sequential
import KitServer.Timer.Threads
import KitServer.Timer.Cancelled
import KitServer.Timer.Wakeup
import KitServer.IOManager.Contexts
import KitServer.FdManager
import KitServer.IOManager.Events
import KitServer.IOManager.Dispatch
import KitServer.IOManager.Registered
import KitServer.Hook
import KitServer.Scheduler.Exclusive
import KitServer.Lib.Count
import KitServer.Scheduler.Shutdown
import KitServer.Http.KeepAlive
import KitServer.Http.ConnectionPool
import KitServer.Http.ConnectionAge
import KitServer.Http.Dump
import KitServer.Http.ResponseCuts
import KitServer.Http.ResponseVersion
import KitServer.Http.ChunkedBody
import KitServer.Http.Framing
import KitServer.Scheduler.Single
import KitServer.IOManager.Tickle
import KitServer.Lib.Regex
import KitServer.Uri.Table
import KitServer.Lib.Follow
import KitServer.Uri.Create
import KitServer.Uri.Grammar
import KitServer.Uri.Parts
import KitServer.Config.Var
import KitServer.Http.ConnectionUse
import KitServer.Config.LoadFromYaml
import KitServer.Hook.Nonblock
import KitServer.Http.Servlet
import KitServer.Stream.FixSize
import KitServer.Stream.Socket
import KitServer.Lib.YamlText
import KitServer.Config.LexicalCast
import KitServer.Log.Define
import KitServer.Log.Formatter
import KitServer.Log.Grammar
import KitServer.Log.Readings
import KitServer.Log.Spells
import KitServer.Log.Follows
import KitServer.Log.Logger
import KitServer.Log.Appenders
import KitServer.Log.Initer
import KitServer.ByteArray.ReadBuf
import KitServer.ByteArray.Text
import KitServer.ByteArray.File
import KitServer.ByteArray.Varint
import KitServer.ByteArray.Atomic
import KitServer.Http.HostHeader
import KitServer.Http.Method
import KitServer.Uri.Components
import KitServer.Uri.Stored
import KitServer.Uri.Marks
import KitServer.Uri.RoundTrip
import KitServer.Http.Printed
import KitServer.Lib.Bits
import KitServer.Address.Sockaddr
import KitServer.Address.Masks
import KitServer.Lib.Inet
import KitServer.Address.Text
import KitServer.Address.LookUp
import KitServer.Uri.Port
import KitServer.Http.DoRequest
import KitServer.Stream.Writes
import KitServer.Address.Order
import KitServer.Hook.Sleep
import KitServer.ByteArray.Ifstream
import KitServer.Http.Groups
import KitServer.TcpServer
import KitServer.Config.FromString
import KitServer.Config.LoadFromConfigDir
import KitServer.Config.HttpServerConf
import KitServer.Scheduler.Pinned
import KitServer.Http.ResponsePrinted
import KitServer.Http.HttpServer
import KitServer.Mutex
import KitServer.Lib.Ownership
import KitServer.Descriptors
import KitServer.TcpServer.Accept
import KitServer.TcpServer.Sockets
import KitServer.Env
import KitServer.Config.LookUp
import KitServer.Thread
import KitServer.Application
import KitServer.Application.Servers
import KitServer.Log.Saved
