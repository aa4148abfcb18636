import BofWebRpc.Library.Runs
import BofWebRpc.Library.Shutdown
import BofWebRpc.Library.NonInterference
import BofWebRpc.Library.Ownership
import BofWebRpc.Library.Desk
import BofWebRpc.Library.Pipeline
import BofWebRpc.Library.Tiling
import BofWebRpc.Library.Fifo
import BofWebRpc.Library.Reassembly
import BofWebRpc.Library.Table
import BofWebRpc.Library.Query
import BofWebRpc.Library.Regex
import BofWebRpc.WebApp.ContentRange
import BofWebRpc.WebApp.CommandText
import BofWebRpc.WebApp.Http
import BofWebRpc.WebApp.Download
import BofWebRpc.WebApp.Upload
import BofWebRpc.WebApp.Stdio
import BofWebRpc.WebApp.Handlers
import BofWebRpc.WebApp.DownloadEndToEnd
import BofWebRpc.WebApp.UploadEndToEnd
import BofWebRpc.WebApp.Sessions
import BofWebRpc.WebApp.Transfers
import BofWebRpc.WebApp.Traffic
import BofWebRpc.WebApp.Pointers
import BofWebRpc.WebApp.Resources
import BofWebRpc.WebApp.DownloadTermination
import BofWebRpc.WebApp.Responses
import BofWebRpc.WebSocket.State
import BofWebRpc.WebSocket.Callback
import BofWebRpc.WebSocket.Processing
import BofWebRpc.WebSocket.Engine
import BofWebRpc.WebSocket.Iteration
import BofWebRpc.WebSocket.Isolation
import BofWebRpc.WebSocket.Accounting
import BofWebRpc.WebSocket.Serving
import BofWebRpc.WebSocket.Listening
import BofWebRpc.WebSocket.Outstanding
import BofWebRpc.WebSocket.Receiving
import BofWebRpc.WebSocket.Connections
import BofWebRpc.WebSocket.Registry
import BofWebRpc.WebSocket.ClientKey
import BofWebRpc.WebSocket.Handles
import BofWebRpc.WebSocket.Notifications
import BofWebRpc.WebSocket.Cancelling
import BofWebRpc.WebSocket.Wakeup
import BofWebRpc.WebSocket.Counting
import BofWebRpc.WebSocket.Synchronous
import BofWebRpc.WebSocket.Context
import BofWebRpc.WebSocket.Results
import BofWebRpc.WebSocket.Reconnecting
import BofWebRpc.WebSocket.Rejection
import BofWebRpc.WebSocket.Timeouts
import BofWebRpc.WebSocket.Reports
import BofWebRpc.WebSocket.Channels
import BofWebRpc.WebSocket.Sharing
import BofWebRpc.WebSocket.Tickets
import BofWebRpc.WebSocket.Reading
import BofWebRpc.WebSocket.CloseInfo
import BofWebRpc.WebSocket.WriteBuffer
import BofWebRpc.WebSocket.FailedWrites
import BofWebRpc.WebSocket.PartialWrites
import BofWebRpc.WebSocket.Truncation
import BofWebRpc.WebSocket.Supplying
import BofWebRpc.WebSocket.Link
import BofWebRpc.WebSocket.EndToEnd
import BofWebRpc.WebSocket.Ordering
import BofWebRpc.WebSocket.Lifecycle
import BofWebRpc.WebSocket.Answers
import BofWebRpc.WebSocket.ClientDesk
import BofWebRpc.WebSocket.Deadlines
import BofWebRpc.WebSocket.ReplyBuffer
import BofWebRpc.WebApp.SessionId
import BofWebRpc.WebApp.Listener
import BofWebRpc.Grpc.Server
