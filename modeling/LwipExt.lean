import LwipExt.Lib.Run
import LwipExt.Lib.History
import LwipExt.Http.Write
import LwipExt.Http.Resources
import LwipExt.Http.WebSocket
import LwipExt.Http.Post
import LwipExt.Http.Request
import LwipExt.Http.Server
import LwipExt.Http.Send
import LwipExt.Http.Main
import LwipExt.Http.FileResponse
import LwipExt.Http.Page
import LwipExt.Http.Frames
import LwipExt.Http.Counting
import LwipExt.Cmn.Address
import LwipExt.Cmn.Jsmn
import LwipExt.Cmn.SysParams
import LwipExt.Lib.Network
import LwipExt.UdpCmd.Emission
import LwipExt.UdpCmd.Exchange
import LwipExt.UdpCmd.SetupEffects
import LwipExt.Cmn.JsmnTokens
import LwipExt.Cmn.SysConfig
import LwipExt.UdpCmd.Authentication
import LwipExt.UdpCmd.Configuration
import LwipExt.UdpCmd.Framing
import LwipExt.Tftp.Server
import LwipExt.Tftp.Transfer
import LwipExt.Cmn.JsmnArray
import LwipExt.UdpCmd.ConfigText
import LwipExt.UdpCmd.History
import LwipExt.UdpCmd.Credentials
import LwipExt.UdpCmd.MacMember
import LwipExt.Ptp.States
import LwipExt.Ptp.SharedBuffer
import LwipExt.Ptp.Freshness
import LwipExt.Ptp.Pairing
import LwipExt.Ptp.PathDelay
import LwipExt.Ptp.Advertised
import LwipExt.Ptp.Calibration
import LwipExt.Ptp.Answers
import LwipExt.Ptp.Intervals
import LwipExt.Ptp.Timestamps
import LwipExt.Ptp.Sending
import LwipExt.Ptp.Ranking
import LwipExt.Ptp.ScaledTimes
import LwipExt.Ptp.NetRecv
import LwipExt.Ptp.Smoothing
import LwipExt.Nmos.ApiRequest
import LwipExt.Mdns.Discovery
import LwipExt.Telnet.Commands
import LwipExt.Cmn.Crc
import LwipExt.UdpCmd.FrameBounds
import LwipExt.UdpCmd.Rs232
import LwipExt.Nmos.Uuid
import LwipExt.Http.WebPages
import LwipExt.Http.WebSocketAccess
import LwipExt.Http.WebSocketHandshake
import LwipExt.Http.PbufTrace
import LwipExt.Lib.Chain
import LwipExt.Http.ConnList
import LwipExt.Http.ContentLength
import LwipExt.Http.PostBody
import LwipExt.Http.RequestTarget
import LwipExt.Lib.SiblingTree
import LwipExt.Nmos.AccessPoint
import LwipExt.Nmos.ResourceBounds
import LwipExt.Lib.Printing
import LwipExt.Lib.Json
import LwipExt.Nmos.Node
import LwipExt.Nmos.Connection
import LwipExt.Nmos.Requested
import LwipExt.Nmos.Documents
import LwipExt.Nmos.BodyBounds
import LwipExt.Nmos.WellFormed
import LwipExt.Nmos.Ports
import LwipExt.Lib.DoWhile
import LwipExt.Http.Retry
import LwipExt.Tftp.Reading
import LwipExt.Telnet.LineBounds
import LwipExt.Lib.Writes
import LwipExt.Mdns.Query
import LwipExt.Mdns.LabelBounds
import LwipExt.Http.PostSegment
import LwipExt.Http.PostEnd
import LwipExt.Http.PostCallbacks
import LwipExt.Mdns.Announcing
import LwipExt.Cmn.JsmnJson
import LwipExt.Mqtt.Broker
import LwipExt.Mqtt.Requests
