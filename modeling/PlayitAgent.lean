import PlayitAgent.Control.ClockSteps
import PlayitAgent.Control.PongArithmetic
import PlayitAgent.Ipc.Calls
import PlayitAgent.Network.OriginTable
import PlayitAgent.Proto.ControlResend
import PlayitAgent.Proto.ControlRoundTrip
import PlayitAgent.Proto.ControlSignature
import PlayitAgent.Proto.ControlSize
import PlayitAgent.Runtime.ClaimShutdown
import PlayitAgent.Runtime.EventTimes
import PlayitAgent.Runtime.Periods
import PlayitAgent.Runtime.Stopping
import PlayitAgent.Udp.Channel
import PlayitAgent.Udp.ReceiverShutdown
import PlayitAgent.Udp.Replies
import PlayitAgent.Udp.Wakeups
import PlayitAgent.Proto.MtuPattern
import PlayitAgent.Api.HttpClient
import PlayitAgent.Network.ProxyCodec
import PlayitAgent.Network.TcpPipe
import PlayitAgent.Windows.PipeSecurity
import PlayitAgent.Api.SessionStore
import PlayitAgent.Runtime.SecretRoundTrip
import PlayitAgent.Windows.SecretMigration
import PlayitAgent.Utils.KeyToId
import PlayitAgent.Network.TcpTraffic
import PlayitAgent.Runtime.Supervised
import PlayitAgent.Core.Relay
