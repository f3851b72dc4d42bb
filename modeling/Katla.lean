import Katla.Socket.Basic
import Katla.Socket.Ops
import Katla.Socket.Ledger
import Katla.Socket.Descriptors
import Katla.Socket.Errors
import Katla.Socket.Url
import Katla.Socket.Arguments
import Katla.Lws.Callback
import Katla.Lws.Lifecycle
import Katla.Lws.Sessions
import Katla.Lws.Routing
import Katla.Lws.Http
import Katla.Lws.Write
import Katla.Lws.Handlers
import Katla.Lws.Objects
import Katla.Lws.Server
import Katla.Lws.Websocket
