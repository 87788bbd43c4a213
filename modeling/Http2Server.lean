import Http2Server.Lib.ByteString
import Http2Server.Lib.UnorderedMap
import Http2Server.Lib.Machine
import Http2Server.Lib.Pool
import Http2Server.Lib.Ledger
import Http2Server.Common
import Http2Server.Nghttp2
import Http2Server.BackendRegistry
import Http2Server.Json
import Http2Server.HttpClient
import Http2Server.World
import Http2Server.ProxyHandler
import Http2Server.RequestHandler
import Http2Server.Routes
import Http2Server.Main
import Http2Server.Http1Proxy
import Http2Server.ActiveRequest
import Http2Server.Http1Session
import Http2Server.Http1Accounting
import Http2Server.Http1States
import Http2Server.Http1Serving
import Http2Server.Http1Lifecycle
import Http2Server.FrontEnds
import Http2Server.Forwarding
import Http2Server.Session
import Http2Server.SessionAssembly
import Http2Server.SessionResponse
import Http2Server.SessionIsolation
import Http2Server.SessionLifetime
import Http2Server.Handling
import Http2Server.ServerRequests
import Http2Server.Process
import Http2Server.Http2Client
import Http2Server.Http2ClientIsolation
import Http2Server.Http2ClientOutcome
import Http2Server.Http2ClientResponse
import Http2Server.Http2ClientBody
import Http2Server.Http2ClientTables
import Http2Server.HeaderEncoding
import Http2Server.ForwardingPaths
import Http2Server.ProxyClient
import Http2Server.ProxyCalls
import Http2Server.ForwardingClient
import Http2Server.Registration
import Http2Server.RemoteRegistration
import Http2Server.TunnelLifecycle
import Http2Server.TunnelPort
import Http2Server.ForwardingMain
import Http2Server.Http2Exchange
import Http2Server.TunnelTable
import Http2Server.Quiescence
import Http2Server.Relaying
