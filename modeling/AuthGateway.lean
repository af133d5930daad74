import AuthGateway.Cache.Setup
import AuthGateway.Cache.Sweeper
import AuthGateway.Config.Source
import AuthGateway.Gateway.Router
import AuthGateway.Proofs.Text.Base64
import AuthGateway.Proofs.Text.Blank
import AuthGateway.Proofs.Text.Integer
import AuthGateway.Proofs.Text.Hex
import AuthGateway.Proofs.Text.Split
import AuthGateway.Proofs.Text.Utf8
import AuthGateway.Proofs.Text.Form
import AuthGateway.Proofs.Time.Timestamp
import AuthGateway.Proofs.Provider.Local
import AuthGateway.Proofs.Json.Literal
import AuthGateway.Proofs.Json.Number
import AuthGateway.Proofs.Json.RoundTrip
import AuthGateway.Proofs.Json.Reader
import AuthGateway.Proofs.Session.Record
import AuthGateway.Proofs.Crypto.Gcm
import AuthGateway.Proofs.Crypto.Sha256
import AuthGateway.Proofs.Session.Framing
import AuthGateway.Proofs.Session.Cookie
import AuthGateway.Proofs.Session.Forgery
import AuthGateway.Proofs.Cache.Memory
import AuthGateway.Proofs.Cache.Script
import AuthGateway.Proofs.Store.Keys
import AuthGateway.Proofs.Store.History
import AuthGateway.Proofs.Store.Throttle
import AuthGateway.Proofs.Net.Header
import AuthGateway.Proofs.Net.HeaderMap
import AuthGateway.Proofs.Net.Ip
import AuthGateway.Proofs.Text.Percent
import AuthGateway.Proofs.Net.Path
import AuthGateway.Proofs.Net.Trail
import AuthGateway.Proofs.Net.Authority
import AuthGateway.Proofs.Gateway.Authenticator
import AuthGateway.Proofs.Gateway.Table
import AuthGateway.Proofs.Gateway.Dispatch
import AuthGateway.Proofs.Session.Header
import AuthGateway.Proofs.Session.Issue
import AuthGateway.Proofs.Store.Marker
import AuthGateway.Proofs.Store.Lockout
import AuthGateway.Proofs.Net.Response
import AuthGateway.Proofs.Store.Pace
import AuthGateway.Proofs.Gateway.Login
import AuthGateway.Proofs.Gateway.Watched
import AuthGateway.Proofs.Gateway.Traffic
import AuthGateway.Proofs.Gateway.Outbound
import AuthGateway.Proofs.Gateway.Address
import AuthGateway.Proofs.Gateway.Journey
import AuthGateway.Proofs.Cache.Ideal
import AuthGateway.Proofs.Provider.Answer
import AuthGateway.Proofs.Provider.Tree
import AuthGateway.Proofs.Provider.Directory
import AuthGateway.Proofs.Provider.Proved
import AuthGateway.Proofs.Provider.Known
import AuthGateway.Proofs.Gateway.Recheck
import AuthGateway.Proofs.Store.Race
import AuthGateway.Proofs.Gateway.Ways
import AuthGateway.Proofs.Gateway.Closed
import AuthGateway.Proofs.Gateway.Markup
import AuthGateway.Proofs.Gateway.Ahead
import AuthGateway.Proofs.Gateway.Records
import AuthGateway.Proofs.Gateway.Denial
import AuthGateway.Proofs.Gateway.Spelling
import AuthGateway.Proofs.Session.Lines
import AuthGateway.Proofs.Gateway.Accepted
import AuthGateway.Proofs.Gateway.Answered
import AuthGateway.Proofs.Gateway.Hops
import AuthGateway.Proofs.Gateway.Retry
import AuthGateway.Proofs.Provider.Escape
import AuthGateway.Proofs.Provider.Filter
import AuthGateway.Proofs.Provider.CommonName
import AuthGateway.Proofs.Config.Checks
import AuthGateway.Proofs.Gateway.Startup
import AuthGateway.Proofs.Net.Host
import AuthGateway.Proofs.Config.Scheme
import AuthGateway.Proofs.Store.Clock
import AuthGateway.Proofs.Gateway.Clock
import AuthGateway.Proofs.Session.Id
import AuthGateway.Proofs.Cache.Count
import AuthGateway.Proofs.Cache.Sweeper
import AuthGateway.Proofs.Login.Password
import AuthGateway.Proofs.Config.Format
import AuthGateway.Proofs.Gateway.Name
