import AISummoner.Agent.EventHub
import AISummoner.Agent.Excerpt
import AISummoner.Agent.Exclusion
import AISummoner.Agent.Execution
import AISummoner.Agent.Title
import AISummoner.Agent.Transcript
import AISummoner.App.Dispatcher
import AISummoner.Auth.Password
import AISummoner.Deepseek.Conversation
import AISummoner.Device.Callers
import AISummoner.Dsh.References
import AISummoner.Dsh.Turn
import AISummoner.HttpApi.Attempts
import AISummoner.Identity.Store
import AISummoner.Opencode.Families
import AISummoner.OpencodeBridge.Outcome
import AISummoner.OpencodeBridge.Proof
import AISummoner.OpencodeBridge.Response
import AISummoner.Pairing.Code
import AISummoner.Protocol.RoundTrip
import AISummoner.RemoteClient.Journal
import AISummoner.Sse.Independence
import AISummoner.SshServer.Output
import AISummoner.SshServer.Requests
import AISummoner.SshServer.Scan
import AISummoner.Store.Isolation
import AISummoner.Store.PairingSafety
import AISummoner.Terminal.Sessions
import AISummoner.Terminal.Workers
import AISummoner.Tunnel.Lookup
import AISummoner.Tunnel.StreamHeader
import AISummoner.Web.Reducer
import AISummoner.Web.Snapshot
import AISummoner.Web.Transcript
