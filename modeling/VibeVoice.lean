import VibeVoice.Semantics.TransitionSystem
import VibeVoice.Semantics.Fifo
import VibeVoice.Semantics.Json
import VibeVoice.Semantics.JsonReader
import VibeVoice.Semantics.JsonWriter
import VibeVoice.Semantics.JsonScan
import VibeVoice.Semantics.JsonIndent
import VibeVoice.Semantics.Utf8
import VibeVoice.Semantics.PyLines
import VibeVoice.Semantics.Interference
import VibeVoice.Semantics.UnixTree
import VibeVoice.Server.Job
import VibeVoice.Server.QueueSpec
import VibeVoice.Server.Lifecycle
import VibeVoice.Server.Refinement
import VibeVoice.Server.Transcribe
import VibeVoice.Server.VllmClient
import VibeVoice.Server.Steps
import VibeVoice.Server.Ledger
import VibeVoice.Server.Verdict
import VibeVoice.Server.Contract
import VibeVoice.Server.GroqClient
import VibeVoice.Server.Segments
import VibeVoice.Server.Truncation
import VibeVoice.Client.Transcribe
import VibeVoice.Client.Truncated
import VibeVoice.Client.Cli
import VibeVoice.Server.Shutdown
import VibeVoice.Server.Service
import VibeVoice.Server.Capacity
import VibeVoice.Server.Survival
import VibeVoice.Server.Uncancelled
import VibeVoice.Server.Position
import VibeVoice.Server.QueueStatus
import VibeVoice.Server.Deltas
import VibeVoice.Server.EventStream
import VibeVoice.Server.Delivery
import VibeVoice.Server.Upload
import VibeVoice.Server.Spooling
import VibeVoice.Server.Form
import VibeVoice.Server.Prompt
import VibeVoice.Server.Audio
import VibeVoice.Server.Slot
import VibeVoice.Server.Storage
import VibeVoice.Server.Payload
import VibeVoice.Server.Opus
import VibeVoice.Semantics.Multimap
import VibeVoice.Proxy.Http
import VibeVoice.Proxy.Headers
import VibeVoice.Proxy.Identity
import VibeVoice.Proxy.Gateway
import VibeVoice.Server.ClientIdentity
import VibeVoice.Proxy.Authentic
import VibeVoice.Proxy.Gate
import VibeVoice.Proxy.HopByHop
import VibeVoice.Proxy.Policy
import VibeVoice.Proxy.Renewal
import VibeVoice.Proxy.Connections
import VibeVoice.Client.Pin
import VibeVoice.Client.Multipart
import VibeVoice.Proxy.Reload
import VibeVoice.Scripts.ClientBundle
import VibeVoice.Scripts.ClientCert
import VibeVoice.Scripts.BundleFile
import VibeVoice.Scripts.ServerCert
import VibeVoice.Server.App
import VibeVoice.Server.RequestBody
import VibeVoice.System.Tenancy
import VibeVoice.System.Upload
import VibeVoice.System.Socket
import VibeVoice.Client.Status
