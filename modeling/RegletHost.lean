import RegletHost.Text
import RegletHost.Grant.GrantSet
import RegletHost.Policy.Match
import RegletHost.Policy.Evaluate
import RegletHost.Host.NetUrl
import RegletHost.Host.Checker
import RegletHost.Host.Middleware
import RegletHost.Gatekeeper.Prompt
import RegletHost.Gatekeeper.Grant
import RegletHost.Capability.Extractor
import RegletHost.Netutil.Addr
import RegletHost.Netutil.SecureDialer
import RegletHost.Netutil.Interleaving
import RegletHost.Http.Client
import RegletHost.Http.Enforcement
import RegletHost.Plugin.Values
import RegletHost.Storage.Files
import RegletHost.Plugin.Repository
import RegletHost.Plugin.Service
import RegletHost.Grantstore.FileStore
import RegletHost.Plugin.Lockfile
import RegletHost.Plugin.LockfileService
import RegletHost.Netutil.LimitReader
import RegletHost.Http.Response
import RegletHost.Netutil.Retry
import RegletHost.Host.Json
import RegletHost.Host.UserAgent
import RegletHost.Plugin.VersionResolver
import RegletHost.Host.UrlFull
import RegletHost.Netutil.UrlUtils
import RegletHost.Http.Errors
import RegletHost.Plugin.Resolution
import RegletHost.Capability.Risk
import RegletHost.Capability.Registry
import RegletHost.Plugin.OciRegistry
import RegletHost.Gatekeeper.Terminal
import RegletHost.Registry.Schema
import RegletHost.Plugin.PluginRegistry
import RegletHost.Host.Executor
import RegletHost.Netutil.FormatSize
import RegletHost.Wazero.Log
