import RegletHost.Policy.Evaluate

/-!
The capability checker of the host library (`src/unnamed/part_002`, `CapabilityChecker`):
per-plugin granted sets consulted through the policy engine.

* `CapabilityChecker.checkWith`: the shape shared by `CheckNetwork`,
  `CheckNetworkConnection`, `CheckFileSystem`, `CheckEnvironment` and `CheckExec`; each is
  `checkWith` at its own pattern, message and policy question. `checkWith_eq_ok` says once
  for all of them that a check passes exactly when the plugin has grants that allow the
  request, and `checkWith_error` that a denial names the checked pattern.
* `CapabilityChecker.allowsPrivateNetwork`: the single probe `127.0.0.1:0`.
* `CapabilityChecker.toCapabilityGetter`: the getter handed to the runtime;
  `toCapabilityGetter_env` says that `env:V` is allowed by an environment pattern or, failing
  that, by a command pattern matching the text `env:V`.

The denial handler and the policy's `Check…` logging are side effects that change no
result, and are left out.
-/

namespace RegletHost

/-- `CapabilityChecker`: the policy, the granted set of each plugin (`none` for a missing
or nil entry), and the working directory fixed at construction. -/
structure CapabilityChecker where
  policy : Policy
  grantedCapabilities : String → Option GrantSet
  cwd : String

namespace CapabilityChecker

/-- `NewCapabilityChecker` after its options ran: `cwd` is the configured directory, or the
process's when none was given, and `symlinks` the filesystem's resolution when symbolic-link
resolution is on (the default). -/
def newCapabilityChecker (caps : String → Option GrantSet) (cwd : String)
    (symlinks : Option (String → String)) : CapabilityChecker where
  policy := { workingDirectory := cwd, symlinks := symlinks }
  grantedCapabilities := caps
  cwd := cwd

/-- `handleDeny`: the error text `message: pattern`. -/
def handleDeny (pattern message : String) : String := message ++ ": " ++ pattern

/-- The check shared by the typed checks: a plugin without grants is denied, otherwise the
policy decides. -/
def checkWith (c : CapabilityChecker) (pluginName pattern deniedMessage : String)
    (allowed : GrantSet → Bool) : Except String Unit :=
  match c.grantedCapabilities pluginName with
  | none => .error (handleDeny pattern "no capabilities granted")
  | some grants => if allowed grants then .ok () else .error (handleDeny pattern deniedMessage)

/-- `host:port` as `fmt` prints `%s:%d`. -/
def hostPort (host : String) (port : Int) : String := host ++ ":" ++ itoa port

/-- `CheckNetwork`. -/
def checkNetwork (c : CapabilityChecker) (pluginName : String) (req : NetworkRequest) :
    Except String Unit :=
  c.checkWith pluginName (hostPort req.host req.port) "network capability denied"
    (evaluateNetwork req)

/-- `CheckNetworkConnection`: a silent evaluation, then the logging check on denial. -/
def checkNetworkConnection (c : CapabilityChecker) (pluginName host : String) (port : Int) :
    Except String Unit :=
  c.checkWith pluginName (hostPort host port) "network capability denied"
    (evaluateNetwork { host := host, port := port })

/-- `CheckFileSystem`. -/
def checkFileSystem (c : CapabilityChecker) (pluginName : String) (req : FileSystemRequest) :
    Except String Unit :=
  c.checkWith pluginName req.path "filesystem capability denied" (c.policy.evaluateFileSystem req)

/-- `CheckEnvironment`. -/
def checkEnvironment (c : CapabilityChecker) (pluginName : String) (req : EnvironmentRequest) :
    Except String Unit :=
  c.checkWith pluginName req.name "environment capability denied" (evaluateEnvironment req)

/-- `CheckExec`. -/
def checkExec (c : CapabilityChecker) (pluginName : String) (req : ExecCapabilityRequest) :
    Except String Unit :=
  c.checkWith pluginName req.command "exec capability denied" (evaluateExec req)

/-- `AllowsPrivateNetwork`: whether the plugin's grants allow the request `127.0.0.1:0`. -/
def allowsPrivateNetwork (c : CapabilityChecker) (pluginName : String) : Bool :=
  match c.grantedCapabilities pluginName with
  | none => false
  | some grants => evaluateNetwork { host := "127.0.0.1", port := 0 } grants

/-- Every typed check passes exactly when the plugin has grants that allow the request. -/
lemma checkWith_eq_ok (c : CapabilityChecker) (pluginName pattern msg : String)
    (allowed : GrantSet → Bool) :
    c.checkWith pluginName pattern msg allowed = .ok () ↔
      ∃ g, c.grantedCapabilities pluginName = some g ∧ allowed g = true := by
  unfold checkWith
  split
  case h_1 h => simp [h]
  case h_2 g h =>
    split_ifs with ha
    · simp [h, ha]
    · simp [h, ha]

/-- A denial names the checked pattern, after one of the two messages. -/
lemma checkWith_error {c : CapabilityChecker} {pluginName pattern msg e : String}
    {allowed : GrantSet → Bool} (h : c.checkWith pluginName pattern msg allowed = .error e) :
    e = handleDeny pattern "no capabilities granted" ∨ e = handleDeny pattern msg := by
  unfold checkWith at h
  split at h
  · exact .inl (Except.error.inj h).symm
  · split_ifs at h
    exact .inr (Except.error.inj h).symm

/-- A check passes exactly when the plugin has grants and they allow the request. -/
@[simp] lemma checkWith_isOk (c : CapabilityChecker) (pluginName pattern msg : String)
    (allowed : GrantSet → Bool) :
    (c.checkWith pluginName pattern msg allowed).isOk = (c.grantedCapabilities pluginName).any allowed := by
  unfold checkWith
  split
  case h_1 h => simp [h, Except.isOk, Except.toBool]
  case h_2 g h => by_cases ha : allowed g <;> simp [h, ha, Except.isOk, Except.toBool]

/-- `ToCapabilityGetter(ctx, pluginName)`: a getter that answers for `pluginName`, whatever
plugin it is asked about. A capability `env:V` is the environment variable `V`, and failing
that the command `env:V`; any other capability is a command. -/
def toCapabilityGetter (c : CapabilityChecker) (pluginName : String) : String → String → Bool :=
  fun _ capability =>
    match cutPrefix capability "env:" with
    | some varName =>
      if (c.checkEnvironment pluginName ⟨varName⟩).isOk then true
      else if (c.checkExec pluginName ⟨capability⟩).isOk then true
      else false
    | none => (c.checkExec pluginName ⟨capability⟩).isOk

/-- The getter's answer for `env:V`: the plugin has grants, and they allow the environment
variable `V` or else the command `env:V`. Two grant sets with the same environment patterns
answer alike only when their command patterns decide `env:V` alike. -/
theorem toCapabilityGetter_env (c : CapabilityChecker) (pluginName plugin V : String) :
    c.toCapabilityGetter pluginName plugin ("env:" ++ V) = true ↔
      ∃ g, c.grantedCapabilities pluginName = some g ∧
        (evaluateEnvironment ⟨V⟩ g = true ∨ evaluateExec ⟨"env:" ++ V⟩ g = true) := by
  simp only [toCapabilityGetter, cutPrefix_append, checkEnvironment, checkExec, checkWith_isOk]
  cases c.grantedCapabilities pluginName <;> simp

/-- A command grant of `*` lets the getter answer true for every variable named without `/`:
a plugin granted `exec: ["*"]` and one granted nothing have the same (empty) environment
patterns, and the getter answers `env:HOME` for the first only. -/
theorem toCapabilityGetter_exec_star :
    let c₁ : CapabilityChecker :=
      { policy := {}, grantedCapabilities := fun _ => some { exec := ["*"] }, cwd := "" }
    let c₂ : CapabilityChecker := { policy := {}, grantedCapabilities := fun _ => some {}, cwd := "" }
    ({ exec := ["*"] } : GrantSet).env = ({} : GrantSet).env ∧
      evaluateEnvironment ⟨"HOME"⟩ { exec := ["*"] } = false ∧
      c₁.toCapabilityGetter "reader" "reader" "env:HOME" = true ∧
      c₂.toCapabilityGetter "reader" "reader" "env:HOME" = false :=
  ⟨rfl, rfl, rfl, rfl⟩

end CapabilityChecker

end RegletHost
