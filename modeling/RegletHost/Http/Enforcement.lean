import RegletHost.Http.Client

/-!
What the capability middleware's decision on an `http_request` call means for the client
that `PerformHTTPRequest` then builds in the forwarded context.

The handler between the two is not part of the sources: as `PerformHTTPRequest`'s own
documentation shows it, it decodes the same payload into an `HTTPRequest` with the URL
the middleware checked and calls `PerformHTTPRequest(ctx, req)`. Its options are any that
leave SSRF protection as the context set it (`KeepsSSRF`), none among them.

* `performConfig_ssrf`: the forwarded flag turns SSRF protection on with the plugin's
  private-network answer.
* `forwarded_dialer_allows_iff`: the dialer admits a restricted address exactly when the
  plugin's grants allow `127.0.0.1:0`, whatever they say of the address itself;
  `granted_loopback_blocked`: a grant of `127.0.0.1:8080` passes the check and the
  dialer blocks the connection.
* `forwarded_requests`: the first request is the checked URL, each later one a redirect
  the server chose, and there are at most `max_redirects` of them;
  `redirect_leaves_grant`: a redirect takes the client to a host no grant allows.
* `forwarded_dials_admitted`: still every connection, redirects included, goes through the
  dialer, which reaches a restricted address only when the grants allow `127.0.0.1:0`.
-/

namespace RegletHost

namespace Http

open NetUrl Netutil

/-- An option that leaves SSRF protection and the private-network switch as they are. -/
def KeepsSSRF (o : HTTPOption) : Prop :=
  ∀ c, (o c).ssrfProtection = c.ssrfProtection ∧ (o c).allowPrivate = c.allowPrivate

lemma applyRequestConfig_ssrf (req : HTTPRequest) (cfg : HTTPConfig) :
    (applyRequestConfig req cfg).ssrfProtection = cfg.ssrfProtection ∧
      (applyRequestConfig req cfg).allowPrivate = cfg.allowPrivate := by
  unfold applyRequestConfig
  split_ifs <;> cases req.followRedirects <;> exact ⟨rfl, rfl⟩

lemma foldl_keepsSSRF {opts : List HTTPOption} (hopts : ∀ o ∈ opts, KeepsSSRF o) (cfg : HTTPConfig) :
    (opts.foldl (fun c o => o c) cfg).ssrfProtection = cfg.ssrfProtection ∧
      (opts.foldl (fun c o => o c) cfg).allowPrivate = cfg.allowPrivate := by
  induction opts generalizing cfg with
  | nil => exact ⟨rfl, rfl⟩
  | cons o os ih =>
    obtain ⟨hs, ha⟩ := ih (fun o' ho' => hopts o' (List.mem_cons_of_mem _ ho')) (o cfg)
    obtain ⟨hs', ha'⟩ := hopts o (List.mem_cons_self _ _) cfg
    exact ⟨hs.trans hs', ha.trans ha'⟩

/-- A context carrying `ssrf_allow_private` turns SSRF protection on with that value, under
options that keep it. -/
lemma performConfig_ssrf {ctx : CallContext} {b : Bool} (hctx : ctx.ssrfAllowPrivate = some b)
    (req : HTTPRequest) {opts : List HTTPOption} (hopts : ∀ o ∈ opts, KeepsSSRF o) :
    (performConfig ctx req opts).ssrfProtection = true ∧ (performConfig ctx req opts).allowPrivate = b := by
  obtain ⟨hs, ha⟩ := applyRequestConfig_ssrf req
    (opts.foldl (fun c o => o c) (withHTTPSSRFProtection b defaultHTTPConfig))
  obtain ⟨hs', ha'⟩ := foldl_keepsSSRF hopts (withHTTPSSRFProtection b defaultHTTPConfig)
  simp only [performConfig, hctx]
  exact ⟨hs.trans hs', ha.trans ha'⟩

/-! ### The private-network flag and the dialer -/

/-- For every `http_request` of a plugin `p` with grants `g` that the middleware forwards,
the client `PerformHTTPRequest` builds dials through an SSRF-protected dialer whose
`AllowPrivateNetwork` is `checker.AllowsPrivateNetwork(p)`. That dialer admits a private,
loopback, link-local or multicast IP literal exactly when `g` allows `127.0.0.1` on port
`0`, and every other literal always; what `g` says of the literal itself plays no part. -/
theorem forwarded_dialer_allows_iff {P : Type} (checker : CapabilityChecker) (dec : PayloadDecoder P)
    (cls : ExecClassifier) {ctx ctx' : CallContext} {payload : P} {p : String} {g : GrantSet}
    (hp : ctx.pluginName = some p) (hg : checker.grantedCapabilities p = some g)
    (hfwd : capabilityDecision checker dec cls ctx payload = .forward ctx')
    (req : HTTPRequest) (opts : List HTTPOption) (hopts : ∀ o ∈ opts, KeepsSSRF o) :
    ∃ d, (createHTTPClient (performConfig ctx' req opts)).dialer = some d ∧
      d.allowPrivateNetwork = checker.allowsPrivateNetwork p ∧
      ∀ (parseIP : String → Option IP) (lookup : String → Except String (List IP)) (host port : String)
        (a : IP), parseIP host = some a →
        (resolveHost ⟨parseIP, validateAddress⟩ d lookup host port = .ok a ↔
          (a.restricted = true → evaluateNetwork { host := "127.0.0.1", port := 0 } g = true)) := by
  obtain ⟨-, hflag⟩ := capabilityDecision_forward_named hp hfwd
  obtain ⟨hs, ha⟩ := performConfig_ssrf hflag req hopts
  have hallow : checker.allowsPrivateNetwork p = evaluateNetwork { host := "127.0.0.1", port := 0 } g := by
    simp only [CapabilityChecker.allowsPrivateNetwork, hg]
  have hd : (createHTTPClient (performConfig ctx' req opts)).dialer =
      some ⟨(performConfig ctx' req opts).allowPrivate, (performConfig ctx' req opts).timeout, 0, fun _ => none⟩ := by
    simp only [createHTTPClient, hs, if_true]
  refine ⟨_, hd, ha, ?_⟩
  intro parseIP lookup host port a hlit
  rw [resolveHost_literal ⟨parseIP, validateAddress⟩ hlit, SecureDialer.validateAddress_netfilterOptions]
  simp only [ha, hallow]

/-- Every connection the client of a forwarded `http_request` opens, to the checked URL or
to any redirect, goes through its SSRF-protected dialer, so along any run of that dialer,
whatever the resolver answers, a restricted IP is dialed only when the plugin's grants
allow `127.0.0.1:0`. -/
theorem forwarded_dials_admitted {P : Type} (checker : CapabilityChecker) (dec : PayloadDecoder P)
    (cls : ExecClassifier) {ctx ctx' : CallContext} {payload : P} {p : String} {g : GrantSet}
    (hp : ctx.pluginName = some p) (hg : checker.grantedCapabilities p = some g)
    (hfwd : capabilityDecision checker dec cls ctx payload = .forward ctx')
    (req : HTTPRequest) (opts : List HTTPOption) (hopts : ∀ o ∈ opts, KeepsSSRF o) :
    ∃ d, (createHTTPClient (performConfig ctx' req opts)).dialer = some d ∧
      ∀ (parseIP : String → Option IP) (calls : List DialCall) (call : DialCall) (ip : IP) (port : String),
        (dialContext ⟨parseIP, validateAddress⟩ (dialRun ⟨parseIP, validateAddress⟩ d calls)
            call.now call.lookup call.addr).1 = .ok (ip, port) →
        ip.restricted = true → evaluateNetwork { host := "127.0.0.1", port := 0 } g = true := by
  obtain ⟨-, hflag⟩ := capabilityDecision_forward_named hp hfwd
  obtain ⟨hs, ha⟩ := performConfig_ssrf hflag req hopts
  have hallow : checker.allowsPrivateNetwork p = evaluateNetwork { host := "127.0.0.1", port := 0 } g := by
    simp only [CapabilityChecker.allowsPrivateNetwork, hg]
  let d : SecureDialer :=
    ⟨(performConfig ctx' req opts).allowPrivate, (performConfig ctx' req opts).timeout, 0, fun _ => none⟩
  refine ⟨d, by simp only [createHTTPClient, hs, if_true], fun parseIP calls call ip port hres hr => ?_⟩
  obtain ⟨host, -, hv, -⟩ := dialContext_ok_pinned (netfilterOptions_congr (by simp))
    (dialRun_cacheOk ⟨parseIP, validateAddress⟩ d calls) hres
  rw [← hallow, ← ha]
  exact (SecureDialer.validateAddress_netfilterOptions d ip).mp hv hr

/-- A grant of `127.0.0.1:8080` and an `http_request` to it: the middleware forwards the call,
and since the grant does not allow `127.0.0.1:0`, no run of the client's dialer reaches a
restricted address. -/
theorem forwarded_dials_admitted_loopback :
    let g : GrantSet := { network := [⟨["127.0.0.1"], ["8080"]⟩] }
    let checker : CapabilityChecker := { policy := {}, grantedCapabilities := fun _ => some g, cwd := "" }
    let dec : PayloadDecoder String :=
      ⟨fun _ => none, fun _ => none, fun _ => none, fun url => some ⟨url⟩, fun _ => none⟩
    let cls : ExecClassifier := ⟨fun _ _ => false, fun _ _ => ""⟩
    let ctx : CallContext := { functionName := some "http_request", pluginName := some "probe" }
    let ctx' : CallContext := { pluginName := some "probe", ssrfAllowPrivate := some false }
    let req : HTTPRequest := { url := "http://127.0.0.1:8080/" }
    ctx.pluginName = some "probe" ∧ checker.grantedCapabilities "probe" = some g ∧
      capabilityDecision checker dec cls ctx req.url = .forward ctx' ∧
      (∀ o ∈ ([] : List HTTPOption), KeepsSSRF o) ∧
      evaluateNetwork { host := "127.0.0.1", port := 0 } g = false ∧
      ∃ d, (createHTTPClient (performConfig ctx' req [])).dialer = some d ∧
        ∀ (parseIP : String → Option IP) (calls : List DialCall) (call : DialCall) (ip : IP) (port : String),
          (dialContext ⟨parseIP, validateAddress⟩ (dialRun ⟨parseIP, validateAddress⟩ d calls)
              call.now call.lookup call.addr).1 = .ok (ip, port) →
          ip.restricted = true → evaluateNetwork { host := "127.0.0.1", port := 0 } g = true := by
  intro g checker dec cls ctx ctx' req
  have hfwd : capabilityDecision checker dec cls ctx req.url = .forward ctx' := by decide
  have hopts : ∀ o ∈ ([] : List HTTPOption), KeepsSSRF o := fun _ h => absurd h (List.not_mem_nil _)
  exact ⟨rfl, rfl, hfwd, hopts, by decide,
    forwarded_dials_admitted checker dec cls rfl rfl hfwd req [] hopts⟩

/-- A grant of `127.0.0.1:8080` lets an `http_request` to `http://127.0.0.1:8080/` through the
middleware, with `ssrf_allow_private` false, and the dialer of the client then blocks the
connection to `127.0.0.1:8080`. -/
theorem granted_loopback_blocked :
    let g : GrantSet := { network := [⟨["127.0.0.1"], ["8080"]⟩] }
    let checker : CapabilityChecker := { policy := {}, grantedCapabilities := fun _ => some g, cwd := "" }
    let dec : PayloadDecoder String :=
      ⟨fun _ => none, fun _ => none, fun _ => none, fun url => some ⟨url⟩, fun _ => none⟩
    let cls : ExecClassifier := ⟨fun _ _ => false, fun _ _ => ""⟩
    let ctx : CallContext := { functionName := some "http_request", pluginName := some "probe" }
    let ctx' : CallContext := { pluginName := some "probe", ssrfAllowPrivate := some false }
    capabilityDecision checker dec cls ctx "http://127.0.0.1:8080/" = .forward ctx' ∧
      ∃ d reason, (createHTTPClient (performConfig ctx' { url := "http://127.0.0.1:8080/" } [])).dialer = some d ∧
        dialContext DialEnv.ipv4 d 0 (fun _ => .ok []) "127.0.0.1:8080" =
          (.error (SecureDialer.ssrfBlockedError "127.0.0.1:8080" reason), d) :=
  ⟨by decide, _, "localhost addresses blocked", rfl, rfl⟩

/-- The dialer of a plugin whose grants allow `127.0.0.1:0` admits the loopback literal. -/
theorem forwarded_dialer_allows_local :
    let g : GrantSet := { network := [⟨["127.0.0.1"], ["0"]⟩] }
    let checker : CapabilityChecker := { policy := {}, grantedCapabilities := fun _ => some g, cwd := "" }
    let dec : PayloadDecoder String :=
      ⟨fun _ => none, fun _ => none, fun _ => none, fun url => some ⟨url⟩, fun _ => none⟩
    let cls : ExecClassifier := ⟨fun _ _ => false, fun _ _ => ""⟩
    let ctx : CallContext := { functionName := some "http_request", pluginName := some "probe" }
    let ctx' : CallContext := { pluginName := some "probe", ssrfAllowPrivate := some true }
    capabilityDecision checker dec cls ctx "http://127.0.0.1:0/" = .forward ctx' ∧
      ∃ d, (createHTTPClient (performConfig ctx' { url := "http://127.0.0.1:0/" } [])).dialer = some d ∧
        d.allowPrivateNetwork = checker.allowsPrivateNetwork "probe" ∧
        (resolveHost DialEnv.ipv4 d (fun _ => .ok []) "127.0.0.1" "0" = .ok (.v4 127 0 0 1) ↔
          ((IP.v4 127 0 0 1).restricted = true → evaluateNetwork { host := "127.0.0.1", port := 0 } g = true)) := by
  intro g checker dec cls ctx ctx'
  have hfwd : capabilityDecision checker dec cls ctx "http://127.0.0.1:0/" = .forward ctx' := by decide
  obtain ⟨d, hd, hflag, hiff⟩ := forwarded_dialer_allows_iff checker dec cls rfl rfl hfwd
    { url := "http://127.0.0.1:0/" } [] (fun _ h => absurd h (List.not_mem_nil _))
  exact ⟨hfwd, d, hd, hflag, hiff parseIPv4 _ "127.0.0.1" "0" _ rfl⟩

/-! ### Redirects -/

/-- For every `http_request` of a plugin `p` that the middleware forwards, the URLs the
client of `PerformHTTPRequest` requests are the checked URL, whose host and port `p`'s
grants allow, followed by redirects: each the `Location` of a redirect response to the
request before it, which no check sees. There are at most `max_redirects` of them when
redirects are followed and `max_redirects` is positive, ten when it is not (Go's
`defaultCheckRedirect` stops once `len(via)` is ten), and one when redirects are off. -/
theorem forwarded_requests {P : Type} (checker : CapabilityChecker) (dec : PayloadDecoder P)
    (cls : ExecClassifier) {ctx ctx' : CallContext} {payload : P} {p : String}
    {r : Hostfunc.HTTPRequest} (hp : ctx.pluginName = some p) (hf : ctx.functionName = some "http_request")
    (hdec : dec.http payload = some r) (hfwd : capabilityDecision checker dec cls ctx payload = .forward ctx')
    (req : HTTPRequest) (hurl : req.url = r.url) (opts : List HTTPOption)
    (serve : Nat → URL → Except String Response) {reqs : List URL} {result : Except String Response}
    (hperf : performHTTPRequest ctx' req opts serve = .ok (reqs, result)) :
    ∃ u rest, reqs = u :: rest ∧ parse req.url = .ok u ∧
      GrantsAllow checker p (evaluateNetwork { host := u.hostname, port := httpPort u }) ∧
      RedirectChain serve 0 (u :: rest) ∧
      reqs.length ≤ (if (performConfig ctx' req opts).followRedirects then
          (if 0 < (performConfig ctx' req opts).maxRedirects then (performConfig ctx' req opts).maxRedirects.toNat
            else 10) else 1) := by
  obtain ⟨hchecked, -⟩ := capabilityDecision_forward_named hp hfwd
  simp only [hf, Option.getD_some, Admits, hdec, Option.mem_def, Option.some.injEq, forall_eq'] at hchecked
  obtain ⟨u₀, hu₀, hallow⟩ := hchecked
  cases hnew : newRequest req with
  | error e => simp only [performHTTPRequest, hnew, Except.map, reduceCtorEq] at hperf
  | ok u =>
    have hu : parse req.url = .ok u := parse_of_newRequest hnew
    rw [hurl, hu₀, Except.ok.injEq] at hu
    subst hu
    simp only [performHTTPRequest, hnew, Except.map, Except.ok.injEq] at hperf
    obtain ⟨rest, heq, hchain, hlen⟩ := (createHTTPClient (performConfig ctx' req opts)).do_requests serve u₀
    rw [hperf] at heq hlen
    rw [createHTTPClient_bound] at hlen
    refine ⟨u₀, rest, heq, hurl ▸ hu₀, hallow, hchain, hlen.trans ?_⟩
    split_ifs <;> omega

/-- A grant of `example.com:80` admits an `http_request` to `http://example.com/`; the
server answers `302` with `Location: http://other.example/`, and the client goes on to
request `other.example` on port 80, which the grant does not allow. -/
theorem redirect_leaves_grant :
    let g : GrantSet := { network := [⟨["example.com"], ["80"]⟩] }
    let checker : CapabilityChecker := { policy := {}, grantedCapabilities := fun _ => some g, cwd := "" }
    let dec : PayloadDecoder String :=
      ⟨fun _ => none, fun _ => none, fun _ => none, fun url => some ⟨url⟩, fun _ => none⟩
    let cls : ExecClassifier := ⟨fun _ _ => false, fun _ _ => ""⟩
    let ctx : CallContext := { functionName := some "http_request", pluginName := some "fetch" }
    let ctx' : CallContext := { pluginName := some "fetch", ssrfAllowPrivate := some false }
    let serve : Nat → URL → Except String Response := fun n _ =>
      if n = 0 then .ok ⟨302, "http://other.example/"⟩ else .ok ⟨200, ""⟩
    capabilityDecision checker dec cls ctx "http://example.com/" = .forward ctx' ∧
      (performHTTPRequest ctx' { url := "http://example.com/" } [] serve).map
          (fun out => out.1.map fun u => (u.hostname, httpPort u)) =
        .ok [("example.com", 80), ("other.example", 80)] ∧
      evaluateNetwork { host := "other.example", port := 80 } g = false :=
  ⟨by decide, rfl, by decide⟩

/-- The admitted request to `http://example.com/` and its redirect, as `forwarded_requests`
describes them. -/
theorem forwarded_requests_redirect :
    let g : GrantSet := { network := [⟨["example.com"], ["80"]⟩] }
    let checker : CapabilityChecker := { policy := {}, grantedCapabilities := fun _ => some g, cwd := "" }
    let dec : PayloadDecoder String :=
      ⟨fun _ => none, fun _ => none, fun _ => none, fun url => some ⟨url⟩, fun _ => none⟩
    let cls : ExecClassifier := ⟨fun _ _ => false, fun _ _ => ""⟩
    let ctx : CallContext := { functionName := some "http_request", pluginName := some "fetch" }
    let ctx' : CallContext := { pluginName := some "fetch", ssrfAllowPrivate := some false }
    let serve : Nat → URL → Except String Response := fun n _ =>
      if n = 0 then .ok ⟨302, "http://other.example/"⟩ else .ok ⟨200, ""⟩
    let req : HTTPRequest := { url := "http://example.com/" }
    let u₁ : URL := { scheme := "http", host := "example.com" }
    let u₂ : URL := { scheme := "http", host := "other.example" }
    capabilityDecision checker dec cls ctx req.url = .forward ctx' ∧
      performHTTPRequest ctx' req [] serve = .ok ([u₁, u₂], .ok ⟨200, ""⟩) ∧
      ∃ u rest, [u₁, u₂] = u :: rest ∧ parse req.url = .ok u ∧
        GrantsAllow checker "fetch" (evaluateNetwork { host := u.hostname, port := httpPort u }) ∧
        RedirectChain serve 0 (u :: rest) ∧
        [u₁, u₂].length ≤ (if (performConfig ctx' req []).followRedirects then
            (if 0 < (performConfig ctx' req []).maxRedirects then (performConfig ctx' req []).maxRedirects.toNat
              else 10) else 1) := by
  intro g checker dec cls ctx ctx' serve req u₁ u₂
  have hfwd : capabilityDecision checker dec cls ctx req.url = .forward ctx' := by decide
  have hperf : performHTTPRequest ctx' req [] serve = .ok ([u₁, u₂], .ok ⟨200, ""⟩) := rfl
  exact ⟨hfwd, hperf, forwarded_requests checker dec cls rfl rfl rfl hfwd req rfl [] serve hperf⟩

end Http

end RegletHost
