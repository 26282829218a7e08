import RegletHost.Netutil.Addr

/-!
`SecureDialer.DialContext` (`src/netutil/secure_dialer.go`) as a state machine over the
dialer's pinned-IP cache, one call a step.

A call reads the clock once (`getCached`'s `time.Since` and `cacheIP`'s `time.Now` are
one instant, in nanoseconds) and gets the resolver's answers as an input, so every
statement holds for every clock and every DNS answer. `net.ParseIP` and netfilter's
`ValidateAddress` are parameters (`DialEnv`), so every statement also holds for every
netfilter policy. The connection `dialIP` opens is the call's result: the IP and port it
dials.

* `resolveHost`: what a cache miss pins, the validated literal or the validated IP
  selected from the resolver's answer; `resolveHost_pinned`: whatever it pins is
  `PinnedFor` the host.
* `dialContext_cases`: the four outcomes of a call; a failing call leaves the dialer as it
  was, a successful one dials a cached IP or pins the one it dials.
* `dialContext_cacheOk`, `dialRun_cacheOk`: every cache entry holds an IP pinned for its
  host, along any run from a fresh dialer.
* `dialContext_pinned`: every IP a call dials, after any run, is `PinnedFor` its host, and
  a failing call changes nothing.
* `dialRun_reuses_pin`: calls made one after another keep a pin for its TTL, and every
  dial of its host within it uses the pinned IP.
-/

namespace RegletHost

namespace Netutil

/-- `pinnedEntry`: an IP and the instant it was pinned. -/
structure PinnedEntry where
  ip : IP
  timestamp : Int
  deriving DecidableEq

/-- The fields of a `SecureDialer` that a dial reads or `createHTTPClient` sets (durations in
nanoseconds), and its cache, empty in a new dialer. -/
structure SecureDialer where
  allowPrivateNetwork : Bool := false
  timeout : Int := 0
  cacheTTL : Int := 0
  cache : String → Option PinnedEntry := fun _ => none

namespace SecureDialer

/-- The dialer with its fields and an empty cache, as `&SecureDialer{...}` builds it. -/
def fresh (d : SecureDialer) : SecureDialer := { d with cache := fun _ => none }

/-- The TTL `getCached` applies: `CacheTTL`, five minutes when it is zero. -/
def ttl (d : SecureDialer) : Int := if d.cacheTTL = 0 then 5 * 60 * 10 ^ 9 else d.cacheTTL

/-- `getCached` at instant `now`: the pinned IP, unless it is at least the TTL old. -/
def getCached (d : SecureDialer) (now : Int) (host : String) : Option IP :=
  match d.cache host with
  | none => none
  | some e => if now - e.timestamp ≥ d.ttl then none else some e.ip

/-- `cacheIP` at instant `now`: the host's entry is replaced. -/
def cacheIP (d : SecureDialer) (host : String) (ip : IP) (now : Int) : SecureDialer :=
  { d with cache := Function.update d.cache host (some ⟨ip, now⟩) }

/-- The options both validations pass to `ValidateAddress`: no DNS resolution, and
private and localhost addresses allowed when the dialer allows private networks. -/
def netfilterOptions (d : SecureDialer) : NetfilterOptions :=
  if d.allowPrivateNetwork then { resolveDNS := false, blockPrivate := false, blockLocalhost := false }
  else { resolveDNS := false }

/-- `SSRFBlockedError.Error`. -/
def ssrfBlockedError (address reason : String) : String :=
  "SSRF protection blocked connection to " ++ address ++ ": " ++ reason

/-- `validateWithNetfilter(host, port)` for the literal `ip` of `host`: the address it
validates and reports is `host:port`, or `host` without a port. -/
def validateWithNetfilter (validate : NetfilterOptions → IP → Option String) (d : SecureDialer)
    (host port : String) (ip : IP) : Option String :=
  let addr := if port ≠ "" then joinHostPort host port else host
  (validate d.netfilterOptions ip).map (ssrfBlockedError addr)

/-- `validateResolvedIP`: the IP validated and reported in its text form. -/
def validateResolvedIP (validate : NetfilterOptions → IP → Option String) (d : SecureDialer)
    (ip : IP) : Option String :=
  (validate d.netfilterOptions ip).map (ssrfBlockedError ip.toString)

@[simp] lemma cacheIP_allowPrivateNetwork (d : SecureDialer) (host ip now) :
    (d.cacheIP host ip now).allowPrivateNetwork = d.allowPrivateNetwork := rfl

@[simp] lemma cacheIP_ttl (d : SecureDialer) (host ip now) : (d.cacheIP host ip now).ttl = d.ttl := rfl

@[simp] lemma fresh_allowPrivateNetwork (d : SecureDialer) :
    d.fresh.allowPrivateNetwork = d.allowPrivateNetwork := rfl

lemma cacheIP_cache (d : SecureDialer) (host : String) (ip : IP) (now : Int) (h : String) :
    (d.cacheIP host ip now).cache h = if h = host then some ⟨ip, now⟩ else d.cache h := by
  simp only [cacheIP, Function.update_apply]

lemma getCached_eq_some {d : SecureDialer} {now : Int} {host : String} {ip : IP}
    (h : d.getCached now host = some ip) :
    ∃ e, d.cache host = some e ∧ e.ip = ip ∧ now - e.timestamp < d.ttl := by
  unfold getCached at h
  split at h
  · cases h
  · rename_i e he
    split_ifs at h with ht
    cases h
    exact ⟨e, he, rfl, lt_of_not_le ht⟩

lemma getCached_of_cache {d : SecureDialer} {now : Int} {host : String} {e : PinnedEntry}
    (h : d.cache host = some e) (ht : now - e.timestamp < d.ttl) :
    d.getCached now host = some e.ip := by
  simp only [getCached, h, ge_iff_le, not_le.mpr ht, if_false]

lemma validateWithNetfilter_eq_none {validate : NetfilterOptions → IP → Option String} {d : SecureDialer}
    {host port : String} {ip : IP} :
    d.validateWithNetfilter validate host port ip = none ↔ validate d.netfilterOptions ip = none := by
  simp only [validateWithNetfilter, Option.map_eq_none']

lemma validateResolvedIP_eq_none {validate : NetfilterOptions → IP → Option String} {d : SecureDialer}
    {ip : IP} :
    d.validateResolvedIP validate ip = none ↔ validate d.netfilterOptions ip = none := by
  simp only [validateResolvedIP, Option.map_eq_none']

/-- Under the dialer's options an address is allowed exactly when it is not restricted or
the dialer allows private networks. -/
lemma validateAddress_netfilterOptions (d : SecureDialer) (ip : IP) :
    validateAddress d.netfilterOptions ip = none ↔ (ip.restricted = true → d.allowPrivateNetwork = true) := by
  unfold netfilterOptions
  cases d.allowPrivateNetwork
  · exact (validateAddress_uniform rfl rfl ip).trans (by simp)
  · exact (validateAddress_uniform rfl rfl ip).trans (by simp)

end SecureDialer

/-- The resolved IP `DialContext` pins: the first IPv4 address of the answer, else its
first address. -/
def selectIP : List IP → Option IP
  | [] => none
  | ip :: ips => some (((ip :: ips).find? IP.isV4).getD ip)

lemma selectIP_mem {ips : List IP} {ip : IP} (h : selectIP ips = some ip) : ip ∈ ips := by
  cases ips with
  | nil => cases h
  | cons ip₀ rest =>
    cases h
    cases hf : (ip₀ :: rest).find? IP.isV4 with
    | none => exact List.mem_cons_self _ _
    | some ip₄ => exact List.mem_of_find?_eq_some hf

/-- The functions a dial calls that the sources do not give: `net.ParseIP`, and
netfilter's `ValidateAddress` on the IP an address names, `none` when it is allowed and
the reason when it is blocked. -/
structure DialEnv where
  parseIP : String → Option IP
  validate : NetfilterOptions → IP → Option String

/-- The dial functions of the concrete runs: `net.ParseIP` on dotted-decimal text, and the
URL-SSRF policy `validateAddress`. -/
def DialEnv.ipv4 : DialEnv := ⟨parseIPv4, validateAddress⟩

section Dial

variable (env : DialEnv)

open SecureDialer

/-- What a cache miss for `host` pins: the literal that `net.ParseIP` reads, validated by
`validateWithNetfilter`; or else the IP selected from the resolver's answer, validated by
`validateResolvedIP`. -/
def resolveHost (d : SecureDialer) (lookup : String → Except String (List IP))
    (host port : String) : Except String IP :=
  match env.parseIP host with
  | some ip =>
    match d.validateWithNetfilter env.validate host port ip with
    | some err => .error err
    | none => .ok ip
  | none =>
    match lookup host with
    | .error e => .error ("DNS lookup failed for " ++ goQuote host ++ ": " ++ e)
    | .ok ips =>
      match selectIP ips with
      | none => .error ("no IP addresses found for " ++ goQuote host)
      | some ip =>
        match d.validateResolvedIP env.validate ip with
        | some err => .error err
        | none => .ok ip

/-- `DialContext(ctx, network, addr)` at instant `now`, the resolver answering `lookup`:
the IP and port `dialIP` connects to, or the error; and the dialer after the call. -/
def dialContext (d : SecureDialer) (now : Int) (lookup : String → Except String (List IP))
    (addr : String) : Except String (IP × String) × SecureDialer :=
  match splitHostPort addr with
  | .error e => (.error ("invalid address " ++ goQuote addr ++ ": " ++ e), d)
  | .ok (host, port) =>
    match d.getCached now host with
    | some ip => (.ok (ip, port), d)
    | none =>
      match resolveHost env d lookup host port with
      | .error e => (.error e, d)
      | .ok ip => (.ok (ip, port), d.cacheIP host ip now)

/-- One call of a run: its instant, the resolver's answers, and the address. -/
structure DialCall where
  now : Int
  lookup : String → Except String (List IP)
  addr : String

/-- The dialer after a run of calls. -/
def dialRun (d : SecureDialer) (calls : List DialCall) : SecureDialer :=
  calls.foldl (fun d c => (dialContext env d c.now c.lookup c.addr).2) d

@[simp] lemma dialRun_nil (d : SecureDialer) : dialRun env d [] = d := rfl

lemma dialRun_append (d : SecureDialer) (calls : List DialCall) (c : DialCall) :
    dialRun env d (calls ++ [c]) =
      (dialContext env (dialRun env d calls) c.now c.lookup c.addr).2 := by
  simp only [dialRun, List.foldl_append, List.foldl_cons, List.foldl_nil]

/-- `ip` may be pinned for `host` under options `opts`, the resolver having given the
answers `answers`: `ValidateAddress` allows it, and it is the literal `host` names or, for
a name, the IP selected from one of the answers for it. -/
def PinnedFor (opts : NetfilterOptions) (answers : List (String → Except String (List IP)))
    (host : String) (ip : IP) : Prop :=
  env.validate opts ip = none ∧
    (env.parseIP host = some ip ∨
      env.parseIP host = none ∧ ∃ lookup ∈ answers, ∃ ips, lookup host = .ok ips ∧ selectIP ips = some ip)

/-- Every entry of the cache is pinned for its host. -/
def CacheOk (opts : NetfilterOptions) (answers : List (String → Except String (List IP)))
    (d : SecureDialer) : Prop :=
  ∀ host e, d.cache host = some e → PinnedFor env opts answers host e.ip

variable {env}

lemma PinnedFor.mono {opts : NetfilterOptions} {answers answers' : List (String → Except String (List IP))}
    (hsub : answers ⊆ answers') {host : String} {ip : IP} (h : PinnedFor env opts answers host ip) :
    PinnedFor env opts answers' host ip := by
  obtain ⟨hv, hlit | ⟨hnone, lookup, hmem, hans⟩⟩ := h
  · exact ⟨hv, .inl hlit⟩
  · exact ⟨hv, .inr ⟨hnone, lookup, hsub hmem, hans⟩⟩

lemma resolveHost_pinned {d : SecureDialer} {lookup : String → Except String (List IP)}
    {host port : String} {ip : IP} (h : resolveHost env d lookup host port = .ok ip) :
    PinnedFor env d.netfilterOptions [lookup] host ip := by
  unfold resolveHost at h
  split at h
  · rename_i lit hlit
    split at h
    · cases h
    · rename_i hv
      cases h
      exact ⟨validateWithNetfilter_eq_none.mp hv, .inl hlit⟩
  · rename_i hnone
    split at h
    · cases h
    · rename_i ips hips
      split at h
      · cases h
      · rename_i sel hsel
        split at h
        · cases h
        · rename_i hv
          cases h
          exact ⟨validateResolvedIP_eq_none.mp hv,
            .inr ⟨hnone, lookup, List.mem_singleton_self _, ips, hips, hsel⟩⟩

/-- A literal host pins its IP exactly when `ValidateAddress` allows it. -/
lemma resolveHost_literal (env : DialEnv) {d : SecureDialer} {lookup : String → Except String (List IP)}
    {host port : String} {ip : IP} (h : env.parseIP host = some ip) :
    resolveHost env d lookup host port = .ok ip ↔ env.validate d.netfilterOptions ip = none := by
  simp only [resolveHost, h]
  split
  · rename_i err hv
    simp only [reduceCtorEq, false_iff]
    intro hn
    simp [validateWithNetfilter, hn] at hv
  · rename_i hv
    simp only [true_iff]
    exact validateWithNetfilter_eq_none.mp hv

/-- The outcomes of one call: an error that leaves the dialer unchanged, a cache hit, or a
miss that pins the IP it dials for the host. -/
lemma dialContext_cases (env : DialEnv) (d : SecureDialer) (now : Int) (lookup : String → Except String (List IP))
    (addr : String) :
    (∃ e, dialContext env d now lookup addr = (.error e, d)) ∨
    ∃ host port, splitHostPort addr = .ok (host, port) ∧
      ((∃ ip, d.getCached now host = some ip ∧ dialContext env d now lookup addr = (.ok (ip, port), d)) ∨
       ∃ ip, d.getCached now host = none ∧ resolveHost env d lookup host port = .ok ip ∧
         dialContext env d now lookup addr = (.ok (ip, port), d.cacheIP host ip now)) := by
  unfold dialContext
  split
  · exact .inl ⟨_, rfl⟩
  · rename_i host port hsplit
    split
    · rename_i ip hc
      exact .inr ⟨host, port, hsplit, .inl ⟨ip, hc, rfl⟩⟩
    · rename_i hc
      split
      · exact .inl ⟨_, rfl⟩
      · rename_i ip hr
        exact .inr ⟨host, port, hsplit, .inr ⟨ip, hc, hr, rfl⟩⟩

/-- A call changes the dialer only by pinning one IP. -/
lemma dialContext_eq_or_cacheIP (d : SecureDialer) (now lookup addr) :
    (dialContext env d now lookup addr).2 = d ∨
      ∃ host ip, (dialContext env d now lookup addr).2 = d.cacheIP host ip now := by
  rcases dialContext_cases env d now lookup addr with ⟨e, h⟩ | ⟨host, port, -, ⟨ip, -, h⟩ | ⟨ip, -, -, h⟩⟩ <;>
    rw [h]
  · exact .inl rfl
  · exact .inl rfl
  · exact .inr ⟨host, ip, rfl⟩

@[simp] lemma dialContext_allowPrivateNetwork (d : SecureDialer) (now lookup addr) :
    (dialContext env d now lookup addr).2.allowPrivateNetwork = d.allowPrivateNetwork := by
  rcases dialContext_eq_or_cacheIP d now lookup addr with h | ⟨host, ip, h⟩ <;> rw [h]; rfl

@[simp] lemma dialContext_ttl (d : SecureDialer) (now lookup addr) :
    (dialContext env d now lookup addr).2.ttl = d.ttl := by
  rcases dialContext_eq_or_cacheIP d now lookup addr with h | ⟨host, ip, h⟩ <;> rw [h]; rfl

@[simp] lemma dialRun_allowPrivateNetwork (d : SecureDialer) (calls : List DialCall) :
    (dialRun env d calls).allowPrivateNetwork = d.allowPrivateNetwork := by
  induction calls generalizing d with
  | nil => rfl
  | cons c cs ih => exact (ih _).trans (dialContext_allowPrivateNetwork _ _ _ _)

lemma netfilterOptions_congr {d d' : SecureDialer} (h : d'.allowPrivateNetwork = d.allowPrivateNetwork) :
    d'.netfilterOptions = d.netfilterOptions := by
  simp only [netfilterOptions, h]

/-- One call keeps the cache invariant, the answers growing by the call's. -/
lemma dialContext_cacheOk {opts : NetfilterOptions} {answers : List (String → Except String (List IP))}
    {d : SecureDialer} (hopts : d.netfilterOptions = opts) (hd : CacheOk env opts answers d)
    (now : Int) (lookup : String → Except String (List IP)) (addr : String) :
    CacheOk env opts (answers ++ [lookup]) (dialContext env d now lookup addr).2 := by
  have hmono : CacheOk env opts (answers ++ [lookup]) d := fun host e he =>
    (hd host e he).mono (List.subset_append_left _ _)
  rcases dialContext_cases env d now lookup addr with ⟨e, h⟩ | ⟨host, port, -, ⟨ip, -, h⟩ | ⟨ip, -, hr, h⟩⟩
  · rw [h]; exact hmono
  · rw [h]; exact hmono
  · rw [h]
    intro h' e he
    rw [cacheIP_cache] at he
    split_ifs at he with hh
    · cases he
      subst hh
      exact hopts ▸ (resolveHost_pinned hr).mono (List.subset_append_right _ _)
    · exact hmono h' e he

lemma dialRun_cacheOk (env : DialEnv) (d : SecureDialer) (calls : List DialCall) :
    CacheOk env d.netfilterOptions (calls.map (·.lookup)) (dialRun env d.fresh calls) := by
  induction calls using List.reverseRecOn with
  | nil => intro host e he; cases he
  | append_singleton calls c ih =>
    rw [dialRun_append, List.map_append, List.map_singleton]
    exact dialContext_cacheOk (netfilterOptions_congr (by simp)) ih _ _ _

/-- A call from a dialer whose cache holds only pins dials an IP pinned for its host. -/
lemma dialContext_ok_pinned {opts : NetfilterOptions} {answers : List (String → Except String (List IP))}
    {d : SecureDialer} (hopts : d.netfilterOptions = opts) (hd : CacheOk env opts answers d)
    {now : Int} {lookup : String → Except String (List IP)} {addr : String} {ip : IP} {port : String}
    (hres : (dialContext env d now lookup addr).1 = .ok (ip, port)) :
    ∃ host, splitHostPort addr = .ok (host, port) ∧ PinnedFor env opts (answers ++ [lookup]) host ip := by
  rcases dialContext_cases env d now lookup addr with
    ⟨e, h⟩ | ⟨host, port', hsplit, ⟨ip', hc, h⟩ | ⟨ip', -, hr, h⟩⟩ <;> rw [h] at hres <;> cases hres
  · obtain ⟨e, he, rfl, -⟩ := SecureDialer.getCached_eq_some hc
    exact ⟨host, hsplit, (hd host e he).mono (List.subset_append_left _ _)⟩
  · exact ⟨host, hsplit, hopts ▸ (resolveHost_pinned hr).mono (List.subset_append_right _ _)⟩

/-- A call that fails leaves the dialer as it was. -/
lemma dialContext_error_eq {d : SecureDialer} {now : Int} {lookup : String → Except String (List IP)}
    {addr e : String} (hres : (dialContext env d now lookup addr).1 = .error e) :
    (dialContext env d now lookup addr).2 = d := by
  rcases dialContext_cases env d now lookup addr with
    ⟨e', h⟩ | ⟨host, port, -, ⟨ip, -, h⟩ | ⟨ip, -, -, h⟩⟩ <;> (rw [h] at hres ⊢; try cases hres)

/-- Every IP a call dials after any run from a fresh dialer is pinned for the call's host
under the dialer's options, as a literal or as a resolved answer; the cache holds only
such pins; and a call that fails leaves the dialer as it was. -/
theorem dialContext_pinned (d : SecureDialer) (calls : List DialCall) (call : DialCall) :
    CacheOk env d.netfilterOptions (calls.map (·.lookup)) (dialRun env d.fresh calls) ∧
    (∀ ip port, (dialContext env (dialRun env d.fresh calls) call.now call.lookup call.addr).1 =
        .ok (ip, port) →
      ∃ host, splitHostPort call.addr = .ok (host, port) ∧
        PinnedFor env d.netfilterOptions ((calls ++ [call]).map (·.lookup)) host ip) ∧
    ∀ e, (dialContext env (dialRun env d.fresh calls) call.now call.lookup call.addr).1 = .error e →
      (dialContext env (dialRun env d.fresh calls) call.now call.lookup call.addr).2 =
        dialRun env d.fresh calls := by
  have hok := dialRun_cacheOk env d calls
  refine ⟨hok, fun ip port hres => ?_, fun e hres => dialContext_error_eq hres⟩
  rw [List.map_append, List.map_singleton]
  exact dialContext_ok_pinned (netfilterOptions_congr (by simp)) hok hres

/-! ### Sequential pinning -/

/-- A dial of a host whose pin is younger than the TTL uses the pin and changes nothing. -/
lemma dialContext_of_pin {d : SecureDialer} {host port addr : String} {ip : IP} {t now : Int}
    (hpin : d.cache host = some ⟨ip, t⟩) (hnow : now - t < d.ttl)
    (hsplit : splitHostPort addr = .ok (host, port)) (lookup : String → Except String (List IP)) :
    dialContext env d now lookup addr = (.ok (ip, port), d) := by
  simp only [dialContext, hsplit, getCached_of_cache hpin hnow]

/-- A call within the TTL of a pin keeps it: only a miss pins, and it misses on another
host. -/
lemma dialContext_keeps_pin {d : SecureDialer} {host : String} {ip : IP} {t : Int}
    (hpin : d.cache host = some ⟨ip, t⟩) (c : DialCall) (hnow : c.now - t < d.ttl) :
    (dialContext env d c.now c.lookup c.addr).2.cache host = some ⟨ip, t⟩ := by
  rcases dialContext_cases env d c.now c.lookup c.addr with
    ⟨e, h⟩ | ⟨host', port, -, ⟨ip', -, h⟩ | ⟨ip', hc, -, h⟩⟩ <;> rw [h]
  · exact hpin
  · exact hpin
  · rw [cacheIP_cache, if_neg]
    · exact hpin
    · rintro rfl
      rw [getCached_of_cache hpin hnow] at hc
      cases hc

lemma dialRun_keeps_pin {d : SecureDialer} {host : String} {ip : IP} {t : Int}
    (hpin : d.cache host = some ⟨ip, t⟩) (calls : List DialCall)
    (hwithin : ∀ c ∈ calls, c.now - t < d.ttl) :
    (dialRun env d calls).cache host = some ⟨ip, t⟩ ∧ (dialRun env d calls).ttl = d.ttl := by
  induction calls generalizing d with
  | nil => exact ⟨hpin, rfl⟩
  | cons c cs ih =>
    have hc := hwithin c (List.mem_cons_self _ _)
    obtain ⟨hkeep, httl⟩ := ih (dialContext_keeps_pin hpin c hc)
      (fun c' hc' => (dialContext_ttl d _ _ _).symm ▸ hwithin c' (List.mem_cons_of_mem _ hc'))
    exact ⟨hkeep, httl.trans (dialContext_ttl d _ _ _)⟩

/-- One dialer, calls one after another: once a host is pinned, every call that dials it
within the TTL of the pin, whatever calls came between, dials the pinned IP. -/
theorem dialRun_reuses_pin {d : SecureDialer} {host port : String} {ip : IP} {t : Int}
    (hpin : d.cache host = some ⟨ip, t⟩) (calls : List DialCall) (call : DialCall)
    (hwithin : ∀ c ∈ calls ++ [call], c.now - t < d.ttl)
    (hsplit : splitHostPort call.addr = .ok (host, port)) :
    dialContext env (dialRun env d calls) call.now call.lookup call.addr =
      (.ok (ip, port), dialRun env d calls) := by
  obtain ⟨hkeep, httl⟩ := dialRun_keeps_pin hpin calls
    (fun c hc => hwithin c (List.mem_append_left _ hc))
  exact dialContext_of_pin hkeep (httl ▸ hwithin call (List.mem_append_right _ (List.mem_singleton_self _)))
    hsplit call.lookup

end Dial

/-- A dialer that pinned `203.0.113.10` for `example.com` at instant 0, a call to another
host at instant 1, then a call to `example.com:443` at instant 2 that dials the pinned IP
although the resolver now answers another. -/
theorem dialRun_reuses_pin_example :
    let ip : IP := .v4 203 0 113 10
    let d : SecureDialer := { cache := fun h => if h = "example.com" then some ⟨ip, 0⟩ else none }
    let calls : List DialCall := [⟨1, fun _ => .ok [.v4 198 51 100 20], "other.example:80"⟩]
    let call : DialCall := ⟨2, fun _ => .ok [.v4 198 51 100 20], "example.com:443"⟩
    d.cache "example.com" = some ⟨ip, 0⟩ ∧ (∀ c ∈ calls ++ [call], c.now - 0 < d.ttl) ∧
      splitHostPort call.addr = .ok ("example.com", "443") ∧
      dialContext DialEnv.ipv4 (dialRun DialEnv.ipv4 d calls) call.now call.lookup call.addr =
        (.ok (ip, "443"), dialRun DialEnv.ipv4 d calls) := by
  intro ip d calls call
  have hpin : d.cache "example.com" = some ⟨ip, 0⟩ := by decide
  have hwithin : ∀ c ∈ calls ++ [call], c.now - 0 < d.ttl := by
    intro c hc
    rcases List.mem_append.mp hc with hc | hc <;> rw [List.mem_singleton.mp hc] <;> decide
  have hsplit : splitHostPort call.addr = .ok ("example.com", "443") := rfl
  exact ⟨hpin, hwithin, hsplit, dialRun_reuses_pin hpin calls call hwithin hsplit⟩

end Netutil

end RegletHost
