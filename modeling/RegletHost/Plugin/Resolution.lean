import RegletHost.Plugin.Service

/-!
The resolver chain behind `LoadPlugin` (`src/plugin/services/plugin_resolution.go`,
`src/plugin/resolvers/cached_resolver.go`, `src/unnamed/part_017`), with the plugin cache the
resolvers share.

* `Resolver`, `resolveChain`: resolvers linked by `SetNext`. `CachedPluginResolver` answers
  with what `Find` returns and otherwise calls the next one; `RegistryPluginResolver` pulls,
  stores the artifact in the cache, and answers with the pulled plugin, never calling the
  next one; past the last one `ResolveNext` answers with `PluginNotFoundError`.
* `loadPluginChain`: `LoadPlugin` with such a chain, the file system threaded through the
  resolution. `loadPluginChain_fst`: it is `loadPlugin` of `Plugin.Service` on the file
  system the resolution leaves, with the chain's answers as the resolver.
* `resolveChain_cached` (the chain's answer is the cache's entry): whenever the chain
  answers with a plugin, `Find` of the reference then returns that plugin, provided every
  registry of the chain answers for the reference asked with a digest `NewDigest` accepts.
* `loadPluginChain_again`: with the cached resolver first, a `LoadPlugin` that returned a
  path returns it again, and changes nothing, the second time.
* `loadPluginChain_keeps_unverified`: a resolved plugin whose digest is not the pinned one
  makes `LoadPlugin` fail, yet stays in the cache, where `LoadPlugin` without a pin finds it.
-/

namespace RegletHost

namespace Plugins

open Storage

/-- A resolver of the chain: `CachedPluginResolver`, or `RegistryPluginResolver` with its
registry's `Pull`, which gives the artifact's plugin and WASM stream. Both use the cache the
service reads. -/
inductive Resolver
  | cached
  | registry (pull : PluginReference → Except String (Plugin × WasmStream))

/-- What `LoadPlugin` needs of a registry: an artifact it pulls is the plugin of the
reference asked, with a digest `NewDigest` accepts. -/
def PullOk (pull : PluginReference → Except String (Plugin × WasmStream)) : Prop :=
  ∀ ref p w, pull ref = .ok (p, w) → p.reference = ref ∧ ∃ a v, newDigest a v = .ok p.digest

/-- Every registry of a chain meets `PullOk`. -/
def ChainOk (chain : List Resolver) : Prop := ∀ pull, .registry pull ∈ chain → PullOk pull

lemma ChainOk.tail {r : Resolver} {chain : List Resolver} (h : ChainOk (r :: chain)) :
    ChainOk chain :=
  fun pull hp => h pull (List.mem_cons_of_mem _ hp)

variable (json : Codec PluginMetadata) (repo : FSPluginRepository)

/-- `RegistryPluginResolver.Resolve`: pull, store the artifact in the cache, answer with the
pulled plugin; what a failed store wrote stays. -/
def registryResolve (pull : PluginReference → Except String (Plugin × WasmStream)) (fs : FS)
    (ref : PluginReference) : Except String Plugin × FS :=
  match pull ref with
  | .error e => (.error ("registry pull failed: " ++ e), fs)
  | .ok (plugin, wasm) =>
    match repo.store json fs plugin wasm with
    | (.error e, fs') => (.error ("cache storage failed: " ++ e), fs')
    | (.ok _, fs') => (.ok plugin, fs')

/-- `Resolve` of the first resolver of a chain, `ResolveNext` handing over to the rest; the
empty chain is `ResolveNext` with no next resolver, `PluginNotFoundError`. -/
def resolveChain : List Resolver → FS → PluginReference → Except String Plugin × FS
  | [], fs, ref => (.error ("plugin not found: " ++ ref.toString), fs)
  | .cached :: next, fs, ref =>
    match repo.find json fs ref with
    | .ok (plugin, _) => (.ok plugin, fs)
    | .error _ => resolveChain next fs ref
  | .registry pull :: _, fs, ref => registryResolve json repo pull fs ref

lemma resolveChain_cached_hit {next : List Resolver} {fs : FS} {ref : PluginReference}
    {found : Plugin × String} (h : repo.find json fs ref = .ok found) :
    resolveChain json repo (.cached :: next) fs ref = (.ok found.1, fs) := by
  simp [resolveChain, h]

/-- A store that succeeded leaves the plugin where `Find` of its reference returns it. -/
lemma find_of_store_ok {fs fs' : FS} {p : Plugin} {wasm : WasmStream} {path : String}
    (hd : ∃ a v, newDigest a v = .ok p.digest) (h : repo.store json fs p wasm = (.ok path, fs')) :
    ∃ dir, repo.pluginPath p.reference = .ok dir ∧ repo.find json fs' p.reference =
      .ok (p, joinName dir "plugin.wasm") := by
  obtain ⟨a, v, hd⟩ := hd
  obtain ⟨dir, hdir, -, hw, hm, hg⟩ := repo.store_ok json h
  exact ⟨dir, hdir, repo.find_of_entry json hd hdir hw hm hg⟩

/-- **The chain's answer is the cache's entry.** For every chain whose registries answer for
the reference asked with a digest `NewDigest` accepts, every file system and reference:
when the chain answers with a plugin, `Find` of the reference on the file system the chain
leaves returns that plugin and the `plugin.wasm` of the reference's directory. -/
lemma resolveChain_cached (chain : List Resolver) (hok : ChainOk chain) (fs : FS)
    (ref : PluginReference) {p : Plugin} {fs' : FS}
    (h : resolveChain json repo chain fs ref = (.ok p, fs')) :
    ∃ dir, repo.pluginPath ref = .ok dir ∧
      repo.find json fs' ref = .ok (p, joinName dir "plugin.wasm") := by
  induction chain with
  | nil => simp [resolveChain] at h
  | cons r next ih =>
    cases r with
    | cached =>
      rcases hf : repo.find json fs ref with e | ⟨q, path⟩
      · simp only [resolveChain, hf] at h
        exact ih hok.tail h
      · simp only [resolveChain, hf, Prod.mk.injEq, Except.ok.injEq] at h
        obtain ⟨rfl, rfl⟩ := h
        obtain ⟨dir, _, _, hdir, -, -, -, he⟩ := repo.find_eq_ok json hf
        exact ⟨dir, hdir, by rw [hf, show path = _ from congrArg Prod.snd he]⟩
    | registry pull =>
      simp only [resolveChain, registryResolve] at h
      rcases hp : pull ref with e | ⟨q, w⟩
      · simp [hp] at h
      obtain ⟨rfl, hd⟩ := hok pull (List.mem_cons_self _ _) ref q w hp
      rcases hs : repo.store json fs q w with ⟨_ | path, fs₁⟩
      · simp [hp, hs] at h
      · simp only [hp, hs, Prod.mk.injEq, Except.ok.injEq] at h
        obtain ⟨rfl, rfl⟩ := h
        exact find_of_store_ok json repo hd hs

/-! ### `LoadPlugin` with the chain -/

/-- `PluginService` with its resolver chain: the resolver `WithResolver` set and the ones
linked after it, whether signatures are required, and the signature verifier. -/
structure ChainService where
  first : Resolver
  next : List Resolver := []
  requireSigning : Bool := false
  verifySignature : PluginReference → Except String Unit := fun _ => .ok ()

/-- The `PluginService` of `Plugin.Service` whose resolver answers as the chain does from
`fs`. -/
def ChainService.service (svc : ChainService) (fs : FS) : PluginService :=
  ⟨fun ref => (resolveChain json repo (svc.first :: svc.next) fs ref).1, svc.requireSigning,
    svc.verifySignature⟩

@[simp] lemma ChainService.service_resolve (svc : ChainService) (fs : FS) (ref : PluginReference) :
    (svc.service json repo fs).resolve ref = (resolveChain json repo (svc.first :: svc.next) fs ref).1 :=
  rfl

/-- `LoadPlugin` with a resolver chain: the resolution may write to the cache, and `Find`
reads what it leaves. -/
def loadPluginChain (fs : FS) (svc : ChainService) (spec : PluginSpecDTO) :
    Except String String × FS :=
  match spec.toPluginReference, spec.toDigest with
  | .error e, _ => (.error ("invalid plugin reference: " ++ e), fs)
  | .ok _, .error e => (.error ("invalid digest: " ++ e), fs)
  | .ok ref, .ok expected =>
    match resolveChain json repo (svc.first :: svc.next) fs ref with
    | (.error e, fs') => (.error ("plugin resolution failed: " ++ e), fs')
    | (.ok plugin, fs') =>
      match loadChecks (svc.service json repo fs) ref plugin expected with
      | .error e => (.error e, fs')
      | .ok () =>
        (((repo.find json fs' ref).mapError ("failed to locate plugin binary: " ++ ·)).map
          Prod.snd, fs')

/-- **`LoadPlugin` of `Plugin.Service` is the chain's with the file system fixed**: the
result is `loadPlugin` on the file system the resolution leaves, the chain's answers from
the file system it started on as the resolver. -/
lemma loadPluginChain_fst (fs : FS) (svc : ChainService) (spec : PluginSpecDTO) :
    (loadPluginChain json repo fs svc spec).1 =
      loadPlugin json repo (loadPluginChain json repo fs svc spec).2
        (svc.service json repo fs) spec := by
  unfold loadPluginChain loadPlugin
  rcases spec.toPluginReference with e | ref
  · rfl
  rcases spec.toDigest with e | expected
  · rfl
  rcases hr : resolveChain json repo (svc.first :: svc.next) fs ref with ⟨e | plugin, fs'⟩
  · simp [hr, bind, Except.bind, Except.mapError]
  · rcases hc : loadChecks (svc.service json repo fs) ref plugin expected with e | ⟨⟩
    · simp [hr, hc, bind, Except.bind, Except.mapError]
    · cases repo.find json fs' ref <;>
        simp [hr, hc, bind, Except.bind, Except.mapError, Except.map, pure,
          Except.pure]

/-- The checks of `LoadPlugin` read the service's signature settings, not its resolver. -/
lemma loadChecks_service (svc : ChainService) (fs fs' : FS) :
    loadChecks (svc.service json repo fs') = loadChecks (svc.service json repo fs) :=
  rfl

/-- **`LoadPlugin` again.** With the cached resolver first and registries that answer for the
reference asked with a digest `NewDigest` accepts: for every file system and spec, a
`LoadPlugin` that returned a path returns the same path the second time, answering from the
cache and changing nothing. -/
theorem loadPluginChain_again (svc : ChainService) (hfirst : svc.first = .cached)
    (hok : ChainOk (svc.first :: svc.next)) {fs fs' : FS} {spec : PluginSpecDTO} {path : String}
    (h : loadPluginChain json repo fs svc spec = (.ok path, fs')) :
    loadPluginChain json repo fs' svc spec = (.ok path, fs') := by
  unfold loadPluginChain at h ⊢
  rcases href : spec.toPluginReference with e | ref
  · simp [href] at h
  rcases hD : spec.toDigest with e | expected
  · simp [href, hD] at h
  simp only [href, hD] at h ⊢
  rcases hr : resolveChain json repo (svc.first :: svc.next) fs ref with ⟨e | p, fs₁⟩
  · simp [hr] at h
  rcases hc : loadChecks (svc.service json repo fs) ref p expected with e | u
  · simp [hr, hc] at h
  cases u
  simp only [hr, hc, Prod.mk.injEq] at h
  obtain ⟨hpath, rfl⟩ := h
  obtain ⟨dir, -, hf⟩ := resolveChain_cached json repo _ hok fs ref hr
  rw [hfirst, resolveChain_cached_hit json repo hf]
  simp only [loadChecks_service json repo svc fs, hc, hpath]

/-- **A failed digest check keeps the plugin.** With the cached resolver first and registries
as above: for every file system and spec pinning a digest `D` with a value, when the chain
resolves the reference to a plugin whose digest is not `D`, `LoadPlugin` fails on the digest,
and yet the plugin stays in the cache: `LoadPlugin` of the same reference without a pin then
returns its `plugin.wasm`, changing nothing, when the signature check passes. -/
theorem loadPluginChain_keeps_unverified (svc : ChainService) (hfirst : svc.first = .cached)
    (hok : ChainOk (svc.first :: svc.next)) {fs fs' : FS} {spec : PluginSpecDTO}
    {ref : PluginReference} {D : Digest} {p : Plugin}
    (href : spec.toPluginReference = .ok ref) (hD : spec.toDigest = .ok D) (hv : D.value ≠ "")
    (hr : resolveChain json repo (svc.first :: svc.next) fs ref = (.ok p, fs'))
    (hp : p.digest ≠ D) (hsig : svc.requireSigning = true → svc.verifySignature ref = .ok ()) :
    ∃ dir, repo.pluginPath ref = .ok dir ∧
      loadPluginChain json repo fs svc spec = (.error ("integrity verification failed: " ++
        ("integrity check failed: expected " ++ D.toString ++ ", got " ++ p.digest.toString)),
        fs') ∧
      loadPluginChain json repo fs' svc ⟨spec.name, ""⟩ = (.ok (joinName dir "plugin.wasm"), fs') := by
  obtain ⟨dir, hdir, hf⟩ := resolveChain_cached json repo _ hok fs ref hr
  have href' : PluginSpecDTO.toPluginReference ⟨spec.name, ""⟩ = .ok ref := href
  have he : p.digest.equals D = false := by rw [Bool.eq_false_iff, ne_eq, Digest.equals_iff]; exact hp
  refine ⟨dir, hdir, ?_, ?_⟩
  · simp [loadPluginChain, href, hD, hr, loadChecks, hv, Plugin.verifyIntegrity, he, bind,
      Except.bind, Except.mapError]
  · have hD' : PluginSpecDTO.toDigest ⟨spec.name, ""⟩ = .ok {} := rfl
    simp only [loadPluginChain, href', hD', hfirst, resolveChain_cached_hit json repo hf]
    cases hs : svc.requireSigning <;>
      simp [loadChecks, ChainService.service, hs, hsig, hf, Except.map, Except.mapError, pure,
        Except.pure, bind, Except.bind]

/-! ### Concrete runs -/

/-- A registry serving every reference as the artifact `wasm` of `file` with digest
`sha256:ab`. -/
def fileRegistry (ref : PluginReference) : Except String (Plugin × WasmStream) :=
  .ok ({ filePlugin "ab" with reference := ref }, ⟨"wasm", none⟩)

/-- The cached resolver, then `fileRegistry`. -/
def registryService : ChainService := { first := .cached, next := [.registry fileRegistry] }

lemma registryService_ok : ChainOk (registryService.first :: registryService.next) := by
  intro pull hp
  simp only [registryService, List.mem_cons, List.mem_singleton, reduceCtorEq, false_or,
    Resolver.registry.injEq, List.not_mem_nil, or_false] at hp
  subst hp
  rintro ref p w ⟨⟩
  exact ⟨rfl, "sha256", "ab", rfl⟩

/-- The cache after `fileRegistry`'s artifact was stored in `cacheFS`. -/
def pulledFS : FS := (cacheRepo.store metadataCodec cacheFS (filePlugin "ab") ⟨"wasm", none⟩).2

/-- The first `LoadPlugin` of `file` misses the cache, pulls and stores the artifact; the
second answers from the cache. -/
theorem loadPluginChain_again_pulled :
    loadPluginChain metadataCodec cacheRepo cacheFS registryService ⟨"ghcr.io/o/r/file:1.0", ""⟩ =
        (.ok "/cache/ghcr.io/o/r/file:1.0/plugin.wasm", pulledFS) ∧
      loadPluginChain metadataCodec cacheRepo pulledFS registryService
        ⟨"ghcr.io/o/r/file:1.0", ""⟩ = (.ok "/cache/ghcr.io/o/r/file:1.0/plugin.wasm", pulledFS) :=
  have first : loadPluginChain metadataCodec cacheRepo cacheFS registryService
      ⟨"ghcr.io/o/r/file:1.0", ""⟩ = (.ok "/cache/ghcr.io/o/r/file:1.0/plugin.wasm", pulledFS) :=
    rfl
  ⟨first, loadPluginChain_again metadataCodec cacheRepo registryService rfl registryService_ok first⟩

/-- Pinning `sha256:cd` against a registry that serves `sha256:ab`: the `LoadPlugin` fails on
the digest, and the unpinned `LoadPlugin` that follows returns the stored artifact. -/
theorem loadPluginChain_keeps_unverified_pulled :
    ∃ dir, cacheRepo.pluginPath (filePlugin "ab").reference = .ok dir ∧
      loadPluginChain metadataCodec cacheRepo cacheFS registryService
          ⟨"ghcr.io/o/r/file:1.0", "sha256:cd"⟩ =
        (.error ("integrity verification failed: " ++ ("integrity check failed: expected " ++
          (⟨"sha256", "cd"⟩ : Digest).toString ++ ", got " ++ (filePlugin "ab").digest.toString)),
          pulledFS) ∧
      loadPluginChain metadataCodec cacheRepo pulledFS registryService
        ⟨"ghcr.io/o/r/file:1.0", ""⟩ = (.ok (joinName dir "plugin.wasm"), pulledFS) :=
  loadPluginChain_keeps_unverified metadataCodec cacheRepo registryService rfl registryService_ok
    (show PluginSpecDTO.toPluginReference ⟨"ghcr.io/o/r/file:1.0", "sha256:cd"⟩ =
      .ok (filePlugin "ab").reference from rfl) rfl (by decide) rfl (by decide)
    (fun h => absurd h (by decide))

end Plugins

end RegletHost
