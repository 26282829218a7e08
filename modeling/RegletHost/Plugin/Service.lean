import RegletHost.Plugin.Repository

/-!
`PluginService.LoadPlugin` (`src/unnamed/part_019`): the spec's reference and digest, the
resolver chain, the digest comparison, the signature check when required, and the path
from the cache.

* `PluginService`: the parts `LoadPlugin` reads. The resolver chain is a function, so the
  statements hold for every chain; `cachedResolve` is `CachedPluginResolver` in front of
  the rest of a chain.
* `loadPlugin_checks_recorded`: a path `LoadPlugin` returns for a spec whose digest has a
  value is the `plugin.wasm` of the reference's cache directory, and the plugin the chain
  resolved records that digest; with the cached resolver in front, the digest is the one
  the directory's `digest.txt` holds.
* `loadPlugin_wasm_independent` (**the plugin's bytes are never read**): two caches that
  differ only in the contents of `plugin.wasm` files (`WasmVariant`) load alike.
-/

namespace RegletHost

namespace Plugins

open Storage

/-- `PluginSpecDTO`: the reference text and the digest text, empty when none is pinned. -/
structure PluginSpecDTO where
  name : String
  digest : String := ""

/-- `ToPluginReference`. -/
def PluginSpecDTO.toPluginReference (s : PluginSpecDTO) : Except String PluginReference :=
  parsePluginReference s.name

/-- `ToDigest`: the zero digest when none is pinned. -/
def PluginSpecDTO.toDigest (s : PluginSpecDTO) : Except String Digest :=
  if s.digest = "" then .ok {} else parseDigest s.digest

/-- The parts of `PluginService` that `LoadPlugin` reads: the resolver chain, whether the
integrity service requires signatures, and the signature verifier (whose result is only
logged). -/
structure PluginService where
  resolve : PluginReference → Except String Plugin
  requireSigning : Bool := false
  verifySignature : PluginReference → Except String Unit := fun _ => .ok ()

variable (json : Codec PluginMetadata) (repo : FSPluginRepository)

/-- `CachedPluginResolver.Resolve`: the plugin `Find` returns, else the next resolver's
answer, and `ResolveNext`'s not-found error at the end of the chain. -/
def cachedResolve (fs : FS) (next : Option (PluginReference → Except String Plugin))
    (ref : PluginReference) : Except String Plugin :=
  match repo.find json fs ref with
  | .ok (plugin, _) => .ok plugin
  | .error _ =>
      match next with
      | some resolve => resolve ref
      | none => .error ("plugin not found: " ++ ref.toString)

/-- The checks of `LoadPlugin` between resolution and the cache: the recorded digest against
the expected one when that has a value (`VerifyDigest`), the signature when required. -/
def loadChecks (svc : PluginService) (ref : PluginReference) (plugin : Plugin) (expected : Digest) :
    Except String Unit := do
  if expected.value ≠ "" then
    (plugin.verifyIntegrity expected).mapError ("integrity verification failed: " ++ ·)
  if svc.requireSigning then
    (svc.verifySignature ref).mapError ("signature verification failed: " ++ ·)

lemma loadChecks_digest {svc : PluginService} {ref : PluginReference} {plugin : Plugin}
    {expected : Digest} (h : loadChecks svc ref plugin expected = .ok ()) (hv : expected.value ≠ "") :
    plugin.digest = expected := by
  rw [loadChecks, if_pos hv] at h
  simp only [except_bind_eq_ok, except_mapError_eq_ok] at h
  obtain ⟨⟨⟩, hv', -⟩ := h
  exact Plugin.verifyIntegrity_eq_ok_iff.mp hv'

/-- `LoadPlugin`. -/
def loadPlugin (fs : FS) (svc : PluginService) (spec : PluginSpecDTO) : Except String String := do
  let ref ← spec.toPluginReference.mapError ("invalid plugin reference: " ++ ·)
  let expected ← spec.toDigest.mapError ("invalid digest: " ++ ·)
  let plugin ← (svc.resolve ref).mapError ("plugin resolution failed: " ++ ·)
  loadChecks svc ref plugin expected
  let found ← (repo.find json fs ref).mapError ("failed to locate plugin binary: " ++ ·)
  pure found.2

/-- What a successful `LoadPlugin` went through: the reference and the expected digest
parsed, the chain resolved a plugin whose recorded digest is the expected one when that has
a value, and `Find` gave the path. -/
lemma loadPlugin_eq_ok {fs : FS} {svc : PluginService} {spec : PluginSpecDTO} {path : String}
    (h : loadPlugin json repo fs svc spec = .ok path) :
    ∃ ref expected plugin found, spec.toPluginReference = .ok ref ∧ spec.toDigest = .ok expected ∧
      svc.resolve ref = .ok plugin ∧ (expected.value ≠ "" → plugin.digest = expected) ∧
      repo.find json fs ref = .ok found ∧ path = found.2 := by
  simp only [loadPlugin, except_bind_eq_ok, except_mapError_eq_ok] at h
  obtain ⟨ref, h1, expected, h2, plugin, h3, ⟨⟩, hc, found, h4, h5⟩ := h
  exact ⟨ref, expected, plugin, found, h1, h2, h3, loadChecks_digest hc, h4, (Except.ok.inj h5).symm⟩

/-- The cached resolver in front of a chain answers with the plugin `Find` returns. -/
lemma cachedResolve_of_find {fs : FS} {next : Option (PluginReference → Except String Plugin)}
    {ref : PluginReference} {found : Plugin × String} (h : repo.find json fs ref = .ok found) :
    cachedResolve json repo fs next ref = .ok found.1 := by
  simp [cachedResolve, h]

/-- **What `LoadPlugin` checks.** For every resolver chain and every cache content, a path
`LoadPlugin` returns for a spec pinning a digest `D` with a value is the `plugin.wasm` of the
reference's cache directory, present there, and the plugin the chain resolved records `D`;
when the chain is the cached resolver in front of any other, the `digest.txt` of that
directory holds `D`. -/
theorem loadPlugin_checks_recorded {fs : FS} {svc : PluginService} {spec : PluginSpecDTO}
    {D : Digest} {path : String} (hD : parseDigest spec.digest = .ok D) (hv : D.value ≠ "")
    (h : loadPlugin json repo fs svc spec = .ok path) :
    ∃ ref plugin dir, parsePluginReference spec.name = .ok ref ∧ svc.resolve ref = .ok plugin ∧
      plugin.digest = D ∧ repo.pluginPath ref = .ok dir ∧ path = joinName dir "plugin.wasm" ∧
      fs path ≠ none ∧
      ∀ next, svc.resolve = cachedResolve json repo fs next →
        ∃ text, fs (joinName dir "digest.txt") = some (.file text) ∧ parseDigest text = .ok D := by
  obtain ⟨ref, expected, plugin, found, h1, h2, h3, hdig, h4, rfl⟩ := loadPlugin_eq_ok json repo h
  have hne : spec.digest ≠ "" := by
    rintro he
    simp [he, parseDigest, cutChar] at hD
  obtain rfl : expected = D := by
    simp only [PluginSpecDTO.toDigest, hne, if_false, hD] at h2
    exact (Except.ok.inj h2).symm
  obtain ⟨dir, metadata, digest, hdir, hw, -, hd, rfl⟩ := repo.find_eq_ok json h4
  refine ⟨ref, plugin, dir, h1, h3, hdig hv, hdir, rfl, hw, fun next hnext => ?_⟩
  have : plugin = ⟨ref, digest, metadata⟩ := by
    rw [hnext, cachedResolve_of_find json repo h4] at h3
    exact (Except.ok.inj h3).symm
  subst this
  exact FSPluginRepository.loadDigest_eq_ok.mp (hdig hv ▸ hd)

/-- The cache after a store of `file` whose recorded digest has the value `v`, and the
cached resolver over it. -/
def cachedFile (v : String) : FS :=
  cacheRepo.runOps metadataCodec cacheFS [.store (filePlugin v) ⟨"wasm", none⟩]

theorem loadPlugin_checks_recorded_example :
    ∃ ref plugin dir, parsePluginReference "ghcr.io/o/r/file:1.0" = .ok ref ∧
      cachedResolve metadataCodec cacheRepo (cachedFile "ab") none ref = .ok plugin ∧
      plugin.digest = ⟨"sha256", "ab"⟩ ∧ cacheRepo.pluginPath ref = .ok dir ∧
      "/cache/ghcr.io/o/r/file:1.0/plugin.wasm" = joinName dir "plugin.wasm" ∧
      cachedFile "ab" "/cache/ghcr.io/o/r/file:1.0/plugin.wasm" ≠ none ∧
      ∀ next, cachedResolve metadataCodec cacheRepo (cachedFile "ab") none =
          cachedResolve metadataCodec cacheRepo (cachedFile "ab") next →
        ∃ text, cachedFile "ab" (joinName dir "digest.txt") = some (.file text) ∧
          parseDigest text = .ok ⟨"sha256", "ab"⟩ :=
  loadPlugin_checks_recorded metadataCodec cacheRepo
    (show parseDigest "sha256:ab" = .ok ⟨"sha256", "ab"⟩ from rfl) (by decide)
    (show loadPlugin metadataCodec cacheRepo (cachedFile "ab")
      ⟨cachedResolve metadataCodec cacheRepo (cachedFile "ab") none, false, fun _ => .ok ()⟩
      ⟨"ghcr.io/o/r/file:1.0", "sha256:ab"⟩ = .ok "/cache/ghcr.io/o/r/file:1.0/plugin.wasm" from rfl)

/-- With `file` cached under the recorded digest `sha256:00`, `LoadPlugin` of the spec pinning
that digest returns the path of the bytes, although no SHA-256 of any data is two hex digits:
the digest's `Verify` of those bytes fails for every hash function. -/
theorem loadPlugin_unverified :
    loadPlugin metadataCodec cacheRepo (cachedFile "00")
        ⟨cachedResolve metadataCodec cacheRepo (cachedFile "00") none, false, fun _ => .ok ()⟩
        ⟨"ghcr.io/o/r/file:1.0", "sha256:00"⟩ = .ok "/cache/ghcr.io/o/r/file:1.0/plugin.wasm" ∧
    cachedFile "00" "/cache/ghcr.io/o/r/file:1.0/plugin.wasm" = some (.file "wasm") ∧
    ∀ H : Hashes, (⟨"sha256", "00"⟩ : Digest).verify H "wasm" ≠ .ok () := by
  refine ⟨rfl, rfl, fun H h => ?_⟩
  rcases (Digest.verify_eq_ok_iff H _ _).mp h with ⟨-, h⟩ | ⟨h, -⟩
  · have := congrArg String.length h
    rw [H.sum256_length] at this
    exact absurd this (by decide)
  · exact absurd h (by decide)

/-! ### `LoadPlugin` never reads the plugin's bytes -/

/-- Two caches that differ at most in the bytes of files named `plugin.wasm`: wherever they
differ, both hold a file, and the path is a `plugin.wasm` in a directory. -/
def WasmVariant (fs fs' : FS) : Prop :=
  ∀ path, fs' path ≠ fs path → ∃ dir, dir ≠ "" ∧ path = joinName dir "plugin.wasm" ∧
    (∃ data, fs path = some (.file data)) ∧ ∃ data', fs' path = some (.file data')

namespace WasmVariant

variable {fs fs' : FS} (h : WasmVariant fs fs')
include h

/-- Every other file of a directory is the same in both caches. -/
lemma entry_eq {dir : String} (hdir : dir ≠ "") (name : String) (hname : '/' ∉ name.toList)
    (hw : name ≠ "plugin.wasm") : fs' (joinName dir name) = fs (joinName dir name) := by
  by_contra hne
  obtain ⟨dir', hdir', heq, -⟩ := h _ hne
  exact hw (joinName_inj hdir hdir' hname (by decide) heq).2

/-- A path holds nothing in one cache exactly when it holds nothing in the other. -/
lemma eq_none_iff (path : String) : fs' path = none ↔ fs path = none := by
  by_cases hne : fs' path = fs path
  · rw [hne]
  · obtain ⟨-, -, -, ⟨data, hd⟩, data', hd'⟩ := h path hne
    simp [hd, hd']

/-- `Find` reads whether `plugin.wasm` exists, and the other two files of the entry. -/
lemma find_eq (ref : PluginReference) : repo.find json fs' ref = repo.find json fs ref := by
  unfold FSPluginRepository.find
  cases hp : repo.pluginPath ref with
  | error e => rfl
  | ok dir =>
    have hdir := repo.pluginPath_ne_empty hp
    simp only [bind, Except.bind, h.eq_none_iff, FSPluginRepository.loadMetadata,
      FSPluginRepository.loadDigest, FS.readFile, h.entry_eq hdir "metadata.json" (by decide) (by decide),
      h.entry_eq hdir "digest.txt" (by decide) (by decide)]

/-- So the cached resolver answers alike over both caches. -/
lemma cachedResolve_eq (next : Option (PluginReference → Except String Plugin)) :
    cachedResolve json repo fs' next = cachedResolve json repo fs next := by
  funext ref
  simp only [cachedResolve, h.find_eq json repo ref]

end WasmVariant

/-- **The plugin's bytes are never read.** For every two caches that differ only in the
contents of `plugin.wasm` files, `LoadPlugin` answers alike for every spec, with every
resolver chain, and with the cached resolver over each cache in front of any other chain:
no step reads or hashes the bytes at the path it returns. -/
theorem loadPlugin_wasm_independent {fs fs' : FS} (h : WasmVariant fs fs') (spec : PluginSpecDTO) :
    (∀ svc, loadPlugin json repo fs' svc spec = loadPlugin json repo fs svc spec) ∧
    ∀ next requireSigning verify,
      loadPlugin json repo fs' ⟨cachedResolve json repo fs' next, requireSigning, verify⟩ spec =
        loadPlugin json repo fs ⟨cachedResolve json repo fs next, requireSigning, verify⟩ spec := by
  have hsvc : ∀ svc, loadPlugin json repo fs' svc spec = loadPlugin json repo fs svc spec := fun svc => by
    simp only [loadPlugin, h.find_eq json repo]
  exact ⟨hsvc, fun next rs verify => by rw [h.cachedResolve_eq json repo next, hsvc]⟩

/-- The cache of `file` and the same cache with other bytes in its `plugin.wasm`. -/
theorem loadPlugin_wasm_independent_rewritten :
    let fs' : FS := fun path =>
      if path = "/cache/ghcr.io/o/r/file:1.0/plugin.wasm" then some (.file "other") else cachedFile "00" path
    let spec : PluginSpecDTO := ⟨"ghcr.io/o/r/file:1.0", "sha256:00"⟩
    WasmVariant (cachedFile "00") fs' ∧
      (∀ svc, loadPlugin metadataCodec cacheRepo fs' svc spec =
        loadPlugin metadataCodec cacheRepo (cachedFile "00") svc spec) ∧
      ∀ next requireSigning verify,
        loadPlugin metadataCodec cacheRepo fs' ⟨cachedResolve metadataCodec cacheRepo fs' next, requireSigning, verify⟩
            spec =
          loadPlugin metadataCodec cacheRepo (cachedFile "00")
            ⟨cachedResolve metadataCodec cacheRepo (cachedFile "00") next, requireSigning, verify⟩ spec := by
  intro fs' spec
  have h : WasmVariant (cachedFile "00") fs' := by
    intro path hne
    by_cases hp : path = "/cache/ghcr.io/o/r/file:1.0/plugin.wasm"
    · subst hp
      exact ⟨"/cache/ghcr.io/o/r/file:1.0", by decide, rfl, ⟨"wasm", rfl⟩, ⟨"other", rfl⟩⟩
    · exact absurd (if_neg hp) hne
  exact ⟨h, loadPlugin_wasm_independent metadataCodec cacheRepo h spec⟩

end Plugins

end RegletHost
