import RegletHost.Plugin.Resolution

/-!
The OCI registry adapter's `Pull` (`src/unnamed/part_020`, `OCIRegistryAdapter.Pull`,
`findWASMLayer`) as the registry of the resolver chain.

* `OCIArtifact`, `findWASMLayer`, `layerDigest`, `ociPull`: what the copy from the remote
  repository gave (`remote`: the manifest's layers, the config's metadata, and `Fetch` of a
  layer, with their errors), and `Pull` from there on, as the code writes it. The layer's
  digest goes through `ParseDigest` with its error dropped, so a digest it rejects becomes
  the zero digest.
* `ociPull_pullOk`: when the WASM layer's digest parses, the adapter meets what the chain
  needs of a registry (`PullOk`), and the chain's theorems of `Plugin.Resolution` hold of it.
* `loadPluginChain_oci_unparsable` (**an unparsable layer digest is never loaded**): with the
  cached resolver, then the adapter, a `LoadPlugin` of a reference not in the cache fails
  when the remote's WASM layer has a digest `ParseDigest` rejects; and when the pull and the
  store succeeded, the reference is still not in the cache, since the zero digest's text
  `:` does not parse back, so the next `LoadPlugin` pulls again.
-/

namespace RegletHost

namespace Plugins

open Storage

/-- An OCI descriptor as `Pull` reads it: the media type and the digest text. -/
structure Descriptor where
  mediaType : String
  digest : String
  deriving DecidableEq, Repr

/-- What `oras.Copy` and the reads of the manifest and the config gave: the manifest's
layers, the config's plugin metadata, and `Fetch` of a layer, its stream or the error. -/
structure OCIArtifact where
  layers : List Descriptor
  metadata : PluginMetadata
  fetch : Descriptor → Except String WasmStream

/-- `findWASMLayer`: the first layer of the plugin's WASM media type. -/
def findWASMLayer (layers : List Descriptor) : Except String Descriptor :=
  match layers.find? (·.mediaType == "application/vnd.reglet.plugin.wasm.v1") with
  | some layer => .ok layer
  | none => .error "no WASM layer found"

/-- `digest, _ := values.ParseDigest(string(wasmDesc.Digest))`: the zero digest when
`ParseDigest` fails. -/
def layerDigest (layer : Descriptor) : Digest :=
  match parseDigest layer.digest with
  | .ok d => d
  | .error _ => {}

/-- `io.ReadAll` of the WASM layer's stream, its error wrapped as `Pull` wraps it. -/
def readWasm (rc : WasmStream) : Except String String :=
  match rc.err with
  | some e => .error ("read wasm: " ++ e)
  | none => .ok rc.data

/-- `OCIRegistryAdapter.Pull`, `remote` standing for the copy of the artifact and the reads
of its manifest and config with their errors: the WASM layer, its bytes read whole, and the
plugin of the reference with the layer's digest and the config's metadata. -/
def ociPull (remote : PluginReference → Except String OCIArtifact) (ref : PluginReference) :
    Except String (Plugin × WasmStream) := do
  let a ← remote ref
  let layer ← findWASMLayer a.layers
  let rc ← (a.fetch layer).mapError ("fetch wasm: " ++ ·)
  let bytes ← readWasm rc
  pure (⟨ref, layerDigest layer, a.metadata⟩, ⟨bytes, none⟩)

/-- What a pull that succeeded read: the artifact, its WASM layer, and the plugin of the
reference with the layer's digest. -/
lemma ociPull_eq_ok {remote : PluginReference → Except String OCIArtifact}
    {ref : PluginReference} {p : Plugin} {w : WasmStream} (h : ociPull remote ref = .ok (p, w)) :
    ∃ a layer, remote ref = .ok a ∧ findWASMLayer a.layers = .ok layer ∧
      p = ⟨ref, layerDigest layer, a.metadata⟩ := by
  simp only [ociPull, except_bind_eq_ok] at h
  obtain ⟨a, ha, layer, hl, rc, -, bytes, -, h⟩ := h
  exact ⟨a, layer, ha, hl, (Prod.mk.inj (Except.ok.inj h)).1.symm⟩

/-- The remote's WASM layer for the reference has a digest `ParseDigest` accepts. -/
def LayerDigestOk (remote : PluginReference → Except String OCIArtifact) : Prop :=
  ∀ ref a layer, remote ref = .ok a → findWASMLayer a.layers = .ok layer →
    ∃ d, parseDigest layer.digest = .ok d

/-- **The adapter as a registry of the chain**: with layer digests `ParseDigest` accepts, a
pulled plugin is the reference's, with a digest `NewDigest` accepts. -/
lemma ociPull_pullOk {remote : PluginReference → Except String OCIArtifact}
    (h : LayerDigestOk remote) : PullOk (ociPull remote) := by
  intro ref p w hp
  obtain ⟨a, layer, ha, hl, rfl⟩ := ociPull_eq_ok hp
  obtain ⟨d, hd⟩ := h ref a layer ha hl
  have hld : layerDigest layer = d := by simp [layerDigest, hd]
  exact ⟨rfl, d.algorithm, d.value, hld ▸ (parseDigest_eq_ok hd).1⟩

variable (json : Codec PluginMetadata) (repo : FSPluginRepository)

/-- A store of a plugin with the zero digest leaves its reference out of the cache: its
`digest.txt` holds `:`, which `ParseDigest` rejects. -/
lemma find_error_of_store_zero {fs fs' : FS} {p : Plugin} {w : WasmStream} {path : String}
    (hz : p.digest = {}) (h : repo.store json fs p w = (.ok path, fs')) :
    ∃ e, repo.find json fs' p.reference = .error e := by
  rcases hf : repo.find json fs' p.reference with e | found
  · exact ⟨e, rfl⟩
  obtain ⟨dir, hdir, -, -, -, hg⟩ := repo.store_ok json h
  obtain ⟨dir', -, d, hdir', -, -, hd, -⟩ := repo.find_eq_ok json hf
  obtain rfl : dir' = dir := Except.ok.inj (hdir'.symm.trans hdir)
  obtain ⟨text, htext, hparse⟩ := FSPluginRepository.loadDigest_eq_ok.mp hd
  rw [hg, hz, Option.some.injEq, Node.file.injEq] at htext
  subst htext
  have hcolon : parseDigest ({} : Digest).toString = .error "unsupported digest algorithm: " := rfl
  rw [hcolon] at hparse
  cases hparse

/-- A resolution by the adapter after a cache miss, when the layer digest does not parse:
the plugin has the zero digest and was stored. -/
lemma registryResolve_oci_zero {remote : PluginReference → Except String OCIArtifact}
    {fs fs' : FS} {ref : PluginReference} {p : Plugin}
    (hbad : ∀ a layer, remote ref = .ok a → findWASMLayer a.layers = .ok layer →
      ∃ e, parseDigest layer.digest = .error e)
    (h : registryResolve json repo (ociPull remote) fs ref = (.ok p, fs')) :
    p.reference = ref ∧ p.digest = {} ∧ ∃ w path, repo.store json fs p w = (.ok path, fs') := by
  unfold registryResolve at h
  rcases hp : ociPull remote ref with e | ⟨q, w⟩
  · simp [hp] at h
  obtain ⟨a, layer, ha, hl, rfl⟩ := ociPull_eq_ok hp
  obtain ⟨e, he⟩ := hbad a layer ha hl
  rcases hs : repo.store json fs ⟨ref, layerDigest layer, a.metadata⟩ w with ⟨_ | path, fs₁⟩
  · simp [hp, hs] at h
  simp only [hp, hs, Prod.mk.injEq, Except.ok.injEq] at h
  obtain ⟨rfl, rfl⟩ := h
  exact ⟨rfl, by simp [layerDigest, he], w, path, hs⟩

/-- **An unparsable layer digest is never loaded.** With the cached resolver, then the OCI
adapter: for every file system where the reference is not cached and every spec of that
reference, when the remote's WASM layer for it has a digest `ParseDigest` rejects,
`LoadPlugin` fails; and when the resolution succeeded, pulling and storing the plugin, the
reference is still not cached on the file system it left. -/
theorem loadPluginChain_oci_unparsable (remote : PluginReference → Except String OCIArtifact)
    (svc : ChainService) (hfirst : svc.first = .cached) {rest : List Resolver}
    (hnext : svc.next = .registry (ociPull remote) :: rest) {fs : FS} {spec : PluginSpecDTO}
    {ref : PluginReference} (href : spec.toPluginReference = .ok ref)
    (hmiss : ∃ e, repo.find json fs ref = .error e)
    (hbad : ∀ a layer, remote ref = .ok a → findWASMLayer a.layers = .ok layer →
      ∃ e, parseDigest layer.digest = .error e) :
    (∃ e, (loadPluginChain json repo fs svc spec).1 = .error e) ∧
      ∀ p fs', resolveChain json repo (svc.first :: svc.next) fs ref = (.ok p, fs') →
        ∃ e, repo.find json fs' ref = .error e := by
  obtain ⟨e₀, hmiss⟩ := hmiss
  have hchain : resolveChain json repo (svc.first :: svc.next) fs ref =
      registryResolve json repo (ociPull remote) fs ref := by
    simp [hfirst, hnext, resolveChain, hmiss]
  have hleft : ∀ p fs', resolveChain json repo (svc.first :: svc.next) fs ref = (.ok p, fs') →
      ∃ e, repo.find json fs' ref = .error e := by
    intro p fs' h
    obtain ⟨hpr, hz, w, path, hs⟩ := registryResolve_oci_zero json repo hbad (hchain ▸ h)
    exact hpr ▸ find_error_of_store_zero json repo hz hs
  refine ⟨?_, hleft⟩
  unfold loadPluginChain
  rcases hD : spec.toDigest with e | expected
  · simp [href, hD]
  rcases hr : resolveChain json repo (svc.first :: svc.next) fs ref with ⟨e | p, fs'⟩
  · simp [href, hD, hr]
  obtain ⟨e, hf⟩ := hleft p fs' hr
  rcases hc : loadChecks (svc.service json repo fs) ref p expected with e' | u
  · simp [href, hD, hr, hc]
  · simp [href, hD, hr, hc, hf, Except.mapError, Except.map]

/-! ### Concrete runs -/

/-- A remote serving every reference with a WASM layer of digest `sha384:ab`, an algorithm
`NewDigest` does not know. -/
def sha384Remote (_ : PluginReference) : Except String OCIArtifact :=
  .ok ⟨[⟨"application/vnd.reglet.plugin.wasm.v1", "sha384:ab"⟩], {}, fun _ => .ok ⟨"wasm", none⟩⟩

/-- `file` from an empty cache and `sha384Remote`: the load fails, and so would the next. -/
theorem loadPluginChain_oci_sha384 :
    (∃ e, (loadPluginChain metadataCodec cacheRepo cacheFS
        ⟨.cached, [.registry (ociPull sha384Remote)], false, fun _ => .ok ()⟩
        ⟨"ghcr.io/o/r/file:1.0", ""⟩).1 = .error e) ∧
      ∀ p fs', resolveChain metadataCodec cacheRepo
          [.cached, .registry (ociPull sha384Remote)] cacheFS (filePlugin "ab").reference =
          (.ok p, fs') →
        ∃ e, cacheRepo.find metadataCodec fs' (filePlugin "ab").reference = .error e :=
  loadPluginChain_oci_unparsable metadataCodec cacheRepo sha384Remote
    ⟨.cached, [.registry (ociPull sha384Remote)], false, fun _ => .ok ()⟩ rfl rfl
    (show PluginSpecDTO.toPluginReference ⟨"ghcr.io/o/r/file:1.0", ""⟩ =
      .ok (filePlugin "ab").reference from rfl) ⟨_, rfl⟩
    (fun a layer ha hl => by
      cases Except.ok.inj ha
      cases Except.ok.inj hl.symm
      exact ⟨_, rfl⟩)

end Plugins

end RegletHost
