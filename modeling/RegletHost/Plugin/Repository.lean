import RegletHost.Plugin.Values
import RegletHost.Storage.Files
import RegletHost.Netutil.Addr

/-!
The filesystem plugin cache (`src/plugin/repository/fs_repository.go`).

* `FSPluginRepository.pluginPath`: the directory of a reference, `Clean(root/ref.String())`,
  refused when the reference text is absolute or leaves the root. The directory is the
  whole key of the cache: references that are not `Equals` can share one (an OCI reference
  with an empty registry prints as its bare name), and `Delete` removes the subtree below
  it.
* `FSPluginRepository.store`, `find`, `delete`: the calls over `FS`. `store` writes
  `plugin.wasm`, `metadata.json` and `digest.txt` in that order, into whatever the
  directory holds, and keeps what it wrote before a failure.
* `runOps`, `Disturbs`: a sequence of stores and deletes, and the calls that reach the
  entry of a directory: a store into it, or a delete whose subtree holds one of its
  files. `runOps_frame` is the step-and-run argument: every other call leaves the entry's
  files as they are.
* `find_after_store`: after a successful store, `find` of every reference whose directory
  is the store's returns the stored digest and metadata until a call disturbs the entry.
  A second store into the directory replaces the entry whatever its digest
  (`store_replaces_entry`).
-/

namespace RegletHost

namespace Plugins

open Storage Netutil

/-- `FSPluginRepository`: the cache's root directory, never empty (`NewFSPluginRepository`
puts an empty root under the home directory). -/
structure FSPluginRepository where
  root : String
  root_ne : root ≠ ""

/-- What `io.Copy` reads from the WASM stream before it stops, and the stream's error if it
fails rather than ending. -/
structure WasmStream where
  data : String
  err : Option String := none

namespace FSPluginRepository

variable (json : Codec PluginMetadata) (r : FSPluginRepository)

/-- `pluginPath`: the cleaned `root/ref`, refused when the reference text is absolute or the
path leaves the root. -/
def pluginPath (ref : PluginReference) : Except String String :=
  if hasPrefix ref.toString "/" then
    .error ("security violation: absolute paths not allowed in plugin reference " ++ goQuote ref.toString)
  else if !hasPrefix (cleanPath (cleanPath (r.root ++ "/" ++ ref.toString))) (cleanPath r.root ++ "/") &&
      cleanPath (cleanPath (r.root ++ "/" ++ ref.toString)) != cleanPath r.root then
    .error ("security violation: path traversal detected for plugin reference " ++ goQuote ref.toString)
  else .ok (cleanPath (cleanPath (r.root ++ "/" ++ ref.toString)))

lemma pluginPath_ne_empty {ref : PluginReference} {dir : String} (h : r.pluginPath ref = .ok dir) :
    dir ≠ "" := by
  unfold pluginPath at h
  split_ifs at h
  cases h
  exact cleanPath_ne_empty _

/-- The writes of `Store` up to the WASM copy: the directory, then `plugin.wasm`. -/
def wasmWrites (dir data : String) : List Write :=
  [.mkdirAll dir, .create dir "plugin.wasm", .append dir "plugin.wasm" data]

/-- The writes of `saveMetadata` and `saveDigest`. -/
def entryWrites (dir : String) (p : Plugin) : List Write :=
  [.create dir "metadata.json", .append dir "metadata.json" (json.encode p.metadata),
    .create dir "digest.txt", .append dir "digest.txt" p.digest.toString]

/-- `Store`: the WASM binary, then the metadata, then the digest, each step on the file
system the one before left; the path of `plugin.wasm`. -/
def store (fs : FS) (p : Plugin) (wasm : WasmStream) : Except String String × FS :=
  match r.pluginPath p.reference with
  | .error e => (.error e, fs)
  | .ok dir =>
      match fs.run (wasmWrites dir wasm.data), wasm.err with
      | (fs₁, some e), _ => (.error e.toString, fs₁)
      | (fs₁, none), some e => (.error ("write wasm: " ++ e), fs₁)
      | (fs₁, none), none =>
          match fs₁.run (entryWrites json dir p) with
          | (fs₂, some e) => (.error e.toString, fs₂)
          | (fs₂, none) => (.ok (joinName dir "plugin.wasm"), fs₂)

/-- `loadMetadata`. -/
def loadMetadata (fs : FS) (dir : String) : Except String PluginMetadata := do
  let text ← (fs.readFile (joinName dir "metadata.json")).mapError PathError.toString
  json.decode text

/-- `loadDigest`. -/
def loadDigest (fs : FS) (dir : String) : Except String Digest := do
  let text ← (fs.readFile (joinName dir "digest.txt")).mapError PathError.toString
  parseDigest text

/-- `Find`: a plugin with the asked reference and the metadata and digest read from its
directory, when `plugin.wasm` exists there, and that file's path. -/
def find (fs : FS) (ref : PluginReference) : Except String (Plugin × String) := do
  let dir ← r.pluginPath ref
  if fs (joinName dir "plugin.wasm") = none then throw ("plugin not found: " ++ ref.toString)
  let metadata ← loadMetadata json fs dir
  let digest ← loadDigest fs dir
  pure (⟨ref, digest, metadata⟩, joinName dir "plugin.wasm")

/-- `Delete`: `os.RemoveAll` of the reference's directory. -/
def delete (fs : FS) (ref : PluginReference) : Except String Unit × FS :=
  match r.pluginPath ref with
  | .error e => (.error e, fs)
  | .ok dir => (.ok (), fs.removeAll dir)

end FSPluginRepository

/-- A call on the cache that changes it. -/
inductive RepoOp
  | store (p : Plugin) (wasm : WasmStream)
  | delete (ref : PluginReference)

namespace FSPluginRepository

variable (json : Codec PluginMetadata) (r : FSPluginRepository)

/-- The file system after a call, whatever it returned. -/
def step (fs : FS) : RepoOp → FS
  | .store p wasm => (r.store json fs p wasm).2
  | .delete ref => (r.delete fs ref).2

/-- A sequence of calls. -/
def runOps (fs : FS) (ops : List RepoOp) : FS := ops.foldl (r.step json) fs

/-- The files of the cache entry in `dir`. -/
def entryFiles (dir : String) : List String :=
  [joinName dir "plugin.wasm", joinName dir "metadata.json", joinName dir "digest.txt"]

/-- A call reaches the entry of `dir` when it is a store into `dir`, or a delete whose
subtree holds one of the entry's files. -/
def Disturbs (dir : String) : RepoOp → Prop
  | .store p _ => r.pluginPath p.reference = .ok dir
  | .delete ref => ∃ d, r.pluginPath ref = .ok d ∧ ∃ f ∈ entryFiles dir, within d f = true

/-! ### What a call does to an entry -/

/-- The files a store writes. -/
def entryNames : List String := ["plugin.wasm", "metadata.json", "digest.txt"]

lemma slash_not_mem_of_entryNames {x : String} (hx : x ∈ entryNames) : '/' ∉ x.toList := by
  simp only [entryNames, List.mem_cons, List.mem_singleton, List.not_mem_nil, or_false] at hx
  rcases hx with rfl | rfl | rfl <;> decide

lemma mem_entryFiles {dir f : String} : f ∈ entryFiles dir ↔ ∃ x ∈ entryNames, f = joinName dir x := by
  simp [entryFiles, entryNames]

/-- Where `store` leaves the file system: as it was, after the WASM writes, or after all of
its writes. -/
lemma store_snd (fs : FS) (p : Plugin) (wasm : WasmStream) :
    (r.store json fs p wasm).2 = fs ∨ ∃ dir, r.pluginPath p.reference = .ok dir ∧
      ((r.store json fs p wasm).2 = (fs.run (wasmWrites dir wasm.data)).1 ∨
        (r.store json fs p wasm).2 =
          (FS.run (fs.run (wasmWrites dir wasm.data)).1 (entryWrites json dir p)).1) := by
  unfold store
  split
  · exact .inl rfl
  · rename_i dir hdir
    refine .inr ⟨dir, hdir, ?_⟩
    split
    · simp_all
    · simp_all
    · split <;> simp_all

/-- The writes of a store into another directory touch no file of an entry. -/
lemma not_touches_entry {d dir f data : String} {p : Plugin} {w : Write} (hd : d ≠ "")
    (hdir : dir ≠ "") (hne : d ≠ dir) (hf : f ∈ entryFiles dir)
    (hw : w ∈ wasmWrites d data ++ entryWrites json d p) : ¬ w.Touches f := by
  obtain ⟨x, hx, rfl⟩ := mem_entryFiles.mp hf
  have key : ∀ n ∈ entryNames, joinName d n ≠ joinName dir x := fun n hn h =>
    hne (joinName_inj hd hdir (slash_not_mem_of_entryNames hn) (slash_not_mem_of_entryNames hx) h).1
  simp only [wasmWrites, entryWrites, List.cons_append, List.nil_append, List.mem_cons,
    List.mem_singleton, List.not_mem_nil, or_false] at hw
  rcases hw with rfl | rfl | rfl | rfl | rfl | rfl | rfl <;>
    simp only [Write.Touches, not_false_eq_true] <;> exact key _ (by simp [entryNames])

/-- **Step**: a call that does not disturb an entry leaves its files as they are. -/
lemma step_frame {dir f c : String} {op : RepoOp} {fs : FS} (hdir : dir ≠ "")
    (hf : f ∈ entryFiles dir) (hc : fs f = some (.file c)) (hop : ¬ r.Disturbs dir op) :
    r.step json fs op f = fs f := by
  cases op with
  | store p wasm =>
    simp only [step]
    rcases store_snd json r fs p wasm with h | ⟨d, hpd, h⟩
    · rw [h]
    have hne : d ≠ dir := fun e => hop (e ▸ hpd)
    have hw : ∀ w ∈ wasmWrites d wasm.data ++ entryWrites json d p, ¬ w.Touches f := fun w hw =>
      not_touches_entry json (r.pluginPath_ne_empty hpd) hdir hne hf hw
    have h₁ : (fs.run (wasmWrites d wasm.data)).1 f = fs f :=
      FS.run_frame hc fun w h => hw w (List.mem_append_left _ h)
    rcases h with h | h
    · rw [h, h₁]
    · rw [h, FS.run_frame (h₁.trans hc) fun w h => hw w (List.mem_append_right _ h), h₁]
  | delete ref =>
    simp only [step, delete]
    split
    · rfl
    · rename_i d hpd
      have : within d f = false := by
        by_contra hw
        exact hop ⟨d, hpd, f, hf, by simpa using hw⟩
      simp [FS.removeAll, this]

/-- **Run**: calls none of which disturbs an entry leave its files as they are. -/
lemma runOps_frame {dir f c : String} (hdir : dir ≠ "") (hf : f ∈ entryFiles dir) :
    ∀ {fs : FS} {ops : List RepoOp}, fs f = some (.file c) → (∀ op ∈ ops, ¬ r.Disturbs dir op) →
      r.runOps json fs ops f = fs f
  | _, [], _, _ => rfl
  | fs, op :: ops, hc, hops => by
    have h₁ := r.step_frame json hdir hf hc (hops op (List.mem_cons_self _ _))
    simp only [runOps, List.foldl_cons] at h₁ ⊢
    exact (runOps_frame hdir hf (h₁.trans hc) fun o ho => hops o (List.mem_cons_of_mem _ ho)).trans h₁

/-! ### Store, then find -/

lemma loadDigest_eq_ok {fs : FS} {dir : String} {d : Digest} :
    loadDigest fs dir = .ok d ↔
      ∃ text, fs (joinName dir "digest.txt") = some (.file text) ∧ parseDigest text = .ok d := by
  simp [loadDigest, except_bind_eq_ok, except_mapError_eq_ok]

/-- What a successful `find` read: the reference's directory, a node at `plugin.wasm`, the
metadata and the digest. -/
lemma find_eq_ok {fs : FS} {ref : PluginReference} {found : Plugin × String}
    (h : r.find json fs ref = .ok found) :
    ∃ dir metadata digest, r.pluginPath ref = .ok dir ∧ fs (joinName dir "plugin.wasm") ≠ none ∧
      loadMetadata json fs dir = .ok metadata ∧ loadDigest fs dir = .ok digest ∧
      found = (⟨ref, digest, metadata⟩, joinName dir "plugin.wasm") := by
  simp only [find, except_bind_eq_ok] at h
  obtain ⟨dir, hdir, h⟩ := h
  split_ifs at h with hw
  · cases h
  · simp only [except_bind_eq_ok] at h
    obtain ⟨-, -, metadata, hm, digest, hd, h⟩ := h
    exact ⟨dir, metadata, digest, hdir, hw, hm, hd, (Except.ok.inj h).symm⟩

/-- A successful store leaves the entry it wrote: the WASM data, the encoded metadata and
the digest's text. -/
lemma store_ok {fs fs' : FS} {p : Plugin} {wasm : WasmStream} {path : String}
    (h : r.store json fs p wasm = (.ok path, fs')) :
    ∃ dir, r.pluginPath p.reference = .ok dir ∧ path = joinName dir "plugin.wasm" ∧
      fs' (joinName dir "plugin.wasm") = some (.file wasm.data) ∧
      fs' (joinName dir "metadata.json") = some (.file (json.encode p.metadata)) ∧
      fs' (joinName dir "digest.txt") = some (.file p.digest.toString) := by
  unfold store at h
  split at h
  · cases h
  · rename_i dir hdir
    have hd := r.pluginPath_ne_empty hdir
    have hne : ∀ {x y : String}, x ∈ entryNames → y ∈ entryNames → x ≠ y → joinName dir x ≠ joinName dir y :=
      fun hx hy hxy e => hxy (joinName_inj hd hd (slash_not_mem_of_entryNames hx)
        (slash_not_mem_of_entryNames hy) e).2
    split at h
    · cases h
    · cases h
    · rename_i fs₁ h₁ hnil
      split at h
      · cases h
      · rename_i fs₂ h₂
        cases h
        obtain ⟨fs₀, -, h₁⟩ := FS.run_cons_none h₁
        have hw₁ := FS.run_create_append h₁ (fun w hw => by simp at hw)
        refine ⟨dir, hdir, rfl, ?_, FS.run_create_append h₂ ?_, ?_⟩
        · have hkeep : ∀ w ∈ entryWrites json dir p, ¬ w.Touches (joinName dir "plugin.wasm") :=
            fun w hw => by
              simp only [entryWrites, List.mem_cons, List.mem_singleton, List.not_mem_nil, or_false] at hw
              rcases hw with rfl | rfl | rfl | rfl <;>
                exact hne (by simp [entryNames]) (by simp [entryNames]) (by decide)
          have := FS.run_frame hw₁ hkeep
          rw [h₂] at this
          rw [← hw₁]
          exact this
        · intro w hw
          simp only [List.mem_cons, List.mem_singleton, List.not_mem_nil, or_false] at hw
          rcases hw with rfl | rfl <;> exact hne (by simp [entryNames]) (by simp [entryNames]) (by decide)
        · obtain ⟨_, -, h₂⟩ := FS.run_cons_none h₂
          obtain ⟨_, -, h₂⟩ := FS.run_cons_none h₂
          exact FS.run_create_append h₂ (fun w hw => by simp at hw)

/-- `find` reads back an entry whose digest `newDigest` built. -/
lemma find_of_entry {fs : FS} {ref : PluginReference} {dir data : String} {p : Plugin} {a v : String}
    (hd : newDigest a v = .ok p.digest) (hpath : r.pluginPath ref = .ok dir)
    (hw : fs (joinName dir "plugin.wasm") = some (.file data))
    (hm : fs (joinName dir "metadata.json") = some (.file (json.encode p.metadata)))
    (hg : fs (joinName dir "digest.txt") = some (.file p.digest.toString)) :
    r.find json fs ref = .ok (⟨ref, p.digest, p.metadata⟩, joinName dir "plugin.wasm") := by
  simp [find, hpath, hw, loadMetadata, loadDigest, FS.readFile, hm, hg, parseDigest_toString hd,
    bind, Except.bind, Except.mapError, pure, Except.pure]

/-- **What the cache returns.** After a store of `p` into the directory `dir` succeeded,
`find` of every reference whose directory is `dir` returns that reference with `p`'s digest
and metadata and the path the store returned, after any calls none of which is a store into
`dir` or a delete whose subtree holds one of its files. -/
theorem find_after_store {fs fs' : FS} {p : Plugin} {wasm : WasmStream} {a v dir : String}
    (hd : newDigest a v = .ok p.digest) (hdir : r.pluginPath p.reference = .ok dir)
    (hs : r.store json fs p wasm = (.ok (joinName dir "plugin.wasm"), fs'))
    (R : PluginReference) (hR : r.pluginPath R = .ok dir)
    (ops : List RepoOp) (hops : ∀ op ∈ ops, ¬ r.Disturbs dir op) :
    r.find json (r.runOps json fs' ops) R = .ok (⟨R, p.digest, p.metadata⟩, joinName dir "plugin.wasm") := by
  obtain ⟨d, hd', -, hw, hm, hg⟩ := r.store_ok json hs
  obtain rfl : d = dir := by rw [hdir] at hd'; exact (Except.ok.inj hd').symm
  have hne := r.pluginPath_ne_empty hdir
  have keep := fun {f c} (hf : f ∈ entryFiles d) (hc : fs' f = some (.file c)) =>
    (r.runOps_frame json hne hf hc hops).trans hc
  exact r.find_of_entry json hd hR (keep (by simp [entryFiles]) hw) (keep (by simp [entryFiles]) hm)
    (keep (by simp [entryFiles]) hg)

end FSPluginRepository

/-! ### Concrete runs -/

/-- A metadata codec for the concrete runs: name, version, description and capabilities as
fields. -/
def metadataCodec : Codec PluginMetadata :=
  Codec.ofFields (fun m => m.name :: m.version :: m.description :: m.capabilities)
    (fun | n :: v :: d :: caps => .ok ⟨n, v, d, caps⟩ | _ => .error "missing metadata fields")
    (fun _ => rfl)

/-- A cache under `/cache`. -/
def cacheRepo : FSPluginRepository := ⟨"/cache", by decide⟩

/-- A file system holding the cache's empty root. -/
def cacheFS : FS := fun p => if p = "/" ∨ p = "/cache" then some .dir else none

/-- The `file` plugin of `ghcr.io/o/r`, version 1.0, with a digest. -/
def filePlugin (value : String) : Plugin :=
  ⟨⟨"ghcr.io", "o", "r", "file", "1.0"⟩, ⟨"sha256", value⟩, { name := "file" }⟩

theorem find_after_store_example :
    cacheRepo.find metadataCodec (cacheRepo.runOps metadataCodec
        (cacheRepo.store metadataCodec cacheFS (filePlugin "ab") ⟨"wasm", none⟩).2
        [.store ⟨⟨"ghcr.io", "o", "r", "http", "1.0"⟩, ⟨"sha256", "cd"⟩, {}⟩ ⟨"other", none⟩])
      (filePlugin "ab").reference =
      .ok (filePlugin "ab", joinName "/cache/ghcr.io/o/r/file:1.0" "plugin.wasm") :=
  FSPluginRepository.find_after_store metadataCodec cacheRepo
    (show newDigest "sha256" "ab" = .ok (filePlugin "ab").digest from rfl)
    (show cacheRepo.pluginPath (filePlugin "ab").reference = .ok "/cache/ghcr.io/o/r/file:1.0" from rfl)
    (show cacheRepo.store metadataCodec cacheFS (filePlugin "ab") ⟨"wasm", none⟩ =
      (.ok (joinName "/cache/ghcr.io/o/r/file:1.0" "plugin.wasm"),
        (cacheRepo.store metadataCodec cacheFS (filePlugin "ab") ⟨"wasm", none⟩).2) from
      Prod.ext rfl rfl) (filePlugin "ab").reference rfl _ (by
      intro op hop h
      simp only [List.mem_singleton] at hop
      subst hop
      have : cacheRepo.pluginPath ⟨"ghcr.io", "o", "r", "http", "1.0"⟩ = .ok "/cache/ghcr.io/o/r/http:1.0" := rfl
      simp [FSPluginRepository.Disturbs, this] at h)

/-- After a store of `ghcr.io/o/r/file:1.0` with digest `sha256:ab`, a store of the same
reference with digest `sha256:cd` succeeds, and `find` then returns `sha256:cd`; a delete of
the embedded plugin `ghcr.io`, a reference not `Equals` to it, removes the entry. -/
theorem store_replaces_entry :
    (cacheRepo.store metadataCodec
        (cacheRepo.runOps metadataCodec cacheFS [.store (filePlugin "ab") ⟨"wasm", none⟩])
        (filePlugin "cd") ⟨"other", none⟩).1 = .ok "/cache/ghcr.io/o/r/file:1.0/plugin.wasm" ∧
    cacheRepo.find metadataCodec (cacheRepo.runOps metadataCodec cacheFS
        [.store (filePlugin "ab") ⟨"wasm", none⟩, .store (filePlugin "cd") ⟨"other", none⟩])
      (filePlugin "ab").reference = .ok (filePlugin "cd", "/cache/ghcr.io/o/r/file:1.0/plugin.wasm") ∧
    cacheRepo.find metadataCodec (cacheRepo.runOps metadataCodec cacheFS
        [.store (filePlugin "ab") ⟨"wasm", none⟩, .delete { name := "ghcr.io" }])
      (filePlugin "ab").reference = .error "plugin not found: ghcr.io/o/r/file:1.0" :=
  ⟨rfl, rfl, rfl⟩

end Plugins

end RegletHost
