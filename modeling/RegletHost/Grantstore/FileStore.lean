import RegletHost.Grant.GrantSet
import RegletHost.Storage.Files

/-!
The grant store (`grantstore.FileStore`): the grant set the gatekeeper persists, as YAML in
one file.

* `FileStore.save`: the grant set, or the empty set for nil, deduplicated and encoded; then
  `os.MkdirAll` of the file's directory and `os.WriteFile`, an open with `O_TRUNC` and the
  write of the text. `FileStore.save_snd` shows the file system it leaves is the run of
  `FileStore.writes`, the calls it makes.
* `FileStore.load`: the decoded file, the empty set when the file does not exist.
* `FileStore.load_save`: a save that succeeds is read back as the deduplicated set.

The directory and file permissions are not modelled: the file system has none.
-/

namespace RegletHost

namespace Grantstore

open Storage

/-- `fileStoreConfig`: where the grants file is. -/
structure FileStoreConfig where
  path : String
  deriving DecidableEq, Repr

/-- `defaultFileStoreConfig`: `filepath.Join(os.Getenv("HOME"), ".reglet", "grants.yaml")`,
the join dropping an empty `HOME`. -/
def defaultFileStoreConfig (home : String) : FileStoreConfig :=
  ⟨if home = "" then ".reglet/grants.yaml" else cleanPath (home ++ "/.reglet/grants.yaml")⟩

/-- `WithPath`: a non-empty path replaces the configured one. -/
def withPath (path : String) (c : FileStoreConfig) : FileStoreConfig :=
  if path ≠ "" then ⟨path⟩ else c

/-- `FileStore`. -/
structure FileStore where
  config : FileStoreConfig
  deriving DecidableEq, Repr

/-- `NewFileStore`: the default configuration with the options applied in order. -/
def newFileStore (home : String) (opts : List (FileStoreConfig → FileStoreConfig)) : FileStore :=
  ⟨opts.foldl (fun c opt => opt c) (defaultFileStoreConfig home)⟩

namespace FileStore

variable (yaml : Codec GrantSet) (split : (data : String) → Chunking data) (s : FileStore)

/-- `Load`: the decoded grants file; the empty set when it does not exist. -/
def load (fs : FS) : Except String GrantSet :=
  match fs.readFile (pathKey s.config.path) with
  | .error e =>
      if e.err = .notExist then .ok {} else .error ("failed to read grant store: " ++ e.toString)
  | .ok data => (yaml.decode data).mapError ("failed to parse grant store: " ++ ·)

/-- What `Save` writes: the grant set, the empty one for nil, cloned and deduplicated. -/
def clean (grants : Option GrantSet) : GrantSet := ((grants.getD {}).clone).deduplicate

/-- The calls `Save` makes: `os.MkdirAll` of the directory, then `os.WriteFile`, whose
text reaches the file in the pieces `split` gives. -/
def writes (grants : Option GrantSet) : List Write :=
  saveWrites (pathDir s.config.path) (pathBase s.config.path) (split (yaml.encode (clean grants)))

/-- `Save`. -/
def save (fs : FS) (grants : Option GrantSet) : Except String Unit × FS :=
  match fs.mkdirAll (pathDir s.config.path) with
  | .error e => (.error ("failed to create grant store directory: " ++ e.toString), fs)
  | .ok fs₁ =>
      match fs₁.run (truncateWrites (pathDir s.config.path) (pathBase s.config.path)
          (split (yaml.encode (clean grants)))) with
      | (fs₂, none) => (.ok (), fs₂)
      | (fs₂, some e) => (.error ("failed to write grant store: " ++ e.toString), fs₂)

/-- `Save` is the run of its calls, and fails exactly when one of them does. -/
lemma save_snd (fs : FS) (grants : Option GrantSet) :
    (s.save yaml split fs grants).2 = (fs.run (s.writes yaml split grants)).1 ∧
      ((s.save yaml split fs grants).1 = .ok () ↔ (fs.run (s.writes yaml split grants)).2 = none) := by
  unfold save writes saveWrites
  cases h : fs.mkdirAll (pathDir s.config.path) with
  | error e => simp [FS.run, FS.apply, h]
  | ok fs₁ =>
    rw [FS.run_cons_of_apply (show fs.apply (.mkdirAll _) = .ok fs₁ from h)]
    rcases hr : fs₁.run (truncateWrites (pathDir s.config.path) (pathBase s.config.path)
      (split (yaml.encode (clean grants)))) with ⟨fs₂, _ | e⟩ <;> simp [hr]

/-- A save that succeeds is read back as the set it wrote. -/
lemma load_save {fs fs' : FS} {grants : Option GrantSet} (h : s.save yaml split fs grants = (.ok (), fs')) :
    s.load yaml fs' = .ok (clean grants) := by
  obtain ⟨h₂, h₁⟩ := s.save_snd yaml split fs grants
  rw [h] at h₂ h₁
  have hrun : fs.run (s.writes yaml split grants) = (fs', none) := Prod.ext h₂.symm (h₁.mp rfl)
  have hread : fs'.readFile (pathKey s.config.path) = .ok (yaml.encode (clean grants)) :=
    FS.readFile_eq_ok.mpr (FS.run_saveWrites_of_none (pathDir_ne_empty _) (pathBase_ne_empty _) hrun).2
  simp [load, hread, Except.mapError]

end FileStore

end Grantstore

end RegletHost
