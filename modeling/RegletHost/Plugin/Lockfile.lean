import Mathlib.Data.List.AList
import RegletHost.Grantstore.FileStore
import RegletHost.Netutil.Addr

/-!
The lockfile: the record pinning plugin and profile versions (`entities.Lockfile`), its YAML
record (`filesystem.Lockfile`) and the repository that keeps it in a file
(`FileLockfileRepository`).

* `Lockfile`, `Lockfile.validate`: the plugin locks by name and the profile locks by URL, and
  the invariants `Validate` checks; `validate_eq_ok_iff` states them. `AddPlugin` and
  `AddProfile` are one check (`addLock`), and so are the two loops of `Validate`
  (`checkDigests`).
* `Filesystem.Lockfile`, `Filesystem.fromEntity`, `Filesystem.Lockfile.toEntity`: the YAML
  record has no profiles, and `toEntity_fromEntity` shows the conversion there and back
  keeps the timestamp, the version and the plugins and empties the profiles.
* `FileLockfileRepository.save`: `os.MkdirAll`, an open with `O_TRUNC` in an `os.Root` and
  the encoder's writes; `FileLockfileRepository.load` reads, decodes, converts and validates.
  `load_after_save` reads a saved valid lockfile back without its profiles, and
  `save_load_drops_profiles` says the round trip is the identity exactly on lockfiles
  without profiles.
* `saves_keep_old_or_prefix`: both this repository and the grant store save in place
  (`InPlace`): a process that stops during a save leaves the previous file or the first
  pieces of the new text, the empty file right after the open, and the whole text only once
  the last write is done; `save_truncates_in_place` is such a stop.

Times are nanoseconds since the zero `time.Time`, the one `IsZero` reports; YAML writes them
to the nanosecond. Go's maps are `AList`s: the code never depends on their order, except
`Validate`, which reports one of the entries without digest, here the first.
-/

namespace RegletHost

namespace Plugins

open Storage Netutil

/-! ### The domain record -/

/-- `entities.PluginLock`: a pinned plugin version. -/
structure PluginLock where
  fetched : Nat := 0
  modified : Nat := 0
  requested : String := ""
  resolved : String := ""
  source : String := ""
  digest : String := ""
  deriving DecidableEq, Repr

/-- `entities.ProfileLock`: a pinned remote profile version. -/
structure ProfileLock where
  fetched : Nat := 0
  modified : Nat := 0
  requested : String := ""
  resolved : String := ""
  source : String := ""
  digest : String := ""
  deriving DecidableEq, Repr

/-- `entities.Lockfile`: plugin locks by name, profile locks by URL. A nil map and an empty
one are alike to every function here. -/
structure Lockfile where
  generated : Nat := 0
  plugins : AList (fun _ : String => PluginLock) := ∅
  profiles : AList (fun _ : String => ProfileLock) := ∅
  version : Int := 0
  deriving DecidableEq

/-- `NewLockfile`: version 1, generated now, no entries. -/
def newLockfile (now : Nat) : Lockfile := { generated := now, version := 1 }

/-- The check of `AddPlugin` and `AddProfile`: an entry without digest is refused with an
error naming its kind and key; any other is set in the map. -/
def addLock {β : Type} (kind : String) (digest : β → String) (m : AList fun _ : String => β)
    (key : String) (lock : β) : Except String (AList fun _ : String => β) :=
  if digest lock = "" then .error (kind ++ " " ++ goQuote key ++ ": digest is required")
  else .ok (m.insert key lock)

/-- A loop of `Validate` over one map: an entry without digest is reported by kind and key. -/
def checkDigests {β : Type} (kind : String) (digest : β → String) (m : AList fun _ : String => β) :
    Except String Unit :=
  match m.entries.find? (fun e => digest e.2 == "") with
  | some e => .error (kind ++ " " ++ goQuote e.1 ++ ": digest is required")
  | none => .ok ()

/-- An add succeeds exactly on an entry with a digest, and sets it. -/
lemma addLock_map_eq_ok {β γ : Type} {kind : String} {digest : β → String} {m : AList fun _ : String => β}
    {key : String} {lock : β} {f : (AList fun _ : String => β) → γ} {x : γ} :
    (addLock kind digest m key lock).map f = .ok x ↔ digest lock ≠ "" ∧ x = f (m.insert key lock) := by
  unfold addLock
  split_ifs with h <;> simp [Except.map, h, eq_comm]

lemma checkDigests_eq_ok {β : Type} {kind : String} {digest : β → String} {m : AList fun _ : String => β} :
    checkDigests kind digest m = .ok () ↔ ∀ e ∈ m.entries, digest e.2 ≠ "" := by
  unfold checkDigests
  split
  · rename_i e he
    refine iff_of_false (by simp) fun h => h e (List.mem_of_find?_eq_some he) ?_
    simpa using List.find?_some he
  · rename_i he
    exact iff_of_true rfl fun e he' => by simpa using List.find?_eq_none.mp he e he'

namespace Lockfile

/-- `AddPlugin`. -/
def addPlugin (l : Lockfile) (name : String) (lock : PluginLock) : Except String Lockfile :=
  (addLock "plugin" PluginLock.digest l.plugins name lock).map fun ps => { l with plugins := ps }

@[simp] lemma addPlugin_eq_ok {l l' : Lockfile} {name : String} {lock : PluginLock} :
    l.addPlugin name lock = .ok l' ↔ lock.digest ≠ "" ∧ l' = { l with plugins := l.plugins.insert name lock } :=
  addLock_map_eq_ok

/-- `GetPlugin`. -/
def getPlugin (l : Lockfile) (name : String) : Option PluginLock := l.plugins.lookup name

/-- `PluginCount`. -/
def pluginCount (l : Lockfile) : Nat := l.plugins.entries.length

/-- `AddProfile`. -/
def addProfile (l : Lockfile) (url : String) (lock : ProfileLock) : Except String Lockfile :=
  (addLock "profile" ProfileLock.digest l.profiles url lock).map fun ps => { l with profiles := ps }

@[simp] lemma addProfile_eq_ok {l l' : Lockfile} {url : String} {lock : ProfileLock} :
    l.addProfile url lock = .ok l' ↔ lock.digest ≠ "" ∧ l' = { l with profiles := l.profiles.insert url lock } :=
  addLock_map_eq_ok

/-- `GetProfile`. -/
def getProfile (l : Lockfile) (url : String) : Option ProfileLock := l.profiles.lookup url

/-- `ProfileCount`. -/
def profileCount (l : Lockfile) : Nat := l.profiles.entries.length

/-- `Validate`. -/
def validate (l : Lockfile) : Except String Unit :=
  if (0 < l.pluginCount ∨ 0 < l.profileCount) ∧ l.generated = 0 then
    .error "generated timestamp is required"
  else do
    checkDigests "plugin" PluginLock.digest l.plugins
    checkDigests "profile" ProfileLock.digest l.profiles

/-- The invariants `Validate` checks: a timestamp once there is an entry, and a digest on
every entry. -/
lemma validate_eq_ok_iff (l : Lockfile) :
    l.validate = .ok () ↔ ((l.plugins.entries ≠ [] ∨ l.profiles.entries ≠ []) → l.generated ≠ 0) ∧
      (∀ e ∈ l.plugins.entries, e.2.digest ≠ "") ∧ (∀ e ∈ l.profiles.entries, e.2.digest ≠ "") := by
  unfold validate pluginCount profileCount
  simp only [List.length_pos, ne_eq]
  split_ifs with h
  · simp only [false_iff, not_and, not_not]
    exact fun h' => absurd (h' h.1) (not_not.mpr h.2)
  · rw [except_bind_eq_ok]
    constructor
    · rintro ⟨⟨⟩, h₁, h₂⟩
      exact ⟨fun h' h0 => h ⟨h', h0⟩, checkDigests_eq_ok.mp h₁, checkDigests_eq_ok.mp h₂⟩
    · rintro ⟨-, h₁, h₂⟩
      exact ⟨(), checkDigests_eq_ok.mpr h₁, checkDigests_eq_ok.mpr h₂⟩

end Lockfile

/-! ### The YAML record -/

/-- A map rebuilt with each value converted, as a loop over a map filling a new one does. -/
def mapValues {α β : Type} (f : α → β) (m : AList fun _ : String => α) : AList fun _ : String => β :=
  ⟨m.entries.map fun e => ⟨e.1, f e.2⟩, by
    show (List.map Sigma.fst _).Nodup
    rw [List.map_map]
    exact m.nodupKeys⟩

/-- Converting the values back undoes the conversion. -/
lemma mapValues_mapValues {α β : Type} {f : α → β} {g : β → α} (h : ∀ a, g (f a) = a)
    (m : AList fun _ : String => α) : mapValues g (mapValues f m) = m :=
  AList.ext <| by
    simp only [mapValues, List.map_map]
    exact List.map_id'' (fun ⟨_, _⟩ => by simp [h]) _

namespace Filesystem

/-- `filesystem.PluginLock`: a plugin lock as its YAML keys. -/
structure PluginLock where
  fetched : Nat
  modified : Nat
  requested : String
  resolved : String
  source : String
  digest : String
  deriving DecidableEq, Repr

/-- `filesystem.Lockfile`: the keys `generated`, `plugins` and `lockfile_version`, and no
profiles. -/
structure Lockfile where
  generated : Nat
  plugins : AList fun _ : String => PluginLock
  version : Int
  deriving DecidableEq

/-- The copy `ToEntity` makes of each plugin lock. -/
def PluginLock.toEntity (lock : PluginLock) : Plugins.PluginLock :=
  ⟨lock.fetched, lock.modified, lock.requested, lock.resolved, lock.source, lock.digest⟩

/-- The copy `FromEntity` makes of each plugin lock. -/
def PluginLock.ofEntity (lock : Plugins.PluginLock) : PluginLock :=
  ⟨lock.fetched, lock.modified, lock.requested, lock.resolved, lock.source, lock.digest⟩

/-- `ToEntity`. -/
def Lockfile.toEntity (l : Lockfile) : Plugins.Lockfile :=
  { generated := l.generated, version := l.version, plugins := mapValues PluginLock.toEntity l.plugins }

/-- `FromEntity`. -/
def fromEntity (entity : Plugins.Lockfile) : Lockfile :=
  ⟨entity.generated, mapValues PluginLock.ofEntity entity.plugins, entity.version⟩

/-- The record keeps all of a lockfile but its profiles. -/
lemma toEntity_fromEntity (L : Plugins.Lockfile) : (fromEntity L).toEntity = { L with profiles := ∅ } := by
  simp only [Lockfile.toEntity, fromEntity]
  rw [mapValues_mapValues fun _ => rfl]

/-- Dropping the profiles keeps a lockfile valid. -/
lemma validate_toEntity_fromEntity {L : Plugins.Lockfile} (h : L.validate = .ok ()) :
    (fromEntity L).toEntity.validate = .ok () := by
  rw [toEntity_fromEntity]
  obtain ⟨hg, hp, -⟩ := (Plugins.Lockfile.validate_eq_ok_iff L).mp h
  exact (Plugins.Lockfile.validate_eq_ok_iff _).mpr
    ⟨fun h' => hg (.inl (h'.resolve_right (by simp))), hp, by simp⟩

/-! ### A codec for the concrete runs -/

/-- A natural-number field, as `%d` prints it. -/
def ofNatField (s : String) : Except String Nat :=
  (ofIntField s).bind fun i => if 0 ≤ i then .ok i.toNat else .error ("negative " ++ s)

@[simp] lemma ofNatField_itoa (n : Nat) : ofNatField (itoa n) = .ok n := by
  simp [ofNatField, Except.bind]

/-- A plugin lock as fields, behind its name. -/
def pluginLockFields (e : Σ _ : String, PluginLock) : List String :=
  [e.1, itoa e.2.fetched, itoa e.2.modified, e.2.requested, e.2.resolved, e.2.source, e.2.digest]

/-- The plugin locks `pluginLockFields` wrote. -/
def pluginLocksOfFields : List String → Except String (List (Σ _ : String, PluginLock))
  | [] => .ok []
  | name :: f :: m :: rq :: rs :: src :: d :: rest => do
      let fetched ← ofNatField f
      let modified ← ofNatField m
      let es ← pluginLocksOfFields rest
      pure (⟨name, ⟨fetched, modified, rq, rs, src, d⟩⟩ :: es)
  | _ => .error "truncated plugin lock"

lemma pluginLocksOfFields_flatMap (es : List (Σ _ : String, PluginLock)) :
    pluginLocksOfFields (es.flatMap pluginLockFields) = .ok es := by
  induction es with
  | nil => rfl
  | cons e es ih =>
    show pluginLocksOfFields (pluginLockFields e ++ es.flatMap pluginLockFields) = _
    simp only [pluginLockFields, List.cons_append, List.append_eq, List.nil_append, pluginLocksOfFields,
      ofNatField_itoa, ih]
    rfl

/-- The lockfile record of `lockfileCodec`'s fields. -/
def lockfileOfFields : List String → Except String Lockfile
  | g :: v :: rest => do
      let generated ← ofNatField g
      let version ← ofIntField v
      let es ← pluginLocksOfFields rest
      if h : (es.map Sigma.fst).Nodup then pure ⟨generated, ⟨es, h⟩, version⟩
      else .error "duplicate plugin"
  | _ => .error "missing lockfile fields"

/-- A lockfile codec for the concrete runs: the timestamp, the version and the plugin locks
as fields. -/
def lockfileCodec : Codec Lockfile :=
  Codec.ofFields (fun l => itoa l.generated :: itoa l.version :: l.plugins.entries.flatMap pluginLockFields)
    lockfileOfFields fun ⟨g, ⟨es, h⟩, v⟩ => by
      simp only [lockfileOfFields, ofNatField_itoa, ofIntField_itoa, pluginLocksOfFields_flatMap]
      exact dif_pos h

/-- Each text reaches the file in one write. -/
def wholeText (data : String) : Chunking data := ⟨[data], by simp⟩

/-- A file system with the directory `/work`, holding the text given at `/work/reglet.lock`. -/
def workFS (text : Option String) : FS := fun p =>
  if p = "/" ∨ p = "/work" then some .dir else if p = "/work/reglet.lock" then text.map .file else none

/-- A lockfile pinning the plugin `file` and the profile `https://example.com/profile.yaml`. -/
def pinnedLockfile : Plugins.Lockfile :=
  { generated := 5, version := 2,
    plugins := (∅ : AList _).insert "file"
      { requested := "1.0", resolved := "1.0", source := "file", digest := "sha256:placeholder" },
    profiles := (∅ : AList _).insert "https://example.com/profile.yaml"
      { requested := "https://example.com/profile.yaml", resolved := "v1.2.0",
        source := "https://example.com/profile.yaml", digest := "sha256:abc" } }

/-! ### The repository -/

/-- The names an `os.Root` does not open for writing, with its error: `..` and `/` leave the
root, and `.` is the root directory itself. -/
def rootOpenError (base : String) : Option String :=
  if base = ".." ∨ base = "/" then some ("openat " ++ base ++ ": path escapes from parent")
  else if base = "." then some "openat .: is a directory"
  else none

namespace FileLockfileRepository

variable (yaml : Codec Lockfile) (split : (data : String) → Chunking data)

/-- `Load`: no lockfile when its directory or the file does not exist; else the decoded
record, converted and validated. -/
def load (fs : FS) (path : String) : Except String (Option Plugins.Lockfile) :=
  match fs (pathDir path) with
  | none => .ok none
  | some (.file _) =>
      .error ("failed to open directory " ++ goQuote (pathDir path) ++ ": " ++
        PathError.toString ⟨"openat", pathDir path, .notDirectory⟩)
  | some .dir =>
      if pathBase path = ".." ∨ pathBase path = "/" then
        .error ("failed to open lockfile " ++ goQuote (pathBase path) ++ ": openat " ++ pathBase path ++
          ": path escapes from parent")
      else if pathBase path = "." then .error "decoding lockfile YAML: read .: is a directory"
      else
        match fs (pathKey path) with
        | none => .ok none
        | some .dir =>
            .error ("decoding lockfile YAML: " ++ PathError.toString ⟨"read", pathBase path, .isDirectory⟩)
        | some (.file data) =>
            match yaml.decode data with
            | .error e => .error ("decoding lockfile YAML: " ++ e)
            | .ok out =>
                match out.toEntity.validate with
                | .error e => .error ("invalid lockfile: " ++ e)
                | .ok () => .ok (some out.toEntity)

/-- A lockfile `Load` returns passed `Validate` and has no profiles. -/
lemma load_eq_ok_some {fs : FS} {path : String} {l : Plugins.Lockfile}
    (h : load yaml fs path = .ok (some l)) : l.validate = .ok () ∧ l.profiles = ∅ := by
  unfold load at h
  split at h <;> try cases h
  split_ifs at h
  split at h <;> try cases h
  split at h <;> try cases h
  split at h <;> cases h
  exact ⟨‹_›, rfl⟩

/-- The calls `Save` makes: `os.MkdirAll` of the directory, then, for a name the root opens,
the open with `O_TRUNC` and the encoder's writes, in the pieces `split` gives. -/
def writes (lock : Plugins.Lockfile) (path : String) : List Write :=
  if (rootOpenError (pathBase path)).isSome then
    (saveWrites (pathDir path) (pathBase path) (split (yaml.encode (fromEntity lock)))).take 1
  else saveWrites (pathDir path) (pathBase path) (split (yaml.encode (fromEntity lock)))

/-- `Save`. The encoder's writes to the open file do not fail. -/
def save (fs : FS) (lock : Plugins.Lockfile) (path : String) : Except String Unit × FS :=
  match fs.mkdirAll (pathDir path) with
  | .error e => (.error ("creating directory " ++ goQuote (pathDir path) ++ ": " ++ e.toString), fs)
  | .ok fs₁ =>
      match rootOpenError (pathBase path) with
      | some e => (.error ("creating lockfile " ++ goQuote (pathBase path) ++ ": " ++ e), fs₁)
      | none =>
          match fs₁.run (truncateWrites (pathDir path) (pathBase path)
              (split (yaml.encode (fromEntity lock)))) with
          | (fs₂, none) => (.ok (), fs₂)
          | (fs₂, some e) => (.error ("creating lockfile " ++ goQuote (pathBase path) ++ ": " ++ e.toString), fs₂)

/-- `Save` is the run of its calls, and succeeds exactly when the root opens the name and
no call fails. -/
lemma save_snd (fs : FS) (lock : Plugins.Lockfile) (path : String) :
    (save yaml split fs lock path).2 = (fs.run (writes yaml split lock path)).1 ∧
      ((save yaml split fs lock path).1 = .ok () ↔
        rootOpenError (pathBase path) = none ∧ (fs.run (writes yaml split lock path)).2 = none) := by
  unfold save writes saveWrites
  cases h : fs.mkdirAll (pathDir path) with
  | error e => cases rootOpenError (pathBase path) <;> simp [FS.run, FS.apply, h]
  | ok fs₁ =>
    cases hr : rootOpenError (pathBase path) with
    | some e => simp [FS.run, FS.apply, h]
    | none =>
      rw [if_neg (by simp), FS.run_cons_of_apply (show fs.apply (.mkdirAll _) = .ok fs₁ from h)]
      rcases hrun : fs₁.run (truncateWrites (pathDir path) (pathBase path)
        (split (yaml.encode (fromEntity lock)))) with ⟨fs₂, _ | e⟩ <;> simp [hrun]

/-- A saved valid lockfile is loaded back without its profiles. -/
lemma load_after_save {fs fs' : FS} {L : Plugins.Lockfile} {path : String} (hL : L.validate = .ok ())
    (h : save yaml split fs L path = (.ok (), fs')) :
    load yaml fs' path = .ok (some { L with profiles := ∅ }) := by
  obtain ⟨h₂, h₁⟩ := save_snd yaml split fs L path
  rw [h] at h₂ h₁
  obtain ⟨hroot, hnone⟩ := h₁.mp rfl
  rw [writes, hroot] at h₂ hnone
  simp only [Option.isSome_none, Bool.false_eq_true, if_false] at h₂ hnone
  obtain ⟨hdir, hfile⟩ := FS.run_saveWrites_of_none (pathDir_ne_empty path) (pathBase_ne_empty path)
    (Prod.ext h₂.symm hnone)
  have hbase : ¬ (pathBase path = ".." ∨ pathBase path = "/") ∧ pathBase path ≠ "." := by
    unfold rootOpenError at hroot
    split_ifs at hroot with h1 h2
    exact ⟨h1, h2⟩
  have hval := validate_toEntity_fromEntity hL
  rw [toEntity_fromEntity] at hval
  simp [load, hdir, hbase, pathKey, hfile, toEntity_fromEntity, hval]

/-- Saving a valid lockfile and loading it back gives it without its profiles, so the round
trip returns the lockfile exactly when it has none. -/
theorem save_load_drops_profiles {fs fs' : FS} {L : Plugins.Lockfile} {path : String}
    (hL : L.validate = .ok ()) (h : save yaml split fs L path = (.ok (), fs')) :
    load yaml fs' path = .ok (some { L with profiles := ∅ }) ∧
      (load yaml fs' path = .ok (some L) ↔ L.profiles = ∅) := by
  rw [load_after_save yaml split hL h]
  refine ⟨rfl, ⟨fun h' => ?_, fun h' => ?_⟩⟩
  · have := congrArg Plugins.Lockfile.profiles (Option.some.inj (Except.ok.inj h'))
    exact this.symm
  · rw [← h']

theorem save_load_drops_profiles_pinned :
    load lockfileCodec (save lockfileCodec wholeText (workFS none) pinnedLockfile "/work/reglet.lock").2
        "/work/reglet.lock" = .ok (some { pinnedLockfile with profiles := ∅ }) ∧
      (load lockfileCodec (save lockfileCodec wholeText (workFS none) pinnedLockfile "/work/reglet.lock").2
        "/work/reglet.lock" = .ok (some pinnedLockfile) ↔ pinnedLockfile.profiles = ∅) :=
  save_load_drops_profiles lockfileCodec wholeText rfl
    (show save lockfileCodec wholeText (workFS none) pinnedLockfile "/work/reglet.lock" =
      (.ok (), (save lockfileCodec wholeText (workFS none) pinnedLockfile "/work/reglet.lock").2) from
      Prod.ext rfl rfl)

/-- The calls `Save` makes are the first calls of a save in place, all of them when the root
opens the file's name. -/
lemma writes_eq_take (lock : Plugins.Lockfile) (path : String) :
    (∃ m, writes yaml split lock path =
      (saveWrites (pathDir path) (pathBase path) (split (yaml.encode (fromEntity lock)))).take m) ∧
    (rootOpenError (pathBase path) = none → writes yaml split lock path =
      saveWrites (pathDir path) (pathBase path) (split (yaml.encode (fromEntity lock)))) := by
  unfold writes
  refine ⟨?_, fun h => by simp [h]⟩
  split
  · exact ⟨1, rfl⟩
  · exact ⟨_, (List.take_length _).symm⟩

end FileLockfileRepository

end Filesystem

/-! ### Saves in place -/

/-- **Saves in place.** The grant store and the lockfile repository both save by the calls of
a save in place: each save is the run of its calls, and wherever the process stops among
them the target holds its previous content or the first pieces of the new text; when the
directory can be made and the target opened, the empty file right after the open, then each
piece as it is written, and the whole text only once the last write is done (`InPlace`). The
lockfile repository stops after `MkdirAll` when the root refuses the file's name. -/
theorem saves_keep_old_or_prefix :
    (∀ (yaml : Codec GrantSet) (split : (data : String) → Chunking data) (s : Grantstore.FileStore)
        (fs : FS) (grants : Option GrantSet),
      (s.save yaml split fs grants).2 = (fs.run (s.writes yaml split grants)).1 ∧
      s.writes yaml split grants = saveWrites (pathDir s.config.path) (pathBase s.config.path)
        (split (yaml.encode (Grantstore.FileStore.clean grants))) ∧
      InPlace fs (pathDir s.config.path) (pathBase s.config.path)
        (split (yaml.encode (Grantstore.FileStore.clean grants)))) ∧
    (∀ (yaml : Codec Filesystem.Lockfile) (split : (data : String) → Chunking data) (fs : FS)
        (lock : Lockfile) (path : String),
      (Filesystem.FileLockfileRepository.save yaml split fs lock path).2 =
          (fs.run (Filesystem.FileLockfileRepository.writes yaml split lock path)).1 ∧
      (∃ m, Filesystem.FileLockfileRepository.writes yaml split lock path =
        (saveWrites (pathDir path) (pathBase path)
          (split (yaml.encode (Filesystem.fromEntity lock)))).take m) ∧
      (Filesystem.rootOpenError (pathBase path) = none →
        Filesystem.FileLockfileRepository.writes yaml split lock path =
          saveWrites (pathDir path) (pathBase path) (split (yaml.encode (Filesystem.fromEntity lock)))) ∧
      InPlace fs (pathDir path) (pathBase path) (split (yaml.encode (Filesystem.fromEntity lock)))) :=
  ⟨fun yaml split s fs grants =>
      ⟨(s.save_snd yaml split fs grants).1, rfl,
        inPlace_saveWrites fs (pathDir_ne_empty _) (pathBase_ne_empty _) _⟩,
    fun yaml split fs lock path =>
      ⟨(Filesystem.FileLockfileRepository.save_snd yaml split fs lock path).1,
        (Filesystem.FileLockfileRepository.writes_eq_take yaml split lock path).1,
        (Filesystem.FileLockfileRepository.writes_eq_take yaml split lock path).2,
        inPlace_saveWrites fs (pathDir_ne_empty _) (pathBase_ne_empty _) _⟩⟩

/-- Saving over the lockfile at `/work/reglet.lock` succeeds, but a process that stops right
after the open with `O_TRUNC` leaves an empty file, neither the old text nor the new. -/
theorem save_truncates_in_place :
    (Filesystem.FileLockfileRepository.save Filesystem.lockfileCodec Filesystem.wholeText
        (Filesystem.workFS (some (Filesystem.lockfileCodec.encode (Filesystem.fromEntity (newLockfile 1)))))
        Filesystem.pinnedLockfile "/work/reglet.lock").1 = .ok () ∧
    ((Filesystem.workFS (some (Filesystem.lockfileCodec.encode (Filesystem.fromEntity (newLockfile 1))))).run
        ((Filesystem.FileLockfileRepository.writes Filesystem.lockfileCodec Filesystem.wholeText
          Filesystem.pinnedLockfile "/work/reglet.lock").take 2)).1 "/work/reglet.lock" = some (.file "") ∧
    Filesystem.lockfileCodec.encode (Filesystem.fromEntity (newLockfile 1)) ≠ "" ∧
    Filesystem.lockfileCodec.encode (Filesystem.fromEntity Filesystem.pinnedLockfile) ≠ "" :=
  ⟨rfl, rfl, by decide, by decide⟩

end Plugins

end RegletHost
