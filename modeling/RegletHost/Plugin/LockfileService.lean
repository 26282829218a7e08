import RegletHost.Plugin.Lockfile

/-!
Plugin declarations and the lockfile service (`LockfileService`): version resolution against
the lockfile, and the pinning of remote profiles.

* `parsePluginDeclaration`: a declaration `name`, `name@version`, an OCI reference with a
  tag, and a digest pin `@sha256:…`, as `ParsePluginDeclaration` cuts them.
* `LockfileRepository`: the port the service loads and saves through, over the state it
  changes; `fileLockfileRepository` is the file repository, and `recording` wraps a
  repository to record the lockfiles it is asked to save, as the tests' mock does.
* `resolveDeclarations`: the loop of `ResolvePlugins`, which re-pins a declaration unless
  the lock already records its constraint. `resolveDeclarations_of_locked`,
  `resolveDeclarations_keeps_locked` and `resolveDeclarations_locked` say which entries it
  leaves and which it sets.
* `resolvePlugins_again`: when no two declarations name one plugin with different
  constraints, a second run on what the first saved calls no `Save` and returns the same
  plugin entries; `resolvePlugins_conflict_saves_again` is a pair of declarations that
  re-pin each other on every run.
* `getLockedProfile_after_lockProfile`: a profile pinned by `LockProfile` is not found by
  `GetLockedProfile` through the file repository, whose record has no profiles.

The clock reading `now` is `time.Now().UTC()`, in nanoseconds since the zero time; a run
reads it once.
-/

namespace RegletHost

namespace Plugins

open Storage Netutil

/-! ### Declarations -/

/-- `entities.PluginSpec`. -/
structure PluginSpec where
  name : String := ""
  source : String := ""
  version : String := ""
  digest : String := ""
  verify : Bool := false
  deriving DecidableEq, Repr

/-- `strings.Index` of a separator: the text before its first occurrence and the text after. -/
def splitFirst (sep : List Char) : List Char → Option (List Char × List Char)
  | [] => if sep = [] then some ([], []) else none
  | c :: cs =>
      if sep.isPrefixOf (c :: cs) then some ([], (c :: cs).drop sep.length)
      else (splitFirst sep cs).map fun p => (c :: p.1, p.2)

/-- `strings.LastIndex` of a character: the text before its last occurrence and the text
after. -/
def cutLast (c : Char) (l : List Char) : Option (List Char × List Char) :=
  match cutChar c l.reverse with
  | (after, some before) => some (before.reverse, after.reverse)
  | (_, none) => none

/-- `ParsePluginDeclaration`. -/
def parsePluginDeclaration (declaration : String) : Except String PluginSpec :=
  if declaration = "" then .error "empty plugin declaration"
  else
    -- the digest pin, cut at the first `@sha256:`
    let pinned : List Char × String × String :=
      match splitFirst "@sha256:".toList declaration.toList with
      | some (pre, post) => (pre, "sha256:" ++ String.mk post, String.mk pre ++ "@sha256:" ++ String.mk post)
      | none => (declaration.toList, "", declaration)
    -- the version, after the last `@`
    let versioned : List Char × String :=
      match cutLast '@' pinned.1 with
      | some (pre, post) => (pre, String.mk post)
      | none => (pinned.1, "")
    if '/' ∈ versioned.1 then
      let name := (versioned.1.reverse.takeWhile (· ≠ '/')).reverse
      match cutLast ':' name with
      | some (n, tag) =>
          .ok { name := String.mk n, source := pinned.2.2, version := String.mk tag, digest := pinned.2.1 }
      | none => .ok { name := String.mk name, source := pinned.2.2, version := versioned.2, digest := pinned.2.1 }
    else
      .ok { name := String.mk versioned.1,
            source := if versioned.2 ≠ "" then String.mk versioned.1 else pinned.2.2,
            version := versioned.2, digest := pinned.2.1 }

example : (parsePluginDeclaration "file@1.2.0", parsePluginDeclaration "ghcr.io/reglet-dev/reglet-plugins/file:1.0.0",
    parsePluginDeclaration "ghcr.io/o/file@sha256:abc") =
    (.ok { name := "file", source := "file", version := "1.2.0" },
     .ok { name := "file", source := "ghcr.io/reglet-dev/reglet-plugins/file:1.0.0", version := "1.0.0" },
     .ok { name := "file", source := "ghcr.io/o/file@sha256:abc", digest := "sha256:abc" }) := rfl

/-- The constraint `ResolvePlugins` pins: the declared version, `latest` when there is
none. -/
def constraintOf (spec : PluginSpec) : String := if spec.version = "" then "latest" else spec.version

/-- No two declarations that parse name one plugin with different constraints. -/
def Consistent (decls : List String) : Prop :=
  ∀ d ∈ decls, ∀ d' ∈ decls, ∀ s s', parsePluginDeclaration d = .ok s → parsePluginDeclaration d' = .ok s' →
    s.name = s'.name → constraintOf s = constraintOf s'

/-- One declaration is consistent with itself. -/
lemma consistent_singleton (d : String) : Consistent [d] := by
  intro a ha b hb s s' hs hs' _
  rw [List.mem_singleton] at ha hb
  subst ha hb
  cases hs.symm.trans hs'
  rfl

/-! ### The repository port -/

/-- `ports.LockfileRepository`: `Load` and `Save` over the state `σ` they read and change. -/
structure LockfileRepository (σ : Type) where
  load : σ → String → Except String (Option Lockfile)
  save : σ → Lockfile → String → Except String Unit × σ

/-- `FileLockfileRepository` as the port, the encoder's text reaching the file in the
pieces `split` gives. -/
def fileLockfileRepository (yaml : Codec Filesystem.Lockfile) (split : (data : String) → Chunking data) :
    LockfileRepository FS :=
  ⟨Filesystem.FileLockfileRepository.load yaml, Filesystem.FileLockfileRepository.save yaml split⟩

/-- A repository that also records the lockfiles it is asked to save. -/
def LockfileRepository.recording {σ : Type} (R : LockfileRepository σ) :
    LockfileRepository (σ × List Lockfile) :=
  ⟨fun st path => R.load st.1 path,
    fun st lock path => ((R.save st.1 lock path).1, ((R.save st.1 lock path).2, st.2 ++ [lock]))⟩

/-! ### The service -/

/-- The lock `ResolvePlugins` records for a declaration it re-pins. -/
def placeholderLock (now : Nat) (spec : PluginSpec) : PluginLock :=
  { requested := constraintOf spec, resolved := constraintOf spec, source := spec.source,
    digest := "sha256:placeholder", fetched := now }

/-- The loop of `ResolvePlugins`: the lock after the declarations, and whether an entry was
set. -/
def resolveDeclarations (now : Nat) : List String → Lockfile → Bool → Except String (Lockfile × Bool)
  | [], lock, updated => .ok (lock, updated)
  | decl :: rest, lock, updated =>
      match parsePluginDeclaration decl with
      | .error e => .error ("parsing plugin declaration " ++ goQuote decl ++ ": " ++ e)
      | .ok spec =>
          if (lock.getPlugin spec.name).any (·.requested == constraintOf spec) then
            resolveDeclarations now rest lock updated
          else
            match lock.addPlugin spec.name (placeholderLock now spec) with
            | .error e => .error e
            | .ok lock' => resolveDeclarations now rest lock' true

/-- One declaration of the loop: it parses, and the lock either records its constraint
already or gets its placeholder entry. -/
lemma resolveDeclarations_cons {now : Nat} {decl : String} {rest : List String} {lock : Lockfile}
    {updated : Bool} {r : Lockfile × Bool} (h : resolveDeclarations now (decl :: rest) lock updated = .ok r) :
    ∃ spec, parsePluginDeclaration decl = .ok spec ∧
      (((lock.getPlugin spec.name).any (·.requested == constraintOf spec) = true ∧
          resolveDeclarations now rest lock updated = .ok r) ∨
        resolveDeclarations now rest
          { lock with plugins := lock.plugins.insert spec.name (placeholderLock now spec) } true = .ok r) := by
  rw [resolveDeclarations] at h
  split at h
  · cases h
  · rename_i spec hp
    refine ⟨spec, hp, ?_⟩
    split_ifs at h with hl
    · exact .inl ⟨hl, h⟩
    · have hadd : lock.addPlugin spec.name (placeholderLock now spec) =
          .ok { lock with plugins := lock.plugins.insert spec.name (placeholderLock now spec) } :=
        Lockfile.addPlugin_eq_ok.mpr ⟨by simp [placeholderLock], rfl⟩
      rw [hadd] at h
      exact .inr h

/-- The loop sets no entry when every declaration is locked at its constraint already. -/
lemma resolveDeclarations_of_locked {now : Nat} {lock : Lockfile} {updated : Bool} :
    ∀ {decls : List String}, (∀ d ∈ decls, ∃ spec, parsePluginDeclaration d = .ok spec ∧
      (lock.getPlugin spec.name).any (·.requested == constraintOf spec) = true) →
    resolveDeclarations now decls lock updated = .ok (lock, updated)
  | [], _ => rfl
  | d :: ds, h => by
    obtain ⟨spec, hp, hl⟩ := h d (List.mem_cons_self _ _)
    rw [resolveDeclarations, hp]
    simp only [hl, if_true]
    exact resolveDeclarations_of_locked fun d' hd' => h d' (List.mem_cons_of_mem _ hd')

/-- A plugin locked at a constraint stays locked at it through declarations that name it
only with that constraint. -/
lemma resolveDeclarations_keeps_locked {now : Nat} {n c : String} :
    ∀ {decls : List String} {lock : Lockfile} {updated : Bool} {r : Lockfile × Bool},
      resolveDeclarations now decls lock updated = .ok r →
      (lock.getPlugin n).any (·.requested == c) = true →
      (∀ d ∈ decls, ∀ s, parsePluginDeclaration d = .ok s → s.name = n → constraintOf s = c) →
      (r.1.getPlugin n).any (·.requested == c) = true
  | [], _, _, _, h, hl, _ => by
    cases h
    exact hl
  | d :: ds, lock, _, _, h, hl, hc => by
    have hc' := fun d' hd' => hc d' (List.mem_cons_of_mem _ hd')
    obtain ⟨spec, hp, ⟨-, h'⟩ | h'⟩ := resolveDeclarations_cons h
    · exact resolveDeclarations_keeps_locked h' hl hc'
    · refine resolveDeclarations_keeps_locked h' ?_ hc'
      by_cases hn : n = spec.name
      · subst hn
        simp [Lockfile.getPlugin, AList.lookup_insert, placeholderLock, hc d (List.mem_cons_self _ _) spec hp rfl]
      · simpa [Lockfile.getPlugin, AList.lookup_insert_ne hn] using hl

/-- After the loop over consistent declarations, every one of them parses and is locked at
its constraint. -/
lemma resolveDeclarations_locked {now : Nat} :
    ∀ {decls : List String} {lock : Lockfile} {updated : Bool} {r : Lockfile × Bool},
      Consistent decls → resolveDeclarations now decls lock updated = .ok r →
      ∀ d ∈ decls, ∃ spec, parsePluginDeclaration d = .ok spec ∧
        (r.1.getPlugin spec.name).any (·.requested == constraintOf spec) = true
  | [], _, _, _, _, _, d, hd => absurd hd (List.not_mem_nil d)
  | d :: ds, lock, _, _, hD, h, d', hd' => by
    have hD' : Consistent ds := fun a ha b hb => hD a (List.mem_cons_of_mem _ ha) b (List.mem_cons_of_mem _ hb)
    rcases List.mem_cons.mp hd' with rfl | hd'
    · obtain ⟨spec, hp, h'⟩ := resolveDeclarations_cons h
      refine ⟨spec, hp, ?_⟩
      have hc : ∀ e ∈ ds, ∀ s, parsePluginDeclaration e = .ok s → s.name = spec.name →
          constraintOf s = constraintOf spec := fun e he s hs hn =>
        hD e (List.mem_cons_of_mem _ he) d' (List.mem_cons_self _ _) s spec hs hp hn
      rcases h' with ⟨hl, h'⟩ | h'
      · exact resolveDeclarations_keeps_locked h' hl hc
      · exact resolveDeclarations_keeps_locked h'
          (by simp [Lockfile.getPlugin, AList.lookup_insert, placeholderLock]) hc
    · obtain ⟨spec, -, ⟨-, h'⟩ | h'⟩ := resolveDeclarations_cons h <;>
        exact resolveDeclarations_locked hD' h' d' hd'

/-- The loop changes only the plugin entries, gives each a digest, and reports no change
exactly when it left the lock as it was. -/
lemma resolveDeclarations_frame {now : Nat} :
    ∀ {decls : List String} {lock : Lockfile} {updated : Bool} {r : Lockfile × Bool},
      resolveDeclarations now decls lock updated = .ok r →
      r.1.generated = lock.generated ∧ r.1.profiles = lock.profiles ∧ r.1.version = lock.version ∧
      ((∀ e ∈ lock.plugins.entries, e.2.digest ≠ "") → ∀ e ∈ r.1.plugins.entries, e.2.digest ≠ "") ∧
      (r.2 = false → r.1 = lock ∧ updated = false)
  | [], _, _, _, h => by
    cases h
    exact ⟨rfl, rfl, rfl, id, fun h => ⟨rfl, h⟩⟩
  | d :: ds, lock, _, _, h => by
    obtain ⟨spec, -, ⟨-, h'⟩ | h'⟩ := resolveDeclarations_cons h
    · exact resolveDeclarations_frame h'
    · obtain ⟨hg, hp, hv, hd, hu⟩ := resolveDeclarations_frame h'
      refine ⟨hg, hp, hv, fun hl e he => hd ?_ e he, fun hf => absurd (hu hf).2 (by simp)⟩
      intro e he
      rw [AList.insert_entries, List.mem_cons] at he
      rcases he with rfl | he
      · simp [placeholderLock]
      · exact hl e ((List.kerase_sublist _ _).subset he)

section Service

variable {σ : Type} (R : LockfileRepository σ) (now : Nat)

/-- `ResolvePlugins`: the lockfile, or a new one, through the loop; saved, with a new
timestamp, when an entry was set. -/
def resolvePlugins (st : σ) (decls : List String) (path : String) : Except String Lockfile × σ :=
  match R.load st path with
  | .error e => (.error ("loading lockfile: " ++ e), st)
  | .ok loaded =>
      match resolveDeclarations now decls (loaded.getD (newLockfile now)) false with
      | .error e => (.error e, st)
      | .ok (lock, false) => (.ok lock, st)
      | .ok (lock, true) =>
          match R.save st { lock with generated := now } path with
          | (.error e, st') => (.error ("saving lockfile: " ++ e), st')
          | (.ok (), st') => (.ok { lock with generated := now }, st')

/-- `LockProfile`. -/
def lockProfile (st : σ) (path url version digest : String) : Except String Unit × σ :=
  match R.load st path with
  | .error e => (.error ("loading lockfile: " ++ e), st)
  | .ok loaded =>
      match (loaded.getD (newLockfile now)).addProfile url
          { requested := url, resolved := version, source := url, digest := digest, fetched := now } with
      | .error e => (.error ("adding profile lock: " ++ e), st)
      | .ok lock =>
          match R.save st { lock with generated := now, version := 2 } path with
          | (.error e, st') => (.error ("saving lockfile: " ++ e), st')
          | (.ok (), st') => (.ok (), st')

/-- `GetLockedProfile`. -/
def getLockedProfile (st : σ) (path url : String) : Except String (Option ProfileLock) :=
  match R.load st path with
  | .error e => .error ("loading lockfile: " ++ e)
  | .ok none => .ok none
  | .ok (some lock) => .ok (lock.getProfile url)

/-- A run that succeeds loaded a lockfile and ran the loop on it; it returns the lock when
no entry was set, and else saves it with the new timestamp and returns what it saved. -/
lemma resolvePlugins_eq_ok {st st' : σ} {decls : List String} {path : String} {L : Lockfile}
    (h : resolvePlugins R now st decls path = (.ok L, st')) :
    ∃ loaded lock, R.load st path = .ok loaded ∧
      ((resolveDeclarations now decls (loaded.getD (newLockfile now)) false = .ok (lock, false) ∧
          L = lock ∧ st' = st) ∨
        (resolveDeclarations now decls (loaded.getD (newLockfile now)) false = .ok (lock, true) ∧
          L = { lock with generated := now } ∧ R.save st L path = (.ok (), st'))) := by
  unfold resolvePlugins at h
  cases hload : R.load st path with
  | error e => simp [hload] at h
  | ok loaded =>
    refine ⟨loaded, ?_⟩
    simp only [hload] at h
    cases hloop : resolveDeclarations now decls (loaded.getD (newLockfile now)) false with
    | error e => simp [hloop] at h
    | ok r =>
      obtain ⟨lock, _ | _⟩ := r
      · simp only [hloop, Prod.mk.injEq, Except.ok.injEq] at h
        exact ⟨lock, rfl, .inl ⟨rfl, h.1.symm, h.2.symm⟩⟩
      · simp only [hloop] at h
        rcases hsave : R.save st { lock with generated := now } path with ⟨_ | ⟨⟩, st''⟩ <;>
          simp only [hsave, Prod.mk.injEq, Except.ok.injEq, reduceCtorEq, false_and] at h
        obtain ⟨rfl, rfl⟩ := h
        exact ⟨lock, rfl, .inr ⟨rfl, rfl, hsave⟩⟩

/-- A run whose loop sets no entry returns the lock it loaded and changes nothing. -/
lemma resolvePlugins_of_unchanged {st : σ} {decls : List String} {path : String} {loaded : Option Lockfile}
    (hload : R.load st path = .ok loaded)
    (hloop : resolveDeclarations now decls (loaded.getD (newLockfile now)) false =
      .ok (loaded.getD (newLockfile now), false)) :
    resolvePlugins R now st decls path = (.ok (loaded.getD (newLockfile now)), st) := by
  simp only [resolvePlugins, hload, hloop]

end Service

/-! ### Through the file repository -/

section FileRepository

variable (yaml : Codec Filesystem.Lockfile) (split : (data : String) → Chunking data)

/-- The lock a run starts from, when the file repository loads it: every plugin entry has
a digest, and there are no profiles. -/
lemma loaded_getD_valid {fs : FS} {path : String} {loaded : Option Lockfile} (now : Nat)
    (h : Filesystem.FileLockfileRepository.load yaml fs path = .ok loaded) :
    (∀ e ∈ (loaded.getD (newLockfile now)).plugins.entries, e.2.digest ≠ "") ∧
      (loaded.getD (newLockfile now)).profiles = ∅ := by
  cases loaded with
  | none => exact ⟨fun e he => absurd he (List.not_mem_nil e), rfl⟩
  | some l =>
    obtain ⟨hv, hp⟩ := Filesystem.FileLockfileRepository.load_eq_ok_some yaml h
    exact ⟨((Lockfile.validate_eq_ok_iff l).mp hv).2.1, hp⟩

/-- When no two declarations name one plugin with different constraints, running
`ResolvePlugins` again on what a run left calls no `Save`, leaves the files as they are and
returns the same plugin entries. -/
theorem resolvePlugins_again {now now' : Nat} (hnow : 0 < now) {fs fs₁ : FS} {saved : List Lockfile}
    {decls : List String} {path : String} {L : Lockfile} (hD : Consistent decls)
    (h : resolvePlugins (fileLockfileRepository yaml split).recording now (fs, []) decls path =
      (.ok L, (fs₁, saved))) :
    ∃ L', resolvePlugins (fileLockfileRepository yaml split).recording now' (fs₁, []) decls path =
      (.ok L', (fs₁, [])) ∧ L'.plugins = L.plugins := by
  obtain ⟨loaded, lock, hload, ⟨hloop, rfl, hst⟩ | ⟨hloop, rfl, hsave⟩⟩ := resolvePlugins_eq_ok _ _ h
  · -- nothing was set: the second run loads what the first loaded
    obtain ⟨rfl, -⟩ := Prod.mk.inj hst
    obtain ⟨rfl, -⟩ := (resolveDeclarations_frame hloop).2.2.2.2 rfl
    have hget : (loaded.getD (newLockfile now')).getPlugin = (loaded.getD (newLockfile now)).getPlugin := by
      cases loaded <;> rfl
    refine ⟨loaded.getD (newLockfile now'), resolvePlugins_of_unchanged _ _ hload
      (resolveDeclarations_of_locked fun d hd => ?_), by cases loaded <;> rfl⟩
    obtain ⟨spec, hp, hl⟩ := resolveDeclarations_locked hD hloop d hd
    exact ⟨spec, hp, by rw [hget]; exact hl⟩
  · -- the first run saved its lock: the second loads it back, without profiles
    have h₁ := congrArg Prod.fst hsave
    have h₂ := congrArg (fun x => x.2.1) hsave
    simp only [LockfileRepository.recording, fileLockfileRepository] at h₁ h₂
    obtain ⟨hdig, hprof⟩ := loaded_getD_valid yaml now hload
    obtain ⟨-, hp, -, hd, -⟩ := resolveDeclarations_frame hloop
    have hval : ({ lock with generated := now } : Lockfile).validate = .ok () :=
      (Lockfile.validate_eq_ok_iff _).mpr ⟨fun _ => hnow.ne', hd hdig, fun e he => by
        rw [show lock.profiles = ∅ from hp.trans hprof] at he
        exact absurd he (List.not_mem_nil e)⟩
    have hreload := Filesystem.FileLockfileRepository.load_after_save yaml split hval (Prod.ext h₁ h₂)
    refine ⟨_, resolvePlugins_of_unchanged _ _ hreload (resolveDeclarations_of_locked fun d hd => ?_), rfl⟩
    exact resolveDeclarations_locked hD hloop d hd

theorem resolvePlugins_again_file :
    ∃ L', resolvePlugins (fileLockfileRepository Filesystem.lockfileCodec Filesystem.wholeText).recording 2
        ((resolvePlugins (fileLockfileRepository Filesystem.lockfileCodec Filesystem.wholeText).recording 1
          (Filesystem.workFS none, []) ["file@1.0"] "/work/reglet.lock").2.1, []) ["file@1.0"] "/work/reglet.lock" =
      (.ok L', ((resolvePlugins (fileLockfileRepository Filesystem.lockfileCodec Filesystem.wholeText).recording 1
          (Filesystem.workFS none, []) ["file@1.0"] "/work/reglet.lock").2.1, [])) ∧
      L'.plugins = (∅ : AList _).insert "file" (placeholderLock 1 { name := "file", source := "file", version := "1.0" }) :=
  resolvePlugins_again Filesystem.lockfileCodec Filesystem.wholeText (by decide) (consistent_singleton _)
    (show resolvePlugins (fileLockfileRepository Filesystem.lockfileCodec Filesystem.wholeText).recording 1
        (Filesystem.workFS none, []) ["file@1.0"] "/work/reglet.lock" =
      (.ok { generated := 1, version := 1,
             plugins := (∅ : AList _).insert "file"
               (placeholderLock 1 { name := "file", source := "file", version := "1.0" }) },
        (resolvePlugins (fileLockfileRepository Filesystem.lockfileCodec Filesystem.wholeText).recording 1
          (Filesystem.workFS none, []) ["file@1.0"] "/work/reglet.lock").2) from Prod.ext rfl rfl)

/-- `file@1.0` and `file@2.0` re-pin each other: a run saves, and a second run on what it
saved saves again, with other plugin entries. -/
theorem resolvePlugins_conflict_saves_again :
    ∃ L L' : Lockfile,
      resolvePlugins (fileLockfileRepository Filesystem.lockfileCodec Filesystem.wholeText).recording 1
          (Filesystem.workFS none, []) ["file@1.0", "file@2.0"] "/work/reglet.lock" =
        (.ok L, ((resolvePlugins (fileLockfileRepository Filesystem.lockfileCodec Filesystem.wholeText).recording 1
          (Filesystem.workFS none, []) ["file@1.0", "file@2.0"] "/work/reglet.lock").2.1, [L])) ∧
      resolvePlugins (fileLockfileRepository Filesystem.lockfileCodec Filesystem.wholeText).recording 2
          ((resolvePlugins (fileLockfileRepository Filesystem.lockfileCodec Filesystem.wholeText).recording 1
            (Filesystem.workFS none, []) ["file@1.0", "file@2.0"] "/work/reglet.lock").2.1, [])
          ["file@1.0", "file@2.0"] "/work/reglet.lock" =
        (.ok L', ((resolvePlugins (fileLockfileRepository Filesystem.lockfileCodec Filesystem.wholeText).recording 2
          ((resolvePlugins (fileLockfileRepository Filesystem.lockfileCodec Filesystem.wholeText).recording 1
            (Filesystem.workFS none, []) ["file@1.0", "file@2.0"] "/work/reglet.lock").2.1, [])
          ["file@1.0", "file@2.0"] "/work/reglet.lock").2.1, [L'])) ∧
      L'.plugins ≠ L.plugins :=
  ⟨_, _, Prod.ext rfl rfl, Prod.ext rfl rfl, fun h => absurd (congrArg AList.entries h) (by decide)⟩

/-- A profile `LockProfile` pins through the file repository is not found by
`GetLockedProfile`: the saved record has no profiles. -/
theorem getLockedProfile_after_lockProfile {now : Nat} (hnow : 0 < now) {fs fs' : FS}
    {path url version digest : String}
    (h : lockProfile (fileLockfileRepository yaml split) now fs path url version digest = (.ok (), fs')) :
    getLockedProfile (fileLockfileRepository yaml split) fs' path url = .ok none := by
  unfold lockProfile at h
  cases hload : Filesystem.FileLockfileRepository.load yaml fs path with
  | error e => simp [fileLockfileRepository, hload] at h
  | ok loaded =>
    simp only [fileLockfileRepository, hload] at h
    obtain ⟨hdig, hprof⟩ := loaded_getD_valid yaml now hload
    generalize loaded.getD (newLockfile now) = lock₀ at h hdig hprof
    cases hadd : lock₀.addProfile url
        { requested := url, resolved := version, source := url, digest := digest, fetched := now } with
    | error e => simp [hadd] at h
    | ok lock =>
      obtain ⟨hd, hlock⟩ := Lockfile.addProfile_eq_ok.mp hadd
      simp only [hadd] at h
      rcases hsave : Filesystem.FileLockfileRepository.save yaml split fs
          { lock with generated := now, version := 2 } path with ⟨_ | ⟨⟩, fs''⟩ <;>
        simp only [hsave, Prod.mk.injEq, reduceCtorEq, false_and] at h
      obtain rfl := h.2
      have hval := (Lockfile.validate_eq_ok_iff { lock with generated := now, version := 2 }).mpr
        ⟨fun _ => hnow.ne', hlock ▸ hdig, fun e he => by
          rw [hlock] at he
          simp only [AList.insert_entries, hprof, AList.empty_entries, List.kerase_nil, List.mem_cons,
            List.not_mem_nil, or_false] at he
          exact he ▸ hd⟩
      simp only [getLockedProfile, fileLockfileRepository,
        Filesystem.FileLockfileRepository.load_after_save yaml split hval hsave]
      rfl

/-- A profile pinned into a work directory with no lockfile yet: `LockProfile` succeeds, and
`GetLockedProfile` of the same profile then finds nothing. -/
theorem getLockedProfile_after_lockProfile_work :
    let R := fileLockfileRepository Filesystem.lockfileCodec Filesystem.wholeText
    let run := lockProfile R 1 (Filesystem.workFS none) "/work/reglet.lock" "https://example.com/p.yaml"
      "1.0" "sha256:ab"
    0 < 1 ∧ run = (.ok (), run.2) ∧
      getLockedProfile R run.2 "/work/reglet.lock" "https://example.com/p.yaml" = .ok none := by
  intro R run
  have hrun : run = (.ok (), run.2) := Prod.ext rfl rfl
  exact ⟨by decide, hrun,
    getLockedProfile_after_lockProfile Filesystem.lockfileCodec Filesystem.wholeText (by decide) hrun⟩

end FileRepository

end Plugins

end RegletHost
