import RegletHost.Capability.Extractor
import RegletHost.Capability.Risk

/-!
The extractors of the built-in plugins and their registry (`src/capability/extractor.go`,
`src/unnamed/part_001`: `FileExtractor`, `CommandExtractor`, `RegisterDefaultExtractors`),
set against the policy and `AnalyzeRisk`.

* `isSpace`, `fields`: `unicode.IsSpace` and `strings.Fields`, the maximal runs of
  non-space characters, read by a scan carrying the field being read.
* `FileExtractor.extract`, `CommandExtractor.extract`: as the code writes them;
  `ExtractorRegistry` with `register` and `registerDefaultExtractors`.
* `registerDefaultExtractors_risk` (**every extracted grant carries a risk**): a grant set
  that a built-in extractor of the registry returns is rated above `RiskNone`, and the
  command extractor's is critical.
* `fileExtractor_read_iff` (**the file grant covers the clean absolute path only**): the
  grant `FileExtractor` derives from `path` lets the file plugin read `path` exactly when
  it is absolute and clean, whatever the working directory (absolute, or none).
* `commandExtractor_shell`: a non-empty `run` grants `/bin/sh`, whatever the text runs, and
  the first field of the text.
-/

namespace RegletHost

/-! ### `strings.Fields` -/

/-- `unicode.IsSpace`: the Latin-1 spaces, then the other characters of Unicode's
`White_Space`. -/
def isSpace (c : Char) : Bool :=
  c = ' ' || c = '\t' || c = '\n' || c = '\x0b' || c = '\x0c' || c = '\r' || c = '\x85' ||
    c = '\xa0' || c = '\u1680' || ('\u2000' ≤ c && c ≤ '\u200a') || c = '\u2028' ||
    c = '\u2029' || c = '\u202f' || c = '\u205f' || c = '\u3000'

/-- The scan of `strings.Fields`, `cur` the field being read: a space closes it, any other
character joins it. -/
def fieldsAux : List Char → List Char → List (List Char)
  | [], cur => if cur = [] then [] else [cur]
  | c :: cs, cur =>
    if isSpace c then (if cur = [] then fieldsAux cs [] else cur :: fieldsAux cs [])
    else fieldsAux cs (cur ++ [c])

/-- `strings.Fields`. -/
def fields (s : String) : List String := (fieldsAux s.toList []).map String.mk

/-- A field is a non-empty run of non-space characters. -/
lemma mem_fieldsAux : ∀ (s cur : List Char), (∀ c ∈ cur, isSpace c = false) →
    ∀ f ∈ fieldsAux s cur, f ≠ [] ∧ ∀ c ∈ f, isSpace c = false
  | [], cur, hcur, f, hf => by
    unfold fieldsAux at hf
    split_ifs at hf with h
    · cases hf
    · rw [List.mem_singleton.mp hf]; exact ⟨h, hcur⟩
  | c :: cs, cur, hcur, f, hf => by
    unfold fieldsAux at hf
    split_ifs at hf with hc h
    · exact mem_fieldsAux cs [] (by simp) f hf
    · rcases List.mem_cons.mp hf with rfl | hf
      exacts [⟨h, hcur⟩, mem_fieldsAux cs [] (by simp) f hf]
    · refine mem_fieldsAux cs (cur ++ [c]) (fun d hd => ?_) f hf
      rcases List.mem_append.mp hd with hd | hd
      exacts [hcur d hd, (List.mem_singleton.mp hd) ▸ Bool.of_not_eq_true hc]

/-! ### The extractors -/

/-- `FileExtractor.Extract`: a read rule of the `path` string, when non-empty. -/
def FileExtractor.extract (config : Config) : Option GrantSet :=
  match config.string "path" with
  | some path => if path = "" then none else some { fs := [⟨[path], []⟩] }
  | none => none

/-- `CommandExtractor.Extract`: the `command` string, or else the `cmd` string, when
non-empty; then for a non-empty `run` string, `/bin/sh` and the first field of the text;
nothing when no command was found. -/
def CommandExtractor.extract (config : Config) : Option GrantSet :=
  let cmds := ((config.string "command").filter (· != "") <|>
    (config.string "cmd").filter (· != "")).toList
  let cmds := match config.string "run" with
    | some run =>
      if run ≠ "" then cmds ++ "/bin/sh" :: (fields run).take 1 else cmds
    | none => cmds
  if cmds.length = 0 then none else some { exec := cmds }

/-- `capability.Registry`: the extractor registered under each plugin name. -/
def ExtractorRegistry : Type := String → Option (Config → Option GrantSet)

/-- `Register`: the extractor replaces the one the name had. -/
def ExtractorRegistry.register (r : ExtractorRegistry) (pluginName : String)
    (extractor : Config → Option GrantSet) : ExtractorRegistry :=
  fun name => if name = pluginName then some extractor else r name

/-- `RegisterDefaultExtractors`; `http`, `tcp`, `dns` and `smtp` share one network
extractor. -/
def registerDefaultExtractors (r : ExtractorRegistry) : ExtractorRegistry :=
  ((((((r.register "file" FileExtractor.extract).register "file.managed"
    FileExtractor.extract).register "command" CommandExtractor.extract).register "http"
    NetworkExtractor.extract).register "tcp" NetworkExtractor.extract).register "dns"
    NetworkExtractor.extract).register "smtp" NetworkExtractor.extract

/-- The plugins `RegisterDefaultExtractors` registers. -/
def defaultPluginNames : List String :=
  ["file", "file.managed", "command", "http", "tcp", "dns", "smtp"]

/-! ### The risk of an extracted grant -/

lemma FileExtractor.extract_eq_some {config : Config} {g : GrantSet}
    (h : FileExtractor.extract config = some g) :
    ∃ path, config.string "path" = some path ∧ path ≠ "" ∧ g = { fs := [⟨[path], []⟩] } := by
  unfold FileExtractor.extract at h
  split at h
  · split_ifs at h with hp
    cases h
    exact ⟨_, ‹_›, hp, rfl⟩
  · cases h

lemma CommandExtractor.extract_exec {config : Config} {g : GrantSet}
    (h : CommandExtractor.extract config = some g) : g = { exec := g.exec } ∧ g.exec ≠ [] := by
  unfold CommandExtractor.extract at h
  dsimp only at h
  split_ifs at h with hl
  cases h
  exact ⟨rfl, fun e => hl (List.length_eq_zero.mpr e)⟩

lemma riskRank_fileExtractor {config : Config} {g : GrantSet}
    (h : FileExtractor.extract config = some g) : riskRank g = 2 := by
  obtain ⟨path, -, -, rfl⟩ := FileExtractor.extract_eq_some h
  rfl

lemma riskRank_commandExtractor {config : Config} {g : GrantSet}
    (h : CommandExtractor.extract config = some g) : riskRank g = 4 := by
  obtain ⟨hg, hne⟩ := CommandExtractor.extract_exec h
  rw [hg]
  simp [riskRank, List.length_pos.mpr hne]

lemma riskRank_networkExtractor {config : Config} {g : GrantSet}
    (h : NetworkExtractor.extract config = some g) : 2 ≤ riskRank g := by
  rw [NetworkExtractor.extract_eq_some h]
  simp only [riskRank, List.map_cons, List.map_nil, maxRank_cons, maxRank_nil]
  unfold networkRank
  split_ifs <;> simp

/-- What `registerDefaultExtractors` leaves under a built-in plugin's name. -/
lemma registerDefaultExtractors_get (r : ExtractorRegistry) (name : String) :
    registerDefaultExtractors r name =
      if name = "smtp" ∨ name = "dns" ∨ name = "tcp" ∨ name = "http" then
        some NetworkExtractor.extract
      else if name = "command" then some CommandExtractor.extract
      else if name = "file.managed" ∨ name = "file" then some FileExtractor.extract
      else r name := by
  simp only [registerDefaultExtractors, ExtractorRegistry.register]
  split_ifs <;> simp_all

/-- **Every extracted grant carries a risk.** Whatever the registry held before, a grant set
that the extractor `RegisterDefaultExtractors` left under a built-in plugin's name returns
for a configuration is rated above `RiskNone`, and critical for the `command` plugin. -/
theorem registerDefaultExtractors_risk (r : ExtractorRegistry) {name : String}
    (hname : name ∈ defaultPluginNames) {extractor : Config → Option GrantSet}
    (he : registerDefaultExtractors r name = some extractor) (config : Config) {g : GrantSet}
    (hg : extractor config = some g) :
    RiskLevel.none.rank < (analyzeRisk g).level.rank ∧
      (name = "command" → (analyzeRisk g).level = .critical) := by
  rw [registerDefaultExtractors_get] at he
  simp only [defaultPluginNames, List.mem_cons, List.mem_singleton, List.not_mem_nil,
    or_false] at hname
  rw [analyzeRisk_rank, ← RiskLevel.rank_inj, analyzeRisk_rank]
  split_ifs at he with hn hc hf
  · cases he
    have := riskRank_networkExtractor hg
    refine ⟨by simp only [RiskLevel.rank]; omega, fun h => ?_⟩
    subst h; simp at hn
  · cases he
    exact ⟨by simp [RiskLevel.rank, riskRank_commandExtractor hg],
      fun _ => riskRank_commandExtractor hg⟩
  · cases he
    refine ⟨by simp [RiskLevel.rank, riskRank_fileExtractor hg], fun h => ?_⟩
    subst h; simp at hf
  · exfalso; tauto

/-- The `command` plugin running `make test` is granted `/bin/sh` and `make`, rated
critical. -/
theorem registerDefaultExtractors_risk_make :
    CommandExtractor.extract (fun k => if k = "run" then some (.string "make test") else none) =
        some { exec := ["/bin/sh", "make"] } ∧
      RiskLevel.none.rank < (analyzeRisk { exec := ["/bin/sh", "make"] }).level.rank ∧
      ("command" = "command" → (analyzeRisk { exec := ["/bin/sh", "make"] }).level = .critical) :=
  have hg : CommandExtractor.extract
      (fun k => if k = "run" then some (.string "make test") else none) =
        some { exec := ["/bin/sh", "make"] } := rfl
  ⟨hg, registerDefaultExtractors_risk (fun _ => none) (by decide)
    (show registerDefaultExtractors (fun _ => none) "command" = some CommandExtractor.extract
      from rfl) _ hg⟩

/-! ### The grants against the policy -/

/-- `filepath.Clean` keeps a path rooted. -/
lemma cleanPath_rooted {path : String} (h : path.toList.head? = some '/') :
    (cleanPath path).toList.head? = some '/' := by
  unfold cleanPath
  split
  next hp => rw [hp] at h; cases h
  next c cs hp =>
    rw [hp] at h
    cases h
    simp

/-- With an absolute working directory or none, the path a request is checked at is
absolute. -/
lemma requestPath_rooted {p : Policy}
    (hwd : p.workingDirectory = "" ∨ p.workingDirectory.toList.head? = some '/')
    {path q : String} (h : p.requestPath path = some q) : q.toList.head? = some '/' := by
  unfold Policy.requestPath at h
  split_ifs at h with h₁ h₂ <;> cases h
  · exact cleanPath_rooted h₁
  · refine cleanPath_rooted ?_
    have hw := hwd.resolve_left h₂
    simp only [String.toList, String.data_append, List.head?_append] at hw ⊢
    rw [hw]; rfl

/-- **The file grant covers the clean absolute path only.** For every configuration whose
`path` is a non-empty string without `*`, and every policy without symbolic-link resolution
whose working directory is absolute or unset: `FileExtractor` returns a grant set, and it
allows the read of `path` exactly when `path` is absolute and `filepath.Clean` leaves it as
it is; a relative path, or one with `//`, `.`, `..` or a trailing `/`, is denied. -/
theorem fileExtractor_read_iff {config : Config} {path : String}
    (hpath : config.string "path" = some path) (hne : path ≠ "") (hstar : '*' ∉ path.toList)
    (p : Policy) (hsym : p.symlinks = none)
    (hwd : p.workingDirectory = "" ∨ p.workingDirectory.toList.head? = some '/') :
    ∃ g, FileExtractor.extract config = some g ∧
      (p.evaluate (.fileSystem ⟨path, "read"⟩) g = true ↔
        path.toList.head? = some '/' ∧ cleanPath path = path) := by
  refine ⟨{ fs := [⟨[path], []⟩] }, by simp [FileExtractor.extract, hpath, hne], ?_⟩
  have hpat : fsPatterns "read" { fs := [⟨[path], []⟩] } = [path] := by
    simp [fsPatterns, rulePatterns]
  simp only [Policy.evaluate, Policy.evaluateFileSystem, hpat, hsym, List.any_cons,
    List.any_nil, Bool.and_true, Bool.or_false]
  split
  next h =>
    refine iff_of_false (by simp) fun ⟨hr, _⟩ => ?_
    rw [Policy.requestPath, if_pos hr] at h
    cases h
  next q hq =>
    rw [matchPath_of_noStar hstar]
    by_cases hr : path.toList.head? = some '/'
    · simp only [Policy.requestPath, hr, if_true, Option.some.injEq] at hq
      rw [← hq, eq_comm]
      exact ⟨fun h => ⟨hr, h⟩, And.right⟩
    · refine iff_of_false (fun e => hr ?_) fun h => hr h.1
      rw [e]; exact requestPath_rooted hwd hq

/-- `/etc/hosts/`, with its trailing `/`: a read of it is allowed exactly when it is clean. -/
theorem fileExtractor_read_iff_trailing :
    ∃ g, FileExtractor.extract (fun k => if k = "path" then some (.string "/etc/hosts/") else none) =
        some g ∧ (({} : Policy).evaluate (.fileSystem ⟨"/etc/hosts/", "read"⟩) g = true ↔
          "/etc/hosts/".toList.head? = some '/' ∧ cleanPath "/etc/hosts/" = "/etc/hosts/") :=
  fileExtractor_read_iff
    (show Config.string (fun k => if k = "path" then some (.string "/etc/hosts/") else none)
      "path" = some "/etc/hosts/" from rfl) (by decide) (by decide) {} rfl (.inl rfl)

/-- Every glob matches its own text: `*` and `**` match the stars themselves. -/
lemma globMatch_self : ∀ p : List Char, globMatch p p = true
  | [] => rfl
  | c :: p => by
    by_cases hc : c = '*'
    · subst hc
      cases p with
      | nil => rfl
      | cons d p =>
        by_cases hd : d = '*'
        · subst hd
          simp only [globMatch, List.any_eq_true]
          exact ⟨p, (List.mem_tails _ _).mpr ⟨['*', '*'], rfl⟩, globMatch_self p⟩
        · rw [globMatch.eq_3 _ _ (fun _ h => hd (List.cons.inj h).1), List.any_eq_true]
          exact ⟨d :: p, by simp [nonSepTails], globMatch_self (d :: p)⟩
    · rw [globMatch.eq_5 _ _ _ _ (fun _ h => absurd h hc) hc]
      simp [globMatch_self p]

/-- A non-empty `run` adds `/bin/sh` and the text's first field after the direct command. -/
lemma CommandExtractor.extract_run {config : Config} {run : String}
    (hrun : config.string "run" = some run) (hne : run ≠ "") : ∃ direct,
      CommandExtractor.extract config = some { exec := direct ++ "/bin/sh" :: (fields run).take 1 } := by
  refine ⟨((config.string "command").filter (· != "") <|>
    (config.string "cmd").filter (· != "")).toList, ?_⟩
  simp only [CommandExtractor.extract, hrun, ne_eq, hne, not_false_eq_true, if_true,
    List.length_append, List.length_cons]
  rw [if_neg (by omega)]

/-- **A `run` grants the shell.** For every configuration whose `run` is a non-empty string,
`CommandExtractor` returns a grant set rated critical, under which every policy allows
`/bin/sh`, whatever the text runs, and the text's first field. -/
theorem commandExtractor_shell {config : Config} {run : String}
    (hrun : config.string "run" = some run) (hne : run ≠ "") :
    ∃ g, CommandExtractor.extract config = some g ∧ (analyzeRisk g).level = .critical ∧
      ∀ p : Policy, p.evaluate (.exec ⟨"/bin/sh"⟩) g = true ∧
        ∀ w ∈ (fields run).head?, p.evaluate (.exec ⟨w⟩) g = true := by
  obtain ⟨direct, hx⟩ := CommandExtractor.extract_run hrun hne
  have hallow : ∀ w ∈ direct ++ "/bin/sh" :: (fields run).take 1, ∀ p : Policy,
      p.evaluate (.exec ⟨w⟩) { exec := direct ++ "/bin/sh" :: (fields run).take 1 } = true :=
    fun w hw p => List.any_eq_true.mpr ⟨w, hw, globMatch_self _⟩
  refine ⟨_, hx, RiskLevel.rank_inj.mp ?_, fun p => ⟨hallow _ (by simp) p, fun w hw => ?_⟩⟩
  · rw [analyzeRisk_rank, riskRank_commandExtractor hx]; rfl
  · refine hallow w ?_ p
    cases hf : fields run with
    | nil => simp [hf] at hw
    | cons v vs => simp_all

/-- `run: make test` grants `/bin/sh` and `make`. -/
theorem commandExtractor_shell_make :
    ∃ g, CommandExtractor.extract (fun k => if k = "run" then some (.string "make test") else none) =
        some g ∧ (analyzeRisk g).level = .critical ∧
      ∀ p : Policy, p.evaluate (.exec ⟨"/bin/sh"⟩) g = true ∧
        ∀ w ∈ (fields "make test").head?, p.evaluate (.exec ⟨w⟩) g = true :=
  commandExtractor_shell rfl (by decide)

end RegletHost
