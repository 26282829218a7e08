import RegletHost.Grant.GrantSet
import RegletHost.Policy.Match

/-!
The Policy Engine's decisions (spec §4.2) and the policy-aware difference of grant sets
(spec §3, *Difference*), both modelled from the spec: the engine is not in the sources and
the difference belongs to the ABI package.

* `evaluateNetwork`, `Policy.evaluateFileSystem`, `evaluateEnvironment`, `evaluateExec`,
  `evaluateKeyValue`, gathered in `Policy.evaluate`: the decision for each request kind.
  `Check…` makes the same decision and logs a denial, so the model has one function.
* `NetworkLe`, `FileSystemLe`, `EnvironmentLe`, `ExecLe`, `KeyValueLe`: one grant set
  allows, in a class, at least what another allows. `Policy.evaluate_mono` turns them into
  decisions.
* `GrantSet.difference`: the rules of `required` that `granted` does not cover, by the
  matchers' covering relations. `networkLe_merge_difference` and its siblings, gathered in
  `Policy.evaluate_merge_difference` (**soundness**): `granted` merged with the difference
  allows everything `required` allows, in every class.
* `Policy.evaluate_merge`, `Policy.evaluate_deduplicate`: a merged set allows what one of
  its parts allows, and deduplication keeps every decision.
* `GrantSet.Within`: every rule of one set is a rule of another; `GrantSet.Within.evaluate`:
  the first then allows no more than the second.
-/

namespace RegletHost

/-- A network request: host and port (`hostfunc.NetworkRequest`). -/
structure NetworkRequest where
  host : String
  port : Int
  deriving DecidableEq, Repr

/-- A filesystem request: path and operation (`hostfunc.FileSystemRequest`). -/
structure FileSystemRequest where
  path : String
  operation : String
  deriving DecidableEq, Repr

/-- An environment request (`hostfunc.EnvironmentRequest`); `name` is Go's `Variable`. -/
structure EnvironmentRequest where
  name : String
  deriving DecidableEq, Repr

/-- An exec request (`hostfunc.ExecCapabilityRequest`). -/
structure ExecCapabilityRequest where
  command : String
  deriving DecidableEq, Repr

/-- A key-value request: key and operation (`hostfunc.KeyValueRequest`). -/
structure KeyValueRequest where
  key : String
  operation : String
  deriving DecidableEq, Repr

/-- A runtime capability request (spec §3, *CapabilityRequest*). -/
inductive Request
  | network (r : NetworkRequest)
  | fileSystem (r : FileSystemRequest)
  | environment (r : EnvironmentRequest)
  | exec (r : ExecCapabilityRequest)
  | keyValue (r : KeyValueRequest)
  deriving DecidableEq, Repr

/-- Modelled from the spec: the configuration of `policy.NewPolicy`, absent from the
sources: the working directory for relative paths (`""` when none is configured) and, when
symbolic-link resolution is on, the filesystem's resolution of a cleaned path. -/
structure Policy where
  workingDirectory : String := ""
  symlinks : Option (String → String) := none

/-! ### Decisions -/

/-- A network rule allows a request when a host pattern and a port pattern match. -/
def ruleAllowsNetwork (req : NetworkRequest) (r : NetworkRule) : Bool :=
  r.hosts.any (matchHost · req.host) && r.ports.any (matchPort · req.port)

/-- Modelled from the spec: `EvaluateNetwork`, some rule allows the request. -/
def evaluateNetwork (req : NetworkRequest) (g : GrantSet) : Bool :=
  g.network.any (ruleAllowsNetwork req)

/-- The path patterns of a filesystem rule for an operation; other operations have none. -/
def rulePatterns (op : String) (r : FileSystemRule) : List String :=
  if op = "read" then r.read else if op = "write" then r.write else []

/-- The path patterns of a grant set for an operation. -/
def fsPatterns (op : String) (g : GrantSet) : List String := g.fs.flatMap (rulePatterns op)

/-- Modelled from the spec: `EvaluateEnvironment`, some pattern matches the name. -/
def evaluateEnvironment (req : EnvironmentRequest) (g : GrantSet) : Bool :=
  g.env.any (globMatch ·.toList req.name.toList)

/-- Modelled from the spec: `EvaluateExec`, some pattern matches the command. -/
def evaluateExec (req : ExecCapabilityRequest) (g : GrantSet) : Bool :=
  g.exec.any (globMatch ·.toList req.command.toList)

/-- A key-value rule allows a request when a key pattern matches and its operation allows
the requested one. -/
def ruleAllowsKeyValue (req : KeyValueRequest) (r : KeyValueRule) : Bool :=
  r.keys.any (globMatch ·.toList req.key.toList) && opAllows r.operation req.operation

/-- Modelled from the spec: `EvaluateKeyValue`. -/
def evaluateKeyValue (req : KeyValueRequest) (g : GrantSet) : Bool :=
  g.kv.any (ruleAllowsKeyValue req)

namespace Policy

/-- The cleaned absolute path of a request: relative paths are joined to the working
directory, and denied when none is configured. -/
def requestPath (p : Policy) (path : String) : Option String :=
  if path.toList.head? = some '/' then some (cleanPath path)
  else if p.workingDirectory = "" then none
  else some (cleanPath (p.workingDirectory ++ "/" ++ path))

/-- Modelled from the spec: `EvaluateFileSystem`. A pattern for the operation allows the
request when it matches the cleaned path and, with symbolic-link resolution on, also the
real path. -/
def evaluateFileSystem (p : Policy) (req : FileSystemRequest) (g : GrantSet) : Bool :=
  match p.requestPath req.path with
  | none => false
  | some path => (fsPatterns req.operation g).any fun pat =>
      matchPath pat path &&
        match p.symlinks with
        | none => true
        | some real => matchPath pat (real path)

/-- The decision for any request; unknown filesystem operations are denied. -/
def evaluate (p : Policy) : Request → GrantSet → Bool
  | .network r, g => evaluateNetwork r g
  | .fileSystem r, g => p.evaluateFileSystem r g
  | .environment r, g => evaluateEnvironment r g
  | .exec r, g => evaluateExec r g
  | .keyValue r, g => evaluateKeyValue r g

end Policy

/-! ### Allowing at least as much -/

/-- `b` allows every network request `a` allows. -/
def NetworkLe (a b : GrantSet) : Prop :=
  ∀ req, evaluateNetwork req a = true → evaluateNetwork req b = true

/-- Each pattern of `a` for the operation is dominated by one of `b`: it matches every path
the former matches. -/
def PathLe (op : String) (a b : GrantSet) : Prop :=
  ∀ pat ∈ fsPatterns op a, ∃ pat' ∈ fsPatterns op b, ∀ x, matchPath pat x = true → matchPath pat' x = true

/-- `b` allows every filesystem request `a` allows, under every policy. -/
def FileSystemLe (a b : GrantSet) : Prop := ∀ op, PathLe op a b

/-- `b` allows every environment variable `a` allows. -/
def EnvironmentLe (a b : GrantSet) : Prop :=
  ∀ req, evaluateEnvironment req a = true → evaluateEnvironment req b = true

/-- `b` allows every command `a` allows. -/
def ExecLe (a b : GrantSet) : Prop :=
  ∀ req, evaluateExec req a = true → evaluateExec req b = true

/-- `b` allows every key-value request `a` allows. -/
def KeyValueLe (a b : GrantSet) : Prop :=
  ∀ req, evaluateKeyValue req a = true → evaluateKeyValue req b = true

lemma Policy.evaluateFileSystem_mono {a b : GrantSet} (h : FileSystemLe a b) (p : Policy)
    (req : FileSystemRequest) (ha : p.evaluateFileSystem req a = true) :
    p.evaluateFileSystem req b = true := by
  unfold Policy.evaluateFileSystem at ha ⊢
  split at ha
  · exact ha
  · obtain ⟨pat, hpat, hm⟩ := List.any_eq_true.mp ha
    obtain ⟨pat', hpat', hdom⟩ := h _ pat hpat
    refine List.any_eq_true.mpr ⟨pat', hpat', ?_⟩
    rw [Bool.and_eq_true] at hm ⊢
    refine ⟨hdom _ hm.1, ?_⟩
    split at hm <;> simp_all

/-- Allowing at least as much in each class gives at least the decisions. -/
lemma Policy.evaluate_mono {a b : GrantSet} (hn : NetworkLe a b) (hf : FileSystemLe a b)
    (he : EnvironmentLe a b) (hx : ExecLe a b) (hk : KeyValueLe a b) (p : Policy) :
    ∀ req, p.evaluate req a = true → p.evaluate req b = true
  | .network r => hn r
  | .fileSystem r => evaluateFileSystem_mono hf p r
  | .environment r => he r
  | .exec r => hx r
  | .keyValue r => hk r

/-! ### Merge and deduplication -/

@[simp] lemma evaluateNetwork_merge (req : NetworkRequest) (a b : GrantSet) :
    evaluateNetwork req (a.merge b) = (evaluateNetwork req a || evaluateNetwork req b) := by
  simp [evaluateNetwork]

@[simp] lemma fsPatterns_merge (op : String) (a b : GrantSet) :
    fsPatterns op (a.merge b) = fsPatterns op a ++ fsPatterns op b := by
  simp [fsPatterns]

@[simp] lemma evaluateEnvironment_merge (req : EnvironmentRequest) (a b : GrantSet) :
    evaluateEnvironment req (a.merge b) = (evaluateEnvironment req a || evaluateEnvironment req b) := by
  simp [evaluateEnvironment]

@[simp] lemma evaluateExec_merge (req : ExecCapabilityRequest) (a b : GrantSet) :
    evaluateExec req (a.merge b) = (evaluateExec req a || evaluateExec req b) := by
  simp [evaluateExec]

@[simp] lemma evaluateKeyValue_merge (req : KeyValueRequest) (a b : GrantSet) :
    evaluateKeyValue req (a.merge b) = (evaluateKeyValue req a || evaluateKeyValue req b) := by
  simp [evaluateKeyValue]

/-- A network decision depends only on the host/port pairs of the rules. -/
lemma evaluateNetwork_iff_grantsPair (req : NetworkRequest) (g : GrantSet) :
    evaluateNetwork req g = true ↔
      ∃ h p, GrantsPair g.network h p ∧ matchHost h req.host = true ∧
        matchPort p req.port = true := by
  simp only [evaluateNetwork, ruleAllowsNetwork, List.any_eq_true, Bool.and_eq_true, GrantsPair]
  constructor
  · rintro ⟨r, hr, ⟨h, hh, hmh⟩, ⟨p, hp, hmp⟩⟩
    exact ⟨h, p, ⟨r, hr, hh, hp⟩, hmh, hmp⟩
  · rintro ⟨h, p, ⟨r, hr, hh, hp⟩, hmh, hmp⟩
    exact ⟨r, hr, ⟨h, hh, hmh⟩, ⟨p, hp, hmp⟩⟩

@[simp] lemma evaluateNetwork_deduplicate (req : NetworkRequest) (g : GrantSet) :
    evaluateNetwork req g.deduplicate = evaluateNetwork req g := by
  rw [Bool.eq_iff_iff, evaluateNetwork_iff_grantsPair, evaluateNetwork_iff_grantsPair]
  simp

lemma mem_fsPatterns (op x : String) (g : GrantSet) :
    x ∈ fsPatterns op g ↔ ∃ r ∈ g.fs, x ∈ rulePatterns op r := by
  simp [fsPatterns]

lemma mem_fsPatterns_deduplicate (op x : String) (g : GrantSet) :
    x ∈ fsPatterns op g.deduplicate ↔ x ∈ fsPatterns op g := by
  simp [mem_fsPatterns]

@[simp] lemma evaluateEnvironment_deduplicate (req : EnvironmentRequest) (g : GrantSet) :
    evaluateEnvironment req g.deduplicate = evaluateEnvironment req g := by
  rw [Bool.eq_iff_iff]
  simp [evaluateEnvironment, List.any_eq_true]

@[simp] lemma evaluateExec_deduplicate (req : ExecCapabilityRequest) (g : GrantSet) :
    evaluateExec req g.deduplicate = evaluateExec req g := by
  rw [Bool.eq_iff_iff]
  simp [evaluateExec, List.any_eq_true]

@[simp] lemma evaluateKeyValue_deduplicate (req : KeyValueRequest) (g : GrantSet) :
    evaluateKeyValue req g.deduplicate = evaluateKeyValue req g := by
  rw [Bool.eq_iff_iff]
  simp [evaluateKeyValue, List.any_eq_true]

/-! ### The policy-aware difference -/

namespace GrantSet

/-- Every host/port pair of the rule is covered by a single rule of `g`. -/
def networkRuleCovered (g : GrantSet) (r : NetworkRule) : Bool :=
  r.hosts.all fun h => r.ports.all fun p =>
    g.network.any fun s => s.hosts.any (hostCovers · h) && s.ports.any (portCovers · p)

/-- Every read and write pattern of the rule is covered by one of `g` for its operation. -/
def fsRuleCovered (g : GrantSet) (r : FileSystemRule) : Bool :=
  r.read.all (fun x => (fsPatterns "read" g).any (pathCovers · x)) &&
    r.write.all (fun x => (fsPatterns "write" g).any (pathCovers · x))

/-- Every key pattern of the rule is covered by a rule of `g` whose operation covers it. -/
def kvRuleCovered (g : GrantSet) (r : KeyValueRule) : Bool :=
  r.keys.all fun k => g.kv.any fun s => s.keys.any (globCovers · k) && opCovers s.operation r.operation

/-- Modelled from the spec: `Difference(required, granted)`, the rules of `required` that
`granted` does not already cover, judged by the matchers' semantics and not by string
equality. -/
def difference (required granted : GrantSet) : GrantSet where
  network := required.network.filter (!granted.networkRuleCovered ·)
  fs := required.fs.filter (!granted.fsRuleCovered ·)
  env := required.env.filter fun v => !granted.env.any (globCovers · v)
  exec := required.exec.filter fun c => !granted.exec.any (globCovers · c)
  kv := required.kv.filter (!granted.kvRuleCovered ·)

end GrantSet

open GrantSet in
/-- **Difference soundness, network**: what `required` allows, `granted` or the difference
allows. -/
lemma networkLe_merge_difference (required granted : GrantSet) :
    NetworkLe required (granted.merge (required.difference granted)) := by
  intro req h
  simp only [evaluateNetwork, List.any_eq_true] at h
  obtain ⟨r, hr, hallow⟩ := h
  rw [evaluateNetwork_merge, Bool.or_eq_true]
  by_cases hc : granted.networkRuleCovered r = true
  · left
    simp only [ruleAllowsNetwork, Bool.and_eq_true, List.any_eq_true] at hallow
    obtain ⟨⟨h, hh, hmh⟩, ⟨p, hp, hmp⟩⟩ := hallow
    have hcov := List.all_eq_true.mp (List.all_eq_true.mp hc h hh) p hp
    obtain ⟨s, hs, hsc⟩ := List.any_eq_true.mp hcov
    simp only [Bool.and_eq_true, List.any_eq_true] at hsc
    obtain ⟨⟨h', hh', hch⟩, ⟨p', hp', hcp⟩⟩ := hsc
    simp only [evaluateNetwork, ruleAllowsNetwork, List.any_eq_true, Bool.and_eq_true]
    exact ⟨s, hs, ⟨h', hh', matchHost_of_hostCovers hch hmh⟩,
      ⟨p', hp', matchPort_of_portCovers hcp hmp⟩⟩
  · right
    simp only [evaluateNetwork, List.any_eq_true]
    exact ⟨r, List.mem_filter.mpr ⟨hr, by simpa using hc⟩, hallow⟩

/-- A covered filesystem rule has each pattern covered by one of `g` for its operation. -/
lemma GrantSet.fsRuleCovered_patterns {g : GrantSet} {r : FileSystemRule}
    (hc : g.fsRuleCovered r = true) {op x : String} (hx : x ∈ rulePatterns op r) :
    ∃ pat' ∈ fsPatterns op g, pathCovers pat' x = true := by
  simp only [GrantSet.fsRuleCovered, Bool.and_eq_true, List.all_eq_true] at hc
  unfold rulePatterns at hx
  split_ifs at hx with h₁ h₂
  · exact List.any_eq_true.mp (h₁ ▸ hc.1 x hx)
  · exact List.any_eq_true.mp (h₂ ▸ hc.2 x hx)
  · simp at hx

open GrantSet in
/-- **Difference soundness, filesystem**. -/
lemma fileSystemLe_merge_difference (required granted : GrantSet) :
    FileSystemLe required (granted.merge (required.difference granted)) := by
  intro op pat hpat
  rw [fsPatterns_merge]
  obtain ⟨r, hr, hp⟩ := (mem_fsPatterns _ _ _).mp hpat
  by_cases hc : granted.fsRuleCovered r = true
  · obtain ⟨pat', hpat', hcov⟩ := fsRuleCovered_patterns hc hp
    exact ⟨pat', List.mem_append_left _ hpat', fun _ => matchPath_of_pathCovers hcov⟩
  · refine ⟨pat, List.mem_append_right _ ((mem_fsPatterns _ _ _).mpr ⟨r, ?_, hp⟩), fun _ h => h⟩
    exact List.mem_filter.mpr ⟨hr, by simpa using hc⟩

/-- A pattern list with one pattern covering or kept for each of `ps` matches what `ps`
matches. -/
lemma any_globMatch_of_covered {ps gs ds : List String} {x : List Char}
    (hds : ∀ p ∈ ps, gs.any (globCovers · p) = false → p ∈ ds)
    (h : ps.any (globMatch ·.toList x) = true) :
    (gs.any (globMatch ·.toList x) || ds.any (globMatch ·.toList x)) = true := by
  obtain ⟨p, hp, hm⟩ := List.any_eq_true.mp h
  rw [Bool.or_eq_true]
  cases hc : gs.any (globCovers · p)
  · exact .inr (List.any_eq_true.mpr ⟨p, hds p hp hc, hm⟩)
  · obtain ⟨g, hg, hcov⟩ := List.any_eq_true.mp hc
    exact .inl (List.any_eq_true.mpr ⟨g, hg, globMatch_of_globCovers hcov hm⟩)

open GrantSet in
/-- **Difference soundness, environment**. -/
lemma environmentLe_merge_difference (required granted : GrantSet) :
    EnvironmentLe required (granted.merge (required.difference granted)) := by
  intro req h
  rw [evaluateEnvironment_merge]
  exact any_globMatch_of_covered (fun p hp hc => List.mem_filter.mpr ⟨hp, by simp [hc]⟩) h

open GrantSet in
/-- **Difference soundness, exec**. -/
lemma execLe_merge_difference (required granted : GrantSet) :
    ExecLe required (granted.merge (required.difference granted)) := by
  intro req h
  rw [evaluateExec_merge]
  exact any_globMatch_of_covered (fun p hp hc => List.mem_filter.mpr ⟨hp, by simp [hc]⟩) h

open GrantSet in
/-- **Difference soundness, key-value**. -/
lemma keyValueLe_merge_difference (required granted : GrantSet) :
    KeyValueLe required (granted.merge (required.difference granted)) := by
  intro req h
  obtain ⟨r, hr, hallow⟩ := List.any_eq_true.mp h
  rw [evaluateKeyValue_merge, Bool.or_eq_true]
  by_cases hc : granted.kvRuleCovered r = true
  · left
    simp only [ruleAllowsKeyValue, Bool.and_eq_true, List.any_eq_true] at hallow
    obtain ⟨⟨k, hk, hmk⟩, hop⟩ := hallow
    obtain ⟨s, hs, hsc⟩ := List.any_eq_true.mp (List.all_eq_true.mp hc k hk)
    simp only [Bool.and_eq_true, List.any_eq_true] at hsc
    obtain ⟨⟨k', hk', hck⟩, hco⟩ := hsc
    refine List.any_eq_true.mpr ⟨s, hs, ?_⟩
    simp only [ruleAllowsKeyValue, Bool.and_eq_true, List.any_eq_true]
    exact ⟨⟨k', hk', globMatch_of_globCovers hck hmk⟩, opAllows_of_opCovers hco hop⟩
  · right
    exact List.any_eq_true.mpr ⟨r, List.mem_filter.mpr ⟨hr, by simpa using hc⟩, hallow⟩

/-! ### Decisions of merged and deduplicated sets -/

@[simp] lemma Policy.evaluateFileSystem_merge (p : Policy) (req : FileSystemRequest)
    (a b : GrantSet) :
    p.evaluateFileSystem req (a.merge b) =
      (p.evaluateFileSystem req a || p.evaluateFileSystem req b) := by
  unfold Policy.evaluateFileSystem
  split <;> simp

/-- A merged set allows what one of its parts allows. -/
@[simp] lemma Policy.evaluate_merge (p : Policy) (req : Request) (a b : GrantSet) :
    p.evaluate req (a.merge b) = (p.evaluate req a || p.evaluate req b) := by
  cases req <;> simp [Policy.evaluate]

@[simp] lemma Policy.evaluateFileSystem_deduplicate (p : Policy) (req : FileSystemRequest)
    (g : GrantSet) : p.evaluateFileSystem req g.deduplicate = p.evaluateFileSystem req g := by
  unfold Policy.evaluateFileSystem
  split
  · rfl
  · rw [Bool.eq_iff_iff]
    simp only [List.any_eq_true, mem_fsPatterns_deduplicate]

/-- Deduplication keeps every decision. -/
@[simp] lemma Policy.evaluate_deduplicate (p : Policy) (req : Request) (g : GrantSet) :
    p.evaluate req g.deduplicate = p.evaluate req g := by
  cases req <;> simp [Policy.evaluate]

/-- **Difference soundness**: what `required` allows, `granted` or the difference allows. -/
lemma Policy.evaluate_merge_difference (p : Policy) (req : Request) (required granted : GrantSet)
    (h : p.evaluate req required = true) :
    p.evaluate req (granted.merge (required.difference granted)) = true :=
  evaluate_mono (networkLe_merge_difference _ _) (fileSystemLe_merge_difference _ _)
    (environmentLe_merge_difference _ _) (execLe_merge_difference _ _)
    (keyValueLe_merge_difference _ _) p req h

/-- The empty set allows nothing. -/
@[simp] lemma Policy.evaluate_empty (p : Policy) (req : Request) : p.evaluate req {} = false := by
  cases req
  case fileSystem r =>
    simp only [evaluate, evaluateFileSystem]
    split <;> rfl
  all_goals rfl

/-- The key-value requests. -/
def Request.isKeyValue : Request → Bool
  | .keyValue _ => true
  | _ => false

/-- Only a key-value request reads the key-value rules. -/
lemma Policy.evaluate_eraseKeyValue (p : Policy) {req : Request} (h : req.isKeyValue = false)
    (g : GrantSet) : p.evaluate req { g with kv := [] } = p.evaluate req g := by
  cases req
  case keyValue => simp [Request.isKeyValue] at h
  all_goals rfl

/-! ### Rules within another set -/

/-- Every rule of `a` is one of `b`'s: its network, environment, exec and key-value rules,
and its filesystem patterns for each operation. -/
structure GrantSet.Within (a b : GrantSet) : Prop where
  network : a.network ⊆ b.network
  fs : ∀ op, fsPatterns op a ⊆ fsPatterns op b
  env : a.env ⊆ b.env
  exec : a.exec ⊆ b.exec
  kv : a.kv ⊆ b.kv

@[simp] lemma fsPatterns_mergeAll (op : String) (gs : List GrantSet) :
    fsPatterns op (GrantSet.mergeAll gs) = gs.flatMap (fsPatterns op) := by
  induction gs with
  | nil => rfl
  | cons g gs ih => simpa [fsPatterns] using ih

namespace GrantSet.Within

lemma refl (a : GrantSet) : a.Within a :=
  ⟨List.Subset.refl _, fun _ => List.Subset.refl _, List.Subset.refl _, List.Subset.refl _,
    List.Subset.refl _⟩

lemma trans {a b c : GrantSet} (h₁ : a.Within b) (h₂ : b.Within c) : a.Within c :=
  ⟨h₁.network.trans h₂.network, fun op => (h₁.fs op).trans (h₂.fs op), h₁.env.trans h₂.env,
    h₁.exec.trans h₂.exec, h₁.kv.trans h₂.kv⟩

lemma empty (b : GrantSet) : ({} : GrantSet).Within b :=
  ⟨List.nil_subset _, fun _ => List.nil_subset _, List.nil_subset _, List.nil_subset _,
    List.nil_subset _⟩

lemma merge_left (a b : GrantSet) : a.Within (a.merge b) := by
  constructor <;> simp

lemma merge_right (a b : GrantSet) : b.Within (a.merge b) := by
  constructor <;> simp

lemma merge {a b c : GrantSet} (ha : a.Within c) (hb : b.Within c) : (a.merge b).Within c := by
  constructor <;> simp [List.append_subset, ha.network, hb.network, ha.fs, hb.fs, ha.env, hb.env,
    ha.exec, hb.exec, ha.kv, hb.kv]

lemma mergeAll {gs : List GrantSet} {c : GrantSet} (h : ∀ g ∈ gs, g.Within c) :
    (GrantSet.mergeAll gs).Within c := by
  have flat : ∀ {α : Type} {f : GrantSet → List α} {l : List α}, (∀ g ∈ gs, f g ⊆ l) →
      gs.flatMap f ⊆ l := fun hf x hx => by
    obtain ⟨g, hg, hx⟩ := List.mem_flatMap.mp hx
    exact hf g hg hx
  exact ⟨flat fun g hg => (h g hg).network, fun op => by simpa using flat fun g hg => (h g hg).fs op,
    flat fun g hg => (h g hg).env, flat fun g hg => (h g hg).exec, flat fun g hg => (h g hg).kv⟩

lemma mem_mergeAll {g : GrantSet} {gs : List GrantSet} (h : g ∈ gs) :
    g.Within (GrantSet.mergeAll gs) := by
  have flat : ∀ {α : Type} (f : GrantSet → List α), f g ⊆ gs.flatMap f := fun _ _ hx =>
    List.mem_flatMap.mpr ⟨g, h, hx⟩
  exact ⟨flat _, fun op => by simpa using flat (fsPatterns op), flat _, flat _, flat _⟩

lemma difference (required granted : GrantSet) : (required.difference granted).Within required :=
  ⟨List.filter_subset' _, fun op x hx => by
    obtain ⟨r, hr, hx⟩ := (mem_fsPatterns _ _ _).mp hx
    exact (mem_fsPatterns _ _ _).mpr ⟨r, List.mem_of_mem_filter hr, hx⟩,
    List.filter_subset' _, List.filter_subset' _, List.filter_subset' _⟩

/-- A set within another allows no more, under every policy. -/
lemma evaluate {a b : GrantSet} (h : a.Within b) (p : Policy) (req : Request)
    (ha : p.evaluate req a = true) : p.evaluate req b = true := by
  have mono : ∀ {α : Type} {l₁ l₂ : List α} {f : α → Bool}, l₁ ⊆ l₂ → l₁.any f = true →
      l₂.any f = true := fun hs h₁ => by
    obtain ⟨x, hx, hf⟩ := List.any_eq_true.mp h₁
    exact List.any_eq_true.mpr ⟨x, hs hx, hf⟩
  cases req with
  | network r => exact mono h.network ha
  | fileSystem r =>
      simp only [Policy.evaluate, Policy.evaluateFileSystem] at ha ⊢
      split at ha
      · exact ha
      · exact mono (h.fs _) ha
  | environment r => exact mono h.env ha
  | exec r => exact mono h.exec ha
  | keyValue r => exact mono h.kv ha

end GrantSet.Within

end RegletHost
