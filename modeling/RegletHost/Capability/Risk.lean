import RegletHost.Gatekeeper.Prompt

/-!
`AnalyzeRisk` (`src/capability/risk.go`): the risk factors of a grant set and its
overall level, which the gatekeeper passes to `evaluateWithSecurityLevel`.

* `analyzeRisk`: the passes over the network rules, the filesystem rules, the exec commands
  and the environment variables, each adding factors through `addFactor`, which appends a
  factor above `RiskNone` and raises the level when the factor's is higher.
* `riskRank`: the level read off the grant set, the highest of the ranks of its rules.
* `analyzeRisk_level` (**the level is the highest factor's**): the report's level is the
  highest level among its factors, none of which is `RiskNone`, and it is `riskRank`.
* `analyzeRisk_none_denies` (**no risk, no access but key-value**): under every policy, a
  grant set of level `RiskNone` allows no network, filesystem, environment or exec request;
  `AnalyzeRisk` never reads the key-value rules.
* `analyzeRisk_merge_deduplicate`: the level of a merged set is the higher of the two
  levels, and deduplicating a set keeps its level.
-/

namespace RegletHost

/-- `RiskLevel`: `RiskNone` to `RiskCritical`. -/
inductive RiskLevel
  | none
  | low
  | medium
  | high
  | critical
  deriving DecidableEq, Repr

/-- The integer of a level, `iota` in the order of the constants; Go compares levels by it. -/
def RiskLevel.rank : RiskLevel → Nat
  | .none => 0
  | .low => 1
  | .medium => 2
  | .high => 3
  | .critical => 4

/-- `RiskFactor`. -/
structure RiskFactor where
  description : String
  rule : String
  level : RiskLevel
  deriving DecidableEq, Repr

/-- `RiskReport`. -/
structure RiskReport where
  riskFactors : List RiskFactor := []
  level : RiskLevel := .none
  deriving DecidableEq, Repr

/-- `addFactor`: a factor above `RiskNone` is appended, and raises the level when higher. -/
def RiskReport.addFactor (report : RiskReport) (level : RiskLevel) (desc rule : String) :
    RiskReport :=
  if level.rank > RiskLevel.none.rank then
    { riskFactors := report.riskFactors ++ [⟨desc, rule, level⟩],
      level := if level.rank > report.level.rank then level else report.level }
  else report

/-- A host pattern of unrestricted network access. -/
def isWildcardHost (h : String) : Bool := h == "*" || h == "0.0.0.0"

/-- The factor of a network rule: critical with a wildcard host, medium otherwise. -/
def networkFactor (report : RiskReport) (rule : NetworkRule) : RiskReport :=
  let ruleStr := "Network: " ++ fmtList rule.hosts ++ ":" ++ fmtList rule.ports
  if rule.hosts.any isWildcardHost then
    report.addFactor .critical "Unrestricted network access" ruleStr
  else report.addFactor .medium "Outbound network access" ruleStr

/-- The factors of a filesystem rule: high for writes, then medium for reads. -/
def fsFactor (report : RiskReport) (rule : FileSystemRule) : RiskReport :=
  let report :=
    if rule.write.length > 0 then
      report.addFactor .high "Filesystem write access" ("FS Write: " ++ fmtList rule.write)
    else report
  if rule.read.length > 0 then
    report.addFactor .medium "Filesystem read access" ("FS Read: " ++ fmtList rule.read)
  else report

/-- `AnalyzeRisk`; a nil grant set and a nil class are the empty ones. -/
def analyzeRisk (grants : GrantSet) : RiskReport :=
  let report := grants.network.foldl networkFactor {}
  let report := grants.fs.foldl fsFactor report
  let report :=
    if grants.exec.length > 0 then
      report.addFactor .critical "Arbitrary command execution" ("Exec: " ++ fmtList grants.exec)
    else report
  if grants.env.length > 0 then
    report.addFactor .low "Environment variable access" ("Env: " ++ fmtList grants.env)
  else report


/-! ### The level -/

/-- Levels are compared by their integers, which tell them apart. -/
lemma RiskLevel.rank_inj {a b : RiskLevel} : a.rank = b.rank ↔ a = b := by
  cases a <;> cases b <;> simp [RiskLevel.rank]

/-- The highest of a list of ranks, `0` for none. -/
def maxRank (l : List Nat) : Nat := l.foldr max 0

@[simp] lemma maxRank_nil : maxRank [] = 0 := rfl

@[simp] lemma maxRank_cons (x : Nat) (l : List Nat) : maxRank (x :: l) = max x (maxRank l) := rfl

@[simp] lemma maxRank_append (l l' : List Nat) :
    maxRank (l ++ l') = max (maxRank l) (maxRank l') := by
  induction l with
  | nil => simp
  | cons x l ih => simp only [List.cons_append, maxRank_cons, ih]; omega

lemma le_maxRank {l : List Nat} {x : Nat} (h : x ∈ l) : x ≤ maxRank l := by
  obtain ⟨s, t, rfl⟩ := List.append_of_mem h
  simp

lemma maxRank_le {l : List Nat} {b : Nat} (h : ∀ x ∈ l, x ≤ b) : maxRank l ≤ b := by
  induction l with
  | nil => exact Nat.zero_le _
  | cons x l ih => simpa using ⟨h x (List.mem_cons_self _ _), ih fun y hy => h y (by simp [hy])⟩

/-- Lists with the same members have the same highest rank. -/
lemma maxRank_congr {l l' : List Nat} (h : ∀ x, x ∈ l ↔ x ∈ l') : maxRank l = maxRank l' :=
  le_antisymm (maxRank_le fun _ hx => le_maxRank ((h _).mp hx))
    (maxRank_le fun _ hx => le_maxRank ((h _).mpr hx))

@[simp] lemma maxRank_eq_zero {l : List Nat} : maxRank l = 0 ↔ ∀ x ∈ l, x = 0 := by
  induction l with
  | nil => simp
  | cons x l ih => simp [ih, Nat.max_eq_zero_iff]

/-- The rank of a network rule's factor. -/
def networkRank (rule : NetworkRule) : Nat := if rule.hosts.any isWildcardHost then 4 else 2

/-- The highest rank of a filesystem rule's factors, `0` for none. -/
def fsRank (rule : FileSystemRule) : Nat :=
  max (if rule.write.length > 0 then 3 else 0) (if rule.read.length > 0 then 2 else 0)

/-- The level a grant set has: the highest rank among its network rules, its filesystem
rules, the exec commands and the environment variables. -/
def riskRank (g : GrantSet) : Nat :=
  max (max (maxRank (g.network.map networkRank)) (maxRank (g.fs.map fsRank)))
    (max (if g.exec.length > 0 then 4 else 0) (if g.env.length > 0 then 1 else 0))

/-- The factors a report holds are above `RiskNone`, and its level is the highest of them. -/
def RiskReport.Wf (report : RiskReport) : Prop :=
  (∀ f ∈ report.riskFactors, RiskLevel.none.rank < f.level.rank) ∧
    report.level.rank = maxRank (report.riskFactors.map (·.level.rank))

@[simp] lemma RiskReport.addFactor_rank (report : RiskReport) (level : RiskLevel)
    (desc rule : String) :
    (report.addFactor level desc rule).level.rank = max report.level.rank level.rank := by
  unfold addFactor
  split_ifs <;> simp only [RiskLevel.rank] at * <;> omega

lemma RiskReport.addFactor_wf {report : RiskReport} (h : report.Wf) (level : RiskLevel)
    (desc rule : String) : (report.addFactor level desc rule).Wf := by
  have hrank := report.addFactor_rank level desc rule
  unfold addFactor at hrank ⊢
  by_cases hl : level.rank > RiskLevel.none.rank
  · rw [if_pos hl] at hrank ⊢
    refine ⟨fun f hf => ?_, ?_⟩
    · rcases List.mem_append.mp hf with hf | hf
      · exact h.1 f hf
      · rw [List.mem_singleton.mp hf]; exact hl
    · simp only [hrank, List.map_append, List.map_cons, List.map_nil, maxRank_append,
        maxRank_cons, maxRank_nil, ← h.2]
      omega
  · rw [if_neg hl]; exact h

/-- `if cond { addFactor(...) }`, the form every pass of `AnalyzeRisk` takes. -/
lemma RiskReport.addFactorIf_wf {report : RiskReport} (h : report.Wf) (c : Prop) [Decidable c]
    (level : RiskLevel) (desc rule : String) :
    (if c then report.addFactor level desc rule else report).Wf := by
  split_ifs; exacts [addFactor_wf h _ _ _, h]

lemma RiskReport.addFactorIf_rank (report : RiskReport) (c : Prop) [Decidable c]
    (level : RiskLevel) (desc rule : String) :
    (if c then report.addFactor level desc rule else report).level.rank =
      max report.level.rank (if c then level.rank else 0) := by
  split_ifs <;> simp

lemma networkFactor_wf {report : RiskReport} (h : report.Wf) (rule : NetworkRule) :
    (networkFactor report rule).Wf := by
  unfold networkFactor; split_ifs <;> exact RiskReport.addFactor_wf h _ _ _

lemma fsFactor_wf {report : RiskReport} (h : report.Wf) (rule : FileSystemRule) :
    (fsFactor report rule).Wf :=
  RiskReport.addFactorIf_wf (RiskReport.addFactorIf_wf h _ _ _ _) _ _ _ _

lemma networkFactor_rank (report : RiskReport) (rule : NetworkRule) :
    (networkFactor report rule).level.rank = max report.level.rank (networkRank rule) := by
  unfold networkFactor networkRank; split_ifs <;> exact RiskReport.addFactor_rank _ _ _ _

lemma fsFactor_rank (report : RiskReport) (rule : FileSystemRule) :
    (fsFactor report rule).level.rank = max report.level.rank (fsRank rule) := by
  simp only [fsFactor, fsRank, RiskReport.addFactorIf_rank]
  simp only [RiskLevel.rank]
  omega

/-- A pass over a list keeps a report well formed when each step does. -/
lemma foldl_wf {α : Type} {step : RiskReport → α → RiskReport}
    (hstep : ∀ {r : RiskReport}, r.Wf → ∀ a, (step r a).Wf) (l : List α) :
    ∀ {r : RiskReport}, r.Wf → (l.foldl step r).Wf := by
  induction l with
  | nil => exact id
  | cons a l ih => exact fun h => ih (hstep h a)

/-- A pass over a list raises the level to the highest rank of its steps. -/
lemma foldl_rank {α : Type} {step : RiskReport → α → RiskReport} {rank : α → Nat}
    (hstep : ∀ r a, (step r a).level.rank = max r.level.rank (rank a)) (l : List α) :
    ∀ r, (l.foldl step r).level.rank = max r.level.rank (maxRank (l.map rank)) := by
  induction l with
  | nil => simp
  | cons a l ih => intro r; rw [List.foldl_cons, ih, hstep, List.map_cons, maxRank_cons]; omega

lemma analyzeRisk_wf (g : GrantSet) : (analyzeRisk g).Wf :=
  have h₀ : RiskReport.Wf {} := ⟨fun f hf => absurd hf (List.not_mem_nil f), rfl⟩
  RiskReport.addFactorIf_wf (RiskReport.addFactorIf_wf
    (foldl_wf fsFactor_wf g.fs (foldl_wf networkFactor_wf g.network h₀)) _ _ _ _) _ _ _ _

lemma analyzeRisk_rank (g : GrantSet) : (analyzeRisk g).level.rank = riskRank g := by
  simp only [analyzeRisk, riskRank, RiskReport.addFactorIf_rank,
    foldl_rank fsFactor_rank, foldl_rank networkFactor_rank]
  simp only [RiskLevel.rank]
  omega

/-- **The level is the highest factor's.** For every grant set, each factor of the report is
above `RiskNone`, the report's level is the highest level among its factors, and it is the
highest rank among the set's rules, exec commands and environment variables. -/
theorem analyzeRisk_level (g : GrantSet) :
    (∀ f ∈ (analyzeRisk g).riskFactors, RiskLevel.none.rank < f.level.rank) ∧
      (analyzeRisk g).level.rank = maxRank ((analyzeRisk g).riskFactors.map (·.level.rank)) ∧
      (analyzeRisk g).level.rank = riskRank g :=
  ⟨(analyzeRisk_wf g).1, (analyzeRisk_wf g).2, analyzeRisk_rank g⟩

/-! ### What the level says about the grants -/

lemma networkRank_pos (rule : NetworkRule) : 0 < networkRank rule := by
  unfold networkRank; split_ifs <;> decide

lemma fsRank_eq_zero {rule : FileSystemRule} :
    fsRank rule = 0 ↔ rule.read = [] ∧ rule.write = [] := by
  rw [← List.length_eq_zero, ← List.length_eq_zero, fsRank]
  split_ifs <;> omega

lemma maxRank_network_eq_zero {rs : List NetworkRule} :
    maxRank (rs.map networkRank) = 0 ↔ rs = [] := by
  cases rs with
  | nil => simp
  | cons r rs =>
    exact iff_of_false (fun h => (networkRank_pos r).ne' (Nat.max_eq_zero_iff.mp h).1)
      (List.cons_ne_nil r rs)

lemma maxRank_fs_eq_zero {rs : List FileSystemRule} :
    maxRank (rs.map fsRank) = 0 ↔ ∀ rule ∈ rs, rule.read = [] ∧ rule.write = [] := by
  simp [fsRank_eq_zero]

lemma ite_length_eq_zero {α : Type} {l : List α} {k : Nat} (hk : 0 < k) :
    (if l.length > 0 then k else 0) = 0 ↔ l = [] := by
  rw [← List.length_eq_zero]; split_ifs <;> omega

/-- Level `RiskNone` means no network rule, no filesystem pattern, no exec command and no
environment variable. -/
lemma riskRank_eq_zero {g : GrantSet} : riskRank g = 0 ↔
    g.network = [] ∧ (∀ rule ∈ g.fs, rule.read = [] ∧ rule.write = []) ∧ g.exec = [] ∧
      g.env = [] := by
  simp only [riskRank, Nat.max_eq_zero_iff, maxRank_network_eq_zero, maxRank_fs_eq_zero,
    ite_length_eq_zero (Nat.succ_pos _), and_assoc]

lemma fsPatterns_eq_nil {g : GrantSet} (h : ∀ rule ∈ g.fs, rule.read = [] ∧ rule.write = [])
    (op : String) : fsPatterns op g = [] :=
  List.flatMap_eq_nil_iff.mpr fun rule hr => by
    obtain ⟨hread, hwrite⟩ := h rule hr
    simp only [rulePatterns, hread, hwrite, ite_self]

/-- **No risk, no access but key-value.** Under every policy, a grant set whose report has
level `RiskNone` allows no network, filesystem, environment or exec request: `AnalyzeRisk`
rates every such grant above `RiskNone`, and never reads the key-value rules. -/
theorem analyzeRisk_none_denies (g : GrantSet) (h : (analyzeRisk g).level = .none)
    (p : Policy) (req : Request) (hkv : req.isKeyValue = false) : p.evaluate req g = false := by
  have h₀ : riskRank g = 0 := by rw [← analyzeRisk_rank, h]; rfl
  obtain ⟨hn, hf, hx, he⟩ := riskRank_eq_zero.mp h₀
  cases req with
  | network r => simp [Policy.evaluate, evaluateNetwork, hn]
  | fileSystem r =>
    simp only [Policy.evaluate, Policy.evaluateFileSystem, fsPatterns_eq_nil hf]
    split <;> rfl
  | environment r => simp [Policy.evaluate, evaluateEnvironment, he]
  | exec r => simp [Policy.evaluate, evaluateExec, hx]
  | keyValue r => simp [Request.isKeyValue] at hkv

/-- A grant set of key-value rules and an empty filesystem rule is rated `RiskNone`, and a
read of `/etc/hosts` is denied under it. -/
theorem analyzeRisk_none_denies_read :
    (analyzeRisk { fs := [⟨[], []⟩], kv := [⟨["config"], "read"⟩] }).level = .none ∧
      ({} : Policy).evaluate (.fileSystem ⟨"/etc/hosts", "read"⟩)
        { fs := [⟨[], []⟩], kv := [⟨["config"], "read"⟩] } = false :=
  ⟨rfl, analyzeRisk_none_denies { fs := [⟨[], []⟩], kv := [⟨["config"], "read"⟩] } rfl {} _ rfl⟩

/-! ### Merging and deduplicating -/

lemma ite_length_append {α : Type} (l l' : List α) (k : Nat) :
    (if (l ++ l').length > 0 then k else 0) =
      max (if l.length > 0 then k else 0) (if l'.length > 0 then k else 0) := by
  rw [List.length_append]; split_ifs <;> omega

lemma riskRank_merge (g h : GrantSet) : riskRank (g.merge h) = max (riskRank g) (riskRank h) := by
  simp only [riskRank, GrantSet.merge_network, GrantSet.merge_fs, GrantSet.merge_exec,
    GrantSet.merge_env, List.map_append, maxRank_append, ite_length_append]
  ac_rfl

/-- Network deduplication keeps the host lists of the rules. -/
lemma hosts_insertNetworkRule (acc : List NetworkRule) (r : NetworkRule) (hs : List String) :
    hs ∈ (insertNetworkRule acc r).map (·.hosts) ↔ hs ∈ acc.map (·.hosts) ∨ hs = r.hosts := by
  unfold insertNetworkRule
  split
  case isTrue hany =>
    obtain ⟨a, ha, hha⟩ := List.any_eq_true.mp hany
    have hkeep : ∀ b : NetworkRule, (if b.hosts = r.hosts then
        { b with ports := unionPorts b.ports r.ports } else b).hosts = b.hosts := by
      intro b; split <;> rfl
    simp only [List.map_map, Function.comp_def, hkeep]
    exact ⟨.inl, fun h => h.elim id fun e => List.mem_map.mpr ⟨a, ha, e ▸ of_decide_eq_true hha⟩⟩
  case isFalse => simp

lemma hosts_foldl_insert (hs : List String) :
    ∀ (rs acc : List NetworkRule), hs ∈ (rs.foldl insertNetworkRule acc).map (·.hosts) ↔
      hs ∈ acc.map (·.hosts) ∨ hs ∈ rs.map (·.hosts)
  | [], acc => by simp
  | r :: rs, acc => by
      rw [List.foldl_cons, hosts_foldl_insert hs rs, hosts_insertNetworkRule, List.map_cons,
        List.mem_cons]
      tauto

lemma maxRank_dedupNetwork (rs : List NetworkRule) :
    maxRank ((dedupNetwork rs).map networkRank) = maxRank (rs.map networkRank) := by
  have hrank : ∀ l : List NetworkRule, l.map networkRank =
      (l.map (·.hosts)).map fun hs => if hs.any isWildcardHost then 4 else 2 := by
    intro l; simp only [List.map_map]; rfl
  rw [hrank, hrank]
  refine maxRank_congr fun x => ?_
  simp only [List.mem_map (l := List.map _ _)]
  simp only [dedupNetwork, hosts_foldl_insert, List.map_nil, List.not_mem_nil, false_or]

lemma ite_length_dedupList {α : Type} [DecidableEq α] (l : List α) (k : Nat) :
    (if (dedupList l).length > 0 then k else 0) = if l.length > 0 then k else 0 := by
  simp only [gt_iff_lt, List.length_pos, ne_eq, List.eq_nil_iff_forall_not_mem, mem_dedupList]

lemma riskRank_deduplicate (g : GrantSet) : riskRank g.deduplicate = riskRank g := by
  simp only [riskRank, GrantSet.deduplicate_network, GrantSet.deduplicate_fs,
    GrantSet.deduplicate_exec, GrantSet.deduplicate_env, maxRank_dedupNetwork,
    ite_length_dedupList]
  congr 2
  exact maxRank_congr fun x => by simp only [List.mem_map, mem_dedupList]

/-- **Merging and deduplicating.** The level of a merged grant set is the higher of the two
levels, and deduplicating a grant set keeps its level. -/
theorem analyzeRisk_merge_deduplicate (g h : GrantSet) :
    (analyzeRisk (g.merge h)).level.rank =
        max (analyzeRisk g).level.rank (analyzeRisk h).level.rank ∧
      (analyzeRisk g.deduplicate).level = (analyzeRisk g).level := by
  refine ⟨by simp only [analyzeRisk_rank, riskRank_merge], RiskLevel.rank_inj.mp ?_⟩
  rw [analyzeRisk_rank, analyzeRisk_rank, riskRank_deduplicate]

end RegletHost
