import RegletHost.Policy.Evaluate

/-!
The gatekeeper's prompt loops (`src/capability/gatekeeper/gatekeeper.go`,
`evaluateWithSecurityLevel`, `promptForNetwork`, `promptForFS`, `promptForEnv`,
`promptForExec`, `promptForCapabilities`).

The four loops are one loop over prompt items, `Gatekeeper.promptEach`; each loop is
`promptEach` at its own items (`networkItem`, `fsItem`, `envItem`, `execItem`), which carry
the request, its description, its broadness test and the grant merged on approval, as the
code writes them. The prompter is the sequence of its answers, so every statement holds for
every sequence.

* `promptStep_cases`: the three outcomes of one prompt, the only lemma that opens
  `promptStep`; `promptEach_rel` carries any relation a step keeps through a whole loop.
* `PromptInv`: `newGrants` is the initial set merged with the grants of the granted
  requests, `shouldSave` says whether one of them was answered `always`, and an `always`
  answer came from the prompter. `promptStep_inv` and `promptEach_inv` carry it through a
  step and a whole loop.
* `promptEach_granted`, `promptEach_asked`: every granted request and every request put to
  the prompter is an item of the loop, and obeys the security level (`LevelOk`): under
  `strict` no broad request is put to the prompter or granted.
* `promptEach_ok`: a loop that ends without error has granted all its items, in order.
* `promptForCapabilities_eq`: the four loops run one after the other are the loop over
  `allItems`; `mem_allItems_within`, `allItems_cover`: the items' grants are rules of the
  missing set, and together they hold all its rules but the key-value ones.
-/

namespace RegletHost

/-- `SecurityLevel`. The code compares a level only with `strict` and `permissive`, so any
other string behaves as `standard`. -/
inductive SecurityLevel
  | strict
  | standard
  | permissive
  deriving DecidableEq, Repr

/-- One answer of `Prompter.PromptForCapability`: granted, always, and the error. -/
structure PromptAnswer where
  granted : Bool
  always : Bool
  err : Option String := none
  deriving DecidableEq, Repr

/-- The rule a prompt is about (`capability.Request.Rule`). -/
inductive PromptRule
  | network (rule : NetworkRule)
  | fs (rule : FileSystemRule)
  | env (v : String)
  | exec (cmd : String)
  deriving DecidableEq, Repr

/-- `capability.Request`. -/
structure CapRequest where
  kind : String
  rule : PromptRule
  description : String
  isBroad : Bool
  deriving DecidableEq, Repr

/-- A request `evaluateWithSecurityLevel` granted: the grant merged for it, whether the
prompter answered it, and whether the answer was `always`. -/
structure Granted where
  request : CapRequest
  grant : GrantSet
  prompted : Bool
  always : Bool
  deriving DecidableEq, Repr

/-- The prompter as `GrantCapabilities` uses it: whether it is interactive, its answer to
the `n`-th `PromptForCapability` call, and `FormatNonInteractiveError`'s text. -/
structure Prompter where
  interactive : Bool
  answers : Nat → PromptAnswer
  nonInteractiveError : GrantSet → String

/-- The grant store: the grants its file holds, and the error of `Load` when reading or
parsing the file fails. -/
structure GrantStore where
  persisted : GrantSet
  loadError : Option String := none

/-- `GrantStore.Load`. -/
def GrantStore.load (st : GrantStore) : Except String GrantSet :=
  match st.loadError with
  | some e => .error e
  | none => .ok st.persisted

/-- `Gatekeeper`: store, prompter and security level. -/
structure Gatekeeper where
  store : GrantStore
  prompter : Prompter
  securityLevel : SecurityLevel

/-- What the prompt loops thread through: `newGrants`, `shouldSave`, the requests put to the
prompter, and the requests granted. -/
structure PromptState where
  newGrants : GrantSet
  shouldSave : Bool := false
  asked : List CapRequest := []
  granted : List Granted := []

/-- The verdict of `evaluateWithSecurityLevel`: `(granted, always)` or the error, and whether
the prompter was asked. -/
structure Verdict where
  result : Except String (Bool × Bool)
  prompted : Bool

/-- `evaluateWithSecurityLevel`, with `answer` what the prompter replies if it is asked.
The risk factors only feed a log line. -/
def evaluateWithSecurityLevel (level : SecurityLevel) (answer : PromptAnswer)
    (req : CapRequest) : Verdict :=
  if req.isBroad && level = .strict then
    ⟨.error ("broad capability denied by strict security policy: " ++ req.description), false⟩
  else if level = .permissive then ⟨.ok (true, false), false⟩
  else
    ⟨match answer.err with
      | some e => .error e
      | none => .ok (answer.granted, answer.always), true⟩

/-- A prompt item: the request and the grant merged when it is granted. -/
abbrev PromptItem := CapRequest × GrantSet

/-- The state after a verdict: the request joins `asked` when the prompter was asked. -/
def PromptState.record (s : PromptState) (v : Verdict) (req : CapRequest) : PromptState :=
  if v.prompted then { s with asked := s.asked ++ [req] } else s

/-- The state after a granted request: its grant merged, an `always` noted. -/
def PromptState.grant (s : PromptState) (d : Granted) : PromptState :=
  { s with newGrants := s.newGrants.merge d.grant, shouldSave := s.shouldSave || d.always,
           granted := s.granted ++ [d] }

namespace PromptState

variable (s : PromptState) (v : Verdict) (req : CapRequest) (d : Granted)

@[simp] lemma record_newGrants : (s.record v req).newGrants = s.newGrants := by
  unfold record; split <;> rfl
@[simp] lemma record_shouldSave : (s.record v req).shouldSave = s.shouldSave := by
  unfold record; split <;> rfl
@[simp] lemma record_granted : (s.record v req).granted = s.granted := by
  unfold record; split <;> rfl
lemma record_asked :
    (s.record v req).asked = if v.prompted then s.asked ++ [req] else s.asked := by
  unfold record; split <;> rfl

@[simp] lemma grant_newGrants : (s.grant d).newGrants = s.newGrants.merge d.grant := rfl
@[simp] lemma grant_shouldSave : (s.grant d).shouldSave = (s.shouldSave || d.always) := rfl
@[simp] lemma grant_granted : (s.grant d).granted = s.granted ++ [d] := rfl
@[simp] lemma grant_asked : (s.grant d).asked = s.asked := rfl

end PromptState

namespace Gatekeeper

/-- The verdict on an item: the prompter's next answer is the one after those it gave. -/
def verdict (g : Gatekeeper) (item : PromptItem) (s : PromptState) : Verdict :=
  evaluateWithSecurityLevel g.securityLevel (g.prompter.answers s.asked.length) item.1

/-- One iteration of a prompt loop: evaluate the request, then merge its grant and note an
`always`, or stop with the evaluation's error or `capability denied by user`. -/
def promptStep (g : Gatekeeper) (item : PromptItem) (s : PromptState) :
    PromptState × Option String :=
  let v := g.verdict item s
  let s := s.record v item.1
  match v.result with
  | .error e => (s, some e)
  | .ok (true, always) => (s.grant ⟨item.1, item.2, v.prompted, always⟩, none)
  | .ok (false, _) => (s, some ("capability denied by user: " ++ item.1.description))

/-- The prompt loop over a list of items, stopping at the first error. -/
def promptEach (g : Gatekeeper) : List PromptItem → PromptState → PromptState × Option String
  | [], s => (s, none)
  | x :: xs, s =>
      match g.promptStep x s with
      | (s', none) => g.promptEach xs s'
      | (s', some e) => (s', some e)

end Gatekeeper

/-- `fmt`'s `%v` of a string slice: `[a b c]`. -/
def fmtList (l : List String) : String := "[" ++ " ".intercalate l ++ "]"

/-- The item of a network rule: broad only when it is exactly `[*]:[*]`. -/
def networkItem (rule : NetworkRule) : PromptItem :=
  (⟨"network", .network rule, "network " ++ fmtList rule.hosts ++ ":" ++ fmtList rule.ports,
    rule.hosts == ["*"] && rule.ports == ["*"]⟩, { network := [rule] })

/-- A path of a filesystem rule, with whether it is to be written. -/
abbrev FsPath := Bool × String

/-- The read paths, then the write paths, of a filesystem rule. -/
def fsPaths (rule : FileSystemRule) : List FsPath :=
  rule.read.map (false, ·) ++ rule.write.map (true, ·)

/-- The item of one path of a filesystem rule: broad when it is `/**` or `**`. -/
def fsItem : FsPath → PromptItem
  | (false, path) => (⟨"fs", .fs ⟨[path], []⟩, "fs read:" ++ path, path == "/**" || path == "**"⟩,
      { fs := [⟨[path], []⟩] })
  | (true, path) => (⟨"fs", .fs ⟨[], [path]⟩, "fs write:" ++ path, path == "/**" || path == "**"⟩,
      { fs := [⟨[], [path]⟩] })

/-- The item of an environment pattern: broad only when it is `*`. -/
def envItem (v : String) : PromptItem :=
  (⟨"env", .env v, "env " ++ v, v == "*"⟩, { env := [v] })

/-- The item of an exec pattern: broad when it is `**` or `*`. -/
def execItem (cmd : String) : PromptItem :=
  (⟨"exec", .exec cmd, "exec " ++ cmd, cmd == "**" || cmd == "*"⟩, { exec := [cmd] })

namespace Gatekeeper

/-- `promptForNetwork`. -/
def promptForNetwork (g : Gatekeeper) (missing : GrantSet) (s : PromptState) :
    PromptState × Option String :=
  g.promptEach (missing.network.map networkItem) s

/-- `promptForFS`: for each rule, its read paths, then its write paths. -/
def promptForFS (g : Gatekeeper) (missing : GrantSet) (s : PromptState) :
    PromptState × Option String :=
  g.promptEach ((missing.fs.flatMap fsPaths).map fsItem) s

/-- `promptForEnv`. -/
def promptForEnv (g : Gatekeeper) (missing : GrantSet) (s : PromptState) :
    PromptState × Option String :=
  g.promptEach (missing.env.map envItem) s

/-- `promptForExec`. -/
def promptForExec (g : Gatekeeper) (missing : GrantSet) (s : PromptState) :
    PromptState × Option String :=
  g.promptEach (missing.exec.map execItem) s

/-- `promptForCapabilities`: network, filesystem, environment, exec, stopping at the first
error. Key-value rules have no loop. -/
def promptForCapabilities (g : Gatekeeper) (missing : GrantSet) (s : PromptState) :
    PromptState × Option String :=
  match g.promptForNetwork missing s with
  | (s, some e) => (s, some e)
  | (s, none) =>
      match g.promptForFS missing s with
      | (s, some e) => (s, some e)
      | (s, none) =>
          match g.promptForEnv missing s with
          | (s, some e) => (s, some e)
          | (s, none) => g.promptForExec missing s

end Gatekeeper

/-- The items of all four loops, in prompting order. -/
def allItems (missing : GrantSet) : List PromptItem :=
  missing.network.map networkItem ++ (missing.fs.flatMap fsPaths).map fsItem ++
    missing.env.map envItem ++ missing.exec.map execItem

/-! ### The verdict -/

/-- The prompter is asked exactly when the level does not decide alone. -/
lemma evaluateWithSecurityLevel_prompted (level : SecurityLevel) (a : PromptAnswer)
    (req : CapRequest) :
    (evaluateWithSecurityLevel level a req).prompted = true ↔
      ¬(req.isBroad = true ∧ level = .strict) ∧ level ≠ .permissive := by
  unfold evaluateWithSecurityLevel
  split_ifs with h₁ h₂ <;> simp_all

/-- A grant never goes to a broad request under `strict`, and a grant the prompter did not
answer is never `always`. -/
lemma evaluateWithSecurityLevel_granted {level : SecurityLevel} {a : PromptAnswer}
    {req : CapRequest} {always : Bool}
    (h : (evaluateWithSecurityLevel level a req).result = .ok (true, always)) :
    ¬(req.isBroad = true ∧ level = .strict) ∧
      ((evaluateWithSecurityLevel level a req).prompted = false → always = false) := by
  unfold evaluateWithSecurityLevel at h ⊢
  split_ifs at h ⊢ <;> simp_all

namespace Gatekeeper

/-! ### The prompt loop -/

/-- What one step can do: stop with an error, having at most recorded the prompt, or grant
the item on a `granted` verdict. -/
lemma promptStep_cases (g : Gatekeeper) (item : PromptItem) (s : PromptState) :
    (∃ e, g.promptStep item s = (s.record (g.verdict item s) item.1, some e)) ∨
      ∃ always, (g.verdict item s).result = .ok (true, always) ∧
        g.promptStep item s = ((s.record (g.verdict item s) item.1).grant
          ⟨item.1, item.2, (g.verdict item s).prompted, always⟩, none) := by
  dsimp only [promptStep]
  split
  case h_1 e _ => exact .inl ⟨e, rfl⟩
  case h_2 always hv => exact .inr ⟨always, hv, rfl⟩
  case h_3 => exact .inl ⟨_, rfl⟩

lemma promptEach_append (g : Gatekeeper) (xs ys : List PromptItem) (s : PromptState) :
    g.promptEach (xs ++ ys) s =
      match g.promptEach xs s with
      | (s', none) => g.promptEach ys s'
      | (s', some e) => (s', some e) := by
  induction xs generalizing s with
  | nil => rfl
  | cons x xs ih =>
      simp only [List.cons_append, promptEach]
      rcases g.promptStep x s with ⟨s', _ | e⟩
      · exact ih s'
      · rfl

/-- The four loops one after the other are the loop over `allItems`. -/
lemma promptForCapabilities_eq (g : Gatekeeper) (missing : GrantSet) (s : PromptState) :
    g.promptForCapabilities missing s = g.promptEach (allItems missing) s := by
  simp only [promptForCapabilities, promptForNetwork, promptForFS, promptForEnv, promptForExec,
    allItems, List.append_assoc, promptEach_append]
  rcases g.promptEach (missing.network.map networkItem) s with ⟨s₁, _ | e⟩ <;> dsimp only
  rcases g.promptEach ((missing.fs.flatMap fsPaths).map fsItem) s₁ with ⟨s₂, _ | e⟩ <;> dsimp only
  rcases g.promptEach (missing.env.map envItem) s₂ with ⟨s₃, _ | e⟩ <;> rfl

/-- A reflexive and transitive relation that every step on an item of the loop establishes
holds between the loop's first and last states. -/
lemma promptEach_rel (g : Gatekeeper) (R : PromptState → PromptState → Prop)
    (refl : ∀ s, R s s) (trans : ∀ {s₁ s₂ s₃}, R s₁ s₂ → R s₂ s₃ → R s₁ s₃) :
    ∀ (xs : List PromptItem) (s : PromptState),
      (∀ x ∈ xs, ∀ s, R s (g.promptStep x s).1) → R s (g.promptEach xs s).1
  | [], s, _ => refl s
  | x :: xs, s, hstep => by
      have h₁ := hstep x (List.mem_cons_self x xs) s
      simp only [promptEach]
      rcases h : g.promptStep x s with ⟨s', _ | e⟩ <;> rw [h] at h₁
      · exact trans h₁ (promptEach_rel g R refl trans xs s' fun y hy => hstep y (.tail x hy))
      · exact h₁

/-- The invariant of the prompt loops from the initial grants `init`: `newGrants` is `init`
merged with the grants of the granted requests, `shouldSave` records an `always` among
them, and every `always` came from the prompter. -/
def PromptInv (init : GrantSet) (s : PromptState) : Prop :=
  s.newGrants = init.merge (GrantSet.mergeAll (s.granted.map (·.grant))) ∧
    s.shouldSave = s.granted.any (·.always) ∧
    ∀ d ∈ s.granted, d.always = true → d.prompted = true

lemma promptInv_init (init : GrantSet) : PromptInv init { newGrants := init } := by
  simp [PromptInv]

lemma promptStep_inv (g : Gatekeeper) (item : PromptItem) {init : GrantSet} {s : PromptState}
    (hs : PromptInv init s) : PromptInv init (g.promptStep item s).1 := by
  obtain ⟨hg, hsave, halw⟩ := hs
  rcases g.promptStep_cases item s with ⟨e, h⟩ | ⟨always, hv, h⟩ <;> rw [h]
  · exact ⟨by simpa using hg, by simpa using hsave, by simpa using halw⟩
  · have hpa : (g.verdict item s).prompted = false → always = false :=
      (evaluateWithSecurityLevel_granted hv).2
    refine ⟨by simp [hg, GrantSet.merge_mergeAll_append], by simp [hsave], ?_⟩
    simp only [PromptState.grant_granted, PromptState.record_granted, List.mem_append,
      List.mem_singleton]
    rintro d (hd | rfl)
    · exact halw d hd
    · intro ha
      by_contra hp
      simp [hpa (by simpa using hp)] at ha

lemma promptEach_inv (g : Gatekeeper) {init : GrantSet} (xs : List PromptItem)
    {s : PromptState} (hs : PromptInv init s) : PromptInv init (g.promptEach xs s).1 :=
  g.promptEach_rel (fun s s' => PromptInv init s → PromptInv init s') (fun _ => id)
    (fun h₁ h₂ => h₂ ∘ h₁) xs s (fun x _ _ => g.promptStep_inv x) hs

/-- What the loop adds to a list of its state, each step on an item of the loop adds with
property `P`. -/
lemma promptEach_mem {α : Type} (g : Gatekeeper) (f : PromptState → List α) (P : α → Prop)
    (xs : List PromptItem) (hstep : ∀ x ∈ xs, ∀ s, ∀ a ∈ f (g.promptStep x s).1, a ∈ f s ∨ P a)
    (s : PromptState) : ∀ a ∈ f (g.promptEach xs s).1, a ∈ f s ∨ P a :=
  g.promptEach_rel (fun s s' => ∀ a ∈ f s', a ∈ f s ∨ P a) (fun _ _ => .inl)
    (fun h₁₂ h₂₃ a ha => (h₂₃ a ha).elim (h₁₂ a) .inr) xs s hstep

/-- A granted request obeys the security level: the prompter answered it exactly when the
level is not `permissive`, and it is not broad under `strict`. -/
def LevelOk (level : SecurityLevel) (d : Granted) : Prop :=
  (d.prompted = true ↔ level ≠ .permissive) ∧ ¬(d.request.isBroad = true ∧ level = .strict)

/-- Every request the loop grants is one of its items and obeys the security level. -/
lemma promptEach_granted (g : Gatekeeper) (xs : List PromptItem) (s : PromptState) :
    ∀ d ∈ (g.promptEach xs s).1.granted,
      d ∈ s.granted ∨ ((d.request, d.grant) ∈ xs ∧ LevelOk g.securityLevel d) := by
  refine g.promptEach_mem (·.granted) _ xs (fun x hx s d hd => ?_) s
  rcases g.promptStep_cases x s with ⟨e, h⟩ | ⟨always, hv, h⟩ <;> rw [h] at hd
  · exact .inl (by simpa using hd)
  · simp only [PromptState.grant_granted, PromptState.record_granted, List.mem_append,
      List.mem_singleton] at hd
    rcases hd with hd | rfl
    · exact .inl hd
    · have hb := (evaluateWithSecurityLevel_granted hv).1
      refine .inr ⟨hx, ?_, hb⟩
      show (g.verdict x s).prompted = true ↔ _
      rw [verdict, evaluateWithSecurityLevel_prompted]
      exact and_iff_right hb

/-- Every request the loop puts to the prompter is one of its items, is not broad under
`strict`, and is never put under `permissive`. -/
lemma promptEach_asked (g : Gatekeeper) (xs : List PromptItem) (s : PromptState) :
    ∀ r ∈ (g.promptEach xs s).1.asked, r ∈ s.asked ∨
      (r ∈ xs.map Prod.fst ∧ ¬(r.isBroad = true ∧ g.securityLevel = .strict) ∧
        g.securityLevel ≠ .permissive) := by
  refine g.promptEach_mem (·.asked) _ xs (fun x hx s r hr => ?_) s
  have hr' : r ∈ (s.record (g.verdict x s) x.1).asked := by
    rcases g.promptStep_cases x s with ⟨e, h⟩ | ⟨always, -, h⟩ <;> rw [h] at hr
    · exact hr
    · simpa using hr
  rw [PromptState.record_asked] at hr'
  split_ifs at hr' with hp
  · rcases List.mem_append.mp hr' with hr' | hr'
    · exact .inl hr'
    · rw [List.mem_singleton] at hr'
      subst hr'
      exact .inr ⟨List.mem_map_of_mem _ hx, (evaluateWithSecurityLevel_prompted _ _ _).mp hp⟩
  · exact .inl hr'

/-- A loop that ends without error has granted all its items, in order. -/
lemma promptEach_ok (g : Gatekeeper) :
    ∀ (xs : List PromptItem) (s : PromptState), (g.promptEach xs s).2 = none →
      (g.promptEach xs s).1.granted.map (fun d => (d.request, d.grant)) =
        s.granted.map (fun d => (d.request, d.grant)) ++ xs
  | [], s, _ => by simp [promptEach]
  | x :: xs, s, hok => by
      rcases g.promptStep_cases x s with ⟨e, h⟩ | ⟨always, -, h⟩ <;>
        simp only [promptEach, h, reduceCtorEq] at hok ⊢
      rw [promptEach_ok g xs _ hok]
      simp

end Gatekeeper

/-! ### The items -/

/-- A one-rule filesystem grant whose patterns are among those of a rule of `m`. -/
lemma fs_single_within {m : GrantSet} {r r' : FileSystemRule} (hr : r ∈ m.fs)
    (hread : r'.read ⊆ r.read) (hwrite : r'.write ⊆ r.write) :
    ({ fs := [r'] } : GrantSet).Within m := by
  refine ⟨List.nil_subset _, fun op x hx => ?_, List.nil_subset _, List.nil_subset _,
    List.nil_subset _⟩
  refine (mem_fsPatterns _ _ _).mpr ⟨r, hr, ?_⟩
  simp only [fsPatterns, List.flatMap_cons, List.flatMap_nil, List.append_nil] at hx
  unfold rulePatterns at hx ⊢
  split_ifs at hx ⊢
  exacts [hread hx, hwrite hx, hx]

/-- The grant of every item is made of rules and patterns of the missing set. -/
lemma mem_allItems_within {m : GrantSet} {it : PromptItem} (h : it ∈ allItems m) :
    it.2.Within m := by
  simp only [allItems, List.mem_append, List.mem_map, List.mem_flatMap] at h
  rcases h with ((⟨r, hr, rfl⟩ | ⟨⟨b, p⟩, ⟨r, hr, hp⟩, rfl⟩) | ⟨v, hv, rfl⟩) | ⟨c, hc, rfl⟩
  · constructor <;> simp [networkItem, fsPatterns, hr]
  · simp only [fsPaths, List.mem_append, List.mem_map, Prod.mk.injEq] at hp
    rcases hp with ⟨a, ha, rfl, rfl⟩ | ⟨a, ha, rfl, rfl⟩
    · exact fs_single_within hr (List.cons_subset.mpr ⟨ha, List.nil_subset _⟩) (List.nil_subset _)
    · exact fs_single_within hr (List.nil_subset _) (List.cons_subset.mpr ⟨ha, List.nil_subset _⟩)
  · constructor <;> simp [envItem, fsPatterns, hv]
  · constructor <;> simp [execItem, fsPatterns, hc]

/-- The items' grants hold every network rule and every filesystem, environment and exec
pattern of the missing set: every class but key-value. -/
lemma allItems_cover (m : GrantSet) :
    ({ m with kv := [] } : GrantSet).Within (GrantSet.mergeAll ((allItems m).map Prod.snd)) := by
  have sub : ∀ {it}, it ∈ allItems m → it.2.Within _ := fun h =>
    GrantSet.Within.mem_mergeAll (List.mem_map_of_mem Prod.snd h)
  have net : ∀ r ∈ m.network, networkItem r ∈ allItems m := fun r hr =>
    List.mem_append_left _ (List.mem_append_left _ (List.mem_append_left _
      (List.mem_map_of_mem networkItem hr)))
  have env : ∀ v ∈ m.env, envItem v ∈ allItems m := fun v hv =>
    List.mem_append_left _ (List.mem_append_right _ (List.mem_map_of_mem envItem hv))
  have exec : ∀ c ∈ m.exec, execItem c ∈ allItems m := fun c hc =>
    List.mem_append_right _ (List.mem_map_of_mem execItem hc)
  refine ⟨fun r hr => (sub (net r hr)).network (List.mem_singleton_self r), fun op x hx => ?_,
    fun v hv => (sub (env v hv)).env (List.mem_singleton_self v),
    fun c hc => (sub (exec c hc)).exec (List.mem_singleton_self c), List.nil_subset _⟩
  obtain ⟨r, hr, hx⟩ := (mem_fsPatterns _ _ _).mp hx
  have fs : ∀ fp ∈ fsPaths r, fsItem fp ∈ allItems m := fun fp h =>
    List.mem_append_left _ (List.mem_append_left _ (List.mem_append_right _
      (List.mem_map_of_mem fsItem (List.mem_flatMap.mpr ⟨r, hr, h⟩))))
  unfold rulePatterns at hx
  split_ifs at hx with h₁ h₂
  · refine (sub (fs (false, x) (List.mem_append_left _ (List.mem_map_of_mem _ hx)))).fs op ?_
    simp [fsItem, fsPatterns, rulePatterns, h₁]
  · refine (sub (fs (true, x) (List.mem_append_right _ (List.mem_map_of_mem _ hx)))).fs op ?_
    simp [fsItem, fsPatterns, rulePatterns, h₂]
  · simp at hx

end RegletHost
