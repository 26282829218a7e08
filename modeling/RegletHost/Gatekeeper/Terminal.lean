import RegletHost.Gatekeeper.Prompt

/-!
The terminal prompter (`src/unnamed/part_001`, `TerminalPrompter`): the answer a selection
gives, the batch `PromptForCapabilities` and the text of `FormatNonInteractiveError`.

* `promptForCapabilityString`: the selection read from the terminal, or the form's error, as
  the prompter's answer; `TerminalPrompter.prompter` is the prompter the gatekeeper asks.
* `promptForCapabilities`: the batch, which asks every request in turn, stops at the first
  error, and adds the rule of each granted request to the class its kind names.
* `promptForCapabilities_allItems` (**the batch grants what is missing**): over the requests
  of the gatekeeper's items for a missing set, the batch grants only rules of the missing
  set, and when every request is granted its grant set decides every request but a
  key-value one as the missing set does, under every policy.
-/

namespace RegletHost

namespace TerminalPrompter

/-- The options of the form that grant. -/
def optionYes : String := "Yes, grant for this session"

def optionAlways : String := "Always grant (save to config)"

/-- `promptForCapabilityString`: the selection, or the form's error, as the answer; any
selection but the first two denies. -/
def promptForCapabilityString (selection : Except String String) : PromptAnswer :=
  match selection with
  | .error e => ⟨false, false, some e⟩
  | .ok s =>
    if s = optionYes then ⟨true, false, none⟩
    else if s = optionAlways then ⟨true, true, none⟩
    else ⟨false, false, none⟩

/-- The rule of a granted request, added to the class its kind names when the rule has
that class's type; any other request adds nothing. -/
def addGranted (grants : GrantSet) (req : CapRequest) : GrantSet :=
  match req.kind, req.rule with
  | "network", .network rule => { grants with network := grants.network ++ [rule] }
  | "fs", .fs rule => { grants with fs := grants.fs ++ [rule] }
  | "env", .env v => { grants with env := grants.env ++ [v] }
  | "exec", .exec cmd => { grants with exec := grants.exec ++ [cmd] }
  | _, _ => grants

/-- The loop of `PromptForCapabilities` from the `n`-th selection on. -/
def promptForCapabilitiesFrom (selections : Nat → Except String String) :
    Nat → List CapRequest → GrantSet → Except String GrantSet
  | _, [], grants => .ok grants
  | n, req :: reqs, grants =>
    match (promptForCapabilityString (selections n)).err with
    | some e => .error e
    | none => promptForCapabilitiesFrom selections (n + 1) reqs
        (if (promptForCapabilityString (selections n)).granted then addGranted grants req
          else grants)

/-- `PromptForCapabilities`, the `n`-th request answered by the `n`-th selection. -/
def promptForCapabilities (selections : Nat → Except String String) (reqs : List CapRequest) :
    Except String GrantSet :=
  promptForCapabilitiesFrom selections 0 reqs {}

/-- The text before and after the permission lines of `FormatNonInteractiveError`. -/
def nonInteractiveHeader : String :=
  "Plugins require additional permissions (running in non-interactive mode)\n\n" ++
    "Required permissions:\n"

def nonInteractiveFooter : String :=
  "\nTo grant these permissions:\n" ++ "  1. Run interactively and approve when prompted\n" ++
    "  2. Use --trust-plugins flag (grants all permissions)\n" ++
    "  3. Manually edit: ~/.reglet/grants.yaml\n"

/-- `FormatNonInteractiveError`: a network rule is listed only with a host and a port. -/
def formatNonInteractiveError (missing : GrantSet) : String :=
  nonInteractiveHeader ++
    String.join ((missing.network.filter (fun rule =>
      rule.hosts.length > 0 && rule.ports.length > 0)).map (fun rule =>
        "  - Network: hosts=" ++ fmtList rule.hosts ++ ", ports=" ++ fmtList rule.ports ++
          "\n")) ++
    String.join (missing.fs.map (fun rule =>
      (if rule.read.length > 0 then "  - Read files: " ++ fmtList rule.read ++ "\n" else "") ++
        (if rule.write.length > 0 then "  - Write files: " ++ fmtList rule.write ++ "\n"
          else ""))) ++
    (if missing.env.length > 0 then
      "  - Environment variables: " ++ fmtList missing.env ++ "\n" else "") ++
    (if missing.exec.length > 0 then
      "  - Execute commands: " ++ fmtList missing.exec ++ "\n" else "") ++
    nonInteractiveFooter

/-- The terminal prompter as the gatekeeper asks it: the `n`-th answer is the `n`-th
selection's. -/
def prompter (interactive : Bool) (selections : Nat → Except String String) : Prompter :=
  ⟨interactive, fun n => promptForCapabilityString (selections n), formatNonInteractiveError⟩

/-! ### The batch over the gatekeeper's items -/

/-- A granted answer has no error. -/
lemma err_of_granted {selection : Except String String}
    (h : (promptForCapabilityString selection).granted = true) :
    (promptForCapabilityString selection).err = none := by
  unfold promptForCapabilityString at h ⊢
  split at h
  · cases h
  · split_ifs at h ⊢ <;> rfl

/-- The gatekeeper's items carry a rule of the class their kind names, and their grant is
that rule alone. -/
lemma addGranted_item {m : GrantSet} {it : PromptItem} (h : it ∈ allItems m) (g : GrantSet) :
    addGranted g it.1 = g.merge it.2 := by
  simp only [allItems, List.mem_append, List.mem_map, List.mem_flatMap] at h
  rcases h with ((⟨r, -, rfl⟩ | ⟨⟨b, p⟩, -, rfl⟩) | ⟨v, -, rfl⟩) | ⟨c, -, rfl⟩
  · simp [addGranted, networkItem, GrantSet.merge]
  · cases b <;> simp [addGranted, fsItem, GrantSet.merge]
  · simp [addGranted, envItem, GrantSet.merge]
  · simp [addGranted, execItem, GrantSet.merge]

lemma merge_merge_mergeAll (g a : GrantSet) (l : List GrantSet) :
    (g.merge a).merge (GrantSet.mergeAll l) = g.merge (GrantSet.mergeAll (a :: l)) := by
  simp [GrantSet.merge, GrantSet.mergeAll, List.append_assoc]

/-- The batch over items of the missing set `m` adds only grants within `m`. -/
lemma promptForCapabilitiesFrom_within {m : GrantSet} (selections : Nat → Except String String) :
    ∀ (items : List PromptItem) (n : Nat) (g G : GrantSet), (∀ it ∈ items, it ∈ allItems m) →
      g.Within m → promptForCapabilitiesFrom selections n (items.map Prod.fst) g = .ok G →
      G.Within m
  | [], _, g, G, _, hg, h => by cases h; exact hg
  | it :: items, n, g, G, hits, hg, h => by
    simp only [List.map_cons, promptForCapabilitiesFrom] at h
    split at h
    · cases h
    refine promptForCapabilitiesFrom_within selections items (n + 1) _ G
      (fun x hx => hits x (List.mem_cons_of_mem _ hx)) ?_ h
    have hit := hits it (List.mem_cons_self _ _)
    split_ifs
    · rw [addGranted_item hit]
      exact GrantSet.Within.merge hg (mem_allItems_within hit)
    · exact hg

/-- When every request is granted, the batch merges the grants of all the items. -/
lemma promptForCapabilitiesFrom_granted {m : GrantSet} (selections : Nat → Except String String) :
    ∀ (items : List PromptItem) (n : Nat) (g : GrantSet), (∀ it ∈ items, it ∈ allItems m) →
      (∀ k < items.length, (promptForCapabilityString (selections (n + k))).granted = true) →
      promptForCapabilitiesFrom selections n (items.map Prod.fst) g =
        .ok (g.merge (GrantSet.mergeAll (items.map Prod.snd)))
  | [], _, g, _, _ => by simp [promptForCapabilitiesFrom]
  | it :: items, n, g, hits, hgr => by
    have h₀ := hgr 0 (Nat.succ_pos _)
    simp only [Nat.add_zero] at h₀
    simp only [List.map_cons, promptForCapabilitiesFrom, err_of_granted h₀, h₀, if_true,
      addGranted_item (hits it (List.mem_cons_self _ _))]
    rw [promptForCapabilitiesFrom_granted selections items (n + 1) _
      (fun x hx => hits x (List.mem_cons_of_mem _ hx))
      (fun k hk => by
        simpa [Nat.add_assoc, Nat.add_comm 1 k] using hgr (k + 1) (by simpa using hk)),
      merge_merge_mergeAll]

/-- **The batch grants what is missing.** For every missing set and every sequence of
selections, when the batch over the requests of the gatekeeper's items for the missing set
succeeds, it granted only rules of the missing set; and when every request was granted,
its grant set decides every request but a key-value one as the missing set does, under
every policy. -/
theorem promptForCapabilities_allItems (m : GrantSet) (selections : Nat → Except String String)
    {G : GrantSet} (h : promptForCapabilities selections ((allItems m).map Prod.fst) = .ok G) :
    G.Within m ∧ ((∀ n < (allItems m).length, (promptForCapabilityString (selections n)).granted) →
      ∀ (p : Policy) (req : Request), req.isKeyValue = false →
        p.evaluate req G = p.evaluate req m) := by
  have hwithin := promptForCapabilitiesFrom_within selections (allItems m) 0 {} G
    (fun _ => id) (GrantSet.Within.empty m) h
  refine ⟨hwithin, fun hgr p req hkv => Bool.eq_iff_iff.mpr ⟨hwithin.evaluate p req, fun hm => ?_⟩⟩
  have hG := promptForCapabilitiesFrom_granted selections (allItems m) 0 {} (fun _ => id)
    (by simpa using hgr)
  rw [promptForCapabilities, hG] at h
  cases h
  have hcover := (allItems_cover m).trans (GrantSet.Within.merge_right {} _)
  exact hcover.evaluate p req ((p.evaluate_eraseKeyValue hkv m).trans hm)

/-- Granting both prompts for `example.com:443` and `HOME` grants that rule and that
variable. -/
theorem promptForCapabilities_allItems_yes :
    GrantSet.Within { network := [⟨["example.com"], ["443"]⟩], env := ["HOME"] }
        { network := [⟨["example.com"], ["443"]⟩], env := ["HOME"] } ∧
      ((∀ n < (allItems { network := [⟨["example.com"], ["443"]⟩], env := ["HOME"] }).length,
          (promptForCapabilityString (.ok optionYes)).granted) →
        ∀ (p : Policy) (req : Request), req.isKeyValue = false →
          p.evaluate req { network := [⟨["example.com"], ["443"]⟩], env := ["HOME"] } =
            p.evaluate req { network := [⟨["example.com"], ["443"]⟩], env := ["HOME"] }) :=
  promptForCapabilities_allItems { network := [⟨["example.com"], ["443"]⟩], env := ["HOME"] }
    (fun _ => .ok optionYes) rfl

end TerminalPrompter

end RegletHost
