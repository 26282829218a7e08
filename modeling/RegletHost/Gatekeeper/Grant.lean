import RegletHost.Gatekeeper.Prompt
import RegletHost.Grantstore.FileStore

/-!
`Gatekeeper.GrantCapabilities` (`src/capability/gatekeeper/gatekeeper.go`): load the stored
grants, compute what is missing, prompt for it, and save when an answer was `always`.

* `Gatekeeper.grantCapabilities`: one call, with what it returns, the set it passes to
  `store.Save`, and the record of the requests it put to the prompter and granted.
* `Gatekeeper.promptRun`: the prompt loops as the call runs them, over the deduplicated
  missing set (`Gatekeeper.missingFor`) and from the loaded grants; `promptRun_granted`,
  `promptRun_asked`, `promptRun_ok` restate the loop lemmas for it.
* `grantCapabilities_cases`: every outcome of a call, said once; the results below are
  read off it.
* `grantCapabilities_saved`: what is saved, and when.
* `grantCapabilities_consent`: every rule returned was loaded, or was granted during the
  call for a request of the missing set under the security level's rules; what the result
  allows, the loaded grants or the request allow.
* `grantCapabilities_strict`: under `strict` no request the broadness test flags is put to
  the prompter or granted, and a missing set holding one makes the call fail.
* `grantCapabilities_covers`: the result allows every network, filesystem, environment
  and exec request that the request allows.
* `fileStore_save_load` (**what is saved is loaded**): the gatekeeper's store over a
  `grantstore.FileStore` loads what the file holds, and after a save that succeeds the
  next call starts from the saved set, deduplicated, which decides every request alike.
-/

namespace RegletHost

/-- What one `GrantCapabilities` call does: its result, the set it passes to `store.Save`
(`none` when it does not call it), the requests it put to the prompter, and the requests
`evaluateWithSecurityLevel` granted. -/
structure GrantOutcome where
  result : Except String GrantSet
  saved : Option GrantSet := none
  asked : List CapRequest := []
  granted : List Granted := []

/-- The grants a call starts from: those `Load` returns, none when it fails. -/
def GrantStore.loaded (st : GrantStore) : GrantSet :=
  match st.load with
  | .ok g => g
  | .error _ => {}

namespace Gatekeeper

/-- `GrantCapabilities(required, capabilityInfo, trustAll)`. `capabilityInfo` is passed to
the prompt loops, which do not read it, and `Save`'s error only prints a warning. -/
def grantCapabilities (g : Gatekeeper) (required : GrantSet) (trustAll : Bool) : GrantOutcome :=
  if required.isEmpty then { result := .ok {} }
  else if trustAll then { result := .ok required.clone }
  else
    let existing := g.store.loaded
    let missing := required.difference existing
    if missing.isEmpty then { result := .ok existing }
    else
      let missing := missing.deduplicate
      if !g.prompter.interactive then
        { result := .error (g.prompter.nonInteractiveError missing) }
      else
        match g.promptForCapabilities missing { newGrants := existing.clone } with
        | (s, some e) => { result := .error e, asked := s.asked, granted := s.granted }
        | (s, none) =>
            { result := .ok s.newGrants, saved := if s.shouldSave then some s.newGrants else none,
              asked := s.asked, granted := s.granted }

/-- The missing set the prompt loops run over: the required rules that the loaded grants do
not cover, deduplicated. -/
def missingFor (g : Gatekeeper) (required : GrantSet) : GrantSet :=
  (required.difference g.store.loaded).deduplicate

/-- The prompt loops as `GrantCapabilities` runs them, from the loaded grants. -/
def promptRun (g : Gatekeeper) (required : GrantSet) : PromptState × Option String :=
  g.promptEach (allItems (g.missingFor required)) { newGrants := g.store.loaded }

lemma promptRun_inv (g : Gatekeeper) (R : GrantSet) : PromptInv g.store.loaded (g.promptRun R).1 :=
  g.promptEach_inv _ (promptInv_init _)

lemma promptRun_granted (g : Gatekeeper) (R : GrantSet) :
    ∀ d ∈ (g.promptRun R).1.granted,
      (d.request, d.grant) ∈ allItems (g.missingFor R) ∧ LevelOk g.securityLevel d :=
  fun d hd => (g.promptEach_granted _ _ d hd).resolve_left (List.not_mem_nil d)

lemma promptRun_asked (g : Gatekeeper) (R : GrantSet) :
    ∀ r ∈ (g.promptRun R).1.asked, r ∈ (allItems (g.missingFor R)).map Prod.fst ∧
      ¬(r.isBroad = true ∧ g.securityLevel = .strict) ∧ g.securityLevel ≠ .permissive :=
  fun r hr => (g.promptEach_asked _ _ r hr).resolve_left (List.not_mem_nil r)

lemma promptRun_ok (g : Gatekeeper) (R : GrantSet) (h : (g.promptRun R).2 = none) :
    (g.promptRun R).1.granted.map (fun d => (d.request, d.grant)) = allItems (g.missingFor R) := by
  simpa using g.promptEach_ok _ _ h

/-- Every outcome of `GrantCapabilities`: without prompting (an empty request, `trustAll`,
loaded grants that cover the request, a prompter that is not interactive), or after the
prompt loops, with their record and their error or their `newGrants`. -/
lemma grantCapabilities_cases (g : Gatekeeper) (R : GrantSet) (trustAll : Bool) :
    (g.grantCapabilities R trustAll).saved = none ∧ (g.grantCapabilities R trustAll).granted = [] ∧
      (g.grantCapabilities R trustAll).asked = [] ∧
      (R.isEmpty = true ∧ (g.grantCapabilities R trustAll).result = .ok {} ∨
        trustAll = true ∧ (g.grantCapabilities R trustAll).result = .ok R ∨
        trustAll = false ∧ (R.difference g.store.loaded).isEmpty = true ∧
          (g.grantCapabilities R trustAll).result = .ok g.store.loaded ∨
        ∃ e, (g.grantCapabilities R trustAll).result = .error e) ∨
    trustAll = false ∧ (g.grantCapabilities R trustAll).granted = (g.promptRun R).1.granted ∧
      (g.grantCapabilities R trustAll).asked = (g.promptRun R).1.asked ∧
      ((∃ e, (g.grantCapabilities R trustAll).result = .error e ∧
          (g.grantCapabilities R trustAll).saved = none) ∨
        (g.promptRun R).2 = none ∧
          (g.grantCapabilities R trustAll).result = .ok (g.promptRun R).1.newGrants ∧
          (g.grantCapabilities R trustAll).saved =
            if (g.promptRun R).1.shouldSave then some (g.promptRun R).1.newGrants else none) := by
  have hrun : g.promptForCapabilities (R.difference g.store.loaded).deduplicate
      { newGrants := g.store.loaded.clone } = g.promptRun R := promptForCapabilities_eq _ _ _
  unfold grantCapabilities
  dsimp only
  by_cases h₁ : R.isEmpty = true
  · simp [h₁]
  by_cases h₂ : trustAll = true
  · simp [h₁, h₂]
  rw [Bool.not_eq_true] at h₁ h₂
  by_cases h₃ : (R.difference g.store.loaded).isEmpty = true
  · simp [h₁, h₂, h₃]
  by_cases h₄ : g.prompter.interactive = false
  · simp [h₁, h₂, h₃, h₄]
  rw [Bool.not_eq_false] at h₄
  simp only [h₁, h₂, h₃, h₄, if_false, Bool.not_true, hrun]
  rcases g.promptRun R with ⟨s, _ | e⟩ <;> simp

/-! ### What a call returns -/

lemma difference_isEmpty {R : GrantSet} (S : GrantSet) (h : R.isEmpty = true) :
    (R.difference S).isEmpty = true := by
  rw [GrantSet.eq_empty_of_isEmpty h]
  rfl

lemma allItems_deduplicate_nil {m : GrantSet} (h : m.isEmpty = true) : allItems m.deduplicate = [] := by
  rw [GrantSet.eq_empty_of_isEmpty h]
  rfl

/-- The requests a call grants are items of the missing set, made of its rules, and obey
the security level. -/
lemma grantCapabilities_granted_items (g : Gatekeeper) (R : GrantSet) (trustAll : Bool) :
    ∀ d ∈ (g.grantCapabilities R trustAll).granted,
      (d.request, d.grant) ∈ allItems (g.missingFor R) ∧ d.grant.Within (g.missingFor R) ∧
        LevelOk g.securityLevel d := by
  rcases g.grantCapabilities_cases R trustAll with ⟨-, hgr, -⟩ | ⟨-, hgr, -⟩ <;> rw [hgr]
  · simp
  · intro d hd
    obtain ⟨hmem, hlev⟩ := g.promptRun_granted R d hd
    exact ⟨hmem, mem_allItems_within hmem, hlev⟩

/-- Every rule a call returns without `trustAll` was loaded or granted during the call. -/
lemma grantCapabilities_within (g : Gatekeeper) (R G : GrantSet)
    (h : (g.grantCapabilities R false).result = .ok G) :
    G.Within (g.store.loaded.merge
      (GrantSet.mergeAll ((g.grantCapabilities R false).granted.map (·.grant)))) := by
  rcases g.grantCapabilities_cases R false with
    ⟨-, hgr, -, ⟨-, hres⟩ | ⟨h₂, -⟩ | ⟨-, -, hres⟩ | ⟨e, he⟩⟩ |
      ⟨-, hgr, -, ⟨e, he, -⟩ | ⟨-, hres, -⟩⟩
  · cases hres.symm.trans h
    exact .empty _
  · cases h₂
  · cases hres.symm.trans h
    exact .merge_left _ _
  · cases he.symm.trans h
  · cases he.symm.trans h
  · cases hres.symm.trans h
    rw [hgr, ← (g.promptRun_inv R).1]
    exact .refl _

/-- **No grant without consent** (`GrantCapabilities`): every rule a call returns was
loaded, or is a rule of the deduplicated missing set that `evaluateWithSecurityLevel`
granted during the call, by the prompter's answer or, only under `permissive`,
automatically; so the result allows nothing that neither the loaded grants nor the request
allow. -/
theorem grantCapabilities_consent (g : Gatekeeper) (R G : GrantSet)
    (h : (g.grantCapabilities R false).result = .ok G) :
    G.Within (g.store.loaded.merge
        (GrantSet.mergeAll ((g.grantCapabilities R false).granted.map (·.grant)))) ∧
      (∀ d ∈ (g.grantCapabilities R false).granted,
        (d.request, d.grant) ∈ allItems (g.missingFor R) ∧ d.grant.Within (g.missingFor R) ∧
          LevelOk g.securityLevel d) ∧
      ∀ (p : Policy) (req : Request), p.evaluate req G = true →
        p.evaluate req g.store.loaded = true ∨ p.evaluate req R = true := by
  have hitems := g.grantCapabilities_granted_items R false
  have hwithin := g.grantCapabilities_within R G h
  refine ⟨hwithin, hitems, fun p req hG => ?_⟩
  have hmissing : (GrantSet.mergeAll ((g.grantCapabilities R false).granted.map (·.grant))).Within
      (g.missingFor R) := .mergeAll (by simpa using fun d hd => (hitems d hd).2.1)
  have h₁ := hwithin.evaluate p req hG
  rw [Policy.evaluate_merge, Bool.or_eq_true] at h₁
  refine h₁.imp_right fun hm => ?_
  have h₂ := hmissing.evaluate p req hm
  rw [missingFor, Policy.evaluate_deduplicate] at h₂
  exact (GrantSet.Within.difference R _).evaluate p req h₂

theorem grantCapabilities_consent_home :
    let g : Gatekeeper :=
      { store := { persisted := {} }, securityLevel := .standard,
        prompter := { interactive := true, nonInteractiveError := fun _ => "",
                      answers := fun _ => ⟨true, false, none⟩ } }
    (g.grantCapabilities { env := ["HOME"] } false).result = .ok { env := ["HOME"] } ∧
      ({ env := ["HOME"] } : GrantSet).Within (g.store.loaded.merge
          (GrantSet.mergeAll ((g.grantCapabilities { env := ["HOME"] } false).granted.map (·.grant)))) ∧
      (∀ d ∈ (g.grantCapabilities { env := ["HOME"] } false).granted,
        (d.request, d.grant) ∈ allItems (g.missingFor { env := ["HOME"] }) ∧
          d.grant.Within (g.missingFor { env := ["HOME"] }) ∧ LevelOk g.securityLevel d) ∧
      ∀ (p : Policy) (req : Request), p.evaluate req { env := ["HOME"] } = true →
        p.evaluate req g.store.loaded = true ∨ p.evaluate req { env := ["HOME"] } = true :=
  ⟨rfl, grantCapabilities_consent _ _ _ rfl⟩

/-! ### What a call saves -/

/-- A call saves exactly when it returns a set and a request was answered `always`. -/
lemma grantCapabilities_saved_iff (g : Gatekeeper) (R G : GrantSet) :
    (g.grantCapabilities R false).saved = some G ↔
      (g.grantCapabilities R false).result = .ok G ∧
        ∃ d ∈ (g.grantCapabilities R false).granted, d.always = true := by
  obtain ⟨-, hsave, -⟩ := g.promptRun_inv R
  rcases g.grantCapabilities_cases R false with
    ⟨hs, hgr, -⟩ | ⟨-, hgr, -, ⟨e, he, hs⟩ | ⟨-, hres, hs⟩⟩ <;> rw [hgr]
  · simp [hs]
  · simp [hs, he]
  · rw [hs, hres, hsave, ← List.any_eq_true]
    cases (g.promptRun R).1.granted.any (·.always) <;> simp

/-- What a call saves is the set it returns: the loaded grants merged with all it granted. -/
lemma grantCapabilities_saved_eq {g : Gatekeeper} {R G : GrantSet}
    (h : (g.grantCapabilities R false).saved = some G) :
    G = g.store.loaded.merge (GrantSet.mergeAll ((g.grantCapabilities R false).granted.map (·.grant))) := by
  rcases g.grantCapabilities_cases R false with
    ⟨hs, -⟩ | ⟨-, hgr, -, ⟨e, -, hs⟩ | ⟨-, -, hs⟩⟩
  · cases hs.symm.trans h
  · cases hs.symm.trans h
  · rw [hs] at h
    split at h
    · cases h
      rw [hgr, ← (g.promptRun_inv R).1]
    · cases h

/-- Only the prompter answers `always`, so never under `permissive`. -/
lemma grantCapabilities_always (g : Gatekeeper) (R : GrantSet) (trustAll : Bool) :
    ∀ d ∈ (g.grantCapabilities R trustAll).granted, d.always = true →
      d.prompted = true ∧ g.securityLevel ≠ .permissive := by
  intro d hd ha
  have hp : d.prompted = true := by
    rcases g.grantCapabilities_cases R trustAll with ⟨-, hgr, -⟩ | ⟨-, hgr, -⟩ <;>
      rw [hgr] at hd
    · cases hd
    · exact (g.promptRun_inv R).2.2 d hd ha
  exact ⟨hp, (g.grantCapabilities_granted_items R trustAll d hd).2.2.1.mp hp⟩

/-- **What is saved** (`GrantCapabilities`, `store.Save`): a call saves exactly when it
returns a set and a request was answered `always`; the saved set is the returned one, it
holds every loaded grant and every grant answered `always`, and each of its rules was loaded
or granted during the call; an `always` answer came from the prompter, never under
`permissive`. -/
theorem grantCapabilities_saved (g : Gatekeeper) (R : GrantSet) :
    (∀ G, (g.grantCapabilities R false).saved = some G ↔
      (g.grantCapabilities R false).result = .ok G ∧
        ∃ d ∈ (g.grantCapabilities R false).granted, d.always = true) ∧
    (∀ G, (g.grantCapabilities R false).saved = some G →
      g.store.loaded.Within G ∧
        (∀ d ∈ (g.grantCapabilities R false).granted, d.always = true → d.grant.Within G) ∧
        G.Within (g.store.loaded.merge
          (GrantSet.mergeAll ((g.grantCapabilities R false).granted.map (·.grant))))) ∧
    ∀ d ∈ (g.grantCapabilities R false).granted, d.always = true →
      d.prompted = true ∧ g.securityLevel ≠ .permissive := by
  refine ⟨g.grantCapabilities_saved_iff R, fun G hG => ?_, g.grantCapabilities_always R false⟩
  rw [grantCapabilities_saved_eq hG]
  refine ⟨.merge_left _ _, fun d hd _ => ?_, .refl _⟩
  exact (GrantSet.Within.mem_mergeAll (List.mem_map_of_mem _ hd)).trans (.merge_right _ _)

/-- A store whose file no longer parses holds `OLD`, and the call is answered grant-once
for `A` and grant-always for `B`: it saves `A`, granted for the session only, and drops
`OLD`. -/
theorem grantCapabilities_saves_once_grant :
    let g : Gatekeeper :=
      { store := { persisted := { env := ["OLD"] }, loadError := some "failed to parse grant store" },
        prompter := { interactive := true, nonInteractiveError := fun _ => "",
                      answers := fun n => if n = 0 then ⟨true, false, none⟩ else ⟨true, true, none⟩ },
        securityLevel := .standard }
    (g.grantCapabilities { env := ["A", "B"] } false).granted.map (fun d => (d.request.description, d.always)) =
        [("env A", false), ("env B", true)] ∧
      (g.grantCapabilities { env := ["A", "B"] } false).saved = some { env := ["A", "B"] } := by
  decide

/-! ### Strict security level -/

/-- Under `strict` a rule whose hosts are `*` and `example.com` and whose ports are `*` is
not broad, so it is put to the prompter and granted, and it allows every network
request. -/
theorem grantCapabilities_strict_grants_all_hosts :
    let g : Gatekeeper :=
      { store := { persisted := {} }, securityLevel := .strict,
        prompter := { interactive := true, nonInteractiveError := fun _ => "",
                      answers := fun _ => ⟨true, true, none⟩ } }
    let R : GrantSet := { network := [⟨["*", "example.com"], ["*"]⟩] }
    (g.grantCapabilities R false).result = .ok R ∧ ∀ req : NetworkRequest, evaluateNetwork req R = true :=
  ⟨rfl, fun req => by simp [evaluateNetwork, ruleAllowsNetwork, matchHost_star, matchPort_star]⟩

/-- **Strict security level** (`evaluateWithSecurityLevel`): under `strict` no request that
the loops' broadness test flags is put to the prompter or granted, every granted request was
answered by the prompter, every rule returned was loaded or granted, and a missing set that
holds a broad request makes the call fail. -/
theorem grantCapabilities_strict (g : Gatekeeper) (R : GrantSet) (hs : g.securityLevel = .strict) :
    (∀ r ∈ (g.grantCapabilities R false).asked, r.isBroad = false) ∧
      (∀ d ∈ (g.grantCapabilities R false).granted, d.request.isBroad = false ∧ d.prompted = true) ∧
      (∀ G, (g.grantCapabilities R false).result = .ok G →
        G.Within (g.store.loaded.merge
          (GrantSet.mergeAll ((g.grantCapabilities R false).granted.map (·.grant))))) ∧
      ((∃ it ∈ allItems (g.missingFor R), it.1.isBroad = true) →
        ∃ e, (g.grantCapabilities R false).result = .error e) := by
  refine ⟨?_, fun d hd => ?_, g.grantCapabilities_within R, fun ⟨it, hit, hb⟩ => ?_⟩
  · rcases g.grantCapabilities_cases R false with ⟨-, -, has, -⟩ | ⟨-, -, has, -⟩ <;> rw [has]
    · simp
    · exact fun r hr => by simpa [hs] using (g.promptRun_asked R r hr).2.1
  · obtain ⟨-, -, hp, hb⟩ := g.grantCapabilities_granted_items R false d hd
    exact ⟨by simpa [hs] using hb, hp.mpr (by simp [hs])⟩
  · rcases hres : (g.grantCapabilities R false).result with e | G
    · exact ⟨e, rfl⟩
    exfalso
    rcases g.grantCapabilities_cases R false with
      ⟨-, -, -, ⟨h₁, -⟩ | ⟨h₂, -⟩ | ⟨-, h₃, -⟩ | ⟨e, he⟩⟩ | ⟨-, -, -, ⟨e, he, -⟩ | ⟨hok, -, -⟩⟩
    · rw [missingFor, allItems_deduplicate_nil (difference_isEmpty _ h₁)] at hit
      cases hit
    · cases h₂
    · rw [missingFor, allItems_deduplicate_nil h₃] at hit
      cases hit
    · cases hres.symm.trans he
    · cases hres.symm.trans he
    · rw [← g.promptRun_ok R hok] at hit
      obtain ⟨d, hd, rfl⟩ := List.mem_map.mp hit
      exact (g.promptRun_granted R d hd).2.2 ⟨hb, hs⟩

theorem grantCapabilities_strict_network :
    let g : Gatekeeper :=
      { store := { persisted := {} }, securityLevel := .strict,
        prompter := { interactive := true, nonInteractiveError := fun _ => "",
                      answers := fun _ => ⟨true, true, none⟩ } }
    let R : GrantSet := { network := [⟨["*"], ["*"]⟩] }
    g.securityLevel = .strict ∧
      (∀ r ∈ (g.grantCapabilities R false).asked, r.isBroad = false) ∧
      (∀ d ∈ (g.grantCapabilities R false).granted, d.request.isBroad = false ∧ d.prompted = true) ∧
      (∀ G, (g.grantCapabilities R false).result = .ok G →
        G.Within (g.store.loaded.merge
          (GrantSet.mergeAll ((g.grantCapabilities R false).granted.map (·.grant))))) ∧
      ((∃ it ∈ allItems (g.missingFor R), it.1.isBroad = true) →
        ∃ e, (g.grantCapabilities R false).result = .error e) :=
  ⟨rfl, grantCapabilities_strict _ _ rfl⟩

/-! ### Coverage -/

/-- Key-value rules have no prompt loop: a request for `config/*` reads returns without
them, so the result denies a read of `config/db` that the request allows. -/
theorem grantCapabilities_drops_keyValue :
    let g : Gatekeeper :=
      { store := { persisted := {} }, securityLevel := .standard,
        prompter := { interactive := true, nonInteractiveError := fun _ => "",
                      answers := fun _ => ⟨true, false, none⟩ } }
    let R : GrantSet := { kv := [⟨["config/*"], "read"⟩] }
    let req : Request := .keyValue ⟨"config/db", "read"⟩
    (g.grantCapabilities R false).result = .ok {} ∧
      ({} : Policy).evaluate req R = true ∧ ({} : Policy).evaluate req {} = false :=
  ⟨rfl, by decide, rfl⟩

/-- **Coverage** (`GrantCapabilities`): a returned set allows every network, filesystem,
environment and exec request that the request allows. -/
theorem grantCapabilities_covers (g : Gatekeeper) (R G : GrantSet) (trustAll : Bool)
    (h : (g.grantCapabilities R trustAll).result = .ok G) (p : Policy) (req : Request)
    (hkv : req.isKeyValue = false) (hR : p.evaluate req R = true) : p.evaluate req G = true := by
  have hR' := p.evaluate_merge_difference req R g.store.loaded hR
  rw [Policy.evaluate_merge, Bool.or_eq_true] at hR'
  rcases g.grantCapabilities_cases R trustAll with
    ⟨-, -, -, ⟨h₁, -⟩ | ⟨-, hres⟩ | ⟨-, h₃, hres⟩ | ⟨e, he⟩⟩ | ⟨-, -, -, ⟨e, he, -⟩ | ⟨hok, hres, -⟩⟩
  · rw [GrantSet.eq_empty_of_isEmpty h₁, Policy.evaluate_empty] at hR
    cases hR
  · cases hres.symm.trans h
    exact hR
  · cases hres.symm.trans h
    rw [GrantSet.eq_empty_of_isEmpty h₃] at hR'
    simpa using hR'
  · cases he.symm.trans h
  · cases he.symm.trans h
  · cases hres.symm.trans h
    have hgr : (g.promptRun R).1.granted.map (·.grant) = (allItems (g.missingFor R)).map Prod.snd := by
      rw [← g.promptRun_ok R hok, List.map_map]
      rfl
    rw [(g.promptRun_inv R).1, hgr, Policy.evaluate_merge, Bool.or_eq_true]
    refine hR'.imp_right fun hm => ?_
    rw [← Policy.evaluate_deduplicate, ← Policy.evaluate_eraseKeyValue p hkv] at hm
    exact (allItems_cover _).evaluate p req hm

theorem grantCapabilities_covers_home :
    let g : Gatekeeper :=
      { store := { persisted := { env := ["PATH"] } }, securityLevel := .standard,
        prompter := { interactive := true, nonInteractiveError := fun _ => "",
                      answers := fun _ => ⟨true, false, none⟩ } }
    let R : GrantSet := { env := ["HOME"] }
    let G : GrantSet := { env := ["PATH", "HOME"] }
    let req : Request := .environment ⟨"HOME"⟩
    (g.grantCapabilities R false).result = .ok G ∧ req.isKeyValue = false ∧
      ({} : Policy).evaluate req R = true ∧ ({} : Policy).evaluate req G = true := by
  intro g R G req
  exact ⟨rfl, rfl, by decide, grantCapabilities_covers g R G false rfl {} req rfl (by decide)⟩

end Gatekeeper

/-! ### The file store behind the gatekeeper -/

open Storage

/-- The gatekeeper's store over a grants file: what `FileStore.Load` returns, or its error. -/
def Grantstore.FileStore.grantStore (yaml : Codec GrantSet) (s : Grantstore.FileStore) (fs : FS) :
    GrantStore :=
  match s.load yaml fs with
  | .ok g => { persisted := g }
  | .error e => { persisted := {}, loadError := some e }

lemma Grantstore.FileStore.grantStore_load (yaml : Codec GrantSet) (s : Grantstore.FileStore) (fs : FS) :
    (s.grantStore yaml fs).load = s.load yaml fs := by
  unfold Grantstore.FileStore.grantStore
  cases s.load yaml fs <;> rfl

/-- **What is saved is loaded.** For every grants file, every file system and every set `G`
the gatekeeper passes to `Save`: its store over the file loads what `FileStore.Load` reads,
and either the save fails, or over the file system the save leaves the next call starts from
`G` deduplicated, which decides every request under every policy as `G` does. -/
theorem fileStore_save_load (yaml : Codec GrantSet) (split : (data : String) → Chunking data)
    (s : Grantstore.FileStore) (fs : FS) (G : GrantSet) :
    (∀ fs₀, (s.grantStore yaml fs₀).load = s.load yaml fs₀) ∧
    ((∃ e, (s.save yaml split fs (some G)).1 = .error e) ∨
      (s.grantStore yaml (s.save yaml split fs (some G)).2).loaded = G.deduplicate ∧
        ∀ (p : Policy) req, p.evaluate req (s.grantStore yaml (s.save yaml split fs (some G)).2).loaded =
          p.evaluate req G) := by
  refine ⟨s.grantStore_load yaml, ?_⟩
  rcases hsave : s.save yaml split fs (some G) with ⟨_ | ⟨⟩, fs'⟩
  · exact .inl ⟨_, rfl⟩
  · have hloaded : (s.grantStore yaml fs').loaded = G.deduplicate := by
      simp only [GrantStore.loaded, s.grantStore_load yaml, s.load_save yaml split hsave,
        Grantstore.FileStore.clean, Option.getD_some, GrantSet.clone_eq]
    exact .inr ⟨hloaded, fun p req => by rw [hloaded, Policy.evaluate_deduplicate]⟩

end RegletHost
