import RegletHost.Plugin.LockfileService

/-!
The plugin declarations' registry (`src/plugin/entities/plugin_spec.go`): `IsBuiltIn`,
`PluginName`, `PluginRegistry` with `Register`, `Resolve` and `HasPlugin`, and
`ParsePluginDeclarationWithAlias`.

* `PluginSpec.isBuiltIn`, `PluginSpec.pluginName`, `parsePluginDeclarationWithAlias`: as the
  code writes them.
* `pluginName_parsePluginDeclaration` (**two readings of a declaration**): `PluginName` of a
  declaration is the name `ParsePluginDeclaration` gives it whenever that name has no `:`;
  for a simple name with a `:`, `ParsePluginDeclaration` keeps the whole text as the name
  while `PluginName` cuts it at the last `:`.
* `PluginRegistry.registerAll_resolve` (**the last registration stands**): after every run
  of `Register` calls, `Resolve` of an alias gives the spec of the last call that
  registered it, or the default spec of the alias when none did; `HasPlugin` says whether
  one did. The schema registry of `Registry.Schema` keeps the first instead.
* `parsePluginDeclarationWithAlias_register` (**a declaration under an alias**): a spec
  `ParsePluginDeclarationWithAlias` gives is registered under its alias exactly when its
  source is not empty, and a text declaration gives an empty source exactly when the text
  before its version is empty and a version follows, as `@1.0` does.
-/

namespace RegletHost

namespace Plugins

open Netutil

/-! ### Names -/

/-- `IsBuiltIn`: a source with neither `/` nor `:`. -/
def PluginSpec.isBuiltIn (ps : PluginSpec) : Bool :=
  !ps.source.toList.contains '/' && !ps.source.toList.contains ':'

/-- `source[:strings.Index(source, "@sha256:")]` when the pin occurs. -/
def withoutDigest (source : List Char) : List Char :=
  match splitFirst "@sha256:".toList source with
  | some (pre, _) => pre
  | none => source

/-- `source[:strings.LastIndex(source, "@")]` when `@` occurs. -/
def withoutVersion (source : List Char) : List Char :=
  match cutLast '@' source with
  | some (pre, _) => pre
  | none => source

/-- `source[:strings.LastIndex(source, ":")]` when `:` occurs. -/
def withoutTag (source : List Char) : List Char :=
  match cutLast ':' source with
  | some (pre, _) => pre
  | none => source

/-- The last element of `strings.Split(source, "/")`. -/
def lastSegment (source : List Char) : List Char := (source.reverse.takeWhile (· ≠ '/')).reverse

/-- `PluginName`: the source without its digest pin and its version, then, for a simple
name, without the text after its last `:`, and for an OCI reference, its last path segment
without its tag. -/
def PluginSpec.pluginName (ps : PluginSpec) : String :=
  let source := withoutVersion (withoutDigest ps.source.toList)
  let source := if ':' ∈ source ∧ '/' ∉ source then withoutTag source else source
  String.mk (if '/' ∈ source then withoutTag (lastSegment source) else source)

/-! ### The two readings of a declaration's name -/

/-- `cutChar` finds `c` exactly when the text has one. -/
lemma cutChar_snd_eq_none {c : Char} {l : List Char} : (cutChar c l).2 = none ↔ c ∉ l := by
  induction l with
  | nil => simp [cutChar]
  | cons d ds ih =>
    by_cases hd : d = c
    · simp [cutChar, hd]
    · simp [cutChar, hd, ih, Ne.symm hd]

lemma cutLast_eq_none {c : Char} {l : List Char} : cutLast c l = none ↔ c ∉ l := by
  unfold cutLast
  rcases hc : cutChar c l.reverse with ⟨a, _ | b⟩
  · simpa [hc] using cutChar_snd_eq_none.mp (congrArg Prod.snd hc)
  · have := cutChar_snd_eq_none (c := c) (l := l.reverse)
    simp_all

/-- A text cut at its last `c` is the part before it, `c`, and the part after it, free of
`c`. -/
lemma cutLast_eq_some {c : Char} {l pre post : List Char} (h : cutLast c l = some (pre, post)) :
    l = pre ++ c :: post ∧ c ∉ post := by
  unfold cutLast at h
  rcases hc : cutChar c l.reverse with ⟨a, _ | b⟩ <;> simp only [hc, Option.some.injEq,
    Prod.mk.injEq, reduceCtorEq] at h
  obtain ⟨rfl, rfl⟩ := h
  obtain ⟨hl, ha⟩ := cutChar_eq_some hc
  exact ⟨by simpa using congrArg List.reverse hl, by simpa using ha⟩

lemma splitFirst_of_not_mem {s : Char} {sep l : List Char} (h : s ∉ l) :
    splitFirst (s :: sep) l = none := by
  induction l with
  | nil => rfl
  | cons c cs ih =>
    simp only [List.mem_cons, not_or] at h
    simp [splitFirst, List.isPrefixOf, ih h.2, h.1]

lemma withoutDigest_of_not_mem {l : List Char} (h : '@' ∉ l) : withoutDigest l = l := by
  have hsep : "@sha256:".toList = '@' :: "sha256:".toList := rfl
  rw [withoutDigest, hsep, splitFirst_of_not_mem h]

lemma withoutVersion_of_not_mem {l : List Char} (h : '@' ∉ l) : withoutVersion l = l := by
  rw [withoutVersion, cutLast_eq_none.mpr h]

/-- The name `ParsePluginDeclaration` takes from the text before the version: for an OCI
reference, the last segment without its tag; for a simple name, the whole text. -/
def declarationName (base : List Char) : List Char :=
  if '/' ∈ base then withoutTag (lastSegment base) else base

/-- What `ParsePluginDeclaration` takes from the text before the version: the name, and
an empty source exactly when that text is empty and a version follows it. -/
lemma parsePluginDeclaration_name_source {d : String} {spec : PluginSpec}
    (h : parsePluginDeclaration d = .ok spec) :
    spec.name = String.mk (declarationName (withoutVersion (withoutDigest d.toList))) ∧
      (spec.source = "" ↔ withoutVersion (withoutDigest d.toList) = [] ∧ spec.version ≠ "") := by
  unfold parsePluginDeclaration at h
  split_ifs at h with hd
  dsimp only at h
  rcases hs : splitFirst "@sha256:".toList d.toList with _ | ⟨pre, post⟩ <;> simp only [hs] at h <;>
    rw [withoutDigest, hs] <;> dsimp only
  -- with no pin, the text the version is cut from is the whole declaration
  on_goal 1 => generalize d.toList = pre at h ⊢
  all_goals
    rcases hc : cutLast '@' pre with _ | ⟨base, ver⟩ <;> simp only [hc] at h <;>
      rw [withoutVersion, hc] <;> dsimp only <;> unfold declarationName <;>
      split_ifs at h ⊢ with h1 h2 <;> (try split at h) <;> cases h <;>
      simp_all [String.ext_iff, withoutTag, lastSegment] <;> rintro rfl <;> cases h1

/-- `PluginName` after the pin and the version are cut: an OCI reference gives its last
segment without its tag, as `ParsePluginDeclaration` does, and so does a simple name
without a `:`. -/
lemma pluginName_eq_declarationName {d : String} (hc : ':' ∉ declarationName
    (withoutVersion (withoutDigest d.toList))) :
    ({ source := d } : PluginSpec).pluginName =
      String.mk (declarationName (withoutVersion (withoutDigest d.toList))) := by
  unfold PluginSpec.pluginName declarationName at *
  generalize withoutVersion (withoutDigest d.toList) = B at *
  by_cases hs : '/' ∈ B
  · simp only [hs, not_true_eq_false, and_false, if_false, if_true]
  · rw [if_neg hs] at hc
    simp only [hs, hc, false_and, if_false]

/-- **Two readings of a declaration.** For every declaration `ParsePluginDeclaration`
accepts, `PluginName` of a spec with that source is the parsed name whenever that name has
no `:`; and for a simple name with a `:` and no version, the parsed name is the whole
declaration while `PluginName` cuts it at its last `:`. -/
theorem pluginName_parsePluginDeclaration {d : String} {spec : PluginSpec}
    (h : parsePluginDeclaration d = .ok spec) :
    (':' ∉ spec.name.toList → ({ source := d } : PluginSpec).pluginName = spec.name) ∧
      ('/' ∉ d.toList → '@' ∉ d.toList → ':' ∈ d.toList →
        spec.name = d ∧ ({ source := d } : PluginSpec).pluginName ≠ spec.name) := by
  have hname := (parsePluginDeclaration_name_source h).1
  refine ⟨fun hc => ?_, fun hs ha hc => ?_⟩
  · rw [hname] at hc ⊢
    exact pluginName_eq_declarationName hc
  have hB : withoutVersion (withoutDigest d.toList) = d.toList := by
    rw [withoutDigest_of_not_mem ha, withoutVersion_of_not_mem ha]
  have hspec : spec.name = d := by rw [hname, hB, declarationName, if_neg hs]; rfl
  obtain ⟨⟨pre, post⟩, hcut⟩ :=
    Option.ne_none_iff_exists'.mp (mt cutLast_eq_none.mp (not_not.mpr hc))
  obtain ⟨hd, -⟩ := cutLast_eq_some hcut
  have hpre : '/' ∉ pre := fun hp => hs (hd ▸ List.mem_append_left _ hp)
  have hwt : withoutTag d.toList = pre := by rw [withoutTag, hcut]
  refine ⟨hspec, ?_⟩
  rw [hspec, PluginSpec.pluginName]
  simp only [hB, hc, hs, not_false_eq_true, and_self, if_true, hwt, hpre, if_false]
  intro heq
  subst heq
  have := congrArg List.length hd
  simp at this

/-- `file:1.0` is parsed as the name `file:1.0`, which `PluginName` reads as `file`. -/
theorem pluginName_parsePluginDeclaration_tagged :
    (':' ∉ "file:1.0".toList → ({ source := "file:1.0" } : PluginSpec).pluginName = "file:1.0") ∧
      ('/' ∉ "file:1.0".toList → '@' ∉ "file:1.0".toList → ':' ∈ "file:1.0".toList →
        "file:1.0" = "file:1.0" ∧ ({ source := "file:1.0" } : PluginSpec).pluginName ≠ "file:1.0") :=
  pluginName_parsePluginDeclaration
    (show parsePluginDeclaration "file:1.0" = .ok { name := "file:1.0", source := "file:1.0" } from rfl)

/-- `ParsePluginDeclarationWithAlias`'s `source` argument by the case of its type switch: a
string, a map with the `source` and `digest` strings and the `verify` boolean it holds, or
a value of another type. -/
inductive AliasSource
  | text (s : String)
  | map (source digest : Option String) (verify : Option Bool)
  | other (typeName : String)

/-- `ParsePluginDeclarationWithAlias`. -/
def parsePluginDeclarationWithAlias (aliasName : String) (source : AliasSource) :
    Except String PluginSpec :=
  if aliasName = "" then .error "plugin alias cannot be empty"
  else
    match source with
    | .text v =>
      match parsePluginDeclaration v with
      | .error e => .error ("invalid source for " ++ goQuote aliasName ++ ": " ++ e)
      | .ok spec => .ok { spec with name := aliasName }
    | .map (some src) digest verify =>
      .ok { name := aliasName, source := src, digest := digest.getD "",
            verify := verify.getD false }
    | .map none _ _ =>
      .error ("plugin " ++ goQuote aliasName ++ ": missing \x27source\x27 field")
    | .other t => .error ("plugin " ++ goQuote aliasName ++ ": invalid source type " ++ t)

/-- What `ParsePluginDeclarationWithAlias` accepted: a spec named by a non-empty alias, and
for a text, the parsed spec renamed. -/
lemma parsePluginDeclarationWithAlias_eq_ok {a : String} {src : AliasSource} {spec : PluginSpec}
    (h : parsePluginDeclarationWithAlias a src = .ok spec) :
    a ≠ "" ∧ spec.name = a ∧ ∀ v, src = .text v →
      ∃ parsed, parsePluginDeclaration v = .ok parsed ∧ spec = { parsed with name := a } := by
  unfold parsePluginDeclarationWithAlias at h
  split_ifs at h with ha
  refine ⟨ha, ?_⟩
  rcases src with v | (_ | src) | t
  · rcases hp : parsePluginDeclaration v with e | parsed <;> simp only [hp] at h <;> cases h
    exact ⟨rfl, fun _ hv => ⟨parsed, by cases hv; exact ⟨hp, rfl⟩⟩⟩
  all_goals cases h
  exact ⟨rfl, fun _ hv => by cases hv⟩

/-! ### The registry -/

/-- `PluginRegistry`: the spec of each alias. -/
structure PluginRegistry where
  specs : AList (fun _ : String => PluginSpec) := ∅

namespace PluginRegistry

/-- `Register`: a spec needs a name and a source, and replaces the one its name had. -/
def register (pr : PluginRegistry) (spec : PluginSpec) : Except String Unit × PluginRegistry :=
  if spec.name = "" then (.error "plugin spec name cannot be empty", pr)
  else if spec.source = "" then
    (.error ("plugin spec source cannot be empty for " ++ goQuote spec.name), pr)
  else (.ok (), ⟨pr.specs.insert spec.name spec⟩)

/-- `Resolve`: the registered spec, or the spec naming the alias as its source. -/
def resolve (pr : PluginRegistry) (aliasName : String) : PluginSpec :=
  (pr.specs.lookup aliasName).getD { name := aliasName, source := aliasName }

/-- `HasPlugin`. -/
def hasPlugin (pr : PluginRegistry) (name : String) : Bool := (pr.specs.lookup name).isSome

/-- A run of `Register` calls, in order: their results and the registry they leave. -/
def registerAll (pr : PluginRegistry) :
    List PluginSpec → List (Except String Unit) × PluginRegistry
  | [] => ([], pr)
  | spec :: specs =>
    ((pr.register spec).1 :: ((pr.register spec).2.registerAll specs).1,
      ((pr.register spec).2.registerAll specs).2)

/-- The last spec of a run that `Register` accepts under the alias. -/
def lastSpec (specs : List PluginSpec) (aliasName : String) : Option PluginSpec :=
  specs.reverse.find? fun spec =>
    spec.name == aliasName && spec.name != "" && spec.source != ""

/-- A spec with a name and a source is registered under its name. -/
lemma register_of_ne {pr : PluginRegistry} {spec : PluginSpec} (hn : spec.name ≠ "")
    (hs : spec.source ≠ "") : pr.register spec = (.ok (), ⟨pr.specs.insert spec.name spec⟩) := by
  rw [register, if_neg hn, if_neg hs]

lemma lookup_register (pr : PluginRegistry) (spec : PluginSpec) (aliasName : String) :
    (pr.register spec).2.specs.lookup aliasName =
      (if spec.name == aliasName && spec.name != "" && spec.source != "" then some spec
        else none).or (pr.specs.lookup aliasName) := by
  unfold register
  by_cases hn : spec.name = aliasName
  · subst hn
    split_ifs <;> simp_all
  · rw [beq_false_of_ne hn, Bool.false_and, Bool.false_and, if_neg Bool.false_ne_true,
      Option.none_or]
    split_ifs <;> simp [AList.lookup_insert_ne (Ne.symm hn)]

lemma lookup_registerAll (aliasName : String) :
    ∀ (pr : PluginRegistry) (specs : List PluginSpec),
      (pr.registerAll specs).2.specs.lookup aliasName =
        (lastSpec specs aliasName).or (pr.specs.lookup aliasName)
  | pr, [] => rfl
  | pr, spec :: specs => by
    simp only [registerAll, lookup_registerAll aliasName _ specs, lookup_register, lastSpec,
      List.reverse_cons, List.find?_append, List.find?_singleton, Option.or_assoc]

/-- **The last registration stands.** After every run of `Register` calls from the empty
registry, `Resolve` of an alias gives the spec of the last call that registered it, or the
default spec of the alias when none did, and `HasPlugin` says whether one did. -/
theorem registerAll_resolve (specs : List PluginSpec) (aliasName : String) :
    (({} : PluginRegistry).registerAll specs).2.resolve aliasName =
        (lastSpec specs aliasName).getD { name := aliasName, source := aliasName } ∧
      (({} : PluginRegistry).registerAll specs).2.hasPlugin aliasName =
        (lastSpec specs aliasName).isSome := by
  have h := lookup_registerAll aliasName {} specs
  simp only [AList.lookup_empty, Option.or_none] at h
  exact ⟨by rw [resolve, h], by rw [hasPlugin, h]⟩

end PluginRegistry

/-- **A declaration under an alias.** For every alias and every declaration
`ParsePluginDeclarationWithAlias` accepts, the spec is named by the alias, `Register` accepts
it exactly when its source is not empty, and `Resolve` of the alias then gives it; for a
text declaration, the source is empty exactly when the text before the version is empty and
a version follows it, as in `@1.0`. -/
theorem parsePluginDeclarationWithAlias_register {a : String} {src : AliasSource}
    {spec : PluginSpec} (h : parsePluginDeclarationWithAlias a src = .ok spec)
    (pr : PluginRegistry) :
    spec.name = a ∧ ((pr.register spec).1 = .ok () ↔ spec.source ≠ "") ∧
      ((pr.register spec).1 = .ok () → (pr.register spec).2.resolve a = spec) ∧
      ∀ v, src = .text v →
        (spec.source = "" ↔ withoutVersion (withoutDigest v.toList) = [] ∧ spec.version ≠ "") := by
  obtain ⟨ha, hname, htext⟩ := parsePluginDeclarationWithAlias_eq_ok h
  have hok : (pr.register spec).1 = .ok () ↔ spec.source ≠ "" := by
    by_cases hs : spec.source = ""
    · simp [PluginRegistry.register, hname, ha, hs]
    · simp [PluginRegistry.register_of_ne (hname ▸ ha) hs, hs]
  refine ⟨hname, hok, fun hr => ?_, fun v hv => ?_⟩
  · rw [PluginRegistry.register_of_ne (hname ▸ ha) (hok.mp hr), PluginRegistry.resolve, hname,
      AList.lookup_insert, Option.getD_some]
  · obtain ⟨parsed, hp, rfl⟩ := htext v hv
    exact (parsePluginDeclaration_name_source hp).2

/-- `file` declared as `@1.0` has an empty source, which `Register` refuses. -/
theorem parsePluginDeclarationWithAlias_register_versionOnly :
    ({ name := "file", source := "", version := "1.0" } : PluginSpec).name = "file" ∧
      (((({} : PluginRegistry).register { name := "file", source := "", version := "1.0" }).1 =
          .ok () ↔ ("" : String) ≠ "") ∧
        ((({} : PluginRegistry).register { name := "file", source := "", version := "1.0" }).1 =
            .ok () →
          (({} : PluginRegistry).register { name := "file", source := "", version := "1.0" }).2.resolve
            "file" = { name := "file", source := "", version := "1.0" }) ∧
        ∀ v, AliasSource.text "@1.0" = .text v →
          (("" : String) = "" ↔ withoutVersion (withoutDigest v.toList) = [] ∧ "1.0" ≠ "")) :=
  parsePluginDeclarationWithAlias_register
    (show parsePluginDeclarationWithAlias "file" (.text "@1.0") =
      .ok { name := "file", source := "", version := "1.0" } from rfl) {}

end Plugins

end RegletHost
