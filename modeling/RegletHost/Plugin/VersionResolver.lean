import Mathlib.Data.List.Sort
import RegletHost.Netutil.Addr

/-!
The semantic-version resolver (`src/plugin/resolvers/version_resolver.go`): the highest
available version that satisfies a constraint.

`Masterminds/semver` is not part of the sources. Its `NewVersion`, `NewConstraint`,
`Constraints.Check` and `Version.LessThan` are the parameter `Semver`, and `sort.Sort` on a
`semver.Collection` is the parameter `CollectionSort`: a reordering that puts no version
after one it is less than, which is what `sort.Sort` gives for the strict weak order of
semver precedence. `CollectionSort.insertion` is one, built from `List.insertionSort`.

* `resolve`: `SemverResolver.Resolve`, with `latest` read as `>= 0`.
* `resolve_highest`: for every constraint and every availability list, an unparsable
  constraint is an error whatever the list; otherwise the no-match error comes exactly when
  no entry parses and satisfies the constraint, and any answer is an available entry that
  parses, satisfies it, and is less than no other entry that does.

Go's sort is not stable, so among entries of equal precedence (`1.0` and `1.0.0`) which
spelling is returned is the sort's choice; the statements hold for every choice.
-/

namespace RegletHost

namespace Plugins

/-- What `Resolve` calls of `Masterminds/semver`, over versions `V` and constraints `C`:
`NewVersion` (`none` for its error), `NewConstraint` (its error's text), `Check` and
`LessThan`. -/
structure Semver (V C : Type) where
  newVersion : String → Option V
  newConstraint : String → Except String C
  check : C → V → Bool
  lessThan : V → V → Bool

variable {V C : Type} (sv : Semver V C)

/-- `sort.Sort(semver.Collection(valid))` on versions paired with the text they were parsed
from (`Version.Original`): a permutation that leaves no version after one it is less than. -/
structure CollectionSort where
  sort : List (String × V) → List (String × V)
  perm : ∀ l, (sort l).Perm l
  sorted : ∀ l, (sort l).Pairwise fun a b => sv.lessThan b.2 a.2 = false

/-- Go's `insertionSort`, which `sort.Sort` runs on up to twelve versions, is a
`CollectionSort` whenever `LessThan` is asymmetric and its negation transitive. -/
def CollectionSort.insertion (asymm : ∀ a b, sv.lessThan a b = true → sv.lessThan b a = false)
    (negTrans : ∀ a b c, sv.lessThan b a = false → sv.lessThan c b = false →
      sv.lessThan c a = false) :
    CollectionSort sv where
  sort := List.insertionSort fun a b => sv.lessThan b.2 a.2 = false
  perm := List.perm_insertionSort _
  sorted l := by
    have : IsTotal (String × V) fun a b => sv.lessThan b.2 a.2 = false :=
      ⟨fun a b => by
        cases h : sv.lessThan b.2 a.2
        · exact .inl rfl
        · exact .inr (asymm _ _ h)⟩
    have : IsTrans (String × V) fun a b => sv.lessThan b.2 a.2 = false :=
      ⟨fun a b c hab hbc => negTrans _ _ _ hab hbc⟩
    exact List.sorted_insertionSort _ l

/-- The constraint `Resolve` parses: `latest` is `>= 0`. -/
def constraintText (constraint : String) : String :=
  if constraint = "latest" then ">= 0" else constraint

/-- The available entries that parse and satisfy `c`, with their original text, in order. -/
def satisfying (c : C) (available : List String) : List (String × V) :=
  available.filterMap fun vStr =>
    match sv.newVersion vStr with
    | some v => if sv.check c v then some (vStr, v) else none
    | none => none

/-- The error when no entry satisfies the constraint. -/
def noMatch (constraint : String) : String :=
  "no version satisfies constraint " ++ Netutil.goQuote constraint ++ " from available options"

lemma sort_ne_nil (s : CollectionSort sv) {l : List (String × V)} (h : l.isEmpty = false) :
    s.sort l ≠ [] := fun he =>
  absurd (List.isEmpty_iff.mpr ((he ▸ (s.perm l).symm : l.Perm []).eq_nil)) (by simp [h])

/-- `SemverResolver.Resolve`: the original text of the last satisfying version once sorted. -/
def resolve (s : CollectionSort sv) (constraint : String) (available : List String) :
    Except String String :=
  match sv.newConstraint (constraintText constraint) with
  | .error err =>
    .error ("invalid version constraint " ++ Netutil.goQuote constraint ++ ": " ++ err)
  | .ok c =>
    let valid := satisfying sv c available
    if h : valid.isEmpty then .error (noMatch constraint)
    else .ok ((s.sort valid).getLast (sort_ne_nil sv s (Bool.eq_false_iff.mpr h))).1

@[simp] lemma mem_satisfying {c : C} {available : List String} {a : String} {v : V} :
    (a, v) ∈ satisfying sv c available ↔
      a ∈ available ∧ sv.newVersion a = some v ∧ sv.check c v = true := by
  simp only [satisfying, List.mem_filterMap]
  constructor
  · rintro ⟨b, hb, hsome⟩
    split at hsome
    · split_ifs at hsome with hc
      cases hsome
      exact ⟨hb, by assumption, hc⟩
    · cases hsome
  · rintro ⟨ha, hv, hc⟩
    exact ⟨a, ha, by simp [hv, hc]⟩

lemma satisfying_isEmpty {c : C} {available : List String} :
    (satisfying sv c available).isEmpty = true ↔
      ∀ a ∈ available, ∀ v, sv.newVersion a = some v → sv.check c v = false := by
  constructor
  · intro h a ha v hv
    cases hc : sv.check c v
    · rfl
    · exact absurd ((mem_satisfying sv).mpr ⟨ha, hv, hc⟩) (by simp [List.isEmpty_iff.mp h])
  · intro h
    refine List.isEmpty_iff.mpr (List.eq_nil_iff_forall_not_mem.mpr fun ⟨a, v⟩ hm => ?_)
    obtain ⟨ha, hv, hc⟩ := (mem_satisfying sv).mp hm
    simp [h a ha v hv] at hc

/-- The last element of a list sorted so that nothing comes after a smaller element is less
than no other element. -/
lemma lessThan_getLast_eq_false {l : List (String × V)}
    (hs : l.Pairwise fun a b => sv.lessThan b.2 a.2 = false) (hne : l ≠ [])
    {x : String × V} (hx : x ∈ l) (hxl : x ≠ l.getLast hne) :
    sv.lessThan (l.getLast hne).2 x.2 = false := by
  have hsplit := List.dropLast_append_getLast hne
  rw [← hsplit] at hs hx
  rcases List.mem_append.mp hx with hx | hx
  · exact (List.pairwise_append.mp hs).2.2 x hx _ (List.mem_singleton_self _)
  · exact absurd (List.mem_singleton.mp hx) hxl

/-- **The highest satisfying version.** For every constraint and every availability list:
an unparsable constraint (with `latest` read as `>= 0`) is an error whatever the list;
otherwise `Resolve` returns a version or its no-match error, the error exactly when no entry parses and satisfies the
constraint, and anything it returns is an available entry that parses, satisfies the
constraint, and is less than no other entry that parses and satisfies it. -/
theorem resolve_highest (s : CollectionSort sv) (constraint : String) (available : List String) :
    (∀ err, sv.newConstraint (constraintText constraint) = .error err →
      resolve sv s constraint available =
        .error ("invalid version constraint " ++ Netutil.goQuote constraint ++ ": " ++ err)) ∧
    ∀ c, sv.newConstraint (constraintText constraint) = .ok c →
      (resolve sv s constraint available = .error (noMatch constraint) ∨
          ∃ r, resolve sv s constraint available = .ok r) ∧
        (resolve sv s constraint available = .error (noMatch constraint) ↔
          ∀ a ∈ available, ∀ v, sv.newVersion a = some v → sv.check c v = false) ∧
        ∀ r, resolve sv s constraint available = .ok r →
          r ∈ available ∧ ∃ v, sv.newVersion r = some v ∧ sv.check c v = true ∧
            ∀ a ∈ available, a ≠ r → ∀ w, sv.newVersion a = some w → sv.check c w = true →
              sv.lessThan v w = false := by
  refine ⟨fun err h => by simp only [resolve, h], fun c hc => ?_⟩
  unfold resolve
  simp only [hc]
  split_ifs with h
  · exact ⟨.inl rfl, iff_of_true rfl ((satisfying_isEmpty sv).mp h), fun r hr => by cases hr⟩
  · have hne := sort_ne_nil sv s (Bool.eq_false_iff.mpr h)
    set last := (s.sort (satisfying sv c available)).getLast hne
    have hmem : last ∈ satisfying sv c available :=
      (s.perm _).subset (List.getLast_mem hne)
    obtain ⟨hr, hv, hcv⟩ := (mem_satisfying sv).mp hmem
    refine ⟨.inr ⟨_, rfl⟩,
      iff_of_false (fun he => by cases he) fun hall => h ((satisfying_isEmpty sv).mpr hall),
      fun r hres => ?_⟩
    cases hres
    refine ⟨hr, last.2, hv, hcv, fun a ha hne' w hw hcw => ?_⟩
    have hsat : (a, w) ∈ s.sort (satisfying sv c available) :=
      (s.perm _).symm.subset ((mem_satisfying sv).mpr ⟨ha, hw, hcw⟩)
    exact lessThan_getLast_eq_false sv (s.sorted _) hne hsat fun he => hne' (congrArg Prod.fst he)

/-- Decimal numerals as versions, `>= 0` as the only constraint: `latest` picks the largest
numeral and skips the entry that does not parse, and the answer is the one the theorem
describes. -/
theorem resolve_latest_numerals :
    let sv : Semver Nat Unit :=
      ⟨fun s => if s.data ≠ [] ∧ s.data.all Char.isDigit then
          some (s.data.foldl (fun n c => n * 10 + (c.toNat - 48)) 0) else none,
        fun s => if s = ">= 0" then .ok () else .error "improper constraint",
        fun _ _ => true, fun a b => decide (a < b)⟩
    let s : CollectionSort sv :=
      .insertion sv (fun _ _ h => by simp_all; omega) fun _ _ _ h1 h2 => by simp_all; omega
    let available := ["1", "x", "3", "2"]
    resolve sv s "latest" available = .ok "3" ∧
      "3" ∈ available ∧ ∃ v, sv.newVersion "3" = some v ∧ sv.check () v = true ∧
        ∀ a ∈ available, a ≠ "3" → ∀ w, sv.newVersion a = some w → sv.check () w = true →
          sv.lessThan v w = false := by
  intro sv s available
  have hres : resolve sv s "latest" available = .ok "3" := rfl
  exact ⟨hres, ((resolve_highest sv s "latest" available).2 () rfl).2.2 "3" hres⟩

end Plugins

end RegletHost
