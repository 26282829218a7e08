import Mathlib.Data.List.Basic

/-!
The grant model: the capability value types of `hostfunc.GrantSet` and their set algebra
(spec §3, *Grant Model*). The sources import the type and its methods from the ABI package
(`reglet-abi/hostfunc`), which is not among them, so everything here is modelled from the
spec's rule table and its description of the set algebra.

* `GrantSet`: the five sub-capabilities as rule lists. An absent sub-capability (a nil
  pointer in Go) and an empty one deny alike, and no function modelled here tells them
  apart, so both are the empty list.
* `GrantSet.merge`, `GrantSet.clone`, `GrantSet.isEmpty`: union of rules per class, copy,
  emptiness.
* `GrantSet.deduplicate`: identical rules collapse, and network rules with identical host
  lists merge by union of their ports. `grantsPair_dedupNetwork` shows that the host/port
  pairs a network class grants are unchanged by it, `mem_dedupList` the same for the other
  classes.
-/

namespace RegletHost

/-- A network rule: host patterns and port patterns (`hostfunc.NetworkRule`). -/
structure NetworkRule where
  hosts : List String
  ports : List String
  deriving DecidableEq, Repr

/-- A filesystem rule: read and write path patterns (`hostfunc.FileSystemRule`). -/
structure FileSystemRule where
  read : List String
  write : List String
  deriving DecidableEq, Repr

/-- A key-value rule: key patterns and an operation among `read`, `write` and
`read-write` (`hostfunc.KeyValueRule`). -/
structure KeyValueRule where
  keys : List String
  operation : String
  deriving DecidableEq, Repr

/-- A grant set (`hostfunc.GrantSet`): network rules, filesystem rules, environment
variable patterns, exec command patterns and key-value rules. -/
structure GrantSet where
  network : List NetworkRule := []
  fs : List FileSystemRule := []
  env : List String := []
  exec : List String := []
  kv : List KeyValueRule := []
  deriving DecidableEq, Repr

/-! ### Deduplication of a rule list -/

/-- Drop the later copies of repeated entries, keeping the first occurrence of each. -/
def dedupList {α : Type} [DecidableEq α] (l : List α) : List α :=
  l.foldl (fun acc x => if x ∈ acc then acc else acc ++ [x]) []

lemma mem_foldl_dedup {α : Type} [DecidableEq α] (x : α) :
    ∀ (l acc : List α),
      x ∈ l.foldl (fun acc y => if y ∈ acc then acc else acc ++ [y]) acc ↔ x ∈ acc ∨ x ∈ l
  | [], acc => by simp
  | y :: l, acc => by
      rw [List.foldl_cons, mem_foldl_dedup x l]
      by_cases hy : y ∈ acc
      · simp only [hy, if_true, List.mem_cons]
        constructor
        · rintro (h | h) <;> simp [h]
        · rintro (h | rfl | h) <;> simp [*]
      · simp only [hy, if_false, List.mem_append, List.mem_singleton, List.mem_cons]
        tauto

@[simp] lemma mem_dedupList {α : Type} [DecidableEq α] (x : α) (l : List α) :
    x ∈ dedupList l ↔ x ∈ l := by
  simp [dedupList, mem_foldl_dedup]

/-! ### Network rules merged by host list -/

/-- The ports of `a` followed by those of `b` that `a` lacks. -/
def unionPorts (a b : List String) : List String := a ++ b.filter (fun p => p ∉ a)

@[simp] lemma mem_unionPorts (a b : List String) (p : String) :
    p ∈ unionPorts a b ↔ p ∈ a ∨ p ∈ b := by
  by_cases h : p ∈ a <;> simp [unionPorts, h]

/-- Add a network rule to a deduplicated list: a rule with the same host list absorbs its
ports, otherwise it is appended. -/
def insertNetworkRule (acc : List NetworkRule) (r : NetworkRule) : List NetworkRule :=
  if acc.any (fun a => a.hosts = r.hosts) then
    acc.map fun a => if a.hosts = r.hosts then { a with ports := unionPorts a.ports r.ports }
      else a
  else acc ++ [r]

/-- Network deduplication: rules with identical host lists merge by union of ports. -/
def dedupNetwork (rs : List NetworkRule) : List NetworkRule := rs.foldl insertNetworkRule []

/-- The host pattern `h` and port pattern `p` stand together in one of the rules. -/
def GrantsPair (rs : List NetworkRule) (h p : String) : Prop :=
  ∃ r ∈ rs, h ∈ r.hosts ∧ p ∈ r.ports

lemma grantsPair_append (rs ss : List NetworkRule) (h p : String) :
    GrantsPair (rs ++ ss) h p ↔ GrantsPair rs h p ∨ GrantsPair ss h p := by
  simp only [GrantsPair, List.mem_append]
  constructor
  · rintro ⟨r, hr | hr, hh, hp⟩
    exacts [.inl ⟨r, hr, hh, hp⟩, .inr ⟨r, hr, hh, hp⟩]
  · rintro (⟨r, hr, hh, hp⟩ | ⟨r, hr, hh, hp⟩)
    exacts [⟨r, .inl hr, hh, hp⟩, ⟨r, .inr hr, hh, hp⟩]

lemma grantsPair_insertNetworkRule (acc : List NetworkRule) (r : NetworkRule) (h p : String) :
    GrantsPair (insertNetworkRule acc r) h p ↔ GrantsPair acc h p ∨ (h ∈ r.hosts ∧ p ∈ r.ports) := by
  unfold insertNetworkRule
  split
  case isTrue hany =>
    obtain ⟨a, ha, hha⟩ := List.any_eq_true.mp hany
    have hha : a.hosts = r.hosts := of_decide_eq_true hha
    simp only [GrantsPair, List.mem_map]
    constructor
    · rintro ⟨_, ⟨b, hb, rfl⟩, hh, hp⟩
      by_cases hbr : b.hosts = r.hosts
      · simp only [hbr, if_true, mem_unionPorts] at hh hp
        rcases hp with hp | hp
        exacts [.inl ⟨b, hb, hbr ▸ hh, hp⟩, .inr ⟨hh, hp⟩]
      · simp only [hbr, if_false] at hh hp
        exact .inl ⟨b, hb, hh, hp⟩
    · rintro (⟨b, hb, hh, hp⟩ | ⟨hh, hp⟩)
      · refine ⟨_, ⟨b, hb, rfl⟩, ?_⟩
        by_cases hbr : b.hosts = r.hosts
        · rw [if_pos hbr]
          exact ⟨hh, (mem_unionPorts _ _ _).mpr (.inl hp)⟩
        · rw [if_neg hbr]
          exact ⟨hh, hp⟩
      · refine ⟨_, ⟨a, ha, rfl⟩, ?_⟩
        simp [hha, hh, hp]
  case isFalse =>
    rw [grantsPair_append]
    simp [GrantsPair]

lemma grantsPair_foldl_insert (h p : String) :
    ∀ (rs acc : List NetworkRule),
      GrantsPair (rs.foldl insertNetworkRule acc) h p ↔ GrantsPair acc h p ∨ GrantsPair rs h p
  | [], acc => by simp [GrantsPair]
  | r :: rs, acc => by
      rw [List.foldl_cons, grantsPair_foldl_insert h p rs, grantsPair_insertNetworkRule,
        show GrantsPair (r :: rs) h p ↔ (h ∈ r.hosts ∧ p ∈ r.ports) ∨ GrantsPair rs h p by
          simp [GrantsPair]]
      tauto

/-- Network deduplication keeps exactly the host/port pairs of the rules. -/
@[simp] lemma grantsPair_dedupNetwork (rs : List NetworkRule) (h p : String) :
    GrantsPair (dedupNetwork rs) h p ↔ GrantsPair rs h p := by
  rw [dedupNetwork, grantsPair_foldl_insert]
  simp [GrantsPair]

namespace GrantSet

/-- `IsEmpty`: no class holds a rule. -/
def isEmpty (g : GrantSet) : Bool :=
  g.network.isEmpty && g.fs.isEmpty && g.env.isEmpty && g.exec.isEmpty && g.kv.isEmpty

/-- `Merge`: union of the rules per class, those of `g` first. -/
def merge (g h : GrantSet) : GrantSet where
  network := g.network ++ h.network
  fs := g.fs ++ h.fs
  env := g.env ++ h.env
  exec := g.exec ++ h.exec
  kv := g.kv ++ h.kv

/-- `Clone`: a grant set is a value here, so its copy is itself. -/
def clone (g : GrantSet) : GrantSet := g

/-- `Deduplicate`: identical rules collapse; network rules with identical host lists merge
by union of their ports. -/
def deduplicate (g : GrantSet) : GrantSet where
  network := dedupNetwork g.network
  fs := dedupList g.fs
  env := dedupList g.env
  exec := dedupList g.exec
  kv := dedupList g.kv

@[simp] lemma merge_network (g h : GrantSet) : (g.merge h).network = g.network ++ h.network := rfl
@[simp] lemma merge_fs (g h : GrantSet) : (g.merge h).fs = g.fs ++ h.fs := rfl
@[simp] lemma merge_env (g h : GrantSet) : (g.merge h).env = g.env ++ h.env := rfl
@[simp] lemma merge_exec (g h : GrantSet) : (g.merge h).exec = g.exec ++ h.exec := rfl
@[simp] lemma merge_kv (g h : GrantSet) : (g.merge h).kv = g.kv ++ h.kv := rfl
@[simp] lemma clone_eq (g : GrantSet) : g.clone = g := rfl
@[simp] lemma deduplicate_network (g : GrantSet) :
    g.deduplicate.network = dedupNetwork g.network := rfl
@[simp] lemma deduplicate_fs (g : GrantSet) : g.deduplicate.fs = dedupList g.fs := rfl
@[simp] lemma deduplicate_env (g : GrantSet) : g.deduplicate.env = dedupList g.env := rfl
@[simp] lemma deduplicate_exec (g : GrantSet) : g.deduplicate.exec = dedupList g.exec := rfl
@[simp] lemma deduplicate_kv (g : GrantSet) : g.deduplicate.kv = dedupList g.kv := rfl

/-- The merge of a list of grant sets, in order. -/
def mergeAll (gs : List GrantSet) : GrantSet where
  network := gs.flatMap (·.network)
  fs := gs.flatMap (·.fs)
  env := gs.flatMap (·.env)
  exec := gs.flatMap (·.exec)
  kv := gs.flatMap (·.kv)

@[simp] lemma mergeAll_network (gs : List GrantSet) :
    (mergeAll gs).network = gs.flatMap (·.network) := rfl
@[simp] lemma mergeAll_fs (gs : List GrantSet) : (mergeAll gs).fs = gs.flatMap (·.fs) := rfl
@[simp] lemma mergeAll_env (gs : List GrantSet) : (mergeAll gs).env = gs.flatMap (·.env) := rfl
@[simp] lemma mergeAll_exec (gs : List GrantSet) : (mergeAll gs).exec = gs.flatMap (·.exec) := rfl
@[simp] lemma mergeAll_kv (gs : List GrantSet) : (mergeAll gs).kv = gs.flatMap (·.kv) := rfl

/-- Merging one more set onto a merged list is merging the longer list. -/
lemma merge_mergeAll_append (a : GrantSet) (gs : List GrantSet) (g : GrantSet) :
    (a.merge (mergeAll gs)).merge g = a.merge (mergeAll (gs ++ [g])) := by
  simp [merge, mergeAll, List.append_assoc]

@[simp] lemma merge_mergeAll_nil (a : GrantSet) : a.merge (mergeAll []) = a := by
  simp [merge, mergeAll]

lemma isEmpty_iff (g : GrantSet) :
    g.isEmpty = true ↔ g.network = [] ∧ g.fs = [] ∧ g.env = [] ∧ g.exec = [] ∧ g.kv = [] := by
  simp [isEmpty, and_assoc]

lemma eq_empty_of_isEmpty {g : GrantSet} (h : g.isEmpty = true) : g = {} := by
  obtain ⟨h₁, h₂, h₃, h₄, h₅⟩ := (isEmpty_iff g).mp h
  cases g
  simp_all

end GrantSet

end RegletHost
