import RegletHost.Text

/-!
The Policy Engine's matchers (spec §4.1). The sources hold the engine's interface
(`policy/interface.go`) and its tests, not `policy.NewPolicy` itself, so the matchers are
modelled from the spec; the tests in `policy_test` agree with them.

* `matchHost`: equality, the wildcard `*`, or `*.rest` matching a host whose part after
  its leading label is `rest`.
* `matchPort`: `*`, an integer, or an inclusive range `low-high`.
* `globMatch`: environment names and commands, `*` a run of non-separator characters and
  `**` any run.
* `cleanPath`, `matchPath`: `filepath.Clean` and the path patterns `/a/**`, `/a/*` and
  exact paths.

Each matcher has a covering relation between patterns (`hostCovers`, `portCovers`,
`globCovers`, `pathCovers`, `opCovers`), used by the policy-aware difference, with its
soundness lemma: a pattern covering another matches everything the other matches.
-/

namespace RegletHost

/-! ### Character helpers -/

/-- The split at the first occurrence of `c` (`strings.Cut`): what precedes it, and what
follows it if it occurs. -/
def cutChar (c : Char) : List Char → List Char × Option (List Char)
  | [] => ([], none)
  | d :: ds => if d = c then ([], some ds) else ((cutChar c ds).1.cons d, (cutChar c ds).2)

/-- Cutting a text whose first `c` follows `l` gives `l` and what follows the `c`. -/
lemma cutChar_append_cons {c : Char} {l : List Char} (r : List Char) (h : c ∉ l) :
    cutChar c (l ++ c :: r) = (l, some r) := by
  induction l with
  | nil => simp [cutChar]
  | cons d ds ih =>
    simp only [List.mem_cons, not_or] at h
    simp [cutChar, ih h.2, Ne.symm h.1]

/-- A text without `c` is not cut. -/
lemma cutChar_of_not_mem {c : Char} {l : List Char} (h : c ∉ l) : cutChar c l = (l, none) := by
  induction l with
  | nil => rfl
  | cons d ds ih =>
    simp only [List.mem_cons, not_or] at h
    simp [cutChar, ih h.2, Ne.symm h.1]

/-- A text whose `cutChar` finds `c` is the part before it, free of `c`, then `c` and the rest. -/
lemma cutChar_eq_some {c : Char} {l a b : List Char} (h : cutChar c l = (a, some b)) :
    l = a ++ c :: b ∧ c ∉ a := by
  induction l generalizing a with
  | nil => simp [cutChar] at h
  | cons d ds ih =>
    by_cases hd : d = c
    · simp only [cutChar, hd, if_true, Prod.mk.injEq, Option.some.injEq] at h
      obtain ⟨rfl, rfl⟩ := h
      simp [hd]
    · simp only [cutChar, hd, if_false, Prod.mk.injEq] at h
      obtain ⟨rfl, h2⟩ := h
      obtain ⟨h1, h3⟩ := ih (Prod.ext rfl h2)
      exact ⟨congrArg (d :: ·) h1, by simp [Ne.symm hd, h3]⟩

/-- The last separator of a text is where it is: two texts that end in a separator and
separator-free tails are equal only part by part. -/
lemma append_cons_inj_of_not_mem {c : Char} {a b x y : List Char} (hx : c ∉ x) (hy : c ∉ y)
    (h : a ++ c :: x = b ++ c :: y) : a = b ∧ x = y := by
  have hr := congrArg (fun l => cutChar c l.reverse) h
  simp only [List.reverse_append, List.reverse_cons, List.append_assoc, List.singleton_append] at hr
  rw [cutChar_append_cons _ (by simpa using hx), cutChar_append_cons _ (by simpa using hy)] at hr
  simp only [Prod.mk.injEq, Option.some.injEq, List.reverse_inj] at hr
  exact ⟨hr.2, hr.1⟩

/-- Split at every occurrence of `c` (`strings.Split`). -/
def splitChar (c : Char) : List Char → List (List Char)
  | [] => [[]]
  | d :: ds =>
      if d = c then [] :: splitChar c ds
      else match splitChar c ds with
        | [] => [[d]]
        | s :: ss => (d :: s) :: ss

/-- `splitChar` is Mathlib's `List.splitOn`, whose round trips with `List.intercalate`
then apply. -/
lemma splitChar_eq_splitOn (c : Char) (l : List Char) : splitChar c l = l.splitOn c := by
  induction l with
  | nil => rfl
  | cons d ds ih =>
    simp only [List.splitOn] at ih ⊢
    rw [List.splitOnP_cons, splitChar, ← ih]
    by_cases h : d = c
    · simp [h]
    · simp only [h, if_false, beq_iff_eq]
      cases hs : splitChar c ds with
      | nil => exact absurd (hs ▸ ih).symm (List.splitOnP_ne_nil _ _)
      | cons s ss => rfl

/-- No piece that `splitChar` cuts holds the separator. -/
lemma not_mem_of_mem_splitChar {c : Char} {l p : List Char} (h : p ∈ splitChar c l) : c ∉ p := by
  induction l generalizing p with
  | nil => simp_all [splitChar]
  | cons d ds ih =>
    unfold splitChar at h
    split_ifs at h with hd
    · rcases List.mem_cons.mp h with rfl | h
      · simp
      · exact ih h
    · split at h <;> rename_i hs
      · simp only [List.mem_singleton] at h
        subst h
        simpa using Ne.symm hd
      · rcases List.mem_cons.mp h with rfl | h
        · simp only [List.mem_cons, not_or]
          exact ⟨fun e => hd e.symm, ih (by simp [hs])⟩
        · exact ih (by simp [hs, h])

/-! ### Hosts -/

/-- The part of a host after its leading label, if it has a dot. -/
def afterLeadingLabel : List Char → Option (List Char)
  | [] => none
  | c :: rest => if c = '.' then some rest else afterLeadingLabel rest

/-- Modelled from the spec: the policy engine's host matcher, absent from the sources. A
pattern equals the host, is `*`, or is `*.rest` and the host's part after its leading label
is `rest`. -/
def matchHost (pattern host : String) : Bool :=
  pattern == "*" || pattern == host ||
    match pattern.toList with
    | '*' :: '.' :: suffix => afterLeadingLabel host.toList == some suffix
    | _ => false

lemma matchHost_iff (pattern host : String) :
    matchHost pattern host = true ↔
      pattern = "*" ∨ pattern = host ∨
        ∃ suffix, pattern.toList = '*' :: '.' :: suffix ∧
          afterLeadingLabel host.toList = some suffix := by
  unfold matchHost
  split <;> simp_all [or_assoc]

@[simp] lemma matchHost_star (host : String) : matchHost "*" host = true := by
  simp [matchHost_iff]

@[simp] lemma matchHost_self (host : String) : matchHost host host = true := by
  simp [matchHost_iff]

/-- A host pattern covers another when it matches it read as a host. -/
def hostCovers (g h : String) : Bool := matchHost g h

/-- **Host covering is sound**: a pattern matching the pattern `h` read as a host matches
every host that `h` matches. -/
lemma matchHost_of_hostCovers {g h x : String} (hc : hostCovers g h = true)
    (hx : matchHost h x = true) : matchHost g x = true := by
  rw [hostCovers, matchHost_iff] at hc
  rw [matchHost_iff] at hx ⊢
  rcases hc with rfl | rfl | ⟨suf, hg, hh⟩
  · exact .inl rfl
  · exact hx
  · rcases hx with rfl | rfl | ⟨suf', hh', hx⟩
    · simp [afterLeadingLabel] at hh
    · exact .inr (.inr ⟨suf, hg, hh⟩)
    · rw [hh'] at hh
      simp only [afterLeadingLabel] at hh
      simp only [show ('*' : Char) ≠ '.' by decide, if_false, if_true, Option.some.injEq] at hh
      exact .inr (.inr ⟨suf, hg, hh ▸ hx⟩)

/-! ### Ports -/

/-- Modelled from the spec: the policy engine's port matcher, absent from the sources.
Patterns are `*`, an integer, or an inclusive range `low-high`. -/
def matchPort (pattern : String) (port : Int) : Bool :=
  pattern == "*" ||
    if (atoi pattern).2 then (atoi pattern).1 == port
    else match cutChar '-' pattern.toList with
      | (lo, some hi) =>
          match parseDecimal lo, parseDecimal hi with
          | some a, some b => decide ((a : Int) ≤ port ∧ port ≤ b)
          | _, _ => false
      | _ => false

@[simp] lemma matchPort_star (port : Int) : matchPort "*" port = true := by
  simp [matchPort]

/-- An integer pattern matches exactly its own value. -/
lemma matchPort_of_atoi {p : String} (hp : (atoi p).2 = true) (n : Int) :
    matchPort p n = true ↔ (atoi p).1 = n := by
  have hstar : p ≠ "*" := by rintro rfl; simp [atoi, splitSign, parseDecimal, readDigits, digitValue] at hp
  simp [matchPort, hstar, hp]

/-- A port pattern covers another when it is `*`, the same pattern, or matches the other
read as an integer. -/
def portCovers (g p : String) : Bool :=
  g == "*" || g == p || ((atoi p).2 && matchPort g (atoi p).1)

/-- **Port covering is sound**. -/
lemma matchPort_of_portCovers {g p : String} {n : Int} (hc : portCovers g p = true)
    (hn : matchPort p n = true) : matchPort g n = true := by
  simp only [portCovers, Bool.or_eq_true, beq_iff_eq, Bool.and_eq_true] at hc
  rcases hc with (rfl | rfl) | ⟨hp, hg⟩
  · exact matchPort_star n
  · exact hn
  · rwa [← (matchPort_of_atoi hp n).mp hn]

/-! ### Globs -/

/-- The suffixes of `s` reached by dropping non-separator characters. -/
def nonSepTails : List Char → List (List Char)
  | [] => [[]]
  | c :: cs => (c :: cs) :: if c = '/' then [] else nonSepTails cs

/-- Modelled from the spec: the glob used for environment names and commands, absent from
the sources. `**` matches any run of characters, `*` a run of non-separator characters,
and every other character itself. -/
def globMatch : List Char → List Char → Bool
  | [], s => s.isEmpty
  | '*' :: '*' :: p, s => s.tails.any (globMatch p)
  | '*' :: p, s => (nonSepTails s).any (globMatch p)
  | _ :: _, [] => false
  | c :: p, d :: s => c == d && globMatch p s

lemma globMatch_nil (s : List Char) : globMatch [] s = true ↔ s = [] := by
  simp [globMatch]

/-- A pattern without `*` matches exactly itself. -/
lemma globMatch_of_noStar : ∀ (p s : List Char), '*' ∉ p → (globMatch p s = true ↔ s = p)
  | [], s, _ => globMatch_nil s
  | c :: p, s, h => by
      have hc : c ≠ '*' := fun e => h (e ▸ List.mem_cons_self c p)
      have hp : '*' ∉ p := fun e => h (List.mem_cons_of_mem c e)
      cases s with
      | nil => simp [globMatch, hc]
      | cons d s =>
          have step : globMatch (c :: p) (d :: s) = (c == d && globMatch p s) := by
            simp [globMatch, hc]
          rw [step, Bool.and_eq_true, beq_iff_eq, globMatch_of_noStar p s hp, List.cons.injEq]
          constructor <;> rintro ⟨rfl, rfl⟩ <;> exact ⟨rfl, rfl⟩

/-- `**` matches every string. -/
@[simp] lemma globMatch_doubleStar (s : List Char) : globMatch ['*', '*'] s = true := by
  simp only [globMatch, List.any_eq_true]
  exact ⟨[], (List.mem_tails _ _).mpr List.nil_suffix, rfl⟩

/-- A glob covers another when it is the same pattern, `**`, or matches the other when the
other holds no wildcard. -/
def globCovers (g p : String) : Bool :=
  g == p || g == "**" || (decide ('*' ∉ p.toList) && globMatch g.toList p.toList)

/-- **Glob covering is sound**. -/
lemma globMatch_of_globCovers {g p : String} {x : List Char} (hc : globCovers g p = true)
    (hx : globMatch p.toList x = true) : globMatch g.toList x = true := by
  simp only [globCovers, Bool.or_eq_true, beq_iff_eq, Bool.and_eq_true,
    decide_eq_true_eq] at hc
  rcases hc with (rfl | rfl) | ⟨hp, hg⟩
  · exact hx
  · exact globMatch_doubleStar x
  · rwa [(globMatch_of_noStar p.toList x hp).mp hx]

/-! ### Paths -/

/-- One step of `filepath.Clean` on the reversed stack of kept segments: empty and `.`
segments vanish, `..` removes the last kept segment, or is kept at the front of a relative
path. -/
def cleanStep (rooted : Bool) (acc : List (List Char)) (seg : List Char) : List (List Char) :=
  if seg = [] ∨ seg = ['.'] then acc
  else if seg = ['.', '.'] then
    match acc with
    | top :: rest => if top = ['.', '.'] then ['.', '.'] :: acc else rest
    | [] => if rooted then [] else [['.', '.']]
  else seg :: acc

/-- `filepath.Clean` on slash-separated paths. -/
def cleanPath (path : String) : String :=
  match path.toList with
  | [] => "."
  | c :: cs =>
      let rooted := c = '/'
      let body := List.intercalate ['/']
        ((splitChar '/' (c :: cs)).foldl (cleanStep rooted) []).reverse
      if rooted then String.mk ('/' :: body) else if body = [] then "." else String.mk body

/-- `filepath.Clean` never returns the empty path. -/
lemma cleanPath_ne_empty (path : String) : cleanPath path ≠ "" := by
  unfold cleanPath
  split
  · decide
  · dsimp only
    split_ifs with h1 h2
    · simp [String.ext_iff]
    · decide
    · simpa [String.ext_iff] using h2

/-- Modelled from the spec: the policy engine's path matcher, absent from the sources.
`/a/**` matches the paths below `/a/`, `/a/*` its direct children, any other pattern the
path itself. -/
def matchPath (pattern path : String) : Bool :=
  match pattern.toList.reverse with
  | '*' :: '*' :: '/' :: rbase => (rbase.reverse ++ ['/']).isPrefixOf path.toList
  | '*' :: '/' :: rbase =>
      (rbase.reverse ++ ['/']).isPrefixOf path.toList &&
        let name := path.toList.drop (rbase.length + 1)
        !name.isEmpty && !name.contains '/'
  | _ => pattern == path

/-- A path pattern without `*` matches exactly itself. -/
lemma matchPath_of_noStar {p : String} (hp : '*' ∉ p.toList) (x : String) :
    matchPath p x = true ↔ p = x := by
  unfold matchPath
  split
  case h_1 rbase h | h_2 rbase h =>
    exact absurd (List.mem_reverse.mp (h ▸ List.mem_cons_self '*' _)) hp
  case h_3 => simp

/-- A path pattern covers another when it is the same pattern or matches the other when the
other holds no wildcard. -/
def pathCovers (g p : String) : Bool :=
  g == p || (decide ('*' ∉ p.toList) && matchPath g p)

/-- **Path covering is sound**. -/
lemma matchPath_of_pathCovers {g p x : String} (hc : pathCovers g p = true)
    (hx : matchPath p x = true) : matchPath g x = true := by
  simp only [pathCovers, Bool.or_eq_true, beq_iff_eq, Bool.and_eq_true,
    decide_eq_true_eq] at hc
  rcases hc with rfl | ⟨hp, hg⟩
  · exact hx
  · rwa [← (matchPath_of_noStar hp x).mp hx]

/-! ### Key-value operations -/

/-- Modelled from the spec: a key-value rule's operation allows the requested one when they
are equal, or when it is `read-write` and the request reads or writes. -/
def opAllows (ruleOp reqOp : String) : Bool :=
  ruleOp == reqOp || (ruleOp == "read-write" && (reqOp == "read" || reqOp == "write"))

/-- An operation covers another when it allows everything the other allows. -/
def opCovers (g p : String) : Bool :=
  g == p || (g == "read-write" && (p == "read" || p == "write" || p == "read-write"))

/-- **Operation covering is sound**. -/
lemma opAllows_of_opCovers {g p o : String} (hc : opCovers g p = true)
    (ho : opAllows p o = true) : opAllows g o = true := by
  simp only [opCovers, opAllows, Bool.or_eq_true, beq_iff_eq, Bool.and_eq_true] at hc ho ⊢
  rcases hc with rfl | ⟨rfl, (rfl | rfl) | rfl⟩ <;> rcases ho with rfl | ⟨h, _⟩ <;> simp_all

end RegletHost
