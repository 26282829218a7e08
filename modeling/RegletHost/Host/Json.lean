import RegletHost.Text
import Mathlib.Data.List.Sort

/-!
JSON documents and the two trips of `encoding/json` that `UserAgentMiddleware` makes:
`json.Unmarshal` into `map[string]any` (`toAny`) and `json.Marshal` of the result
(`marshal`).

A document keeps its members in order, duplicates included: Go's decoders read them in
order, the last of equal keys winning in a map. Numbers are integer literals, or literals
with a fraction or an exponent (`numOther`), whose value nothing modelled reads. Decoded
into `any` a number becomes a `float64` (`float64OfInt`), which `json.Marshal` prints as
`strconv`'s shortest digits (`shortestDigits`).

* `float64OfInt_of_lt`: an integer below `2^53` is a `float64` as it is.
* `marshal_toAny_num`: such an integer makes the round trip unchanged; `2^53 + 1` comes back
  as `2^53`.
-/

namespace RegletHost

/-- A JSON document. -/
inductive Json
  | null
  | bool (b : Bool)
  | num (n : Int)
  | numOther
  | str (s : String)
  | arr (xs : List Json)
  | obj (members : List (String × Json))
  deriving Repr

namespace Json

/-! ### `float64` -/

/-- How many low bits of `m` a `float64` drops: halvings until fewer than 53 bits are left
(`fuel` bounds them). -/
def droppedBits : Nat → Nat → Nat
  | 0, _ => 0
  | fuel + 1, m => if m < 2 ^ 53 then 0 else droppedBits fuel (m / 2) + 1

/-- `strconv.ParseFloat` of an integer literal: the nearest `float64`, ties to even, as the
integer it is; `none` from `2^1024` on (`ErrRange`), which the 53 bits kept reach exactly
when `971` or more are dropped with the rounding carried up to `2^53`, or `972` or more. -/
def float64OfInt (n : Int) : Option Int :=
  let m := n.natAbs
  let e := droppedBits m m
  let q := m / 2 ^ e
  let r := m % 2 ^ e
  let q' := if 2 * r > 2 ^ e ∨ (2 * r = 2 ^ e ∧ q % 2 = 1) then q + 1 else q
  if 971 < e ∨ (e = 971 ∧ q' = 2 ^ 53) then none
  else some (if n < 0 then -((q' * 2 ^ e : Nat) : Int) else ((q' * 2 ^ e : Nat) : Int))

lemma droppedBits_of_lt {m : Nat} (h : m < 2 ^ 53) (fuel : Nat) : droppedBits fuel m = 0 := by
  cases fuel with
  | zero => rfl
  | succ fuel => simp only [droppedBits, if_pos h]

/-- With fuel enough, the bits dropped from an integer of `53` bits or more leave `53`. -/
lemma droppedBits_spec : ∀ fuel m, m ≤ fuel → 2 ^ 53 ≤ m →
    0 < droppedBits fuel m ∧ 2 ^ 52 ≤ m / 2 ^ droppedBits fuel m ∧ m / 2 ^ droppedBits fuel m < 2 ^ 53
  | 0, m, hf, hm => by omega
  | fuel + 1, m, hf, hm => by
    simp only [droppedBits, if_neg (show ¬m < 2 ^ 53 by omega)]
    by_cases hlt : m / 2 < 2 ^ 53
    · rw [droppedBits_of_lt hlt]
      omega
    · obtain ⟨-, hlo, hhi⟩ := droppedBits_spec fuel (m / 2) (by omega) (by omega)
      have hdiv : m / 2 ^ (droppedBits fuel (m / 2) + 1) = m / 2 / 2 ^ droppedBits fuel (m / 2) := by
        rw [Nat.div_div_eq_div_mul, ← pow_succ']
      rw [hdiv]
      exact ⟨by omega, hlo, hhi⟩


/-- An integer below `2^53` is a `float64` as it is. -/
lemma float64OfInt_of_lt {n : Int} (h : n.natAbs < 2 ^ 53) : float64OfInt n = some n := by
  have hq : ¬((0 : Nat) > 1 ∨ (0 : Nat) = 1 ∧ n.natAbs % 2 = 1) := by omega
  have hover : ¬(971 < 0 ∨ 0 = 971 ∧ n.natAbs = 2 ^ 53) := by omega
  simp only [float64OfInt, droppedBits_of_lt h, pow_zero, Nat.div_one, Nat.mod_one, mul_zero, mul_one,
    if_neg hq, if_neg hover, Option.some.injEq]
  split_ifs with hn
  · rw [Int.ofNat_natAbs_of_nonpos hn.le, neg_neg]
  · exact Int.natAbs_of_nonneg (not_lt.mp hn)

/-- A `float64` read from `2^53` or more is `2^53` or more: at least `2^52` is kept of it,
with a bit dropped. -/
lemma le_of_float64OfInt {c : Nat} {v : Int} (hc : 2 ^ 53 ≤ c) (h : float64OfInt (c : Int) = some v) :
    2 ^ 53 ≤ v := by
  obtain ⟨he, hlo, -⟩ := droppedBits_spec c c le_rfl hc
  simp only [float64OfInt, Int.natAbs_ofNat, if_neg (show ¬((c : Int) < 0) by omega)] at h
  generalize droppedBits c c = e at he hlo h
  have h2 : 2 ≤ 2 ^ e := le_trans (by norm_num) (Nat.pow_le_pow_right (by norm_num) he)
  have hbig : ∀ X, c / 2 ^ e ≤ X → (2 : Int) ^ 53 ≤ ((X * 2 ^ e : Nat) : Int) := fun X hX => by
    have h53 : (2 : Nat) ^ 53 ≤ X * 2 ^ e := le_trans (by norm_num) (Nat.mul_le_mul (hlo.trans hX) h2)
    exact_mod_cast h53
  split_ifs at h with hr hover <;> simp only [Option.some.injEq, reduceCtorEq] at h <;> subst h
  · exact hbig _ (by omega)
  · exact hbig _ le_rfl

/-- Below `2^53`, a number is the only one read back as itself. -/
lemma eq_of_float64OfInt {c m : Nat} (hm : m < 2 ^ 53) (h : float64OfInt (c : Int) = some (m : Int)) :
    c = m := by
  by_cases hc : c < 2 ^ 53
  · rw [float64OfInt_of_lt (by simpa using hc)] at h
    exact_mod_cast Option.some.inj h
  · have := le_of_float64OfInt (by omega) h
    omega

/-- The numbers `strconv` tries for the shortest digits of a natural number `v`: `v` cut to
`p` significant digits and the next such number above, the closer first, for `p` from one
up to all of `v`'s digits. -/
def shortestCandidates (v : Nat) : List Nat :=
  let d := (Nat.toDigits 10 v).length
  (List.range d).flatMap fun i =>
    let k := d - (i + 1)
    let lo := v / 10 ^ k * 10 ^ k
    let hi := lo + 10 ^ k
    if v - lo ≤ hi - v then [lo, hi] else [hi, lo]

/-- `strconv.FormatFloat(v, 'f', -1, 64)` of a `float64` that holds the integer `v`: the
first candidate that reads back as `v`. -/
def shortestDigits (v : Int) : Int :=
  let c : Nat :=
    ((shortestCandidates v.natAbs).find? fun c : Nat => float64OfInt c = some (v.natAbs : Int)).getD v.natAbs
  if v < 0 then -(c : Int) else c

lemma mem_shortestCandidates_self (v : Nat) : v ∈ shortestCandidates v := by
  have hd : 0 < (Nat.toDigits 10 v).length := by
    have := parseDecimal_toDigits v
    cases h : Nat.toDigits 10 v with
    | nil => simp [h, parseDecimal] at this
    | cons _ _ => simp
  simp only [shortestCandidates, List.mem_flatMap, List.mem_range]
  refine ⟨(Nat.toDigits 10 v).length - 1, by omega, ?_⟩
  rw [show (Nat.toDigits 10 v).length - ((Nat.toDigits 10 v).length - 1 + 1) = 0 by omega]
  simp

/-- Below `2^53`, the shortest digits of a number are its own. -/
lemma shortestDigits_of_lt {v : Int} (h : v.natAbs < 2 ^ 53) : shortestDigits v = v := by
  have hself : float64OfInt (v.natAbs : Int) = some (v.natAbs : Int) :=
    float64OfInt_of_lt (n := v.natAbs) (by rw [Int.natAbs_ofNat]; exact h)
  have hfind : (shortestCandidates v.natAbs).find? (fun c : Nat => float64OfInt c = some (v.natAbs : Int)) =
      some v.natAbs := by
    obtain ⟨c, hc⟩ := Option.isSome_iff_exists.mp
      ((List.find?_isSome (p := fun c : Nat => decide (float64OfInt c = some (v.natAbs : Int)))).mpr
        ⟨v.natAbs, mem_shortestCandidates_self _, decide_eq_true hself⟩)
    have hpc := @List.find?_some _ (fun c : Nat => decide (float64OfInt (c : Int) = some (v.natAbs : Int))) c _ hc
    rw [hc, eq_of_float64OfInt h (of_decide_eq_true hpc)]
  simp only [shortestDigits, hfind, Option.getD_some]
  split_ifs with hn
  · rw [Int.ofNat_natAbs_of_nonpos hn.le, neg_neg]
  · exact Int.natAbs_of_nonneg (not_lt.mp hn)

/-- `json.Marshal` of a `float64` that holds an integer: plain digits below `1e21`,
exponent notation from there. -/
def marshalFloat (v : Int) : Json :=
  if 10 ^ 21 ≤ v.natAbs then .numOther else .num (shortestDigits v)

/-! ### The two trips -/

mutual
/-- `json.Unmarshal` into `any`: objects become maps, the last of equal keys winning;
numbers become `float64`s; `none`, the decoder's error, when a number is past the `float64`
range. A decoded value is kept as the document `json.Marshal` reads it from. -/
def toAny : Json → Option Json
  | .num n => (float64OfInt n).map .num
  | .arr xs => (toAnyList xs).map .arr
  | .obj kvs => (toAnyMembers kvs).map .obj
  | v => some v

/-- `toAny` of each element. -/
def toAnyList : List Json → Option (List Json)
  | [] => some []
  | x :: xs => (toAny x).bind fun y => (toAnyList xs).map (y :: ·)

/-- `toAny` of each member, into a map: a key that comes again later is left to the later
member. -/
def toAnyMembers : List (String × Json) → Option (List (String × Json))
  | [] => some []
  | (k, v) :: kvs =>
    (toAny v).bind fun w => (toAnyMembers kvs).map fun m => if m.any (·.1 = k) then m else (k, w) :: m
end

/-- `strings.Compare(a, b) <= 0` on the characters of two strings: by their bytes, which is
by their code points. -/
def charsLE : List Char → List Char → Bool
  | [], _ => true
  | _ :: _, [] => false
  | a :: as, b :: bs => if a = b then charsLE as bs else a.val < b.val

/-- `json.Marshal`'s order of a map's keys. -/
def sortMembers (kvs : List (String × Json)) : List (String × Json) :=
  kvs.insertionSort fun a b => charsLE a.1.data b.1.data

mutual
/-- `json.Marshal` of a decoded value: maps with their keys sorted, `float64`s as
`marshalFloat` prints them. -/
def marshal : Json → Json
  | .num v => marshalFloat v
  | .arr xs => .arr (marshalList xs)
  | .obj kvs => .obj (sortMembers (marshalMembers kvs))
  | v => v

/-- `marshal` of each element. -/
def marshalList : List Json → List Json
  | [] => []
  | x :: xs => marshal x :: marshalList xs

/-- `marshal` of each member's value. -/
def marshalMembers : List (String × Json) → List (String × Json)
  | [] => []
  | (k, v) :: kvs => (k, marshal v) :: marshalMembers kvs
end

/-- **The number round trip**: an integer below `2^53` comes back from `map[string]any` as
it went in. -/
lemma marshal_toAny_num {n : Int} (h : n.natAbs < 2 ^ 53) : (toAny (.num n)).map marshal = some (.num n) := by
  simp only [toAny, float64OfInt_of_lt h, Option.map_some', marshal, marshalFloat,
    if_neg (show ¬(10 ^ 21 ≤ n.natAbs) by omega), shortestDigits_of_lt h]

/-- `2^53 + 1` comes back as `2^53`. -/
example : (toAny (.num (2 ^ 53 + 1))).map marshal = some (.num (2 ^ 53)) := rfl

/-- Sorting keeps the one member a filter picks. -/
lemma filter_sortMembers {p : String × Json → Bool} {kvs : List (String × Json)} {x : String × Json}
    (h : kvs.filter p = [x]) : (sortMembers kvs).filter p = [x] :=
  List.perm_singleton.mp (((List.perm_insertionSort _ kvs).filter p).trans (h ▸ List.Perm.refl _))

/-- Marshalling the values keeps the keys a filter picks. -/
lemma filter_marshalMembers (p : String → Bool) : ∀ kvs : List (String × Json),
    (marshalMembers kvs).filter (fun kv => p kv.1) = marshalMembers (kvs.filter fun kv => p kv.1)
  | [] => rfl
  | (k, v) :: kvs => by
    by_cases hk : p k <;> simp [marshalMembers, List.filter_cons, hk, filter_marshalMembers p kvs]

/-- A key of the decoded map is a key of the object. -/
lemma mem_toAnyMembers : ∀ {kvs m : List (String × Json)}, toAnyMembers kvs = some m →
    ∀ kv ∈ m, ∃ v, (kv.1, v) ∈ kvs
  | [], m, h => by simp only [toAnyMembers, Option.some.injEq] at h; subst h; simp
  | (k, v) :: kvs, m, h => by
    simp only [toAnyMembers, Option.bind_eq_some, Option.map_eq_some'] at h
    obtain ⟨w, -, m', hm', rfl⟩ := h
    intro kv hkv
    have hrest : kv ∈ m' → ∃ v', (kv.1, v') ∈ (k, v) :: kvs := fun hkv' => by
      obtain ⟨v', hv'⟩ := mem_toAnyMembers hm' kv hkv'
      exact ⟨v', List.mem_cons_of_mem _ hv'⟩
    split_ifs at hkv
    · exact hrest hkv
    · rcases List.mem_cons.mp hkv with rfl | hkv
      · exact ⟨v, List.mem_cons_self _ _⟩
      · exact hrest hkv

/-- Go's map assignment `m[k] = v` on a map kept as its entries: the entry for `k` is
replaced, or added. -/
def mapSet {α : Type} (m : List (String × α)) (k : String) (v : α) : List (String × α) :=
  (k, v) :: m.filter fun e => e.1 ≠ k

end Json

end RegletHost
