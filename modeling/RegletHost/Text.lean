import Mathlib.Data.List.Basic
import Mathlib.Data.List.Infix
import Mathlib.Data.Nat.Digits
import Mathlib.Tactic.IntervalCases

/-!
Text primitives of the Go standard library that the modelled code calls, on the characters
of a string.

* `parseDecimal`: a non-empty run of decimal digits, and `parseDecimal_toDigits`: it reads
  back what `fmt`'s `%d` (`Nat.toDigits 10`) prints.
* `atoi`: `strconv.Atoi` on a 64-bit platform, with the value Go returns alongside its
  error: `0` on a syntax error, the nearest `int64` bound on a range error.
* `itoa`: `fmt`'s `%d`; `atoi_itoa`: `strconv.Atoi` reads back every `int64` it prints.
* `GoInt`: a Go `int`, an integer that carries its 64-bit range.
* `hasPrefix`: `strings.HasPrefix`.
-/

namespace RegletHost

/-! ### Decimal digits -/

/-- The value of a decimal digit. -/
def digitValue (c : Char) : Option Nat :=
  if '0' ≤ c ∧ c ≤ '9' then some (c.toNat - '0'.toNat) else none

/-- The digits of `l` read onto the accumulator `acc`, or `none` at a non-digit. -/
def readDigits : Nat → List Char → Option Nat
  | acc, [] => some acc
  | acc, c :: cs => (digitValue c).bind fun d => readDigits (acc * 10 + d) cs

/-- A non-empty run of decimal digits. -/
def parseDecimal : List Char → Option Nat
  | [] => none
  | cs => readDigits 0 cs

lemma readDigits_append (acc : Nat) (l₁ l₂ : List Char) :
    readDigits acc (l₁ ++ l₂) = (readDigits acc l₁).bind fun v => readDigits v l₂ := by
  induction l₁ generalizing acc with
  | nil => rfl
  | cons c cs ih =>
      simp only [List.cons_append, readDigits]
      cases digitValue c <;> simp [ih]

lemma digitValue_digitChar {d : Nat} (hd : d < 10) : digitValue (Nat.digitChar d) = some d := by
  interval_cases d <;> rfl

lemma readDigits_toDigitsCore :
    ∀ (fuel n : Nat) (ds : List Char), n < fuel →
      readDigits 0 (Nat.toDigitsCore 10 fuel n ds) = readDigits n ds
  | 0, n, _, h => absurd h (Nat.not_lt_zero n)
  | fuel + 1, n, ds, h => by
      have hd : digitValue (Nat.digitChar (n % 10)) = some (n % 10) :=
        digitValue_digitChar (Nat.mod_lt n (by decide))
      rw [Nat.toDigitsCore]
      split
      case isTrue h0 =>
        simp only [readDigits, hd, Option.some_bind]
        congr 1
        omega
      case isFalse h0 =>
        rw [readDigits_toDigitsCore fuel (n / 10) _ (by omega)]
        simp only [readDigits, hd, Option.some_bind]
        congr 1
        omega

/-- `parseDecimal` reads back the decimal rendering of `fmt`'s `%d`. -/
@[simp] lemma parseDecimal_toDigits (n : Nat) : parseDecimal (Nat.toDigits 10 n) = some n := by
  have h := readDigits_toDigitsCore (n + 1) n [] (Nat.lt_succ_self n)
  have hne : Nat.toDigits 10 n ≠ [] := by
    rw [Nat.toDigits, Nat.toDigitsCore]
    split
    · simp
    · rw [← List.length_pos, Nat.toDigitsCore_lens_eq]
      omega
  unfold parseDecimal
  split
  case h_1 he => exact absurd he hne
  case h_2 => simpa [Nat.toDigits, readDigits] using h

lemma readDigits_cons_isSome {acc : Nat} {c : Char} {cs : List Char} {v : Nat}
    (h : readDigits acc (c :: cs) = some v) : (digitValue c).isSome := by
  simp only [readDigits] at h
  cases hc : digitValue c <;> simp_all

/-! ### `strconv.Atoi` -/

/-- The bounds of Go's `int` on a 64-bit platform. -/
def int64Min : Int := -(2 ^ 63)

/-- The bounds of Go's `int` on a 64-bit platform. -/
def int64Max : Int := 2 ^ 63 - 1

/-- The optional leading sign: whether it is a minus, and the rest. -/
def splitSign : List Char → Bool × List Char
  | '+' :: ds => (false, ds)
  | '-' :: ds => (true, ds)
  | ds => (false, ds)

/-- `strconv.Atoi` on a 64-bit platform: the value Go returns and whether its error is nil.
A syntax error gives `0`, a value out of range the nearest bound (`ParseInt`'s result). -/
def atoi (s : String) : Int × Bool :=
  match parseDecimal (splitSign s.toList).2 with
  | none => (0, false)
  | some n =>
      let v : Int := if (splitSign s.toList).1 then -(n : Int) else n
      if v < int64Min then (int64Min, false)
      else if int64Max < v then (int64Max, false)
      else (v, true)

/-- `strconv.Itoa` (`fmt`'s `%d`) on an integer. -/
def itoa (n : Int) : String :=
  if n < 0 then String.mk ('-' :: Nat.toDigits 10 n.natAbs) else String.mk (Nat.toDigits 10 n.natAbs)

lemma splitSign_of_digit {c : Char} {cs : List Char} (h : (digitValue c).isSome) :
    splitSign (c :: cs) = (false, c :: cs) := by
  unfold splitSign
  split <;> simp_all [digitValue]

lemma splitSign_itoa (n : Int) :
    splitSign (itoa n).toList = (decide (n < 0), Nat.toDigits 10 n.natAbs) := by
  have hd := parseDecimal_toDigits n.natAbs
  obtain ⟨c, cs, hcs⟩ : ∃ c cs, Nat.toDigits 10 n.natAbs = c :: cs := by
    cases h : Nat.toDigits 10 n.natAbs with
    | nil => simp [h, parseDecimal] at hd
    | cons c cs => exact ⟨c, cs, rfl⟩
  have hc : (digitValue c).isSome := by
    rw [hcs] at hd
    exact readDigits_cons_isSome hd
  unfold itoa
  split_ifs with hn
  · simp [splitSign, hn]
  · simp [hcs, splitSign_of_digit hc, hn]

/-- `strconv.Atoi` reads back what `strconv.Itoa` prints, for every `int` value. -/
theorem atoi_itoa (n : Int) (h₁ : int64Min ≤ n) (h₂ : n ≤ int64Max) : atoi (itoa n) = (n, true) := by
  unfold atoi
  rw [splitSign_itoa, parseDecimal_toDigits]
  by_cases hn : n < 0
  · simp only [hn, decide_True, if_true, Int.natCast_natAbs, abs_of_neg hn, neg_neg]
    split_ifs <;> simp <;> omega
  · simp only [hn, decide_False, Bool.false_eq_true, if_false, Int.natCast_natAbs,
      abs_of_nonneg (le_of_not_lt hn)]
    split_ifs <;> simp <;> omega

/-! ### Go integers and prefixes -/

/-- A Go `int`, 64 bits wide: an integer in the `int64` range. -/
structure GoInt where
  val : Int
  ge_min : int64Min ≤ val
  le_max : val ≤ int64Max

/-- `strconv.Atoi` reads back the `%d` text of every Go `int`. -/
lemma atoi_itoa_goInt (n : GoInt) : atoi (itoa n.val) = (n.val, true) :=
  atoi_itoa n.val n.ge_min n.le_max

/-- `strings.HasPrefix`. -/
def hasPrefix (s pre : String) : Bool := pre.toList.isPrefixOf s.toList

lemma hasPrefix_iff {s pre : String} :
    hasPrefix s pre = true ↔ ∃ rest, s.toList = pre.toList ++ rest := by
  simp only [hasPrefix, List.isPrefixOf_iff_prefix]
  exact ⟨fun ⟨t, h⟩ => ⟨t, h.symm⟩, fun ⟨t, h⟩ => ⟨t, h.symm⟩⟩

/-- `strings.CutPrefix`: what follows the prefix, when `s` starts with it. -/
def cutPrefix (s pre : String) : Option String :=
  if hasPrefix s pre then some ⟨s.toList.drop pre.length⟩ else none

lemma cutPrefix_append (pre rest : String) : cutPrefix (pre ++ rest) pre = some rest := by
  have h : hasPrefix (pre ++ rest) pre = true :=
    hasPrefix_iff.mpr ⟨rest.toList, String.data_append _ _⟩
  rw [cutPrefix, if_pos h]
  exact congrArg some (String.ext (List.drop_left' rfl))

lemma cutPrefix_eq_some {s pre rest : String} (h : cutPrefix s pre = some rest) : s = pre ++ rest := by
  unfold cutPrefix at h
  split_ifs at h with hp
  obtain ⟨t, ht⟩ := hasPrefix_iff.mp hp
  cases h
  apply String.ext
  show s.data = pre.data ++ (s.data.drop pre.data.length)
  rw [show s.data = pre.data ++ t from ht, List.drop_left' rfl]

/-- `strings.Contains`: some suffix of `s` starts with `substr`. -/
def contains (s substr : String) : Bool := s.toList.tails.any (substr.toList.isPrefixOf ·)

/-- `strings.Contains` finds exactly the texts that occur inside. -/
lemma contains_iff_occurs {s substr : String} :
    contains s substr = true ↔ substr.toList <:+: s.toList := by
  simp only [contains, List.any_eq_true, List.mem_tails, List.isPrefixOf_iff_prefix,
    List.infix_iff_prefix_suffix]
  exact ⟨fun ⟨t, h1, h2⟩ => ⟨t, h2, h1⟩, fun ⟨t, h1, h2⟩ => ⟨t, h2, h1⟩⟩

/-! ### `Except` -/

/-- A bind that succeeds ran both computations successfully. -/
lemma except_bind_eq_ok {ε α β : Type} {x : Except ε α} {f : α → Except ε β} {b : β} :
    x >>= f = .ok b ↔ ∃ a, x = .ok a ∧ f a = .ok b := by
  cases x <;> simp [bind, Except.bind]

lemma except_mapError_eq_ok {ε ε' α : Type} {f : ε → ε'} {x : Except ε α} {a : α} :
    x.mapError f = .ok a ↔ x = .ok a := by
  cases x <;> simp [Except.mapError]

end RegletHost
