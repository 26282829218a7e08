import RegletHost.Host.Json
import RegletHost.Policy.Match

/-!
`FormatSize` (`src/netutil/limitreader.go`): a byte count as a number of KB, MB or GB with
one decimal, through `float64` and `%.1f`.

* `roundTenths`: `%.1f` of the exact `float64` quotient `m / 2^k`, which `strconv` rounds
  to the nearest tenth, ties to the even one; `formatSize` picks the unit as the code does.
* `fmtTenths_inj`: the printed number determines the tenths, read back with `parseDecimal`.
* `formatSize_eq_1024` (**a size just short of a unit is printed as `1024.0` of the unit
  below**): `1024.0 KB` is printed exactly for `1048525` to `1048575` bytes, and `1024.0 MB`
  exactly for `1073689396` to `1073741823` bytes.
-/

namespace RegletHost

namespace Netutil

/-- `strconv.FormatFloat(v, 'f', 1, 64)` of the non-negative `float64` `v = m / 2^k`, as a
number of tenths: the nearest one, ties to the even one. -/
def roundTenths (m k : Nat) : Nat :=
  if 2 * (10 * m % 2 ^ k) > 2 ^ k ∨ (2 * (10 * m % 2 ^ k) = 2 ^ k ∧ 10 * m / 2 ^ k % 2 = 1) then
    10 * m / 2 ^ k + 1
  else 10 * m / 2 ^ k

/-- A number of tenths printed with one decimal. -/
def fmtTenths (t : Nat) : String := itoa (t / 10 : Nat) ++ "." ++ itoa (t % 10 : Nat)

/-- `FormatSize`, `float64(bytes)` rounded as `Json.float64OfInt` rounds it; the quotient
by a power of two is exact. -/
def formatSize (bytes : Int) : String :=
  let f := ((Json.float64OfInt bytes).getD 0).toNat
  if bytes ≥ 2 ^ 30 then fmtTenths (roundTenths f 30) ++ " GB"
  else if bytes ≥ 2 ^ 20 then fmtTenths (roundTenths f 20) ++ " MB"
  else if bytes ≥ 2 ^ 10 then fmtTenths (roundTenths f 10) ++ " KB"
  else itoa bytes ++ " bytes"

/-! ### Reading the printed text back -/

/-- A run of digits holding a non-digit is not read. -/
lemma readDigits_eq_none_of_mem {c : Char} (hc : digitValue c = none) :
    ∀ (acc : Nat) {l : List Char}, c ∈ l → readDigits acc l = none
  | _, d :: ds, hm => by
    rcases List.mem_cons.mp hm with rfl | hm
    · simp [readDigits, hc]
    · cases hd : digitValue d <;> simp [readDigits, hd, readDigits_eq_none_of_mem hc _ hm]

lemma dot_not_mem_toDigits (n : Nat) : '.' ∉ Nat.toDigits 10 n := fun hm => by
  have h := parseDecimal_toDigits n
  have hnone := readDigits_eq_none_of_mem (show digitValue '.' = none by decide) 0 hm
  cases hl : Nat.toDigits 10 n with
  | nil => simp [hl] at hm
  | cons c cs =>
    rw [hl] at h hnone
    simp [parseDecimal, hnone] at h

lemma toList_fmtTenths (t : Nat) :
    (fmtTenths t).toList = Nat.toDigits 10 (t / 10) ++ '.' :: Nat.toDigits 10 (t % 10) := by
  have h₁ : ¬((t / 10 : Nat) : Int) < 0 := by omega
  have h₂ : ¬((t % 10 : Nat) : Int) < 0 := by omega
  simp only [fmtTenths, itoa, h₁, h₂, if_false, Int.natAbs_ofNat, String.toList, String.data_append]
  simp

/-- The text `fmtTenths` prints determines the tenths. -/
lemma fmtTenths_inj {t t' : Nat} (h : fmtTenths t = fmtTenths t') : t = t' := by
  have hl := congrArg String.toList h
  rw [toList_fmtTenths, toList_fmtTenths] at hl
  obtain ⟨h₁, h₂⟩ := append_cons_inj_of_not_mem (dot_not_mem_toDigits _) (dot_not_mem_toDigits _) hl
  have e₁ := congrArg parseDecimal h₁
  have e₂ := congrArg parseDecimal h₂
  simp only [parseDecimal_toDigits, Option.some.injEq] at e₁ e₂
  omega

/-- Two texts whose last three characters differ are different, whatever comes before. -/
lemma append_ne_of_lastThree {a b u v : String}
    (h : 3 ≤ u.length ∧ 3 ≤ v.length ∧ u.toList.reverse.take 3 ≠ v.toList.reverse.take 3) :
    a ++ u ≠ b ++ v := fun he => by
  have := congrArg (fun s : String => s.toList.reverse.take 3) he
  simp only [String.toList, String.data_append, List.reverse_append] at this
  rw [List.take_append_of_le_length (by simpa using h.1),
    List.take_append_of_le_length (by simpa using h.2.1)] at this
  exact h.2.2 this

/-- A size printed in a unit with a unit's suffix, the tenths read back. -/
lemma fmtTenths_append_unit {t t' : Nat} {u : String} (h : fmtTenths t ++ u = fmtTenths t' ++ u) :
    t = t' := by
  have hl := congrArg String.toList h
  simp only [String.toList, String.data_append, List.append_left_inj] at hl
  exact fmtTenths_inj (String.ext hl)

/-! ### The sizes printed as `1024.0` -/

/-- A size in KB rounds up to `1024.0` exactly from `1048525` bytes. -/
lemma roundTenths_kb {m : Nat} (h : m < 2 ^ 20) : roundTenths m 10 = 10240 ↔ 1048525 ≤ m := by
  simp only [roundTenths, show (2 : Nat) ^ 10 = 1024 by norm_num] at h ⊢
  norm_num at h
  split_ifs <;> omega

/-- A size in MB rounds up to `1024.0` exactly from `1073689396` bytes. -/
lemma roundTenths_mb {m : Nat} (h : m < 2 ^ 30) : roundTenths m 20 = 10240 ↔ 1073689396 ≤ m := by
  simp only [roundTenths, show (2 : Nat) ^ 20 = 1048576 by norm_num] at h ⊢
  norm_num at h
  split_ifs <;> omega

/-- **A size just short of a unit is printed as `1024.0` of the unit below.** For every byte
count, `FormatSize` prints `1024.0 KB` exactly for the counts from `1048525` up to one byte
short of 1 MiB, and `1024.0 MB` exactly for those from `1073689396` up to one byte short of
1 GiB: `%.1f` rounds the quotient up to `1024.0` before the size reaches the next unit. -/
theorem formatSize_eq_1024 (bytes : Int) :
    (formatSize bytes = "1024.0 KB" ↔ 1048525 ≤ bytes ∧ bytes < 2 ^ 20) ∧
      (formatSize bytes = "1024.0 MB" ↔ 1073689396 ≤ bytes ∧ bytes < 2 ^ 30) := by
  have hKB : "1024.0 KB" = fmtTenths 10240 ++ " KB" := by decide
  have hMB : "1024.0 MB" = fmtTenths 10240 ++ " MB" := by decide
  unfold formatSize
  by_cases h30 : bytes ≥ 2 ^ 30
  · simp only [if_pos h30, hKB, hMB]
    exact ⟨iff_of_false (append_ne_of_lastThree (by decide)) (by omega),
      iff_of_false (append_ne_of_lastThree (by decide)) (by omega)⟩
  by_cases h10 : bytes ≥ 2 ^ 10
  · -- below 1 GiB the size is exact in `float64` and not negative
    obtain ⟨m, rfl⟩ : ∃ m : Nat, bytes = m := ⟨bytes.toNat, by omega⟩
    have hf : ((Json.float64OfInt (m : Int)).getD 0).toNat = m := by
      rw [Json.float64OfInt_of_lt (by simp; omega)]
      rfl
    simp only [hf, if_neg h30, hKB, hMB]
    by_cases h20 : (m : Int) ≥ 2 ^ 20
    · simp only [if_pos h20]
      refine ⟨iff_of_false (append_ne_of_lastThree (by decide)) (by omega),
        ⟨fun h => ?_, fun h => ?_⟩⟩
      · have := (roundTenths_mb (by omega)).mp (fmtTenths_append_unit h)
        omega
      · rw [(roundTenths_mb (by omega)).mpr (by omega)]
    · simp only [if_neg h20, if_pos h10]
      refine ⟨⟨fun h => ?_, fun h => ?_⟩,
        iff_of_false (append_ne_of_lastThree (by decide)) (by omega)⟩
      · have := (roundTenths_kb (by omega)).mp (fmtTenths_append_unit h)
        omega
      · rw [(roundTenths_kb (by omega)).mpr (by omega)]
  · simp only [if_neg h30, if_neg (show ¬bytes ≥ 2 ^ 20 by omega), if_neg h10, hKB, hMB]
    exact ⟨iff_of_false (append_ne_of_lastThree (by decide)) (by omega),
      iff_of_false (append_ne_of_lastThree (by decide)) (by omega)⟩

/-- The last size printed below `1024.0 KB`, and the first at it; `%.1f` rounds a tie to the
even tenth. -/
example : formatSize 1048524 = "1023.9 KB" ∧ formatSize 1048525 = "1024.0 KB" ∧
    formatSize 1280 = "1.2 KB" ∧ formatSize 1536 = "1.5 KB" := by
  decide

end Netutil

end RegletHost
