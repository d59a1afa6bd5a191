import Mathlib
import CrossPool.Decimal.Basic

/-!
# 最近接偶数への丸め

10 進数の `Context.fix` も浮動小数点数への変換 `Binary64.ofRatio` も、正確な値を
`divRoundEven` で丸める。ここではその丸めを有理数の言葉で述べる。

* `roundEven` — 最も近い整数。ちょうど半分なら偶数。`divRoundEven n d` は `n / d` の
  `roundEven` である（`divRoundEven_eq_roundEven`）。
* `roundAt b Q x` — `x` を `b^Q` の倍数に丸めた値。
* `roundDigits b p emin x` — 先頭の桁に合わせて `p` 桁に丸めた値。単位の指数は
  `max (先頭の位 + 1 - p) emin` で、`emin` より細かくは丸めない。

丸めは単調である（`roundDigits_mono`）。単位が同じ二つの値では `roundEven` の単調性から従う。
単位が違えば、大きいほうの値の先頭の位 `b^F` が二つの値の間にあり、どちらの単位の倍数でも
あるので、小さいほうは `b^F` 以下に、大きいほうは `b^F` 以上に丸まる。
-/

namespace CrossPool.Decimal

/-! ## 整数への丸め -/

/-- 最も近い整数。ちょうど半分なら偶数。 -/
def roundEven (x : ℚ) : ℤ :=
  if x - ⌊x⌋ < 1 / 2 then ⌊x⌋
  else if 1 / 2 < x - ⌊x⌋ then ⌊x⌋ + 1
  else ⌊x⌋ + ⌊x⌋ % 2

@[simp] theorem roundEven_intCast (k : ℤ) : roundEven k = k := by
  simp [roundEven]

@[simp] theorem roundEven_zero : roundEven 0 = 0 := by
  simpa using roundEven_intCast 0

theorem roundEven_bounds (x : ℚ) : ⌊x⌋ ≤ roundEven x ∧ roundEven x ≤ ⌊x⌋ + 1 := by
  unfold roundEven
  split_ifs <;> omega

theorem roundEven_mono : Monotone roundEven := by
  intro x y hxy
  rcases (Int.floor_mono hxy).lt_or_eq with hlt | heq
  · calc roundEven x ≤ ⌊x⌋ + 1 := (roundEven_bounds x).2
      _ ≤ ⌊y⌋ := hlt
      _ ≤ roundEven y := (roundEven_bounds y).1
  · -- 同じ整数の区間では、端数の大きいほうが上に丸まる
    unfold roundEven
    rw [heq]
    split_ifs <;> first | omega | (exfalso; linarith)

theorem roundEven_nonneg {x : ℚ} (hx : 0 ≤ x) : 0 ≤ roundEven x := by
  have h := roundEven_mono (show ((0 : ℤ) : ℚ) ≤ x by simpa using hx)
  rwa [roundEven_intCast] at h

/-- 二つの値が、どの半整数 `j / 2` とも同じ側にあれば、丸めは等しい。 -/
theorem roundEven_congr {x y : ℚ}
    (h : ∀ j : ℤ, (x < j / 2 ↔ y < j / 2) ∧ ((j : ℚ) / 2 < x ↔ (j : ℚ) / 2 < y)) :
    roundEven x = roundEven y := by
  have half : ∀ k : ℤ, ((2 * k : ℤ) : ℚ) / 2 = k := fun k => by push_cast; ring
  -- 整数は `j` が偶数の半整数なので、整数部分が等しい
  have hfloor : ⌊x⌋ = ⌊y⌋ := by
    rw [eq_comm, Int.floor_eq_iff]
    have h₁ := (h (2 * ⌊x⌋)).1
    have h₂ := (h (2 * (⌊x⌋ + 1))).1
    rw [half] at h₁ h₂
    push_cast at h₂
    exact ⟨not_lt.mp fun hy => not_lt.mpr (Int.floor_le x) (h₁.mpr hy),
      h₂.mp (Int.lt_floor_add_one x)⟩
  -- 端数と 1/2 の比較は、`⌊x⌋ + 1/2` との比較
  have hmid := h (2 * ⌊x⌋ + 1)
  have hval : ((2 * ⌊x⌋ + 1 : ℤ) : ℚ) / 2 = ⌊x⌋ + 1 / 2 := by push_cast; ring
  rw [hval] at hmid
  unfold roundEven
  rw [← hfloor]
  have hlt : x - ⌊x⌋ < 1 / 2 ↔ y - ⌊x⌋ < 1 / 2 := by
    rw [sub_lt_iff_lt_add', sub_lt_iff_lt_add']
    exact hmid.1
  have hgt : 1 / 2 < x - ⌊x⌋ ↔ 1 / 2 < y - ⌊x⌋ := by
    rw [lt_sub_iff_add_lt', lt_sub_iff_add_lt']
    exact hmid.2
  simp only [hlt, hgt]

/-- 自然数の商は、整数の商と余りの割合の和。 -/
theorem natCast_div_eq (n : ℕ) {d : ℕ} (hd : 0 < d) :
    (n : ℚ) / d = (n / d : ℕ) + (n % d : ℕ) / d := by
  have hd' : (0 : ℚ) < d := by exact_mod_cast hd
  rw [div_eq_iff hd'.ne', add_mul, div_mul_cancel₀ _ hd'.ne']
  exact_mod_cast (Nat.div_add_mod' n d).symm

theorem mod_div_lt_one (n : ℕ) {d : ℕ} (hd : 0 < d) : ((n % d : ℕ) : ℚ) / d < 1 := by
  rw [div_lt_one (by exact_mod_cast hd)]
  exact_mod_cast Nat.mod_lt n hd

theorem floor_natCast_div (n : ℕ) {d : ℕ} (hd : 0 < d) : ⌊(n : ℚ) / d⌋ = (n / d : ℕ) := by
  rw [Int.floor_eq_iff, Int.cast_natCast, natCast_div_eq n hd]
  exact ⟨le_add_of_nonneg_right (by positivity), by linarith [mod_div_lt_one n hd]⟩

/-- `divRoundEven n d` は `n / d` の最近接偶数への丸め。 -/
theorem divRoundEven_eq_roundEven (n : ℕ) {d : ℕ} (hd : 0 < d) :
    (divRoundEven n d : ℤ) = roundEven (n / d) := by
  have hd' : (0 : ℚ) < d := by exact_mod_cast hd
  have hfrac : (n : ℚ) / d - ((n / d : ℕ) : ℤ) = (n % d : ℕ) / d := by
    rw [Int.cast_natCast, natCast_div_eq n hd]
    ring
  have hlt : ((n % d : ℕ) : ℚ) / d < 1 / 2 ↔ 2 * (n % d) < d := by
    rw [div_lt_iff₀ hd', ← Nat.cast_lt (α := ℚ)]
    push_cast
    constructor <;> intro h <;> linarith
  have hgt : 1 / 2 < ((n % d : ℕ) : ℚ) / d ↔ d < 2 * (n % d) := by
    rw [lt_div_iff₀ hd', ← Nat.cast_lt (α := ℚ)]
    push_cast
    constructor <;> intro h <;> linarith
  unfold divRoundEven roundEven
  simp only [floor_natCast_div n hd, hfrac, hlt, hgt]
  split_ifs <;> omega

/-! ## 単位の倍数への丸め -/

/-- `x` を `b^Q` の倍数に最近接偶数で丸めた値。 -/
def roundAt (b : ℕ) (Q : ℤ) (x : ℚ) : ℚ := roundEven (x / (b : ℚ) ^ Q) * (b : ℚ) ^ Q

section RoundAt

variable {b : ℕ} (hb : 0 < b)
include hb

theorem roundAt_mono {Q : ℤ} {x y : ℚ} (hxy : x ≤ y) : roundAt b Q x ≤ roundAt b Q y := by
  have hpow : (0 : ℚ) < (b : ℚ) ^ Q := zpow_pos (by exact_mod_cast hb) Q
  unfold roundAt
  gcongr
  exact_mod_cast roundEven_mono (div_le_div_of_nonneg_right hxy hpow.le)

theorem roundAt_nonneg {Q : ℤ} {x : ℚ} (hx : 0 ≤ x) : 0 ≤ roundAt b Q x := by
  have hpow : (0 : ℚ) < (b : ℚ) ^ Q := zpow_pos (by exact_mod_cast hb) Q
  unfold roundAt
  have := roundEven_nonneg (div_nonneg hx hpow.le)
  positivity

theorem roundAt_mul_zpow (k : ℤ) (Q : ℤ) : roundAt b Q (k * (b : ℚ) ^ Q) = k * (b : ℚ) ^ Q := by
  have hpow : (b : ℚ) ^ Q ≠ 0 := zpow_ne_zero Q (by exact_mod_cast hb.ne')
  unfold roundAt
  rw [mul_div_cancel_right₀ _ hpow, roundEven_intCast]

/-- 細かい単位 `b^Q` で、`Q ≤ F` の `b^F` は丸めても変わらない。 -/
theorem roundAt_zpow {Q F : ℤ} (h : Q ≤ F) : roundAt b Q ((b : ℚ) ^ F) = (b : ℚ) ^ F := by
  have hb' : (b : ℚ) ≠ 0 := by exact_mod_cast hb.ne'
  have hsplit : (b : ℚ) ^ F = ((b ^ (F - Q).toNat : ℕ) : ℤ) * (b : ℚ) ^ Q := by
    push_cast
    rw [← zpow_natCast, ← zpow_add₀ hb', Int.toNat_of_nonneg (by omega), sub_add_cancel]
  rw [hsplit, roundAt_mul_zpow hb]

end RoundAt

/-! ## 精度への丸め -/

/-- `b^E ≤ x < b^(E + 1)` なら、`x` の先頭の位は `E`。 -/
theorem log_eq_of_bounds {b : ℕ} (hb : 1 < b) {x : ℚ} {E : ℤ} (h₁ : (b : ℚ) ^ E ≤ x)
    (h₂ : x < (b : ℚ) ^ (E + 1)) : Int.log b x = E := by
  have hx : 0 < x := (zpow_pos (by exact_mod_cast (by omega : 0 < b)) E).trans_le h₁
  have hle : E ≤ Int.log b x := (Int.zpow_le_iff_le_log hb hx).mp h₁
  have hlt : Int.log b x < E + 1 := (Int.lt_zpow_iff_log_lt hb hx).mp h₂
  omega

/-- 先頭の位に合わせて `p` 桁に丸めるときの単位の指数。`emin` より下にはしない。 -/
def quantum (b p : ℕ) (emin : ℤ) (x : ℚ) : ℤ := max (Int.log b x + 1 - p) emin

/-- `x` を `p` 桁に最近接偶数で丸めた値。 -/
def roundDigits (b p : ℕ) (emin : ℤ) (x : ℚ) : ℚ := roundAt b (quantum b p emin x) x

@[simp] theorem roundDigits_zero (b p : ℕ) (emin : ℤ) : roundDigits b p emin 0 = 0 := by
  simp [roundDigits, roundAt]

section RoundTo

variable {b p : ℕ} {emin : ℤ} (hb : 1 < b) (hp : 1 ≤ p)
include hb

theorem roundDigits_nonneg {x : ℚ} (hx : 0 ≤ x) : 0 ≤ roundDigits b p emin x :=
  roundAt_nonneg (by omega) hx

include hp in
/--
丸めは単調。単位の違う二つの値の間には大きいほうの先頭の位 `b^F` があり、小さいほうは
`b^F` 以下に、大きいほうは `b^F` 以上に丸まる。
-/
theorem roundDigits_mono {x y : ℚ} (hx : 0 ≤ x) (hxy : x ≤ y) :
    roundDigits b p emin x ≤ roundDigits b p emin y := by
  have hb0 : 0 < b := by omega
  rcases hx.lt_or_eq with hx | rfl
  swap
  · rw [roundDigits_zero]
    exact roundDigits_nonneg hb hxy
  have hy : 0 < y := hx.trans_le hxy
  unfold roundDigits quantum
  set E := Int.log b x
  set F := Int.log b y
  have hEF : E ≤ F := Int.log_mono_right hx hxy
  rcases (max_le_max_right emin (by omega : E + 1 - p ≤ F + 1 - p)).lt_or_eq with hlt | heq
  · -- 単位が変わるのは `F + 1 - p` が効くとき。`x < b^F ≤ y`
    have hQF : max (F + 1 - p) emin = F + 1 - p := by
      rcases le_total emin (F + 1 - p) with h | h
      · exact max_eq_left h
      · rw [max_eq_right h] at hlt
        exact absurd hlt (not_lt.mpr (le_max_right _ _))
    have hEF' : E < F := by
      rw [hQF] at hlt
      have := le_max_left (E + 1 - p) emin
      omega
    have hxF : x < (b : ℚ) ^ F :=
      (Int.lt_zpow_succ_log_self hb x).trans_le
        (zpow_le_zpow_right₀ (by exact_mod_cast hb.le) (by omega))
    have hFy : (b : ℚ) ^ F ≤ y := Int.zpow_log_le_self hb hy
    calc roundAt b (max (E + 1 - p) emin) x
        ≤ roundAt b (max (E + 1 - p) emin) ((b : ℚ) ^ F) := roundAt_mono hb0 hxF.le
      _ = (b : ℚ) ^ F := roundAt_zpow hb0 (by omega)
      _ = roundAt b (max (F + 1 - p) emin) ((b : ℚ) ^ F) := by
          rw [hQF, roundAt_zpow hb0 (by omega)]
      _ ≤ roundAt b (max (F + 1 - p) emin) y := roundAt_mono hb0 hFy
  · rw [heq]
    exact roundAt_mono hb0 hxy

end RoundTo

end CrossPool.Decimal
