import CrossPool.Proofs.Decimal.Signed
import CrossPool.Proofs.Swap.Width
import CrossPool.Proofs.Monitor.Step

/-!
# 生の量との変換

`toRaw` は量に `10^d` を掛け、50 桁に丸め、0 に向けて整数に切り捨て、幅を検査する。
`fromRaw` は生の整数を `10^d` で割って 50 桁に丸める。

* `10^d` は `etiny ≤ d ≤ emax` でちょうど表せる（`Calc.pow10_exact`）。`emax` を超えると
  溢れ、`etiny` より下では 0 になる。
* 係数が精度の桁数に収まり、指数が `etiny` 以上の値は、丸めても変わらない
  （`Context.round_magnitude_of_fits`）。先頭の位が `emax` より下の値は溢れない
  （`fix_isOk`）。
* だから 0 以上の量の変換は、正確な積を丸めて切り捨てた整数の幅の検査である
  （`Amount.toRaw_eq_checkBound`）。積を丸めるので、51 桁以上の量は切り上がることがある。
* u64 の生の量は 20 桁なので、`fromRaw` の商も、それに `10^d` を掛けた積も丸めで変わらず、
  `toRaw` で元に戻る。
-/

namespace CrossPool.Decimal

/-! ## 丸めで変わらない値 -/

theorem digitCount_le_of_lt_pow {c k : ℕ} (hk : 1 ≤ k) (h : c < 10 ^ k) : digitCount c ≤ k := by
  rcases Nat.eq_zero_or_pos c with rfl | hc
  · simpa [digitCount] using hk
  by_contra hgt
  have hle : 10 ^ k ≤ 10 ^ (digitCount c - 1) := Nat.pow_le_pow_right (by norm_num) (by omega)
  exact absurd (hle.trans (pow_digitCount_le hc.ne')) (not_le.mpr h)

/-- 係数が精度の桁数に収まり、指数が `etiny` 以上の値は、丸めても変わらない。 -/
theorem Context.round_magnitude_of_fits (ctx : Context) {c : ℕ} {e : ℤ}
    (hc : digitCount c ≤ ctx.prec) (he : ctx.etiny ≤ e) :
    ctx.round (magnitude c e) = magnitude c e := by
  rcases Nat.eq_zero_or_pos c with rfl | hc0
  · simp [magnitude_zero]
  have hQ : max ((digitCount c : ℤ) + e - ctx.prec) ctx.etiny ≤ e := by omega
  rw [round_magnitude ctx hc0.ne', magnitude_eq_mul_zpow c hQ, roundAt_mul_zpow (by norm_num)]

/-- 最小の単位の半分より小さい値は 0 に丸まる。 -/
theorem Context.round_eq_zero_of_lt (ctx : Context) {x : ℚ} (h0 : 0 ≤ x)
    (h : x < 10 ^ ctx.etiny / 2) : ctx.round x = 0 := by
  unfold Context.round roundDigits roundAt
  have hQ : ctx.etiny ≤ quantum 10 ctx.prec ctx.etiny x := le_max_right _ _
  have hpos : (0 : ℚ) < ((10 : ℕ) : ℚ) ^ quantum 10 ctx.prec ctx.etiny x := by positivity
  have hsmall : x / ((10 : ℕ) : ℚ) ^ quantum 10 ctx.prec ctx.etiny x < 1 / 2 := by
    rw [div_lt_iff₀ hpos, Nat.cast_ofNat]
    calc x < 10 ^ ctx.etiny / 2 := h
      _ ≤ 10 ^ quantum 10 ctx.prec ctx.etiny x / 2 := by
        gcongr
        norm_num
      _ = 1 / 2 * 10 ^ quantum 10 ctx.prec ctx.etiny x := by ring
  rw [roundEven_eq_zero (div_nonneg h0 hpos.le) hsmall, Int.cast_zero, zero_mul]

/-- 先頭の位が `E` より下の値の調整済み指数は `E` より小さい。 -/
theorem adjusted_lt_of_magnitude_lt {c : ℕ} (hc : c ≠ 0) {e E : ℤ}
    (h : magnitude c e < 10 ^ E) : adjusted c e < E :=
  (zpow_lt_zpow_iff_right₀ (by norm_num : (1 : ℚ) < 10)).mp ((pow_le_magnitude hc e).trans_lt h)

/--
先頭の位が `emax` より下の値は溢れずに収まる。丸めで繰り上がっても、位は `emax` を超えない
（`etiny < etop` の context で）。
-/
theorem fix_isOk {ctx : Context} (hctx : ctx.etiny < ctx.etop) (neg : Bool) {c : ℕ} {e : ℤ}
    (h : magnitude c e < 10 ^ ctx.emax) : ∃ r, ctx.fix neg c e = .ok r := by
  unfold Context.fix
  dsimp only
  split_ifs with hc hover hlow hcarry hover'
  · exact ⟨_, rfl⟩
  · -- 溢れるのは先頭の位が `emax` を超えるときだけ
    have hadj := adjusted_lt_of_magnitude_lt hc h
    unfold adjusted at hadj
    unfold Context.etop at hover
    omega
  · -- 繰り上がって溢れるのは、先頭の位が `emax` のときか `etop ≤ etiny` のときだけ
    have hadj := adjusted_lt_of_magnitude_lt hc h
    unfold adjusted at hadj
    unfold Context.etop at hctx hover'
    omega
  all_goals exact ⟨_, rfl⟩

/-- 係数 `10^k` は、指数に `k` を足すこと。 -/
theorem magnitude_pow_ten (k : ℕ) (e : ℤ) : magnitude (Nat.pow 10 k) e = 10 ^ (e + k) := by
  rw [← one_mul (Nat.pow 10 k), magnitude_mul_pow, magnitude, Nat.cast_one, one_mul]

/-- 0 以上の有限値の大きさは、その値。符号の立った 0 も 0。 -/
theorem magnitude_eq_of_signedValue {n : Bool} {c : ℕ} {e : ℤ} {x : ℚ}
    (h : signedValue n c e = x) (hx : 0 ≤ x) : magnitude c e = x := by
  cases n with
  | false => exact h
  | true =>
    rw [signedValue_true] at h
    have := magnitude_nonneg c e
    linarith

end CrossPool.Decimal

/-! ## 10 の冪 -/

namespace CrossPool.Calc

open Decimal

/-! 標準 context の精度と指数の範囲。 -/

theorem ctx_prec : ctx.prec = 50 := rfl

theorem ctx_emax : ctx.emax = 999999 := rfl

theorem ctx_etiny : ctx.etiny = -1000048 := rfl

theorem digitCount_le_prec {c : ℕ} (h : c < 10 ^ 50) : digitCount c ≤ ctx.prec :=
  digitCount_le_of_lt_pow (by decide) h

/-- 50 桁に収まる 0 以上の整数は丸めても変わらない。 -/
theorem round_intCast {k : ℤ} (h0 : 0 ≤ k) (hk : k < 10 ^ 50) : ctx.round k = k := by
  have hdig : k.toNat < 10 ^ 50 := by
    have : ((k.toNat : ℕ) : ℤ) < 10 ^ 50 := by rw [Int.toNat_of_nonneg h0]; exact hk
    exact_mod_cast this
  have h := Context.round_magnitude_of_fits ctx (e := 0) (digitCount_le_prec hdig)
    (by rw [ctx_etiny]; norm_num)
  have hm : magnitude k.toNat 0 = k := by
    rw [magnitude, zpow_zero, mul_one]
    exact_mod_cast Int.toNat_of_nonneg h0
  rwa [hm] at h

/-- 指数が `etiny` より下の値は `1/10` より小さい。係数が 50 桁以内なら、丸めた値の
切り捨ても正確な値の切り捨ても同じ。 -/
theorem floor_round_magnitude {c : ℕ} (hc : digitCount c ≤ ctx.prec) (e : ℤ) :
    ⌊ctx.round (magnitude c e)⌋ = ⌊magnitude c e⌋ := by
  rcases le_or_gt ctx.etiny e with he | he
  · rw [Context.round_magnitude_of_fits _ hc he]
  -- 指数が `etiny` より下なら、値は `1/10` 以下で、丸めても `1/10` を超えない
  have hsmall : magnitude c e ≤ magnitude 1 (-1) := by
    calc magnitude c e ≤ 10 ^ (adjusted c e + 1) := (magnitude_lt_pow c e).le
      _ ≤ 10 ^ (-1 : ℤ) := by
        apply zpow_le_zpow_right₀ (by norm_num)
        unfold adjusted
        rw [ctx_prec] at hc
        rw [ctx_etiny] at he
        omega
      _ = magnitude 1 (-1) := by rw [magnitude, Nat.cast_one, one_mul]
  have hround : ctx.round (magnitude c e) ≤ magnitude 1 (-1) :=
    calc ctx.round (magnitude c e) ≤ ctx.round (magnitude 1 (-1)) :=
          Context.round_mono (by decide) (magnitude_nonneg _ _) hsmall
      _ = magnitude 1 (-1) :=
          Context.round_magnitude_of_fits _ (digitCount_le_prec (by norm_num)) (by rw [ctx_etiny]; norm_num)
  have hlt : magnitude 1 (-1) < 1 := by norm_num [magnitude]
  rw [Int.floor_eq_zero_iff.mpr ⟨ctx.round_nonneg (magnitude_nonneg _ _), hround.trans_lt hlt⟩,
    Int.floor_eq_zero_iff.mpr ⟨magnitude_nonneg _ _, hsmall.trans_lt hlt⟩]

/-- `10 ** n` は、`etiny ≤ n ≤ emax` ならちょうど `10^n`。 -/
theorem pow10_exact {n : ℤ} (hlo : ctx.etiny ≤ n) (hhi : n ≤ ctx.emax) :
    ∃ P, Calc.pow10 n = .ok P ∧
      P.value = ((((10 : ℚ) ^ n : ℚ) : WithTop ℚ) : WithBot (WithTop ℚ)) := by
  unfold Calc.pow10 Decimal.pow10
  by_cases hn : 0 ≤ n
  · rw [if_pos hn, if_neg (not_lt.mpr hhi)]
    split_ifs with hp
    · refine ⟨_, rfl, ?_⟩
      rw [value_finite_false, magnitude_pow_ten, Int.toNat_of_nonneg hn, zero_add]
    · refine ⟨_, rfl, ?_⟩
      have he : n - ((ctx.prec : ℤ) - 1) + ((ctx.prec - 1 : ℕ) : ℤ) = n := by
        rw [ctx_prec]
        omega
      rw [value_finite_false, magnitude_pow_ten, he]
  · -- 負の冪は係数 1 の値を丸めたもの。1 桁で指数が `etiny` 以上なので丸めで変わらない
    rw [if_neg hn]
    have hfit : magnitude 1 n < 10 ^ ctx.emax := by
      rw [magnitude, Nat.cast_one, one_mul]
      exact zpow_lt_zpow_right₀ (by norm_num) (by rw [ctx_emax]; omega)
    obtain ⟨r, hr⟩ := fix_isOk (by decide) false hfit
    refine ⟨r, by rw [hr]; rfl, ?_⟩
    rw [fix_value (by decide) hr, signedValue_false, roundSigned_of_nonneg (magnitude_nonneg _ _),
      Context.round_magnitude_of_fits ctx (digitCount_le_prec (by norm_num)) hlo, magnitude,
      Nat.cast_one, one_mul]

/-- `10 ** n` が返るのは `n ≤ emax` のときだけ。 -/
theorem le_emax_of_pow10 {n : ℤ} {P : Decimal} (h : Calc.pow10 n = .ok P) : n ≤ ctx.emax := by
  unfold Calc.pow10 Decimal.pow10 at h
  by_contra hgt
  rw [if_pos (by rw [ctx_emax] at hgt; omega), if_pos (not_le.mp hgt)] at h
  cases h

/-- `etiny` より下の `10 ** n` は 0 に丸まる。 -/
theorem pow10_eq_zero_of_lt_etiny {n : ℤ} {P : Decimal} (hn : n < ctx.etiny)
    (h : Calc.pow10 n = .ok P) : ∃ e, P = .finite false 0 e := by
  unfold Calc.pow10 Decimal.pow10 at h
  rw [if_neg (by rw [ctx_etiny] at hn; omega)] at h
  obtain ⟨c, e, rfl, hm⟩ := fix_eq_ok (by decide) (liftSignal_eq_ok.mp h)
  have hsmall : magnitude 1 n < 10 ^ ctx.etiny / 2 := by
    rw [magnitude, Nat.cast_one, one_mul]
    calc (10 : ℚ) ^ n ≤ 10 ^ (ctx.etiny - 1) := zpow_le_zpow_right₀ (by norm_num) (by omega)
      _ = 10 ^ ctx.etiny / 10 := by rw [zpow_sub₀ (by norm_num), zpow_one]
      _ < 10 ^ ctx.etiny / 2 := by
        gcongr
        norm_num
  rw [ctx.round_eq_zero_of_lt (magnitude_nonneg _ _) hsmall] at hm
  obtain rfl : c = 0 := by
    by_contra hc
    exact (magnitude_pos hc e).ne' hm
  exact ⟨e, rfl⟩

end CrossPool.Calc

/-! ## 生の量から量へ -/

namespace CrossPool.Amount

open Decimal

/-- 主 thread での変換は、標準 context で `10 ** d` を求めて割ること。 -/
theorem fromRaw_eq (raw d : ℤ) :
    fromRaw raw d = (Calc.pow10 d >>= fun P => Calc.div (Calc.ofInt raw) P) := rfl

/-- 生の量を量にできるのは、`10 ** d` がちょうど表せる `etiny ≤ d ≤ emax` のときだけ。
それより下では `10 ** d` が 0 になり、0 で割ることになる。 -/
theorem fromRaw_range {raw d : ℤ} {y : Decimal} (h : fromRaw raw d = .ok y) :
    Calc.ctx.etiny ≤ d ∧ d ≤ Calc.ctx.emax := by
  rw [fromRaw_eq] at h
  obtain ⟨P, hP, hdiv⟩ := bind_eq_ok h
  refine ⟨?_, Calc.le_emax_of_pow10 hP⟩
  by_contra hlt
  obtain ⟨e, rfl⟩ := Calc.pow10_eq_zero_of_lt_etiny (not_le.mp hlt) hP
  unfold Calc.div Calc.ofInt Decimal.ofInt Decimal.div divFinite at hdiv
  dsimp only at hdiv
  rw [if_pos rfl] at hdiv
  split_ifs at hdiv <;> cases hdiv

/-- 50 桁に収まる 0 以上の生の量は、ちょうど `raw * 10^(-d)` の量になる。 -/
theorem fromRaw_value {raw d : ℤ} {y : Decimal} (h : fromRaw raw d = .ok y) (h0 : 0 ≤ raw)
    (hraw : raw < 10 ^ 50) :
    y.value = ((((raw : ℚ) * 10 ^ (-d) : ℚ) : WithTop ℚ) : WithBot (WithTop ℚ)) := by
  obtain ⟨hlo, hhi⟩ := fromRaw_range h
  obtain ⟨P, hP, hPv⟩ := Calc.pow10_exact hlo hhi
  rw [fromRaw_eq, hP, ok_bind] at h
  have hm : (raw : ℚ) / 10 ^ d = magnitude raw.toNat (-d) := by
    rw [magnitude, zpow_neg, ← div_eq_mul_inv]
    exact_mod_cast congrArg (fun z : ℤ => (z : ℚ) / 10 ^ d) (Int.toNat_of_nonneg h0).symm
  have hdig : raw.toNat < 10 ^ 50 := by
    have : ((raw.toNat : ℕ) : ℤ) < 10 ^ 50 := by rw [Int.toNat_of_nonneg h0]; exact hraw
    exact_mod_cast this
  have hexp : Calc.ctx.etiny ≤ -d := by
    rw [Calc.ctx_etiny]
    rw [Calc.ctx_emax] at hhi
    omega
  rw [Calc.div_value h (Calc.value_ofInt raw) hPv, hm, roundSigned_of_nonneg (magnitude_nonneg _ _),
    Context.round_magnitude_of_fits _ (Calc.digitCount_le_prec hdig) hexp, ← hm, div_eq_mul_inv,
    zpow_neg]

/-! ## 量から生の量へ -/

/--
0 以上の量 `x` の変換は、正確な積 `x * 10^d` を 50 桁に丸め、切り捨てた整数の幅の検査。
`10 ** d` がちょうど表せて、積の先頭の位が `emax` より下なら、途中で失敗しない。
-/
theorem toRaw_of_nonneg {amount : Decimal} {x : ℚ}
    (hx : amount.value = ((x : WithTop ℚ) : WithBot (WithTop ℚ))) (hx0 : 0 ≤ x) {d : ℤ}
    (hlo : Calc.ctx.etiny ≤ d) (hhi : d ≤ Calc.ctx.emax) (hfit : x * 10 ^ d < 10 ^ Calc.ctx.emax)
    (bound : ℤ) :
    toRaw amount d bound = checkBound ⌊Calc.ctx.round (x * 10 ^ d)⌋ bound "to_raw_amount" := by
  obtain ⟨n, c, e, rfl, hv⟩ := value_eq_coe.mp hx
  obtain ⟨P, hP, hPv⟩ := Calc.pow10_exact hlo hhi
  obtain ⟨nP, cP, eP, rfl, hPs⟩ := value_eq_coe.mp hPv
  have hlt : Calc.lt (.finite n c e) (Calc.ofInt 0) = .ok false := by
    have hnot : ¬ ((x : WithTop ℚ) : WithBot (WithTop ℚ)) < (((0 : ℚ) : WithTop ℚ) : WithBot _) := by
      rw [WithBot.coe_lt_coe, WithTop.coe_lt_coe, not_lt]
      exact hx0
    rw [Calc.lt_of_not_nan rfl rfl, hx, Calc.value_ofInt, Int.cast_zero, decide_eq_false hnot]
  -- 積の大きさは正確な積。先頭の位が `emax` より下なので溢れない
  have hmag : magnitude (c * cP) (e + eP) = x * 10 ^ d := by
    rw [magnitude_mul, magnitude_eq_of_signedValue hv hx0,
      magnitude_eq_of_signedValue hPs (by positivity)]
  have hfit' : magnitude (c * cP) (e + eP) < 10 ^ Calc.ctx.emax := hmag ▸ hfit
  obtain ⟨s, hs⟩ := fix_isOk (by decide) (n != nP) hfit'
  have hmul : Calc.mul (.finite n c e) (.finite nP cP eP) = .ok s := by
    rw [Calc.mul, Decimal.mul, hs]
    rfl
  have hsv := Calc.mul_value hmul hx hPv
  rw [roundSigned_of_nonneg (by positivity)] at hsv
  have htr := Calc.truncate_of_nonneg hsv (Context.round_nonneg _ (by positivity))
  unfold toRaw
  rw [hlt, ok_bind]
  dsimp only
  rw [if_neg Bool.false_ne_true, hP, ok_bind, hmul, ok_bind, htr, ok_bind]

/-- 負の量は幅超過で失敗し、文面に量を書く。 -/
theorem toRaw_of_neg {amount : Decimal} (hnan : amount.isNan = false) (hneg : amount.value < 0)
    (d bound : ℤ) :
    toRaw amount d bound =
      .error (.overflow "to_raw_amount" ("negative amount: " ++ amount.toSci)) := by
  unfold toRaw
  rw [Calc.lt_of_not_nan hnan rfl, Calc.value_ofInt_zero, decide_eq_true hneg, ok_bind]
  rfl

/-- 正の無限大の量は、積も無限大で、整数にできず範囲外の誤りで失敗する。幅超過ではない。 -/
theorem toRaw_of_infinity {d : ℤ} (hlo : Calc.ctx.etiny ≤ d) (hhi : d ≤ Calc.ctx.emax)
    (bound : ℤ) :
    toRaw (.infinity false) d bound = .error (.outOfRange "cannot convert Infinity to integer") := by
  obtain ⟨P, hP, hPv⟩ := Calc.pow10_exact hlo hhi
  obtain ⟨nP, cP, eP, rfl, hPs⟩ := value_eq_coe.mp hPv
  have hc : cP ≠ 0 := by
    rintro rfl
    have h0 : signedValue nP 0 eP = 0 := by simp [signedValue, magnitude_zero]
    exact absurd (h0.symm.trans hPs) (zpow_ne_zero d (by norm_num)).symm
  have hmul : Calc.mul (.infinity false) (.finite nP cP eP) = .ok (.infinity (false != nP)) := by
    rw [Calc.mul, Decimal.mul, if_neg hc]
    rfl
  unfold toRaw
  rw [Calc.lt_of_not_nan rfl rfl, Calc.value_ofInt_zero, ok_bind]
  dsimp only
  rw [if_neg (by decide), hP, ok_bind, hmul, ok_bind]
  rfl

/-- 4300 桁に収まる 0 以上の整数は、文面に書ける。 -/
theorem tooManyDigits_eq_false_of_lt {v : ℤ} (h0 : 0 ≤ v) (h : v < 10 ^ 4300) :
    tooManyDigits v = false := by
  refine ConstantProduct.tooManyDigits_eq_false_iff.mpr (Int.ofNat_lt.mp ?_)
  rw [Int.natAbs_of_nonneg h0, Nat.cast_pow, Nat.cast_ofNat]
  exact h

/-- 係数が 50 桁以内の量なら、丸めた積の切り捨ては正確な積の切り捨てで、生の量 `r` と
`r + 1` を量に戻した値の間に元の量がある。 -/
theorem toRaw_brackets {amount : Decimal} {x : ℚ}
    (hx : amount.value = ((x : WithTop ℚ) : WithBot (WithTop ℚ))) (hx0 : 0 ≤ x) {d r : ℤ}
    (hr : r = ⌊x * 10 ^ d⌋) {a b : Decimal} (ha : fromRaw r d = .ok a)
    (hb : fromRaw (r + 1) d = .ok b) (hr1 : r + 1 < 10 ^ 50) :
    a.value ≤ amount.value ∧ amount.value < b.value := by
  have hr0 : 0 ≤ r := hr ▸ Int.floor_nonneg.mpr (by positivity)
  have hpow : (0 : ℚ) < 10 ^ d := by positivity
  -- `r ≤ x * 10^d < r + 1` を `10^d` で割る
  have hlo : (r : ℚ) * 10 ^ (-d) ≤ x := by
    rw [zpow_neg, ← div_eq_mul_inv, div_le_iff₀ hpow]
    exact hr ▸ Int.floor_le _
  have hhi : x < ((r + 1 : ℤ) : ℚ) * 10 ^ (-d) := by
    rw [zpow_neg, ← div_eq_mul_inv, lt_div_iff₀ hpow, Int.cast_add, Int.cast_one]
    exact hr ▸ Int.lt_floor_add_one _
  rw [fromRaw_value ha hr0 (by omega), fromRaw_value hb (by omega) hr1, hx]
  exact ⟨coe_le_coe_iff.mpr hlo, WithBot.coe_lt_coe.mpr (WithTop.coe_lt_coe.mpr hhi)⟩

/--
0 以上の量の生の量は、積 `amount * 10^d` を 50 桁に偶数丸めして切り捨てた整数 `r` で、
`r` が上界以下なら返り、上界を超えれば幅超過になる。量の係数が 50 桁以内なら `r` は正確な積の
切り捨てで、`r` と `r + 1` を量に戻した値が量をはさむ。負の量は幅超過で、文面に量を書く。
正の無限大は幅超過ではなく、整数にできない範囲外の誤りになる。
`10 ** d` はちょうど表せて、積の先頭の位は `emax` より下とする。
-/
theorem toRaw_truncates_rounded_product (amount : Decimal) {d : ℤ} (hlo : Calc.ctx.etiny ≤ d)
    (hhi : d ≤ Calc.ctx.emax) (bound : ℤ) :
    (amount.isNan = false → amount.value < 0 →
      toRaw amount d bound =
        .error (.overflow "to_raw_amount" ("negative amount: " ++ amount.toSci))) ∧
    (amount = .infinity false →
      toRaw amount d bound = .error (.outOfRange "cannot convert Infinity to integer")) ∧
    ∀ x : ℚ, amount.value = ((x : WithTop ℚ) : WithBot (WithTop ℚ)) → 0 ≤ x →
      x * 10 ^ d < 10 ^ Calc.ctx.emax →
      let r := ⌊Calc.ctx.round (x * 10 ^ d)⌋
      (r ≤ bound → toRaw amount d bound = .ok r) ∧
      (bound < r → r < 10 ^ 4300 →
        toRaw amount d bound = .error (.overflow "to_raw_amount" s!"to_raw_amount out of range: {r}")) ∧
      (∀ n c e, amount = .finite n c e → digitCount c ≤ Calc.ctx.prec →
        r = ⌊x * 10 ^ d⌋ ∧
        ∀ a b, fromRaw r d = .ok a → fromRaw (r + 1) d = .ok b → r + 1 < 10 ^ 50 →
          a.value ≤ amount.value ∧ amount.value < b.value) := by
  refine ⟨fun hnan hneg => toRaw_of_neg hnan hneg d bound,
    fun hinf => hinf ▸ toRaw_of_infinity hlo hhi bound, ?_⟩
  intro x hx hx0 hfit r
  have hr0 : 0 ≤ r := Int.floor_nonneg.mpr (Calc.ctx.round_nonneg (by positivity))
  have hraw := toRaw_of_nonneg hx hx0 hlo hhi hfit bound
  refine ⟨fun hle => ?_, fun hgt hdig => ?_, fun n c e hamt hc => ?_⟩
  · rw [hraw, ConstantProduct.checkBound_of_mem hr0 hle]
  · rw [hraw, ConstantProduct.checkBound_of_lt hgt (tooManyDigits_eq_false_of_lt hr0 hdig)]
    rfl
  · subst hamt
    obtain ⟨n', c', e', hfin, hv⟩ := value_eq_coe.mp hx
    cases hfin
    have hm := magnitude_eq_of_signedValue hv hx0
    have hexact : r = ⌊x * 10 ^ d⌋ := by
      have hshift : x * 10 ^ d = magnitude c (e + d) := by
        rw [← hm, magnitude, magnitude, zpow_add₀ (by norm_num), mul_assoc]
      show ⌊Calc.ctx.round (x * 10 ^ d)⌋ = _
      rw [hshift]
      exact Calc.floor_round_magnitude hc (e + d)
    exact ⟨hexact, fun a b ha hb hr1 => toRaw_brackets hx hx0 hexact ha hb hr1⟩

/-- 51 桁の量 `0.99…9`（9 が 51 個）は、`10^0` を掛けて 50 桁に丸めると 1 に繰り上がる。
正確な切り捨ては 0 だが、生の量は 1 になる。 -/
theorem toRaw_rounds_up_long_amount :
    toRaw (.finite false 999999999999999999999999999999999999999999999999999 (-51)) 0 u64Max =
        .ok 1 ∧
      ⌊magnitude 999999999999999999999999999999999999999999999999999 (-51) * 10 ^ (0 : ℤ)⌋ = 0 := by
  refine ⟨by with_unfolding_all rfl, ?_⟩
  rw [Int.floor_eq_zero_iff]
  constructor <;> norm_num [magnitude]

/-- 1.5 の 9 桁の生の量は 1500000000。 -/
theorem toRaw_of_one_and_a_half : toRaw (.finite false 15 (-1)) 9 u64Max = .ok 1500000000 := by
  have hv : (Decimal.finite false 15 (-1)).value = (((3 / 2 : ℚ) : WithTop ℚ) : WithBot (WithTop ℚ)) := by
    rw [value_finite_false]
    norm_num [magnitude]
  obtain ⟨-, -, h⟩ := toRaw_truncates_rounded_product (.finite false 15 (-1)) (d := 9)
    (by rw [Calc.ctx_etiny]; norm_num) (by rw [Calc.ctx_emax]; norm_num) u64Max
  have hfit : (3 / 2 : ℚ) * 10 ^ (9 : ℤ) < 10 ^ Calc.ctx.emax :=
    calc (3 / 2 : ℚ) * 10 ^ (9 : ℤ) < 10 ^ (10 : ℤ) := by norm_num
      _ ≤ 10 ^ Calc.ctx.emax := zpow_le_zpow_right₀ (by norm_num) (by rw [Calc.ctx_emax]; norm_num)
  obtain ⟨hok, -, hexact⟩ := h (3 / 2) hv (by norm_num) hfit
  have hr : ⌊Calc.ctx.round (3 / 2 * 10 ^ (9 : ℤ))⌋ = 1500000000 := by
    rw [(hexact false 15 (-1) rfl (Calc.digitCount_le_prec (by norm_num))).1]
    norm_num
  rw [hr] at hok
  exact hok (by decide)

/-! ## 生の量の往復 -/

/--
u64 の生の量は、量にしてから生の量に戻すと元に戻る。商 `raw * 10^(-d)` も、それに `10^d` を
掛けた積も 20 桁なので、どちらの丸めでも変わらない。量にできる `d` は `etiny ≤ d ≤ emax` だけで、
そこでは `10 ** d` もちょうど表せる。
-/
theorem toRaw_fromRaw {raw d : ℤ} (h0 : 0 ≤ raw) (h1 : raw ≤ u64Max) {y : Decimal}
    (hy : fromRaw raw d = .ok y) : toRaw y d u64Max = .ok raw := by
  have hraw : raw < 10 ^ 50 := lt_of_le_of_lt h1 (by decide)
  obtain ⟨hlo, hhi⟩ := fromRaw_range hy
  have hprod : (raw : ℚ) * 10 ^ (-d) * 10 ^ d = raw := by
    rw [mul_assoc, ← zpow_add₀ (by norm_num), neg_add_cancel, zpow_zero, mul_one]
  have hfit : (raw : ℚ) * 10 ^ (-d) * 10 ^ d < 10 ^ Calc.ctx.emax := by
    rw [hprod, Calc.ctx_emax]
    calc (raw : ℚ) < 10 ^ (50 : ℤ) := by exact_mod_cast hraw
      _ ≤ 10 ^ (999999 : ℤ) := zpow_le_zpow_right₀ (by norm_num) (by norm_num)
  rw [toRaw_of_nonneg (fromRaw_value hy h0 hraw) (by positivity) hlo hhi hfit, hprod,
    Calc.round_intCast h0 hraw, Int.floor_intCast, ConstantProduct.checkBound_of_mem h0 h1]

/-- 最大の u64 の生の量は、9 桁の小数点で量にして戻しても変わらない。 -/
theorem toRaw_fromRaw_u64Max :
    fromRaw u64Max 9 = .ok (.finite false 18446744073709551615 (-9)) ∧
      toRaw (.finite false 18446744073709551615 (-9)) 9 u64Max = .ok u64Max := by
  have hy : fromRaw u64Max 9 = .ok (.finite false 18446744073709551615 (-9)) := by
    with_unfolding_all rfl
  exact ⟨hy, toRaw_fromRaw (by decide) le_rfl hy⟩

end CrossPool.Amount
