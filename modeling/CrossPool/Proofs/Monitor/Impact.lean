import Mathlib
import CrossPool.Proofs.Decimal.Signed
import CrossPool.Proofs.Monitor.Windows
import CrossPool.Proofs.Scan.Admissible

/-!
# 価格影響の範囲と単調性

入力の量 `s` に対する価格影響 `priceImpact p s aToB` は、成功すればいつも 0 以上 1 以下の
値である。定積のプールでは、正確な値 `s / (rin + s)` を 5 回丸めてから `[0, 1]` に収めるので、
量が 50 桁目で増えても影響が減ることがある（`constantProduct_impact_decreases`）。定積でない
プールでは、影響は次の段を重ねたもので、量について単調である（`priceImpact_mem_unit_mono`）。

1. 量を生の整数にする。`10^d` を掛けて丸め、切り捨てる（`Amount.toRaw_mono`）。
2. 流動性の 2 倍で割って丸め、1 で頭打ちにする（`Concentrated.linearValue`）。
3. 動的なプールでは、ビン幅で決まる係数を掛けて丸め、1 で頭打ちにする
   （`Concentrated.binValue`）。
4. `[0, 1]` に収める（`Monitor.clampUnit`）。

段 3 の係数が負なら向きが逆になるが、そのとき結果は 0 以下で、段 4 でどれも 0 になる。
各段の値は `Context.roundSigned` の言葉で書け、丸めは単調なので段ごとに順序が保たれる。
-/

namespace CrossPool

open Decimal

/-! ## 生の量への変換 -/

namespace Amount

theorem checkBound_eq_ok {v B r : ℤ} {op : String} (h : checkBound v B op = .ok r) :
    r = v ∧ 0 ≤ v ∧ v ≤ B := by
  unfold checkBound at h
  split at h
  · obtain ⟨_, -, h⟩ := bind_eq_ok h
    cases h
  · next hc =>
    cases h
    simp only [Bool.or_eq_true, decide_eq_true_eq, not_or, not_lt] at hc
    exact ⟨rfl, hc⟩

/-- 生の量は、0 以上の量 `x` に `10^d` の値 `π` を掛けて丸め、切り捨てた整数。 -/
theorem toRaw_eq_ok {a : Decimal} {d B r : ℤ} (h : toRaw a d B = .ok r) :
    ∃ (P : Decimal) (π x : ℚ), Calc.pow10 d = .ok P ∧
      P.value = ((π : WithTop ℚ) : WithBot (WithTop ℚ)) ∧ 0 ≤ π ∧
      a.value = ((x : WithTop ℚ) : WithBot (WithTop ℚ)) ∧ 0 ≤ x ∧
      r = ⌊Calc.ctx.roundSigned (x * π)⌋ := by
  unfold toRaw at h
  obtain ⟨t, ht, h⟩ := bind_eq_ok h
  obtain ⟨ha, -, rfl⟩ := Calc.lt_eq_ok.mp ht
  by_cases hneg : a.value < (Calc.ofInt 0).value
  · simp only [hneg, decide_true, if_true] at h
    obtain ⟨_, h, -⟩ := bind_eq_ok h
    cases h
  simp only [hneg, decide_false, Bool.false_eq_true, if_false] at h
  obtain ⟨P, hP, h⟩ := bind_eq_ok h
  obtain ⟨s, hs, h⟩ := bind_eq_ok h
  obtain ⟨raw, hraw, h⟩ := bind_eq_ok h
  obtain ⟨rfl, -⟩ := checkBound_eq_ok h
  obtain ⟨π, hπ, hπ0⟩ := Calc.pow10_value hP
  -- 量は有限。無限大に掛けた結果は整数に切り捨てられない
  obtain ⟨x, hx⟩ : ∃ x : ℚ, a.value = ((x : WithTop ℚ) : WithBot (WithTop ℚ)) := by
    cases a with
    | finite n c e => exact ⟨_, rfl⟩
    | nan => cases ha
    | infinity n =>
      obtain ⟨nP, cP, eP, rfl, -⟩ := value_eq_coe.mp hπ
      simp only [Calc.mul, Decimal.mul] at hs
      split at hs
      · cases hs
      · cases Calc.liftSignal_eq_ok.mp hs
        cases hraw
  have hx0 : 0 ≤ x := by
    rw [hx, Calc.value_ofInt, Int.cast_zero] at hneg
    exact (coe_le_coe_iff).mp (not_lt.mp hneg)
  have hsv := Calc.mul_value hs hx hπ
  rw [Calc.truncate_of_nonneg hsv (roundSigned_nonneg (mul_nonneg hx0 hπ0))] at hraw
  cases hraw
  exact ⟨P, π, x, hP, hπ, hπ0, hx, hx0, rfl⟩

/-- 生の量への変換は量について単調。二つの変換は同じ `10^d` を掛ける。 -/
theorem toRaw_mono {a₁ a₂ : Decimal} {d B r₁ r₂ : ℤ} (h₁ : toRaw a₁ d B = .ok r₁)
    (h₂ : toRaw a₂ d B = .ok r₂) (hle : a₁.value ≤ a₂.value) : r₁ ≤ r₂ := by
  obtain ⟨P, π, x₁, hP, hπ, hπ0, hx₁, -, rfl⟩ := toRaw_eq_ok h₁
  obtain ⟨P', π', x₂, hP', hπ', -, hx₂, -, rfl⟩ := toRaw_eq_ok h₂
  rw [hP] at hP'
  cases hP'
  have hππ : π' = π := by
    rw [hπ] at hπ'
    exact_mod_cast hπ'.symm
  subst hππ
  rw [hx₁, hx₂, coe_le_coe_iff] at hle
  exact Int.floor_mono (roundSigned_mono (by decide) (mul_le_mul_of_nonneg_right hle hπ0))

end Amount

/-! ## 線形の価格影響とビン幅 -/

namespace Concentrated

/-- 生の量 `raw` と流動性 `L` の線形の価格影響の値。流動性がなければ 1、量がなければ 0。 -/
def linearValue (raw L : ℤ) : ℚ :=
  if L ≤ 0 then 1
  else if raw ≤ 0 then 0
  else Min.min (Calc.ctx.roundSigned ((raw : ℚ) / ((2 * L : ℤ) : ℚ))) 1

theorem linearImpact_value {raw L : ℤ} {i : Decimal} (h : linearImpact raw L = .ok i) :
    i.value = ((linearValue raw L : WithTop ℚ) : WithBot (WithTop ℚ)) := by
  unfold linearImpact at h
  unfold linearValue
  split_ifs at h ⊢ with hL hr
  · cases h
    simpa using Calc.value_ofInt 1
  · cases h
    simpa using Calc.value_ofInt 0
  · obtain ⟨depth, hd, h⟩ := bind_eq_ok h
    obtain ⟨rfl, -⟩ := Amount.checkBound_eq_ok hd
    obtain ⟨q, hq, h⟩ := bind_eq_ok h
    rw [Calc.min_value h, Calc.div_value hq (Calc.value_ofInt raw) (Calc.value_ofInt _),
      Calc.value_lit_one', coe_min_coe]

theorem linearValue_mem (raw L : ℤ) : 0 ≤ linearValue raw L ∧ linearValue raw L ≤ 1 := by
  unfold linearValue
  split_ifs with hL hr
  · norm_num
  · norm_num
  · refine ⟨le_min (roundSigned_nonneg (div_nonneg ?_ ?_)) zero_le_one, min_le_right _ _⟩
    · exact_mod_cast (not_le.mp hr).le
    · exact_mod_cast (by omega : (0 : ℤ) ≤ 2 * L)

/-- 線形の価格影響は生の量について単調。量が 0 以下なら 0 で、正の量では丸めた商。 -/
theorem linearValue_mono (L : ℤ) : Monotone (linearValue · L) := by
  intro r₁ r₂ hr
  dsimp only
  by_cases hL : L ≤ 0
  · simp [linearValue, hL]
  by_cases h₁ : r₁ ≤ 0
  · rw [show linearValue r₁ L = 0 by simp [linearValue, hL, h₁]]
    exact (linearValue_mem r₂ L).1
  have h₂ : ¬ r₂ ≤ 0 := by omega
  simp only [linearValue, hL, h₁, h₂, if_false]
  refine min_le_min_right 1 (roundSigned_mono (by decide) ?_)
  exact div_le_div_of_nonneg_right (by exact_mod_cast hr) (by exact_mod_cast (by omega : (0 : ℤ) ≤ 2 * L))

/-- ビン幅 `b` で広げる係数 `1 + b / 100` の値。 -/
def widenValue (b : ℤ) : ℚ := Calc.ctx.roundSigned (1 + Calc.ctx.roundSigned ((b : ℚ) / 100))

/-- ビン幅で広げた価格影響の値。ビン幅が 0 か欠けていればそのまま。 -/
def binValue (v : ℚ) : Option ℤ → ℚ
  | none => v
  | some b => if b = 0 then v else Min.min (Calc.ctx.roundSigned (v * widenValue b)) 1

theorem binAdjustedImpact_value {i r : Decimal} {v : ℚ} {bs : Option ℤ}
    (hi : i.value = ((v : WithTop ℚ) : WithBot (WithTop ℚ))) (h : binAdjustedImpact i bs = .ok r) :
    r.value = ((binValue v bs : WithTop ℚ) : WithBot (WithTop ℚ)) := by
  unfold binAdjustedImpact at h
  cases bs with
  | none =>
    cases h
    exact hi
  | some b =>
    dsimp only at h
    simp only [binValue]
    split_ifs at h ⊢ with hb
    · cases h
      exact hi
    · obtain ⟨q, hq, h⟩ := bind_eq_ok h
      obtain ⟨w, hw, h⟩ := bind_eq_ok h
      obtain ⟨m, hm, h⟩ := bind_eq_ok h
      have hqv := Calc.div_value hq (Calc.value_ofInt b) Calc.value_lit_hundred
      have hwv := Calc.add_value hw Calc.value_lit_one' hqv
      rw [Calc.min_value h, Calc.mul_value hm hi hwv, Calc.value_lit_one', coe_min_coe]
      rfl

end Concentrated


/-! ## 定積の価格影響 -/

namespace ConstantProduct

/-- 定積の価格影響は `[0, 1]` にある。準備量が 0 以下なら 1、量が 0 以下なら 0 で、
それ以外は丸めた影響を `[0, 1]` に収めたもの。 -/
theorem priceImpact_mem {a rin rout v : Decimal} (h : priceImpact a rin rout = .ok v) :
    0 ≤ v.value ∧ v.value ≤ 1 := by
  unfold priceImpact at h
  dsimp only at h
  obtain ⟨_, -, h⟩ := bind_eq_ok h
  split at h
  · cases h
    rw [Calc.value_ofInt_one]
    exact ⟨zero_le_one, le_rfl⟩
  obtain ⟨_, -, h⟩ := bind_eq_ok h
  split at h
  · cases h
    rw [Calc.value_ofInt_one]
    exact ⟨zero_le_one, le_rfl⟩
  obtain ⟨_, -, h⟩ := bind_eq_ok h
  split at h
  · cases h
    rw [Calc.value_ofInt_zero]
    exact ⟨le_rfl, zero_le_one⟩
  -- 出力、平均価格、現在の価格、影響の計算は値を問わず、最後の `max 0 (min impact 1)` だけを読む
  obtain ⟨_, -, h⟩ := bind_eq_ok h
  obtain ⟨_, -, h⟩ := bind_eq_ok h
  obtain ⟨_, -, h⟩ := bind_eq_ok h
  obtain ⟨_, -, h⟩ := bind_eq_ok h
  obtain ⟨_, -, h⟩ := bind_eq_ok h
  obtain ⟨_, -, h⟩ := bind_eq_ok h
  obtain ⟨_, -, h⟩ := bind_eq_ok h
  obtain ⟨m, hm, h⟩ := bind_eq_ok h
  rw [Calc.max_value h, Calc.min_value hm, Calc.value_ofInt_zero, Calc.value_lit_one]
  exact ⟨le_max_left _ _, max_le zero_le_one (min_le_right _ _)⟩

/-- 量が 0 以下なら、影響は同じ準備量でのどの量の影響も超えない。準備量が 0 以下なら影響は
いつも 1 で、そうでなければ 0 以下の量の影響は 0。 -/
theorem priceImpact_le_of_nonpos {a₁ a₂ rin rout v₁ v₂ : Decimal} (ha : a₁.value ≤ 0)
    (h₁ : priceImpact a₁ rin rout = .ok v₁) (h₂ : priceImpact a₂ rin rout = .ok v₂) :
    v₁.value ≤ v₂.value := by
  have hv₂ := (priceImpact_mem h₂).1
  unfold priceImpact at h₁ h₂
  dsimp only at h₁ h₂
  obtain ⟨t, ht, h₁⟩ := bind_eq_ok h₁
  obtain ⟨t', ht', h₂⟩ := bind_eq_ok h₂
  rw [ht] at ht'
  cases ht'
  split at h₁
  · next hin =>
    rw [if_pos hin] at h₂
    cases h₁
    cases h₂
    exact le_rfl
  rw [if_neg ‹_›] at h₂
  obtain ⟨t, ht, h₁⟩ := bind_eq_ok h₁
  obtain ⟨t', ht', h₂⟩ := bind_eq_ok h₂
  rw [ht] at ht'
  cases ht'
  split at h₁
  · next hout =>
    rw [if_pos hout] at h₂
    cases h₁
    cases h₂
    exact le_rfl
  obtain ⟨t, ht, h₁⟩ := bind_eq_ok h₁
  obtain ⟨-, -, rfl⟩ := Calc.le_eq_ok.mp ht
  rw [Calc.value_ofInt_zero, if_pos (decide_eq_true ha)] at h₁
  cases h₁
  rwa [Calc.value_ofInt_zero]

end ConstantProduct

/-! ## `[0, 1]` に収める -/

namespace Monitor

/-- `[0, 1]` に収めた値。 -/
def clampUnit (v : ℚ) : ℚ := Max.max 0 (Min.min v 1)

theorem clampUnit_mem (v : ℚ) : 0 ≤ clampUnit v ∧ clampUnit v ≤ 1 :=
  ⟨le_max_left _ _, max_le zero_le_one (min_le_right _ _)⟩

theorem clampUnit_mono : Monotone clampUnit := fun _ _ h =>
  max_le_max_left 0 (min_le_min_right 1 h)

theorem clampUnit_of_nonpos {v : ℚ} (h : v ≤ 0) : clampUnit v = 0 :=
  max_eq_left ((min_le_left _ _).trans h)

/-- 0 以上の影響をビン幅で広げて `[0, 1]` に収めることは単調。係数が負なら結果はどれも 0。 -/
theorem clampUnit_binValue_mono {v₁ v₂ : ℚ} (h0 : 0 ≤ v₁) (hle : v₁ ≤ v₂) (bs : Option ℤ) :
    clampUnit (Concentrated.binValue v₁ bs) ≤ clampUnit (Concentrated.binValue v₂ bs) := by
  cases bs with
  | none => exact clampUnit_mono hle
  | some b =>
    simp only [Concentrated.binValue]
    split_ifs with hb
    · exact clampUnit_mono hle
    rcases le_or_gt 0 (Concentrated.widenValue b) with hw | hw
    · exact clampUnit_mono (min_le_min_right 1
        (roundSigned_mono (by decide) (mul_le_mul_of_nonneg_right hle hw)))
    · have hzero : ∀ v : ℚ, 0 ≤ v →
          clampUnit (Min.min (Calc.ctx.roundSigned (v * Concentrated.widenValue b)) 1) = 0 :=
        fun v hv => clampUnit_of_nonpos
          ((min_le_left _ _).trans (roundSigned_nonpos (mul_nonpos_of_nonneg_of_nonpos hv hw.le)))
      rw [hzero v₁ h0, hzero v₂ (h0.trans hle)]

/-- 定積でないプールの価格影響の値：生の量の線形の影響を、動的なプールではビン幅で広げ、
`[0, 1]` に収めたもの。 -/
theorem priceImpact_value_of_curve {p : PoolState} {s v : Decimal} {aToB : Bool}
    (hk : p.kind ≠ .constantProduct) (h : priceImpact p s aToB = .ok v) :
    ∃ raw, Amount.toRaw s (if aToB then p.decimalsA else p.decimalsB) Amount.u64Max = .ok raw ∧
      v.value = ((clampUnit (if p.kind = .dynamic then
        Concentrated.binValue (Concentrated.linearValue raw p.liquidity) p.binStep
        else Concentrated.linearValue raw p.liquidity) : WithTop ℚ) : WithBot (WithTop ℚ)) := by
  unfold priceImpact at h
  dsimp only at h
  split at h
  · obtain ⟨_, h, -⟩ := bind_eq_ok h
    cases h
  cases hkind : p.kind with
  | constantProduct => exact absurd hkind hk
  | concentrated =>
    rw [hkind] at h
    dsimp only at h
    obtain ⟨raw, hraw, h⟩ := bind_eq_ok h
    obtain ⟨i, hi, h⟩ := bind_eq_ok h
    obtain ⟨j, hj, h⟩ := bind_eq_ok h
    cases hj
    refine ⟨raw, hraw, ?_⟩
    rw [if_neg (by decide), Calc.clamp_value h, Concentrated.linearImpact_value hi,
      Calc.value_lit_zero', Calc.value_lit_one', coe_min_coe, coe_max_coe]
    rfl
  | dynamic =>
    rw [hkind] at h
    dsimp only at h
    obtain ⟨raw, hraw, h⟩ := bind_eq_ok h
    obtain ⟨i, hi, h⟩ := bind_eq_ok h
    obtain ⟨j, hj, h⟩ := bind_eq_ok h
    refine ⟨raw, hraw, ?_⟩
    rw [if_pos rfl, Calc.clamp_value h,
      Concentrated.binAdjustedImpact_value (Concentrated.linearImpact_value hi) hj,
      Calc.value_lit_zero', Calc.value_lit_one', coe_min_coe, coe_max_coe]
    rfl

/-- 定積のプールの価格影響は、小数点で調整した準備量での定積の式の影響。 -/
theorem priceImpact_of_constantProduct {p : PoolState} {s v : Decimal} {aToB : Bool}
    (hk : p.kind = .constantProduct) (h : priceImpact p s aToB = .ok v) :
    ∃ r : Decimal × Decimal, uiReserves p aToB = .ok r ∧ ConstantProduct.priceImpact s r.1 r.2 = .ok v := by
  unfold priceImpact at h
  dsimp only at h
  split at h
  · obtain ⟨_, h, -⟩ := bind_eq_ok h
    cases h
  rw [hk] at h
  exact bind_eq_ok h

theorem coe_mem_unit {q : ℚ} (h : 0 ≤ q ∧ q ≤ 1) :
    0 ≤ ((q : WithTop ℚ) : WithBot (WithTop ℚ)) ∧ ((q : WithTop ℚ) : WithBot (WithTop ℚ)) ≤ 1 := by
  exact_mod_cast h

/--
価格影響は `[0, 1]` にあり、定積でないプールでは量について単調。定積のプールで単調と
言えるのは、小さいほうの量が 0 以下のときだけである。
-/
theorem priceImpact_mem_unit_mono {p : PoolState} {aToB : Bool} {s₁ s₂ v₁ v₂ : Decimal}
    (hle : s₁.value ≤ s₂.value) (h₁ : priceImpact p s₁ aToB = .ok v₁)
    (h₂ : priceImpact p s₂ aToB = .ok v₂) :
    (0 ≤ v₁.value ∧ v₁.value ≤ 1) ∧ (0 ≤ v₂.value ∧ v₂.value ≤ 1) ∧
      (p.kind ≠ .constantProduct ∨ s₁.value ≤ 0 → v₁.value ≤ v₂.value) := by
  by_cases hk : p.kind = .constantProduct
  · obtain ⟨r, hr, h₁⟩ := priceImpact_of_constantProduct hk h₁
    obtain ⟨r', hr', h₂⟩ := priceImpact_of_constantProduct hk h₂
    rw [hr] at hr'
    cases hr'
    refine ⟨ConstantProduct.priceImpact_mem h₁, ConstantProduct.priceImpact_mem h₂, ?_⟩
    rintro (hk' | hs)
    · exact absurd hk hk'
    · exact ConstantProduct.priceImpact_le_of_nonpos hs h₁ h₂
  · -- 定積でない：生の量が単調で、各段の値も単調
    obtain ⟨r₁, hr₁, hv₁⟩ := priceImpact_value_of_curve hk h₁
    obtain ⟨r₂, hr₂, hv₂⟩ := priceImpact_value_of_curve hk h₂
    have hlin := Concentrated.linearValue_mono p.liquidity (Amount.toRaw_mono hr₁ hr₂ hle)
    refine ⟨hv₁ ▸ coe_mem_unit (clampUnit_mem _), hv₂ ▸ coe_mem_unit (clampUnit_mem _), fun _ => ?_⟩
    rw [hv₁, hv₂, coe_le_coe_iff]
    split_ifs
    · exact clampUnit_binValue_mono (Concentrated.linearValue_mem _ _).1 hlin p.binStep
    · exact clampUnit_mono hlin

/-- ビン幅 10 の動的なプールで、量 1 と 2 の影響は 0.00055 と 0.0011。 -/
theorem priceImpact_mem_unit_mono_on_dynamic_pool :
    let p : PoolState := { (default : PoolState) with
      address := "d", kind := .dynamic, liquidity := 1000000000,
      sqrtPriceX64 := some 18446744073709551616, decimalsA := 6, decimalsB := 6, binStep := some 10 }
    (Decimal.finite false 1 0).value ≤ (Decimal.finite false 2 0).value ∧
      priceImpact p (.finite false 1 0) true = .ok (.finite false 55 (-5)) ∧
      priceImpact p (.finite false 2 0) true = .ok (.finite false 11 (-4)) ∧
      (0 ≤ (Decimal.finite false 55 (-5)).value ∧ (Decimal.finite false 55 (-5)).value ≤ 1) ∧
      (0 ≤ (Decimal.finite false 11 (-4)).value ∧ (Decimal.finite false 11 (-4)).value ≤ 1) ∧
      (p.kind ≠ .constantProduct ∨ (Decimal.finite false 1 0).value ≤ 0 →
        (Decimal.finite false 55 (-5)).value ≤ (Decimal.finite false 11 (-4)).value) := by
  intro p
  have hle : (Decimal.finite false 1 0).value ≤ (Decimal.finite false 2 0).value := by
    rw [value_finite_false, value_finite_false, coe_le_coe_iff]
    norm_num [magnitude]
  have h₁ : priceImpact p (.finite false 1 0) true = .ok (.finite false 55 (-5)) :=
    Detector.eq_ok_of_toOption (by decide +kernel)
  have h₂ : priceImpact p (.finite false 2 0) true = .ok (.finite false 11 (-4)) :=
    Detector.eq_ok_of_toOption (by decide +kernel)
  exact ⟨hle, h₁, h₂, priceImpact_mem_unit_mono hle h₁ h₂⟩

/-- 準備量 1 と 2 の定積のプールで、量 2 の影響は `0.6666…668`、それより `10^-49` だけ多い
量の影響は `0.6666…666`。正確な影響 `s / (1 + s)` は増えるが、丸めた影響は減る。 -/
theorem constantProduct_impact_decreases :
    let p : PoolState := { (default : PoolState) with
      address := "p", kind := .constantProduct, tokenA := "SOL", tokenB := "USDC",
      reserveA := 1, reserveB := 2, lastUpdate := 1000.0 }
    let s₁ : Decimal := .finite false 2 0
    let s₂ : Decimal := .finite false 20000000000000000000000000000000000000000000000001 (-49)
    priceImpact p s₁ true = .ok (.finite false 66666666666666666666666666666666666666666666666668 (-50)) ∧
      priceImpact p s₂ true =
        .ok (.finite false 66666666666666666666666666666666666666666666666666 (-50)) ∧
      s₁.value < s₂.value ∧
      (Decimal.finite false 66666666666666666666666666666666666666666666666666 (-50)).value <
        (Decimal.finite false 66666666666666666666666666666666666666666666666668 (-50)).value := by
  intro p s₁ s₂
  refine ⟨Detector.eq_ok_of_toOption (by decide +kernel), Detector.eq_ok_of_toOption (by decide +kernel), ?_, ?_⟩
  · simp only [s₁, s₂, value_finite_false, WithBot.coe_lt_coe, WithTop.coe_lt_coe]
    norm_num [magnitude]
  · simp only [value_finite_false, WithBot.coe_lt_coe, WithTop.coe_lt_coe]
    norm_num [magnitude]

end Monitor

end CrossPool
