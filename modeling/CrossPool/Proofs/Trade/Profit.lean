import Mathlib
import CrossPool.Proofs.Decimal.Sign
import CrossPool.Proofs.Decimal.ReadFloat
import CrossPool.Proofs.Detector.WellFormed

/-!
# 取引量の評価の損益

評価 `evaluateTradeSize` の各量は別々に 50 桁に丸めた 10 進数で、設定の手数料は `+∞` でも
よい。取引量と買値が 0 以上、二つのプールの手数料（bps）が 0 以上、二つの確率が `[0, 1]`、
設定が検査を通ったものなら、評価は次を満たす（`evaluateTradeSize_profit`）。

* 純利益は粗利以下。粗利が 0 以下なら純利益と期待値も 0 以下。
* 期待値が正なら、期待値は純利益以下、粗利は手数料の合計より大きく、手数料の合計は 0 以上、
  価格影響を含めた売値は買値より高く、純利益率は 0 以上。

売値と二つの価格影響には何も仮定しない。値の順序（`value`、無限大を両端に置く）で、丸めと
無限大を含めて一段ずつ追う。手数料の合計とガス代は 0 以上（`gasCost_nonneg`）で、丸めで
動かない数から 0 以上の数を引いても増えない（`Calc.sub_le_of_nonneg`）。期待値が正なら
純利益が正で、差が正であることを粗利、価格差へとさかのぼる（`Calc.lt_of_sub_pos`、
`Calc.pos_of_mul_pos`）。確率の積は最短表記から `[0, 1]` の有限値として読む
（`ofFloat_value_mem_unit`）。
-/

namespace CrossPool

open Decimal Binary64

/-! ## 換算 -/

/-- 整数の文字列化が成功すれば、その整数の 10 進数。 -/
theorem Calc.eq_ofInt_of_toDecimal {n : ℤ} {d : Decimal} (h : Calc.toDecimal n = .ok d) :
    d = Calc.ofInt n := by
  unfold Calc.toDecimal at h
  obtain ⟨-, -, h⟩ := bind_eq_ok h
  exact (Except.ok.inj h).symm

namespace Rate

theorem value_lit_tenThousand :
    (Calc.lit "10000").value = (((10000 : ℚ) : WithTop ℚ) : WithBot (WithTop ℚ)) := by
  rw [show Calc.lit "10000" = .finite false 10000 0 from rfl, value_finite_false]
  simp [magnitude]

theorem bpsToRate_nonneg {n : ℤ} {r : Decimal} (h : (Calc.toDecimal n >>= bpsToRate) = .ok r)
    (hn : 0 ≤ n) : 0 ≤ r.value := by
  obtain ⟨d, hd, h⟩ := bind_eq_ok h
  rw [Calc.eq_ofInt_of_toDecimal hd] at h
  have hpos : (0 : WithBot (WithTop ℚ)) < (Calc.lit "10000").value := by
    rw [value_lit_tenThousand]
    exact_mod_cast (by norm_num : (0 : ℚ) < 10000)
  refine Calc.div_value_nonneg h ?_ hpos
  rw [Calc.value_ofInt]
  exact_mod_cast hn

theorem isNan_eq_false_of_nonneg {d : Decimal} (h : 0 ≤ d.value) : d.isNan = false := by
  rcases nonneg_cases h with ⟨x, hx, -⟩ | rfl
  · obtain ⟨n, c, e, rfl, -⟩ := value_eq_coe.mp hx
    rfl
  · rfl

/-- 0 以上の量の、0 以上の合計に対する百分率は 0 以上。合計が 0 なら 0 と書く。 -/
theorem percentage_nonneg {v t r : Decimal} (h : percentage v t = .ok r) (hv : 0 ≤ v.value)
    (ht : 0 ≤ t.value) : 0 ≤ r.value := by
  unfold percentage at h
  rw [Calc.eq_of_not_nan (isNan_eq_false_of_nonneg ht) rfl, ok_bind] at h
  by_cases h0 : t.value = (Calc.ofInt 0).value
  · rw [if_pos (decide_eq_true h0)] at h
    cases h
    rw [Calc.value_lit_zero]
  · rw [if_neg (by simpa using h0)] at h
    rw [Calc.value_ofInt_zero] at h0
    obtain ⟨q, hq, h⟩ := bind_eq_ok h
    exact Calc.mul_value_nonneg h (Calc.div_value_nonneg hq hv (lt_of_le_of_ne ht (Ne.symm h0)))
      (by rw [Calc.value_lit_hundred]; exact_mod_cast (by norm_num : (0 : ℚ) ≤ 100))

end Rate

/-! ## ガス代 -/

/-- 検査を通った設定のガス代は 0 以上。手数料が `+∞` ならガス代も `+∞` でありうる。 -/
theorem gasCost_nonneg {g gas : Decimal} {s : Settings} (h : gasCost g s = .ok gas)
    (hs : s.WellFormed) : 0 ≤ gas.value := by
  unfold gasCost at h
  obtain ⟨m, hm, h⟩ := bind_eq_ok h
  obtain ⟨tip, htip, h⟩ := bind_eq_ok h
  obtain ⟨fixed, hfixed, h⟩ := bind_eq_ok h
  -- 心付けは正の粗利に比例する
  have hm0 : 0 ≤ m.value := by
    rw [Calc.max_value hm, Calc.value_lit_zero]
    exact le_max_right _ _
  exact Calc.add_value_nonneg h (Calc.add_value_nonneg hfixed hs.baseFee.2 hs.priorityFee.2)
    (Calc.mul_value_nonneg htip hs.tipPctOfGross.2 hm0)

/-! ## 評価の各段 -/

section Evaluation

variable {size bp sp bi si : Decimal} {bf sf : ℤ} {pb ps : Float} {s : Settings}
  {t : TradeEvaluation}

/-- 成功した評価の各段。内訳の各量は、前の段の量から一つの演算で求めたもの。 -/
theorem evaluateTradeSize_eq_ok (h : evaluateTradeSize size bp sp bi si bf sf pb ps s = .ok t) :
    ∃ diff rb rs feeRate d1, Calc.mul size bp = .ok t.notional ∧
      (Calc.add (Calc.lit "1") bi >>= Calc.mul bp) = .ok t.effectiveBuyPrice ∧
      (Calc.sub (Calc.lit "1") si >>= Calc.mul sp) = .ok t.effectiveSellPrice ∧
      Calc.sub t.effectiveSellPrice t.effectiveBuyPrice = .ok diff ∧
      Calc.mul size diff = .ok t.grossProfit ∧
      Calc.mul t.notional s.flashLoanFeeRate = .ok t.flashLoanFee ∧
      (Calc.toDecimal bf >>= Rate.bpsToRate) = .ok rb ∧
      (Calc.toDecimal sf >>= Rate.bpsToRate) = .ok rs ∧
      Calc.add rb rs = .ok feeRate ∧ Calc.mul t.notional feeRate = .ok t.swapFees ∧
      Calc.add t.flashLoanFee t.swapFees = .ok t.totalFees ∧
      gasCost t.grossProfit s = .ok t.gasCost ∧
      Calc.sub t.grossProfit t.totalFees = .ok d1 ∧ Calc.sub d1 t.gasCost = .ok t.netProfit ∧
      t.combinedProb = pb * ps ∧
      Calc.mul t.netProfit (Calc.ofFloat t.combinedProb) = .ok t.expectedValue ∧
      Rate.percentage t.netProfit t.notional = .ok t.netProfitPct := by
  unfold evaluateTradeSize at h
  obtain ⟨notional, hN, h⟩ := bind_eq_ok h
  obtain ⟨onePlus, hplus, h⟩ := bind_eq_ok h
  obtain ⟨effBuy, hbuy, h⟩ := bind_eq_ok h
  obtain ⟨oneMinus, hminus, h⟩ := bind_eq_ok h
  obtain ⟨effSell, hsell, h⟩ := bind_eq_ok h
  obtain ⟨diff, hdiff, h⟩ := bind_eq_ok h
  obtain ⟨gross, hgross, h⟩ := bind_eq_ok h
  obtain ⟨flash, hflash, h⟩ := bind_eq_ok h
  obtain ⟨db, hdb, h⟩ := bind_eq_ok h
  obtain ⟨rb, hrb, h⟩ := bind_eq_ok h
  obtain ⟨ds, hds, h⟩ := bind_eq_ok h
  obtain ⟨rs, hrs, h⟩ := bind_eq_ok h
  obtain ⟨feeRate, hfee, h⟩ := bind_eq_ok h
  obtain ⟨swap, hswap, h⟩ := bind_eq_ok h
  obtain ⟨total, htotal, h⟩ := bind_eq_ok h
  obtain ⟨gas, hgas, h⟩ := bind_eq_ok h
  obtain ⟨d1, hd1, h⟩ := bind_eq_ok h
  obtain ⟨net, hnet, h⟩ := bind_eq_ok h
  obtain ⟨ev, hev, h⟩ := bind_eq_ok h
  obtain ⟨grossPct, -, h⟩ := bind_eq_ok h
  obtain ⟨feePct, -, h⟩ := bind_eq_ok h
  obtain ⟨netPct, hpct, h⟩ := bind_eq_ok h
  cases h
  exact ⟨diff, rb, rs, feeRate, d1, hN, by rw [hplus, ok_bind, hbuy], by rw [hminus, ok_bind, hsell],
    hdiff, hgross, hflash, by rw [hdb, ok_bind, hrb], by rw [hds, ok_bind, hrs], hfee, hswap, htotal,
    hgas, hd1, hnet, rfl, hev, hpct⟩

/--
取引量と買値が 0 以上、二つのプールの手数料が 0 以上、二つの確率が `[0, 1]` で、設定が
検査を通ったものなら、評価の純利益は粗利以下で、粗利が 0 以下なら純利益と期待値も 0 以下。
期待値が正なら、期待値は純利益以下、粗利は 0 以上の手数料の合計より大きく、価格影響を含めた
売値は買値より高く、純利益率は 0 以上。
-/
theorem evaluateTradeSize_profit {s' : Settings} (hsize : 0 ≤ size.value) (hbp : 0 ≤ bp.value)
    (hbf : 0 ≤ bf) (hsf : 0 ≤ sf) (hpb : InUnit pb) (hps : InUnit ps)
    (hs : Validate.validateSettings s = .ok s')
    (h : evaluateTradeSize size bp sp bi si bf sf pb ps s = .ok t) :
    t.netProfit.value ≤ t.grossProfit.value ∧
      (t.grossProfit.value ≤ 0 → t.netProfit.value ≤ 0 ∧ t.expectedValue.value ≤ 0) ∧
      (0 < t.expectedValue.value →
        t.expectedValue.value ≤ t.netProfit.value ∧ t.totalFees.value < t.grossProfit.value ∧
          0 ≤ t.totalFees.value ∧ t.effectiveBuyPrice.value < t.effectiveSellPrice.value ∧
          0 ≤ t.netProfitPct.value) := by
  have hwf : s.WellFormed := (Validate.validateSettings_wellFormed s s' hs).2
  obtain ⟨diff, rb, rs, feeRate, d1, hN, -, -, hdiff, hgross, hflash, hrb, hrs, hfee, hswap,
    htotal, hgas, hd1, hnet, hcomb, hev, hpct⟩ := evaluateTradeSize_eq_ok h
  have hN0 : 0 ≤ t.notional.value := Calc.mul_value_nonneg hN hsize hbp
  have hfee0 : 0 ≤ feeRate.value :=
    Calc.add_value_nonneg hfee (Rate.bpsToRate_nonneg hrb hbf) (Rate.bpsToRate_nonneg hrs hsf)
  have htotal0 : 0 ≤ t.totalFees.value := Calc.add_value_nonneg htotal
    (Calc.mul_value_nonneg hflash hN0 hwf.rate.1) (Calc.mul_value_nonneg hswap hN0 hfee0)
  have hgas0 : 0 ≤ t.gasCost.value := gasCost_nonneg hgas hwf
  obtain ⟨c, hc, hc0, hc1⟩ := ofFloat_value_mem_unit (hcomb ▸ mul_mem_unit hpb hps)
  -- 0 以上の数を二度引くので、純利益は粗利以下
  have hle : t.netProfit.value ≤ t.grossProfit.value :=
    (Calc.sub_le_of_nonneg hnet (Calc.rounded_of_sub hd1) hgas0).trans
      (Calc.sub_le_of_nonneg hd1 (Calc.rounded_of_mul hgross) htotal0)
  refine ⟨hle, fun hg => ⟨hle.trans hg, Calc.mul_value_nonpos hev (hle.trans hg) hc hc0⟩,
    fun hpos => ?_⟩
  -- 期待値が正なら純利益が正で、そこから差が正であることをさかのぼる
  have hnet0 : 0 < t.netProfit.value :=
    lt_of_not_ge fun hn => absurd hpos (not_lt.mpr (Calc.mul_value_nonpos hev hn hc hc0))
  have hd1pos : 0 < d1.value := hgas0.trans_lt (Calc.lt_of_sub_pos hnet hnet0)
  have hfees : t.totalFees.value < t.grossProfit.value := Calc.lt_of_sub_pos hd1 hd1pos
  have hdiff0 : 0 < diff.value := Calc.pos_of_mul_pos hgross hsize (htotal0.trans_lt hfees)
  exact ⟨Calc.mul_le_of_le_one hev hnet0.le (Calc.rounded_of_sub hnet) hc hc1, hfees, htotal0,
    Calc.lt_of_sub_pos hdiff hdiff0, Rate.percentage_nonneg hpct hnet0.le hN0⟩

end Evaluation

end CrossPool
