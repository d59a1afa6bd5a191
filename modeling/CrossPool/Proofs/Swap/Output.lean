import Mathlib.Tactic
import CrossPool.Proofs.Swap.Width

/-!
# 定積の交換の出力

入力の検査を通り u64 に入る交換（`SwapFits`）について、`swapOutRaw` は成功して
`cpOut (netInput a fee) rin rout` を返す（`SwapFits.swapOutRaw_eq`）。この閉じた形から、

* 出力は `[0, rout)` にあり、交換のあとの準備量の積は交換の前の積を下回らない。
* 出力は量と出力側の準備量について広義単調増加、入力側の準備量と手数料について広義単調減少
  （`swapOutRaw_keeps_product_monotone`）。

床関数が二度入る（手数料を引いた入力と最後の商）ので、どちらも `w * rout / (rin + w)` を
掛け算に戻して比べる。鍵は `cpOut_mul_le`（商に分母を掛けると分子を超えない）と
`cpOut_le`（商は出力側の準備量を超えない）の二つである。
-/

namespace CrossPool.ConstantProduct

open Amount

/-- 交換の引数が入力の検査を通り、u64 に入る：量と準備量は正で `u64Max` 以下、手数料は
`[0, 10000)` bps。 -/
structure SwapFits (amountIn reserveIn reserveOut feeBps : Int) : Prop where
  amount_pos : 0 < amountIn
  amount_le : amountIn ≤ u64Max
  reserveIn_pos : 0 < reserveIn
  reserveIn_le : reserveIn ≤ u64Max
  reserveOut_pos : 0 < reserveOut
  reserveOut_le : reserveOut ≤ u64Max
  fee_nonneg : 0 ≤ feeBps
  fee_lt : feeBps < 10000

/-- 手数料を引いた入力 `w` に対する定積の式の出力 `floor (w * rout / (rin + w))`。 -/
def cpOut (w reserveIn reserveOut : Int) : Int := w * reserveOut / (reserveIn + w)

/-! ## 商の性質 -/

section Quotient

variable {w reserveIn reserveOut : Int}

theorem cpOut_nonneg (hw : 0 ≤ w) (hi : 0 < reserveIn) (ho : 0 ≤ reserveOut) :
    0 ≤ cpOut w reserveIn reserveOut :=
  Int.ediv_nonneg (mul_nonneg hw ho) (by omega)

theorem cpOut_mul_le (hw : 0 ≤ w) (hi : 0 < reserveIn) :
    cpOut w reserveIn reserveOut * (reserveIn + w) ≤ w * reserveOut :=
  Int.ediv_mul_le _ (by omega)

theorem cpOut_le (hw : 0 ≤ w) (hi : 0 < reserveIn) (ho : 0 ≤ reserveOut) :
    cpOut w reserveIn reserveOut ≤ reserveOut := by
  -- `q * (rin + w) ≤ w * rout ≤ rout * (rin + w)` を分母で割る
  refine le_of_mul_le_mul_right ?_ (by omega : 0 < reserveIn + w)
  calc cpOut w reserveIn reserveOut * (reserveIn + w) ≤ w * reserveOut := cpOut_mul_le hw hi
    _ ≤ reserveOut * (reserveIn + w) := by nlinarith

/-- 交換のあとの準備量の積 `(rin + w) * (rout - out)` は交換の前の積を下回らない。 -/
theorem product_le_cpOut (hw : 0 ≤ w) (hi : 0 < reserveIn) :
    reserveIn * reserveOut ≤ (reserveIn + w) * (reserveOut - cpOut w reserveIn reserveOut) := by
  have hmul : cpOut w reserveIn reserveOut * (reserveIn + w) ≤ w * reserveOut :=
    cpOut_mul_le hw hi
  nlinarith

/-- 出力は、手数料を引いた入力と出力側の準備量について増加し、入力側の準備量について減少する。

`q = cpOut w rin rout` とおくと `q * (rin' + w') ≤ q * (rin + w) + q * (w' - w)`
`≤ w * rout + rout * (w' - w) = w' * rout ≤ w' * rout'` なので、`q` は新しい商以下。 -/
theorem cpOut_mono {w' reserveIn' reserveOut' : Int} (hw : 0 ≤ w) (hi : 0 < reserveIn')
    (ho : 0 ≤ reserveOut) (hww : w ≤ w') (hii : reserveIn' ≤ reserveIn)
    (hoo : reserveOut ≤ reserveOut') :
    cpOut w reserveIn reserveOut ≤ cpOut w' reserveIn' reserveOut' := by
  have hi0 : 0 < reserveIn := lt_of_lt_of_le hi hii
  have hmul : cpOut w reserveIn reserveOut * (reserveIn + w) ≤ w * reserveOut :=
    cpOut_mul_le hw hi0
  have hq := cpOut_nonneg hw hi0 ho
  have hle := cpOut_le hw hi0 ho
  set q := cpOut w reserveIn reserveOut
  have hstep : q * (reserveIn' + w') ≤ w' * reserveOut' :=
    calc q * (reserveIn' + w') ≤ q * (reserveIn + w) + q * (w' - w) := by nlinarith
      _ ≤ w * reserveOut + reserveOut * (w' - w) := by nlinarith
      _ = w' * reserveOut := by ring
      _ ≤ w' * reserveOut' := mul_le_mul_of_nonneg_left hoo (by omega)
  exact Int.le_ediv_of_mul_le (by omega) hstep

end Quotient

/-! ## 手数料を引いた入力 -/

/-- 手数料を引いた入力は、量について増加し、手数料について減少する。 -/
theorem netInput_mono {amountIn amountIn' feeBps feeBps' : Int} (ha : 0 ≤ amountIn)
    (hf : feeBps < 10000) (haa : amountIn ≤ amountIn')
    (hff : feeBps' ≤ feeBps) :
    netInput amountIn feeBps ≤ netInput amountIn' feeBps' := by
  unfold netInput
  apply Int.ediv_le_ediv (by norm_num)
  have hk : 0 ≤ 10000 - feeBps := by omega
  calc amountIn * (10000 - feeBps) ≤ amountIn' * (10000 - feeBps) :=
        mul_le_mul_of_nonneg_right haa hk
    _ ≤ amountIn' * (10000 - feeBps') := mul_le_mul_of_nonneg_left (by omega) (by omega)

/-! ## 交換 -/

namespace SwapFits

variable {amountIn reserveIn reserveOut feeBps : Int}

/-- u64 に入る交換は成功し、値は定積の式の出力。 -/
theorem swapOutRaw_eq (h : SwapFits amountIn reserveIn reserveOut feeBps) :
    swapOutRaw amountIn reserveIn reserveOut feeBps =
      .ok (cpOut (netInput amountIn feeBps) reserveIn reserveOut) :=
  (swapOutRaw_eq_of_fits h.amount_pos h.reserveIn_pos h.reserveOut_pos h.fee_nonneg h.fee_lt
    h.amount_le h.reserveIn_le h.reserveOut_le).1

theorem netInput_mem (h : SwapFits amountIn reserveIn reserveOut feeBps) :
    0 ≤ netInput amountIn feeBps ∧ netInput amountIn feeBps ≤ amountIn :=
  ConstantProduct.netInput_mem h.amount_pos.le h.fee_nonneg h.fee_lt

end SwapFits

/-- u64 に入る交換は成功する。出力は `[0, rout)` にあり、交換のあとの準備量の積
`(rin + a) * (rout - out)` は前の積 `rin * rout` を下回らない。さらに、量と出力側の準備量が
大きく、入力側の準備量と手数料が小さい交換の出力は、これ以上である。 -/
theorem swapOutRaw_keeps_product_monotone {amountIn reserveIn reserveOut feeBps : Int}
    (h : SwapFits amountIn reserveIn reserveOut feeBps) :
    ∃ out, swapOutRaw amountIn reserveIn reserveOut feeBps = .ok out ∧
      0 ≤ out ∧ out < reserveOut ∧
      reserveIn * reserveOut ≤ (reserveIn + amountIn) * (reserveOut - out) ∧
      ∀ amountIn' reserveIn' reserveOut' feeBps',
        SwapFits amountIn' reserveIn' reserveOut' feeBps' →
        amountIn ≤ amountIn' → reserveIn' ≤ reserveIn → reserveOut ≤ reserveOut' →
        feeBps' ≤ feeBps →
        ∃ out', swapOutRaw amountIn' reserveIn' reserveOut' feeBps' = .ok out' ∧ out ≤ out' := by
  obtain ⟨hw0, hwa⟩ := h.netInput_mem
  set w := netInput amountIn feeBps
  have hout0 := cpOut_nonneg hw0 h.reserveIn_pos h.reserveOut_pos.le
  have hlt : cpOut w reserveIn reserveOut < reserveOut :=
    (swapOutRaw_eq_of_fits h.amount_pos h.reserveIn_pos h.reserveOut_pos h.fee_nonneg
      h.fee_lt h.amount_le h.reserveIn_le h.reserveOut_le).2
  -- 積は手数料を引いた入力で下回らず、残りの入力 `a - w` を足すと増えるだけ
  have hprod : reserveIn * reserveOut ≤
      (reserveIn + amountIn) * (reserveOut - cpOut w reserveIn reserveOut) := by
    have hw : reserveIn * reserveOut ≤
        (reserveIn + w) * (reserveOut - cpOut w reserveIn reserveOut) :=
      product_le_cpOut hw0 h.reserveIn_pos
    have hrest : 0 ≤ (amountIn - w) * (reserveOut - cpOut w reserveIn reserveOut) :=
      mul_nonneg (by omega) (by omega)
    nlinarith
  refine ⟨_, h.swapOutRaw_eq, hout0, hlt, hprod, ?_⟩
  intro amountIn' reserveIn' reserveOut' feeBps' h' haa hii hoo hff
  refine ⟨_, h'.swapOutRaw_eq, cpOut_mono hw0 h'.reserveIn_pos h.reserveOut_pos.le ?_ hii hoo⟩
  exact netInput_mono h.amount_pos.le h.fee_lt haa hff

/-- 準備量 `10^9` と `1.5 * 10^11`、手数料 30 bps で `10^6` を交換すると、出力は積を保ち、
これより有利などの u64 の交換の出力も超えない。 -/
theorem swapOutRaw_keeps_product_monotone_at_thirty_bps :
    SwapFits 1000000 1000000000 150000000000 30 ∧
      ∃ out, swapOutRaw 1000000 1000000000 150000000000 30 = .ok out ∧
        0 ≤ out ∧ out < 150000000000 ∧
        1000000000 * 150000000000 ≤ (1000000000 + 1000000) * (150000000000 - out) ∧
        ∀ amountIn' reserveIn' reserveOut' feeBps',
          SwapFits amountIn' reserveIn' reserveOut' feeBps' →
          1000000 ≤ amountIn' → reserveIn' ≤ 1000000000 → 150000000000 ≤ reserveOut' →
          feeBps' ≤ 30 →
          ∃ out', swapOutRaw amountIn' reserveIn' reserveOut' feeBps' = .ok out' ∧ out ≤ out' :=
  have h : SwapFits 1000000 1000000000 150000000000 30 :=
    ⟨by decide, by decide, by decide, by decide, by decide, by decide, by decide, by decide⟩
  ⟨h, swapOutRaw_keeps_product_monotone h⟩

end CrossPool.ConstantProduct
