import CrossPool.Monitor.Basic
import CrossPool.Curve.ConstantProduct
import CrossPool.Curve.Concentrated

/-!
# プールの値付け

プールの種類ごとに価格、価格影響、交換の出力、深さを求め、それらから取引が見積もり
どおりに実行される確率を見積もる。

* 定積プールは二つの準備量から正確に求める。
* 集中流動性とビン型のプールは平方根価格と流動性から近似する。ビン型はビン幅で
  価格影響を広げる。

値付けに足りる状態を持たないプールは値付けできない（`insufficientLiquidity`）。

## 実行確率

四つの要素を `[0, 1]` に収めて重み付きで足す。

| 要素 | 重み | 値 |
|---|---|---|
| 価格影響 | 0.4 | 0.5% 以下で 1、10% 以上で 0、その間は線形 |
| 深さ | 0.3 | `exp (-5 * 量 / 深さ)` |
| 鮮度 | 0.2 | `1 - 経過時間 / 鮮度の上限` |
| 安定度 | 0.1 | 安定度の点数、なければ 0.5 |
-/

namespace CrossPool.Monitor

open PoolState

/-- 値付けできないプールの失敗。 -/
def unpriced (p : PoolState) (what : String) : Fault :=
  .insufficientLiquidity p.address s!"Pool {p.label} {what}"

/-- context `c` での、トークン a の価格（トークン b 建て）。 -/
def priceIn (c : Decimal.Context) (p : PoolState) : Except Fault Decimal :=
  if !p.isEnriched then .error (unpriced p "has no usable reserves/liquidity")
  else match p.kind with
    | .constantProduct => ConstantProduct.spotPriceIn c p.reserveA p.reserveB p.decimalsA p.decimalsB
    | _ => Concentrated.sqrtPriceToPriceIn c p.sqrtPriceX64 p.decimalsA p.decimalsB

/-- トークン a の価格（トークン b 建て）。 -/
def price (p : PoolState) : Except Fault Decimal := priceIn Calc.ctx p

/-- `base` の価格（`quote` 建て）。プールのトークンの順序によらない。 -/
def orientedPrice (p : PoolState) (base quote : String) : Except Fault Decimal := do
  let pr ← price p
  if p.tokenA == base && p.tokenB == quote then return pr
  if p.tokenA == quote && p.tokenB == base then return ← Calc.div (Calc.lit "1") pr
  throw (.invalidValue s!"Pool {p.label} does not trade {base}/{quote}")

/-- 小数点で調整した二つの準備量。入力側が先。 -/
def uiReserves (p : PoolState) (aToB : Bool) : Except Fault (Decimal × Decimal) := do
  let uiA ← Amount.fromRaw p.reserveA p.decimalsA
  let uiB ← Amount.fromRaw p.reserveB p.decimalsB
  return if aToB then (uiA, uiB) else (uiB, uiA)

/-- 入力 `size` の価格影響。`[0, 1]` の比率。 -/
def priceImpact (p : PoolState) (size : Decimal) (aToB : Bool) : Except Fault Decimal := do
  if !p.isEnriched then throw (unpriced p "cannot be quoted")
  match p.kind with
  | .constantProduct =>
    let (rin, rout) ← uiReserves p aToB
    ConstantProduct.priceImpact size rin rout
  | kind =>
    let raw ← Amount.toRaw size (if aToB then p.decimalsA else p.decimalsB) Amount.u64Max
    let impact ← Concentrated.linearImpact raw p.liquidity
    let impact ← match kind with
      | .dynamic => Concentrated.binAdjustedImpact impact p.binStep
      | _ => pure impact
    Calc.clamp impact (Calc.lit "0") (Calc.lit "1")

/-- 手数料を引いた交換の出力。定積プールは正確、それ以外は近似。 -/
def expectedOutput (p : PoolState) (amountIn : Decimal) (aToB : Bool) : Except Fault Decimal := do
  if !p.isEnriched then throw (unpriced p "cannot be quoted")
  let (dIn, dOut) := if aToB then (p.decimalsA, p.decimalsB) else (p.decimalsB, p.decimalsA)
  match p.kind with
  | .constantProduct =>
    let (rin, rout) := if aToB then (p.reserveA, p.reserveB) else (p.reserveB, p.reserveA)
    let raw ← Amount.toRaw amountIn dIn Amount.u64Max
    if raw ≤ 0 then return Calc.lit "0"
    let outRaw ← ConstantProduct.swapOutRaw raw rin rout p.feeRateBps
    Amount.fromRaw outRaw dOut
  | _ =>
    let pr ← price p
    let pr ← if aToB then pure pr else Calc.div (Calc.lit "1") pr
    let impact ← priceImpact p amountIn aToB
    Concentrated.estimateOutput amountIn pr impact p.feeRateBps

/-- 入力側の深さ（小数点で調整した量）。 -/
def depth (p : PoolState) (aToB : Bool) : Except Fault Decimal := do
  match p.kind with
  | .constantProduct => (·.1) <$> uiReserves p aToB
  | _ => Amount.fromRaw p.liquidity (if aToB then p.decimalsA else p.decimalsB)

/-- 価格影響の点数。 -/
def impactScore (impact : Decimal) : Except Fault Float := do
  let full := Calc.lit "0.005"
  let zero := Calc.lit "0.10"
  if (← Calc.le impact full) then return 1.0
  if (← Calc.le zero impact) then return 0.0
  let span ← Calc.sub zero full
  Calc.toFloat (← Calc.div (← Calc.sub zero impact) span)

/-- 安定度の点数がないときの値。 -/
def neutralStability : Float := 0.5

/-- 取引が見積もりどおりに実行される確率。値付けできないプールは 0。 -/
def executionProbability (m : Monitor) (p : PoolState) (size : Decimal) (aToB : Bool)
    (now : Float) : Except Fault Float := do
  if !p.isEnriched then return 0.0
  let impact ← priceImpact p size aToB
  let iScore ← impactScore impact
  let d ← depth p aToB
  if (← Calc.le d (Calc.lit "0")) then return 0.0
  let dScore ← Binary64.exp (-5.0 * (← Calc.toFloat (← Calc.div size d)))
  let fresh := Binary64.clamp (1.0 - (← Binary64.divide (p.age now) m.maxPoolAge)) 0.0 1.0
  let sScore := ((← m.stability.score p.address)).getD neutralStability
  let prob := 0.4 * iScore + 0.3 * dScore + 0.2 * fresh + 0.1 * sScore
  return Binary64.clamp prob 0.0 1.0

/-- 出力側の準備量が必要な出力の 2 倍以上あるか。 -/
def hasSufficientLiquidity (p : PoolState) (required : Decimal) (aToB : Bool) :
    Except Fault Bool := do
  if !p.isEnriched then return false
  let reserveOut ← match p.kind with
    | .constantProduct => (·.2) <$> uiReserves p aToB
    | _ => Amount.fromRaw p.liquidity (if aToB then p.decimalsB else p.decimalsA)
  Calc.le (← Calc.mul required (Calc.lit "2")) reserveOut

end CrossPool.Monitor
