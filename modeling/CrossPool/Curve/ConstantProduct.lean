import CrossPool.Amount

/-!
# 定積曲線

`x * y = k` のプールの計算。

* `swapOutRaw` — 生の整数での交換。手数料を入力から差し引き、
  `out = floor (aw * rout / (rin + aw))`、`aw = floor (a * (10000 - fee) / 10000)`。
  入力は u64、途中の積と和は u128 で検査する。
* `spotPrice` — 小数点で調整した `b / a`。
* `priceImpact` — 手数料なしの出力から `1 - (平均約定価格 / 現在価格)` を求め、
  `[0, 1]` に収める。
-/

namespace CrossPool.ConstantProduct

/-- context `c` での、トークン a の価格（トークン b 建て）。準備量が正でなければ不正。 -/
def spotPriceIn (c : Decimal.Context) (reserveA reserveB decimalsA decimalsB : Int) :
    Except Fault Decimal := do
  if reserveA ≤ 0 || reserveB ≤ 0 then
    throw (.invalidValue s!"Reserves must be positive: a={reserveA}, b={reserveB}")
  let uiA ← Amount.fromRawIn c reserveA decimalsA
  let uiB ← Amount.fromRawIn c reserveB decimalsB
  Calc.divIn c uiB uiA

/-- トークン a の価格（トークン b 建て）。 -/
def spotPrice (reserveA reserveB decimalsA decimalsB : Int) : Except Fault Decimal :=
  spotPriceIn Calc.ctx reserveA reserveB decimalsA decimalsB

/-- 生の整数での交換の出力。 -/
def swapOutRaw (amountIn reserveIn reserveOut feeBps : Int) : Except Fault Int := do
  if amountIn ≤ 0 then throw (.invalidValue s!"amount_in must be positive: {amountIn}")
  if reserveIn ≤ 0 || reserveOut ≤ 0 then
    throw (.invalidValue s!"Reserves must be positive: in={reserveIn}, out={reserveOut}")
  if feeBps < 0 || 10000 ≤ feeBps then
    throw (.invalidValue s!"Fee must be in [0, 10000) bps: {feeBps}")
  for v in [amountIn, reserveIn, reserveOut] do
    let _ ← Amount.checkBound v Amount.u64Max "swap_input"
  let withFee := (← Amount.checkedMul amountIn (10000 - feeBps) Amount.u128Max) / 10000
  let numerator ← Amount.checkedMul withFee reserveOut Amount.u128Max
  let denominator ← Amount.checkedAdd reserveIn withFee Amount.u128Max
  pure (numerator / denominator)

/-- 小数点で調整した量での価格影響。準備量が正でなければ 1、入力が正でなければ 0。 -/
def priceImpact (amountIn reserveIn reserveOut : Decimal) : Except Fault Decimal := do
  let zero := Calc.ofInt 0
  if (← Calc.le reserveIn zero) then return Calc.ofInt 1
  if (← Calc.le reserveOut zero) then return Calc.ofInt 1
  if (← Calc.le amountIn zero) then return zero
  let out ← Calc.div (← Calc.mul reserveOut amountIn) (← Calc.add reserveIn amountIn)
  let avg ← Calc.div out amountIn
  let current ← Calc.div reserveOut reserveIn
  let impact ← Calc.sub (Calc.lit "1") (← Calc.div avg current)
  Calc.max zero (← Calc.min impact (Calc.lit "1"))

end CrossPool.ConstantProduct
