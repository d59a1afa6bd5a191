import CrossPool.Amount

/-!
# 集中流動性とビン型の曲線

価格は Q64.64 の平方根価格から、価格影響は tick をまたぐ費用の線形近似から求める。

* `sqrtPriceToPrice` — `(s / 2^64)^2 * 10^(decimalsA - decimalsB)`。
* `linearImpact` — `amount / (2 * liquidity)` を 1 で頭打ちにする。
* `binAdjustedImpact` — ビン幅で `impact * (1 + binStep / 100)` に広げ、1 で頭打ち。
* `estimateOutput` — `amount * price * (1 - impact) * (1 - fee / 10000)`。
-/

namespace CrossPool.Concentrated

/-- context `c` で、平方根価格から小数点で調整した価格を求める。平方根価格が 0 か欠けて
いれば不正。 -/
def sqrtPriceToPriceIn (c : Decimal.Context) (sqrtPriceX64 : Option Int) (decimalsA decimalsB : Int) :
    Except Fault Decimal := do
  match sqrtPriceX64 with
  | none => throw (.invalidValue "sqrt_price_x64 must be positive")
  | some s =>
    if s = 0 then throw (.invalidValue "sqrt_price_x64 must be positive")
    let root ← Amount.q64ToDecimalIn c s
    Calc.mulIn c (← Calc.mulIn c root root) (← Calc.pow10In c (decimalsA - decimalsB))

/-- 平方根価格から小数点で調整した価格を求める。 -/
def sqrtPriceToPrice (sqrtPriceX64 : Option Int) (decimalsA decimalsB : Int) :
    Except Fault Decimal :=
  sqrtPriceToPriceIn Calc.ctx sqrtPriceX64 decimalsA decimalsB

/-- 線形近似の価格影響。流動性が正でなければ 1、入力が正でなければ 0。 -/
def linearImpact (amountInRaw liquidity : Int) : Except Fault Decimal := do
  if liquidity ≤ 0 then return Calc.ofInt 1
  if amountInRaw ≤ 0 then return Calc.ofInt 0
  let depth ← Amount.checkedMul 2 liquidity Amount.u128Max
  let impact ← Calc.div (Calc.ofInt amountInRaw) (Calc.ofInt depth)
  Calc.min impact (Calc.lit "1")

/-- ビン幅で広げた価格影響。ビン幅が 0 か欠けていればそのまま。 -/
def binAdjustedImpact (baseImpact : Decimal) (binStep : Option Int) : Except Fault Decimal := do
  match binStep with
  | none => return baseImpact
  | some b =>
    if b = 0 then return baseImpact
    let widen ← Calc.add (Calc.lit "1") (← Calc.div (Calc.ofInt b) (Calc.lit "100"))
    Calc.min (← Calc.mul baseImpact widen) (Calc.lit "1")

/-- 集中流動性のプールでの交換の出力の近似。 -/
def estimateOutput (amountIn price impact : Decimal) (feeBps : Int) : Except Fault Decimal := do
  let fee ← Calc.div (Calc.ofInt feeBps) (Calc.lit "10000")
  let gross ← Calc.mul (← Calc.mul amountIn price) (← Calc.sub (Calc.lit "1") impact)
  Calc.mul gross (← Calc.sub (Calc.lit "1") fee)

end CrossPool.Concentrated
