import CrossPool.Trade.Settings
import CrossPool.Binary64.Order

/-!
# 取引量ごとの評価

一つの取引量で、一方のプールで買い他方で売るときの内訳。金額はトークン b、量は
トークン a の単位で、百分率は名目額（`size * buyPrice`）に対する値。

```
notional = size * buyPrice
gross    = size * (sellPrice * (1 - sellImpact) - buyPrice * (1 + buyImpact))
fees     = notional * flashLoanFeeRate + notional * (buyFee + sellFee)
gas      = baseFee + priorityFee + tipPctOfGross * max gross 0
net      = gross - fees - gas
EV       = net * buyProb * sellProb
```

確率の積は浮動小数点数で、期待値に掛けるときはその最短表記を 10 進数として読む。
-/

namespace CrossPool

/-! ## 単位の換算 -/

namespace Rate

/-- 百分率を bps にする。 -/
def pctToBps (pct : Decimal) : Except Fault Decimal := Calc.mul pct (Calc.lit "100")

/-- bps を百分率にする。 -/
def bpsToPct (bps : Decimal) : Except Fault Decimal := Calc.div bps (Calc.lit "100")

/-- bps を比率にする。 -/
def bpsToRate (bps : Decimal) : Except Fault Decimal := Calc.div bps (Calc.lit "10000")

/-- 比率を百分率にする。 -/
def rateToPct (rate : Decimal) : Except Fault Decimal := Calc.mul rate (Calc.lit "100")

/-- `value` の `total` に対する百分率。`total = 0` なら 0。 -/
def percentage (value total : Decimal) : Except Fault Decimal := do
  if (← Calc.eq total (Calc.ofInt 0)) then return Calc.lit "0"
  Calc.mul (← Calc.div value total) (Calc.lit "100")

end Rate

/-! ## 評価 -/

/-- 一つの取引量の評価の内訳。 -/
structure TradeEvaluation where
  tradeSize : Decimal
  notional : Decimal
  buyImpact : Decimal
  sellImpact : Decimal
  effectiveBuyPrice : Decimal
  effectiveSellPrice : Decimal
  grossProfit : Decimal
  grossProfitPct : Decimal
  flashLoanFee : Decimal
  swapFees : Decimal
  totalFees : Decimal
  feePct : Decimal
  gasCost : Decimal
  netProfit : Decimal
  netProfitPct : Decimal
  buyProb : Float
  sellProb : Float
  combinedProb : Float
  expectedValue : Decimal
  deriving Inhabited

/-- ガス代。固定の基本料と優先料に、正の粗利に比例する心付けを足す。 -/
def gasCost (grossProfit : Decimal) (s : Settings) : Except Fault Decimal := do
  let tip ← Calc.mul s.tipPctOfGross (← Calc.max grossProfit (Calc.lit "0"))
  Calc.add (← Calc.add s.baseFee s.priorityFee) tip

/-- 一つの取引量を評価する。 -/
def evaluateTradeSize (tradeSize buyPrice sellPrice buyImpact sellImpact : Decimal)
    (buyFeeBps sellFeeBps : Int) (buyProb sellProb : Float) (s : Settings) :
    Except Fault TradeEvaluation := do
  let one := Calc.lit "1"
  let notional ← Calc.mul tradeSize buyPrice
  let effBuy ← Calc.mul buyPrice (← Calc.add one buyImpact)
  let effSell ← Calc.mul sellPrice (← Calc.sub one sellImpact)
  let gross ← Calc.mul tradeSize (← Calc.sub effSell effBuy)
  let flash ← Calc.mul notional s.flashLoanFeeRate
  let feeRate ← Calc.add (← Rate.bpsToRate (← Calc.toDecimal buyFeeBps))
    (← Rate.bpsToRate (← Calc.toDecimal sellFeeBps))
  let swap ← Calc.mul notional feeRate
  let total ← Calc.add flash swap
  let gas ← gasCost gross s
  let net ← Calc.sub (← Calc.sub gross total) gas
  let combined := buyProb * sellProb
  let ev ← Calc.mul net (Calc.ofFloat combined)
  let grossPct ← Rate.percentage gross notional
  let feePct ← Rate.percentage total notional
  let netPct ← Rate.percentage net notional
  return {
    tradeSize, notional, buyImpact, sellImpact
    effectiveBuyPrice := effBuy, effectiveSellPrice := effSell
    grossProfit := gross, grossProfitPct := grossPct
    flashLoanFee := flash, swapFees := swap, totalFees := total, feePct
    gasCost := gas, netProfit := net, netProfitPct := netPct
    buyProb, sellProb, combinedProb := combined, expectedValue := ev }

/-- 評価の一行の要約。 -/
def TradeEvaluation.summary (t : TradeEvaluation) : String :=
  let size := t.tradeSize.toFixed 4
  let net := t.netProfitPct.toFixed 3
  let gross := t.grossProfitPct.toFixed 3
  let fees := t.feePct.toFixed 3
  let gas := t.gasCost.toFixed 4
  let p := Binary64.toFixed t.combinedProb 3
  let ev := t.expectedValue.toFixed 4
  s!"size {size}: Net {net}% (Gross {gross}% - Fees {fees}%) - Gas {gas} p={p} EV {ev}"

/-- 二つのプールの価格差を買値に対する百分率で。買値が正でなければ 0。 -/
def spreadPct (buyPrice sellPrice : Decimal) : Except Fault Decimal := do
  if (← Calc.le buyPrice (Calc.ofInt 0)) then return Calc.lit "0"
  Rate.rateToPct (← Calc.div (← Calc.sub sellPrice buyPrice) buyPrice)

/-- 期待値を 0 から 100 の点数にする。`fullScale` が 100 点にあたる。 -/
def evScore (expectedValue fullScale : Decimal) : Except Fault Float := do
  if (← Calc.le fullScale (Calc.ofInt 0)) then return 0.0
  let scaled ← Calc.mul (← Calc.div expectedValue fullScale) (Calc.lit "100")
  let score ← Calc.toFloat scaled
  return Binary64.clamp score 0.0 100.0

end CrossPool
