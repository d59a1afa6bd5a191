import CrossPool.Trade.Evaluation
import CrossPool.Pool.Kind
import CrossPool.Display
import CrossPool.Data.Value
import CrossPool.Report.Grid

/-!
# 裁定の機会

一方のプールで買い他方で売る機会の、最良の取引量での評価。金額はトークン b、量は
トークン a の単位で、百分率は百分率の値（0.15 は 0.15%）。

* `summary` — ログの一行。
* `row` — 結果の表の一行。
* `toDict` — 文書の値にした機会。10 進数は最も近い浮動小数点数にする。
-/

namespace CrossPool

/-- 裁定の機会。 -/
structure Opportunity where
  pairName : String
  tokenA : String
  tokenB : String
  buyPool : String
  sellPool : String
  buyKind : PoolKind
  sellKind : PoolKind
  buyPrice : Decimal
  sellPrice : Decimal
  spreadPct : Decimal
  optimalTradeSize : Decimal
  notional : Decimal
  buyImpact : Decimal
  sellImpact : Decimal
  grossProfit : Decimal
  grossProfitPct : Decimal
  flashLoanFee : Decimal
  swapFees : Decimal
  totalFees : Decimal
  feePct : Decimal
  gasCost : Decimal
  netProfit : Decimal
  netProfitPct : Decimal
  buyExecutionProb : Float
  sellExecutionProb : Float
  combinedExecutionProb : Float
  expectedValue : Decimal
  evScore : Float
  confidence : Confidence
  timestamp : Float
  deriving Inhabited

namespace Opportunity

/-- ログの一行。 -/
def summary (o : Opportunity) : String :=
  let size := o.optimalTradeSize.toFixed 4
  let net := o.netProfitPct.toFixed 3
  let gross := o.grossProfitPct.toFixed 3
  let fees := o.feePct.toFixed 3
  let p := Binary64.toFixed o.combinedExecutionProb 2
  let ev := o.expectedValue.toFixed 4
  let score := Binary64.toFixed o.evScore 1
  let conf := o.confidence.value
  s!"{o.pairName} buy@{o.buyPool} sell@{o.sellPool} size {size}: Net {net}% " ++
    s!"(Gross {gross}% - Fees {fees}%) p={p} EV {ev} score {score} [{conf}]"

/-- 文書の値にした機会。 -/
def toDict (o : Opportunity) : Except Fault Data.Value := do
  let f (d : Decimal) : Except Fault Data.Value := do return .float (← Calc.toFloat d)
  let entries : List (String × Data.Value) := [
    ("pair", .str o.pairName), ("token_a", .str o.tokenA), ("token_b", .str o.tokenB),
    ("buy_pool", .str o.buyPool), ("sell_pool", .str o.sellPool),
    ("buy_dex_kind", .str o.buyKind.value), ("sell_dex_kind", .str o.sellKind.value),
    ("buy_price", ← f o.buyPrice), ("sell_price", ← f o.sellPrice),
    ("spread_pct", ← f o.spreadPct), ("optimal_trade_size", ← f o.optimalTradeSize),
    ("notional", ← f o.notional), ("buy_impact", ← f o.buyImpact),
    ("sell_impact", ← f o.sellImpact), ("gross_profit", ← f o.grossProfit),
    ("gross_profit_pct", ← f o.grossProfitPct), ("flash_loan_fee", ← f o.flashLoanFee),
    ("swap_fees", ← f o.swapFees), ("total_fees", ← f o.totalFees), ("fee_pct", ← f o.feePct),
    ("gas_cost", ← f o.gasCost), ("net_profit", ← f o.netProfit),
    ("net_profit_pct", ← f o.netProfitPct),
    ("buy_execution_prob", .float o.buyExecutionProb),
    ("sell_execution_prob", .float o.sellExecutionProb),
    ("combined_execution_prob", .float o.combinedExecutionProb),
    ("expected_value", ← f o.expectedValue), ("ev_score", .float o.evScore),
    ("confidence_level", .str o.confidence.value), ("timestamp", .float o.timestamp)]
  return .map (entries.map fun (k, v) => (.str k, v))

/-- 結果の表の `i` 行目。 -/
def row (i : Nat) (o : Opportunity) : Except Fault (List Report.Cell) := do
  let buy := Display.short o.buyPool 10 ++ " (" ++ o.buyKind.value ++ ")"
  let sell := Display.short o.sellPool 10 ++ " (" ++ o.sellKind.value ++ ")"
  let spread ← Display.formatProfitDecimal o.spreadPct
  let net ← Display.formatProfitDecimal o.netProfitPct
  return [.num i, .text o.pairName, .text buy, .text sell, .text spread,
    .text (o.optimalTradeSize.toFixed 4), .text net,
    .text (Binary64.toFixed o.combinedExecutionProb 3), .text (o.expectedValue.toFixed 4),
    .text (Binary64.toFixed o.evScore 1), .text o.confidence.value]

/-- 列の先頭 `k` 個。負の `k` は末尾から数えた個数を除く。 -/
def takeSigned {α : Type} (xs : List α) (k : Int) : List α :=
  if 0 ≤ k then xs.take k.toNat else xs.take (xs.length - k.natAbs)

/-- 上位 `limit` 個の機会の表の行。番号は 1 から。 -/
def rows (os : List Opportunity) (limit : Int) : Except Fault (List (List Report.Cell)) :=
  ((takeSigned os limit).zip (List.range' 1 (takeSigned os limit).length)).mapM
    fun (o, i) => row i o

end Opportunity

end CrossPool
