import CrossPool.Trade.Settings
import CrossPool.Binary64.Text

/-!
# 設定と監視する組の検証

`validateSettings` は範囲外の設定をすべて集めて一つの設定の不備にする。
`validatePair` は組の最初の不備で止まる。

10 進数の比較は NaN で失敗するので、NaN を含む設定は不備ではなく 10 進演算の
例外条件（`invalidOperation`）になる。浮動小数点数の比較は NaN で偽になるので、
NaN の確率は範囲外として報告する。
-/

namespace CrossPool.Validate

/-- 格子の間隔の名前。 -/
def gridSpacings : List String := ["linear", "log"]

/-- 格子の間隔の名前の一覧の表記 `('linear', 'log')`。 -/
def gridSpacingsText : String := "('linear', 'log')"

/-- 条件が成り立たなければ問題を加える。 -/
def note (problems : List String) (bad : Bool) (problem : String) : List String :=
  if bad then problems ++ [problem] else problems

/-- 範囲外の設定の一覧。 -/
def settingsProblems (s : Settings) : Except Fault (List String) := do
  let zero := Calc.lit "0"
  let prob := Binary64.toShortString s.minExecutionProb
  let score := Binary64.toShortString s.minEvScore
  let ps := note [] (!(0.0 <= s.minExecutionProb && s.minExecutionProb <= 1.0))
    s!"min_execution_prob {prob} not in [0, 1]"
  let ps := note ps (!(0.0 <= s.minEvScore && s.minEvScore <= 100.0))
    s!"min_ev_score {score} not in [0, 100]"
  let samples := s.tradeSizeSamples
  let ps := note ps (samples < 1) s!"trade_size_samples must be >= 1: {samples}"
  let ps := note ps (!gridSpacings.contains s.gridSpacing)
    ("grid_spacing must be one of " ++ gridSpacingsText)
  let rateOk ← do
    if (← Calc.le zero s.flashLoanFeeRate) then Calc.lt s.flashLoanFeeRate (Calc.lit "1")
    else pure false
  let rate := s.flashLoanFeeRate.toSci
  let ps := note ps (!rateOk) s!"flash_loan_fee_rate {rate} not in [0, 1)"
  let ps := note ps (← Calc.lt s.baseFee zero) "base_fee cannot be negative"
  let ps := note ps (← Calc.lt s.priorityFee zero) "priority_fee cannot be negative"
  let ps := note ps (← Calc.lt s.tipPctOfGross zero) "tip_pct_of_gross cannot be negative"
  let ps := note ps (← Calc.le s.evFullScale zero) "ev_full_scale must be positive"
  return note ps (s.maxOpportunities < 1) "max_opportunities must be >= 1"

/-- 設定を検証する。 -/
def validateSettings (s : Settings) : Except Fault Settings := do
  let ps ← settingsProblems s
  if ps.isEmpty then return s
  throw (.invalidConfig ("Invalid detector settings: " ++ "; ".intercalate ps) (some ps) none)

/-- 10 進数の列の表記 `[Decimal('0.5'), Decimal('51')]`。 -/
def decimalsText (xs : List Decimal) : String :=
  "[" ++ ", ".intercalate (xs.map fun d => "Decimal('" ++ d.toSci ++ "')") ++ "]"

/-- 組の不備。 -/
def pairFault (p : MonitoredPair) (what : String) : Fault :=
  .config ("Pair '" ++ p.name ++ "' " ++ what)

/-- 取引量が区間の外か。 -/
def outsideRange (p : MonitoredPair) (s : Decimal) : Except Fault Bool := do
  if (← Calc.lt s p.minTradeSize) then return true
  Calc.lt p.maxTradeSize s

/-- 監視する組を検証する。 -/
def validatePair (p : MonitoredPair) : Except Fault MonitoredPair := do
  if p.tokenA.isEmpty || p.tokenB.isEmpty || p.tokenA == p.tokenB then
    throw (pairFault p "needs two distinct tokens")
  if (← Calc.le p.minTradeSize (Calc.lit "0")) then
    throw (pairFault p "min_trade_size must be positive")
  if (← Calc.lt p.maxTradeSize p.minTradeSize) then
    let lo := p.minTradeSize.toSci
    let hi := p.maxTradeSize.toSci
    throw (pairFault p s!"min_trade_size {lo} > max_trade_size {hi}")
  match p.tradeSizes with
  | none => return p
  | some sizes =>
    if sizes.isEmpty then throw (pairFault p "trade_sizes cannot be empty")
    let outside ← sizes.filterM (outsideRange p)
    if outside.isEmpty then return p
    let lo := p.minTradeSize.toSci
    let hi := p.maxTradeSize.toSci
    let shown := decimalsText outside
    throw (pairFault p s!"trade_sizes outside [{lo}, {hi}]: {shown}")

end CrossPool.Validate
