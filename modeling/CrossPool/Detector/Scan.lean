import CrossPool.Detector.Validate
import CrossPool.Detector.Opportunity
import CrossPool.Monitor.Ops
import CrossPool.Trade.Grid
import CrossPool.Data.Show

/-!
# 裁定の検出

監視するトークンの組ごとに、新鮮なプールの二つ組をすべて調べる。安いほうで買い
高いほうで売るとして、取引量の格子の各点を評価し、期待値が最大の点を残す。
格子を探索するのは、集中流動性の価格影響が tick の境界で不連続で、目的関数が
単峰でないからである。残すのは最良の標本で、最適であることは保証しない。

純利益率と実行確率の閾値を通った機会を、点数、次に期待値の大きい順に並べ、上限の
数だけ残す。中断の合図は組の前ごとに確かめ、合図があればそこまでの機会を返す。

値付けできないプール（流動性不足、幅の超過）と取引量、古いプールは、理由を数えて
読み飛ばす。
-/

namespace CrossPool

/-- 裁定の検出器。`last` は最後に完了した走査の結果。 -/
structure Detector where
  settings : Settings
  pairs : List MonitoredPair
  grids : List (String × List Decimal)
  last : List Opportunity
  deriving Inhabited

namespace Detector

open Monitor

/-- context `c` の thread での、組の取引量の格子。指定された取引量があればそれを値の順に
重複なく並べる。 -/
def buildGridIn (c : Decimal.Context) (s : Settings) (p : MonitoredPair) :
    Except Fault (List Decimal) :=
  match p.tradeSizes with
  | some xs => .ok (Grid.sortDistinct xs)
  | none =>
    match Grid.tradeSizesIn c p.minTradeSize p.maxTradeSize s.tradeSizeSamples s.gridSpacing with
    | .error (.invalidValue m) => .error (.config ("Pair '" ++ p.name ++ "' trade size grid: " ++ m))
    | r => r

/-- 組の取引量の格子。 -/
def buildGrid (s : Settings) (p : MonitoredPair) : Except Fault (List Decimal) :=
  buildGridIn Calc.ctx s p

/-- 文字列の列の表記 `['a', 'b']`。 -/
def namesText (names : List String) : String :=
  "[" ++ ", ".intercalate (names.map Data.quoteText) ++ "]"

/-- context `c` の thread で検出器を作る。設定と組を検証し、組の名前は重複してはならない。 -/
def createIn (c : Decimal.Context) (pairs : List MonitoredPair) (settings : Settings) :
    Except Fault Detector := do
  let settings ← Validate.validateSettings settings
  let pairs ← pairs.mapM Validate.validatePair
  let names := pairs.map (·.name)
  if names.eraseDups.length != names.length then
    throw (.config ("Duplicate monitored pair names: " ++ namesText names))
  let grids ← pairs.mapM fun p => do return (p.name, ← buildGridIn c settings p)
  return ⟨settings, pairs, grids, []⟩

/-- 検出器を作る。 -/
def create (pairs : List MonitoredPair) (settings : Settings) : Except Fault Detector :=
  createIn Calc.ctx pairs settings

/-- 組の格子。 -/
def grid (d : Detector) (name : String) : List Decimal :=
  ((d.grids.find? (·.1 == name)).map Prod.snd).getD []

/-- 組の名前の組。 -/
def pair? (d : Detector) (name : String) : Option MonitoredPair :=
  d.pairs.find? (·.name == name)

/-- 組の向きでのプールの価格。値付けできなければ理由を数えて `none`。 -/
def safePrice (p : MonitoredPair) (pool : PoolState) : Step (Option Decimal) :=
  match orientedPrice pool p.tokenA p.tokenB with
  | .ok pr => pure (some pr)
  | .error (.insufficientLiquidity _ msg) => do
    emit .debug s!"{p.name}: skipping {pool.label}: {msg}"
    recordSkip "insufficient_liquidity"
    return none
  | .error (.overflow op _) => do
    emit .warning s!"{p.name}: skipping {pool.label}: overflow in {op}"
    recordSkip "arithmetic_overflow"
    return none
  | .error e => throw e

/-- 一つの取引量を評価する。値付けできなければ理由を数えて `none`。 -/
def evaluateSize (d : Detector) (size : Decimal) (buy sell : PoolState) (buyPrice sellPrice : Decimal)
    (buyAToB sellAToB : Bool) (now : Float) : Step (Option TradeEvaluation) := do
  let m ← get
  let buyInput ← lift (Calc.mul size buyPrice)
  let quoted : Except Fault (Decimal × Decimal × Float × Float) := do
    let bi ← priceImpact buy buyInput buyAToB
    let si ← priceImpact sell size sellAToB
    let bp ← m.executionProbability buy buyInput buyAToB now
    let sp ← m.executionProbability sell size sellAToB now
    return (bi, si, bp, sp)
  match quoted with
  | .ok (bi, si, bp, sp) =>
    some <$> lift (evaluateTradeSize size buyPrice sellPrice bi si buy.feeRateBps sell.feeRateBps
      bp sp d.settings)
  | .error (.insufficientLiquidity _ msg) => do
    emit .debug s!"Skipping size {size.toSci}: {msg}"
    recordSkip "insufficient_liquidity"
    return none
  | .error (.overflow op _) => do
    emit .warning s!"Skipping size {size.toSci}: overflow in {op}"
    recordSkip "arithmetic_overflow"
    return none
  | .error e => throw e

/-- 期待値の大きいほうを残す。 -/
def keepBetter (best : Option TradeEvaluation) (ev : Option TradeEvaluation) :
    Except Fault (Option TradeEvaluation) := do
  match best, ev with
  | _, none => return best
  | none, some e => return some e
  | some b, some e => if (← Calc.lt b.expectedValue e.expectedValue) then return some e else return best

/-- 最良の取引量の評価から機会を作る。 -/
def buildOpportunity (d : Detector) (p : MonitoredPair) (buy sell : PoolState)
    (buyPrice sellPrice : Decimal) (b : TradeEvaluation) (now : Float) :
    Except Fault Opportunity := do
  let spread ← spreadPct buyPrice sellPrice
  let score ← evScore b.expectedValue d.settings.evFullScale
  let net ← Calc.toFloat b.netProfitPct
  return {
    pairName := p.name, tokenA := p.tokenA, tokenB := p.tokenB
    buyPool := buy.address, sellPool := sell.address, buyKind := buy.kind, sellKind := sell.kind
    buyPrice, sellPrice, spreadPct := spread
    optimalTradeSize := b.tradeSize, notional := b.notional
    buyImpact := b.buyImpact, sellImpact := b.sellImpact
    grossProfit := b.grossProfit, grossProfitPct := b.grossProfitPct
    flashLoanFee := b.flashLoanFee, swapFees := b.swapFees, totalFees := b.totalFees
    feePct := b.feePct, gasCost := b.gasCost, netProfit := b.netProfit
    netProfitPct := b.netProfitPct
    buyExecutionProb := b.buyProb, sellExecutionProb := b.sellProb
    combinedExecutionProb := b.combinedProb, expectedValue := b.expectedValue
    evScore := score, confidence := Confidence.classify b.combinedProb net, timestamp := now }

/-- 格子を探索して最良の機会を求める。期待値が正の点がなければ `none`。 -/
def searchGrid (d : Detector) (p : MonitoredPair) (buy sell : PoolState) (now : Float) :
    Step (Option Opportunity) := do
  let bp ← safePrice p buy
  let sp ← safePrice p sell
  match bp, sp with
  | some buyPrice, some sellPrice =>
    let buyAToB := buy.tokenA == p.tokenB
    let sellAToB := sell.tokenA == p.tokenA
    let best ← (d.grid p.name).foldlM (fun best size => do
      lift (keepBetter best (← evaluateSize d size buy sell buyPrice sellPrice buyAToB sellAToB now)))
      none
    match best with
    | none => return none
    | some b =>
      if (← lift (Calc.le b.expectedValue (Calc.lit "0"))) then return none
      some <$> lift (buildOpportunity d p buy sell buyPrice sellPrice b now)
  | _, _ => return none

/-- 買うプールと売るプールの組を評価する。どちらかが古ければ理由を数えて `none`。 -/
def evaluate (d : Detector) (buy sell : PoolState) (p : MonitoredPair) : Step (Option Opportunity) := do
  let m ← get
  let now := m.clock
  match m.requireFresh buy now >>= fun _ => m.requireFresh sell now with
  | .ok _ => searchGrid d p buy sell now
  | .error (.stale _ age maxAge msg) =>
    let shownAge := Binary64.toFixed age 1
    let shownMax := Binary64.toShortString maxAge
    emit .debug s!"{p.name}: {msg} (age {shownAge} > {shownMax})"
    recordSkip "stale_pool"
    return none
  | .error e => throw e

/-- 列の中の二つ組。前の要素が先。 -/
def pairsOf {α : Type} : List α → List (α × α)
  | [] => []
  | x :: xs => xs.map (x, ·) ++ pairsOf xs

/-- 値付けしたプールの二つ組を評価し、閾値を通った機会を集める。 -/
def considerPair (d : Detector) (p : MonitoredPair) (acc : List Opportunity)
    (c : (PoolState × Decimal) × (PoolState × Decimal)) : Step (List Opportunity) := do
  let ((pp, prp), (pq, prq)) := c
  if (← lift (Calc.eq prp prq)) then return acc
  let (buy, sell) := if (← lift (Calc.lt prp prq)) then (pp, pq) else (pq, pp)
  match ← evaluate d buy sell p with
  | none => return acc
  | some o =>
    if (← lift (Calc.lt o.netProfitPct d.settings.minNetProfitPct)) then return acc
    if o.combinedExecutionProb < d.settings.minExecutionProb then return acc
    measure (·.recordOpportunity p.name o.confidence.value)
    return acc ++ [o]

/-- 一つの組を走査する。 -/
def scanPair (d : Detector) (p : MonitoredPair) : Step (List Opportunity) := do
  let m ← get
  let pools := m.poolsForPair p.tokenA p.tokenB p.poolAllowlist
  if pools.length < 2 then
    emit .debug s!"{p.name}: {pools.length} fresh pools, nothing to compare"
    return []
  let priced ← pools.filterMapM fun pool => do return (← safePrice p pool).map (pool, ·)
  (pairsOf priced).foldlM (considerPair d p) []

/-- 機会の順序の鍵で `a` が `b` より小さいか。点数、次に期待値。 -/
def scoreBelow (a b : Opportunity) : Bool :=
  if a.evScore == b.evScore then Decimal.cmpValue a.expectedValue b.expectedValue == .lt
  else a.evScore < b.evScore

/-- 点数と期待値の大きい順。同じ鍵の機会は元の順。 -/
def rank (os : List Opportunity) : List Opportunity := os.mergeSort fun a b => !scoreBelow a b

/-- 組を順に走査する。`i` 番目の組の前で中断の合図を確かめる。 -/
def scanPairs (d : Detector) (cancelAfter : Option Nat) :
    List MonitoredPair → Nat → List Opportunity → Step (List Opportunity)
  | [], _, acc => return acc
  | p :: ps, i, acc => do
    if cancelAfter.any (· ≤ i) then
      emit .warning s!"Scan cancelled before pair {p.name}; returning {acc.length} opportunities"
      measure Metrics.recordScanCancelled
      return acc
    let found ← scanPair d p
    scanPairs d cancelAfter ps (i + 1) (acc ++ found)

/--
すべての組を走査し、結果を `last` に残す。`cancelAfter = some n` なら `n` 個の組の
あとで中断の合図が来る。走査にかかった時間は 0 として記録する。
-/
def scan (d : Detector) (cancelAfter : Option Nat) : Step (Detector × List Opportunity) := do
  let found ← scanPairs d cancelAfter d.pairs 0 []
  let kept := Opportunity.takeSigned (rank found) d.settings.maxOpportunities
  let best := (kept.head?.map (·.evScore)).getD 0.0
  measure (·.recordScan best)
  match kept.head? with
  | some top =>
    emit .info s!"Scan found {kept.length} opportunities in 0.0ms (best: {top.summary})"
  | none => emit .debug "Scan found no opportunities in 0.0ms"
  return ({ d with last := kept }, kept)

/-- 点数と純利益率の閾値をどちらも満たすか。閾値を省けば設定の値。 -/
def isExecutable (d : Detector) (o : Opportunity) (minEvScore : Option Float)
    (minNetProfitPct : Option Decimal) : Except Fault Bool := do
  if !(o.evScore >= minEvScore.getD d.settings.minEvScore) then return false
  Calc.le (minNetProfitPct.getD d.settings.minNetProfitPct) o.netProfitPct

end Detector

end CrossPool
