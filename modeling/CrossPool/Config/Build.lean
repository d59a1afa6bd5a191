import CrossPool.Config.Schema
import CrossPool.Trade.Evaluation
import CrossPool.Pool.State

/-!
# 設定の組み立て

検査した設定ファイルの値から、走査器が使う変わらない設定とプールの記録を作る。

* `build` — 走査器の設定。手数料の bps は比率に換算し、許可リストは重複のない
  昇順にする。
* `parseSnapshot` — プールの一覧。写像なら `pools` の値を使う。手数料がなければ種類の
  典型的な値、更新時刻がなければ `defaultTimestamp`。

どちらも検証の仕組み `V` で設定ファイルの形を検査し、検査の誤りは `V` の報告を文面にした
設定の不備になる。
-/

namespace CrossPool.Config

open Data

/-- 走査器の設定。 -/
structure ScannerConfig where
  settings : Settings
  pairs : List MonitoredPair
  maxPoolAge : Float
  cacheShards : Int
  metricsEnabled : Bool
  deriving Inhabited

section

variable (V : Validator)

/-- 検査の誤りを設定の不備にする。 -/
def invalid (lead title : String) (es : List FieldError) : Fault :=
  .invalidConfig (lead ++ ": " ++ V.render title es) none (some es)

/-- 組の設定を監視する組にする。 -/
def toPair (p : Schema.PairConfig) : MonitoredPair :=
  { name := p.name, tokenA := p.tokenA, tokenB := p.tokenB
    minTradeSize := p.minTradeSize, maxTradeSize := p.maxTradeSize
    poolAllowlist := p.poolAllowlist.map fun l => (l.mergeSort fun a b => decide (a ≤ b)).eraseDups
    tradeSizes := p.tradeSizes }

/-- 検出器の設定を検出の設定にする。 -/
def toSettings (d : Schema.DetectorConfig) : Except Fault Settings := do
  return {
    minNetProfitPct := d.minNetProfitPct, minExecutionProb := d.minExecutionProb
    minEvScore := d.minEvScore, tradeSizeSamples := d.tradeSizeSamples
    gridSpacing := d.gridSpacing, flashLoanFeeRate := ← Rate.bpsToRate d.flashLoanFeeBps
    baseFee := d.gas.baseFee, priorityFee := d.gas.priorityFee
    tipPctOfGross := d.gas.tipPctOfGross, evFullScale := d.evFullScale
    maxOpportunities := d.maxOpportunities }

/-- 走査器の設定を組み立てる。 -/
def build (v : Value) : Except Fault ScannerConfig :=
  match v.view with
  | .map _ =>
    match Schema.scannerConfig V v with
    | .ok m => do
      return { settings := ← toSettings m.detector, pairs := m.pairs.map toPair
               maxPoolAge := m.maxPoolAge, cacheShards := m.cacheShards
               metricsEnabled := m.metricsEnabled }
    | .error es => .error (invalid V "Configuration validation failed" "ScannerConfigModel" es)
  | _ => .error (.config "Configuration root must be a mapping")

/-- プールの一覧の一項目をプールの記録にする。 -/
def toPool (e : Schema.PoolEntry) (defaultTimestamp : Float) : PoolState :=
  { address := e.address, kind := e.kind, tokenA := e.tokenA, tokenB := e.tokenB
    reserveA := e.reserveA, reserveB := e.reserveB, liquidity := e.liquidity
    sqrtPriceX64 := e.sqrtPriceX64, feeRateBps := e.feeRateBps.getD e.kind.typicalFeeBps
    lastUpdate := e.lastUpdate.getD defaultTimestamp
    decimalsA := e.decimalsA, decimalsB := e.decimalsB, tickCurrent := e.tickCurrent
    binStep := e.binStep, dexName := e.dexName }

/-- 一覧の `i` 番目の項目を読む。 -/
def entryPool (defaultTimestamp : Float) (e : Value) (i : Nat) : Except Fault PoolState :=
  match e.view with
  | .map _ =>
    match Schema.poolEntry V e with
    | .ok m => .ok (toPool m defaultTimestamp)
    | .error es => .error (invalid V s!"Invalid pool entry {i}" "PoolSnapshotEntry" es)
  | _ => .error (.config s!"Pool entry {i} must be a mapping")

/-- プールの一覧を読む。 -/
def parseSnapshot (data : Value) (defaultTimestamp : Float) : Except Fault (List PoolState) :=
  let data := match data.view with
    | .map _ => (data.get? "pools").getD .null
    | _ => data
  match data.view with
  | .list entries => (entries.zip (List.range entries.length)).mapM fun (e, i) =>
      entryPool V defaultTimestamp e i
  | _ => .error (.config "Pool snapshot must be a list of pools")

end

end CrossPool.Config
