import CrossPool.Config.Validator
import CrossPool.Pool.Kind

/-!
# 設定ファイルの形

走査器の設定とプールの一覧の各項目の形。欄の型と制約の検査は検証の仕組み `V` に任せる。
欄は宣言の順に検査し、すべての欄の誤りと知らない鍵の誤りを集める。欄に誤りがなければ、
項目全体の条件（同じトークンを二度使わない、取引量の区間など）を検査する。欄の検証器は
項目全体の検証器より先に走る。

| 項目 | 欄 |
|---|---|
| 組 | `name`、`token_a`、`token_b`、`min_trade_size`、`max_trade_size`、`trade_sizes`、`pool_allowlist` |
| ガス代 | `base_fee`、`priority_fee`、`tip_pct_of_gross` |
| 検出器 | `min_net_profit_pct`、`min_execution_prob`、`min_ev_score`、`trade_size_samples`、`grid_spacing`、`flash_loan_fee_bps`、`ev_full_scale`、`max_opportunities`、`gas` |
| 走査器 | `max_pool_age`、`cache_shards`、`metrics_enabled`、`detector`、`pairs` |
| プール | `address`、`dex_kind`、`token_a`、`token_b`、`reserve_a`、`reserve_b`、`liquidity`、`sqrt_price_x64`、`fee_rate_bps`、`last_update`、`decimals_a`、`decimals_b`、`tick_current`、`bin_step`、`dex_name` |
-/

namespace CrossPool.Schema

open Data Config

/-- 組の設定。 -/
structure PairConfig where
  name : String
  tokenA : String
  tokenB : String
  minTradeSize : Decimal
  maxTradeSize : Decimal
  tradeSizes : Option (List Decimal)
  poolAllowlist : Option (List Text.Str)

/-- ガス代の設定。 -/
structure GasConfig where
  baseFee : Decimal
  priorityFee : Decimal
  tipPctOfGross : Decimal

/-- 既定のガス代。 -/
def GasConfig.default : GasConfig := ⟨Calc.lit "0", Calc.lit "0", Calc.lit "0.10"⟩

/-- 検出器の設定。 -/
structure DetectorConfig where
  minNetProfitPct : Decimal
  minExecutionProb : Float
  minEvScore : Float
  tradeSizeSamples : Int
  gridSpacing : String
  flashLoanFeeBps : Decimal
  evFullScale : Decimal
  maxOpportunities : Int
  gas : GasConfig

/-- 既定の検出器の設定。 -/
def DetectorConfig.default : DetectorConfig :=
  ⟨Calc.lit "0.1", 0.3, 10.0, 20, "linear", Calc.lit "9", Calc.lit "100", 100, GasConfig.default⟩

/-- 走査器の設定。 -/
structure ScannerConfigModel where
  maxPoolAge : Float
  cacheShards : Int
  metricsEnabled : Bool
  detector : DetectorConfig
  pairs : List PairConfig

/-- プールの一覧の一項目。 -/
structure PoolEntry where
  address : String
  kind : PoolKind
  tokenA : String
  tokenB : String
  reserveA : Int
  reserveB : Int
  liquidity : Int
  sqrtPriceX64 : Option Int
  feeRateBps : Option Int
  lastUpdate : Option Float
  decimalsA : Int
  decimalsB : Int
  tickCurrent : Option Int
  binStep : Option Int
  dexName : Text.Str

/-- 範囲の端 `n`（表記も `n`）。 -/
def bound (x : Float) (text : String) : Option Bound := some ⟨x, text⟩

section

variable (V : Validator)

/-- 取引量の一覧の欄の検査。空でなく、すべて正。 -/
def tradeSizesField (v : Value) : Checked (Option (List Decimal)) := do
  match ← V.optional (V.list 0 (V.decimal none none none)) v with
  | none => return none
  | some sizes =>
    if sizes.isEmpty then return ← V.valueError v "trade_sizes cannot be empty"
    for s in sizes do
      if !decLt (Calc.lit "0") s then
        let shown := s.toSci
        return ← V.valueError v s!"trade size must be positive: {shown}"
    return some sizes

/-- 組の項目全体の条件。 -/
def pairRules (v : Value) (p : PairConfig) : Checked PairConfig := do
  if p.tokenA == p.tokenB then return ← V.valueError v s!"pair {p.name} uses the same token twice"
  let lo := p.minTradeSize.toSci
  let hi := p.maxTradeSize.toSci
  if decLt p.maxTradeSize p.minTradeSize then
    return ← V.valueError v s!"min_trade_size {lo} > max_trade_size {hi}"
  for s in p.tradeSizes.getD [] do
    if decLt s p.minTradeSize || decLt p.maxTradeSize s then
      let shown := s.toSci
      return ← V.valueError v s!"trade size {shown} outside [{lo}, {hi}]"
  return p

/-- 組の設定。 -/
def pairConfig (v : Value) : Checked PairConfig := do
  let kvs ← V.members "MonitoredPairConfig" v
  let name := V.required kvs "name" V.nonEmptyStr
  let tokenA := V.required kvs "token_a" V.nonEmptyStr
  let tokenB := V.required kvs "token_b" V.nonEmptyStr
  let lo := V.required kvs "min_trade_size" (V.decimal (some 0) none none)
  let hi := V.required kvs "max_trade_size" (V.decimal (some 0) none none)
  let sizes := V.withDefault kvs "trade_sizes" (tradeSizesField V) none
  let allow := V.withDefault kvs "pool_allowlist" (V.optional (V.list 0 V.str)) none
  let es := errorsOf name ++ errorsOf tokenA ++ errorsOf tokenB ++ errorsOf lo ++ errorsOf hi ++
    errorsOf sizes ++ errorsOf allow ++
    V.extras kvs ["name", "token_a", "token_b", "min_trade_size", "max_trade_size", "trade_sizes",
      "pool_allowlist"]
  match name, tokenA, tokenB, lo, hi, sizes, allow, es with
  | .ok name, .ok tokenA, .ok tokenB, .ok lo, .ok hi, .ok sizes, .ok allow, [] =>
    pairRules V v ⟨name, tokenA, tokenB, lo, hi, sizes, allow⟩
  | _, _, _, _, _, _, _, es => .error es

/-- ガス代の設定。 -/
def gasConfig (v : Value) : Checked GasConfig := do
  let kvs ← V.members "GasConfig" v
  let d := GasConfig.default
  let base := V.withDefault kvs "base_fee" (V.decimal none (some 0) none) d.baseFee
  let prio := V.withDefault kvs "priority_fee" (V.decimal none (some 0) none) d.priorityFee
  let tip := V.withDefault kvs "tip_pct_of_gross" (V.decimal none (some 0) (some 1)) d.tipPctOfGross
  let es := errorsOf base ++ errorsOf prio ++ errorsOf tip ++
    V.extras kvs ["base_fee", "priority_fee", "tip_pct_of_gross"]
  match base, prio, tip, es with
  | .ok base, .ok prio, .ok tip, [] => .ok ⟨base, prio, tip⟩
  | _, _, _, es => .error es

/-- 検出器の設定。 -/
def detectorConfig (v : Value) : Checked DetectorConfig := do
  let kvs ← V.members "DetectorConfig" v
  let d := DetectorConfig.default
  let net := V.withDefault kvs "min_net_profit_pct" (V.decimal none none none) d.minNetProfitPct
  let prob := V.withDefault kvs "min_execution_prob"
    (V.float none (bound 0.0 "0") (bound 1.0 "1")) d.minExecutionProb
  let score := V.withDefault kvs "min_ev_score"
    (V.float none (bound 0.0 "0") (bound 100.0 "100")) d.minEvScore
  let samples := V.withDefault kvs "trade_size_samples" (V.int (some 1) (some 1000)) d.tradeSizeSamples
  let spacing := V.withDefault kvs "grid_spacing" (V.literal ["linear", "log"]) d.gridSpacing
  let fee := V.withDefault kvs "flash_loan_fee_bps" (V.decimal none (some 0) (some 1000)) d.flashLoanFeeBps
  let scale := V.withDefault kvs "ev_full_scale" (V.decimal (some 0) none none) d.evFullScale
  let maxOpp := V.withDefault kvs "max_opportunities" (V.int (some 1) (some 10000)) d.maxOpportunities
  let gas := V.withDefault kvs "gas" (gasConfig V) d.gas
  let es := errorsOf net ++ errorsOf prob ++ errorsOf score ++ errorsOf samples ++
    errorsOf spacing ++ errorsOf fee ++ errorsOf scale ++ errorsOf maxOpp ++ errorsOf gas ++
    V.extras kvs ["min_net_profit_pct", "min_execution_prob", "min_ev_score", "trade_size_samples",
      "grid_spacing", "flash_loan_fee_bps", "ev_full_scale", "max_opportunities", "gas"]
  match net, prob, score, samples, spacing, fee, scale, maxOpp, gas, es with
  | .ok net, .ok prob, .ok score, .ok samples, .ok spacing, .ok fee, .ok scale, .ok maxOpp,
    .ok gas, [] => .ok ⟨net, prob, score, samples, spacing, fee, scale, maxOpp, gas⟩
  | _, _, _, _, _, _, _, _, _, es => .error es

/-- 列の表記 `['a', 'b']`。 -/
def namesText (names : List String) : String :=
  "[" ++ ", ".intercalate (names.map quoteText) ++ "]"

/-- 組の一覧。1 個以上。 -/
def pairsField : Value → Checked (List PairConfig) :=
  V.list 1 (pairConfig V)

/-- 走査器の設定。 -/
def scannerConfig (v : Value) : Checked ScannerConfigModel := do
  let kvs ← V.members "ScannerConfigModel" v
  let age := V.withDefault kvs "max_pool_age" (V.float (bound 0.0 "0") none none) 30.0
  let shards := V.withDefault kvs "cache_shards" (V.int (some 1) (some 1024)) 16
  let metrics := V.withDefault kvs "metrics_enabled" V.bool true
  let det := V.withDefault kvs "detector" (detectorConfig V) DetectorConfig.default
  let pairs := V.required kvs "pairs" (pairsField V)
  let es := errorsOf age ++ errorsOf shards ++ errorsOf metrics ++ errorsOf det ++ errorsOf pairs ++
    V.extras kvs ["max_pool_age", "cache_shards", "metrics_enabled", "detector", "pairs"]
  match age, shards, metrics, det, pairs, es with
  | .ok age, .ok shards, .ok metrics, .ok det, .ok pairs, [] =>
    let names := pairs.map (·.name)
    let dups := ((names.filter fun n => names.count n > 1).eraseDups).mergeSort
      fun a b => decide (a ≤ b)
    if dups.isEmpty then .ok ⟨age, shards, metrics, det, pairs⟩
    else V.valueError v ("Duplicate pair names: " ++ namesText dups)
  | _, _, _, _, _, es => .error es

/-- プールの種類の欄。どの値も文字列にしてから読む。4300 桁を超える整数を含む値は
文字列にできないので、その値の誤り。 -/
def kindField (v : Value) : Checked PoolKind :=
  if v.hasHugeInt then V.valueError v digitLimitMessage
  else
    match v.display.toString?.bind PoolKind.parse? with
    | some k => .ok k
    | none => V.valueError v (Text.Str.ofString "Unknown dex kind: " ++ v.display)

/-- プールの一覧の一項目。 -/
def poolEntry (v : Value) : Checked PoolEntry := do
  let kvs ← V.members "PoolSnapshotEntry" v
  let nn := some (0 : Int)
  let address := V.required kvs "address" V.nonEmptyStr
  let kind := V.required kvs "dex_kind" (kindField V)
  let tokenA := V.required kvs "token_a" V.nonEmptyStr
  let tokenB := V.required kvs "token_b" V.nonEmptyStr
  let ra := V.withDefault kvs "reserve_a" (V.int nn none) 0
  let rb := V.withDefault kvs "reserve_b" (V.int nn none) 0
  let liq := V.withDefault kvs "liquidity" (V.int nn none) 0
  let sqrt := V.withDefault kvs "sqrt_price_x64" (V.optional (V.int nn none)) none
  let fee := V.withDefault kvs "fee_rate_bps" (V.optional (V.int nn (some 10000))) none
  let last := V.withDefault kvs "last_update" (V.optional (V.float none none none)) none
  let da := V.withDefault kvs "decimals_a" (V.int nn (some 255)) 0
  let db := V.withDefault kvs "decimals_b" (V.int nn (some 255)) 0
  let tick := V.withDefault kvs "tick_current" (V.optional (V.int none none)) none
  let bin := V.withDefault kvs "bin_step" (V.optional (V.int (some 1) none)) none
  let name := V.withDefault kvs "dex_name" V.str .empty
  let es := errorsOf address ++ errorsOf kind ++ errorsOf tokenA ++ errorsOf tokenB ++
    errorsOf ra ++ errorsOf rb ++ errorsOf liq ++ errorsOf sqrt ++ errorsOf fee ++ errorsOf last ++
    errorsOf da ++ errorsOf db ++ errorsOf tick ++ errorsOf bin ++ errorsOf name ++
    V.extras kvs ["address", "dex_kind", "token_a", "token_b", "reserve_a", "reserve_b", "liquidity",
      "sqrt_price_x64", "fee_rate_bps", "last_update", "decimals_a", "decimals_b", "tick_current",
      "bin_step", "dex_name"]
  match address, kind, tokenA, tokenB, ra, rb, liq, sqrt, fee, last, da, db, tick, bin, name, es with
  | .ok address, .ok kind, .ok tokenA, .ok tokenB, .ok ra, .ok rb, .ok liq, .ok sqrt, .ok fee,
    .ok last, .ok da, .ok db, .ok tick, .ok bin, .ok name, [] =>
    if tokenA == tokenB then V.valueError v s!"pool {address} uses the same token twice"
    else .ok ⟨address, kind, tokenA, tokenB, ra, rb, liq, sqrt, fee, last, da, db, tick, bin, name⟩
  | _, _, _, _, _, _, _, _, _, _, _, _, _, _, _, es => .error es

end

end CrossPool.Schema
