import CrossPool.Monitor.Quote

/-!
# 流動性の監視器の操作

* `updatePool` — 記録を書き、値付けできるプールなら価格を安定度の窓に加える。
  値付けに失敗しても（流動性不足、幅の超過）記録は書き、ログだけを残す。価格は
  `decimal_context()` の外で求めるので、呼んだ thread の context による（`updatePoolIn`）。
* `pruneStale` — 鮮度の上限より古い記録を取り除き、その窓も捨てる。
* `poolsForPair` — 組を扱う新鮮なプールをアドレスの順に。
* `findBestPool` — 出力と実行確率の積が最大のプール。同点なら確率の高いほう。
  値付けできないプールは理由を数えて読み飛ばす。
* `stats` — 保管しているプールの要約。
-/

namespace CrossPool.Monitor

/-- 価格を安定度の窓に加える。 -/
def observe (address : String) (pr : Decimal) : Step Unit := do
  let m ← get
  let (st, r) := m.stability.add address pr
  set { m with stability := st }
  lift r

/-- 読み飛ばしてよい失敗か（流動性不足か幅の超過）。 -/
def isSkippable : Fault → Bool
  | .insufficientLiquidity _ _ => true
  | .overflow _ _ => true
  | _ => false

/-- context `c` の thread で記録を書く。価格はその context で求める。 -/
def updatePoolIn (c : Decimal.Context) (p : PoolState) : Step Unit := do
  modify fun m => { m with cache := (m.cache.upsert p).1 }
  if p.isEnriched then
    match priceIn c p with
    | .ok pr => observe p.address pr
    | .error e =>
      if isSkippable e then emit .debug s!"No stability sample for {p.label}: {e.message}"
      else throw e
  let n := (← get).cache.size
  measure fun mt => (mt.recordPoolUpdate p.kind.value).updateCachedPools n

/-- 記録を書く。 -/
def updatePool (p : PoolState) : Step Unit := updatePoolIn Calc.ctx p

/-- 時刻 `now` で古い記録を取り除き、その数を返す。 -/
def pruneStale (now : Float) : Step Nat := do
  let m ← get
  let (cache, removed) := m.cache.removeWhere fun p => p.age now > m.maxPoolAge
  let st := removed.foldl (fun st p => st.forget p.address) m.stability
  set { m with cache, stability := st }
  if !removed.isEmpty then emit .info s!"Pruned {removed.length} stale pools"
  let n := cache.size
  measure fun mt => (mt.recordPoolsPruned removed.length).updateCachedPools n
  return removed.length

/-- 記録が時刻 `now` で新鮮か。 -/
def isFresh (m : Monitor) (p : PoolState) (now : Float) : Bool := p.isFresh now m.maxPoolAge

/-- 記録が新鮮でなければ失敗。 -/
def requireFresh (m : Monitor) (p : PoolState) (now : Float) : Except Fault PoolState :=
  if m.isFresh p now then .ok p
  else .error (.stale p.address (p.age now) m.maxPoolAge s!"Pool {p.label} is stale")

/-- 組を扱う新鮮なプール。許可リストがあればそれに含まれるものだけ。アドレスの順。 -/
def poolsForPair (m : Monitor) (a b : String) (allowlist : Option (List Text.Str)) :
    List PoolState :=
  (m.cache.poolsForPair a b).filter fun p =>
    m.isFresh p m.clock && (match allowlist with
      | some l => l.contains (.ofString p.address)
      | none => true)

/-- `findBestPool` の結果。 -/
structure PoolQuote where
  pool : PoolState
  expectedOutput : Decimal
  probability : Float
  score : Decimal

/-- 値付けの失敗を理由ごとに数えて読み飛ばす。読み飛ばせない失敗はそのまま。 -/
def skipPool (p : PoolState) (e : Fault) : Step Unit :=
  match e with
  | .insufficientLiquidity _ msg => do
    emit .debug s!"Skipping {p.label}: {msg}"
    recordSkip "insufficient_liquidity"
  | .overflow op _ => do
    emit .warning s!"Skipping {p.label}: overflow in {op}"
    recordSkip "arithmetic_overflow"
  | .invalidValue msg => do
    emit .warning s!"Skipping {p.label}: invalid pool record: {msg}"
    recordSkip "invalid_pool"
  | e => throw e

/-- 候補を比べて良いほうを残す。 -/
def better (best : Option PoolQuote) (q : PoolQuote) : Except Fault (Option PoolQuote) := do
  match best with
  | none => return some q
  | some b =>
    if (← Calc.lt b.score q.score) then return some q
    if (← Calc.eq q.score b.score) && q.probability > b.probability then return some q
    return some b

/-- 一つのプールを評価して候補に加える。 -/
def considerPool (tokenIn : String) (size : Decimal) (now : Float) (best : Option PoolQuote)
    (p : PoolState) : Step (Option PoolQuote) := do
  let m ← get
  let aToB := p.tokenA == tokenIn
  let quoted : Except Fault (Decimal × Float) := do
    let out ← expectedOutput p size aToB
    let prob ← m.executionProbability p size aToB now
    return (out, prob)
  match quoted with
  | .error e => skipPool p e; return best
  | .ok (out, prob) =>
    if prob <= 0.0 then return best
    if (← lift (Calc.le out (Calc.lit "0"))) then return best
    let score ← lift (Calc.mul out (Calc.ofFloat prob))
    lift (better best ⟨p, out, prob, score⟩)

/-- `tokenIn` を `size` だけ `tokenOut` に替えるのに最も良い新鮮なプール。 -/
def findBestPool (tokenIn tokenOut : String) (size : Decimal) : Step (Option PoolQuote) := do
  let m ← get
  (m.poolsForPair tokenIn tokenOut none).foldlM (considerPool tokenIn size m.clock) none

/-- 保管しているプールの要約。 -/
structure Stats where
  totalPools : Nat
  freshPools : Nat
  tokenPairs : Nat
  totalLiquidity : Int
  /-- 種類の値ごとの数。最初に現れた順。 -/
  byKind : List (String × Nat)

/-- 保管しているプールの要約。 -/
def stats (m : Monitor) : Stats :=
  let pools := m.cache.snapshot
  let byKind := pools.foldl (fun acc p =>
    if acc.any (·.1 == p.kind.value) then
      acc.map fun (k, n) => if k == p.kind.value then (k, n + 1) else (k, n)
    else acc ++ [(p.kind.value, 1)]) []
  { totalPools := pools.length
    freshPools := (pools.filter (m.isFresh · m.clock)).length
    tokenPairs := m.cache.pairCount
    totalLiquidity := pools.foldl (fun acc p => acc + p.liquidity) 0
    byKind }

end CrossPool.Monitor
