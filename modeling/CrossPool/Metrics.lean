import CrossPool.Binary64.Text

/-!
# 計測値

走査器の計数器と計器。計数器は増えるだけで、計器は最後に設定した値を持つ。値は
どれも浮動小数点数。

| 名前 | 種類 | ラベル |
|---|---|---|
| `pool_arbitrage_pool_updates_total` | 計数器 | `dex_kind` |
| `pool_arbitrage_pools_pruned_total` | 計数器 | |
| `pool_arbitrage_cached_pools` | 計器 | |
| `pool_arbitrage_scans_total` | 計数器 | |
| `pool_arbitrage_scans_cancelled_total` | 計数器 | |
| `pool_arbitrage_opportunities_found_total` | 計数器 | `pair`、`confidence` |
| `pool_arbitrage_samples_skipped_total` | 計数器 | `reason` |
| `pool_arbitrage_best_ev_score` | 計器 | |

ラベル付きの計数器は、そのラベルで初めて増えたときに現れる。
-/

namespace CrossPool

/-- 走査器の計測値。ラベル付きの計数器は初めて増えた順の組の列。 -/
structure Metrics where
  poolUpdates : List (String × Float)
  poolsPruned : Float
  cachedPools : Float
  scans : Float
  scansCancelled : Float
  /-- 鍵は (組の名前, 信頼度)。 -/
  opportunities : List ((String × String) × Float)
  skipped : List (String × Float)
  bestEvScore : Float
  deriving Inhabited

namespace Metrics

/-- すべて 0 の計測値。 -/
def empty : Metrics := ⟨[], 0.0, 0.0, 0.0, 0.0, [], [], 0.0⟩

/-- ラベル付きの計数器を `amount` だけ増やす。 -/
def bump {κ : Type} [BEq κ] (xs : List (κ × Float)) (k : κ) (amount : Float) :
    List (κ × Float) :=
  if xs.any (·.1 == k) then xs.map fun p => if p.1 == k then (p.1, p.2 + amount) else p
  else xs ++ [(k, amount)]

/-- プールの記録の書き込みを数える。 -/
def recordPoolUpdate (m : Metrics) (kind : String) : Metrics :=
  { m with poolUpdates := bump m.poolUpdates kind 1.0 }

/-- 取り除いた古いプールを数える。0 個なら何もしない。 -/
def recordPoolsPruned (m : Metrics) (count : Nat) : Metrics :=
  if count = 0 then m else { m with poolsPruned := m.poolsPruned + count.toFloat }

/-- 保管しているプールの数を設定する。 -/
def updateCachedPools (m : Metrics) (count : Nat) : Metrics :=
  { m with cachedPools := count.toFloat }

/-- 走査の完了を数え、最良の点数を設定する。 -/
def recordScan (m : Metrics) (best : Float) : Metrics :=
  { m with scans := m.scans + 1.0, bestEvScore := best }

/-- 走査の中断を数える。 -/
def recordScanCancelled (m : Metrics) : Metrics :=
  { m with scansCancelled := m.scansCancelled + 1.0 }

/-- 閾値を通った機会を数える。 -/
def recordOpportunity (m : Metrics) (pair confidence : String) : Metrics :=
  { m with opportunities := bump m.opportunities (pair, confidence) 1.0 }

/-- 読み飛ばしたプールや取引量を理由ごとに数える。 -/
def recordSkip (m : Metrics) (reason : String) : Metrics :=
  { m with skipped := bump m.skipped reason 1.0 }

/-- 一つの標本。ラベルは名前の順。 -/
structure Sample where
  name : String
  labels : List (String × String)
  value : Float

/-- ラベルの列の辞書式の順序で `a` が `b` より前か。 -/
def labelsBefore : List (String × String) → List (String × String) → Bool
  | [], [] => false
  | [], _ :: _ => true
  | _ :: _, [] => false
  | (k, v) :: r, (k', v') :: r' =>
    if k < k' then true else if k' < k then false
    else if v < v' then true else if v' < v then false
    else labelsBefore r r'

/-- 標本の順序。名前、次にラベル。 -/
def Sample.before (a b : Sample) : Bool :=
  if a.name < b.name then true else if b.name < a.name then false
  else labelsBefore a.labels b.labels

/-- 標本の名前の頭。 -/
def pfx : String := "pool_arbitrage_"

/-- すべての標本を名前とラベルの順に並べる。 -/
def samples (m : Metrics) : List Sample :=
  let all :=
    m.poolUpdates.map (fun (k, v) => ⟨pfx ++ "pool_updates_total", [("dex_kind", k)], v⟩) ++
    [⟨pfx ++ "pools_pruned_total", [], m.poolsPruned⟩,
     ⟨pfx ++ "cached_pools", [], m.cachedPools⟩,
     ⟨pfx ++ "scans_total", [], m.scans⟩,
     ⟨pfx ++ "scans_cancelled_total", [], m.scansCancelled⟩] ++
    m.opportunities.map (fun ((p, c), v) =>
      ⟨pfx ++ "opportunities_found_total", [("confidence", c), ("pair", p)], v⟩) ++
    m.skipped.map (fun (k, v) => ⟨pfx ++ "samples_skipped_total", [("reason", k)], v⟩) ++
    [⟨pfx ++ "best_ev_score", [], m.bestEvScore⟩]
  all.mergeSort Sample.before

/-- 要約の表記 `{'scans': 1.0, 'cached_pools': 2.0, 'best_ev_score': 0.0}`。 -/
def summary (m : Metrics) : String :=
  let scans := Binary64.toShortString m.scans
  let cached := Binary64.toShortString m.cachedPools
  let best := Binary64.toShortString m.bestEvScore
  "\x7b'scans': " ++ scans ++ ", 'cached_pools': " ++ cached ++ ", 'best_ev_score': " ++ best ++
    "\x7d"

end Metrics

end CrossPool
