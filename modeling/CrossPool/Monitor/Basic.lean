import CrossPool.Pool.Cache
import CrossPool.Stability
import CrossPool.Metrics
import CrossPool.Log

/-!
# 流動性の監視器の状態

監視器はプールの記録の保管所、価格の安定度、鮮度の上限、時計、計測値、ログを持つ。

監視器の操作は `Step` の計算で、失敗しても失敗までに起きた変化（書き込んだ記録、
増えた計数器、残したログ）は残る。
-/

namespace CrossPool

/-- 流動性の監視器。`log` は新しい記録が先頭。 -/
structure Monitor where
  cache : PoolCache
  stability : Stability
  maxPoolAge : Float
  /-- 時計の現在の読み。 -/
  clock : Float
  metrics : Option Metrics
  log : List Log.Record
  deriving Inhabited

/-- 監視器の操作。失敗しても状態の変化は残る。 -/
abbrev Step := EStateM Fault Monitor

namespace Monitor

/-- 監視器を作る。鮮度の上限は正でなければならない。 -/
def create (cache : PoolCache) (maxPoolAge : Float) (clock : Float) (stability : Stability)
    (metrics : Option Metrics) : Except Fault Monitor :=
  if maxPoolAge <= 0.0 then
    let shown := Binary64.toShortString maxPoolAge
    .error (.invalidValue s!"max_pool_age must be positive: {shown}")
  else .ok ⟨cache, stability, maxPoolAge, clock, metrics, []⟩

/-- 古い順のログ。 -/
def records (m : Monitor) : List Log.Record := m.log.reverse

/-- 失敗しうる値を操作にする。 -/
def lift {α : Type} (r : Except Fault α) : Step α :=
  match r with
  | .ok a => pure a
  | .error e => throw e

/-- ログを残す。 -/
def emit (level : Log.Level) (message : String) : Step Unit :=
  modify fun m => { m with log := ⟨level, message⟩ :: m.log }

/-- 計測値を変える。計測しない監視器では何もしない。 -/
def measure (f : Metrics → Metrics) : Step Unit :=
  modify fun m => { m with metrics := m.metrics.map f }

/-- 読み飛ばしを理由ごとに数える。 -/
def recordSkip (reason : String) : Step Unit := measure (·.recordSkip reason)

/-- 時計を読む。 -/
def now : Step Float := return (← get).clock

/-- 失敗を値として受け取る。状態の変化は残す。 -/
def attempt {α : Type} (x : Step α) : Step (Except Fault α) := fun s =>
  match x s with
  | .ok a s' => .ok (.ok a) s'
  | .error e s' => .ok (.error e) s'

end Monitor

end CrossPool
