import CrossPool.Calc
import CrossPool.Binary64.Checked
import CrossPool.Binary64.Order

/-!
# 価格の安定度

プールごとに直近の価格の窓を持ち、変動係数（標準偏差 / 平均）を `[0, 1]` の点数に
する。点数は `1 - cv / cvCeiling` を `[0, 1]` に収めたもので、観測が 2 個未満なら
点数はない。

* 窓の長さ `windowSize` は `none` なら無制限。長さを超えた観測は古いほうから捨てる。
  長さ 0 の窓は何も残さない。負の長さの窓と、長さが 64 bit 符号付き整数に収まらない窓は
  作れず、新しいプールの観測を加えるたびに失敗する。
* 価格は浮動小数点数にして持つ。浮動小数点数にできない価格（sNaN）を加えると、
  窓は作られたまま観測は加わらない。
* 平均と分散は先頭から順に足した和を観測数で割る。標準偏差は分散の `0.5` 乗。
-/

namespace CrossPool

/-- プールごとの価格の窓。`windows` は最初に観測した順。 -/
structure Stability where
  windowSize : Option Int
  cvCeiling : Float
  windows : List (String × List Float)
  deriving Inhabited

namespace Stability

/-- 窓のない監視。 -/
def empty (windowSize : Option Int) (cvCeiling : Float) : Stability :=
  ⟨windowSize, cvCeiling, []⟩

/-- プールの窓。 -/
def window? (s : Stability) (address : String) : Option (List Float) :=
  (s.windows.find? (·.1 == address)).map Prod.snd

/-- 窓を置き換える。なければ末尾に加える。 -/
def putWindow (s : Stability) (address : String) (w : List Float) : Stability :=
  if s.windows.any (·.1 == address) then
    { s with windows := s.windows.map fun p => if p.1 == address then (address, w) else p }
  else { s with windows := s.windows ++ [(address, w)] }

/-- 窓の末尾に観測を加え、長さを超えた分を先頭から捨てる。 -/
def push (windowSize : Option Int) (w : List Float) (x : Float) : List Float :=
  let w := w ++ [x]
  match windowSize with
  | some n => w.drop (w.length - n.toNat)
  | none => w

/--
観測を加える。状態の変化と結果の組を返す。新しいプールの窓を作れなければ何も変えず、
価格を浮動小数点数にできなければ窓だけができる。
-/
def add (s : Stability) (address : String) (price : Decimal) : Stability × Except Fault Unit :=
  let created : Except Fault (List Float) :=
    match s.window? address with
    | some w => .ok w
    | none =>
      match s.windowSize with
      | some n =>
        if n < -(Int.pow 2 63) || Int.pow 2 63 ≤ n then
          .error (.outOfRange "Python int too large to convert to C ssize_t")
        else if n < 0 then .error (.invalidValue "maxlen must be non-negative")
        else .ok []
      | none => .ok []
  match created with
  | .error e => (s, .error e)
  | .ok w =>
    match Calc.toFloat price with
    | .ok x => (s.putWindow address (push s.windowSize w x), .ok ())
    | .error e => (s.putWindow address w, .error e)

/-- 観測数。 -/
def count (s : Stability) (address : String) : Nat :=
  ((s.window? address).getD []).length

/-- 先頭から順に足した和。 -/
def total (xs : List Float) : Float := xs.foldl (· + ·) 0.0

/-- 偏差の平方の列。溢れれば範囲外。 -/
def squares (xs : List Float) (mean : Float) : Except Fault (List Float) :=
  xs.mapM fun x => Binary64.power (x - mean) 2.0

/-- 平均と母標準偏差。観測が 2 個未満なら `none`。 -/
def meanSigma (obs : List Float) : Except Fault (Option (Float × Float)) := do
  if obs.length < 2 then return none
  let n := obs.length.toFloat
  let mean := total obs / n
  let variance := total (← squares obs mean) / n
  return some (mean, ← Binary64.power variance 0.5)

/-- 母標準偏差。 -/
def sigma (s : Stability) (address : String) : Except Fault (Option Float) := do
  return (← meanSigma ((s.window? address).getD [])).map Prod.snd

/-- 安定度の点数。平均が正でなければ 0。 -/
def score (s : Stability) (address : String) : Except Fault (Option Float) := do
  match ← meanSigma ((s.window? address).getD []) with
  | none => return none
  | some (mean, sd) =>
    if mean <= 0.0 then return some 0.0
    let ratio ← Binary64.divide (sd / mean) s.cvCeiling
    return some (Binary64.pickMax 0.0 (Binary64.pickMin 1.0 (1.0 - ratio)))

/-- プールの窓を捨てる。 -/
def forget (s : Stability) (address : String) : Stability :=
  { s with windows := s.windows.filter (·.1 != address) }

/-- 窓を持つプールの数。 -/
def size (s : Stability) : Nat := s.windows.length

end Stability

end CrossPool
