import CrossPool.Calc

/-!
# 取引量の格子

`[minSize, maxSize]` の候補の取引量を `samples` 個作る。両端を含み、等間隔
（`linear`）か等比（`log`、`minSize > 0` が要る）。計算した列の両端を端点で
置き換え、区間に収めて、値の重複を除き（最初に現れた表現を残す）昇順に並べる。
`samples = 1` か `minSize = maxSize` なら `[minSize]`。

格子は検出器を作るときに `decimal_context()` の外で計算するので、点の丸めは呼んだ thread の
context による（`tradeSizesIn`）。
-/

namespace CrossPool.Grid

/-- 値の昇順に安定に並べ、等しい値の組からは最初のものだけを残す。 -/
def sortDistinct (xs : List Decimal) : List Decimal :=
  let sorted := xs.mergeSort fun a b => Decimal.cmpValue a b != .gt
  sorted.foldr (fun x acc => match acc with
    | y :: ys => if Decimal.cmpValue x y == .eq then x :: ys else x :: y :: ys
    | [] => [x]) []

/-- context `c` での等間隔の `i` 番目。 -/
def linearPoint (c : Decimal.Context) (minSize step : Decimal) (i : Nat) : Except Fault Decimal := do
  Calc.addIn c minSize (← Calc.mulIn c step (Calc.ofInt i))

/-- context `c` での等比の `i` 番目。 -/
def logPoint (c : Decimal.Context) (minSize ratio steps : Decimal) (i : Nat) :
    Except Fault Decimal := do
  Calc.mulIn c minSize (← Calc.powIn c ratio (← Calc.divIn c (Calc.ofInt i) steps))

/-- context `c` の thread での、候補の取引量の格子。 -/
def tradeSizesIn (c : Decimal.Context) (minSize maxSize : Decimal) (samples : Int) (spacing : String) :
    Except Fault (List Decimal) := do
  if samples < 1 then throw (.invalidValue s!"samples must be >= 1: {samples}")
  if (← Calc.lt maxSize minSize) then
    let lo := minSize.toSci
    let hi := maxSize.toSci
    throw (.invalidValue s!"min_size {lo} > max_size {hi}")
  if samples == 1 then return [minSize]
  if (← Calc.eq minSize maxSize) then return [minSize]
  let n := samples.toNat
  let steps := Calc.ofInt (samples - 1)
  let points ← if spacing == "linear" then do
      let step ← Calc.divIn c (← Calc.subIn c maxSize minSize) steps
      (List.range n).mapM (linearPoint c minSize step)
    else if spacing == "log" then do
      if (← Calc.le minSize (Calc.ofInt 0)) then
        throw (.invalidValue "log spacing requires min_size > 0")
      let ratio ← Calc.divIn c maxSize minSize
      (List.range n).mapM (logPoint c minSize ratio steps)
    else throw (.invalidValue s!"Unknown grid spacing: {spacing}")
  -- 両端を端点で置き換える
  let pinned := (minSize :: (points.drop 1).dropLast) ++ [maxSize]
  let clamped ← pinned.mapM fun s => Calc.clamp s minSize maxSize
  return sortDistinct clamped

/-- 候補の取引量の格子。 -/
def tradeSizes (minSize maxSize : Decimal) (samples : Int) (spacing : String) :
    Except Fault (List Decimal) :=
  tradeSizesIn Calc.ctx minSize maxSize samples spacing

end CrossPool.Grid
