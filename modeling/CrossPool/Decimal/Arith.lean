import CrossPool.Decimal.Basic

/-!
# 10 進数の四則演算と比較

どの演算も「正確な結果を求めてから `Context.fix` で丸める」。例外は二つの小道具だけで、
丸めの結果は変えない。

* `alignForAdd` — 加算で指数の差が大きすぎるとき、小さいほうの項を丸め位置より下の
  `10^k` に置き換える。足しても引いても丸めた結果は同じになる。
* `divFinite` — 商を `prec + 1` 桁以上求め、割り切れなければ最下位に付箋の 1 を足す。
  割り切れれば指数を理想の指数（被除数と除数の指数の差）に近づける。

比較は値で行い、`1.0` と `1` は等しい。NaN との順序比較は `Signal.invalidOperation` に
なり、等値比較では quiet NaN は何とも等しくない。
-/

namespace CrossPool.Decimal

/-! ## NaN -/

/-- 少なくとも一方が NaN のときの結果。sNaN があれば InvalidOperation、なければ先の NaN。 -/
def nanResult (ctx : Context) (a b : Decimal) : Except Signal Decimal :=
  match a, b with
  | .nan _ true _, _ => .error .invalidOperation
  | _, .nan _ true _ => .error .invalidOperation
  | .nan n _ p, _ => .ok (ctx.fixNan n false p)
  | _, .nan n _ p => .ok (ctx.fixNan n false p)
  | _, _ => .error .invalidOperation

/-! ## 比較 -/

/-- 有限値の絶対値の比較。 -/
def cmpMagnitude (ca : Nat) (ea : Int) (cb : Nat) (eb : Int) : Ordering :=
  if ca = 0 then (if cb = 0 then .eq else .lt)
  else if cb = 0 then .gt
  else
    let aa := adjusted ca ea
    let ab := adjusted cb eb
    if aa < ab then .lt
    else if ab < aa then .gt
    -- 調整済み指数が等しいので、指数の差は桁数の差に収まる
    else if ea ≤ eb then compare ca (cb * Nat.pow 10 (eb - ea).toNat)
    else compare (ca * Nat.pow 10 (ea - eb).toNat) cb

/-- NaN でない値の大小。0 の符号は区別しない。NaN には `.eq` を返すが、使う側が先に除く。 -/
def cmpValue : Decimal → Decimal → Ordering
  | .infinity na, .infinity nb => if na = nb then .eq else if na then .lt else .gt
  | .infinity na, _ => if na then .lt else .gt
  | _, .infinity nb => if nb then .gt else .lt
  | .finite na ca ea, .finite nb cb eb =>
    match na && ca != 0, nb && cb != 0 with
    | false, false => cmpMagnitude ca ea cb eb
    | true, true => cmpMagnitude cb eb ca ea
    | true, false => .lt
    | false, true => .gt
  | _, _ => .eq

/-- 順序比較。NaN があれば InvalidOperation。 -/
def compareOrder (a b : Decimal) : Except Signal Ordering :=
  if a.isNan || b.isNan then .error .invalidOperation else .ok (cmpValue a b)

/-- `a < b`。 -/
def lt (a b : Decimal) : Except Signal Bool := (compareOrder a b).map (· == .lt)

/-- `a ≤ b`。 -/
def le (a b : Decimal) : Except Signal Bool := (compareOrder a b).map (· != .gt)

/-- 値の等しさ。quiet NaN は何とも等しくなく、sNaN は InvalidOperation。 -/
def equals (a b : Decimal) : Except Signal Bool :=
  match a, b with
  | .nan _ true _, _ => .error .invalidOperation
  | _, .nan _ true _ => .error .invalidOperation
  | .nan .., _ => .ok false
  | _, .nan .. => .ok false
  | _, _ => .ok (cmpValue a b == .eq)

/-- 二つのうち小さいほう。等しければ先のほう。 -/
def pickMin (a b : Decimal) : Except Signal Decimal := do
  if (← lt b a) then pure b else pure a

/-- 二つのうち大きいほう。等しければ先のほう。 -/
def pickMax (a b : Decimal) : Except Signal Decimal := do
  if (← lt a b) then pure b else pure a

/-- `max lo (min v hi)`。 -/
def clamp (v lo hi : Decimal) : Except Signal Decimal := do
  pickMax lo (← pickMin v hi)

/-! ## 加減算 -/

/-- 指数の大きいほう `(ct, et)` に合わせて、もう一方 `(co, eo)` との指数をそろえる。 -/
def alignBig (prec : Nat) (ct : Nat) (et : Int) (co : Nat) (eo : Int) : Nat × Nat × Int :=
  let lim := et + min (-1) ((digitCount ct : Int) - prec - 2)
  let (co, eo) := if adjusted co eo < lim then (1, lim) else (co, eo)
  (ct * Nat.pow 10 (et - eo).toNat, co, eo)

/-- 0 でない二項の係数を共通の指数にそろえる。返すのは `(a の係数, b の係数, 指数)`。 -/
def alignForAdd (prec : Nat) (ca : Nat) (ea : Int) (cb : Nat) (eb : Int) : Nat × Nat × Int :=
  if ea < eb then
    let (cb', ca', e) := alignBig prec cb eb ca ea
    (ca', cb', e)
  else alignBig prec ca ea cb eb

/-- 有限値の和。和が 0 なら、両方が負のときだけ符号が負になる。 -/
def addFinite (ctx : Context) (na : Bool) (ca : Nat) (ea : Int) (nb : Bool) (cb : Nat)
    (eb : Int) : Except Signal Decimal :=
  let exp := min ea eb
  if ca = 0 ∧ cb = 0 then ctx.fix (na && nb) 0 exp
  else if ca = 0 then
    let e := max exp (eb - ctx.prec - 1)
    ctx.fix nb (cb * Nat.pow 10 (eb - e).toNat) e
  else if cb = 0 then
    let e := max exp (ea - ctx.prec - 1)
    ctx.fix na (ca * Nat.pow 10 (ea - e).toNat) e
  else
    let (a, b, e) := alignForAdd ctx.prec ca ea cb eb
    if na = nb then ctx.fix na (a + b) e
    else if a = b then ctx.fix false 0 exp
    else if b < a then ctx.fix na (a - b) e
    else ctx.fix nb (b - a) e

/-- 和。符号の違う無限大どうしは InvalidOperation。 -/
def add (ctx : Context) : Decimal → Decimal → Except Signal Decimal
  | .finite na ca ea, .finite nb cb eb => addFinite ctx na ca ea nb cb eb
  | .infinity na, .infinity nb => if na = nb then .ok (.infinity na) else .error .invalidOperation
  | .infinity na, .finite .. => .ok (.infinity na)
  | .finite .., .infinity nb => .ok (.infinity nb)
  | a, b => nanResult ctx a b

/-- 差。NaN は符号を反転せずに伝わる。 -/
def sub (ctx : Context) (a b : Decimal) : Except Signal Decimal :=
  if a.isNan || b.isNan then nanResult ctx a b else add ctx a b.negate

/-! ## 乗除算 -/

/-- 積。無限大と 0 の積は InvalidOperation。 -/
def mul (ctx : Context) : Decimal → Decimal → Except Signal Decimal
  | .finite na ca ea, .finite nb cb eb => ctx.fix (na != nb) (ca * cb) (ea + eb)
  | .infinity na, .infinity nb => .ok (.infinity (na != nb))
  | .infinity na, .finite nb cb _ =>
    if cb = 0 then .error .invalidOperation else .ok (.infinity (na != nb))
  | .finite na ca _, .infinity nb =>
    if ca = 0 then .error .invalidOperation else .ok (.infinity (na != nb))
  | a, b => nanResult ctx a b

/-- 割り切れた商の指数を、末尾の 0 を落として理想の指数 `ideal` まで近づける。 -/
def towardIdeal (q : Nat) (e ideal : Int) : Nat × Int :=
  let k := min (trailingZeros q) (ideal - e).toNat
  (q / Nat.pow 10 k, e + k)

/-- 有限値の商。0 で割ると DivisionByZero、0 を 0 で割ると InvalidOperation。 -/
def divFinite (ctx : Context) (na : Bool) (ca : Nat) (ea : Int) (nb : Bool) (cb : Nat)
    (eb : Int) : Except Signal Decimal :=
  let sign := na != nb
  if cb = 0 then
    if ca = 0 then .error .invalidOperation else .error .divisionByZero
  else if ca = 0 then ctx.fix sign 0 (ea - eb)
  else
    let shift : Int := (digitCount cb : Int) - digitCount ca + ctx.prec + 1
    let exp := ea - eb - shift
    let num := if 0 ≤ shift then ca * Nat.pow 10 shift.toNat else ca
    let den := if 0 ≤ shift then cb else cb * Nat.pow 10 (-shift).toNat
    let q := num / den
    if num % den ≠ 0 then
      ctx.fix sign (if q % 5 = 0 then q + 1 else q) exp
    else
      let (q, e) := towardIdeal q exp (ea - eb)
      ctx.fix sign q e

/-- 商。無限大どうしは InvalidOperation、有限値を無限大で割ると最小指数の 0。 -/
def div (ctx : Context) : Decimal → Decimal → Except Signal Decimal
  | .finite na ca ea, .finite nb cb eb => divFinite ctx na ca ea nb cb eb
  | .infinity _, .infinity _ => .error .invalidOperation
  | .infinity na, .finite nb _ _ => .ok (.infinity (na != nb))
  | .finite na _ _, .infinity nb => .ok (.finite (na != nb) 0 ctx.etiny)
  | a, b => nanResult ctx a b

/-! ## 10 の整数乗 -/

/--
`10 ** n`。正の `n` の理想の表現は係数 `10^n`・指数 0 で、`prec` 桁を超える分は指数に
移す。負の `n` は係数 1・指数 `n` で、`etiny` より下なら 0 になる。
-/
def pow10 (ctx : Context) (n : Int) : Except Signal Decimal :=
  if 0 ≤ n then
    if ctx.emax < n then .error .overflow
    else if n < ctx.prec then .ok (.finite false (Nat.pow 10 n.toNat) 0)
    else .ok (.finite false (Nat.pow 10 (ctx.prec - 1)) (n - (ctx.prec - 1)))
  else ctx.fix false 1 n

/-- 値が整数か。`1.0` や `1E+2` も整数。 -/
def isInteger : Decimal → Bool
  | .finite _ c e => 0 ≤ e || c == 0 || (e.natAbs ≤ trailingZeros c)
  | _ => false

end CrossPool.Decimal
