import CrossPool.Decimal.Arith

/-!
# 対数、指数関数、べき乗

自然対数 `lnRound` と指数関数 `expRound` を、指定の桁数に正しく丸めて求める。
`pow` は整数の指数なら正確なべき乗を丸め、そうでなければ

```
exp (round_wp (round_wp (ln x) * y))
```

を作業精度 `wp = max (x の桁数) prec + 23` で求めてから `prec` 桁に丸める。

## 正しい丸め

値を `10^W` 倍した整数で近似し、誤差の上限 `B` を添えて区間 `[A - B, A + B]` を作る。
両端を `p` 桁に丸めて一致すれば、真の値も同じ値に丸まる（丸めは単調で、対数と指数の
値は 1 の近く以外で有理数にならないので、ちょうど半分の場合は起こらない）。一致
しなければ `W` を増やしてやり直す。

* `ln` — `x = z * 2^b * 10^a`、`z ∈ [1, 2)` として `ln z = 2 atanh ((z - 1) / (z + 1))`。
  `ln 2 = 2 atanh (1/3)`、`ln 10 = 3 ln 2 + 2 atanh (1/9)`。
* `exp` — `m = q ln 10 + r` として `exp m = 10^q exp r`、`exp r` は Taylor 級数。

## 停止性

級数は項が 0 になるか fuel が尽きるまで足す。区間の幅を縮めるやり直しも fuel で
回数を決める。fuel が尽きたときは最後の近似を丸めて返す。
-/

namespace CrossPool.Decimal

/-! ## 固定小数点の級数 -/

/-- `Σ p_i / (2i + 1)`。`p_{i+1} = p_i * u2 / s`。 -/
def atanhSum (s u2 : Nat) : Nat → Nat → Nat → Nat
  | 0, _, _ => 0
  | fuel + 1, p, i =>
    if p = 0 then 0 else p / (2 * i + 1) + atanhSum s u2 fuel (p * u2 / s) (i + 1)

/-- `atanh (u / s) * s` の近似。`u < s / 3` のとき誤差は項の数の 4 倍以下。 -/
def atanhFixed (s u w : Nat) : Nat := atanhSum s (u * u / s) (2 * w + 10) u 0

/-- `ln 2 * 10^w` の近似。 -/
def ln2Fixed (w : Nat) : Nat := 2 * atanhFixed (Nat.pow 10 w) (Nat.pow 10 w / 3) w

/-- `ln 10 * 10^w` の近似。 -/
def ln10Fixed (w : Nat) : Nat := 3 * ln2Fixed w + 2 * atanhFixed (Nat.pow 10 w) (Nat.pow 10 w / 9) w

/-- `Σ t_n`、`t_{n+1} = t_n * r / (s * (n + 1))`（0 に向けて切り捨て）。 -/
def expSum (s : Nat) (r : Int) : Nat → Int → Nat → Int
  | 0, _, _ => 0
  | fuel + 1, t, n =>
    if t = 0 then 0 else t + expSum s r fuel ((t * r).tdiv ((s : Int) * (n + 1))) (n + 1)

/-! ## 区間の丸め -/

/-- 正確な値 `(-1)^neg * c * 10^e` を `p` 桁に丸めた有限値。 -/
def roundTo (p : Nat) (neg : Bool) (c : Nat) (e : Int) : Decimal :=
  match (Context.wide p).fix neg c e with
  | .ok d => d
  | .error _ => .finite neg c e

/-- 整数 `v * 10^e` を `p` 桁に丸める。 -/
def roundIntTo (p : Nat) (v : Int) (e : Int) : Decimal := roundTo p (v < 0) v.natAbs e

/-- 区間 `[(a - b) * 10^e, (a + b) * 10^e]` の両端が同じ値に丸まれば、その値。 -/
def roundInterval? (p : Nat) (a : Int) (b : Nat) (e : Int) : Option Decimal :=
  let lo := roundIntTo p (a - b) e
  let hi := roundIntTo p (a + b) e
  if lo = hi then some lo else none

/-! ## 自然対数 -/

/-- `ln (c * 10^e) * 10^w` の近似と誤差の上限。`c > 0`。 -/
def lnFixed (c : Nat) (e : Int) (w : Nat) : Int × Nat :=
  let s := Nat.pow 10 w
  let a : Int := adjusted c e
  -- `y = x / 10^a ∈ [1, 10)` を `s` 倍した値
  let y := c * s / Nat.pow 10 (digitCount c - 1)
  let b : Nat := if 8 * s ≤ y then 3 else if 4 * s ≤ y then 2 else if 2 * s ≤ y then 1 else 0
  let z := y / Nat.pow 2 b
  let u := (z - s) * s / (z + s)
  let g := digitCount a.natAbs + 1
  let ln10 : Int := ln10Fixed (w + g)
  let v : Int := 2 * (atanhFixed s u w : Int) + b * (ln2Fixed w : Int) + (a * ln10).tdiv (Nat.pow 10 g : Nat)
  (v, 40 * w + 100)

/-- `ln (c * 10^e)` を `p` 桁に正しく丸める。`c > 0` で、値が 1 のときは呼ばない。 -/
def lnSearch (p : Nat) (c : Nat) (e : Int) : Nat → Nat → Decimal
  | 0, w => let (v, _) := lnFixed c e w; roundIntTo p v (-(w : Int))
  | fuel + 1, w =>
    let (v, b) := lnFixed c e w
    match roundInterval? p v b (-(w : Int)) with
    | some d => d
    | none => lnSearch p c e fuel (w + 20)

/-- 正の有限値 `c * 10^e` の自然対数を `p` 桁に正しく丸める。1 の対数は 0。 -/
def lnRound (p : Nat) (c : Nat) (e : Int) : Decimal :=
  if cmpMagnitude c e 1 0 = .eq then .finite false 0 0
  else lnSearch p c e 60 (p + digitCount c + 10)

/-! ## 指数関数 -/

/-- `exp ((-1)^neg * c * 10^e)` の近似 `(A, B, k)`。値は `[A - B, A + B] * 10^k` に入る。 -/
def expFixed (neg : Bool) (c : Nat) (e : Int) (w : Nat) : Int × Nat × Int :=
  let s := Nat.pow 10 w
  -- `m * s`（0 に向けて切り捨て）
  let mag : Nat := if 0 ≤ e + w then c * Nat.pow 10 (e + w).toNat else c / Nat.pow 10 (-(e + w)).toNat
  let m : Int := if neg then -(mag : Int) else mag
  let g := (max 0 (adjusted c e)).toNat + 2
  let ln10 : Int := ln10Fixed (w + g)
  let q : Int := (m * (Nat.pow 10 g : Nat)).fdiv ln10
  let r : Int := m - (q * ln10).tdiv (Nat.pow 10 g : Nat)
  let v := expSum s r (3 * w + 100) s 0
  (v, 50 * w + 1000, q - w)

/-- `exp` を `p` 桁に正しく丸める探索。 -/
def expSearch (p : Nat) (neg : Bool) (c : Nat) (e : Int) : Nat → Nat → Decimal
  | 0, w => let (v, _, k) := expFixed neg c e w; roundIntTo p v k
  | fuel + 1, w =>
    let (v, b, k) := expFixed neg c e w
    match roundInterval? p v b k with
    | some d => d
    | none => expSearch p neg c e fuel (w + 20)

/-- 有限値 `(-1)^neg * c * 10^e` の指数関数を `p` 桁に正しく丸める。`exp 0 = 1`。 -/
def expRound (p : Nat) (neg : Bool) (c : Nat) (e : Int) : Decimal :=
  if c = 0 then .finite false 1 0
  else expSearch p neg c e 60 (p + 10 + (max 0 (-(adjusted c e))).toNat)

/-! ## べき乗 -/

/-- 整数値の偶奇。 -/
def isOddInteger : Decimal → Bool
  | .finite _ c e =>
    if 0 < e then false else (c / Nat.pow 10 e.natAbs) % 2 == 1
  | _ => false

/-- 精度 `prec` 桁の 1（`1.000…0`）。 -/
def oneWithPrecision (ctx : Context) (neg : Bool) : Decimal :=
  .finite neg (Nat.pow 10 (ctx.prec - 1)) (-((ctx.prec - 1 : Nat) : Int))

/-- 正の有限値 `c * 10^e` の、整数でない有限の指数 `y` によるべき乗。 -/
def powReal (ctx : Context) (c : Nat) (e : Int) (y : Decimal) : Except Signal Decimal := do
  let wp := max (digitCount c) ctx.prec + 23
  let l := lnRound wp c e
  let m ← mul (Context.wide wp) l y
  match m with
  | .finite mn mc me =>
    match expRound wp mn mc me with
    | .finite rn rc re =>
      if cmpMagnitude rc re 1 0 = .eq then .ok (oneWithPrecision ctx false)
      else ctx.fix rn rc re
    | r => .ok r
  | r => .ok r

/-- 正確な整数乗を丸める。指数が大きすぎる組は、溢れるか 0 に丸まるかを範囲で決める。 -/
def powInteger (ctx : Context) (neg : Bool) (c : Nat) (e : Int) (n : Int) :
    Except Signal Decimal :=
  let k := n.natAbs
  if k * digitCount c ≤ 20000 then
    if 0 ≤ n then ctx.fix neg (Nat.pow c k) (e * k)
    else divFinite ctx false 1 0 neg (Nat.pow c k) (e * k)
  else
    -- 結果の調整済み指数は `n * a` と `n * (a + 1)` の間
    let a := adjusted c e
    let lo := min (n * a) (n * (a + 1))
    if ctx.emax < lo then .error .overflow
    else ctx.fix neg 1 (ctx.etiny - 2)

/-- べき乗 `x ** y`。 -/
def pow (ctx : Context) (x y : Decimal) : Except Signal Decimal :=
  if x.isNan || y.isNan then nanResult ctx x y
  else
    let yInt := y.isInteger
    let neg := x.isSigned && yInt && isOddInteger y
    if x.isZero then
      if y.isZero then .error .invalidOperation
      else if y.isSigned then .ok (.infinity neg)
      else .ok (.finite neg 0 0)
    else if x.isSigned && (!yInt || !y.isFinite) then .error .invalidOperation
    else
      match x, y with
      | x, .infinity yn =>
        match cmpValue x (.finite false 1 0) with
        | .eq => .ok (oneWithPrecision ctx false)
        | .lt => .ok (if yn then .infinity false else .finite false 0 0)
        | .gt => .ok (if yn then .finite false 0 0 else .infinity false)
      | .infinity _, y =>
        if y.isZero then .ok (.finite false 1 0)
        else if y.isSigned then .ok (.finite neg 0 0)
        else .ok (.infinity neg)
      | .finite xn xc xe, .finite yn yc ye =>
        if yc = 0 then .ok (.finite false 1 0)
        else if !xn && cmpMagnitude xc xe 1 0 = .eq then
          if yInt then
            if yn then .ok (.finite false 1 0)
            else
              let shift := min (ctx.prec - 1) (((yc : Int) * Int.pow 10 ye.toNat / Int.pow 10 (-ye).toNat) *
                (-xe)).toNat
              .ok (.finite false (Nat.pow 10 shift) (-(shift : Int)))
          else .ok (oneWithPrecision ctx false)
        else if yInt then
          let n : Int := ((yc * Nat.pow 10 ye.toNat / Nat.pow 10 (-ye).toNat : Nat) : Int)
          powInteger ctx neg xc xe (if yn then -n else n)
        else powReal ctx xc xe (.finite yn yc ye)
      | _, _ => .error .invalidOperation

end CrossPool.Decimal
