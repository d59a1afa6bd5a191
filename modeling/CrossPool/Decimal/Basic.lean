/-!
# 10 進浮動小数点数

一般 10 進算術（General Decimal Arithmetic）の値と、演算結果を context に収める丸め。

## 表現

有限値は `(-1)^neg * coeff * 10^exp` で、係数は正規化しない。`1.0` と `1` は値が等しく
表現が違い、文字列にすると末尾の 0 が残る。無限大と NaN は別の constructor にする。
NaN は quiet と signaling を分け、診断用の payload を持つ。

## 丸め

`Context.fix` は係数を精度 `prec` 桁に、指数を `[etiny, etop]` に収める。丸めは偶数丸め
（最も近い値、ちょうど半分なら偶数の側）。上に溢れると `Signal.overflow` になり、下に
溢れると 0 に近づく。下への溢れは trap しない。

## 停止性

fuel は使わない。`digitCount` は係数が 10 で割られて減る。
-/

namespace CrossPool

/-- 10 進数。有限値、符号付きの無限大、quiet または signaling の NaN。 -/
inductive Decimal where
  | finite (neg : Bool) (coeff : Nat) (exp : Int)
  | infinity (neg : Bool)
  | nan (neg : Bool) (signaling : Bool) (payload : Nat)
  deriving Repr, DecidableEq, Inhabited

namespace Decimal

/-- trap される例外条件。どれも演算を打ち切る。 -/
inductive Signal where
  | invalidOperation
  | divisionByZero
  | overflow
  deriving Repr, DecidableEq, Inhabited

/-! ## 桁と丸め -/

/-- 10 進の桁数。0 は 1 桁と数える。 -/
def digitCount (c : Nat) : Nat :=
  if c < 10 then 1 else digitCount (c / 10) + 1
termination_by c
decreasing_by omega

theorem digitCount_pos (c : Nat) : 0 < digitCount c := by
  unfold digitCount
  split <;> omega

/-- 末尾の 0 の個数。0 には 0 を返す。 -/
def trailingZeros (c : Nat) : Nat :=
  if c ≠ 0 ∧ c % 10 = 0 then trailingZeros (c / 10) + 1 else 0
termination_by c
decreasing_by omega

/-- `n / d` を最も近い整数に丸める。ちょうど半分なら偶数の側。 -/
def divRoundEven (n d : Nat) : Nat :=
  let q := n / d
  let r := n % d
  if 2 * r < d then q
  else if d < 2 * r then q + 1
  else if q % 2 = 0 then q else q + 1

/-- 係数の下から `k` 桁を偶数丸めで落とす。係数より長く落とすと 0 になる。 -/
def dropDigits (c k : Nat) : Nat :=
  if digitCount c < k then 0 else divRoundEven c (Nat.pow 10 k)

/-! ## context -/

/-- 演算の環境。精度と、調整済み指数の範囲 `[emin, emax]`。 -/
structure Context where
  prec : Nat
  emax : Int
  emin : Int
  deriving Repr, DecidableEq

/-- 価格計算の標準 context。50 桁で、指数は ±999999。 -/
def Context.standard : Context := ⟨50, 999999, -999999⟩

/-- 中間計算の広い context。指数はほぼ無制限で、精度だけを指定する。 -/
def Context.wide (prec : Nat) : Context :=
  ⟨prec, 999999999999999999, -999999999999999999⟩

/-- 非正規化数を含めた最小の指数。 -/
def Context.etiny (ctx : Context) : Int := ctx.emin - ctx.prec + 1

/-- 係数が `prec` 桁のときの最大の指数。 -/
def Context.etop (ctx : Context) : Int := ctx.emax - ctx.prec + 1

/-- NaN の payload を精度の桁数に切り詰める。 -/
def Context.fixNan (ctx : Context) (neg : Bool) (signaling : Bool) (payload : Nat) : Decimal :=
  .nan neg signaling (payload % Nat.pow 10 ctx.prec)

/--
有限の正確な値 `(-1)^neg * c * 10^e` を context に収める。

0 は指数だけを `[etiny, emax]` に寄せる。0 でなければ、指数が
`max (桁数 + e - prec) etiny` より小さいときだけ、その指数まで偶数丸めする。
繰り上がりで `prec + 1` 桁になれば 1 桁落とす。調整済み指数が `emax` を超えれば溢れる。
-/
def Context.fix (ctx : Context) (neg : Bool) (c : Nat) (e : Int) : Except Signal Decimal :=
  if c = 0 then
    .ok (.finite neg 0 (min (max e ctx.etiny) ctx.emax))
  else
    let expMin0 : Int := (digitCount c : Int) + e - ctx.prec
    if ctx.etop < expMin0 then .error .overflow
    else
      let expMin := max expMin0 ctx.etiny
      if e < expMin then
        let c' := dropDigits c (expMin - e).toNat
        if ctx.prec < digitCount c' then
          if ctx.etop < expMin + 1 then .error .overflow
          else .ok (.finite neg (c' / 10) (expMin + 1))
        else .ok (.finite neg c' expMin)
      else .ok (.finite neg c e)

/-! ## 小道具 -/

/-- 0（符号は問わない）。 -/
def isZero : Decimal → Bool
  | .finite _ c _ => c == 0
  | _ => false

/-- NaN（quiet または signaling）。 -/
def isNan : Decimal → Bool
  | .nan .. => true
  | _ => false

/-- 有限値。 -/
def isFinite : Decimal → Bool
  | .finite .. => true
  | _ => false

/-- 符号ビット。0 と NaN にも符号がある。 -/
def isSigned : Decimal → Bool
  | .finite n _ _ => n
  | .infinity n => n
  | .nan n _ _ => n

/-- 符号を反転する。NaN も含め表現はそのまま。 -/
def negate : Decimal → Decimal
  | .finite n c e => .finite (!n) c e
  | .infinity n => .infinity (!n)
  | .nan n s p => .nan (!n) s p

/-- 絶対値。符号ビットを落とす。 -/
def abs : Decimal → Decimal
  | .finite _ c e => .finite false c e
  | .infinity _ => .infinity false
  | .nan _ s p => .nan false s p

/-- 整数をそのまま 10 進数にする。 -/
def ofInt (n : Int) : Decimal := .finite (n < 0) n.natAbs 0

/-- 自然数をそのまま 10 進数にする。 -/
def ofNat (n : Nat) : Decimal := .finite false n 0

/-- 調整済み指数（先頭の桁の位）。 -/
def adjusted (c : Nat) (e : Int) : Int := e + digitCount c - 1

end Decimal

end CrossPool
