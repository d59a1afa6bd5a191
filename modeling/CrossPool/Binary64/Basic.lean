import CrossPool.Decimal.Basic

/-!
# 倍精度浮動小数点数のビット

`Float` を bit 列から有限値 `m * 2^q`・無限大・NaN に分け、逆に正確な有理数 `n / d` を
最も近い `Float` にする（ちょうど半分なら仮数が偶数の側）。

* `decode` — 符号と `Shape`。非正規化数は `q = -1074`。
* `ofRatio` — 正確な丸め。指数が下に溢れれば非正規化数か 0、上に溢れれば無限大。
-/

namespace CrossPool.Binary64

/-- 符号を除いた浮動小数点数の形。 -/
inductive Shape where
  | finite (m : Nat) (q : Int)
  | infinite
  | nan
  deriving Repr, DecidableEq

/-- 符号ビットと形に分ける。 -/
def decode (x : Float) : Bool × Shape :=
  let b : Nat := x.toBits.toNat
  let neg := b / Nat.pow 2 63 % 2 == 1
  let be : Nat := b / Nat.pow 2 52 % 2048
  let f : Nat := b % Nat.pow 2 52
  if be = 2047 then (neg, if f = 0 then .infinite else .nan)
  else if be = 0 then (neg, .finite f (-1074))
  else (neg, .finite (f + Nat.pow 2 52) ((be : Int) - 1075))

/-- 符号と bit の指数部と仮数部から `Float` を組み立てる。 -/
def assemble (neg : Bool) (be f : Nat) : Float :=
  Float.ofBits (UInt64.ofNat ((if neg then Nat.pow 2 63 else 0) + be * Nat.pow 2 52 + f))

/-- 符号付きの無限大。 -/
def infinity (neg : Bool) : Float := assemble neg 2047 0

/-- 符号付きの 0。 -/
def zero (neg : Bool) : Float := assemble neg 0 0

/-- quiet NaN。 -/
def nan : Float := assemble false 2047 (Nat.pow 2 51)

/-- `n / d ≥ 2^k`。 -/
def ratioAtLeastPow2 (n d : Nat) (k : Int) : Bool :=
  if 0 ≤ k then d * Nat.pow 2 k.toNat ≤ n else d ≤ n * Nat.pow 2 (-k).toNat

/-- `(-1)^neg * n / d` に最も近い `Float`。`d = 0` は 0 とみなす。 -/
def ofRatio (neg : Bool) (n d : Nat) : Float :=
  if n = 0 || d = 0 then zero neg
  else
    let k0 : Int := (n.log2 : Int) - d.log2
    -- `2^k ≤ n / d < 2^(k+1)`
    let k := if ratioAtLeastPow2 n d k0 then k0 else k0 - 1
    let q := max (k - 52) (-1074)
    let num := if 0 ≤ q then n else n * Nat.pow 2 (-q).toNat
    let den := if 0 ≤ q then d * Nat.pow 2 q.toNat else d
    let m := Decimal.divRoundEven num den
    let (m, q) := if m = Nat.pow 2 53 then (Nat.pow 2 52, q + 1) else (m, q)
    if m < Nat.pow 2 52 then assemble neg 0 m
    else if 2046 < q + 1075 then infinity neg
    else assemble neg (q + 1075).toNat (m - Nat.pow 2 52)

/-- 整数に最も近い `Float`。 -/
def ofInt (i : Int) : Float := ofRatio (i < 0) i.natAbs 1

/-- 有限値の正確な値を `(分子, 分母)` で返す。 -/
def ratioOf (m : Nat) (q : Int) : Nat × Nat :=
  if 0 ≤ q then (m * Nat.pow 2 q.toNat, 1) else (m, Nat.pow 2 (-q).toNat)

/-- 有限か。 -/
def isFinite (x : Float) : Bool :=
  match (decode x).2 with
  | .finite .. => true
  | _ => false

/-- NaN か。 -/
def isNan (x : Float) : Bool := (decode x).2 == .nan

/-- 無限大か。 -/
def isInfinite (x : Float) : Bool := (decode x).2 == .infinite

/--
整数への切り捨て。有限でなければ `none`。
-/
def truncate? (x : Float) : Option Int :=
  match decode x with
  | (neg, .finite m q) =>
    let (n, d) := ratioOf m q
    let t : Int := n / d
    some (if neg then -t else t)
  | _ => none

/-- 最も近い整数。ちょうど中間なら偶数。有限でなければ `none`。 -/
def roundEven? (x : Float) : Option Int :=
  match decode x with
  | (neg, .finite m q) =>
    let (n, d) := ratioOf m q
    let t : Int := Decimal.divRoundEven n d
    some (if neg then -t else t)
  | _ => none

end CrossPool.Binary64
