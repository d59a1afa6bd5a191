import CrossPool.Binary64.Basic

/-!
# 最短の 10 進表記

正の有限値 `m * 2^q` について、読み戻すと同じ値になる 10 進数のうち桁数が最も少ない
ものを求める。読み戻しは偶数丸めなので、値に丸まる実数の区間は隣の値との中点で
区切られ、`m` が偶数なら両端を含む。仮数が `2^52` で指数が最小でないときは、下の隣が
半分の間隔にあるので区間は非対称になる。

1 桁から 17 桁まで順に、その桁数の格子で値を挟む二点を調べる。区間に入る点が
最初に見つかった桁数で止め、二点とも入れば値に近いほう、等距離なら偶数のほうを取る。
17 桁あれば必ず見つかる。
-/

namespace CrossPool.Binary64

/-- 正の有理数 `n / d` の常用対数の整数部。 -/
def log10Floor (n d : Nat) : Int :=
  let x0 : Int := (Decimal.digitCount n : Int) - Decimal.digitCount d
  -- `10^x0 ≤ n / d` なら `x0`、そうでなければ `x0 - 1`
  let ge := if 0 ≤ x0 then d * Nat.pow 10 x0.toNat ≤ n else d ≤ n * Nat.pow 10 (-x0).toNat
  if ge then x0 else x0 - 1

/-- 有理数 `a / b` と `c / d` の比較。 -/
def cmpRatio (a b c d : Nat) : Ordering := compare (a * d) (c * b)

/-- 10 進の候補 `digit * 10^s` を分数 `(分子, 分母)` にする。 -/
def gridPoint (digit : Nat) (s : Int) : Nat × Nat :=
  if 0 ≤ s then (digit * Nat.pow 10 s.toNat, 1) else (digit, Nat.pow 10 (-s).toNat)

/-- 値に丸まる区間 `[lo, hi]`（分数の組）と、端を含むかどうか。 -/
structure RoundingInterval where
  loN : Nat
  loD : Nat
  hiN : Nat
  hiD : Nat
  closed : Bool

/-- `m * 2^q` に丸まる実数の区間。 -/
def roundingInterval (m : Nat) (q : Int) : RoundingInterval :=
  let asym := m = Nat.pow 2 52 && -1074 < q
  -- 端は `(2m ± 1) * 2^(q-1)`、非対称なら下端は `(4m - 1) * 2^(q-2)`
  let (loN, loD) := if asym then ratioOf (4 * m - 1) (q - 2) else ratioOf (2 * m - 1) (q - 1)
  let (hiN, hiD) := ratioOf (2 * m + 1) (q - 1)
  ⟨loN, loD, hiN, hiD, m % 2 == 0⟩

/-- 候補の点が区間に入るか。 -/
def RoundingInterval.contains (r : RoundingInterval) (pn pd : Nat) : Bool :=
  let above := cmpRatio pn pd r.loN r.loD
  let below := cmpRatio pn pd r.hiN r.hiD
  if r.closed then above != .lt && below != .gt else above == .gt && below == .lt

/-- `k` 桁の格子での結果。区間に入る点の数字列（整数）と格子の指数。 -/
def tryDigits (r : RoundingInterval) (n d : Nat) (x : Int) (k : Nat) : Option (Nat × Int) :=
  let s := x - k + 1
  let (gn, gd) := gridPoint 1 s
  -- `lower = floor (v / 10^s)`
  let lower := n * gd / (d * gn)
  let (ln, ld) := gridPoint lower s
  let (un, ud) := gridPoint (lower + 1) s
  let okLo := lower != 0 && r.contains ln ld
  let okHi := r.contains un ud
  if okLo && okHi then
    -- 値 `n / d` に近いほう。等距離なら偶数。
    match compare (n * ld * ud - ln * d * ud) (un * d * ld - n * ld * ud) with
    | .lt => some (lower, s)
    | .gt => some (lower + 1, s)
    | .eq => some (if lower % 2 = 0 then lower else lower + 1, s)
  else if okLo then some (lower, s)
  else if okHi then some (lower + 1, s)
  else none

/-- 1 桁から `fuel` 桁まで順に試す。 -/
def searchDigits (r : RoundingInterval) (n d : Nat) (x : Int) : Nat → Nat → Option (Nat × Int)
  | 0, _ => none
  | fuel + 1, k =>
    match tryDigits r n d x k with
    | some res => some res
    | none => searchDigits r n d x fuel (k + 1)

/-- 末尾の 0 を指数に移す。 -/
def stripZeros (digits : Nat) (s : Int) : Nat × Int :=
  let z := Decimal.trailingZeros digits
  (digits / Nat.pow 10 z, s + z)

/--
正の有限値 `m * 2^q` の最短表記 `(数字列, 指数)`。値は `数字列 * 10^指数` で、
数字列は 10 で割り切れない。
-/
def shortest (m : Nat) (q : Int) : Nat × Int :=
  let (n, d) := ratioOf m q
  let r := roundingInterval m q
  let x := log10Floor n d
  match searchDigits r n d x 17 1 with
  | some (digits, s) => stripZeros digits s
  | none => stripZeros (n / d) 0

end CrossPool.Binary64
