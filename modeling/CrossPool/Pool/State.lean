import CrossPool.Pool.Kind
import CrossPool.Text.Str

/-!
# プールの記録

一つのプールの最新の状態。記録は書き換えず、更新のたびに丸ごと置き換える。
検証はしないので、負の値や大きすぎる値もそのまま持つ。

* 定積プールは二つの準備量 `reserveA`、`reserveB` を使う。
* 集中流動性とビン型のプールは流動性 `liquidity` と Q64.64 の平方根価格を使う。

トークンの組の鍵 `pairKey` は二つのトークンを code point の順に並べたもので、
プールのトークンの順序によらない。
-/

namespace CrossPool

/-- 二つのトークンを code point の順に並べた組。 -/
def pairKey (a b : String) : String × String := if a ≤ b then (a, b) else (b, a)

theorem pairKey_comm (a b : String) : pairKey a b = pairKey b a := by
  unfold pairKey
  by_cases h1 : a ≤ b <;> by_cases h2 : b ≤ a <;> simp only [h1, h2, if_true, if_false]
  · exact (String.le_antisymm h1 h2) ▸ rfl
  · exact absurd (String.le_total a b) (by simp [h1, h2])

/-- プールの記録。 -/
structure PoolState where
  address : String
  kind : PoolKind
  tokenA : String
  tokenB : String
  reserveA : Int
  reserveB : Int
  liquidity : Int
  sqrtPriceX64 : Option Int
  feeRateBps : Int
  lastUpdate : Float
  decimalsA : Int
  decimalsB : Int
  tickCurrent : Option Int
  binStep : Option Int
  /-- 場所の名前。検査のない文字列なので、単独のサロゲートも入りうる。 -/
  dexName : Text.Str
  deriving Inhabited

namespace PoolState

/-- トークンの組の鍵。 -/
def key (p : PoolState) : String × String := pairKey p.tokenA p.tokenB

/-- 値付けに足りる状態を持つか。平方根価格は 0 でも欠けてもいけない。 -/
def isEnriched (p : PoolState) : Bool :=
  match p.kind with
  | .constantProduct => decide (0 < p.reserveA) && decide (0 < p.reserveB)
  | _ => decide (0 < p.liquidity) && (match p.sqrtPriceX64 with
    | some s => s != 0
    | none => false)

/-- 二つのトークンの組を扱うか。順序は問わない。 -/
def tradesPair (p : PoolState) (a b : String) : Bool := p.key == pairKey a b

/-- 時刻 `now` での経過時間。 -/
def age (p : PoolState) (now : Float) : Float := now - p.lastUpdate

/-- 時刻 `now` で経過時間が `maxAge` 以下か。 -/
def isFresh (p : PoolState) (now maxAge : Float) : Bool := p.age now ≤ maxAge

/-- 表示用の名前 `場所:アドレス`。場所の名前がなければ種類の値。文面に書く名前なので、
場所の名前のサロゲートは `U+FFFD` にする。 -/
def label (p : PoolState) : String :=
  (if p.dexName.isEmpty then p.kind.value else p.dexName.lossy) ++ ":" ++ p.address

end PoolState

end CrossPool
