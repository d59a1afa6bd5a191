import CrossPool.Pool.State
import CrossPool.Data.Hash

/-!
# プールの記録の保管所

アドレスごとに最新のプールの記録を一つ持つ。記録は更新のたびに丸ごと置き換える。

## 区画

記録は区画に分けて持つ。アドレス `a` の区画は `hash a % 区画の数` 番目で、区画の数は
1 以上でなければならない。区画の中はアドレスから記録への辞書で、最初に書いた順に並ぶ。
全体の一覧（`snapshot`）は区画を順に並べたものになる。

## トークンの組の索引

索引はトークンの組の鍵からアドレスの集合への辞書で、`upsert` と `removeWhere` が
書き換える。

* `upsert` は、前の記録がないか、前の記録と組の鍵が違うときだけ索引を直す。
  前の記録があれば、その鍵の集合からアドレスを除いてから新しい鍵の集合に加える。
* `removeWhere` は区画から記録を除いたあとで、除いた記録ごとに、そのアドレスが
  もう保管所にないことを確かめてから索引から除く。
* 集合が空になった鍵は索引から消す（`unindex`）。

`poolsForPair` は索引の集合をアドレスの昇順に並べ、区画から記録を引き直して、
組を扱うことを確かめてから返す。`pairCount` は索引の鍵の数である。
-/

namespace CrossPool

/-- 索引。トークンの組の鍵から、その組を扱うアドレスの集合へ。集合は重複のない列。 -/
abbrev PairIndex := List ((String × String) × List String)

/-- プールの記録の保管所。 -/
structure PoolCache where
  /-- アドレスの hash。区画は `hash a % 区画の数` で選ぶ。 -/
  hash : String → Int
  shards : List (List PoolState)
  index : PairIndex
  deriving Inhabited

namespace PoolCache

/-! ## 区画の中の辞書 -/

/-- 区画の中のアドレスの記録。 -/
def lookup (d : List PoolState) (a : String) : Option PoolState := d.find? (·.address == a)

/-- 区画に記録を書く。同じアドレスがあればその位置で置き換え、なければ末尾に加える。 -/
def store (d : List PoolState) (p : PoolState) : List PoolState :=
  if d.any (·.address == p.address) then d.map fun q => if q.address == p.address then p else q
  else d ++ [p]

/-! ## 索引 -/

/-- 鍵の集合。鍵がなければ空。 -/
def members (idx : PairIndex) (k : String × String) : List String :=
  ((idx.find? (·.1 == k)).map (·.2)).getD []

/-- 鍵の集合にアドレスを加える。鍵がなければ新しい集合を作る。 -/
def insertAt (idx : PairIndex) (k : String × String) (a : String) : PairIndex :=
  if idx.any (·.1 == k) then
    idx.map fun e => if e.1 == k then (e.1, if e.2.contains a then e.2 else e.2 ++ [a]) else e
  else idx ++ [(k, [a])]

/-- 鍵の集合からアドレスを除く。集合が空になれば鍵ごと消す。 -/
def unindex (idx : PairIndex) (k : String × String) (a : String) : PairIndex :=
  match idx.find? (·.1 == k) with
  | none => idx
  | some (_, addresses) =>
    let rest := addresses.erase a
    if rest.isEmpty then idx.filter (·.1 != k)
    else idx.map fun e => if e.1 == k then (e.1, rest) else e

/-! ## 保管所 -/

/-- Python の文字列の hash（`PYTHONHASHSEED=0`）。符号付き 64 bit の値。 -/
def strHash (a : String) : Int :=
  let h := (Data.Hash.ofBytes (Data.Hash.textBytes (.ofString a))).toNat
  if h < Nat.pow 2 63 then (h : Int) else (h : Int) - Int.pow 2 64

/-- 空の保管所。区画の数が 1 未満なら値の誤り。 -/
def createWith (hash : String → Int) (numShards : Int) : Except Fault PoolCache :=
  if numShards < 1 then .error (.invalidValue s!"num_shards must be >= 1: {numShards}")
  else .ok ⟨hash, List.replicate numShards.toNat [], []⟩

/-- 文字列の hash で区画を選ぶ空の保管所。 -/
def create (numShards : Int) : Except Fault PoolCache := createWith strHash numShards

/-- アドレスの区画の番号。 -/
def slot (c : PoolCache) (a : String) : Nat := (c.hash a % (c.shards.length : Int)).toNat

/-- アドレスの区画。 -/
def shardOf (c : PoolCache) (a : String) : List PoolState := c.shards.getD (c.slot a) []

/-- アドレスの記録。 -/
def get? (c : PoolCache) (a : String) : Option PoolState := lookup (c.shardOf a) a

/-- アドレスの記録があるか。 -/
def contains (c : PoolCache) (a : String) : Bool := (c.get? a).isSome

/-- 記録を入れる。同じアドレスの記録は置き換え、その前の記録を返す。 -/
def upsert (c : PoolCache) (p : PoolState) : PoolCache × Option PoolState :=
  let previous := c.get? p.address
  let shards := c.shards.modify (c.slot p.address) (store · p)
  let index := match previous with
    | none => insertAt c.index p.key p.address
    | some old =>
      if old.key == p.key then c.index
      else insertAt (unindex c.index old.key old.address) p.key p.address
  ({ c with shards, index }, previous)

/-- すべての記録。区画を順に並べる。 -/
def snapshot (c : PoolCache) : List PoolState := c.shards.flatten

/-- 記録の数。 -/
def size (c : PoolCache) : Nat := c.shards.foldl (fun n d => n + d.length) 0

/-- 索引にあるトークンの組の数。 -/
def pairCount (c : PoolCache) : Nat := c.index.length

/-- 文字列の昇順の整列。 -/
def sortStrings (xs : List String) : List String := xs.mergeSort (fun a b => decide (a ≤ b))

/-- 二つのトークンの組を扱う記録。アドレスの昇順。 -/
def poolsForPair (c : PoolCache) (a b : String) : List PoolState :=
  (sortStrings (members c.index (pairKey a b))).filterMap fun address =>
    -- 索引を読んだあとで記録が置き換わっていれば除く
    (c.get? address).filter (·.tradesPair a b)

/-- 条件に合う記録をすべて取り除き、取り除いた記録を区画の順に返す。 -/
def removeWhere (c : PoolCache) (pred : PoolState → Bool) : PoolCache × List PoolState :=
  let removed := (c.shards.map (List.filter pred)).flatten
  let kept := { c with shards := c.shards.map (List.filter fun p => !pred p) }
  let index := removed.foldl (fun idx p =>
    if (kept.get? p.address).isNone then unindex idx p.key p.address else idx) c.index
  ({ kept with index }, removed)

end PoolCache

end CrossPool
