import CrossPool.Binary64.Basic
import CrossPool.Data.Stamp
import CrossPool.Text.Str

/-!
# 文書の値

設定ファイルやプールの一覧を読んだ結果の木。null、真偽値、整数、浮動小数点数、
文字列、日付と時刻、バイト列、列、組、集合、写像からなる。文字列は符号位置の列
（`Text.Str`）で、単独のサロゲートも持てる。集合の項目は並べる順に持つ。写像は挿入順を保つ組の列で、同じ鍵は
一度しか現れない（`Value.insertPair` が後の値で置き換える）。鍵には文字列以外の値も使える。

自身を中に含む集まり（YAML の別名が、読み終えていない外側の節を指すとき）は木では書けない。
`shared nodes i` はそのような文書の集まりを、番号で引く集まりの表 `nodes` と、その `i` 番目
として書く。表の項目の中の集まりは `ref j`（表の `j` 番目）で、同じ番号は同じ一つの集まり
である。`Value.view` は一段だけ開き、中の `ref j` を `shared nodes j` にする。値を調べる
側は、集まりを調べる前に `view` を通す。
-/

namespace CrossPool.Data

/-- 文書の値。 -/
inductive Value where
  | null
  | bool (b : Bool)
  | int (i : Int)
  | float (x : Float)
  | str (s : Text.Str)
  | stamp (t : Stamp)
  | bytes (b : List UInt8)
  | list (xs : List Value)
  | tuple (xs : List Value)
  | set (xs : List Value)
  | map (kvs : List (Value × Value))
  | shared (nodes : List Value) (root : Nat)
  | ref (i : Nat)
  deriving Inhabited

namespace Value

/-- 鍵として比べる数。真偽値は 0 と 1。 -/
def keyNumber : Value → Option (Int ⊕ Float)
  | .bool b => some (.inl (if b then 1 else 0))
  | .int i => some (.inl i)
  | .float x => some (.inr x)
  | _ => none

/-- 整数と浮動小数点数がちょうど等しいか。 -/
def intIsFloat (i : Int) (x : Float) : Bool :=
  Binary64.truncate? x == some i && Binary64.ofInt i == x

/-- 鍵として比べる等しさ。数は型をまたいで値で比べ（`1`、`1.0`、真は同じ鍵）、
浮動小数点数どうしは IEEE の等しさで比べる（NaN はどれとも違う）。 -/
def sameKey (a b : Value) : Bool :=
  match a, b with
  | .null, .null => true
  | .str a, .str b => a == b
  | .stamp a, .stamp b => a.same b
  | .bytes a, .bytes b => a == b
  | _, _ =>
    match keyNumber a, keyNumber b with
    | some (.inl i), some (.inl j) => i == j
    | some (.inr x), some (.inr y) => x == y
    | some (.inl i), some (.inr x) => intIsFloat i x
    | some (.inr x), some (.inl i) => intIsFloat i x
    | _, _ => false

/-- 写像の組の列に鍵を入れる。既にあれば値だけを置き換え、位置は最初のまま。 -/
def insertPair (kvs : List (Value × Value)) (k v : Value) : List (Value × Value) :=
  if kvs.any (fun p => sameKey p.1 k) then
    kvs.map (fun p => if sameKey p.1 k then (p.1, v) else p)
  else kvs ++ [(k, v)]

/-- 表の集まりの中の `ref j` を、同じ表の `shared nodes j` にする。組の中も一段だけ見る。 -/
def linkIn (nodes : List Value) : Value → Value
  | .ref j => .shared nodes j
  | .tuple xs => .tuple (xs.map fun x => match x with
    | .ref j => .shared nodes j
    | x => x)
  | v => v

/-- 共有された集まりを一段開く。それ以外の値はそのまま。表にない番号は null。 -/
def view : Value → Value
  | .shared nodes i =>
    match nodes[i]? with
    | some (.list xs) => .list (xs.map (linkIn nodes))
    | some (.tuple xs) => .tuple (xs.map (linkIn nodes))
    | some (.map kvs) => .map (kvs.map fun (k, x) => (linkIn nodes k, linkIn nodes x))
    | _ => .null
  | v => v

/-- 文字列の鍵で引く。 -/
def get? (v : Value) (key : String) : Option Value :=
  match v.view with
  | .map kvs => (kvs.find? (fun p => sameKey p.1 (.str (.ofString key)))).map Prod.snd
  | _ => none

/-- 写像か。 -/
def isMap (v : Value) : Bool :=
  match v.view with
  | .map _ => true
  | _ => false

/-- 列か。 -/
def isList (v : Value) : Bool :=
  match v.view with
  | .list _ => true
  | _ => false

end Value

end CrossPool.Data
