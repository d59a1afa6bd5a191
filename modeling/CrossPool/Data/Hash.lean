import CrossPool.Data.Value

/-!
# 集合の項目の並び

集合は項目を hash の表に入れ、表の枠の順に並べる。並びは表の形で決まるので、hash と
表をそのまま書く。

## hash

どれも 64 bit の語で、-1 になれば -2 にする。

* 文字列とバイト列 — 鍵が 0 の SipHash-1-3。文字列は、すべての文字が `U+00FF` 以下なら
  1 文字 1 バイト、`U+FFFF` 以下なら 2 バイト、それ以外は 4 バイト（little endian）の
  列を hash する。空なら 0。
* 整数 — 絶対値を `2^61 - 1` で割った余りに符号を付けたもの。真偽値は 0 と 1。
* 浮動小数点数 `m * 2^q` — 同じ法での `m * 2^q` の余りに符号を付けたもの。`2^61` は
  法で 1 なので `2^q` は `2^(q mod 61)` でよい。整数値なら整数の hash と同じになる。
  無限大は ±314159。
* 日付 — 年（2 バイト、big endian）、月、日のバイト列の hash。時差のない時刻は、さらに
  時、分、秒、マイクロ秒（3 バイト）を足す。時差のある時刻は、UTC にした期間の
  （日、秒、マイクロ秒）の組を、xxHash の形の組の hash にする。

## 表

大きさは 2 の冪で、最初は 8。項目の枠は `hash & mask` から探す。埋まっていれば
（枠が表の端から 9 枠以上離れているときは）続く 9 枠を見て、それも埋まっていれば
`perturb`（最初は hash）を 5 bit 右に送り、`(i * 5 + 1 + perturb) & mask` へ移る。
`perturb` が 0 になったあとの移り方は表のすべての枠を一巡するので、空いた枠があれば
表の大きさと 64 を足した回数のうちに見つかる。

埋まった枠の数の 5 倍が `mask` の 3 倍以上になれば、使っている数の 4 倍（5 万を超えれば
2 倍）より大きい最小の大きさに広げ、古い表の枠の順に入れ直す。写像の鍵をまとめて入れる
ときは、先に（今の数と入れる数の和の 5 倍が `mask` の 3 倍以上なら）その和の 2 倍より
大きい大きさへ広げておく。項目はどれも互いに等しくないものとする。
-/

namespace CrossPool.Data.Hash

/-! ## SipHash-1-3 -/

/-- 64 bit の左回転。 -/
def rotl (x s : UInt64) : UInt64 := (x <<< s) ||| (x >>> (64 - s))

/-- SipHash の四つの状態語。 -/
structure Sip where
  v0 : UInt64
  v1 : UInt64
  v2 : UInt64
  v3 : UInt64

/-- 一巡り（半巡りを二つ）。 -/
def Sip.round (s : Sip) : Sip :=
  let v0 := s.v0 + s.v1
  let v2 := s.v2 + s.v3
  let v1 := rotl s.v1 13 ^^^ v0
  let v3 := rotl s.v3 16 ^^^ v2
  let v0 := rotl v0 32
  let v2 := v2 + v1
  let v0 := v0 + v3
  let v1 := rotl v1 17 ^^^ v2
  let v3 := rotl v3 21 ^^^ v0
  let v2 := rotl v2 32
  ⟨v0, v1, v2, v3⟩

/-- 語を一つ吸い込む。 -/
def Sip.absorb (s : Sip) (m : UInt64) : Sip :=
  let t := Sip.round { s with v3 := s.v3 ^^^ m }
  { t with v0 := t.v0 ^^^ m }

/-- 8 個までのバイトを little endian の語にする。 -/
def word (bs : List UInt8) : UInt64 :=
  bs.foldr (fun b acc => (acc <<< 8) ||| b.toUInt64) 0

/-- 8 バイトずつ吸い込み、残りの 8 バイト未満を返す。 -/
def absorbBlocks : List UInt8 → Sip → Sip × List UInt8
  | b0 :: b1 :: b2 :: b3 :: b4 :: b5 :: b6 :: b7 :: rest, s =>
    absorbBlocks rest (s.absorb (word [b0, b1, b2, b3, b4, b5, b6, b7]))
  | bs, s => (s, bs)

/-- 鍵が 0 の SipHash-1-3。 -/
def sip13 (bs : List UInt8) : UInt64 :=
  let s : Sip := ⟨0x736f6d6570736575, 0x646f72616e646f6d, 0x6c7967656e657261, 0x7465646279746573⟩
  let (s, tail) := absorbBlocks bs s
  let s := s.absorb ((UInt64.ofNat bs.length <<< 56) ||| word tail)
  let s := { s with v2 := s.v2 ^^^ 0xff }
  let s := s.round.round.round
  (s.v0 ^^^ s.v1) ^^^ (s.v2 ^^^ s.v3)

/-! ## 値の hash -/

/-- -1 を -2 にする。 -/
def avoidMinusOne (h : UInt64) : UInt64 := if h == 0 - 1 then 0 - 2 else h

/-- バイト列の hash。 -/
def ofBytes (bs : List UInt8) : UInt64 := if bs.isEmpty then 0 else avoidMinusOne (sip13 bs)

/-- 文字列を、最も大きい符号位置で決まる幅（1、2、4 バイト）のバイト列にする。サロゲートも
一つの符号位置として数える。 -/
def textBytes (s : Text.Str) : List UInt8 :=
  let ns := s.codes
  let width := if ns.all (· < 0x100) then 1 else if ns.all (· < 0x10000) then 2 else 4
  ns.flatMap fun n => (List.range width).map fun i => UInt8.ofNat (n / Nat.pow 256 i % 256)

/-- 数の hash の法 `2^61 - 1`。 -/
def modulus : Nat := Nat.pow 2 61 - 1

/-- 余りに符号を付けた hash。 -/
def ofResidue (neg : Bool) (r : Nat) : UInt64 :=
  let w := UInt64.ofNat r
  avoidMinusOne (if neg then 0 - w else w)

/-- 整数の hash。 -/
def ofInt (i : Int) : UInt64 := ofResidue (i < 0) (i.natAbs % modulus)

/-- 浮動小数点数の hash。NaN は 0 とする。 -/
def ofFloat (x : Float) : UInt64 :=
  match Binary64.decode x with
  | (neg, .finite m q) => ofResidue neg (m % modulus * Nat.pow 2 (q % 61).toNat % modulus)
  | (neg, .infinite) => if neg then 0 - 314159 else 314159
  | (_, .nan) => 0

/-- 語の組の hash。 -/
def ofTuple (lanes : List UInt64) : UInt64 :=
  let p1 : UInt64 := 11400714785074694791
  let p2 : UInt64 := 14029467366897019727
  let p5 : UInt64 := 2870177450012600261
  let acc := lanes.foldl (fun acc lane => rotl (acc + lane * p2) 31 * p1) p5
  let acc := acc + (UInt64.ofNat lanes.length ^^^ (p5 ^^^ 3527539))
  if acc == 0 - 1 then 1546275796 else acc

/-- 日付と時刻の hash。 -/
def ofStamp (t : Stamp) : UInt64 :=
  let date : List Nat := [t.year / 256, t.year % 256, t.month, t.day]
  match t.time with
  | none => ofBytes (date.map UInt8.ofNat)
  | some c =>
    match c.offset with
    | none =>
      ofBytes ((date ++ [c.hour, c.minute, c.second, c.micro / 65536, c.micro / 256 % 256,
        c.micro % 256]).map UInt8.ofNat)
    | some o =>
      let total : Int := 1000000 * (86400 * (t.dayNumber + 719163) + 3600 * c.hour +
        60 * c.minute + c.second - 60 * o) + c.micro
      let days := total.fdiv 86400000000
      let rest := total - 86400000000 * days
      ofTuple [ofInt days, ofInt (rest / 1000000), ofInt (rest % 1000000)]

/-- 集合の項目になる値の hash。集まりと null は 0 とする。 -/
def ofValue : Value → UInt64
  | .bool b => if b then 1 else 0
  | .int i => ofInt i
  | .float x => ofFloat x
  | .str s => ofBytes (textBytes s)
  | .bytes b => ofBytes b
  | .stamp t => ofStamp t
  | _ => 0

/-! ## 表 -/

/-- 集合の表。枠ごとに、空か、hash と項目。 -/
abbrev Slots := List (Option (UInt64 × Value))

/-- 枠が空いているか。 -/
def Slots.free (slots : Slots) (j : Nat) : Bool := (slots.getD j none).isNone

/-- hash の枠を探す。`i` は今の位置。 -/
def probe (slots : Slots) (mask : Nat) : Nat → Nat → UInt64 → Nat
  | 0, i, _ => i
  | fuel + 1, i, perturb =>
    if slots.free i then i
    else
      match (List.range 9).find? (fun j => i + 9 ≤ mask && slots.free (i + j + 1)) with
      | some j => i + j + 1
      | none =>
        let perturb := perturb >>> 5
        probe slots mask fuel ((i * 5 + 1 + perturb.toNat) % (mask + 1)) perturb

/-- 項目を空いた枠に入れる。 -/
def place (slots : Slots) (h : UInt64) (x : Value) : Slots :=
  let i := probe slots (slots.length - 1) (slots.length + 64) (h.toNat % slots.length) h
  slots.set i (some (h, x))

/-- `minused` より大きい 2 の冪（8 以上）。 -/
def sizeAbove (minused : Nat) : Nat → Nat → Nat
  | 0, s => s
  | fuel + 1, s => if s ≤ minused then sizeAbove minused fuel (2 * s) else s

/-- 表を広げて入れ直す。 -/
def resize (slots : Slots) (minused : Nat) : Slots :=
  let fresh : Slots := List.replicate (sizeAbove minused 64 8) none
  slots.foldl (fun acc e => match e with
    | some (h, x) => place acc h x
    | none => acc) fresh

/-- 埋まった枠の数。 -/
def Slots.used (slots : Slots) : Nat := (slots.filter Option.isSome).length

/-- 項目を一つ足す。埋まりすぎれば広げる。 -/
def add (slots : Slots) (x : Value) : Slots :=
  let slots := place slots (ofValue x) x
  let used := slots.used
  if 3 * (slots.length - 1) ≤ 5 * used then
    resize slots (if 50000 < used then 2 * used else 4 * used)
  else slots

/-- 互いに等しくない項目を集合に入れたときの並び。 -/
def setOrder (xs : List Value) : List Value :=
  let empty : Slots := List.replicate 8 none
  let start := if 3 * 7 ≤ 5 * xs.length then resize empty (2 * xs.length) else empty
  (xs.foldl add start).filterMap (·.map Prod.snd)

end CrossPool.Data.Hash
