import CrossPool.Data.Show

/-!
# UTF-8 の読み取りと、読めない並びの報せ方

byte の列を UTF-8 として読む。読めなければ、最初の読めない並びの位置と理由を返す。

## 読めない並び

先頭の byte で並びの長さが決まる。

* `0x80`–`0xC1` と `0xF5` 以上は並びの先頭にならない（`invalidStart`、一 byte）。
* 続きの byte は `0x80`–`0xBF`。ただし三 byte の並びで先頭が `0xE0` なら二 byte 目は
  `0xA0` 以上（短い並びで書ける値の禁止）、`0xED` なら `0xA0` 未満（サロゲートの禁止）。
  四 byte の並びで先頭が `0xF0` なら `0x90` 以上、`0xF4` なら `0x90` 未満（`U+10FFFF` を
  超える値の禁止）。`k` byte 目が続きでなければ、その前までの `k - 1` byte が読めない
  並び（`invalidContinuation`）。
* 並びの途中で列が終われば、先頭から終わりまでが読めない並び（`unexpectedEnd`）。
  終わるまでの byte は続きとして正しいものに限る。

## 停止性

`decodeFrom` は列の構造で帰納する。一歩で一つ以上の byte を読む。
-/

namespace CrossPool.Text

/-- UTF-8 として読めない理由。 -/
inductive Utf8Fault where
  | invalidStart
  | invalidContinuation
  | unexpectedEnd
  deriving DecidableEq, Repr

/-- 理由の文。 -/
def Utf8Fault.text : Utf8Fault → String
  | .invalidStart => "invalid start byte"
  | .invalidContinuation => "invalid continuation byte"
  | .unexpectedEnd => "unexpected end of data"

/-- 読めない並び。列の中の位置 `start` から `stop` の手前まで。 -/
structure Utf8Error where
  start : Nat
  stop : Nat
  fault : Utf8Fault
  deriving DecidableEq, Repr

/-- 続きの byte（`0x80`–`0xBF`）か。 -/
def isContinuation (b : UInt8) : Bool := 0x80 ≤ b && b < 0xC0

/-- 続きの byte の下位 6 bit。 -/
def low6 (b : UInt8) : Nat := b.toNat - 0x80

/-- 位置 `pos` から読む。 -/
def decodeFrom (pos : Nat) : List UInt8 → Except Utf8Error (List Char)
  | [] => .ok []
  | b :: rest =>
    let n := b.toNat
    let fail (len : Nat) (f : Utf8Fault) : Except Utf8Error (List Char) := .error ⟨pos, pos + len, f⟩
    if n < 0x80 then (Char.ofNat n :: ·) <$> decodeFrom (pos + 1) rest
    else if n < 0xC2 then fail 1 .invalidStart
    else if n < 0xE0 then
      match rest with
      | [] => fail 1 .unexpectedEnd
      | c :: r =>
        if isContinuation c then
          (Char.ofNat ((n - 0xC0) * 64 + low6 c) :: ·) <$> decodeFrom (pos + 2) r
        else fail 1 .invalidContinuation
    else if n < 0xF0 then
      let second (c : UInt8) : Bool :=
        isContinuation c && !(n == 0xE0 && c < 0xA0) && !(n == 0xED && 0xA0 ≤ c)
      match rest with
      | [] => fail 1 .unexpectedEnd
      | [c] => if second c then fail 2 .unexpectedEnd else fail 1 .invalidContinuation
      | c :: d :: r =>
        if !second c then fail 1 .invalidContinuation
        else if !isContinuation d then fail 2 .invalidContinuation
        else
          (Char.ofNat ((n - 0xE0) * 4096 + low6 c * 64 + low6 d) :: ·) <$> decodeFrom (pos + 3) r
    else if n < 0xF5 then
      let second (c : UInt8) : Bool :=
        isContinuation c && !(n == 0xF0 && c < 0x90) && !(n == 0xF4 && 0x90 ≤ c)
      match rest with
      | [] => fail 1 .unexpectedEnd
      | [c] => if second c then fail 2 .unexpectedEnd else fail 1 .invalidContinuation
      | [c, d] =>
        if !second c then fail 1 .invalidContinuation
        else if !isContinuation d then fail 2 .invalidContinuation
        else fail 3 .unexpectedEnd
      | c :: d :: e :: r =>
        if !second c then fail 1 .invalidContinuation
        else if !isContinuation d then fail 2 .invalidContinuation
        else if !isContinuation e then fail 3 .invalidContinuation
        else
          (Char.ofNat ((n - 0xF0) * 262144 + low6 c * 4096 + low6 d * 64 + low6 e) :: ·) <$>
            decodeFrom (pos + 4) r
    else fail 1 .invalidStart

/-- byte の列を UTF-8 として読む。 -/
def decodeUtf8 (bs : List UInt8) : Except Utf8Error String :=
  String.ofList <$> decodeFrom 0 bs

/-- 読めない並びの文。一 byte なら `byte 0x.. in position n`、それより長ければ
`bytes in position a-b`（`b` は最後の byte の位置）。 -/
def Utf8Error.message (e : Utf8Error) (bs : List UInt8) : String :=
  let place :=
    if e.stop == e.start + 1 then
      "byte 0x" ++ Data.hexDigits (bs.getD e.start 0).toNat 2 ++ " in position " ++ toString e.start
    else "bytes in position " ++ toString e.start ++ "-" ++ toString (e.stop - 1)
  "'utf-8' codec can't decode " ++ place ++ ": " ++ e.fault.text

/-- ASCII の byte は一文字になり、残りは次の位置から読む。 -/
theorem decodeFrom_ascii (pos : Nat) (b : UInt8) (rest : List UInt8) (h : b.toNat < 0x80) :
    decodeFrom pos (b :: rest) = (Char.ofNat b.toNat :: ·) <$> decodeFrom (pos + 1) rest := by
  rw [decodeFrom.eq_def]
  simp [h]

end CrossPool.Text
