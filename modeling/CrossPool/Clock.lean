import CrossPool.Number

/-!
# 時刻の表記

Unix 時刻（1970-01-01T00:00:00Z からの秒）を UTC の暦の表記にする。

* `civilOfDays` — 1970-01-01 からの日数を先発グレゴリオ暦の年月日にする。400 年の周期
  （146097 日）で割り、周期の中の年を 3 月始まりで数える。
* `isoText` — `2023-11-14T22:13:20.500000+00:00`。マイクロ秒が 0 なら省く。
  秒の端数はマイクロ秒に偶数丸めし、繰り上がりと負の端数は秒に繰り入れる。
* `clockText` — ログに添える `HH:MM:SS`。秒は切り下げる。

時刻の秒は 64 bit 符号付き整数に収まらなければならず、1900 年からの年数は 32 bit 符号付き
整数に、年は 1 から 9999 まででなければならない。
-/

namespace CrossPool.Clock

/-- 1970-01-01 からの日数を (年, 月, 日) にする。 -/
def civilOfDays (days : Int) : Int × Nat × Nat :=
  let z := days + 719468
  let era := z / 146097
  let doe := z - era * 146097
  let yoe := (doe - doe / 1460 + doe / 36524 - doe / 146096) / 365
  let doy := doe - (365 * yoe + yoe / 4 - yoe / 100)
  let mp := (5 * doy + 2) / 153
  let d := doy - (153 * mp + 2) / 5 + 1
  let m := if mp < 10 then mp + 3 else mp - 9
  let y := yoe + era * 400
  ((if m ≤ 2 then y + 1 else y), m.toNat, d.toNat)

/-- `width` 桁に 0 で埋めた 10 進表記。 -/
def padded (n : Nat) (width : Nat) : String :=
  let s := toString n
  String.ofList (List.replicate (width - s.length) '0') ++ s

/-- 64 bit 符号付き整数の範囲。 -/
def timeMin : Int := -(Int.pow 2 63)

/-- 64 bit 符号付き整数の範囲の上端。 -/
def timeMax : Int := Int.pow 2 63 - 1

/-- 範囲外の時刻の失敗。 -/
def outOfRange : Fault := .outOfRange "timestamp out of range for platform time_t"

/-- 時刻を秒とマイクロ秒に分ける。浮動小数点数の端数はマイクロ秒に偶数丸めする。 -/
def splitMicros : Number → Except Fault (Int × Nat)
  | .int i => if i < timeMin || timeMax < i then .error outOfRange else .ok (i, 0)
  | .float t =>
    if Binary64.isNan t then .error (.invalidValue "Invalid value NaN (not a number)")
    else
      match Binary64.truncate? t with
      | none => .error outOfRange
      | some ip =>
        let us := (Binary64.roundEven? ((t - Binary64.ofInt ip) * 1000000.0)).getD 0
        let (sec, us) :=
          if 1000000 ≤ us then (ip + 1, us - 1000000)
          else if us < 0 then (ip - 1, us + 1000000)
          else (ip, us)
        if sec < timeMin || Int.pow 2 63 < sec then .error outOfRange else .ok (sec, us.toNat)

/-- 32 bit 符号付き整数として桁あふれさせた値。 -/
def wrap32 (i : Int) : Int := (i + Int.pow 2 31) % Int.pow 2 32 - Int.pow 2 31

/-- 秒を暦の (年, 月, 日, 時, 分, 秒) にする。年の範囲を検査する。1900 年からの年数は
32 bit 符号付き整数に収まらなければならない。範囲外の年の文面の年は、その年数に 1900 を
32 bit で足したもので、年数が上端に近ければ負に回り込む。 -/
def civil (sec : Int) : Except Fault (Int × Nat × Nat × Nat × Nat × Nat) :=
  let (y, m, d) := civilOfDays (sec / 86400)
  let s := (sec % 86400).toNat
  if y - 1900 < -(Int.pow 2 31) || Int.pow 2 31 - 1 < y - 1900 then
    .error (.system "[Errno 75] Value too large for defined data type")
  else if y < 1 || 9999 < y then .error (.invalidValue s!"year {wrap32 y} is out of range")
  else .ok (y, m, d, s / 3600, s / 60 % 60, s % 60)

/-- UTC の ISO 8601 表記。 -/
def isoText (ts : Number) : Except Fault String := do
  let (sec, us) ← splitMicros ts
  let (y, mo, d, h, mi, s) ← civil sec
  let date := padded y.toNat 4 ++ "-" ++ padded mo 2 ++ "-" ++ padded d 2
  let time := padded h 2 ++ ":" ++ padded mi 2 ++ ":" ++ padded s 2
  let frac := if us = 0 then "" else "." ++ padded us 6
  return date ++ "T" ++ time ++ frac ++ "+00:00"

/-- ログに添える UTC の `HH:MM:SS`。秒は切り下げる。 -/
def clockText (t : Float) : String :=
  let sec := (Binary64.truncate? t).getD 0
  let sec := if Binary64.ofInt sec > t then sec - 1 else sec
  let s := (sec % 86400).toNat
  padded (s / 3600) 2 ++ ":" ++ padded (s / 60 % 60) 2 ++ ":" ++ padded (s % 60) 2

end CrossPool.Clock
