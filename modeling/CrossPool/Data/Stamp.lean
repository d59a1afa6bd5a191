import CrossPool.Clock

/-!
# 日付と時刻の値

文書に書かれた日付（`2024-01-01`）と時刻（`2001-12-14 21:59:43.10 -5`）。時刻は
時差を持つものと持たないものがある。

* `Stamp.parse?` — `YYYY-M-D`、続けて `T` か空白、`H:MM:SS`、小数部、時差（`Z`、`+H`、
  `-HH:MM`）。小数部は 6 桁に切り詰めるか 0 で埋めてマイクロ秒にする。
* `Stamp.check` — 年は 1 から 9999、月は 1 から 12、日はその月の日数まで、時は 0 から 23、
  分と秒は 0 から 59。時差は ±24 時間より真に小さい。時差の検査が先。
* `Stamp.text` — `2024-01-01`、`2001-12-14 21:59:43.100000-05:00`。マイクロ秒が 0 なら
  小数部を省く。
* `Stamp.repr` — `datetime.date(2024, 1, 1)`、
  `datetime.datetime(2001, 12, 14, 21, 59, 43, 100000, tzinfo=...)`。末尾の 0 の秒と
  マイクロ秒を省く。
* `Stamp.same` — 日付どうしは年月日で、時差のない時刻どうしは各欄で、時差のある時刻
  どうしは UTC の瞬間で比べる。日付と時刻、時差の有無が違う組は等しくない。
-/

namespace CrossPool.Data

/-- 時刻の部分。`offset` は UTC からの時差（分）で、`none` は時差を持たない時刻。 -/
structure StampTime where
  hour : Nat
  minute : Nat
  second : Nat
  micro : Nat
  offset : Option Int
  deriving Repr, DecidableEq

/-- 日付と、あれば時刻。 -/
structure Stamp where
  year : Nat
  month : Nat
  day : Nat
  time : Option StampTime
  deriving Repr, DecidableEq

namespace Stamp

/-! ## 読む -/

/-- 先頭の数字を `lo` 個以上 `hi` 個以下読む。 -/
def digits (lo hi : Nat) (cs : List Char) : Option (Nat × List Char) :=
  let ds := (cs.takeWhile Char.isDigit).take hi
  if ds.length < lo then none
  else some (ds.foldl (fun n c => 10 * n + (c.toNat - '0'.toNat)) 0, cs.drop ds.length)

/-- 先頭の文字が `c` なら残りを返す。 -/
def expect (c : Char) : List Char → Option (List Char)
  | d :: r => if d == c then some r else none
  | [] => none

/-- 字句の終わりか。末尾の改行一つは許す。 -/
def atEnd (cs : List Char) : Bool := cs.isEmpty || cs == ['\n']

/-- 空白（空白文字とタブ）か。 -/
def isBlank (c : Char) : Bool := c == ' ' || c == '\t'

/-- 時差（分）。`Z` は 0、符号付きなら時と、あれば分。後ろに何か残れば `none`。 -/
def offsetOf (cs : List Char) : Option Int :=
  match cs with
  | 'Z' :: r => if atEnd r then some 0 else none
  | s :: r =>
    if s == '+' || s == '-' then do
      let (h, r) ← digits 1 2 r
      let (m, r) ← match r with
        | ':' :: t => digits 2 2 t
        | t => some (0, t)
      if !atEnd r then none
      else
        let v : Int := 60 * (h : Int) + m
        some (if s == '-' then -v else v)
    else none
  | [] => none

/-- 時刻の部分を読む。 -/
def timeOf (cs : List Char) : Option StampTime := do
  let (hour, cs) ← digits 1 2 cs
  let (minute, cs) ← digits 2 2 (← expect ':' cs)
  let (second, cs) ← digits 2 2 (← expect ':' cs)
  let (fraction, cs) := match cs with
    | '.' :: r => (r.takeWhile Char.isDigit, r.dropWhile Char.isDigit)
    | r => ([], r)
  let micro := (fraction.take 6 ++ List.replicate (6 - fraction.length) '0').foldl
    (fun n c => 10 * n + (c.toNat - '0'.toNat)) 0
  let offset ← if atEnd cs then some none else (offsetOf (cs.dropWhile isBlank)).map some
  pure ⟨hour, minute, second, micro, offset⟩

/-- 日付か時刻の字句を読む。 -/
def parse? (s : String) : Option Stamp := do
  let cs := s.toList
  let (year, cs) ← digits 4 4 cs
  let (month, cs) ← digits 1 2 (← expect '-' cs)
  let (day, cs) ← digits 1 2 (← expect '-' cs)
  if atEnd cs then pure ⟨year, month, day, none⟩
  else
    let rest ← match cs with
      | c :: r =>
        if c == 'T' || c == 't' then some r
        else if isBlank c then some (r.dropWhile isBlank)
        else none
      | [] => none
    pure ⟨year, month, day, some (← timeOf rest)⟩

/-! ## 検査する -/

/-- 閏年か。 -/
def isLeap (y : Nat) : Bool := y % 4 == 0 && (y % 100 != 0 || y % 400 == 0)

/-- 月の日数。 -/
def daysInMonth (y m : Nat) : Nat :=
  if m == 2 then (if isLeap y then 29 else 28)
  else if m == 4 || m == 6 || m == 9 || m == 11 then 30
  else 31

/-- 時差の期間の表記。日と、その日の中の秒に分け、0 の欄は省く。 -/
def spanRepr (minutes : Int) : String :=
  let secs := 60 * minutes
  let days := secs.fdiv 86400
  let rest := secs - 86400 * days
  let parts := (if days != 0 then [s!"days={days}"] else []) ++
    (if rest != 0 then [s!"seconds={rest}"] else [])
  "datetime.timedelta(" ++ (if parts.isEmpty then "0" else ", ".intercalate parts) ++ ")"

/-- 範囲外の欄の誤りの文面。範囲に収まれば `none`。 -/
def check (t : Stamp) : Option String :=
  let offsetError := t.time.bind fun c => c.offset.bind fun o =>
    if -1440 < o && o < 1440 then none
    else some ("offset must be a timedelta strictly between -timedelta(hours=24) and " ++
      "timedelta(hours=24), not " ++ spanRepr o ++ ".")
  let dateError :=
    if t.year < 1 || 9999 < t.year then some s!"year {t.year} is out of range"
    else if t.month < 1 || 12 < t.month then some "month must be in 1..12"
    else if t.day < 1 || daysInMonth t.year t.month < t.day then some "day is out of range for month"
    else none
  let timeError := t.time.bind fun c =>
    if 23 < c.hour then some "hour must be in 0..23"
    else if 59 < c.minute then some "minute must be in 0..59"
    else if 59 < c.second then some "second must be in 0..59"
    else none
  offsetError <|> dateError <|> timeError

/-! ## 書く -/

/-- 時差の表記（`+09:00`）。 -/
def offsetText (o : Int) : String :=
  (if o < 0 then "-" else "+") ++ Clock.padded (o.natAbs / 60) 2 ++ ":" ++
    Clock.padded (o.natAbs % 60) 2

/-- 日付と時刻の文字列の表記。 -/
def text (t : Stamp) : String :=
  let date := Clock.padded t.year 4 ++ "-" ++ Clock.padded t.month 2 ++ "-" ++ Clock.padded t.day 2
  match t.time with
  | none => date
  | some c =>
    date ++ " " ++ Clock.padded c.hour 2 ++ ":" ++ Clock.padded c.minute 2 ++ ":" ++
      Clock.padded c.second 2 ++ (if c.micro == 0 then "" else "." ++ Clock.padded c.micro 6) ++
      (match c.offset with
       | some o => offsetText o
       | none => "")

/-- 時差の読み戻せる表記。 -/
def zoneRepr (o : Int) : String :=
  if o == 0 then "datetime.timezone.utc"
  else "datetime.timezone(" ++ spanRepr o ++ ")"

/-- 日付と時刻の読み戻せる表記。 -/
def repr (t : Stamp) : String :=
  match t.time with
  | none => s!"datetime.date({t.year}, {t.month}, {t.day})"
  | some c =>
    let fields := [t.year, t.month, t.day, c.hour, c.minute] ++
      (if c.micro != 0 then [c.second, c.micro] else if c.second != 0 then [c.second] else [])
    let zone := match c.offset with
      | some o => ", tzinfo=" ++ zoneRepr o
      | none => ""
    "datetime.datetime(" ++ ", ".intercalate (fields.map toString) ++ zone ++ ")"

/-- 型の名前。 -/
def typeName (t : Stamp) : String := if t.time.isSome then "datetime" else "date"

/-! ## 比べる -/

/-- 1970-01-01 からの日数。 -/
def dayNumber (t : Stamp) : Int :=
  let y : Int := if t.month ≤ 2 then t.year - 1 else t.year
  let era := y.fdiv 400
  let yoe := y - 400 * era
  let mp : Int := if t.month > 2 then t.month - 3 else t.month + 9
  let doy := (153 * mp + 2) / 5 + t.day - 1
  let doe := 365 * yoe + yoe / 4 - yoe / 100 + doy
  146097 * era + doe - 719468

/-- UTC の瞬間（マイクロ秒）。時差のない時刻は時差 0 とみなす。 -/
def instant (t : Stamp) : Int :=
  match t.time with
  | none => 86400000000 * t.dayNumber
  | some c =>
    let secs := 86400 * t.dayNumber + 3600 * c.hour + 60 * c.minute + c.second -
      60 * c.offset.getD 0
    1000000 * secs + c.micro

/-- 鍵として等しいか。 -/
def same (a b : Stamp) : Bool :=
  match a.time, b.time with
  | none, none => a.year == b.year && a.month == b.month && a.day == b.day
  | some x, some y =>
    match x.offset, y.offset with
    | none, none => a == b
    | some _, some _ => a.instant == b.instant
    | _, _ => false
  | _, _ => false

end Stamp

end CrossPool.Data
