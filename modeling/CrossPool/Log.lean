import CrossPool.Clock

/-!
# ログ

走査の途中で起きたこと（プールの読み飛ばし、取引量の読み飛ばし、走査の中断）は
重要度つきの記録として残す。記録は重要度が設定の閾値以上のときだけ
`HH:MM:SS | LEVEL   | message` の形で出力される。

重要度の名前は大文字小文字を区別せずに読み、`WARN` は `WARNING`、`FATAL` は
`CRITICAL` と同じ重要度である。
-/

namespace CrossPool.Log

/-- 重要度。 -/
inductive Level where
  | notset
  | debug
  | info
  | warning
  | error
  | critical
  deriving Repr, DecidableEq, Inhabited

namespace Level

/-- 重要度の数値。大きいほど重要。 -/
def rank : Level → Nat
  | .notset => 0
  | .debug => 10
  | .info => 20
  | .warning => 30
  | .error => 40
  | .critical => 50

/-- 重要度の正式な名前。 -/
def name : Level → String
  | .notset => "NOTSET"
  | .debug => "DEBUG"
  | .info => "INFO"
  | .warning => "WARNING"
  | .error => "ERROR"
  | .critical => "CRITICAL"

/-- 大文字にした名前から重要度を引く。 -/
def byName : List (String × Level) :=
  [("CRITICAL", .critical), ("FATAL", .critical), ("ERROR", .error), ("WARN", .warning),
   ("WARNING", .warning), ("INFO", .info), ("DEBUG", .debug), ("NOTSET", .notset)]

/-- 一文字の大文字。大文字にすると ASCII になる文字も含む。 -/
def upperChar (c : Char) : Char :=
  if c.toNat == 0x131 then 'I' else if c.toNat == 0x17F then 'S' else c.toUpper

/-- 名前から重要度を読む。 -/
def parse? (text : String) : Option Level :=
  let up := String.ofList (text.toList.map upperChar)
  (byName.find? (fun p => p.1 == up)).map Prod.snd

/-- 重要度の名前を読む。知らない名前は値の誤り。 -/
def ofName (text : String) : Except Fault Level :=
  match parse? text with
  | some l => .ok l
  | none => .error (.invalidValue s!"Unknown log level: {text}")

end Level

/-- ログの記録。 -/
structure Record where
  level : Level
  message : String
  deriving Repr

/-- 閾値 `threshold` で出力される記録か。 -/
def Record.shown (r : Record) (threshold : Level) : Bool := threshold.rank ≤ r.level.rank

/-- 記録の一行。時刻は `t` の UTC の時分秒、重要度の名前は 7 文字に左寄せ。 -/
def Record.line (r : Record) (t : Float) : String :=
  let n := r.level.name
  Clock.clockText t ++ " | " ++ n ++ String.ofList (List.replicate (7 - n.length) ' ') ++ " | " ++
    r.message

/-- 記録の列を閾値で選び、一行ずつ改行で終えて書く。 -/
def render (records : List Record) (threshold : Level) (t : Float) : String :=
  String.join ((records.filter (·.shown threshold)).map fun r => r.line t ++ "\n")

end CrossPool.Log
