import CrossPool.Decimal.Basic
import CrossPool.Text.Str

/-!
# 失敗

走査と設定の読み込みで起こる失敗の種類。プールや取引量の単位で起きる失敗（流動性
不足、整数の幅の超過、古い記録）と、全体を止める設定の不備と、数値計算の例外を
区別する。
-/

namespace CrossPool

/-- 設定の検証で誤りの位置を表す一歩。写像の鍵か列の添字。 -/
inductive LocStep where
  | field (name : String)
  | index (i : Int)
  deriving Repr, DecidableEq

/-- 設定の検証で見つかった一つの誤り。`kind` は誤りの種類の名前、`msg` はその文面。
文面に入る入力の文字列は `Text.Str.lossyUtf8` を通すので、サロゲートを含まない。 -/
structure FieldError where
  loc : List LocStep
  kind : String
  msg : String
  /-- 誤りの報告に添える入力値の表記。 -/
  input : String
  /-- 入力値の型の名前。 -/
  inputType : String
  deriving Repr

/-- 失敗。 -/
inductive Fault where
  /-- 10 進演算の例外条件。 -/
  | signal (s : Decimal.Signal)
  /-- 整数の幅を超えた。`operation` は検査の名前。 -/
  | overflow (operation : String) (message : String)
  /-- プールが値付けできない。 -/
  | insufficientLiquidity (pool : String) (message : String)
  /-- プールの記録が古い。 -/
  | stale (pool : String) (age maxAge : Float) (message : String)
  /-- 設定の不備。`problems` は設定値の検査の結果、`errors` は文書の検証の結果。 -/
  | invalidConfig (message : String) (problems : Option (List String))
      (errors : Option (List FieldError))
  /-- 値が不正。 -/
  | invalidValue (message : String)
  /-- 浮動小数点数の 0 除算。 -/
  | zeroDivision (message : String)
  /-- 数が表せる範囲を超えた。 -/
  | outOfRange (message : String)
  /-- 時刻の変換が下の層で失敗した。 -/
  | system (message : String)
  /-- そのほかの例外。`kind` は例外の種類の名前。 -/
  | other (kind : String) (message : String)
  deriving Repr

namespace Fault

/-- 失敗の文面。数値計算の例外条件には文面がない。 -/
def message : Fault → String
  | .signal _ => ""
  | .overflow _ m => m
  | .insufficientLiquidity _ m => m
  | .stale _ _ _ m => m
  | .invalidConfig m _ _ => m
  | .invalidValue m => m
  | .zeroDivision m => m
  | .outOfRange m => m
  | .system m => m
  | .other _ m => m

/-- 文面だけの設定の不備。 -/
def config (message : String) : Fault := .invalidConfig message none none

/-- 値の誤りか。 -/
def isValueError : Fault → Bool
  | .invalidValue _ => true
  | _ => false

end Fault

/-- 10 進で 4300 桁を超える整数か。そのような整数は文字列にできない。 -/
def tooManyDigits (i : Int) : Bool := Nat.pow 10 4300 ≤ i.natAbs

/-- 整数を文字列にできないときの文面。 -/
def digitLimitMessage : String :=
  "Exceeds the limit (4300 digits) for integer string conversion; " ++
    "use sys.set_int_max_str_digits() to increase the limit"

/-- 文面に書く整数の 10 進表記。4300 桁を超える整数は書けず、値の誤りになる。 -/
def intText (i : Int) : Except Fault String :=
  if tooManyDigits i then .error (.invalidValue digitLimitMessage) else .ok (toString i)

/-- 10 進演算の結果を失敗の型に移す。 -/
def liftSignal {α : Type} (r : Except Decimal.Signal α) : Except Fault α :=
  r.mapError Fault.signal

end CrossPool
