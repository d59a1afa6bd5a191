import CrossPool.Data.Show
import CrossPool.Calc

/-!
# 設定ファイルの検証器

設定ファイルの形（`Schema`）は、欄の型と制約を宣言し、欄の検証器と項目全体の検証器を書く。
宣言した型への変換、制約の検査、誤りの集め方と報告の書き方は検証の仕組み（pydantic 2.x）が
受け持つ。ここではその仕組みを操作の組 `Validator` として引数にとる。

* 欄の検査。型ごとの変換と、宣言した制約（`gt`、`ge`、`le`、`min_length`、`Literal`）。
* 写像の検査。入力の写像を読み（`members`）、欄を引き（`required`、`withDefault`）、
  知らない鍵を誤りにする（`extras`、`extra='forbid'`）。
* 欄の検証器が投げた `ValueError` は値の誤りになる（`valueError`）。
* 誤りの報告（`render`）。

検証の仕組みに仮定する法則は `Validator.Lawful`、実行できる検証器は `Check.validator`。
-/

namespace CrossPool.Config

open Data

/-- 検査の結果。失敗は誤りの列。 -/
abbrev Checked := Except (List FieldError)

/-- 失敗なら誤りの列、成功なら空。 -/
def errorsOf {α : Type} (r : Checked α) : List FieldError :=
  match r with
  | .ok _ => []
  | .error es => es

/-- 浮動小数点数の範囲の端。値と表記。 -/
structure Bound where
  value : Float
  text : String

/-- 模型の入力の写像。入力そのもの（誤りの入力値の表記に使う）と、その組の列。 -/
structure Members where
  whole : Value
  pairs : List (Value × Value)

/-- 有限の 10 進数の比較 `a < b`。 -/
def decLt (a b : Decimal) : Bool := Decimal.cmpValue a b == .lt

/-- 検証の仕組みの操作。 -/
structure Validator where
  /-- 制約のない文字列。 -/
  str : Value → Checked Text.Str
  /-- 1 文字以上の文字列（`min_length=1`）。 -/
  nonEmptyStr : Value → Checked String
  /-- 整数。下限 `ge` と上限 `le`。 -/
  int (ge le : Option Int) : Value → Checked Int
  /-- 浮動小数点数。端 `gt`、`ge`、`le`。 -/
  float (gt ge le : Option Bound) : Value → Checked Float
  /-- 10 進数。整数の端 `gt`、`ge`、`le`。 -/
  decimal (gt ge le : Option Int) : Value → Checked Decimal
  bool : Value → Checked Bool
  /-- 選択肢のどれかに等しい文字列（`Literal`）。 -/
  literal (choices : List String) : Value → Checked String
  /-- 要素ごとに検査した、`minLength` 個以上の列。 -/
  list {α : Type} (minLength : Nat) (item : Value → Checked α) : Value → Checked (List α)
  /-- null なら `none`、それ以外は検査した値。 -/
  optional {α : Type} (f : Value → Checked α) : Value → Checked (Option α)
  /-- 名前が `model` の模型の入力の写像。 -/
  members (model : String) : Value → Checked Members
  required {α : Type} (m : Members) (name : String) (f : Value → Checked α) : Checked α
  withDefault {α : Type} (m : Members) (name : String) (f : Value → Checked α) (d : α) : Checked α
  /-- 名前が `known` にない鍵の誤り。 -/
  extras (m : Members) (known : List String) : List FieldError
  /-- 欄の検証器が投げた `ValueError` の誤り。 -/
  valueError {α : Type} (v : Value) (msg : Text.Str) : Checked α
  /-- 模型 `title` の誤りの報告。 -/
  render (title : String) (es : List FieldError) : String

end CrossPool.Config
