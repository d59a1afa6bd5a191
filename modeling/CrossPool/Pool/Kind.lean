import CrossPool.Text.Blank
import CrossPool.Fault

/-!
# プールの曲線の種類

定積（constant product）、集中流動性（concentrated liquidity）、ビン型の動的流動性
（dynamic liquidity）の三つ。種類によって価格と価格影響の式が決まる。

`PoolKind.parse?` は前後の空白を削り英字を小文字にしてから、略称（`cpmm`、`amm`、
`clmm`、`whirlpool`、`dlmm`）、値の綴り（`constant_product` など）、名前の綴り
（`CONSTANT_PRODUCT` の小文字）を受け付ける。
-/

namespace CrossPool

/-- プールの曲線の種類。 -/
inductive PoolKind where
  | constantProduct
  | concentrated
  | dynamic
  deriving Repr, DecidableEq, Inhabited

namespace PoolKind

/-- 値の綴り。 -/
def value : PoolKind → String
  | .constantProduct => "constant_product"
  | .concentrated => "concentrated_liquidity"
  | .dynamic => "dynamic_liquidity"

/-- 名前の綴り。 -/
def name : PoolKind → String
  | .constantProduct => "CONSTANT_PRODUCT"
  | .concentrated => "CONCENTRATED_LIQUIDITY"
  | .dynamic => "DYNAMIC_LIQUIDITY"

/-- その種類の典型的な手数料（bps）。 -/
def typicalFeeBps : PoolKind → Int
  | .dynamic => 20
  | _ => 25

/-- すべての種類。 -/
def all : List PoolKind := [.constantProduct, .concentrated, .dynamic]

/-- 略称。 -/
def aliases : List (String × PoolKind) :=
  [("cpmm", .constantProduct), ("amm", .constantProduct), ("clmm", .concentrated),
   ("whirlpool", .concentrated), ("dlmm", .dynamic)]

/-- 文字列を種類として読む。 -/
def parse? (text : String) : Option PoolKind :=
  let key := (Text.trimBlank text).toLower
  match aliases.find? (·.1 == key) with
  | some (_, k) => some k
  | none => all.find? fun k => key == k.value || key == k.name.toLower

theorem parse?_value (k : PoolKind) : parse? k.value = some k := by
  cases k <;> decide +kernel

/-- 文字列を種類として読む。読めなければ値の誤り。 -/
def ofText (text : String) : Except Fault PoolKind :=
  match parse? text with
  | some k => .ok k
  | none => .error (.invalidValue s!"Unknown dex kind: {text}")

end PoolKind

end CrossPool
