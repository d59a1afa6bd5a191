/-!
# 浮動小数点数の小さいほうと大きいほう

二つの値を比べて選ぶ規則。比べて真になったときだけ後の値を取るので、NaN が
あれば先の値が残る。
-/

namespace CrossPool.Binary64

/-- 小さいほう。`b < a` のときだけ `b`。 -/
def pickMin (a b : Float) : Float := if b < a then b else a

/-- 大きいほう。`a < b` のときだけ `b`。 -/
def pickMax (a b : Float) : Float := if a < b then b else a

/-- `max lo (min v hi)`。 -/
def clamp (v lo hi : Float) : Float := pickMax lo (pickMin v hi)

end CrossPool.Binary64
