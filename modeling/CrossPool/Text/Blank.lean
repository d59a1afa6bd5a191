/-!
# 空白文字

入力の前後を削るときに空白とみなす文字の表。Unicode の空白区切り（Zs）と、双方向
分類が段落・区切り・空白（B, S, WS）の制御文字からなる。ASCII の範囲では
タブ、改行、垂直タブ、改ページ、復帰、`0x1C`–`0x1F`、空白がこれにあたる。
-/

namespace CrossPool.Text

/-- 空白として削られる文字。 -/
def isBlank (c : Char) : Bool :=
  let n := c.toNat
  (0x09 ≤ n && n ≤ 0x0D) || (0x1C ≤ n && n ≤ 0x20) || n == 0x85 || n == 0xA0 ||
  n == 0x1680 || (0x2000 ≤ n && n ≤ 0x200A) || n == 0x2028 || n == 0x2029 ||
  n == 0x202F || n == 0x205F || n == 0x3000

/-- core の空白はすべて表に入っている。 -/
theorem isBlank_of_isWhitespace (c : Char) (h : c.isWhitespace = true) : isBlank c = true := by
  simp only [Char.isWhitespace, Bool.or_eq_true, decide_eq_true_eq] at h
  simp only [isBlank, Bool.or_eq_true, Bool.and_eq_true, decide_eq_true_eq, beq_iff_eq]
  rcases h with ((h | h) | h) | h <;> subst h <;> decide

/-- 前後の空白を削る。 -/
def trimBlank (s : String) : String :=
  String.ofList ((s.toList.dropWhile isBlank).reverse.dropWhile isBlank).reverse

end CrossPool.Text
