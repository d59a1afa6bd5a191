import Mathlib
import CrossPool.Decimal.Convert
import CrossPool.Proofs.Decimal.Order
import CrossPool.Proofs.Binary64.Shortest

/-!
# 浮動小数点数の最短表記を 10 進数として読む

`ofFloat` は浮動小数点数の最短表記の文字列を `ofString?` で読む。最短表記の本体
（`shortBody`）は数字、`.`、`e`、符号だけからなり、数字で始まる（`numeral_shortBody`、
`head_shortBody`）。そういう文字列では読む前の正規化（空白を落とし、`_` を除き、全角の数字を
ASCII にする）は何もしないので、符号のない数の字句として読む（`ofString?_eq_readUnsigned`）。

本体の形は先頭の桁の指数 `x` で決まる四つ（指数表記、桁を 0 で補う位取り、途中に小数点を
置く位取り、1 未満の位取り）で、形ごとの補題（`readUnsigned_shortBody_sci` など）により、
どれも数字の列 `D` と `x` の表す値 `D * 10^(x+1-k)` として読める（`ofString?_shortBody`）。
だから `[0, 1]` の浮動小数点数を読んだ 10 進数は `[0, 1]` の有限値である
（`ofFloat_value_mem_unit`）。値の上界は最短表記の数字の列の上界（`shortest_le_one`）による。
-/

namespace CrossPool.Decimal

/-! ## 数の字句の文字 -/

/-- 数の字句に使う文字：ASCII の数字と `.`、`e`、`-`、`+`。 -/
def IsNumeralChar (c : Char) : Prop := c.isDigit = true ∨ c = '.' ∨ c = 'e' ∨ c = '-' ∨ c = '+'

theorem IsNumeralChar.of_isDigit {c : Char} (h : c.isDigit = true) : IsNumeralChar c := .inl h

@[simp] theorem isNumeralChar_dot : IsNumeralChar '.' := .inr (.inl rfl)
@[simp] theorem isNumeralChar_e : IsNumeralChar 'e' := .inr (.inr (.inl rfl))
@[simp] theorem isNumeralChar_minus : IsNumeralChar '-' := .inr (.inr (.inr (.inl rfl)))
@[simp] theorem isNumeralChar_plus : IsNumeralChar '+' := .inr (.inr (.inr (.inr rfl)))
@[simp] theorem isNumeralChar_zero : IsNumeralChar '0' := .inl rfl

theorem asciiDigit_of_isDigit {c : Char} (h : c.isDigit = true) : Text.asciiDigit c = c := by
  have hn := Char.isDigit_iff_toNat.mp h
  simp only [Char.reduceToNat] at hn
  have hfind : Text.digitZeros.find? (fun z => decide (z ≤ c.toNat) && decide (c.toNat < z + 10)) =
      some 0x30 := by
    rw [Text.digitZeros, List.find?_cons_of_pos]
    simp only [Bool.and_eq_true, decide_eq_true_eq]
    omega
  unfold Text.asciiDigit Text.decimalValue?
  simp only [hfind, Option.map_some]
  rw [show 0x30 + (c.toNat - 0x30) = c.toNat by omega, Char.ofNat_toNat]

theorem isBlank_of_isDigit {c : Char} (h : c.isDigit = true) : Text.isBlank c = false := by
  have hn := Char.isDigit_iff_toNat.mp h
  simp only [Char.reduceToNat] at hn
  unfold Text.isBlank
  simp only [Bool.or_eq_false_iff, Bool.and_eq_false_iff, decide_eq_false_iff_not, not_le,
    beq_eq_false_iff_ne, ne_eq]
  omega

theorem IsNumeralChar.asciiDigit {c : Char} (h : IsNumeralChar c) : Text.asciiDigit c = c := by
  rcases h with h | rfl | rfl | rfl | rfl
  · exact asciiDigit_of_isDigit h
  all_goals decide

theorem IsNumeralChar.isBlank {c : Char} (h : IsNumeralChar c) : Text.isBlank c = false := by
  rcases h with h | rfl | rfl | rfl | rfl
  · exact isBlank_of_isDigit h
  all_goals decide

theorem IsNumeralChar.ne_underscore {c : Char} (h : IsNumeralChar c) : c ≠ '_' := by
  rcases h with h | rfl | rfl | rfl | rfl
  · rintro rfl
    cases h
  all_goals decide

theorem isDigit_of_mem_toDigits {n : ℕ} {d : Char} (h : d ∈ Nat.toDigits 10 n) :
    d.isDigit = true :=
  Nat.isDigit_of_mem_toDigits (by decide) (by decide) h

theorem isNumeralChar_of_mem_toDigits {n : ℕ} {d : Char} (hd : d ∈ Nat.toDigits 10 n) :
    IsNumeralChar d := .of_isDigit (isDigit_of_mem_toDigits hd)

@[simp] theorem isNumeralChar_sign (p : Prop) [Decidable p] : IsNumeralChar (if p then '-' else '+') := by
  split_ifs <;> simp

/-- 文字の列が数の字句の文字だけからなる。 -/
def Numeral (l : List Char) : Prop := ∀ c ∈ l, IsNumeralChar c

@[simp] theorem numeral_nil : Numeral [] := List.forall_mem_nil _

@[simp] theorem numeral_cons {c : Char} {l : List Char} :
    Numeral (c :: l) ↔ IsNumeralChar c ∧ Numeral l := List.forall_mem_cons

@[simp] theorem numeral_append {a b : List Char} : Numeral (a ++ b) ↔ Numeral a ∧ Numeral b :=
  List.forall_mem_append

@[simp] theorem numeral_replicate_zero (n : ℕ) : Numeral (List.replicate n '0') := by
  intro c hc
  rw [List.eq_of_mem_replicate hc]
  exact isNumeralChar_zero

@[simp] theorem numeral_toDigits (n : ℕ) : Numeral (Nat.toDigits 10 n) :=
  fun _ h => isNumeralChar_of_mem_toDigits h

theorem Numeral.take {l : List Char} (h : Numeral l) (n : ℕ) : Numeral (l.take n) :=
  fun c hc => h c (List.mem_of_mem_take hc)

theorem Numeral.drop {l : List Char} (h : Numeral l) (n : ℕ) : Numeral (l.drop n) :=
  fun c hc => h c (List.mem_of_mem_drop hc)

theorem Numeral.tail {l : List Char} (h : Numeral l) : Numeral l.tail :=
  fun c hc => h c (List.mem_of_mem_tail hc)

/-! ## 読む前の正規化 -/

theorem dropWhile_isBlank {l : List Char} (h : ∀ c ∈ l, IsNumeralChar c) :
    l.dropWhile Text.isBlank = l := by
  cases l with
  | nil => rfl
  | cons c r => simp [(h c (by simp)).isBlank]

/-- 数の字句だけの文字列は、読む前の正規化で変わらない。 -/
theorem normalize_numeral {s : String} (h : ∀ c ∈ s.toList, IsNumeralChar c) :
    ((Text.trimBlank s).toList.filter (· != '_')).map Text.asciiDigit = s.toList := by
  have ht : Text.trimBlank s = s := by
    unfold Text.trimBlank
    rw [dropWhile_isBlank h, dropWhile_isBlank (by simpa using h), List.reverse_reverse,
      String.ofList_toList]
  rw [ht, List.filter_eq_self.mpr fun c hc => by simpa using (h c hc).ne_underscore]
  exact (List.map_congr_left fun c hc => (h c hc).asciiDigit).trans (List.map_id _)

/-! ## 数字の列 -/

theorem toLower_of_isDigit {c : Char} (h : c.isDigit = true) : c.toLower = c := by
  have hn := Char.isDigit_iff_toNat.mp h
  simp only [Char.reduceToNat] at hn
  unfold Char.toLower
  rw [dif_neg]
  simp only [ge_iff_le, not_and, not_le, UInt32.le_iff_toNat_le, Char.toNat_val,
    Char.reduceToNat]
  omega

/-- 先頭の数字の列を読み切る。 -/
theorem takeDigits_append {ds : List Char} (hds : ∀ c ∈ ds, c.isDigit = true) (rest : List Char)
    (v n : ℕ) :
    takeDigits (ds ++ rest) v n = takeDigits rest (Nat.ofDigitChars 10 ds v) (n + ds.length) := by
  induction ds generalizing v n with
  | nil => rfl
  | cons c ds ih =>
    rw [List.cons_append, takeDigits, if_pos (hds c (by simp)),
      ih (fun d hd => hds d (by simp [hd])), Nat.ofDigitChars_cons, List.length_cons,
      Nat.add_assoc, Nat.add_comm 1]

theorem takeDigits_of_not_digit {c : Char} (hc : c.isDigit = false) (r : List Char) (v n : ℕ) :
    takeDigits (c :: r) v n = (v, n, c :: r) := by
  rw [takeDigits, if_neg (by simp [hc])]

/-- 数字で始まる字句は、無限大とも NaN とも読まない。 -/
theorem not_special_of_digit {c : Char} (hc : c.isDigit = true) (r : List Char) :
    (wordIs (c :: r) "inf" || wordIs (c :: r) "infinity") = false ∧
      wordIs ((c :: r).take 3) "nan" = false ∧ (c == 's' || c == 'S') = false := by
  have hn := Char.isDigit_iff_toNat.mp hc
  simp only [Char.reduceToNat] at hn
  have hne : ∀ d : Char, d.toNat < 48 ∨ 57 < d.toNat → c ≠ d := fun d hd h => by
    subst h
    omega
  refine ⟨?_, ?_, ?_⟩
  · simp [wordIs, toLower_of_isDigit hc, hne 'i' (by decide)]
  · simp [wordIs, toLower_of_isDigit hc, hne 'n' (by decide)]
  · simp [hne 's' (by decide), hne 'S' (by decide)]

/-- 数字の列のあとに数字でない文字が来れば、数字の列だけを読む。 -/
theorem takeDigits_then {ds : List Char} (hds : ∀ d ∈ ds, d.isDigit = true) {c : Char}
    (hc : c.isDigit = false) (r : List Char) :
    takeDigits (ds ++ c :: r) 0 0 = (Nat.ofDigitChars 10 ds 0, ds.length, c :: r) := by
  rw [takeDigits_append hds, takeDigits_of_not_digit hc, Nat.zero_add]

theorem takeDigits_all {ds : List Char} (hds : ∀ d ∈ ds, d.isDigit = true) :
    takeDigits ds 0 0 = (Nat.ofDigitChars 10 ds 0, ds.length, []) := by
  have h := takeDigits_append hds [] 0 0
  rw [List.append_nil, Nat.zero_add] at h
  rw [h]
  rfl

theorem ofDigitChars_append_zero (I F : List Char) :
    Nat.ofDigitChars 10 (I ++ F) 0 =
      Nat.ofDigitChars 10 I 0 * Nat.pow 10 F.length + Nat.ofDigitChars 10 F 0 := by
  rw [Nat.ofDigitChars_append, Nat.ofDigitChars_eq_ofDigitChars_zero, Nat.pow_eq, Nat.mul_comm]

theorem ofDigitChars_append_replicate (l : List Char) (n : ℕ) :
    Nat.ofDigitChars 10 (l ++ List.replicate n '0') 0 = Nat.ofDigitChars 10 l 0 * Nat.pow 10 n := by
  rw [ofDigitChars_append_zero, Nat.ofDigitChars_replicate_zero, List.length_replicate, Nat.mul_zero,
    Nat.add_zero]

theorem ofDigitChars_replicate_append (n : ℕ) (l : List Char) :
    Nat.ofDigitChars 10 (List.replicate n '0' ++ l) 0 = Nat.ofDigitChars 10 l 0 := by
  rw [Nat.ofDigitChars_append, Nat.ofDigitChars_replicate_zero, Nat.mul_zero]

/-- 前に 0 を足した数の数字の列。 -/
theorem zeros_toDigits (j n : ℕ) :
    (∀ d ∈ List.replicate j '0' ++ Nat.toDigits 10 n, d.isDigit = true) ∧
      Nat.ofDigitChars 10 (List.replicate j '0' ++ Nat.toDigits 10 n) 0 = n := by
  refine ⟨fun d hd => ?_, ?_⟩
  · rcases List.mem_append.mp hd with hd | hd
    · rw [List.eq_of_mem_replicate hd]
      rfl
    · exact isDigit_of_mem_toDigits hd
  · rw [Nat.ofDigitChars_append, Nat.ofDigitChars_replicate_zero, Nat.mul_zero,
      Nat.ofDigitChars_ten_toDigits]

/-! ## 符号のない数の字句 -/

section Unsigned

variable (neg : Bool) {c : Char} {I F : List Char} (hc : c.isDigit = true)
  (hI : ∀ d ∈ I, d.isDigit = true) (hF : ∀ d ∈ F, d.isDigit = true)
include hc hI hF

/-- 小数点のある位取りの字句。 -/
theorem readUnsigned_point :
    readUnsigned neg (c :: (I ++ '.' :: F)) =
      some (.finite neg (Nat.ofDigitChars 10 (c :: (I ++ F)) 0) (0 - F.length)) := by
  obtain ⟨h1, h2, h3⟩ := not_special_of_digit hc (I ++ '.' :: F)
  have hT := takeDigits_then (List.forall_mem_cons.mpr ⟨hc, hI⟩) (c := '.') (by decide) F
  rw [List.cons_append] at hT
  unfold readUnsigned
  simp only [h1, h3, Bool.false_eq_true, if_false, h2, hT, takeDigits_all hF]
  rw [if_neg (by simp), ← List.cons_append, ofDigitChars_append_zero]
  rfl

/-- 小数点と指数のある字句。 -/
theorem readUnsigned_point_exp (E : List Char) :
    readUnsigned neg (c :: (I ++ '.' :: (F ++ 'e' :: E))) = (readExponent E).map fun e =>
      .finite neg (Nat.ofDigitChars 10 (c :: (I ++ F)) 0) (e - F.length) := by
  obtain ⟨h1, h2, h3⟩ := not_special_of_digit hc (I ++ '.' :: (F ++ 'e' :: E))
  have hT := takeDigits_then (List.forall_mem_cons.mpr ⟨hc, hI⟩) (c := '.') (by decide) (F ++ 'e' :: E)
  rw [List.cons_append] at hT
  unfold readUnsigned
  simp only [h1, h3, Bool.false_eq_true, if_false, h2, hT,
    takeDigits_then hF (c := 'e') (by decide) E]
  rw [if_neg (by simp), ← List.cons_append, ofDigitChars_append_zero]
  rfl

end Unsigned

/-- 小数点がなく指数のある字句。 -/
theorem readUnsigned_exp (neg : Bool) {c : Char} {I : List Char} (hc : c.isDigit = true)
    (hI : ∀ d ∈ I, d.isDigit = true) (E : List Char) :
    readUnsigned neg (c :: (I ++ 'e' :: E)) = (readExponent E).map fun e =>
      .finite neg (Nat.ofDigitChars 10 (c :: I) 0) (e - 0) := by
  obtain ⟨h1, h2, h3⟩ := not_special_of_digit hc (I ++ 'e' :: E)
  have hT := takeDigits_then (List.forall_mem_cons.mpr ⟨hc, hI⟩) (c := 'e') (by decide) E
  rw [List.cons_append] at hT
  unfold readUnsigned
  simp only [h1, h3, Bool.false_eq_true, if_false, h2, hT]
  rw [if_neg (by simp)]
  rfl

/-- 符号と、前に 0 を足した数字の列を指数として読む。 -/
theorem readExponent_digits (neg : Bool) (j n : ℕ) :
    readExponent ((if neg then '-' else '+') :: (List.replicate j '0' ++ Nat.toDigits 10 n)) =
      some (if neg then -(n : ℤ) else n) := by
  obtain ⟨hds, hval⟩ := zeros_toDigits j n
  have hlen : 0 < (List.replicate j '0' ++ Nat.toDigits 10 n).length := by
    simp [Nat.length_toDigits_pos]
  unfold readExponent
  cases neg <;> simp only [if_false, if_true, Bool.false_eq_true, takeDigits_all hds, hval] <;>
    rw [if_neg (by simp)]

/-- 数字で始まる数の字句だけの文字列は、符号のない数として読む。 -/
theorem ofString?_eq_readUnsigned {s : String} (h : ∀ c ∈ s.toList, IsNumeralChar c)
    (hd : ∃ c r, s.toList = c :: r ∧ c.isDigit = true) : ofString? s = readUnsigned false s.toList := by
  obtain ⟨c, r, hs, hc⟩ := hd
  unfold ofString?
  rw [normalize_numeral h, hs]
  dsimp only
  split
  · next heq =>
    cases heq
    cases hc
  · next heq =>
    cases heq
    cases hc
  · rfl

/-! ## 最短表記の本体 -/

/-- 数の数字の列。 -/
theorem toList_toString (D : ℕ) : (toString D).toList = Nat.toDigits 10 D := by
  simp [Nat.toString_eq_repr]

theorem length_toString (D : ℕ) : (toString D).length = (Nat.toDigits 10 D).length := by
  rw [← String.length_toList, toList_toString]

theorem zeroRun_toList (n : ℕ) : (Binary64.zeroRun n).toList = List.replicate n '0' := by
  simp [Binary64.zeroRun]

/-- 最短表記の本体は、数字の列 `ds` の文字のほかには数の字句の文字しか含まない。 -/
theorem numeral_shortBody {ds : String} (hds : ∀ c ∈ ds.toList, c.isDigit = true) (x : ℤ) :
    Numeral (Binary64.shortBody .standard ds x).toList := by
  have hD : Numeral ds.toList := fun c h => .of_isDigit (hds c h)
  -- 本体は `ds` の切れ端、0 の並び、指数の数字と、区切りの文字をつないだもの
  unfold Binary64.shortBody
  dsimp only
  split_ifs <;> simp [String.toList_append, zeroRun_toList, hD, hD.take, hD.drop, hD.tail]

theorem head_shortBody {ds : String} {c0 : Char} {r0 : List Char} (hds : ds.toList = c0 :: r0)
    (hc0 : c0.isDigit = true) (x : ℤ) :
    ∃ c r, (Binary64.shortBody .standard ds x).toList = c :: r ∧ c.isDigit = true := by
  unfold Binary64.shortBody
  dsimp only
  split_ifs <;> simp [hds, zeroRun_toList, hc0]

/-! ## 最短表記の本体の四つの形 -/

section Shapes

variable {D : ℕ} {c0 : Char} {r0 : List Char} {x : ℤ}

/-- 数の数字の列を先頭と残りに分けても、どの文字も数字で、読めば元の数。 -/
theorem toDigits_eq_cons (hds : Nat.toDigits 10 D = c0 :: r0) :
    c0.isDigit = true ∧ (∀ d ∈ r0, d.isDigit = true) ∧ Nat.ofDigitChars 10 (c0 :: r0) 0 = D :=
  ⟨isDigit_of_mem_toDigits (by rw [hds]; simp),
    fun d hd => isDigit_of_mem_toDigits (by rw [hds]; simp [hd]),
    by rw [← hds, Nat.ofDigitChars_ten_toDigits]⟩

/-- 既定の書式は、先頭の桁の指数が `-4` 未満か `16` 以上のとき指数表記を選ぶ。 -/
theorem standard_sci_iff (x : ℤ) :
    (decide (x < Binary64.ShortStyle.standard.sciBelow) ||
      decide (Binary64.ShortStyle.standard.sciFrom ≤ x)) = true ↔ x < -4 ∨ 16 ≤ x := by
  rw [Bool.or_eq_true, decide_eq_true_iff, decide_eq_true_iff]
  rfl

/-- 指数表記：先頭の 1 桁、残りの桁、符号と 2 桁以上の指数。 -/
theorem readUnsigned_shortBody_sci (hds : Nat.toDigits 10 D = c0 :: r0) (hsci : x < -4 ∨ 16 ≤ x) :
    ∃ c e, readUnsigned false (Binary64.shortBody .standard (toString D) x).toList =
      some (.finite false c e) ∧ magnitude c e = magnitude D (x + 1 - (toString D).length) := by
  obtain ⟨hc0, hr0, hval⟩ := toDigits_eq_cons hds
  have hsignText : (if x < 0 then "-" else "+").toList = [if x < 0 then '-' else '+'] := by
    by_cases hx : x < 0 <;> simp [hx]
  have hexp : readExponent ((if x < 0 then '-' else '+') ::
      (List.replicate (2 - (Nat.toDigits 10 x.natAbs).length) '0' ++ Nat.toDigits 10 x.natAbs)) =
      some x := by
    have := readExponent_digits (decide (x < 0)) (2 - (Nat.toDigits 10 x.natAbs).length) x.natAbs
    simp only [decide_eq_true_eq] at this
    rw [this]
    by_cases hx : x < 0
    · simp [hx, abs_of_neg hx]
    · simp [hx, abs_of_nonneg (not_lt.mp hx)]
  unfold Binary64.shortBody
  rw [if_pos ((standard_sci_iff x).mpr hsci)]
  simp only [Binary64.ShortStyle.standard, length_toString, hds]
  simp only [String.toList_append, String.toList_ofList, toList_toString, hds, zeroRun_toList,
    hsignText]
  cases r0 with
  | nil =>
    refine ⟨D, x, ?_, by simp⟩
    refine (readUnsigned_exp false hc0 (I := []) (by simp) _).trans ?_
    simp [hexp, hval]
  | cons c1 r1 =>
    refine ⟨D, x - (r1.length + 1), ?_, by simp⟩
    simp
    refine (readUnsigned_point_exp false hc0 (I := []) (F := c1 :: r1) (by simp) hr0 _).trans ?_
    simp [hexp, hval]

/-- 固定小数点で 1 以上、桁が足りない：整数部の桁の後ろに 0 を補い `.0` を付ける。 -/
theorem readUnsigned_shortBody_pad (hds : Nat.toDigits 10 D = c0 :: r0) (hx : 0 ≤ x)
    (h16 : x < 16) (hk : (toString D).length ≤ x.toNat + 1) :
    ∃ c e, readUnsigned false (Binary64.shortBody .standard (toString D) x).toList =
      some (.finite false c e) ∧ magnitude c e = magnitude D (x + 1 - (toString D).length) := by
  obtain ⟨hc0, hr0, hval⟩ := toDigits_eq_cons hds
  unfold Binary64.shortBody
  rw [if_neg (mt (standard_sci_iff x).mp (by omega)), if_pos hx]
  simp only [length_toString, hds] at hk ⊢
  rw [if_pos hk]
  simp only [List.length_cons, Nat.add_le_add_iff_right] at hk
  have hI : ∀ d ∈ r0 ++ List.replicate (x.toNat - r0.length) '0', d.isDigit = true := by
    intro d hd
    rcases List.mem_append.mp hd with h | h
    · exact hr0 d h
    · rw [List.eq_of_mem_replicate h]; rfl
  have h := readUnsigned_point false hc0 hI (F := ['0'])
    (fun d hd => by rw [List.mem_singleton.mp hd]; rfl)
  simp only [String.toList_append, zeroRun_toList, toList_toString, hds, List.length_cons,
    Nat.add_sub_add_right]
  simp only [List.cons_append, List.append_assoc] at h ⊢
  refine ⟨_, _, h, ?_⟩
  have hl : c0 :: (r0 ++ (List.replicate (x.toNat - r0.length) '0' ++ ['0'])) =
      (c0 :: r0) ++ List.replicate (x.toNat - r0.length + 1) '0' := by
    simp [List.replicate_succ']
  rw [hl, ofDigitChars_append_replicate, hval, magnitude_mul_pow]
  congr 1
  simp only [List.length_singleton]
  push_cast
  omega

/-- 固定小数点で 1 以上、桁が余る：整数部と小数部の間に小数点を置く。 -/
theorem readUnsigned_shortBody_point (hds : Nat.toDigits 10 D = c0 :: r0) (hx : 0 ≤ x)
    (h16 : x < 16) (hk : x.toNat + 1 < (toString D).length) :
    ∃ c e, readUnsigned false (Binary64.shortBody .standard (toString D) x).toList =
      some (.finite false c e) ∧ magnitude c e = magnitude D (x + 1 - (toString D).length) := by
  obtain ⟨hc0, hr0, hval⟩ := toDigits_eq_cons hds
  unfold Binary64.shortBody
  rw [if_neg (mt (standard_sci_iff x).mp (by omega)), if_pos hx]
  simp only [length_toString, hds] at hk ⊢
  rw [if_neg (not_le.mpr hk)]
  simp only [List.length_cons, Nat.add_lt_add_iff_right] at hk
  simp only [String.toList_append, String.toList_ofList, toList_toString, hds,
    List.take_succ_cons, List.drop_succ_cons]
  have h := readUnsigned_point false hc0 (I := r0.take x.toNat) (F := r0.drop x.toNat)
    (fun d hd => hr0 d (List.mem_of_mem_take hd)) (fun d hd => hr0 d (List.mem_of_mem_drop hd))
  simp only [List.cons_append, List.append_assoc] at h ⊢
  refine ⟨_, _, h, ?_⟩
  rw [List.take_append_drop, hval, List.length_drop]
  congr 1
  simp only [List.length_cons]
  omega

/-- 固定小数点で 1 未満：`0.` と 0 の列の後ろに数字の列。 -/
theorem readUnsigned_shortBody_small (hds : Nat.toDigits 10 D = c0 :: r0) (h4 : -4 ≤ x)
    (hx : x < 0) :
    ∃ c e, readUnsigned false (Binary64.shortBody .standard (toString D) x).toList =
      some (.finite false c e) ∧ magnitude c e = magnitude D (x + 1 - (toString D).length) := by
  obtain ⟨hc0, hr0, hval⟩ := toDigits_eq_cons hds
  have hF : ∀ d ∈ List.replicate ((-x).toNat - 1) '0' ++ c0 :: r0, d.isDigit = true := by
    intro d hd
    rcases List.mem_append.mp hd with h | h
    · rw [List.eq_of_mem_replicate h]; rfl
    · exact isDigit_of_mem_toDigits (by rw [hds]; exact h)
  unfold Binary64.shortBody
  rw [if_neg (mt (standard_sci_iff x).mp (by omega)), if_neg (not_le.mpr hx)]
  simp only [length_toString, hds]
  have h := readUnsigned_point false (c := '0') (I := []) rfl (by simp) hF
  simp only [String.toList_append, zeroRun_toList, toList_toString, hds]
  simp
  refine ⟨_, _, h, ?_⟩
  rw [List.nil_append, ← List.cons_append, ← List.replicate_succ, ofDigitChars_replicate_append, hval]
  congr 1
  simp
  omega

end Shapes

/-- 最短表記の本体は、数字の列 `toString D` と先頭の桁の指数 `x` が表す値 `D * 10^(x+1-k)`
として読める（`k` は桁数）。 -/
theorem ofString?_shortBody (D : ℕ) (x : ℤ) :
    ∃ c e, ofString? (Binary64.shortBody .standard (toString D) x) = some (.finite false c e) ∧
      magnitude c e = magnitude D (x + 1 - (toString D).length) := by
  obtain ⟨c0, r0, hds⟩ := List.exists_cons_of_ne_nil (Nat.toDigits_ne_nil (n := D) (b := 10))
  have hdsList : (toString D).toList = c0 :: r0 := by rw [toList_toString, hds]
  rw [ofString?_eq_readUnsigned (numeral_shortBody (fun d hd => isDigit_of_mem_toDigits
    (by rwa [← toList_toString])) x) (head_shortBody hdsList (toDigits_eq_cons hds).1 x)]
  -- 先頭の桁の指数で形が決まる：-4 未満か 16 以上なら指数表記、0 以上なら桁の数で二つ
  rcases lt_or_ge x (-4) with hlo | hlo
  · exact readUnsigned_shortBody_sci hds (.inl hlo)
  rcases lt_or_ge x 16 with hhi | hhi
  · rcases lt_or_ge x 0 with hneg | hnonneg
    · exact readUnsigned_shortBody_small hds hlo hneg
    · rcases le_or_gt (toString D).length (x.toNat + 1) with hk | hk
      · exact readUnsigned_shortBody_pad hds hnonneg hhi hk
      · exact readUnsigned_shortBody_point hds hnonneg hhi hk
  · exact readUnsigned_shortBody_sci hds (.inr hhi)

/-! ## 浮動小数点数の値 -/

/-- `[0, 1]` の浮動小数点数を最短表記から読んだ 10 進数は、`[0, 1]` の有限値。 -/
theorem ofFloat_value_mem_unit {x : Float} (hx : Binary64.InUnit x) :
    ∃ r : ℚ, (ofFloat x).value = ((r : WithTop ℚ) : WithBot (WithTop ℚ)) ∧ 0 ≤ r ∧ r ≤ 1 := by
  unfold ofFloat Binary64.toShortString Binary64.toShortStringWith
  rcases Binary64.decode_of_inUnit hx with hz | ⟨m, q, hm, hdec, hle, hlt, hn⟩
  · rcases hd : Binary64.decode x with ⟨neg, sh⟩
    rw [hd] at hz
    dsimp only at hz
    subst hz
    dsimp only
    rw [if_pos rfl]
    refine ⟨0, ?_, le_rfl, zero_le_one⟩
    cases neg
    · rw [show ofString? ((if false = true then "-" else "") ++ "0.0") = some (.finite false 0 (-1)) by
        decide +kernel]
      simp [value, signedValue, magnitude]
    · rw [show ofString? ((if true = true then "-" else "") ++ "0.0") = some (.finite true 0 (-1)) by
        decide +kernel]
      simp [value, signedValue, magnitude]
  · rw [hdec]
    dsimp only
    rw [if_neg (Nat.pos_iff_ne_zero.mp hm)]
    have hbound := Binary64.shortest_le_one hle hlt hn
    rcases hsh : Binary64.shortest m q with ⟨D, s⟩
    rw [hsh] at hbound
    dsimp only
    obtain ⟨c, e, hp, hmag⟩ := ofString?_shortBody D (s + (toString D).length - 1)
    rw [if_neg Bool.false_ne_true, String.empty_append, hp]
    refine ⟨magnitude c e, rfl, magnitude_nonneg c e, ?_⟩
    rw [hmag]
    ring_nf
    exact hbound

end CrossPool.Decimal

