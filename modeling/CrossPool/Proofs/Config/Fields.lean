import Mathlib
import CrossPool.Config.Check
import CrossPool.Config.Schema
import CrossPool.Proofs.Decimal.Order
import CrossPool.Proofs.Monitor.Step

/-!
# 検証の仕組みの法則

設定ファイルの検査は検証の仕組み `Validator` を引数にとる。ここでは、設定の契約が仕組みに
仮定することを法則 `Validator.Lawful` として並べ、実行できる検証器 `Check.validator` が
それを満たすことを示す（`Check.validator_lawful`）。

* 宣言した制約（`gt`、`ge`、`le`、`min_length`）と `Literal` は、受け入れた値で成り立つ。
* 10 進数の欄は NaN と無限大を拒む。浮動小数点数の欄は制約を浮動小数点数の比較で調べるので、
  比較に通る非有限値は受け入れる。
* 欄の値は、欄の検査が受け入れた値か既定値。欄の検証器が投げた `ValueError` は誤りになる。

欄の検証器が項目全体の検証器より先に走ることは、`Schema` の形そのものが表す。知らない鍵の
誤り（`extra='forbid'`）は誤りを足すだけなので、受け入れた設定についての法則には要らない。
-/

namespace CrossPool

theorem Decimal.isNan_eq_false_of_isFinite {d : Decimal} (h : d.isFinite = true) :
    d.isNan = false := by
  cases d <;> simp_all [Decimal.isFinite, Decimal.isNan]

theorem Decimal.value_ofInt_zero : (Decimal.ofInt 0).value = 0 := Calc.value_lit_zero

end CrossPool

namespace CrossPool.Config

open Data

/-- NaN でない 10 進数の `decLt` は値の比較。 -/
theorem decLt_eq {a b : Decimal} (ha : a.isNan = false) (hb : b.isNan = false) :
    decLt a b = decide (a.value < b.value) := by
  unfold decLt
  rw [Decimal.cmpValue_eq_compare ha hb, Decimal.compare_beq_lt]

/--
要素ごとに失敗するか、初めの状態のまま続ける繰り返し。成功すれば、どの要素でも続けていて、
状態は初めのまま。
-/
theorem forIn_eq_ok {β σ ε : Type} {xs : List β} {init r : σ}
    {f : β → σ → Except ε (ForInStep σ)} {P : β → Prop}
    (hf : ∀ s step, f s init = .ok step → P s ∧ step = .yield init)
    (h : forIn xs init f = .ok r) : (∀ s ∈ xs, P s) ∧ r = init := by
  induction xs with
  | nil => exact ⟨by simp, (Except.ok.inj h).symm⟩
  | cons s xs ih =>
    rw [List.forIn_cons] at h
    obtain ⟨step, hs, h⟩ := bind_eq_ok h
    obtain ⟨hP, rfl⟩ := hf s step hs
    obtain ⟨hall, hr⟩ := ih h
    exact ⟨List.forall_mem_cons.mpr ⟨hP, hall⟩, hr⟩

/-- 設定の契約が検証の仕組みに仮定する法則。 -/
structure Validator.Lawful (V : Validator) : Prop where
  /-- 必須の欄の値は、欄の検査が受け入れた値。 -/
  required {α : Type} {m : Members} {name : String} {f : Value → Checked α} {a : α} :
    V.required m name f = .ok a → ∃ x, f x = .ok a
  /-- 既定値のある欄の値は、既定値か、欄の検査が受け入れた値。 -/
  withDefault {α : Type} {m : Members} {name : String} {f : Value → Checked α} {d a : α} :
    V.withDefault m name f d = .ok a → a = d ∨ ∃ x, f x = .ok a
  /-- `min_length=1` の文字列は空でない。 -/
  nonEmptyStr {v : Value} {s : String} : V.nonEmptyStr v = .ok s → s.isEmpty = false
  /-- 整数の `ge`、`le`。 -/
  int {ge le : Option Int} {v : Value} {i : Int} :
    V.int ge le v = .ok i → (∀ b ∈ le, i ≤ b) ∧ (∀ b ∈ ge, b ≤ i)
  /-- 浮動小数点数の `gt`、`ge`、`le` は浮動小数点数の比較。 -/
  float {gt ge le : Option Bound} {v : Value} {x : Float} :
    V.float gt ge le v = .ok x →
      (∀ b ∈ le, x ≤ b.value) ∧ (∀ b ∈ ge, b.value ≤ x) ∧ (∀ b ∈ gt, b.value < x)
  /-- 10 進数は有限で、整数の端 `gt`、`ge`、`le` は値の比較。 -/
  decimal {gt ge le : Option Int} {v : Value} {d : Decimal} :
    V.decimal gt ge le v = .ok d →
      d.isFinite = true ∧ (∀ b ∈ le, d.value ≤ (Decimal.ofInt b).value) ∧
        (∀ b ∈ ge, (Decimal.ofInt b).value ≤ d.value) ∧
        (∀ b ∈ gt, (Decimal.ofInt b).value < d.value)
  /-- `Literal` の値は選択肢の一つ。 -/
  literal {choices : List String} {v : Value} {t : String} :
    V.literal choices v = .ok t → t ∈ choices
  /-- 列は `min_length` 個以上で、要素は要素の検査が受け入れた値。 -/
  list {α : Type} {n : Nat} {f : Value → Checked α} {v : Value} {xs : List α} :
    V.list n f v = .ok xs → n ≤ xs.length ∧ ∀ a ∈ xs, ∃ x, f x = .ok a
  optional {α : Type} {f : Value → Checked α} {v : Value} {a : α} :
    V.optional f v = .ok (some a) → ∃ x, f x = .ok a
  /-- 欄の検証器が投げた `ValueError` は誤り。 -/
  valueError {α : Type} {v : Value} {msg : Text.Str} {a : α} : V.valueError v msg ≠ .ok a

namespace Validator.Lawful

variable {V : Validator} (hV : V.Lawful)
include hV

/-- 既定値も欄の検査が受け入れる値も `P` を満たせば、既定値のある欄の値は `P` を満たす。 -/
theorem withDefault_sat {α : Type} {m : Members} {name : String} {f : Value → Checked α}
    {d a : α} {P : α → Prop} (hf : ∀ x b, f x = .ok b → P b) (hd : P d)
    (h : V.withDefault m name f d = .ok a) : P a := by
  rcases hV.withDefault h with rfl | ⟨x, hx⟩
  · exact hd
  · exact hf x a hx

theorem float_closed {lo hi : Float} {t u : String} {v : Value} {x : Float}
    (h : V.float none (Schema.bound lo t) (Schema.bound hi u) v = .ok x) : lo ≤ x ∧ x ≤ hi := by
  obtain ⟨hle, hge, -⟩ := hV.float h
  exact ⟨hge ⟨lo, t⟩ rfl, hle ⟨hi, u⟩ rfl⟩

/-- 下から開いた浮動小数点数の欄の値は、その端より大きい。 -/
theorem float_gt {lo : Float} {t : String} {ge le : Option Bound} {v : Value} {x : Float}
    (h : V.float (Schema.bound lo t) ge le v = .ok x) : lo < x :=
  (hV.float h).2.2 ⟨lo, t⟩ rfl

theorem int_ge {lo : Int} {le : Option Int} {v : Value} {i : Int}
    (h : V.int (some lo) le v = .ok i) : lo ≤ i :=
  (hV.int h).2 lo rfl

theorem decimal_nonneg {gt le : Option Int} {v : Value} {d : Decimal}
    (h : V.decimal gt (some 0) le v = .ok d) : 0 ≤ d.value := by
  simpa [Decimal.value_ofInt_zero] using (hV.decimal h).2.2.1 0 rfl

theorem decimal_pos {ge le : Option Int} {v : Value} {d : Decimal}
    (h : V.decimal (some 0) ge le v = .ok d) : 0 < d.value := by
  simpa [Decimal.value_ofInt_zero] using (hV.decimal h).2.2.2 0 rfl

/-- 欄の検証器が `ValueError` を投げれば、その後の計算も誤り。 -/
theorem valueError_bind {α β : Type} {v : Value} {msg : Text.Str} {f : α → Checked β} {b : β} :
    (V.valueError v msg >>= f) ≠ .ok b := fun h =>
  have ⟨_, ha, _⟩ := bind_eq_ok h
  hV.valueError ha

end Validator.Lawful

end CrossPool.Config

namespace CrossPool.Check

open Data Config

variable {α : Type}

@[simp] theorem within_eq_ok {step : LocStep} {r : Checked α} {a : α} :
    within step r = .ok a ↔ r = .ok a := by
  cases r <;> simp [within, Except.mapError]

theorem withDefault_eq_ok {m : Members} {name : String} {f : Value → Checked α} {d a : α}
    (h : withDefault m name f d = .ok a) : a = d ∨ ∃ x, f x = .ok a := by
  unfold withDefault at h
  split at h
  · exact .inr ⟨_, within_eq_ok.mp h⟩
  · exact .inl (Except.ok.inj h).symm

theorem required_eq_ok {m : Members} {name : String} {f : Value → Checked α} {a : α}
    (h : required m name f = .ok a) : ∃ x, f x = .ok a := by
  unfold required at h
  split at h
  · exact ⟨_, within_eq_ok.mp h⟩
  · cases h

theorem floatIn_eq_ok {gt ge le : Option Bound} {v : Value} {x : Float}
    (h : floatIn gt ge le v = .ok x) :
    (∀ b ∈ le, x ≤ b.value) ∧ (∀ b ∈ ge, b.value ≤ x) ∧ (∀ b ∈ gt, b.value < x) := by
  unfold floatIn at h
  obtain ⟨y, -, h⟩ := bind_eq_ok h
  cases le <;> cases ge <;> cases gt <;>
    simp_all [bind, Except.bind, pure, Except.pure, fail, ite_eq_iff] <;> grind

theorem intIn_eq_ok {ge le : Option Int} {v : Value} {i : Int} (h : intIn ge le v = .ok i) :
    (∀ b ∈ le, i ≤ b) ∧ (∀ b ∈ ge, b ≤ i) := by
  unfold intIn at h
  obtain ⟨j, -, h⟩ := bind_eq_ok h
  cases le <;> cases ge <;>
    simp_all [bind, Except.bind, pure, Except.pure, fail, ite_eq_iff] <;> grind

theorem decimal_eq_ok {v : Value} {d : Decimal} (h : decimal v = .ok d) : d.isFinite = true := by
  -- 値を読むどの枝も、最後に有限かを調べる同じ続きに入る
  have hk : ∀ x : Checked Decimal, (x >>= fun d => if (!d.isFinite) = true then
      fail v "finite_number" "Input should be a finite number" else pure d) = .ok d →
      d.isFinite = true := by
    intro x hx
    obtain ⟨d', -, hx⟩ := bind_eq_ok hx
    split at hx
    · simp [fail] at hx
    · next hf =>
      cases hx
      simpa using hf
  unfold decimal at h
  dsimp only at h
  split at h
  · split at h <;> exact hk _ h
  · exact hk _ h
  · exact hk _ h
  · exact hk _ h

/-- 範囲を検査した 10 進数は有限で、与えたどの端も値の比較で満たす。 -/
theorem decimalIn_eq_ok {gt ge le : Option Int} {v : Value} {d : Decimal}
    (h : decimalIn gt ge le v = .ok d) :
    d.isFinite = true ∧ (∀ b ∈ le, d.value ≤ (Decimal.ofInt b).value) ∧
      (∀ b ∈ ge, (Decimal.ofInt b).value ≤ d.value) ∧
      (∀ b ∈ gt, (Decimal.ofInt b).value < d.value) := by
  unfold decimalIn at h
  obtain ⟨d', hd', h⟩ := bind_eq_ok h
  have hfin := decimal_eq_ok hd'
  -- 有限値と整数の端は NaN でないので、`decLt` は値の比較
  have hd := Decimal.isNan_eq_false_of_isFinite hfin
  have hb : ∀ b : Int, (Decimal.ofInt b).isNan = false := fun _ => rfl
  cases le <;> cases ge <;> cases gt <;>
    simp_all [bind, Except.bind, pure, Except.pure, fail, ite_eq_iff, decLt_eq (hb _) hd,
      decLt_eq hd (hb _)] <;> grind

theorem literal_eq_ok {choices : List String} {v : Value} {t : String}
    (h : literal choices v = .ok t) : t ∈ choices := by
  unfold literal at h
  split at h
  · obtain ⟨t', -, h⟩ := bind_eq_ok h
    split at h
    · next hc =>
      cases h
      simpa using hc
    · simp [fail] at h
  · simp [fail] at h

theorem nonEmptyStr_eq_ok {v : Value} {s : String} (h : nonEmptyStr v = .ok s) :
    s.isEmpty = false := by
  unfold nonEmptyStr at h
  obtain ⟨raw, -, h⟩ := bind_eq_ok h
  obtain ⟨s', -, h⟩ := bind_eq_ok h
  split at h
  · simp [fail] at h
  · next hne =>
    cases h
    simpa using hne

theorem list_eq_ok {f : Value → Checked α} {v : Value} {xs : List α} (h : list f v = .ok xs) :
    ∀ a ∈ xs, ∃ x, f x = .ok a := by
  unfold list at h
  dsimp only at h
  split at h
  · split at h
    · cases h
      intro a ha
      obtain ⟨r, hr, hra⟩ := List.mem_filterMap.mp ha
      obtain ⟨⟨x, i⟩, -, rfl⟩ := List.mem_map.mp hr
      refine ⟨x, ?_⟩
      cases hfx : f x <;> simp_all [within, Except.mapError]
    · cases h
  · simp [fail] at h

theorem listMin_eq_ok {n : Nat} {f : Value → Checked α} {v : Value} {xs : List α}
    (h : listMin n f v = .ok xs) : n ≤ xs.length ∧ ∀ a ∈ xs, ∃ x, f x = .ok a := by
  unfold listMin at h
  obtain ⟨ys, hys, h⟩ := bind_eq_ok h
  split at h
  · simp [fail] at h
  · next hlen =>
    cases h
    exact ⟨Nat.le_of_not_lt hlen, list_eq_ok hys⟩

theorem optional_eq_ok {f : Value → Checked α} {v : Value} {a : α}
    (h : optional f v = .ok (some a)) : ∃ x, f x = .ok a := by
  unfold optional at h
  split at h
  · cases h
  · refine ⟨v, ?_⟩
    cases hfv : f v <;> simp_all [Functor.map, Except.map]

theorem valueError_ne_ok {v : Value} {msg : Text.Str} {a : α} : valueError v msg ≠ .ok a := by
  simp [valueError, fail]

/-- 実行できる検証器は、設定の契約が仮定する法則を満たす。 -/
theorem validator_lawful (docs : Option String) : (validator docs).Lawful where
  required := required_eq_ok
  withDefault := withDefault_eq_ok
  nonEmptyStr := nonEmptyStr_eq_ok
  int := intIn_eq_ok
  float := floatIn_eq_ok
  decimal := decimalIn_eq_ok
  literal := literal_eq_ok
  list := listMin_eq_ok
  optional := optional_eq_ok
  valueError := valueError_ne_ok

end CrossPool.Check

namespace CrossPool.Schema

open Data Config

theorem tradeSizesField_eq_ok {V : Validator} (hV : V.Lawful) {v : Value} {sizes : List Decimal}
    (h : tradeSizesField V v = .ok (some sizes)) :
    sizes ≠ [] ∧ ∀ s ∈ sizes, s.isFinite = true ∧ 0 < s.value := by
  unfold tradeSizesField at h
  obtain ⟨o, ho, h⟩ := bind_eq_ok h
  cases o with
  | none => cases h
  | some xs =>
    obtain ⟨x, hx⟩ := hV.optional ho
    dsimp only at h
    split at h
    · exact absurd h hV.valueError
    · next hne =>
      obtain ⟨st, hloop, h⟩ := bind_eq_ok h
      obtain ⟨hpos, rfl⟩ := forIn_eq_ok (P := fun s => decLt (Calc.lit "0") s = true)
        (fun s step hs => by
          split at hs
          · exact absurd hs (hV.valueError_bind)
          · next hs' => exact ⟨by simpa using hs', (Except.ok.inj hs).symm⟩) hloop
      have hxs : xs = sizes := by simpa [pure, Except.pure] using h
      subst hxs
      refine ⟨by simpa using hne, fun s hs => ?_⟩
      obtain ⟨y, hy⟩ := (hV.list hx).2 s hs
      have hfin := (hV.decimal hy).1
      have hnan := Decimal.isNan_eq_false_of_isFinite hfin
      have h0 := hpos s hs
      rw [decLt_eq rfl hnan, Calc.value_lit_zero] at h0
      exact ⟨hfin, by simpa using h0⟩

end CrossPool.Schema
