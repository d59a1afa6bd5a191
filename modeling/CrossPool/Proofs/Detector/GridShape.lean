import CrossPool.Proofs.Detector.Grid

/-!
# 格子の形と値の誤り

`tradeSizes lo hi n spacing` が返す格子は、値の狭義の昇順で、どの点も `[lo, hi]` にあり、
先頭はちょうど `lo` である。`n = 1` か `lo` と `hi` の値が等しければ `[lo]`。そうでなければ
最後の点の値は `hi` の値で、点は 2 個以上 `n` 個以下である（`tradeSizes_shape`）。

1. 端点で置き換えた列を区間に収めると、`lo` と `hi` はそのまま両端に残り、間の点は区間に入る
   （`mapM_clamp_pinned`）。
2. 並べて重複を除く段は長さを増やさず、元の列のどの値も残す（`sortDistinct_covers`）。
   先頭が最小の値なら、安定な並べ替えで先頭に残る（`sortDistinct_head`）。
3. 値の狭義の昇順の列の最後の点は、列の最大の値を持つ（`getLast_value_of_max`）。

値の誤り（`Fault.invalidValue`）は検査の四つの `throw` からだけ起こる。点を作る段と区間に
収める段は、10 進演算の例外条件でしか失敗しない（`tradeSizes_invalidValue_iff`）。
-/

namespace CrossPool

namespace Returns

variable {α : Type} {P Q : α → Prop}

theorem and {x : Except Fault α} (hp : Returns x P) (hq : Returns x Q) :
    Returns x fun a => P a ∧ Q a :=
  fun a ha => ⟨hp a ha, hq a ha⟩

theorem mapM_length {β : Type} {f : α → Except Fault β} (l : List α) :
    Returns (l.mapM f) fun r => r.length = l.length :=
  (mapM (R := fun _ _ => True) fun _ _ => of_true _).mono fun _ h => h.length_eq.symm

end Returns

namespace Decimal

section Pick

variable {a b : Decimal} (ha : a.isNan = false) (hb : b.isNan = false)
include ha hb

theorem pickMin_of_le (h : a.value ≤ b.value) : pickMin a b = .ok a := by
  unfold pickMin
  rw [lt_eq_ok.mpr ⟨hb, ha, rfl⟩, decide_eq_false (not_lt.mpr h)]
  rfl

theorem pickMax_of_le (h : b.value ≤ a.value) : pickMax a b = .ok a := by
  unfold pickMax
  rw [lt_eq_ok.mpr ⟨ha, hb, rfl⟩, decide_eq_false (not_lt.mpr h)]
  rfl

theorem pickMax_of_lt (h : a.value < b.value) : pickMax a b = .ok b := by
  unfold pickMax
  rw [lt_eq_ok.mpr ⟨ha, hb, rfl⟩, decide_eq_true h]
  rfl

end Pick

variable {lo hi : Decimal} (hlo : lo.isNan = false) (hhi : hi.isNan = false)
include hlo hhi

theorem clamp_left (hle : lo.value ≤ hi.value) : clamp lo lo hi = .ok lo := by
  unfold clamp
  rw [pickMin_of_le hlo hhi hle, ok_bind, pickMax_of_le hlo hlo le_rfl]

theorem clamp_right (hlt : lo.value < hi.value) : clamp hi lo hi = .ok hi := by
  unfold clamp
  rw [pickMin_of_le hhi hhi le_rfl, ok_bind, pickMax_of_lt hlo hhi hlt]

end Decimal

namespace Grid

/-! ## 並べて重複を除く段 -/

section Dedup

variable {F : Decimal → List Decimal → List Decimal} (hnil : ∀ x, F x [] = [x])
  (hcons : ∀ x y ys,
    F x (y :: ys) = if Decimal.cmpValue x y == .eq then x :: ys else x :: y :: ys)
include hnil hcons

/-- 畳み込みの各段は先頭に一つ置くので、結果の先頭は列の先頭。 -/
theorem foldr_dedup_head (x : Decimal) (l : List Decimal) : ((x :: l).foldr F []).head? = some x := by
  rw [List.foldr_cons]
  cases l.foldr F [] with
  | nil => rw [hnil]; rfl
  | cons y ys =>
    rw [hcons]
    split <;> rfl

/-- 各段は高々一つ増やすので、結果は元の列より長くない。 -/
theorem foldr_dedup_length : ∀ l : List Decimal, (l.foldr F []).length ≤ l.length
  | [] => le_rfl
  | x :: l => by
    have ih := foldr_dedup_length l
    rw [List.foldr_cons, List.length_cons]
    cases hacc : l.foldr F [] with
    | nil => simp [hnil]
    | cons y ys =>
      rw [hacc] at ih
      rw [hcons]
      split <;> simp only [List.length_cons] at ih ⊢ <;> omega

/-- NaN のない列では、元の列のどの値も結果に残る。落とすのは、直前に置いた要素と値の等しい
要素だけ。 -/
theorem foldr_dedup_covers : ∀ l : List Decimal, (∀ x ∈ l, x.isNan = false) →
    ∀ x ∈ l, ∃ y ∈ l.foldr F [], y.value = x.value
  | [], _ => by simp
  | a :: l, hn => by
    have ih := foldr_dedup_covers l fun z hz => hn z (List.mem_cons_of_mem _ hz)
    have hsub := foldr_dedup_mem hnil hcons l
    intro x hx
    rw [List.foldr_cons]
    rcases List.mem_cons.mp hx with rfl | hx
    · exact ⟨x, List.mem_of_mem_head? (foldr_dedup_head hnil hcons x l), rfl⟩
    obtain ⟨w, hw, hwv⟩ := ih x hx
    cases hacc : l.foldr F [] with
    | nil => rw [hacc] at hw; cases hw
    | cons y ys =>
      rw [hacc] at hw hsub
      rw [hcons]
      split
      · next heq =>
        rcases List.mem_cons.mp hw with rfl | hw
        · -- 落とした要素 `w` の値は、先頭に置いた `a` の値
          have hv : a.value = w.value := by
            rw [Decimal.cmpValue_eq_compare (hn a List.mem_cons_self)
              (hn w (List.mem_cons_of_mem _ (hsub w List.mem_cons_self))),
              Decimal.compare_beq_eq] at heq
            simpa using heq
          exact ⟨a, List.mem_cons_self, hv.trans hwv⟩
        · exact ⟨w, List.mem_cons_of_mem _ hw, hwv⟩
      · exact ⟨w, List.mem_cons_of_mem _ hw, hwv⟩

end Dedup

theorem sortDistinct_length_le (xs : List Decimal) : (sortDistinct xs).length ≤ xs.length := by
  dsimp only [sortDistinct]
  refine (foldr_dedup_length ?_ ?_ _).trans_eq (List.length_mergeSort _)
  · intro x
    rfl
  · intro x y ys
    rfl

/-- NaN のない列を並べて重複を除いても、元の列のどの値も残る。 -/
theorem sortDistinct_covers {xs : List Decimal} (h : ∀ x ∈ xs, x.isNan = false) :
    ∀ x ∈ xs, ∃ y ∈ sortDistinct xs, y.value = x.value := by
  intro x hx
  dsimp only [sortDistinct]
  refine foldr_dedup_covers ?_ ?_ _ (fun z hz => h z (List.mem_mergeSort.mp hz)) x
    (List.mem_mergeSort.mpr hx)
  · intro x
    rfl
  · intro x y ys
    rfl

/-- 先頭の要素の値が最小なら、安定に並べても先頭に残り、重複を除いた列の先頭になる。 -/
theorem sortDistinct_head {x : Decimal} {l : List Decimal} (h : ∀ y ∈ x :: l, y.isNan = false)
    (hmin : ∀ y ∈ l, x.value ≤ y.value) : (sortDistinct (x :: l)).head? = some x := by
  dsimp only [sortDistinct]
  rw [mergeSort_cmpValue h]
  -- 安定な並べ替えで `x` より前に来るのは、`x` より値の小さい要素だけ
  have htrans : ∀ a b c : Decimal, decide (a.value ≤ b.value) = true →
      decide (b.value ≤ c.value) = true → decide (a.value ≤ c.value) = true := by
    intro a b c hab hbc
    simp only [decide_eq_true_eq] at *
    exact hab.trans hbc
  have htotal : ∀ a b : Decimal, (decide (a.value ≤ b.value) || decide (b.value ≤ a.value)) = true :=
    fun a b => by simpa using le_total a.value b.value
  obtain ⟨l₁, l₂, hs, hl, hbefore⟩ := List.mergeSort_cons htrans htotal x l
  obtain rfl : l₁ = [] := by
    refine List.eq_nil_iff_forall_not_mem.mpr fun b hb => ?_
    have hbl : b ∈ l := List.mem_mergeSort.mp (hl ▸ List.mem_append_left l₂ hb)
    have hnot := hbefore b hb
    rw [decide_eq_true (hmin b hbl)] at hnot
    exact Bool.false_ne_true hnot
  rw [hs, List.nil_append]
  refine foldr_dedup_head ?_ ?_ x l₂
  · intro x
    rfl
  · intro x y ys
    rfl

/-! ## 値の狭義の昇順の列 -/

/-- 値の狭義の昇順の列で、最大の値を持つ要素があれば、最後の要素の値はその値。 -/
theorem getLast_value_of_max {xs : List Decimal} (hs : xs.Pairwise fun a b => a.value < b.value)
    {w : Decimal} (hw : w ∈ xs) (hmax : ∀ z ∈ xs, z.value ≤ w.value) :
    ∃ t, xs.getLast? = some t ∧ t.value = w.value := by
  have hne : xs ≠ [] := List.ne_nil_of_mem hw
  refine ⟨xs.getLast hne, List.getLast?_eq_some_getLast hne, ?_⟩
  have hsplit := List.dropLast_append_getLast hne
  rw [← hsplit] at hs hw
  rcases List.mem_append.mp hw with hw | hw
  · have hlt := List.pairwise_append.mp hs |>.2.2 w hw _ List.mem_cons_self
    exact absurd (hmax _ (List.getLast_mem hne)) (not_le.mpr hlt)
  · rw [List.mem_singleton.mp hw]

/-- 値の違う二つの要素を持つ列は、2 個以上の要素を持つ。 -/
theorem two_le_length {xs : List Decimal} {a b : Decimal} (ha : a ∈ xs) (hb : b ∈ xs)
    (hne : a.value ≠ b.value) : 2 ≤ xs.length := by
  rcases xs with _ | ⟨c, _ | ⟨d, rest⟩⟩
  · cases ha
  · rw [List.mem_singleton] at ha hb
    exact absurd (by rw [ha, hb]) hne
  · simp

/-! ## 端点で置き換えて区間に収める段 -/

section Pinned

variable {lo hi : Decimal} (hlo : lo.isNan = false) (hhi : hi.isNan = false)
include hlo hhi

/-- 端点で置き換えた列を区間に収めると、両端はそのまま残り、間の点だけが区間に収まる。 -/
theorem mapM_clamp_pinned (hlt : lo.value < hi.value) (mid : List Decimal) :
    (lo :: mid ++ [hi]).mapM (fun s => Calc.clamp s lo hi) =
      (fun rs => lo :: rs ++ [hi]) <$> mid.mapM fun s => Calc.clamp s lo hi := by
  have hl : Calc.clamp lo lo hi = .ok lo :=
    Calc.liftSignal_eq_ok.mpr (Decimal.clamp_left hlo hhi hlt.le)
  have hr : Calc.clamp hi lo hi = .ok hi :=
    Calc.liftSignal_eq_ok.mpr (Decimal.clamp_right hlo hhi hlt)
  rw [List.mapM_append, List.mapM_cons, hl, ok_bind]
  cases mid.mapM fun s => Calc.clamp s lo hi with
  | error e => rfl
  | ok rs =>
    rw [ok_bind, List.mapM_cons, hr, ok_bind, List.mapM_nil]
    rfl

/-- 端点で置き換えて区間に収め、並べて重複を除いた列は、先頭がちょうど `lo`、最後の点の値が
`hi` の値で、2 個以上、端点で置き換えた列の長さ以下。 -/
theorem pinned_shape (hlt : lo.value < hi.value) (mid : List Decimal) :
    Returns ((lo :: mid ++ [hi]).mapM fun s => Calc.clamp s lo hi) fun clamped =>
      (sortDistinct clamped).head? = some lo ∧
      (∃ t, (sortDistinct clamped).getLast? = some t ∧ t.value = hi.value) ∧
      2 ≤ (sortDistinct clamped).length ∧ (sortDistinct clamped).length ≤ mid.length + 2 := by
  rw [mapM_clamp_pinned hlo hhi hlt, Returns.map_iff]
  have hin := Returns.mapM_forall (l := mid) (f := fun s => Calc.clamp s lo hi)
    (P := fun r => r.isNan = false ∧ lo.value ≤ r.value ∧ r.value ≤ hi.value)
    fun s _ r hr => ⟨(Decimal.clamp_eq_ok (Calc.liftSignal_eq_ok.mp hr)).1, Calc.clamp_mem hr hlt.le⟩
  refine ((hin.and (Returns.mapM_length mid))).mono fun rs ⟨hrs, hlen⟩ => ?_
  have hall : ∀ x ∈ lo :: rs ++ [hi],
      x.isNan = false ∧ lo.value ≤ x.value ∧ x.value ≤ hi.value := by
    intro x hx
    simp only [List.cons_append, List.mem_cons, List.mem_append, List.not_mem_nil, or_false] at hx
    rcases hx with rfl | hx | rfl
    · exact ⟨hlo, le_rfl, hlt.le⟩
    · exact hrs x hx
    · exact ⟨hhi, hlt.le, le_rfl⟩
  have hnan : ∀ x ∈ lo :: rs ++ [hi], x.isNan = false := fun x hx => (hall x hx).1
  obtain ⟨a, ha, hav⟩ := sortDistinct_covers hnan lo (by simp)
  obtain ⟨b, hb, hbv⟩ := sortDistinct_covers hnan hi (by simp)
  have hsorted := sortDistinct_sorted hnan
  have hmax : ∀ z ∈ sortDistinct (lo :: rs ++ [hi]), z.value ≤ b.value := fun z hz =>
    hbv ▸ (hall z (mem_sortDistinct hz)).2.2
  refine ⟨?_, ?_, ?_, ?_⟩
  · rw [List.cons_append]
    exact sortDistinct_head (by simpa using hnan) fun y hy => (hall y (by simp [hy])).2.1
  · obtain ⟨t, ht, htv⟩ := getLast_value_of_max hsorted hb hmax
    exact ⟨t, ht, htv.trans hbv⟩
  · exact two_le_length ha hb (by rw [hav, hbv]; exact hlt.ne)
  · have hl : (lo :: rs ++ [hi]).length = mid.length + 2 := by
      rw [List.cons_append, List.length_cons, List.length_append, hlen, List.length_singleton]
    exact (sortDistinct_length_le _).trans hl.le

end Pinned

/-! ## 格子 -/

section TradeSizes

variable {lo hi : Decimal} (hlo : lo.isNan = false) (hhi : hi.isNan = false)
include hlo hhi

theorem tradeSizesIn_ends (c : Decimal.Context) (n : ℤ) (spacing : String) :
    Returns (tradeSizesIn c lo hi n spacing) fun xs =>
      xs.head? = some lo ∧
      (n = 1 ∨ lo.value = hi.value → xs = [lo]) ∧
      (n ≠ 1 → lo.value ≠ hi.value →
        (∃ t, xs.getLast? = some t ∧ t.value = hi.value) ∧ 2 ≤ xs.length ∧ (xs.length : ℤ) ≤ n) := by
  intro xs hxs
  unfold tradeSizesIn at hxs
  by_cases hn : n < 1
  · rw [if_pos hn] at hxs
    cases hxs
  rw [if_neg hn, Calc.lt_of_not_nan hhi hlo, ok_bind] at hxs
  by_cases hrev : hi.value < lo.value
  · rw [decide_eq_true hrev, if_pos rfl] at hxs
    cases hxs
  rw [decide_eq_false hrev, if_neg Bool.false_ne_true] at hxs
  dsimp only at hxs
  by_cases h1 : n = 1
  · rw [if_pos (beq_iff_eq.mpr h1)] at hxs
    cases hxs
    exact ⟨rfl, fun _ => rfl, fun h => absurd h1 h⟩
  rw [if_neg (by simpa using h1), Calc.eq_of_not_nan hlo hhi, ok_bind] at hxs
  by_cases heq : lo.value = hi.value
  · rw [decide_eq_true heq, if_pos rfl] at hxs
    cases hxs
    exact ⟨rfl, fun _ => rfl, fun _ h => absurd heq h⟩
  rw [decide_eq_false heq, if_neg Bool.false_ne_true] at hxs
  have hlt := lt_of_le_of_ne (not_lt.mp hrev) heq
  -- どちらの間隔でも、点の列は `n` 個で、それを端点で置き換えて区間に収める
  obtain ⟨points, hlen, hxs⟩ : ∃ points : List Decimal, points.length = n.toNat ∧
      ((lo :: (points.drop 1).dropLast ++ [hi]).mapM (fun s => Calc.clamp s lo hi) >>=
        fun clamped => pure (sortDistinct clamped)) = .ok xs := by
    split at hxs
    · obtain ⟨_, -, hxs⟩ := bind_eq_ok hxs
      obtain ⟨_, -, hxs⟩ := bind_eq_ok hxs
      obtain ⟨points, hpoints, hxs⟩ := bind_eq_ok hxs
      exact ⟨points, (Returns.mapM_length _ _ hpoints).trans List.length_range, hxs⟩
    · split at hxs
      · obtain ⟨_, -, hxs⟩ := bind_eq_ok hxs
        split at hxs
        · cases hxs
        · obtain ⟨_, -, hxs⟩ := bind_eq_ok hxs
          obtain ⟨points, hpoints, hxs⟩ := bind_eq_ok hxs
          exact ⟨points, (Returns.mapM_length _ _ hpoints).trans List.length_range, hxs⟩
      · cases hxs
  obtain ⟨clamped, hclamped, hxs⟩ := bind_eq_ok hxs
  cases hxs
  obtain ⟨hhead, hlast, h2, hle⟩ := pinned_shape hlo hhi hlt _ clamped hclamped
  refine ⟨hhead, fun h => absurd h (by simp [h1, heq]), fun _ _ => ⟨hlast, h2, ?_⟩⟩
  rw [List.length_dropLast, List.length_drop, hlen] at hle
  omega

/--
値の誤りになるのは、標本が 1 個未満のとき、端点が逆順のとき、退化していない格子で間隔が
`linear` でも `log` でもないとき、`log` で下端が 0 以下のときだけ。点を作る段と区間に収める
段の失敗は 10 進演算の例外条件である。
-/
theorem tradeSizesIn_invalidValue_iff (c : Decimal.Context) (n : ℤ) (spacing : String) :
    (∃ msg, tradeSizesIn c lo hi n spacing = .error (.invalidValue msg)) ↔
      n < 1 ∨ hi.value < lo.value ∨
        n ≠ 1 ∧ lo.value ≠ hi.value ∧
          (spacing ≠ "linear" ∧ spacing ≠ "log" ∨ spacing = "log" ∧ lo.value ≤ 0) := by
  have hclamp : ∀ points : List Decimal,
      SignalsOnly ((lo :: (points.drop 1).dropLast ++ [hi]).mapM fun s => Calc.clamp s lo hi) :=
    fun _ => SignalsOnly.mapM fun _ _ => .liftSignal _
  unfold tradeSizesIn
  by_cases hn : n < 1
  · rw [if_pos hn]
    exact iff_of_true ⟨_, rfl⟩ (Or.inl hn)
  rw [if_neg hn, Calc.lt_of_not_nan hhi hlo, ok_bind]
  by_cases hrev : hi.value < lo.value
  · rw [decide_eq_true hrev, if_pos rfl]
    exact iff_of_true ⟨_, rfl⟩ (Or.inr (Or.inl hrev))
  rw [decide_eq_false hrev, if_neg Bool.false_ne_true]
  dsimp only
  simp only [hn, hrev, false_or]
  by_cases h1 : n = 1
  · rw [if_pos (beq_iff_eq.mpr h1)]
    exact iff_of_false (fun ⟨_, h⟩ => by cases h) fun h => h.1 h1
  rw [if_neg (by simpa using h1), Calc.eq_of_not_nan hlo hhi, ok_bind]
  by_cases heq : lo.value = hi.value
  · rw [decide_eq_true heq, if_pos rfl]
    exact iff_of_false (fun ⟨_, h⟩ => by cases h) fun h => h.2.1 heq
  rw [decide_eq_false heq, if_neg Bool.false_ne_true]
  simp only [ne_eq, h1, heq, not_false_eq_true, true_and]
  -- 10 進演算の例外条件でしか失敗しない計算は、値の誤りで終わらない
  have hnone : ∀ {x : Except Fault (List Decimal)}, SignalsOnly x →
      ¬ ∃ msg, x = .error (.invalidValue msg) := by
    rintro x hx ⟨msg, h⟩
    obtain ⟨s, hs⟩ := hx _ h
    cases hs
  by_cases hlin : spacing = "linear"
  · subst hlin
    rw [if_pos (beq_self_eq_true _)]
    refine iff_of_false (hnone ?_) (by simp)
    refine (SignalsOnly.liftSignal _).bind fun _ _ => (SignalsOnly.liftSignal _).bind fun _ _ => ?_
    refine (SignalsOnly.mapM fun i _ => linearPoint_signalsOnly c _ _ i).bind fun points _ => ?_
    exact (hclamp points).bind fun _ _ => .pure _
  rw [if_neg (by simpa using hlin)]
  by_cases hlog : spacing = "log"
  · subst hlog
    have hz : (Calc.ofInt 0).value = 0 := Calc.value_lit_zero
    rw [if_pos (beq_self_eq_true _), Calc.le_of_not_nan hlo rfl, hz, ok_bind]
    by_cases hpos : lo.value ≤ 0
    · rw [decide_eq_true hpos, if_pos rfl]
      exact iff_of_true ⟨_, rfl⟩ (Or.inr ⟨rfl, hpos⟩)
    rw [decide_eq_false hpos, if_neg Bool.false_ne_true]
    refine iff_of_false (hnone ?_) (by simp [hpos])
    refine (SignalsOnly.liftSignal _).bind fun _ _ => ?_
    refine (SignalsOnly.mapM fun i _ => logPoint_signalsOnly c _ _ _ i).bind fun points _ => ?_
    exact (hclamp points).bind fun _ _ => .pure _
  rw [if_neg (by simpa using hlog)]
  exact iff_of_true ⟨_, rfl⟩ (Or.inl ⟨hlin, hlog⟩)

end TradeSizes

/--
候補の取引量の格子。NaN でない端点について、返る格子は値の狭義の昇順で、どの点も
`[minSize, maxSize]` にあり、先頭はちょうど `minSize` である。`samples = 1` か端点の値が
等しければ `[minSize]`、そうでなければ最後の点の値は `maxSize` の値で、点は 2 個以上
`samples` 個以下。値の誤りになるのは、標本が 1 個未満のとき、端点が逆順のとき、退化して
いない格子で間隔が未知のときか、`log` で `minSize` が 0 以下のときだけ。
-/
theorem tradeSizes_shape_and_errors {minSize maxSize : Decimal} (hmin : minSize.isNan = false)
    (hmax : maxSize.isNan = false) (samples : ℤ) (spacing : String) :
    (∀ xs, tradeSizes minSize maxSize samples spacing = .ok xs →
      xs.Pairwise (fun a b => a.value < b.value) ∧
      (∀ x ∈ xs, minSize.value ≤ x.value ∧ x.value ≤ maxSize.value) ∧
      xs.head? = some minSize ∧
      (samples = 1 ∨ minSize.value = maxSize.value → xs = [minSize]) ∧
      (samples ≠ 1 → minSize.value ≠ maxSize.value →
        (∃ t, xs.getLast? = some t ∧ t.value = maxSize.value) ∧
          2 ≤ xs.length ∧ (xs.length : ℤ) ≤ samples)) ∧
    ((∃ msg, tradeSizes minSize maxSize samples spacing = .error (.invalidValue msg)) ↔
      samples < 1 ∨ maxSize.value < minSize.value ∨
        samples ≠ 1 ∧ minSize.value ≠ maxSize.value ∧
          (spacing ≠ "linear" ∧ spacing ≠ "log" ∨ spacing = "log" ∧ minSize.value ≤ 0)) :=
  ⟨(tradeSizes_sorted minSize maxSize samples spacing).and
      ((tradeSizes_mem minSize maxSize samples spacing).and
        (tradeSizesIn_ends hmin hmax Calc.ctx samples spacing)),
    tradeSizesIn_invalidValue_iff hmin hmax Calc.ctx samples spacing⟩

/-- 下端が 0 の `log` の格子は値の誤り。 -/
theorem tradeSizes_log_from_zero :
    ∃ msg, tradeSizes (.finite false 0 0) (.finite false 10 0) 4 "log" =
      .error (.invalidValue msg) := by
  have h0 : (Decimal.finite false 0 0).value = 0 := Calc.value_lit_zero
  have h10 : (Decimal.finite false 10 0).value ≠ 0 := by
    simp [Decimal.value, Decimal.signedValue, Decimal.magnitude]
  refine (tradeSizes_shape_and_errors rfl rfl 4 "log").2.mpr (Or.inr (Or.inr ⟨by decide, ?_, ?_⟩))
  · rw [h0]
    exact fun h => h10 h.symm
  · exact Or.inr ⟨rfl, h0.le⟩

end Grid

end CrossPool
