import Mathlib
import CrossPool.Proofs.Monitor.Windows

/-!
# 記録の書き込みの効果

`updatePool` は最初に記録を保管所に入れ、それから値付けに足りる記録なら価格を安定度の窓に
加え、最後に書き込みを計測値に数える。途中で失敗すれば、そこまでの変化を残したまま止まる。

書き込みの結果は四つの場合に分かれる（`updatePool_of_unenriched`、`updatePool_of_priced`、
`updatePool_of_unpriced`）。

* 値付けに足りない記録：窓は変わらず、書き込みを数える。
* 値付けできた記録：窓を持つか作れるなら価格を窓に加えて数える。窓を作れない長さの安定度では、
  その失敗で止まる。
* 値付けが読み飛ばせる失敗（流動性不足、幅の超過）で終わった記録：ログを残して数える。
* 値付けがそれ以外の失敗（10 進演算の例外条件、値の誤り）で終わった記録：その失敗で止まる。

主定理 `updatePool_stores_then_counts` はこれをまとめる。記録はどの場合も保管所に残る。
書き込みが成功するのは、記録が値付けに足りないか、値付けが読み飛ばせる失敗で終わるか、
値付けでき安定度がそのアドレスの窓を持つか作れるときちょうどで、そのとき窓が伸びるのは
値付けできた記録のときだけ、計測値は種類の計数器が 1 増え、計器が保管所の記録の数になる。
失敗で終われば計測値は変わらない。したがって、桁数の大きすぎる記録を書くと、記録は保管所に
残るのに書き込みは数えられない（`updatePool_stores_without_counting_on_huge_decimals`）。
-/

namespace CrossPool

namespace Metrics

/-- 種類 `kind` の書き込みの計数器の値。まだ一度も増えていなければ 0。 -/
def poolUpdateCount (mt : Metrics) (kind : String) : Float :=
  ((mt.poolUpdates.find? (·.1 == kind)).map (·.2)).getD 0.0

/-- 書き込みを数えると、その種類の計数器はちょうど 1 増える。 -/
theorem poolUpdateCount_recordPoolUpdate (mt : Metrics) (kind : String) :
    (mt.recordPoolUpdate kind).poolUpdateCount kind = mt.poolUpdateCount kind + 1.0 := by
  unfold recordPoolUpdate poolUpdateCount bump
  -- 書き換えた項目も鍵は変わらないので、探す位置は同じ
  have hcomp : ((fun p : String × Float => p.1 == kind) ∘
      fun p => if p.1 == kind then (p.1, p.2 + 1.0) else p) = fun p => p.1 == kind := by
    funext p
    by_cases hp : p.1 = kind <;> simp [hp]
  cases hf : mt.poolUpdates.find? (·.1 == kind) with
  | some e =>
    have hk : e.1 = kind := by simpa using List.find?_some hf
    rw [if_pos (List.any_eq_true.mpr ⟨e, List.mem_of_find?_eq_some hf, by simp [hk]⟩),
      List.find?_map, hcomp, hf]
    simp [hk]
  | none =>
    have hany : ¬ (mt.poolUpdates.any fun p => p.1 == kind) = true := fun hany =>
      let ⟨e, he, hk⟩ := List.any_eq_true.mp hany
      List.find?_eq_none.mp hf e he hk
    rw [if_neg hany, List.find?_append, hf]
    simp only [Option.none_or, List.find?_singleton, beq_self_eq_true, if_true, Option.map_some,
      Option.getD_some, Option.map_none, Option.getD_none]
    decide +kernel

theorem poolUpdateCount_updateCachedPools (mt : Metrics) (n : Nat) (kind : String) :
    (mt.updateCachedPools n).poolUpdateCount kind = mt.poolUpdateCount kind := rfl

end Metrics

namespace Stability

/-- 浮動小数点数にできる価格は、窓があるか作れる長さなら窓の末尾に加わる。 -/
theorem add_of_accepting {s : Stability} {a : String} {pr : Decimal} {x : Float}
    (hx : Calc.toFloat pr = .ok x) (hacc : (s.window? a).isSome ∨ validSize s.windowSize = true) :
    s.add a pr = (s.putWindow a (push s.windowSize ((s.window? a).getD []) x), .ok ()) := by
  cases hw : s.window? a with
  | some w =>
    unfold add
    simp only [hw, hx, Option.getD_some]
  | none =>
    have hv : validSize s.windowSize = true := by simpa [hw] using hacc
    have hfst := add_of_new hw hv hx
    unfold add at hfst ⊢
    cases hs : s.windowSize with
    | none => simp only [hw, hx, Option.getD_none]
    | some n =>
      rw [hs] at hv
      obtain ⟨h0, h1⟩ : 0 ≤ n ∧ n < Int.pow 2 63 := by simpa [validSize] using hv
      have hbig : (decide (n < -Int.pow 2 63) || decide (Int.pow 2 63 ≤ n)) = false := by
        have : (0 : Int) ≤ Int.pow 2 63 := by decide
        simp only [Bool.or_eq_false_iff, decide_eq_false_iff_not]
        omega
      simp only [hw, hbig, hx, Bool.false_eq_true, if_false, not_lt.mpr h0, Option.getD_none]

/-- 窓がなく作れない長さなら、観測を加えようとすると失敗し、何も変わらない。 -/
theorem add_of_rejecting {s : Stability} {a : String} {pr : Decimal}
    (hn : s.window? a = none) (hv : validSize s.windowSize = false) :
    ∃ e, s.add a pr = (s, .error e) := by
  unfold add
  cases hs : s.windowSize with
  | none => rw [hs] at hv; cases hv
  | some n =>
    rw [hs] at hv
    have hbad : n < 0 ∨ Int.pow 2 63 ≤ n := by
      simp only [validSize, Bool.and_eq_false_iff, decide_eq_false_iff_not, not_le, not_lt] at hv
      exact hv
    have hpow : Int.pow 2 63 = 9223372036854775808 := by decide
    simp only [hn]
    split_ifs with h₁ h₂
    · exact ⟨_, rfl⟩
    · exact ⟨_, rfl⟩
    · simp only [Bool.or_eq_true, decide_eq_true_eq, not_or, not_lt] at h₁
      omega

end Stability

namespace Monitor

/-! ## 書き込みの四つの場合 -/

/-- 記録を保管所に入れただけの状態。 -/
def stored (m : Monitor) (p : PoolState) : Monitor := { m with cache := (m.cache.upsert p).1 }

/-- 種類 `kind` の書き込みを数えた状態：種類の計数器を 1 増やし、計器を保管所の記録の数にする。 -/
def counted (m : Monitor) (kind : String) : Monitor :=
  { m with metrics := m.metrics.map fun mt => (mt.recordPoolUpdate kind).updateCachedPools m.cache.size }

/-- 値付けに足りない記録は、どの thread の context でも、書いて数えるだけ。 -/
theorem updatePoolIn_of_unenriched (c : Decimal.Context) {p : PoolState} (he : p.isEnriched = false)
    (m : Monitor) : updatePoolIn c p m = .ok () (counted (stored m p) p.kind.value) := by
  simp only [updatePoolIn, he, Bool.false_eq_true, if_false, bind, EStateM.bind, get, getThe,
    MonadStateOf.get, EStateM.get, measure, modify, modifyGet, MonadStateOf.modifyGet,
    EStateM.modifyGet]
  rfl

/-- 値付けできた記録では、観測を加えた安定度を残し、加えられたときだけ数える。 -/
theorem updatePoolIn_of_priced (c : Decimal.Context) {p : PoolState} {pr : Decimal}
    (he : p.isEnriched = true) (hp : priceIn c p = .ok pr) (m : Monitor) :
    updatePoolIn c p m = match (m.stability.add p.address pr).2 with
      | .ok () =>
        .ok () (counted { stored m p with stability := (m.stability.add p.address pr).1 } p.kind.value)
      | .error e => .error e { stored m p with stability := (m.stability.add p.address pr).1 } := by
  simp only [updatePoolIn, observe, he, hp, if_true, bind, EStateM.bind, get, getThe,
    MonadStateOf.get, EStateM.get, set, EStateM.set, measure, modify, modifyGet,
    MonadStateOf.modifyGet, EStateM.modifyGet, lift]
  cases (m.stability.add p.address pr).2 <;> rfl

/-- 値付けに失敗した記録では、読み飛ばせる失敗ならログを残して数え、そうでなければ止まる。 -/
theorem updatePoolIn_of_unpriced (c : Decimal.Context) {p : PoolState} {e : Fault}
    (he : p.isEnriched = true) (hp : priceIn c p = .error e) (m : Monitor) :
    updatePoolIn c p m = if isSkippable e then
        .ok () (counted { stored m p with
          log := ⟨.debug, s!"No stability sample for {p.label}: {e.message}"⟩ :: m.log } p.kind.value)
      else .error e (stored m p) := by
  simp only [updatePoolIn, he, hp, if_true, bind, EStateM.bind, get, getThe, MonadStateOf.get,
    measure, emit, modify, modifyGet, MonadStateOf.modifyGet, EStateM.modifyGet]
  split <;> rfl

theorem updatePool_of_unenriched {p : PoolState} (he : p.isEnriched = false) (m : Monitor) :
    updatePool p m = .ok () (counted (stored m p) p.kind.value) :=
  updatePoolIn_of_unenriched Calc.ctx he m

theorem updatePool_of_priced {p : PoolState} {pr : Decimal} (he : p.isEnriched = true)
    (hp : price p = .ok pr) (m : Monitor) :
    updatePool p m = match (m.stability.add p.address pr).2 with
      | .ok () =>
        .ok () (counted { stored m p with stability := (m.stability.add p.address pr).1 } p.kind.value)
      | .error e => .error e { stored m p with stability := (m.stability.add p.address pr).1 } :=
  updatePoolIn_of_priced Calc.ctx he hp m

theorem updatePool_of_unpriced {p : PoolState} {e : Fault} (he : p.isEnriched = true)
    (hp : price p = .error e) (m : Monitor) :
    updatePool p m = if isSkippable e then
        .ok () (counted { stored m p with
          log := ⟨.debug, s!"No stability sample for {p.label}: {e.message}"⟩ :: m.log } p.kind.value)
      else .error e (stored m p) :=
  updatePoolIn_of_unpriced Calc.ctx he hp m

/-! ## 主定理 -/

/-- 書き込みが成功する条件：記録が値付けに足りないか、値付けが読み飛ばせる失敗で終わるか、
値付けでき、安定度がそのアドレスの窓を持つか作れる長さである。 -/
def UpdateSucceeds (m : Monitor) (p : PoolState) : Prop :=
  p.isEnriched = false ∨ (∃ e, price p = .error e ∧ isSkippable e = true) ∨
    ∃ pr, price p = .ok pr ∧
      ((m.stability.window? p.address).isSome ∨ Stability.validSize m.stability.windowSize = true)

/-- 書き込みのあとの窓：値付けできた記録なら、そのアドレスの窓の末尾に価格が加わり、
そうでなければ安定度は変わらない。 -/
def SampleRecorded (m s : Monitor) (p : PoolState) : Prop :=
  (∃ pr x, p.isEnriched = true ∧ price p = .ok pr ∧ Calc.toFloat pr = .ok x ∧
      s.stability.window? p.address =
        some (Stability.push m.stability.windowSize ((m.stability.window? p.address).getD []) x) ∧
      ∀ a, a ≠ p.address → s.stability.window? a = m.stability.window? a) ∨
    ((p.isEnriched = false ∨ ∃ e, price p = .error e) ∧ s.stability = m.stability)

/-- 書き込みを数えると、計測するどの監視器でも種類の計数器がちょうど 1 増え、計器は保管所の
記録の数になる。 -/
theorem counted_counts (m : Monitor) (kind : String) :
    ∀ mt ∈ m.metrics, ∃ mt' ∈ (counted m kind).metrics,
      mt'.poolUpdateCount kind = mt.poolUpdateCount kind + 1.0 ∧
        mt'.cachedPools = (counted m kind).cache.size.toFloat := by
  intro mt hmt
  refine ⟨_, Option.mem_map_of_mem _ hmt, ?_, rfl⟩
  rw [Metrics.poolUpdateCount_updateCachedPools, Metrics.poolUpdateCount_recordPoolUpdate]

/--
記録 `p` を書く。不変量を満たす保管所の監視器から始めれば、次が成り立つ。

* 成功しても失敗しても、記録は保管所にある。
* 成功するのは `UpdateSucceeds` のときちょうど。
* 成功すれば、窓は `SampleRecorded` のとおりで、計測値は種類の計数器を 1 増やし、計器を保管所の
  記録の数にしたもの。
* 失敗すれば、計測値は変わらない。失敗は値付けの読み飛ばせない失敗か、窓を作れない失敗。
-/
theorem updatePool_stores_then_counts {m : Monitor} (hw : m.cache.WF) (p : PoolState) :
    (finalState (updatePool p m)).cache.get? p.address = some p ∧
    ((∃ s, updatePool p m = .ok () s) ↔ UpdateSucceeds m p) ∧
    (∀ s, updatePool p m = .ok () s → SampleRecorded m s p ∧
      s.metrics = m.metrics.map (fun mt => (mt.recordPoolUpdate p.kind.value).updateCachedPools s.cache.size) ∧
      ∀ mt ∈ m.metrics, ∃ mt' ∈ s.metrics, mt'.poolUpdateCount p.kind.value = mt.poolUpdateCount p.kind.value + 1.0 ∧
        mt'.cachedPools = s.cache.size.toFloat) ∧
    ∀ e s, updatePool p m = .error e s → s.metrics = m.metrics ∧
      ((price p = .error e ∧ isSkippable e = false) ∨
        ∃ pr, price p = .ok pr ∧ (m.stability.add p.address pr).2 = .error e) := by
  refine ⟨by rw [cache_updatePool, PoolCache.get?_upsert_eq_update hw.shards_pos, Function.update_self], ?_⟩
  cases he : p.isEnriched
  · rw [updatePool_of_unenriched he]
    refine ⟨iff_of_true ⟨_, rfl⟩ (.inl he), fun s hs => ?_, fun e s hs => (by cases hs)⟩
    cases hs
    exact ⟨.inr ⟨.inl he, rfl⟩, rfl, counted_counts (stored m p) _⟩
  cases hp : price p with
  | error e =>
    rw [updatePool_of_unpriced he hp]
    cases hsk : isSkippable e
    · rw [if_neg (by simp)]
      refine ⟨iff_of_false (by simp) ?_, fun s hs => (by cases hs), fun e' s hs => ?_⟩
      · rintro (h | ⟨e', he', hs'⟩ | ⟨pr, hpr, -⟩)
        · simp [he] at h
        · rw [hp, Except.error.injEq] at he'
          simp [← he', hsk] at hs'
        · rw [hp] at hpr
          cases hpr
      · cases hs
        exact ⟨rfl, .inl ⟨rfl, hsk⟩⟩
    · rw [if_pos rfl]
      refine ⟨iff_of_true ⟨_, rfl⟩ (.inr (.inl ⟨e, hp, hsk⟩)), fun s hs => ?_,
        fun e' s hs => (by cases hs)⟩
      cases hs
      exact ⟨.inr ⟨.inr ⟨e, hp⟩, rfl⟩, rfl, counted_counts { stored m p with log := _ } _⟩
  | ok pr =>
    obtain ⟨x, hx⟩ := Calc.toFloat_of_isFinite (price_isFinite hp)
    rw [updatePool_of_priced he hp]
    by_cases hacc : (m.stability.window? p.address).isSome ∨
        Stability.validSize m.stability.windowSize = true
    · rw [Stability.add_of_accepting hx hacc]
      refine ⟨iff_of_true ⟨_, rfl⟩ (.inr (.inr ⟨pr, hp, hacc⟩)), fun s hs => ?_,
        fun e s hs => (by cases hs)⟩
      cases hs
      refine ⟨.inl ⟨pr, x, he, hp, hx, ?_, fun a ha => ?_⟩, rfl,
        counted_counts { stored m p with stability := _ } _⟩
      · simp [stored, counted, Stability.window?_putWindow]
      · simp [stored, counted, Stability.window?_putWindow, ha]
    · have hn : m.stability.window? p.address = none := by simpa using (not_or.mp hacc).1
      have hv : Stability.validSize m.stability.windowSize = false := by
        simpa using (not_or.mp hacc).2
      obtain ⟨e, hadd⟩ : ∃ e, m.stability.add p.address pr = (m.stability, .error e) :=
        Stability.add_of_rejecting hn hv
      rw [hadd]
      refine ⟨iff_of_false (by simp) ?_, fun s hs => (by cases hs), fun e' s hs => ?_⟩
      · rintro (h | ⟨e', he', -⟩ | ⟨-, -, hacc'⟩)
        · simp [he] at h
        · rw [hp] at he'
          cases he'
        · exact hacc hacc'
      · cases hs
        exact ⟨rfl, .inr ⟨pr, rfl, by rw [hadd]⟩⟩

/-- 空の監視器に、準備量 1 と 2 の定積プール `a` を書く。保管所は不変量を満たす。 -/
theorem updatePool_stores_then_counts_on_empty_monitor :
    let m : Monitor :=
      ⟨⟨PoolCache.strHash, [[]], []⟩, Stability.empty (some 20) 0.02, 30.0, 1000.0, some Metrics.empty, []⟩
    let p : PoolState := { (default : PoolState) with address := "a", reserveA := 1, reserveB := 2 }
    m.cache.WF ∧
    (finalState (updatePool p m)).cache.get? p.address = some p ∧
    ((∃ s, updatePool p m = .ok () s) ↔ UpdateSucceeds m p) ∧
    (∀ s, updatePool p m = .ok () s → SampleRecorded m s p ∧
      s.metrics = m.metrics.map (fun mt => (mt.recordPoolUpdate p.kind.value).updateCachedPools s.cache.size) ∧
      ∀ mt ∈ m.metrics, ∃ mt' ∈ s.metrics, mt'.poolUpdateCount p.kind.value = mt.poolUpdateCount p.kind.value + 1.0 ∧
        mt'.cachedPools = s.cache.size.toFloat) ∧
    ∀ e s, updatePool p m = .error e s → s.metrics = m.metrics ∧
      ((price p = .error e ∧ isSkippable e = false) ∨
        ∃ pr, price p = .ok pr ∧ (m.stability.add p.address pr).2 = .error e) := by
  intro m p
  have hw : m.cache.WF := (PoolCache.WF.createWith (n := 1) rfl).1
  exact ⟨hw, updatePool_stores_then_counts hw p⟩

/-- 指数の上限を超える桁数 `decimalsA = 1000000` の定積プールの記録を、空の監視器に書く。
`10^1000000` が溢れて値付けは 10 進演算の例外条件で終わり、書き込みはその失敗で止まる。
記録は保管所に残るが、書き込みは数えられない。 -/
theorem updatePool_stores_without_counting_on_huge_decimals :
    let p : PoolState := { (default : PoolState) with
      address := "x", kind := .constantProduct, tokenA := "SOL", tokenB := "USDC",
      reserveA := 1000, reserveB := 150000, feeRateBps := 25, lastUpdate := 1000.0,
      decimalsA := 1000000 }
    let m : Monitor :=
      ⟨⟨PoolCache.strHash, [[]], []⟩, Stability.empty (some 20) 0.02, 30.0, 1000.0, some Metrics.empty, []⟩
    ∃ s, updatePool p m = .error (.signal .overflow) s ∧ s.cache.get? "x" = some p ∧
      s.metrics = some Metrics.empty := by
  intro p m
  have hp : price p = .error (.signal .overflow) := by with_unfolding_all rfl
  refine ⟨_, by rw [updatePool_of_unpriced rfl hp, if_neg (by decide)], ?_, rfl⟩
  show (m.cache.upsert p).1.get? "x" = some p
  rw [PoolCache.get?_upsert (by decide), if_pos rfl]

end Monitor

end CrossPool
