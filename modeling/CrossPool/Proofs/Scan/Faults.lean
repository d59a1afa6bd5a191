import CrossPool.Detector.Scan
import CrossPool.Proofs.Cache.Map

/-!
# 走査から出てくる失敗

走査と最良のプールの探索は、値付けできないプール（流動性不足）と、整数の幅を超えた
取引量（`overflow`）を読み飛ばして数える。ここでは、この二つの種類の失敗（`isSkippable`）が
決して外に出ないことを示す。外に出うるのは、読み飛ばしの対象でない失敗、つまり 10 進演算の
例外条件（桁あふれ、0 除算、不正な演算）と値の誤りだけである。

逆に、読み飛ばしの対象でない失敗は実際に外に出る。極端な小数点の桁数を持つ記録では、
価格の逆数が桁あふれを起こし、走査そのものが失敗で終わる。

やり方は二段である。

1. **値の計算**：`SkipFree x` は「`x` が失敗するなら読み飛ばせない失敗」。10 進演算は
   例外条件でしか失敗しないので、演算を `bind` でつないだ計算はどれも `SkipFree` になる。
   `bind` の補題を `simp` に渡せば、評価の計算はその形のまま確かめられる。
2. **操作**：`StepSkipFree x` は同じことを監視器の操作について言う。読み飛ばしの枝は
   失敗を値に変え、最後の枝は読み飛ばせない失敗だけを投げ直す。
-/

namespace CrossPool.Monitor

/-! ## 値の計算 -/

/-- 計算 `x` が失敗するなら、その失敗は読み飛ばせない。 -/
def SkipFree {α : Type} (x : Except Fault α) : Prop := ∀ e, x = .error e → isSkippable e = false

namespace SkipFree

variable {α β : Type}

@[simp] theorem pure (a : α) : SkipFree (Pure.pure a : Except Fault α) := by
  intro e h
  cases h

@[simp] theorem ok (a : α) : SkipFree (Except.ok a : Except Fault α) := pure a

@[simp] theorem error_iff (e : Fault) : SkipFree (Except.error e : Except Fault α) ↔ isSkippable e = false :=
  ⟨fun h => h e rfl, fun h e' he => by cases he; exact h⟩

@[simp] theorem throw_iff (e : Fault) : SkipFree (throw e : Except Fault α) ↔ isSkippable e = false :=
  ⟨fun h => h e rfl, fun h e' he => by cases he; exact h⟩

@[simp] theorem bind_iff {x : Except Fault α} {f : α → Except Fault β} :
    SkipFree (x >>= f) ↔ SkipFree x ∧ ∀ a, x = .ok a → SkipFree (f a) := by
  cases x with
  | error e =>
    have hb : (Except.error e >>= f : Except Fault β) = .error e := rfl
    simp only [SkipFree, hb, reduceCtorEq, false_implies, implies_true, and_true]
    exact ⟨fun h e' he => by cases he; exact h e rfl, fun h e' he => by cases he; exact h e rfl⟩
  | ok a =>
    have hb : (Except.ok a >>= f : Except Fault β) = f a := rfl
    simp only [SkipFree, hb, reduceCtorEq, false_implies, implies_true, Except.ok.injEq, true_and]
    exact ⟨fun h _ ha => ha ▸ h, fun h => h a rfl⟩

@[simp] theorem map_iff {x : Except Fault α} {f : α → β} : SkipFree (f <$> x) ↔ SkipFree x := by
  cases x with
  | error e =>
    have hm : (f <$> Except.error e : Except Fault β) = .error e := rfl
    simp only [SkipFree, hm]
    exact ⟨fun h e' he => by cases he; exact h e rfl, fun h e' he => by cases he; exact h e rfl⟩
  | ok a =>
    have hm : (f <$> Except.ok a : Except Fault β) = .ok (f a) := rfl
    simp only [SkipFree, hm, reduceCtorEq, false_implies, implies_true]

@[simp] theorem ite_iff {c : Prop} [Decidable c] {x y : Except Fault α} :
    SkipFree (if c then x else y) ↔ (c → SkipFree x) ∧ (¬c → SkipFree y) := by
  by_cases hc : c <;> simp [hc]

/-- 10 進演算は例外条件でしか失敗しない。 -/
@[simp] theorem liftSignal (r : Except Decimal.Signal α) : SkipFree (CrossPool.liftSignal r) := by
  intro e he
  cases r with
  | error s =>
    cases he
    rfl
  | ok a => cases he

@[simp] theorem toFloat (d : Decimal) : SkipFree (Calc.toFloat d) := by
  intro e he
  unfold Calc.toFloat at he
  split at he
  · cases he
  · cases he
    rfl

end SkipFree

/-- 流動性不足でも幅の超過でもない失敗は読み飛ばせない。 -/
theorem isSkippable_eq_false_of {e : Fault} (h1 : ∀ a m, e = .insufficientLiquidity a m → False)
    (h2 : ∀ o m, e = .overflow o m → False) : isSkippable e = false := by
  cases e with
  | insufficientLiquidity a m => exact (h1 a m rfl).elim
  | overflow o m => exact (h2 o m rfl).elim
  | _ => rfl

/-! ### 評価の計算

どれも 10 進演算を `bind` でつないだだけなので、定義を展開して `simp` で確かめる。 -/

@[simp] theorem skipFree_percentage (value total : Decimal) :
    SkipFree (Rate.percentage value total) := by
  simp [Rate.percentage, Calc.eq, Calc.mul, Calc.div]

@[simp] theorem skipFree_bpsToRate (bps : Decimal) : SkipFree (Rate.bpsToRate bps) := by
  simp [Rate.bpsToRate, Calc.div]

@[simp] theorem skipFree_gasCost (gross : Decimal) (s : Settings) : SkipFree (gasCost gross s) := by
  simp [gasCost, Calc.add, Calc.mul, Calc.max]

/-- 整数の文字列化は値の誤りでしか失敗しない。 -/
@[simp] theorem skipFree_toDecimal (n : Int) : SkipFree (Calc.toDecimal n) := by
  simp [Calc.toDecimal, intText, apply_ite SkipFree, isSkippable]

@[simp] theorem skipFree_evaluateTradeSize (size buyPrice sellPrice buyImpact sellImpact : Decimal)
    (buyFee sellFee : Int) (buyProb sellProb : Float) (s : Settings) :
    SkipFree (evaluateTradeSize size buyPrice sellPrice buyImpact sellImpact buyFee sellFee buyProb
      sellProb s) := by
  simp [evaluateTradeSize, Calc.add, Calc.sub, Calc.mul]

@[simp] theorem skipFree_spreadPct (buyPrice sellPrice : Decimal) :
    SkipFree (spreadPct buyPrice sellPrice) := by
  simp [spreadPct, Rate.rateToPct, Calc.le, Calc.sub, Calc.div, Calc.mul]

@[simp] theorem skipFree_evScore (ev fullScale : Decimal) : SkipFree (evScore ev fullScale) := by
  simp [evScore, Calc.le, Calc.div, Calc.mul]

theorem skipFree_better (best : Option PoolQuote) (q : PoolQuote) : SkipFree (better best q) := by
  unfold better
  split <;> simp [Calc.lt, Calc.eq]

/-! ## 操作 -/

/-- 操作 `x` が、どの状態から始めても、失敗で終わるならその失敗は読み飛ばせない。 -/
def StepSkipFree {α : Type} (x : Step α) : Prop :=
  ∀ m e m', x m = .error e m' → isSkippable e = false

namespace StepSkipFree

variable {α β : Type}

theorem pure (a : α) : StepSkipFree (Pure.pure a : Step α) := by
  intro m e m' h
  cases h

theorem bind {x : Step α} {f : α → Step β} (hx : StepSkipFree x) (hf : ∀ a, StepSkipFree (f a)) :
    StepSkipFree (x >>= f) := by
  intro m e m' h
  change EStateM.bind x f m = _ at h
  unfold EStateM.bind at h
  cases hxm : x m with
  | ok a s => rw [hxm] at h; exact hf a s e m' h
  | error e' s =>
    rw [hxm] at h
    cases h
    exact hx m _ _ hxm

theorem map {x : Step α} {f : α → β} (hx : StepSkipFree x) : StepSkipFree (f <$> x) := by
  intro m e m' h
  change EStateM.map f x m = _ at h
  unfold EStateM.map at h
  cases hxm : x m with
  | ok a s => rw [hxm] at h; cases h
  | error e' s =>
    rw [hxm] at h
    cases h
    exact hx m _ _ hxm

theorem get : StepSkipFree (MonadState.get : Step Monitor) := by
  intro m e m' h
  cases h

theorem modify (f : Monitor → Monitor) : StepSkipFree (modify f : Step Unit) := by
  intro m e m' h
  cases h

theorem throw {e : Fault} (he : isSkippable e = false) : StepSkipFree (throw e : Step α) := by
  intro m e' m' h
  cases h
  exact he

theorem lift {r : Except Fault α} (hr : SkipFree r) : StepSkipFree (Monitor.lift r) := by
  cases r with
  | ok a => exact pure a
  | error e => exact throw (hr e rfl)

theorem emit (level : Log.Level) (message : String) : StepSkipFree (Monitor.emit level message) :=
  modify _

theorem measure (f : Metrics → Metrics) : StepSkipFree (Monitor.measure f) := modify _

theorem recordSkip (reason : String) : StepSkipFree (Monitor.recordSkip reason) := measure _

/-- 畳み込みは各段が読み飛ばせる失敗を出さなければ出さない。 -/
theorem foldlM {f : β → α → Step β} (hf : ∀ b a, StepSkipFree (f b a)) :
    ∀ (l : List α) (init : β), StepSkipFree (l.foldlM f init)
  | [], _ => pure _
  | a :: l, init => by
    rw [List.foldlM_cons]
    exact bind (hf init a) fun b => foldlM hf l b

theorem filterMapM {f : α → Step (Option β)} (hf : ∀ a, StepSkipFree (f a)) (l : List α) :
    StepSkipFree (l.filterMapM f) := by
  -- 本体は集めた結果 `acc` を引数に持つ再帰
  suffices h : ∀ acc, StepSkipFree (List.filterMapM.loop f l acc) from h []
  induction l with
  | nil => exact fun _ => pure _
  | cons a l ih =>
    intro acc
    refine bind (hf a) fun b => ?_
    cases b with
    | none => exact ih acc
    | some b => exact ih (b :: acc)

end StepSkipFree

theorem bind_eq_error {α β : Type} {x : Step α} {f : α → Step β} {m m' : Monitor} {e : Fault}
    (h : x m = .error e m') : (x >>= f) m = .error e m' := by
  change EStateM.bind x f m = _
  simp only [EStateM.bind, h]

theorem filterMapM_eq_error {α β : Type} {f : α → Step (Option β)} {a : α} {l : List α}
    {m m' : Monitor} {e : Fault} (h : f a m = .error e m') :
    (List.cons a l).filterMapM f m = .error e m' :=
  bind_eq_error h

end CrossPool.Monitor

namespace CrossPool.Detector

open Monitor

@[simp] theorem skipFree_keepBetter (best ev : Option TradeEvaluation) :
    SkipFree (keepBetter best ev) := by
  unfold keepBetter
  split <;> simp [Calc.lt]

@[simp] theorem skipFree_buildOpportunity (d : Detector) (p : MonitoredPair) (buy sell : PoolState)
    (buyPrice sellPrice : Decimal) (b : TradeEvaluation) (now : Float) :
    SkipFree (d.buildOpportunity p buy sell buyPrice sellPrice b now) := by
  simp [buildOpportunity]

/-! ### 読み飛ばしの枝

値付けと見積もりの失敗のうち、流動性不足と幅の超過は値 `none` に変わる。最後の枝が
投げ直すのはそれ以外の失敗だけである。 -/

theorem stepSkipFree_safePrice (p : MonitoredPair) (pool : PoolState) :
    StepSkipFree (safePrice p pool) := by
  unfold safePrice
  split
  · exact .pure _
  · exact (StepSkipFree.emit _ _).bind fun _ => (StepSkipFree.recordSkip _).bind fun _ => .pure _
  · exact (StepSkipFree.emit _ _).bind fun _ => (StepSkipFree.recordSkip _).bind fun _ => .pure _
  · rename_i e h1 h2 _
    exact .throw (isSkippable_eq_false_of h1 h2)

theorem stepSkipFree_evaluateSize (d : Detector) (size : Decimal) (buy sell : PoolState)
    (buyPrice sellPrice : Decimal) (buyAToB sellAToB : Bool) (now : Float) :
    StepSkipFree (d.evaluateSize size buy sell buyPrice sellPrice buyAToB sellAToB now) := by
  unfold evaluateSize
  refine StepSkipFree.get.bind fun m => (StepSkipFree.lift (by simp [Calc.mul])).bind fun _ => ?_
  dsimp only
  split
  · exact (StepSkipFree.lift (skipFree_evaluateTradeSize _ _ _ _ _ _ _ _ _ _)).map
  · exact (StepSkipFree.emit _ _).bind fun _ => (StepSkipFree.recordSkip _).bind fun _ => .pure _
  · exact (StepSkipFree.emit _ _).bind fun _ => (StepSkipFree.recordSkip _).bind fun _ => .pure _
  · rename_i e h1 h2 _
    exact .throw (isSkippable_eq_false_of h1 h2)

/-! ### 走査の各段 -/

theorem stepSkipFree_searchGrid (d : Detector) (p : MonitoredPair) (buy sell : PoolState)
    (now : Float) : StepSkipFree (d.searchGrid p buy sell now) := by
  unfold searchGrid
  refine (stepSkipFree_safePrice p buy).bind fun _ => (stepSkipFree_safePrice p sell).bind fun _ => ?_
  split
  · refine (StepSkipFree.foldlM (fun best size => ?_) _ _).bind fun best => ?_
    · exact (stepSkipFree_evaluateSize _ _ _ _ _ _ _ _ _).bind fun ev =>
        StepSkipFree.lift (skipFree_keepBetter best ev)
    split
    · exact .pure _
    · refine (StepSkipFree.lift (by simp [Calc.le])).bind fun _ => ?_
      split
      · exact .pure _
      · exact (StepSkipFree.lift (skipFree_buildOpportunity _ _ _ _ _ _ _ _)).map
  · exact .pure _

/-- 鮮度の検査は古い記録でしか失敗しない。 -/
theorem skipFree_requireFresh (m : Monitor) (buy sell : PoolState) (now : Float) :
    SkipFree (m.requireFresh buy now >>= fun _ => m.requireFresh sell now) := by
  simp [requireFresh, isSkippable]

theorem stepSkipFree_evaluate (d : Detector) (buy sell : PoolState) (p : MonitoredPair) :
    StepSkipFree (d.evaluate buy sell p) := by
  unfold evaluate
  refine StepSkipFree.get.bind fun m => ?_
  dsimp only
  split
  · exact stepSkipFree_searchGrid d p buy sell _
  · exact (StepSkipFree.emit _ _).bind fun _ => (StepSkipFree.recordSkip _).bind fun _ => .pure _
  · rename_i e _ he
    exact .throw (skipFree_requireFresh m buy sell _ e he)

theorem stepSkipFree_considerPair (d : Detector) (p : MonitoredPair) (acc : List Opportunity)
    (c : (PoolState × Decimal) × (PoolState × Decimal)) :
    StepSkipFree (d.considerPair p acc c) := by
  obtain ⟨⟨pp, prp⟩, pq, prq⟩ := c
  unfold considerPair
  refine (StepSkipFree.lift (by simp [Calc.eq])).bind fun _ => ?_
  split
  · exact .pure _
  · refine (StepSkipFree.lift (by simp [Calc.lt])).bind fun _ => ?_
    refine (stepSkipFree_evaluate d _ _ p).bind fun o => ?_
    split
    · exact .pure _
    · refine (StepSkipFree.lift (by simp [Calc.lt])).bind fun _ => ?_
      split
      · exact .pure _
      · split
        · exact .pure _
        · exact (StepSkipFree.measure _).bind fun _ => .pure _

theorem stepSkipFree_scanPair (d : Detector) (p : MonitoredPair) :
    StepSkipFree (d.scanPair p) := by
  unfold scanPair
  refine StepSkipFree.get.bind fun m => ?_
  dsimp only
  split
  · exact (StepSkipFree.emit _ _).bind fun _ => .pure _
  · refine (StepSkipFree.filterMapM (fun pool =>
      (stepSkipFree_safePrice p pool).bind fun _ => .pure _) _).bind fun priced => ?_
    exact StepSkipFree.foldlM (stepSkipFree_considerPair d p) _ _

theorem stepSkipFree_scanPairs (d : Detector) (cancelAfter : Option Nat) :
    ∀ (ps : List MonitoredPair) (i : Nat) (acc : List Opportunity),
      StepSkipFree (d.scanPairs cancelAfter ps i acc)
  | [], _, _ => .pure _
  | p :: ps, i, acc => by
    unfold scanPairs
    split
    · exact (StepSkipFree.emit _ _).bind fun _ => (StepSkipFree.measure _).bind fun _ => .pure _
    · exact (stepSkipFree_scanPair d p).bind fun found =>
        stepSkipFree_scanPairs d cancelAfter ps (i + 1) (acc ++ found)

theorem stepSkipFree_scan (d : Detector) (cancelAfter : Option Nat) :
    StepSkipFree (d.scan cancelAfter) := by
  unfold scan
  refine (stepSkipFree_scanPairs d cancelAfter _ 0 []).bind fun found => ?_
  refine (StepSkipFree.measure _).bind fun _ => ?_
  dsimp only
  split
  · exact (StepSkipFree.emit _ _).bind fun _ => .pure _
  · exact (StepSkipFree.emit _ _).bind fun _ => .pure _

end CrossPool.Detector

namespace CrossPool.Monitor

/-! ## 最良のプールの探索 -/

/-- 見積もりの失敗の読み飛ばし。流動性不足と幅の超過に加えて、不正な記録も読み飛ばす。 -/
theorem stepSkipFree_skipPool (p : PoolState) (e : Fault) : StepSkipFree (skipPool p e) := by
  unfold skipPool
  split
  · exact (StepSkipFree.emit _ _).bind fun _ => StepSkipFree.recordSkip _
  · exact (StepSkipFree.emit _ _).bind fun _ => StepSkipFree.recordSkip _
  · exact (StepSkipFree.emit _ _).bind fun _ => StepSkipFree.recordSkip _
  · rename_i e h1 h2 _
    exact .throw (isSkippable_eq_false_of h1 h2)

theorem stepSkipFree_considerPool (tokenIn : String) (size : Decimal) (now : Float)
    (best : Option PoolQuote) (p : PoolState) :
    StepSkipFree (considerPool tokenIn size now best p) := by
  unfold considerPool
  refine StepSkipFree.get.bind fun m => ?_
  dsimp only
  split
  · exact (stepSkipFree_skipPool p _).bind fun _ => .pure _
  · split
    · exact .pure _
    · refine (StepSkipFree.lift (by simp [Calc.le])).bind fun _ => ?_
      split
      · exact .pure _
      · exact (StepSkipFree.lift (by simp [Calc.mul])).bind fun _ =>
          StepSkipFree.lift (skipFree_better _ _)

theorem stepSkipFree_findBestPool (tokenIn tokenOut : String) (size : Decimal) :
    StepSkipFree (findBestPool tokenIn tokenOut size) := by
  unfold findBestPool
  exact StepSkipFree.get.bind fun m =>
    StepSkipFree.foldlM (stepSkipFree_considerPool tokenIn size m.clock) _ _

end CrossPool.Monitor

namespace CrossPool.Detector

open Monitor

/-- 走査と最良のプールの探索は、どの状態から始めても、読み飛ばせる失敗（流動性不足、幅の
超過）では終わらない。失敗で終わるのは、読み飛ばしの対象でない失敗が起きたときだけである。 -/
theorem scan_failures_are_unskippable (d : Detector) (cancelAfter : Option Nat)
    (tokenIn tokenOut : String) (size : Decimal) :
    StepSkipFree (d.scan cancelAfter) ∧ StepSkipFree (findBestPool tokenIn tokenOut size) :=
  ⟨stepSkipFree_scan d cancelAfter, stepSkipFree_findBestPool tokenIn tokenOut size⟩

/-! ## 読み飛ばせない失敗は外に出る

逆向きに、組の最初のプール（アドレスの順）の値付けが読み飛ばせない失敗で終われば、
走査もその失敗で終わる。 -/

theorem safePrice_eq_error {p : MonitoredPair} {pool : PoolState} {e : Fault}
    (h : orientedPrice pool p.tokenA p.tokenB = .error e) (he : isSkippable e = false) (m : Monitor) :
    safePrice p pool m = .error e m := by
  unfold safePrice
  rw [h]
  cases e with
  | insufficientLiquidity => simp [isSkippable] at he
  | overflow => simp [isSkippable] at he
  | _ => rfl

theorem scanPair_eq_error {d : Detector} {p : MonitoredPair} {m : Monitor} {pool : PoolState}
    {pools : List PoolState} {e : Fault}
    (hpools : m.poolsForPair p.tokenA p.tokenB p.poolAllowlist = pool :: pools) (hlen : pools ≠ [])
    (h : orientedPrice pool p.tokenA p.tokenB = .error e) (he : isSkippable e = false) :
    d.scanPair p m = .error e m := by
  have hget : ∀ {α : Type} (f : Monitor → Step α), (get >>= f : Step α) m = f m m := fun _ => rfl
  have hlong : ¬ (pool :: pools).length < 2 := by
    have := List.length_pos_iff.mpr hlen
    simp only [List.length_cons]
    omega
  unfold scanPair
  rw [hget, hpools, if_neg hlong]
  exact bind_eq_error (filterMapM_eq_error (bind_eq_error (safePrice_eq_error h he m)))

/-- 計算が 10 進演算の例外条件 `s` で失敗したか。具体的な計算を評価して確かめるのに使う。 -/
def failsWith {α : Type} (s : Decimal.Signal) : Except Fault α → Bool
  | .error (.signal s') => s' == s
  | _ => false

theorem eq_of_failsWith {α : Type} {s : Decimal.Signal} {r : Except Fault α}
    (h : failsWith s r = true) : r = .error (.signal s) := by
  unfold failsWith at h
  split at h
  · rw [beq_iff_eq.mp h]
  · cases h

theorem scan_eq_error {d : Detector} {p : MonitoredPair} {ps : List MonitoredPair}
    {cancelAfter : Option Nat} {m m' : Monitor} {e : Fault} (hp : d.pairs = p :: ps)
    (hc : cancelAfter.any (· ≤ 0) = false) (h : d.scanPair p m = .error e m') :
    d.scan cancelAfter m = .error e m' := by
  unfold scan
  rw [hp]
  refine bind_eq_error ?_
  unfold scanPairs
  rw [if_neg (by rw [hc]; exact Bool.false_ne_true)]
  exact bind_eq_error h

/-- 価格の逆数が桁あふれを起こす記録を持つ保管所では、走査は桁あふれで終わる。記録 `deep` は
トークンの順が組と逆で、b の小数点の桁数が 999999 なので、価格は `1E-1000002`、その逆数は
指数の上限を超える。格子に届く前に終わるので、検出器の格子は空でよい。 -/
theorem scan_overflows_on_extreme_decimals :
    let deep : PoolState :=
      { (default : PoolState) with
        address := "deep", kind := .constantProduct, tokenA := "USDC", tokenB := "SOL",
        reserveA := 1000, reserveB := 1, decimalsB := 999999, feeRateBps := 25,
        lastUpdate := 1000.0 }
    let plain : PoolState :=
      { (default : PoolState) with
        address := "plain", kind := .constantProduct, tokenA := "SOL", tokenB := "USDC",
        reserveA := 1000000, reserveB := 150000000, feeRateBps := 25, lastUpdate := 1000.0 }
    let pair : MonitoredPair :=
      { name := "SOL/USDC", tokenA := "SOL", tokenB := "USDC", minTradeSize := Calc.lit "1",
        maxTradeSize := Calc.lit "10", poolAllowlist := none, tradeSizes := none }
    let m : Monitor :=
      ⟨((PoolCache.upsert ⟨fun _ => 0, [[]], []⟩ deep).1.upsert plain).1,
        Stability.empty (some 20) 0.02, 30.0, 1000.0, none, []⟩
    (⟨Settings.default, [pair], [], []⟩ : Detector).scan none m = .error (.signal .overflow) m := by
  intro deep plain pair m
  have hmembers : PoolCache.members m.cache.index (pairKey "SOL" "USDC") = ["deep", "plain"] := by
    decide
  have hpools : m.poolsForPair pair.tokenA pair.tokenB pair.poolAllowlist = [deep, plain] := by
    have hlen : 0 < (PoolCache.upsert ⟨fun _ => 0, [[]], []⟩ deep).1.shards.length := by
      rw [PoolCache.length_upsert]; decide
    have hdeep : m.cache.get? "deep" = some deep := by
      rw [PoolCache.get?_upsert hlen, PoolCache.get?_upsert (by decide)]
      simp [deep, plain]
    have hplain : m.cache.get? "plain" = some plain := by
      rw [PoolCache.get?_upsert hlen]
      simp [plain]
    have hfresh : m.isFresh deep m.clock = true ∧ m.isFresh plain m.clock = true := by
      decide +kernel
    have htrades : deep.tradesPair pair.tokenA pair.tokenB = true ∧
        plain.tradesPair pair.tokenA pair.tokenB = true := by
      decide
    unfold Monitor.poolsForPair PoolCache.poolsForPair
    rw [hmembers, PoolCache.sortStrings, List.mergeSort_of_pairwise (by decide)]
    simp only [List.filterMap_cons, List.filterMap_nil, hdeep, hplain, Option.filter_some,
      htrades.1, htrades.2, if_true, List.filter_cons, hfresh.1, hfresh.2, List.filter_nil,
      Bool.true_and]
    rfl
  have hprice : orientedPrice deep pair.tokenA pair.tokenB = .error (.signal .overflow) :=
    eq_of_failsWith (by decide +kernel)
  exact scan_eq_error rfl rfl (scanPair_eq_error hpools (List.cons_ne_nil _ _) hprice rfl)

end CrossPool.Detector
