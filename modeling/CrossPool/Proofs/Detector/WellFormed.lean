import Mathlib
import CrossPool.Runner
import CrossPool.Proofs.Detector.Create
import CrossPool.Proofs.Binary64.Order

/-!
# 検査を通る設定

検出器と走査器を作るときの検査（`validateSettings`、`validatePair`、組の名前の重なり、
保管所の区画の数、鮮度の上限）が求めることを、値の言葉で `WellFormed` にまとめる。それを
満たす設定では、どの検査も入力をそのまま通す。

そのとき検出器を作って失敗しうるのは、取引量を指定しない組の格子を作るところだけで、
その失敗は 10 進演算の例外条件である（`SignalsOnly`）。端点の指数が大きく離れた区間では、
格子の刻みの計算が指数の上限を超える。
-/

namespace CrossPool

/-- 監視する組の検査が求めること。 -/
structure MonitoredPair.WellFormed (p : MonitoredPair) : Prop where
  tokenA : p.tokenA.isEmpty = false
  tokenB : p.tokenB.isEmpty = false
  distinct : p.tokenA ≠ p.tokenB
  minNan : p.minTradeSize.isNan = false
  maxNan : p.maxTradeSize.isNan = false
  minPos : 0 < p.minTradeSize.value
  ordered : p.minTradeSize.value ≤ p.maxTradeSize.value
  sizes : ∀ xs, p.tradeSizes = some xs → xs ≠ [] ∧ ∀ x ∈ xs, x.isNan = false ∧ p.InRange x

/-- 設定の検査が求めること。 -/
structure Settings.WellFormed (s : Settings) : Prop where
  minExecutionProb : 0.0 ≤ s.minExecutionProb ∧ s.minExecutionProb ≤ 1.0
  minEvScore : 0.0 ≤ s.minEvScore ∧ s.minEvScore ≤ 100.0
  tradeSizeSamples : 1 ≤ s.tradeSizeSamples
  gridSpacing : s.gridSpacing ∈ Validate.gridSpacings
  rateNan : s.flashLoanFeeRate.isNan = false
  rate : 0 ≤ s.flashLoanFeeRate.value ∧ s.flashLoanFeeRate.value < 1
  baseFee : s.baseFee.isNan = false ∧ 0 ≤ s.baseFee.value
  priorityFee : s.priorityFee.isNan = false ∧ 0 ≤ s.priorityFee.value
  tipPctOfGross : s.tipPctOfGross.isNan = false ∧ 0 ≤ s.tipPctOfGross.value
  evFullScaleNan : s.evFullScale.isNan = false
  evFullScale : 0 < s.evFullScale.value
  maxOpportunities : 1 ≤ s.maxOpportunities

namespace Returns

/-- 比較が成功すれば、二つの数は NaN でなく、値は値の順序での比較。 -/
theorem calc_le_iff {a b : Decimal} {P : Bool → Prop} :
    Returns (Calc.le a b) P ↔ (a.isNan = false → b.isNan = false → P (decide (a.value ≤ b.value))) := by
  constructor
  · intro h ha hb
    exact h _ (Calc.le_of_not_nan ha hb)
  · rintro h t ht
    obtain ⟨ha, hb, rfl⟩ := Calc.le_eq_ok.mp ht
    exact h ha hb

end Returns

namespace Validate

theorem settingsProblems_eq_nil {s : Settings} (h : s.WellFormed) : settingsProblems s = .ok [] := by
  have h0 : (Calc.lit "0").isNan = false := rfl
  have h1 : (Calc.lit "1").isNan = false := rfl
  simp only [settingsProblems, Calc.le_of_not_nan h0 h.rateNan, Calc.lt_of_not_nan h.rateNan h1,
    Calc.lt_of_not_nan h.baseFee.1 h0, Calc.lt_of_not_nan h.priorityFee.1 h0,
    Calc.lt_of_not_nan h.tipPctOfGross.1 h0, Calc.le_of_not_nan h.evFullScaleNan h0,
    Calc.value_lit_zero, Calc.value_lit_one]
  simp [bind, Except.bind, pure, Except.pure, note, h.rate.1, h.rate.2, h.minExecutionProb.1,
    h.minExecutionProb.2, h.minEvScore.1, h.minEvScore.2, not_lt.mpr h.tradeSizeSamples,
    h.gridSpacing, not_lt.mpr h.baseFee.2, not_lt.mpr h.priorityFee.2,
    not_lt.mpr h.tipPctOfGross.2, not_le.mpr h.evFullScale, not_lt.mpr h.maxOpportunities]

theorem validateSettings_eq_ok {s : Settings} (h : s.WellFormed) : validateSettings s = .ok s := by
  rw [validateSettings, settingsProblems_eq_nil h]
  rfl

/-- 0 より小さくないと答えた数は、NaN でなく値が 0 以上。 -/
theorem nonneg_of_lt_zero_eq_false {d : Decimal} (h : Calc.lt d (Calc.lit "0") = .ok false) :
    d.isNan = false ∧ 0 ≤ d.value := by
  obtain ⟨hd, -, hv⟩ := Calc.lt_eq_ok.mp h
  rw [Calc.value_lit_zero] at hv
  exact ⟨hd, not_lt.mp (of_decide_eq_false hv.symm)⟩

/-- 通った設定は入力のままで、`WellFormed`。`validateSettings_eq_ok` と合わせて、検査が通すのは
ちょうど `WellFormed` な設定である。 -/
theorem validateSettings_wellFormed (s : Settings) :
    Returns (validateSettings s) fun s' => s' = s ∧ s.WellFormed := by
  intro s' h
  obtain ⟨rfl, hps⟩ := validateSettings_eq_ok_inv h
  obtain ⟨hprob, hscore, hsamples, hgrid, hlow, hhigh, hbase, hprio, htip, hscale, hmax⟩ :=
    settingsProblems_eq_nil_inv hps
  -- 比較が成功したことから NaN でないことが、比較の値から範囲が出る
  obtain ⟨-, hrate, hlow⟩ := Calc.le_eq_ok.mp hlow
  obtain ⟨-, -, hhigh⟩ := Calc.lt_eq_ok.mp hhigh
  obtain ⟨hscaleNan, -, hscale⟩ := Calc.le_eq_ok.mp hscale
  rw [Calc.value_lit_zero] at hlow hscale
  rw [Calc.value_lit_one] at hhigh
  simp only [Bool.and_eq_true, decide_eq_true_eq] at hprob hscore
  exact ⟨rfl, hprob, hscore, not_lt.mp hsamples, List.elem_iff.mp hgrid, hrate,
    ⟨of_decide_eq_true hlow.symm, of_decide_eq_true hhigh.symm⟩, nonneg_of_lt_zero_eq_false hbase,
    nonneg_of_lt_zero_eq_false hprio, nonneg_of_lt_zero_eq_false htip, hscaleNan,
    not_le.mp (of_decide_eq_false hscale.symm), not_lt.mp hmax⟩

/-- どの要素でも偽を返す述語で選べば、何も残らない。 -/
theorem filterM_eq_nil {α ε : Type} {p : α → Except ε Bool} {l : List α}
    (h : ∀ a ∈ l, p a = .ok false) : l.filterM p = .ok [] := by
  -- 本体は選んだ要素を `acc` に積む再帰で、何も積まない
  suffices hs : ∀ acc, List.filterAuxM p l acc = .ok acc by
    rw [List.filterM, hs]
    rfl
  induction l with
  | nil => exact fun _ => rfl
  | cons a l ih =>
    intro acc
    rw [List.filterAuxM, h a (List.mem_cons_self ..)]
    exact ih (fun b hb => h b (List.mem_cons_of_mem _ hb)) acc

theorem outsideRange_eq_false {p : MonitoredPair} (hp : p.WellFormed) {x : Decimal}
    (hx : x.isNan = false) (hr : p.InRange x) : outsideRange p x = .ok false := by
  unfold outsideRange
  rw [Calc.lt_of_not_nan hx hp.minNan, Calc.lt_of_not_nan hp.maxNan hx]
  simp [bind, Except.bind, not_lt.mpr hr.1, not_lt.mpr hr.2]

theorem validatePair_eq_ok {p : MonitoredPair} (h : p.WellFormed) : validatePair p = .ok p := by
  have h0 : (Calc.lit "0").isNan = false := rfl
  unfold validatePair
  rw [Calc.le_of_not_nan h.minNan h0, Calc.lt_of_not_nan h.maxNan h.minNan]
  cases hs : p.tradeSizes with
  | none =>
    simp [bind, Except.bind, pure, Except.pure, h.tokenA, h.tokenB, h.distinct,
      Calc.value_lit_zero, not_le.mpr h.minPos, not_lt.mpr h.ordered]
  | some xs =>
    obtain ⟨hne, hxs⟩ := h.sizes xs hs
    have hout : xs.filterM (outsideRange p) = .ok [] :=
      filterM_eq_nil fun x hx => outsideRange_eq_false h (hxs x hx).1 (hxs x hx).2
    simp [bind, Except.bind, pure, Except.pure, h.tokenA, h.tokenB, h.distinct,
      Calc.value_lit_zero, not_le.mpr h.minPos, not_lt.mpr h.ordered, hne, hout]

end Validate

/-! ## 格子の失敗 -/

/-- 計算が失敗するなら、その失敗は 10 進演算の例外条件である。 -/
def SignalsOnly {α : Type} (x : Except Fault α) : Prop := ∀ e, x = .error e → ∃ s, e = .signal s

namespace SignalsOnly

variable {α β : Type}

theorem ok (a : α) : SignalsOnly (.ok a : Except Fault α) := fun _ h => by cases h

theorem pure (a : α) : SignalsOnly (Pure.pure a : Except Fault α) := ok a

theorem liftSignal (r : Except Decimal.Signal α) : SignalsOnly (CrossPool.liftSignal r) := by
  intro e h
  cases r with
  | ok a => cases h
  | error s => exact ⟨s, (Except.error.inj h).symm⟩

theorem bind {x : Except Fault α} {f : α → Except Fault β} (hx : SignalsOnly x)
    (hf : ∀ a, x = .ok a → SignalsOnly (f a)) : SignalsOnly (x >>= f) := by
  intro e h
  cases hxe : x with
  | error e' =>
    rw [hxe] at h
    obtain rfl : e' = e := Except.error.inj h
    exact hx e' hxe
  | ok a =>
    rw [hxe] at h
    exact hf a hxe e h

theorem mapM {f : α → Except Fault β} : ∀ {l : List α}, (∀ a ∈ l, SignalsOnly (f a)) →
    SignalsOnly (l.mapM f)
  | [], _ => pure []
  | a :: l, hf => by
    rw [List.mapM_cons]
    exact (hf a (List.mem_cons_self ..)).bind fun b _ =>
      (mapM fun x hx => hf x (List.mem_cons_of_mem _ hx)).bind fun bs _ => pure _

end SignalsOnly

namespace Grid

theorem linearPoint_signalsOnly (c : Decimal.Context) (lo step : Decimal) (i : Nat) :
    SignalsOnly (linearPoint c lo step i) :=
  (SignalsOnly.liftSignal _).bind fun _ _ => .liftSignal _

theorem logPoint_signalsOnly (c : Decimal.Context) (lo ratio steps : Decimal) (i : Nat) :
    SignalsOnly (logPoint c lo ratio steps i) :=
  (SignalsOnly.liftSignal _).bind fun _ _ => (SignalsOnly.liftSignal _).bind fun _ _ =>
    .liftSignal _

/--
区間の端が正で順に並び、標本が 1 個以上で、間隔が `linear` か `log` なら、どの thread の
context でも、格子の計算が失敗するのは 10 進演算の例外条件のときだけ。端点を置き換えて区間に
収める段も同じ。
-/
theorem tradeSizesIn_signalsOnly (c : Decimal.Context) {lo hi : Decimal} {n : Int}
    {spacing : String} (hlo : lo.isNan = false) (hhi : hi.isNan = false) (hpos : 0 < lo.value)
    (hle : lo.value ≤ hi.value) (hn : 1 ≤ n) (hsp : spacing ∈ Validate.gridSpacings) :
    SignalsOnly (tradeSizesIn c lo hi n spacing) := by
  have hrev : Calc.lt hi lo = .ok false := by
    rw [Calc.lt_of_not_nan hhi hlo, decide_eq_false (not_lt.mpr hle)]
  have hzero : Calc.le lo (Calc.ofInt 0) = .ok false := by
    have hz : (Calc.ofInt 0).value = 0 := Calc.value_lit_zero
    rw [Calc.le_of_not_nan hlo rfl, hz, decide_eq_false (not_le.mpr hpos)]
  have hclamp : ∀ points : List Decimal,
      SignalsOnly ((lo :: (points.drop 1).dropLast ++ [hi]).mapM fun s => Calc.clamp s lo hi) :=
    fun _ => SignalsOnly.mapM fun _ _ => .liftSignal _
  unfold tradeSizesIn
  rw [if_neg (not_lt.mpr hn), hrev, ok_bind, if_neg Bool.false_ne_true,
    Calc.eq_of_not_nan hlo hhi, ok_bind]
  split
  · exact .pure _
  split
  · exact .pure _
  simp only [Validate.gridSpacings, List.mem_cons, List.not_mem_nil, or_false] at hsp
  have hlog : ("log" == "linear") = false := by decide
  dsimp only
  rcases hsp with rfl | rfl
  · simp only [beq_self_eq_true, if_true]
    refine (SignalsOnly.liftSignal _).bind fun _ _ => (SignalsOnly.liftSignal _).bind fun _ _ => ?_
    refine (SignalsOnly.mapM fun i _ => linearPoint_signalsOnly c _ _ i).bind fun points _ => ?_
    exact (hclamp points).bind fun _ _ => .pure _
  · simp only [hlog, beq_self_eq_true, Bool.false_eq_true, if_false, if_true, hzero, ok_bind]
    refine (SignalsOnly.liftSignal _).bind fun _ _ => ?_
    refine (SignalsOnly.mapM fun i _ => logPoint_signalsOnly c _ _ _ i).bind fun points _ => ?_
    exact (hclamp points).bind fun _ _ => .pure _

theorem tradeSizes_signalsOnly {lo hi : Decimal} {n : Int} {spacing : String}
    (hlo : lo.isNan = false) (hhi : hi.isNan = false) (hpos : 0 < lo.value)
    (hle : lo.value ≤ hi.value) (hn : 1 ≤ n) (hsp : spacing ∈ Validate.gridSpacings) :
    SignalsOnly (tradeSizes lo hi n spacing) :=
  tradeSizesIn_signalsOnly Calc.ctx hlo hhi hpos hle hn hsp

end Grid

/-! ## 検出器と走査器を作る -/

section Lists

variable {α β ε : Type}

theorem mapM_eq_ok_self {f : α → Except ε α} : ∀ {l : List α}, (∀ a ∈ l, f a = .ok a) →
    l.mapM f = .ok l
  | [], _ => rfl
  | a :: l, h => by
    rw [List.mapM_cons, h a (List.mem_cons_self ..), ok_bind,
      mapM_eq_ok_self fun b hb => h b (List.mem_cons_of_mem _ hb), ok_bind]
    rfl

/-- 列の要素で一致する二つの計算は、列の上の `mapM` でも一致する。 -/
theorem mapM_congr_mem {f g : α → Except ε β} : ∀ {l : List α}, (∀ a ∈ l, f a = g a) →
    l.mapM f = l.mapM g
  | [], _ => rfl
  | a :: l, h => by
    rw [List.mapM_cons, List.mapM_cons, h a (List.mem_cons_self ..),
      mapM_congr_mem fun b hb => h b (List.mem_cons_of_mem _ hb)]

/-- `mapM` が失敗すれば、どれかの要素の計算が同じ失敗で終わっている。 -/
theorem mapM_eq_error {f : α → Except ε β} {e : ε} : ∀ {l : List α}, l.mapM f = .error e →
    ∃ a ∈ l, f a = .error e
  | [], h => by cases h
  | a :: l, h => by
    rw [List.mapM_cons] at h
    cases ha : f a with
    | error e' =>
      rw [ha] at h
      obtain rfl : e' = e := Except.error.inj h
      exact ⟨a, List.mem_cons_self .., ha⟩
    | ok b =>
      rw [ha, ok_bind] at h
      cases hl : l.mapM f with
      | error e' =>
        rw [hl] at h
        obtain rfl : e' = e := Except.error.inj h
        obtain ⟨x, hx, hfx⟩ := mapM_eq_error hl
        exact ⟨x, List.mem_cons_of_mem _ hx, hfx⟩
      | ok bs =>
        rw [hl, ok_bind] at h
        cases h

/-- `mapM` はどの要素の計算も成功するときに限って成功する。 -/
theorem mapM_isOk_iff {f : α → Except ε β} : ∀ {l : List α},
    (∃ bs, l.mapM f = .ok bs) ↔ ∀ a ∈ l, ∃ b, f a = .ok b
  | [] => by simp only [List.not_mem_nil, false_implies, implies_true, iff_true]; exact ⟨[], rfl⟩
  | a :: l => by
    rw [List.forall_mem_cons, ← mapM_isOk_iff]
    constructor
    · rintro ⟨bs, h⟩
      rw [List.mapM_cons] at h
      obtain ⟨b, hb, h⟩ := bind_eq_ok h
      obtain ⟨bs', hbs, -⟩ := bind_eq_ok h
      exact ⟨⟨b, hb⟩, bs', hbs⟩
    · rintro ⟨⟨b, hb⟩, bs, hbs⟩
      refine ⟨b :: bs, ?_⟩
      rw [List.mapM_cons, hb, ok_bind, hbs, ok_bind]
      rfl

/-- 値に印を付けるだけの続きは、前の計算と同じときに成功する。 -/
theorem bind_pure_isOk {x : Except ε α} {f : α → β} :
    (∃ b, (x >>= fun a => pure (f a)) = .ok b) ↔ ∃ a, x = .ok a := by
  cases x <;> simp [bind, Except.bind, pure, Except.pure]

/-- 値に印を付けるだけの続きは、前の計算と同じ失敗で終わる。 -/
theorem bind_pure_eq_error {x : Except ε α} {f : α → β} {e : ε} :
    (x >>= fun a => pure (f a)) = .error e ↔ x = .error e := by
  cases x <;> simp [bind, Except.bind, pure, Except.pure]

theorem length_eraseDups_of_nodup [BEq α] [LawfulBEq α] {l : List α} (h : l.Nodup) :
    l.eraseDups.length = l.length :=
  le_antisymm (Validate.eraseDups_sublist l).length_le
    (h.length_le_of_subset fun _ ha => List.mem_eraseDups.mpr ha)

end Lists

namespace Detector

variable {s : Settings} {p : MonitoredPair}

/-- 取引量を指定しない組の格子は、生成した格子そのもの。設定の不備に言い換える枝には入らない。 -/
theorem buildGrid_eq_tradeSizes (hs : s.WellFormed) (hp : p.WellFormed) (h : p.tradeSizes = none) :
    buildGrid s p = Grid.tradeSizes p.minTradeSize p.maxTradeSize s.tradeSizeSamples s.gridSpacing := by
  have hsig := Grid.tradeSizes_signalsOnly hp.minNan hp.maxNan hp.minPos hp.ordered
    hs.tradeSizeSamples hs.gridSpacing
  unfold buildGrid buildGridIn
  rw [h]
  dsimp only
  split
  · next m heq =>
    obtain ⟨_, hm⟩ := hsig _ heq
    cases hm
  · rfl

/-- 組の格子が失敗するのは、取引量を指定しない組で、格子の計算が 10 進演算の例外条件に
当たったときだけ。 -/
theorem buildGrid_eq_error (hs : s.WellFormed) (hp : p.WellFormed) {e : Fault}
    (h : buildGrid s p = .error e) :
    p.tradeSizes = none ∧
      Grid.tradeSizes p.minTradeSize p.maxTradeSize s.tradeSizeSamples s.gridSpacing = .error e ∧
      ∃ sig, e = .signal sig := by
  cases hts : p.tradeSizes with
  | some xs =>
    unfold buildGrid buildGridIn at h
    rw [hts] at h
    cases h
  | none =>
    rw [buildGrid_eq_tradeSizes hs hp hts] at h
    exact ⟨rfl, h, Grid.tradeSizes_signalsOnly hp.minNan hp.maxNan hp.minPos hp.ordered
      hs.tradeSizeSamples hs.gridSpacing e h⟩

/-- 検査を通る設定と組では、検出器を作ることは組ごとに格子を作ることにほかならない。 -/
theorem create_eq_of_wellFormed {pairs : List MonitoredPair} (hs : s.WellFormed)
    (hp : ∀ p ∈ pairs, p.WellFormed) (hn : (pairs.map (·.name)).Nodup) :
    create pairs s = (pairs.mapM fun p => do return (p.name, ← buildGrid s p)) >>= fun grids =>
      pure ⟨s, pairs, grids, []⟩ := by
  unfold create createIn
  rw [buildGridIn_ctx, Validate.validateSettings_eq_ok hs, ok_bind,
    mapM_eq_ok_self fun p hp' => Validate.validatePair_eq_ok (hp p hp'), ok_bind]
  dsimp only
  rw [length_eraseDups_of_nodup hn]
  simp only [bne_self_eq_false, Bool.false_eq_true, if_false]

end Detector

theorem PoolCache.create_eq_ok {n : Int} (h : 1 ≤ n) :
    PoolCache.create n = .ok ⟨PoolCache.strHash, List.replicate n.toNat [], []⟩ := by
  unfold PoolCache.create PoolCache.createWith
  rw [if_neg (not_lt.mpr h)]

/-- 鮮度の上限が正なら監視器は作れる。NaN は正でない。 -/
theorem Monitor.create_eq_ok {maxPoolAge : Float} (h : 0.0 < maxPoolAge) (cache : PoolCache)
    (clock : Float) (stability : Stability) (metrics : Option Metrics) :
    Monitor.create cache maxPoolAge clock stability metrics =
      .ok ⟨cache, stability, maxPoolAge, clock, metrics, []⟩ := by
  have hc := Binary64.comparable_of_lt h
  unfold Monitor.create
  rw [if_neg fun hle => (Binary64.not_lt_iff_le hc.1 hc.2).mpr hle h]

/-- 走査器を作るときの検査が求めること。 -/
structure Config.ScannerConfig.WellFormed (c : Config.ScannerConfig) : Prop where
  settings : c.settings.WellFormed
  pairs : ∀ p ∈ c.pairs, p.WellFormed
  names : (c.pairs.map (·.name)).Nodup
  cacheShards : 1 ≤ c.cacheShards
  maxPoolAge : 0.0 < c.maxPoolAge

namespace Runner

variable {c : Config.ScannerConfig}

/-- 区画の数と鮮度の上限が検査を通れば、走査器を作ることは検出器を作ることにほかならない。 -/
theorem create_eq (hc : 1 ≤ c.cacheShards) (ha : 0.0 < c.maxPoolAge) (clock : Float) :
    ∃ m, Runner.create c clock = Detector.create c.pairs c.settings >>= fun d =>
      pure ⟨c, m, d, [], false⟩ := by
  unfold Runner.create
  dsimp only
  rw [PoolCache.create_eq_ok hc, ok_bind, Monitor.create_eq_ok ha, ok_bind]
  exact ⟨_, rfl⟩

/--
検査を通る設定では、走査器が作れるのは、どの組の格子も作れるときで、そのときに限る。
作れなければ、その失敗は取引量を指定しない組の格子の計算が当たった 10 進演算の例外条件。
-/
theorem create_of_wellFormed (h : c.WellFormed) (clock : Float) :
    ((∃ r, Runner.create c clock = .ok r) ↔
      ∀ p ∈ c.pairs, ∃ g, Detector.buildGrid c.settings p = .ok g) ∧
    ∀ e, Runner.create c clock = .error e → ∃ p ∈ c.pairs, p.tradeSizes = none ∧
      Grid.tradeSizes p.minTradeSize p.maxTradeSize c.settings.tradeSizeSamples
        c.settings.gridSpacing = .error e ∧ ∃ sig, e = .signal sig := by
  obtain ⟨m, hm⟩ := create_eq h.cacheShards h.maxPoolAge clock
  rw [hm, Detector.create_eq_of_wellFormed h.settings h.pairs h.names]
  -- 格子の表の項目は、組の格子が成功すれば成功し、失敗すれば同じ失敗で終わる
  cases hg : c.pairs.mapM fun p => do return (p.name, ← Detector.buildGrid c.settings p) with
  | ok grids =>
    have hall := mapM_isOk_iff.mp ⟨grids, hg⟩
    refine ⟨⟨fun _ p hp => bind_pure_isOk.mp (hall p hp), fun _ => ⟨_, rfl⟩⟩, fun e he => ?_⟩
    cases he
  | error e =>
    obtain ⟨p, hp, hpe⟩ := mapM_eq_error hg
    have hb := bind_pure_eq_error.mp hpe
    refine ⟨⟨fun ⟨r, hr⟩ => ?_, fun hall => ?_⟩, fun e' he' => ?_⟩
    · cases hr
    · obtain ⟨g, hg'⟩ := hall p hp
      rw [hb] at hg'
      cases hg'
    · obtain rfl : e = e' := Except.error.inj he'
      exact ⟨p, hp, Detector.buildGrid_eq_error h.settings (h.pairs p hp) hb⟩

end Runner

end CrossPool
