import Mathlib
import CrossPool.Proofs.Trade.Profit
import CrossPool.Proofs.Scan.Search

/-!
# 走査が返す機会の利ざや

手数料率が 0 以上のプールだけを保管する監視器で走査すると、返す機会はどれも、買うプールと
売るプールの手数料での取引量の評価から作ったもので、価格影響を入れた売値は買値より高く、
粗利は 0 以上の手数料の合計を上回る（`scan_reports_covered_spreads`）。

評価の損益の範囲（`evaluateTradeSize_profit`）を、走査が評価に渡す入力で使う。

* 価格はどれも 0 以上の有限の数（`orientedPrice_nonneg`）。
* 取引量は格子の点で、検査を通った組の下限は正（`create_minTradeSize_pos`）。
* 機会の内訳は、探索で選んだ標本の評価を写したもの（`Evaluated`）。その評価は機会自身の
  取引量、二つの価格、二つの価格影響と二つの確率で走る（`BuiltFromBest.evaluated`）。

機会の出どころ（`Costed`）を組の走査から走査の結果へと運ぶ道筋は、許される機会
（`Admissible`）のものと同じである。
-/

namespace CrossPool

open Decimal Binary64

/-! ## 価格の符号 -/

namespace Amount

/-- 0 以上の生の整数を小数点で調整した量は、0 以上の有限の数。 -/
theorem fromRaw_nonneg {raw decimals : Int} {r : Decimal} (h : fromRaw raw decimals = .ok r)
    (hraw : 0 ≤ raw) : ∃ x : ℚ, r.value = ((x : WithTop ℚ) : WithBot (WithTop ℚ)) ∧ 0 ≤ x := by
  obtain ⟨t, ht, h⟩ := bind_eq_ok h
  obtain ⟨π, hπ, hπ0⟩ := Calc.pow10_value ht
  exact ⟨_, Calc.div_value h (Calc.value_ofInt raw) hπ,
    roundSigned_nonneg (div_nonneg (by exact_mod_cast hraw) hπ0)⟩

theorem q64ToDecimal_finite {v : Int} {r : Decimal} (h : q64ToDecimal v = .ok r) :
    ∃ x : ℚ, r.value = ((x : WithTop ℚ) : WithBot (WithTop ℚ)) := by
  obtain ⟨_, -, h⟩ := bind_eq_ok h
  exact ⟨_, Calc.div_value h (Calc.value_ofInt _) (Calc.value_ofInt _)⟩

end Amount

namespace Monitor

/-- 値付けした価格は 0 以上の有限の数。定積では正の準備量の商、それ以外では平方根価格の
二乗と 10 の冪の積。 -/
theorem price_nonneg {p : PoolState} {r : Decimal} (h : price p = .ok r) :
    ∃ x : ℚ, r.value = ((x : WithTop ℚ) : WithBot (WithTop ℚ)) ∧ 0 ≤ x := by
  unfold price priceIn at h
  split at h
  · cases h
  · split at h
    · unfold ConstantProduct.spotPriceIn at h
      split at h
      · cases h
      · next hres =>
        simp only [Bool.or_eq_true, decide_eq_true_eq, not_or, not_le] at hres
        obtain ⟨uiA, hA, h⟩ := bind_eq_ok h
        obtain ⟨uiB, hB, h⟩ := bind_eq_ok h
        obtain ⟨a, ha, ha0⟩ := Amount.fromRaw_nonneg hA hres.1.le
        obtain ⟨b, hb, hb0⟩ := Amount.fromRaw_nonneg hB hres.2.le
        exact ⟨_, Calc.div_value h hb ha, roundSigned_nonneg (div_nonneg hb0 ha0)⟩
    · unfold Concentrated.sqrtPriceToPriceIn at h
      split at h
      · cases h
      · split at h
        · cases h
        · obtain ⟨root, hroot, h⟩ := bind_eq_ok h
          obtain ⟨sq, hsq, h⟩ := bind_eq_ok h
          obtain ⟨t, ht, h⟩ := bind_eq_ok h
          obtain ⟨x, hx⟩ := Amount.q64ToDecimal_finite hroot
          obtain ⟨π, hπ, hπ0⟩ := Calc.pow10_value ht
          exact ⟨_, Calc.mul_value h (Calc.mul_value hsq hx hx) hπ,
            roundSigned_nonneg (mul_nonneg (roundSigned_nonneg (mul_self_nonneg x)) hπ0)⟩

/-- 組の向きの価格は 0 以上の有限の数。逆向きなら 0 以上の価格の逆数。 -/
theorem orientedPrice_nonneg {p : PoolState} {base quote : String} {r : Decimal}
    (h : orientedPrice p base quote = .ok r) :
    ∃ x : ℚ, r.value = ((x : WithTop ℚ) : WithBot (WithTop ℚ)) ∧ 0 ≤ x := by
  unfold orientedPrice at h
  obtain ⟨pr, hpr, h⟩ := bind_eq_ok h
  obtain ⟨x, hx, hx0⟩ := price_nonneg hpr
  split at h
  · cases h
    exact ⟨x, hx, hx0⟩
  · split at h
    · exact ⟨_, Calc.div_value h Calc.value_lit_one hx,
        roundSigned_nonneg (div_nonneg zero_le_one hx0)⟩
    · cases h

theorem Ensures.and {α : Type} {v : View} {x : Step α} {Q Q' : α → Prop} (h : Ensures v x Q)
    (h' : Ensures v x Q') : Ensures v x fun a => Q a ∧ Q' a := fun m a m' hv hx =>
  ⟨(h m a m' hv hx).1, (h m a m' hv hx).2, (h' m a m' hv hx).2⟩

end Monitor

/-! ## 組の取引量の下限 -/

namespace Validate

theorem validatePair_minTradeSize_pos (p : MonitoredPair) :
    Returns (validatePair p) fun _ => 0 < p.minTradeSize.value := by
  unfold validatePair
  simp only [Returns.bind_iff, Returns.ite_iff, Returns.throw, imp_true_iff, true_and]
  intro _
  rw [Returns.calc_le_iff]
  intro _ _ hpos
  simp only [decide_eq_true_eq, not_le, Calc.value_lit_zero] at hpos
  -- 下限が正と分かれば、後の検査の値によらない
  exact fun _ _ _ _ _ => hpos

end Validate

namespace Detector

open Monitor

theorem create_minTradeSize_pos (pairs : List MonitoredPair) (settings : Settings) :
    Returns (create pairs settings) fun _ => ∀ P ∈ pairs, 0 < P.minTradeSize.value := by
  unfold create createIn
  rw [Returns.bind_iff]
  intro _ _
  rw [Returns.bind_iff]
  refine (Returns.mapM (R := fun p _ => 0 < p.minTradeSize.value)
    fun p _ => Validate.validatePair_minTradeSize_pos p).mono fun ps hps => ?_
  have hpos := ((List.forall₂_and_left _ _).mp (hps.imp fun _ _ h => And.intro h trivial)).1
  exact (Returns.of_true _).mono fun _ _ => hpos

/-! ## 機会の内訳 -/

/-- 機会 `o` の内訳は、記録 `buy`、`sell` の手数料と設定 `s` での取引量の評価 `e` のもの。評価は
機会自身の取引量、二つの価格、二つの価格影響と二つの確率で走り、損益の量は評価の値。 -/
structure Evaluated (s : Settings) (buy sell : PoolState) (o : Opportunity) (e : TradeEvaluation) :
    Prop where
  run : evaluateTradeSize o.optimalTradeSize o.buyPrice o.sellPrice o.buyImpact o.sellImpact
    buy.feeRateBps sell.feeRateBps o.buyExecutionProb o.sellExecutionProb s = .ok e
  grossProfit : o.grossProfit = e.grossProfit
  totalFees : o.totalFees = e.totalFees
  netProfit : o.netProfit = e.netProfit
  expectedValue : o.expectedValue = e.expectedValue

/-- 評価は、評価した取引量、二つの価格影響と二つの確率をそのまま持つ。 -/
theorem evaluateTradeSize_inputs (size bp sp bi si : Decimal) (bf sf : Int) (pb ps : Float)
    (s : Settings) :
    Returns (evaluateTradeSize size bp sp bi si bf sf pb ps s) fun e =>
      e.tradeSize = size ∧ e.buyImpact = bi ∧ e.sellImpact = si ∧ e.buyProb = pb ∧
        e.sellProb = ps := by
  simp [evaluateTradeSize]

/-- 標本は、それ自身の取引量、価格影響と確率で走らせた評価の値。 -/
theorem sample_run {m : Monitor} {d : Detector} {P : MonitoredPair} {buy sell : PoolState}
    {bp sp size : Decimal} {e : TradeEvaluation} (h : sample m d P buy sell bp sp size = .ok e) :
    evaluateTradeSize e.tradeSize bp sp e.buyImpact e.sellImpact buy.feeRateBps sell.feeRateBps
      e.buyProb e.sellProb d.settings = .ok e := by
  unfold sample at h
  obtain ⟨_, -, h⟩ := bind_eq_ok h
  obtain ⟨⟨bi, si, pb, ps⟩, -, h⟩ := bind_eq_ok h
  obtain ⟨hsize, hbi, hsi, hpb, hps⟩ := evaluateTradeSize_inputs _ _ _ _ _ _ _ _ _ _ e h
  rw [hsize, hbi, hsi, hpb, hps]
  exact h

/-- 機会は、二つの価格と、評価の取引量、価格影響、確率、損益をそのまま写す。 -/
theorem buildOpportunity_copies {d : Detector} {P : MonitoredPair} {buy sell : PoolState}
    {bp sp : Decimal} {b : TradeEvaluation} {now : Float} {o : Opportunity}
    (h : buildOpportunity d P buy sell bp sp b now = .ok o) :
    o.buyPrice = bp ∧ o.sellPrice = sp ∧ o.optimalTradeSize = b.tradeSize ∧
      o.buyImpact = b.buyImpact ∧ o.sellImpact = b.sellImpact ∧ o.buyExecutionProb = b.buyProb ∧
      o.sellExecutionProb = b.sellProb ∧ o.grossProfit = b.grossProfit ∧
      o.totalFees = b.totalFees ∧ o.netProfit = b.netProfit ∧ o.expectedValue = b.expectedValue := by
  unfold buildOpportunity at h
  obtain ⟨_, -, h⟩ := bind_eq_ok h
  obtain ⟨_, -, h⟩ := bind_eq_ok h
  obtain ⟨_, -, h⟩ := bind_eq_ok h
  cases h
  exact ⟨rfl, rfl, rfl, rfl, rfl, rfl, rfl, rfl, rfl, rfl, rfl⟩

/-- 最良の標本から作った機会の内訳は、その標本の評価のもの。 -/
theorem BuiltFromBest.evaluated {m : Monitor} {d : Detector} {P : MonitoredPair}
    {buy sell : PoolState} {o : Opportunity} (h : BuiltFromBest m d P buy sell o) :
    ∃ e, Evaluated d.settings buy sell o e := by
  obtain ⟨bp, sp, e, -, -, hfirst, hbuild⟩ := h
  obtain ⟨size, -, hsample⟩ := List.mem_filterMap.mp hfirst.mem
  have hrun := sample_run (eq_ok_of_toOption hsample)
  obtain ⟨rfl, rfl, hsize, hbi, hsi, hpb, hps, hg, ht, hn, hev⟩ := buildOpportunity_copies hbuild
  refine ⟨e, ?_, hg, ht, hn, hev⟩
  rw [hsize, hbi, hsi, hpb, hps]
  exact hrun

/-! ## 走査 -/

section Scan

variable {d : Detector} {v : View}

/-- 機会 `o` の出どころ：組 `P` の使える二つの記録 `buy`、`sell` を買うプールと売るプールにした
探索の機会で、内訳はその二つの記録の手数料での評価のもの。 -/
structure Costed (d : Detector) (v : View) (P : MonitoredPair) (buy sell : PoolState)
    (o : Opportunity) : Prop where
  buyUsable : Usable v P buy
  sellUsable : Usable v P sell
  searched : Searched d P buy sell o
  evaluated : ∃ e, Evaluated d.settings buy sell o e

/-- 二つのプールの組は、加えるなら出どころの分かる機会を一つ加える。 -/
theorem considerPair_costed {m₀ : Monitor} {P : MonitoredPair} (acc : List Opportunity)
    {c : (PoolState × Decimal) × (PoolState × Decimal)} (h₁ : Usable m₀.view P c.1.1)
    (h₂ : Usable m₀.view P c.2.1) :
    Ensures m₀.view (considerPair d P acc c) fun acc' => acc' = acc ∨
      ∃ o, acc' = acc ++ [o] ∧ ∃ buy sell, Costed d m₀.view P buy sell o := by
  obtain ⟨⟨pp, prp⟩, ⟨pq, prq⟩⟩ := c
  unfold considerPair
  refine Ensures.bind Ensures.lift fun same _ => ?_
  split
  · exact Ensures.pure (.inl rfl)
  · refine Ensures.bind Ensures.lift fun lower _ => ?_
    generalize hbs : (if lower = true then (pp, pq) else (pq, pp)) = bs
    obtain ⟨buy, sell⟩ := bs
    have hus : Usable m₀.view P buy ∧ Usable m₀.view P sell := by
      cases lower
      · simp only [Bool.false_eq_true, if_false, Prod.mk.injEq] at hbs
        obtain ⟨rfl, rfl⟩ := hbs
        exact ⟨h₂, h₁⟩
      · simp only [if_true, Prod.mk.injEq] at hbs
        obtain ⟨rfl, rfl⟩ := hbs
        exact ⟨h₁, h₂⟩
    refine Ensures.bind (Ensures.and (evaluate_searched d buy sell P) (evaluate_spec m₀ d P buy sell))
      fun r hr => ?_
    obtain ⟨hsearched, -, hbuilt⟩ := hr
    split
    · exact Ensures.pure (.inl rfl)
    · next o =>
      refine Ensures.bind Ensures.lift fun _ _ => ?_
      split
      · exact Ensures.pure (.inl rfl)
      · split
        · exact Ensures.pure (.inl rfl)
        · exact Ensures.bind (Ensures.measure _) fun _ _ => Ensures.pure
            (.inr ⟨o, rfl, buy, sell, hus.1, hus.2, hsearched o rfl, (hbuilt o rfl).evaluated⟩)

/-- 一つの組の走査が返す機会は、どれもその組の出どころの分かる機会。 -/
theorem scanPair_costed (hw : v.cache.WF) {P : MonitoredPair} :
    Ensures v (scanPair d P) fun os => ∀ o ∈ os, ∃ buy sell, Costed d v P buy sell o := by
  unfold scanPair
  refine Ensures.bind Ensures.get fun m hm => ?_
  subst hm
  dsimp only
  split
  · exact Ensures.bind (Ensures.emit _ _) fun _ _ => Ensures.pure (by simp)
  · refine Ensures.bind (Ensures.filterMapM_eq
      (g := fun pool => (orientedPrice pool P.tokenA P.tokenB).toOption.map (pool, ·))
      fun pool _ => Ensures.bind (safePrice_spec P pool) fun r hr => Ensures.pure (by rw [hr]))
      fun priced hpriced => ?_
    have hmem : ∀ q ∈ priced, Usable m.view P q.1 := by
      rw [hpriced]
      intro q hq
      obtain ⟨pool, hpool, hq⟩ := List.mem_filterMap.mp hq
      obtain ⟨pr, -, rfl⟩ := Option.map_eq_some_iff.mp hq
      exact (mem_poolsForPair_iff hw).mp hpool
    refine (Ensures.foldlM_append (R := fun _ o => ∃ buy sell, Costed d m.view P buy sell o) _
      fun acc c hc => ?_).mono fun res hres => ?_
    · obtain ⟨h1, h2, -⟩ :=
        mem_pairsOf (R := fun _ _ => True) (List.pairwise_of_forall fun _ _ => trivial) hc
      exact considerPair_costed acc (hmem _ h1) (hmem _ h2)
    · obtain ⟨outs, -, rfl, hR⟩ := hres
      rw [List.nil_append]
      intro o ho
      obtain ⟨⟨c, o'⟩, hco, rfl⟩ := List.mem_map.mp ho
      exact hR _ hco

/-- 組を順に走査して集めた機会は、どれも監視する組の出どころの分かる機会。中断しても同じ。 -/
theorem scanPairs_costed (hw : v.cache.WF) (cancelAfter : Option Nat) :
    Ensures v (d.scanPairs cancelAfter d.pairs 0 []) fun found =>
      ∀ o ∈ found, ∃ P ∈ d.pairs, ∃ buy sell, Costed d v P buy sell o := by
  refine (scanPairs_inv
    (I := fun _ acc => ∀ o ∈ acc, ∃ P ∈ d.pairs, ∃ buy sell, Costed d v P buy sell o) cancelAfter
    (fun P _ => scanPair_costed hw) (fun P _ acc found hP hacc hfound o ho => ?_) d.pairs 0 []
    (fun _ h => h) (by simp)).mono fun _ ⟨_, h⟩ => h
  rcases List.mem_append.mp ho with ho | ho
  · exact hacc o ho
  · exact ⟨P, hP, hfound o ho⟩

/-- 組を順に走査して集めた機会がどれも `R` を満たせば、走査が返す機会もどれも `R` を満たす。
返すのは、集めた機会を並べ替えた列の先頭の部分。 -/
theorem scan_forall {R : Opportunity → Prop} (cancelAfter : Option Nat)
    (h : Ensures v (d.scanPairs cancelAfter d.pairs 0 []) fun found => ∀ o ∈ found, R o) :
    Ensures v (d.scan cancelAfter) fun r => ∀ o ∈ r.2, R o := by
  unfold scan
  refine Ensures.bind h fun found hfound => ?_
  dsimp only
  refine Ensures.bind (Ensures.measure _) fun _ _ => ?_
  have hkept : ∀ o ∈ Opportunity.takeSigned (rank found) d.settings.maxOpportunities, R o :=
    fun o ho => hfound o (List.mem_mergeSort.mp (mem_of_mem_takeSigned ho))
  split <;> exact Ensures.bind (Ensures.emit _ _) fun _ _ => Ensures.pure hkept

end Scan

/-! ## 主定理 -/

/--
作った検出器が、手数料率が 0 以上のプールだけを保管する届く状態の監視器で走査すると、返す
機会はどれも、保管所にある買うプールと売るプールの手数料での評価 `e` から作ったもので、価格
影響を入れた売値は買値より高く、手数料の合計は 0 以上で粗利より小さく、期待値は正で純利益
以下。
-/
theorem scan_reports_covered_spreads {pairs : List MonitoredPair} {settings : Settings}
    {d : Detector} (hd : create pairs settings = .ok d) {m : Monitor} (hm : Monitor.Reachable m)
    (hfee : ∀ a r, m.cache.get? a = some r → 0 ≤ r.feeRateBps) (prev : List Opportunity)
    (cancelAfter : Option Nat) {d' : Detector} {L : List Opportunity} {m' : Monitor}
    (hs : ({ d with last := prev }).scan cancelAfter m = .ok (d', L) m') :
    ∀ o ∈ L, ∃ buy sell e, m.cache.get? o.buyPool = some buy ∧
      m.cache.get? o.sellPool = some sell ∧ Evaluated settings buy sell o e ∧
      e.effectiveBuyPrice.value < e.effectiveSellPrice.value ∧ 0 ≤ o.totalFees.value ∧
      o.totalFees.value < o.grossProfit.value ∧ 0 < o.expectedValue.value ∧
      o.expectedValue.value ≤ o.netProfit.value := by
  have hv := create_validated pairs settings d hd
  have hmin := create_minTradeSize_pos pairs settings d hd
  obtain ⟨s', hs', -⟩ := bind_eq_ok hd
  obtain ⟨-, hcosted⟩ :=
    scan_forall cancelAfter (scanPairs_costed hm.wf cancelAfter) m (d', L) m' rfl hs
  intro o ho
  obtain ⟨P, hP, buy, sell, hc⟩ := hcosted o ho
  obtain ⟨e, he⟩ := hc.evaluated
  have hP' : P ∈ pairs := hv.pairs_eq ▸ hP
  have he' : Evaluated settings buy sell o e := hv.settings_eq ▸ he
  have hsize : 0 ≤ o.optimalTradeSize.value :=
    (hmin P hP').le.trans (hv.inRange_of_mem_grid hP' hc.searched.sizeMem).1
  have hbp : 0 ≤ o.buyPrice.value := by
    obtain ⟨x, hx, hx0⟩ := orientedPrice_nonneg hc.searched.buyPrice
    rw [hx]
    exact_mod_cast hx0
  obtain ⟨-, -, hpos⟩ := evaluateTradeSize_profit hsize hbp (hfee _ _ hc.buyUsable.cached)
    (hfee _ _ hc.sellUsable.cached) hc.searched.buyProb hc.searched.sellProb hs' he'.run
  have hev : 0 < e.expectedValue.value := he'.expectedValue ▸ hc.searched.evPos
  obtain ⟨hnet, hfees, hfees0, hprice, -⟩ := hpos hev
  refine ⟨buy, sell, e, hc.searched.buyPool ▸ hc.buyUsable.cached,
    hc.searched.sellPool ▸ hc.sellUsable.cached, he', hprice, ?_, ?_, hc.searched.evPos, ?_⟩
  · rw [he'.totalFees]
    exact hfees0
  · rw [he'.totalFees, he'.grossProfit]
    exact hfees
  · rw [he'.expectedValue, he'.netProfit]
    exact hnet

/--
評価の損益の範囲と、走査が返す機会の利ざや。

* 取引量と買値が 0 以上、二つの手数料率が 0 以上、二つの確率が `[0, 1]` で、設定が検査を
  通ったものなら、評価の純利益は粗利以下で、粗利が 0 以下なら純利益と期待値も 0 以下。
  期待値が正なら、期待値は純利益以下、粗利は 0 以上の手数料の合計より大きく、価格影響を
  入れた売値は買値より高く、純利益率は 0 以上。売値と価格影響には何も仮定しない。
* そのため、手数料率が 0 以上のプールだけを保管する監視器で走査すると、返す機会はどれも、
  価格影響を入れた売値が買値より高く、粗利が手数料の合計を上回る評価から作ったもの。
-/
theorem evaluation_profit_bounds_and_covered_spreads :
    (∀ {size bp sp bi si : Decimal} {bf sf : ℤ} {pb ps : Float} {s s' : Settings}
        {t : TradeEvaluation}, 0 ≤ size.value → 0 ≤ bp.value → 0 ≤ bf → 0 ≤ sf →
        InUnit pb → InUnit ps → Validate.validateSettings s = .ok s' →
        evaluateTradeSize size bp sp bi si bf sf pb ps s = .ok t →
        t.netProfit.value ≤ t.grossProfit.value ∧
          (t.grossProfit.value ≤ 0 → t.netProfit.value ≤ 0 ∧ t.expectedValue.value ≤ 0) ∧
          (0 < t.expectedValue.value →
            t.expectedValue.value ≤ t.netProfit.value ∧ t.totalFees.value < t.grossProfit.value ∧
              0 ≤ t.totalFees.value ∧ t.effectiveBuyPrice.value < t.effectiveSellPrice.value ∧
              0 ≤ t.netProfitPct.value)) ∧
    (∀ {pairs : List MonitoredPair} {settings : Settings} {d : Detector} {m : Monitor},
      create pairs settings = .ok d → Monitor.Reachable m →
      (∀ a r, m.cache.get? a = some r → 0 ≤ r.feeRateBps) →
      ∀ (prev : List Opportunity) (cancelAfter : Option Nat) {d' : Detector}
        {L : List Opportunity} {m' : Monitor},
      ({ d with last := prev }).scan cancelAfter m = .ok (d', L) m' →
      ∀ o ∈ L, ∃ buy sell e, m.cache.get? o.buyPool = some buy ∧
        m.cache.get? o.sellPool = some sell ∧ Evaluated settings buy sell o e ∧
        e.effectiveBuyPrice.value < e.effectiveSellPrice.value ∧ 0 ≤ o.totalFees.value ∧
        o.totalFees.value < o.grossProfit.value ∧ 0 < o.expectedValue.value ∧
        o.expectedValue.value ≤ o.netProfit.value) :=
  ⟨evaluateTradeSize_profit, fun hd hm => scan_reports_covered_spreads hd hm⟩

/-- 取引量 1、買値 100、売値 101、価格影響なし、二つの手数料率 30 bps、二つの確率 1 の、既定の
設定での評価。仮定はどれも満たされ、純利益は粗利以下。 -/
theorem evaluation_profit_bounds_at_thirty_bps :
    ∃ t, evaluateTradeSize (Calc.lit "1") (Calc.lit "100") (Calc.lit "101") (Calc.lit "0")
        (Calc.lit "0") 30 30 1.0 1.0 Settings.default = .ok t ∧
      t.netProfit.value ≤ t.grossProfit.value := by
  obtain ⟨t, ht⟩ := exists_eq_ok_of_toBool (x := evaluateTradeSize (Calc.lit "1")
    (Calc.lit "100") (Calc.lit "101") (Calc.lit "0") (Calc.lit "0") 30 30 1.0 1.0 Settings.default)
    (by decide +kernel)
  obtain ⟨s', hs'⟩ := exists_eq_ok_of_toBool (x := Validate.validateSettings Settings.default)
    (by decide +kernel)
  have hone : InUnit 1.0 := ⟨by decide +kernel, by decide +kernel⟩
  have hsize : 0 ≤ (Calc.lit "1").value := by
    rw [Calc.value_lit_one]
    exact zero_le_one
  have hbp : 0 ≤ (Calc.lit "100").value := by
    rw [Calc.value_lit_hundred]
    exact_mod_cast (by norm_num : (0 : ℚ) ≤ 100)
  exact ⟨t, ht, (evaluation_profit_bounds_and_covered_spreads.1 hsize hbp (by decide) (by decide)
    hone hone hs' ht).1⟩

end Detector

end CrossPool
