import Mathlib
import CrossPool.Proofs.Scan.Admissible
import CrossPool.Proofs.Scan.Frame
import CrossPool.Proofs.Detector.Grid

/-!
# 格子の探索が選ぶ取引量

二つの記録を買うプールと売るプールとして評価する（`evaluate`）と、値は次のとおりである
（`evaluate_picks_first_best`）。

* どちらかが古い、どちらかの組の向きの価格が読み飛ばせる失敗（流動性不足、幅の超過）で
  終わる、または評価できた標本の期待値がどれも 0 以下なら `none`。
* そうでなければ、格子の順で期待値が最大の最初の標本から作った機会。作った検出器の格子は
  値の狭義の昇順（`create_grid_sorted`）なので、その標本の取引量は、期待値が最大の標本の
  うちいちばん小さい（`FirstMax.smallest`）。

標本（`sample`）は、買う脚を `P.tokenB` を払う向きに `size * 買値` で、売る脚を `P.tokenA` を
払う向きに `size` で見積もり、取引量を評価したもの。見積もりが読み飛ばせる失敗で終わった
取引量は標本にならない。

証明は三段である。

1. 一つの取引量の評価の値は、その取引量の標本（`evaluateSize_sample`）。
2. 畳み込みの累積は、そこまでの標本のうち期待値が最大の最初のもの（`BestOf`）。比較は狭義の
   `<` なので、期待値の等しい後の標本は前の標本を置き換えない（`keepBetter_bestOf`）。
3. 探索（`searchGrid_spec`）と鮮度の確かめ（`evaluate_spec`）が、これを `none` の条件と
   返す機会に組み立てる。
-/

namespace CrossPool

namespace PoolState

/-- 向き `aToB` の交換が払うトークン：a から b なら `tokenA`、逆なら `tokenB`。 -/
def inputToken (r : PoolState) (aToB : Bool) : String := if aToB then r.tokenA else r.tokenB

/-- トークン `t` を払う交換の向き。 -/
def spending (r : PoolState) (t : String) : Bool := r.tokenA == t

/-- 二つのトークンを扱う記録では、その一方を払う向きの交換はそのトークンを払う。 -/
theorem inputToken_spending {r : PoolState} {t u : String}
    (h : (r.tokenA = t ∧ r.tokenB = u) ∨ (r.tokenA = u ∧ r.tokenB = t)) :
    r.inputToken (r.spending t) = t := by
  unfold inputToken spending
  by_cases ht : r.tokenA = t
  · simp [ht]
  · have hb : r.tokenB = t := by
      rcases h with ⟨ha, -⟩ | ⟨-, hb⟩
      · exact absurd ha ht
      · exact hb
    simp [ht, hb]

/-- 組を扱う記録は、組の二つのトークンをどちらかの順で持つ。 -/
theorem tokens_of_tradesPair {r : PoolState} {a b : String} (h : r.tradesPair a b = true) :
    (r.tokenA = a ∧ r.tokenB = b) ∨ (r.tokenA = b ∧ r.tokenB = a) := by
  have hk : pairKey r.tokenA r.tokenB = pairKey a b := by simpa [tradesPair, key] using h
  unfold pairKey at hk
  split_ifs at hk <;> simp only [Prod.mk.injEq] at hk <;> simp [hk.1, hk.2]

end PoolState

namespace Detector

open Monitor

/-! ## 標本 -/

/-- 一つの取引量の二つの脚の見積もり。買う脚は `P.tokenB` を払う向きに `buyInput` を、売る脚は
`P.tokenA` を払う向きに `size` を入れ、それぞれの価格影響と実行確率を求める。 -/
def legs (m : Monitor) (P : MonitoredPair) (buy sell : PoolState) (buyInput size : Decimal)
    (now : Float) : Except Fault (Decimal × Decimal × Float × Float) := do
  let bi ← priceImpact buy buyInput (buy.spending P.tokenB)
  let si ← priceImpact sell size (sell.spending P.tokenA)
  let pb ← m.executionProbability buy buyInput (buy.spending P.tokenB) now
  let ps ← m.executionProbability sell size (sell.spending P.tokenA) now
  return (bi, si, pb, ps)

/-- 買値 `bp`、売値 `sp` での取引量 `size` の標本：買う脚に `size * bp` を入れて二つの脚を
見積もり、取引量を評価する。 -/
def sample (m : Monitor) (d : Detector) (P : MonitoredPair) (buy sell : PoolState)
    (bp sp size : Decimal) : Except Fault TradeEvaluation := do
  let buyInput ← Calc.mul size bp
  let (bi, si, pb, ps) ← legs m P buy sell buyInput size m.clock
  evaluateTradeSize size bp sp bi si buy.feeRateBps sell.feeRateBps pb ps d.settings

/-- 格子の順に並べた、評価できた標本。 -/
def samples (m : Monitor) (d : Detector) (P : MonitoredPair) (buy sell : PoolState)
    (bp sp : Decimal) : List TradeEvaluation :=
  (d.grid P.name).filterMap fun size => (sample m d P buy sell bp sp size).toOption

/-- 見積もりは監視器の読む部分だけを読む。 -/
theorem legs_congr {m m₀ : Monitor} (h : m.view = m₀.view) (P : MonitoredPair)
    (buy sell : PoolState) (buyInput size : Decimal) (now : Float) :
    legs m P buy sell buyInput size now = legs m₀ P buy sell buyInput size now := by
  rw [eq_of_view_eq h.symm]
  rfl

/-- 標本の取引量は、評価した取引量そのもの。 -/
theorem sample_tradeSize {m : Monitor} {d : Detector} {P : MonitoredPair} {buy sell : PoolState}
    {bp sp size : Decimal} {e : TradeEvaluation} (h : sample m d P buy sell bp sp size = .ok e) :
    e.tradeSize = size := by
  unfold sample at h
  obtain ⟨_, -, h⟩ := bind_eq_ok h
  obtain ⟨⟨bi, si, pb, ps⟩, -, h⟩ := bind_eq_ok h
  exact (evaluateTradeSize_spec _ _ _ _ _ _ _ _ _ _ e h).1

/-- 格子が値の狭義の昇順なら、標本の取引量も狭義の昇順。 -/
theorem samples_sorted {m : Monitor} {d : Detector} {P : MonitoredPair} {buy sell : PoolState}
    {bp sp : Decimal} (hg : (d.grid P.name).Pairwise fun a b => a.value < b.value) :
    (samples m d P buy sell bp sp).Pairwise fun x y => x.tradeSize.value < y.tradeSize.value := by
  unfold samples
  rw [List.pairwise_filterMap]
  refine hg.imp fun hab x hx y hy => ?_
  rw [sample_tradeSize (eq_ok_of_toOption hx), sample_tradeSize (eq_ok_of_toOption hy)]
  exact hab

/-! ## 期待値が最大の最初の標本 -/

/-- `e` は `es` のうち期待値が最大の最初の要素：前の要素の期待値はどれも小さく、後の要素の
期待値はどれも大きくない。 -/
def FirstMax (es : List TradeEvaluation) (e : TradeEvaluation) : Prop :=
  ∃ pre post, es = pre ++ e :: post ∧
    (∀ x ∈ pre, x.expectedValue.value < e.expectedValue.value) ∧
    ∀ x ∈ post, x.expectedValue.value ≤ e.expectedValue.value

/-- 探索の累積：標本がなければ `none`、あれば期待値が最大の最初の標本。 -/
def BestOf (es : List TradeEvaluation) : Option TradeEvaluation → Prop
  | none => es = []
  | some b => FirstMax es b

namespace FirstMax

variable {es : List TradeEvaluation} {e x : TradeEvaluation}

theorem mem (h : FirstMax es e) : e ∈ es := by
  obtain ⟨pre, post, rfl, -, -⟩ := h
  simp

/-- 期待値が最大の要素は、どの要素の期待値も下回らない。 -/
theorem le (h : FirstMax es e) : ∀ y ∈ es, y.expectedValue.value ≤ e.expectedValue.value := by
  obtain ⟨pre, post, rfl, hpre, hpost⟩ := h
  intro y hy
  rcases List.mem_append.mp hy with hy | hy
  · exact (hpre y hy).le
  · rcases List.mem_cons.mp hy with rfl | hy
    · exact le_rfl
    · exact hpost y hy

theorem singleton (e : TradeEvaluation) : FirstMax [e] e :=
  ⟨[], [], rfl, by simp, by simp⟩

/-- 期待値が大きくない標本を後ろに加えても、最大の最初の要素は変わらない。 -/
theorem append_of_le (h : FirstMax es e) (hx : x.expectedValue.value ≤ e.expectedValue.value) :
    FirstMax (es ++ [x]) e := by
  obtain ⟨pre, post, rfl, hpre, hpost⟩ := h
  refine ⟨pre, post ++ [x], by simp, hpre, fun y hy => ?_⟩
  rcases List.mem_append.mp hy with hy | hy
  · exact hpost y hy
  · rw [List.mem_singleton.mp hy]
    exact hx

/-- どの要素より期待値が大きい標本を後ろに加えると、それが最大の最初の要素になる。 -/
theorem append_of_lt (hx : ∀ y ∈ es, y.expectedValue.value < x.expectedValue.value) :
    FirstMax (es ++ [x]) x :=
  ⟨es, [], rfl, hx, by simp⟩

/-- 取引量が狭義の昇順の列では、期待値が最大の最初の要素は、期待値が最大の要素のうち取引量が
いちばん小さい。 -/
theorem smallest (h : FirstMax es e)
    (hs : es.Pairwise fun x y => x.tradeSize.value < y.tradeSize.value) :
    ∀ x ∈ es, x.expectedValue.value = e.expectedValue.value →
      e.tradeSize.value ≤ x.tradeSize.value := by
  obtain ⟨pre, post, rfl, hpre, -⟩ := h
  intro x hx heq
  rcases List.mem_append.mp hx with hx | hx
  · exact absurd heq (hpre x hx).ne
  · rcases List.mem_cons.mp hx with rfl | hx
    · exact le_rfl
    · exact ((List.pairwise_cons.mp (List.pairwise_append.mp hs).2.1).1 x hx).le

end FirstMax

/-- 累積を比べて更新すると、標本を一つ加えた列の累積になる。 -/
theorem keepBetter_bestOf {es : List TradeEvaluation} {best : Option TradeEvaluation}
    (h : BestOf es best) (ev : Option TradeEvaluation) :
    Returns (keepBetter best ev) (BestOf (es ++ ev.toList)) := by
  unfold keepBetter
  split
  · simpa using h
  · next e =>
    have hes : es = [] := h
    simpa [hes, BestOf] using FirstMax.singleton e
  · next b e =>
    have hb : FirstMax es b := h
    simp only [Returns.bind_iff]
    intro t ht
    obtain ⟨-, -, rfl⟩ := Calc.lt_eq_ok.mp ht
    by_cases hlt : b.expectedValue.value < e.expectedValue.value
    · simp only [hlt, decide_true, if_true, Returns.pure_iff, Option.toList_some]
      exact FirstMax.append_of_lt fun y hy => (hb.le y hy).trans_lt hlt
    · simp only [hlt, decide_false, Bool.false_eq_true, if_false, Returns.pure_iff,
        Option.toList_some]
      exact hb.append_of_le (not_lt.mp hlt)

/-! ## 一つの取引量と格子の畳み込み -/

section Steps

variable (m₀ : Monitor) (d : Detector) (P : MonitoredPair) (buy sell : PoolState)

/-- 一つの取引量の評価の値は、その取引量の標本。見積もりが読み飛ばせる失敗で終われば `none`。 -/
theorem evaluateSize_sample (bp sp size : Decimal) :
    Ensures m₀.view
      (evaluateSize d size buy sell bp sp (buy.spending P.tokenB) (sell.spending P.tokenA)
        m₀.clock)
      fun r => r = (sample m₀ d P buy sell bp sp size).toOption := by
  unfold evaluateSize
  refine Ensures.bind Ensures.get fun m hm => Ensures.bind Ensures.lift fun buyInput hbi => ?_
  have hlegs := legs_congr hm P buy sell buyInput size m₀.clock
  dsimp only
  split
  · next bi si pb ps hq =>
    have hq' : legs m₀ P buy sell buyInput size m₀.clock = .ok (bi, si, pb, ps) := hlegs ▸ hq
    refine Ensures.map Ensures.lift fun e he => ?_
    simp only [sample, hbi, hq', ok_bind, he]
    rfl
  · next a msg hq =>
    have hq' : legs m₀ P buy sell buyInput size m₀.clock = .error (.insufficientLiquidity a msg) :=
      hlegs ▸ hq
    exact Ensures.emit_skip _ _ _ (by
      simp only [sample, hbi, hq', ok_bind]
      rfl)
  · next op msg hq =>
    have hq' : legs m₀ P buy sell buyInput size m₀.clock = .error (.overflow op msg) := hlegs ▸ hq
    exact Ensures.emit_skip _ _ _ (by
      simp only [sample, hbi, hq', ok_bind]
      rfl)
  · exact Ensures.throw

end Steps

end Detector

namespace Monitor.Ensures

/--
各段が累積の不変量 `I es` を、入力の要素で決まる値を後ろに加えた `I (es ++ (g a).toList)` に
進めるなら、畳み込みの結果は入力全体の値を加えた不変量を満たす。
-/
theorem foldlM_filterMap {v : View} {α β γ : Type} {f : β → α → Step β} {g : α → Option γ}
    {I : List γ → β → Prop} (hf : ∀ es b a, I es b → Ensures v (f b a) (I (es ++ (g a).toList))) :
    ∀ (l : List α) (es : List γ) (init : β), I es init →
      Ensures v (l.foldlM f init) (I (es ++ l.filterMap g))
  | [], es, init, h => pure (by simpa using h)
  | a :: l, es, init, h => by
    rw [List.foldlM_cons]
    refine bind (hf es init a h) fun b hb => (foldlM_filterMap hf l _ b hb).mono fun r hr => ?_
    cases hg : g a <;> simpa [hg] using hr

end Monitor.Ensures

namespace Detector

open Monitor

/-! ## 探索と評価 -/

/-- 記録の組の向きの価格が、読み飛ばせる失敗（流動性不足か幅の超過）で終わる。 -/
def PriceSkipped (P : MonitoredPair) (r : PoolState) : Prop :=
  ∃ f, orientedPrice r P.tokenA P.tokenB = .error f ∧ isSkippable f = true

/-- 二つの記録の組の向きの価格が求まるなら、その価格での標本の期待値はどれも 0 以下。 -/
def NoGain (m : Monitor) (d : Detector) (P : MonitoredPair) (buy sell : PoolState) : Prop :=
  ∀ bp sp, orientedPrice buy P.tokenA P.tokenB = .ok bp →
    orientedPrice sell P.tokenA P.tokenB = .ok sp →
    ∀ e ∈ samples m d P buy sell bp sp, e.expectedValue.value ≤ 0

/-- 機会 `o` は、二つの記録の組の向きの価格と、その価格での標本のうち期待値が最大の最初の
ものから、時計の時刻で作ったもの。 -/
def BuiltFromBest (m : Monitor) (d : Detector) (P : MonitoredPair) (buy sell : PoolState)
    (o : Opportunity) : Prop :=
  ∃ bp sp e, orientedPrice buy P.tokenA P.tokenB = .ok bp ∧
    orientedPrice sell P.tokenA P.tokenB = .ok sp ∧ FirstMax (samples m d P buy sell bp sp) e ∧
    buildOpportunity d P buy sell bp sp e m.clock = .ok o

/-- 値付けの値は組の向きの価格。`none` なら、価格は読み飛ばせる失敗で終わった。 -/
theorem safePrice_skipped (v : View) (P : MonitoredPair) (pool : PoolState) :
    Ensures v (safePrice P pool) fun r =>
      r = (orientedPrice pool P.tokenA P.tokenB).toOption ∧ (r = none → PriceSkipped P pool) := by
  unfold safePrice
  split
  · next pr h => exact Ensures.pure ⟨by rw [h]; rfl, fun hn => by cases hn⟩
  · next a msg h =>
    exact Ensures.emit_skip _ _ _ ⟨by rw [h]; rfl, fun _ => ⟨_, h, rfl⟩⟩
  · next op msg h =>
    exact Ensures.emit_skip _ _ _ ⟨by rw [h]; rfl, fun _ => ⟨_, h, rfl⟩⟩
  · exact Ensures.throw

theorem not_priceSkipped {P : MonitoredPair} {r : PoolState} {p : Decimal}
    (h : orientedPrice r P.tokenA P.tokenB = .ok p) : ¬ PriceSkipped P r := by
  rintro ⟨f, hf, -⟩
  rw [h] at hf
  cases hf

/-- 二つの価格が求まるなら、`NoGain` はその価格での標本についての主張。 -/
theorem noGain_iff {m : Monitor} {d : Detector} {P : MonitoredPair} {buy sell : PoolState}
    {bp sp : Decimal} (hbuy : orientedPrice buy P.tokenA P.tokenB = .ok bp)
    (hsell : orientedPrice sell P.tokenA P.tokenB = .ok sp) :
    NoGain m d P buy sell ↔ ∀ e ∈ samples m d P buy sell bp sp, e.expectedValue.value ≤ 0 := by
  refine ⟨fun h => h _ _ hbuy hsell, fun h bp' sp' hb hs => ?_⟩
  rw [Except.ok.inj (hb.symm.trans hbuy), Except.ok.inj (hs.symm.trans hsell)]
  exact h

/-- `none` は、`none` を返す条件が成り立てば探索と評価の事後条件を満たす。 -/
theorem none_satisfies {C : Prop} {R : Opportunity → Prop} (hc : C) :
    ((none : Option Opportunity) = none ↔ C) ∧ ∀ o, (none : Option Opportunity) = some o → R o :=
  ⟨iff_of_true rfl hc, fun _ h => by cases h⟩

section Steps

variable (m₀ : Monitor) (d : Detector) (P : MonitoredPair) (buy sell : PoolState)

/-- 格子の探索は、価格が読み飛ばされたか、どの標本の期待値も 0 以下のとき `none` を返し、
それ以外では期待値が最大の最初の標本から機会を作る。 -/
theorem searchGrid_spec :
    Ensures m₀.view (searchGrid d P buy sell m₀.clock) fun r =>
      (r = none ↔ PriceSkipped P buy ∨ PriceSkipped P sell ∨ NoGain m₀ d P buy sell) ∧
        ∀ o, r = some o → BuiltFromBest m₀ d P buy sell o := by
  unfold searchGrid
  refine Ensures.bind (safePrice_skipped _ P buy) fun bpo hbp =>
    Ensures.bind (safePrice_skipped _ P sell) fun spo hsp => ?_
  rcases bpo with _ | buyPrice <;> rcases spo with _ | sellPrice <;> dsimp only
  · exact Ensures.pure (none_satisfies (.inl (hbp.2 rfl)))
  · exact Ensures.pure (none_satisfies (.inl (hbp.2 rfl)))
  · exact Ensures.pure (none_satisfies (.inr (.inl (hsp.2 rfl))))
  have hbuy := eq_ok_of_toOption hbp.1.symm
  have hsell := eq_ok_of_toOption hsp.1.symm
  have hnoGain := noGain_iff (m := m₀) (d := d) hbuy hsell
  have hfold := Ensures.foldlM_filterMap (v := m₀.view) (I := BestOf)
    (g := fun size => (sample m₀ d P buy sell buyPrice sellPrice size).toOption)
    (fun es best size hb =>
      Ensures.bind (evaluateSize_sample m₀ d P buy sell buyPrice sellPrice size) fun ev hev =>
        Ensures.lift.mono fun best' hk => hev ▸ keepBetter_bestOf hb ev best' hk)
    (d.grid P.name) [] none rfl
  refine Ensures.bind hfold fun best hbest => ?_
  rw [List.nil_append] at hbest
  cases best with
  | none =>
    have hnil : samples m₀ d P buy sell buyPrice sellPrice = [] := hbest
    exact Ensures.pure (none_satisfies (.inr (.inr (hnoGain.mpr (by simp [hnil])))))
  | some b =>
  have hb : FirstMax (samples m₀ d P buy sell buyPrice sellPrice) b := hbest
  dsimp only
  refine Ensures.bind Ensures.lift fun t ht => ?_
  obtain ⟨-, -, rfl⟩ := Calc.le_eq_ok.mp ht
  rw [Calc.value_lit_zero]
  by_cases hle : b.expectedValue.value ≤ 0
  · -- 最良の標本の期待値が 0 以下なら、どの標本も 0 以下
    rw [if_pos (by simpa using hle)]
    exact Ensures.pure
      (none_satisfies (.inr (.inr (hnoGain.mpr fun e he => (hb.le e he).trans hle))))
  · rw [if_neg (by simpa using hle)]
    refine Ensures.map Ensures.lift fun o ho => ⟨iff_of_false (by simp) ?_, ?_⟩
    · rintro (h | h | h)
      · exact not_priceSkipped hbuy h
      · exact not_priceSkipped hsell h
      · exact hle ((hnoGain.mp h) b hb.mem)
    · rintro o' ho'
      cases ho'
      exact ⟨buyPrice, sellPrice, b, hbuy, hsell, hb, ho⟩

/-- 二つの鮮度の確かめは、どちらの記録も新鮮なときちょうど成功し、失敗は古さの失敗。 -/
theorem requireFresh_both (m : Monitor) (now : Float) :
    (∀ x, (m.requireFresh buy now >>= fun _ => m.requireFresh sell now) = .ok x →
      m.isFresh buy now = true ∧ m.isFresh sell now = true) ∧
    (∀ e, (m.requireFresh buy now >>= fun _ => m.requireFresh sell now) = .error e →
      (m.isFresh buy now = false ∨ m.isFresh sell now = false) ∧
        ∃ a age maxAge msg, e = .stale a age maxAge msg) := by
  unfold requireFresh
  cases hb : m.isFresh buy now <;> cases hs : m.isFresh sell now <;>
    simp [Bind.bind, Except.bind]

/-- 評価は、どちらかの記録が古いとき、探索が `none` を返すときに `none` を返し、それ以外では
探索の機会を返す。 -/
theorem evaluate_spec :
    Ensures m₀.view (evaluate d buy sell P) fun r =>
      (r = none ↔ m₀.isFresh buy m₀.clock = false ∨ m₀.isFresh sell m₀.clock = false ∨
        PriceSkipped P buy ∨ PriceSkipped P sell ∨ NoGain m₀ d P buy sell) ∧
      ∀ o, r = some o → BuiltFromBest m₀ d P buy sell o := by
  unfold evaluate
  refine Ensures.bind Ensures.get fun m hm => ?_
  -- 読む部分が同じなので、時計と鮮度は初めの状態のもの
  have hclock : m.clock = m₀.clock := congrArg View.clock hm
  have hage : m.maxPoolAge = m₀.maxPoolAge := congrArg View.maxPoolAge hm
  have hfresh : ∀ r, m.isFresh r m.clock = m₀.isFresh r m₀.clock := fun r => by
    rw [Monitor.isFresh, Monitor.isFresh, hclock, hage]
  obtain ⟨hok, herr⟩ := requireFresh_both buy sell m m.clock
  dsimp only
  split
  · next x hx =>
    obtain ⟨hb, hs⟩ := hok x hx
    rw [hfresh] at hb hs
    rw [hclock]
    refine (searchGrid_spec m₀ d P buy sell).mono fun r ⟨hiff, hsome⟩ => ⟨?_, hsome⟩
    simp only [hb, hs, Bool.true_eq_false, false_or]
    exact hiff
  · next a age maxAge msg hx =>
    have hstale := (herr _ hx).1
    rw [hfresh, hfresh] at hstale
    exact Ensures.emit_skip _ _ _ (none_satisfies (hstale.elim .inl (.inr ∘ .inl)))
  · next e hne hx =>
    obtain ⟨a, age, maxAge, msg, rfl⟩ := (herr e hx).2
    exact absurd rfl (hne a age maxAge msg)

end Steps

/-! ## 主定理 -/

/--
作った検出器の組 `P` の二つのトークンを扱う二つの記録を、買うプールと売るプールとして評価
する。評価が成功すれば、その値は次のとおり。

* 買う脚は `P.tokenB` を払う向き、売る脚は `P.tokenA` を払う向きに見積もる。
* `none` を返すのは、どちらかの記録が時計の時刻で古いか、どちらかの組の向きの価格が読み
  飛ばせる失敗（流動性不足か幅の超過）で終わるか、評価できた標本の期待値がどれも 0 以下の
  ときちょうどである。
* 機会を返すなら、それは二つの価格と、格子の順で期待値が最大の最初の標本から作った機会。
  格子は値の昇順なので、その標本の取引量は、期待値が最大の標本のうちいちばん小さい。
-/
theorem evaluate_picks_first_best {pairs : List MonitoredPair} {settings : Settings}
    {d : Detector} (hd : create pairs settings = .ok d) {P : MonitoredPair} (hP : P ∈ pairs)
    {buy sell : PoolState} (hbuy : buy.tradesPair P.tokenA P.tokenB = true)
    (hsell : sell.tradesPair P.tokenA P.tokenB = true) {m m' : Monitor} {r : Option Opportunity}
    (h : d.evaluate buy sell P m = .ok r m') :
    (buy.inputToken (buy.spending P.tokenB) = P.tokenB ∧
      sell.inputToken (sell.spending P.tokenA) = P.tokenA) ∧
    (r = none ↔ m.isFresh buy m.clock = false ∨ m.isFresh sell m.clock = false ∨
      PriceSkipped P buy ∨ PriceSkipped P sell ∨ NoGain m d P buy sell) ∧
    ∀ o, r = some o → ∃ bp sp e, orientedPrice buy P.tokenA P.tokenB = .ok bp ∧
      orientedPrice sell P.tokenA P.tokenB = .ok sp ∧ FirstMax (samples m d P buy sell bp sp) e ∧
      (∀ x ∈ samples m d P buy sell bp sp, x.expectedValue.value = e.expectedValue.value →
        e.tradeSize.value ≤ x.tradeSize.value) ∧
      buildOpportunity d P buy sell bp sp e m.clock = .ok o := by
  have hdir : buy.inputToken (buy.spending P.tokenB) = P.tokenB ∧
      sell.inputToken (sell.spending P.tokenA) = P.tokenA :=
    ⟨PoolState.inputToken_spending (PoolState.tokens_of_tradesPair hbuy).symm,
      PoolState.inputToken_spending (PoolState.tokens_of_tradesPair hsell)⟩
  obtain ⟨-, hiff, hsome⟩ := evaluate_spec m d P buy sell m r m' rfl h
  refine ⟨hdir, hiff, fun o ho => ?_⟩
  obtain ⟨bp, sp, e, hbp, hsp, hfirst, hbuild⟩ := hsome o ho
  exact ⟨bp, sp, e, hbp, hsp, hfirst,
    hfirst.smallest (samples_sorted (create_grid_sorted hd hP)), hbuild⟩

/-- 区間 `[1, 10]` と取引量 5 の組で、買うプールの記録が 100 秒前のもの（鮮度の上限は 60 秒）。
仮定はどれも満たされ、評価は古い記録を読み飛ばして終わる。 -/
theorem evaluate_picks_first_best_on_stale_buy :
    let P : MonitoredPair :=
      ⟨"SOL/USDC", "SOL", "USDC", Calc.lit "1", Calc.lit "10", none, some [Calc.lit "5"]⟩
    let buy : PoolState :=
      { (default : PoolState) with
        address := "old", kind := .constantProduct, tokenA := "SOL", tokenB := "USDC",
        reserveA := 1000000000000, reserveB := 100000000000000, feeRateBps := 5,
        lastUpdate := 900.0 }
    let sell : PoolState :=
      { (default : PoolState) with
        address := "new", kind := .constantProduct, tokenA := "SOL", tokenB := "USDC",
        reserveA := 1000000000000, reserveB := 110000000000000, feeRateBps := 5,
        lastUpdate := 1000.0 }
    let m : Monitor :=
      ⟨⟨PoolCache.strHash, [[], []], []⟩, Stability.empty none 0.5, 60.0, 1000.0, none, []⟩
    ∃ d r m', create [P] Settings.default = .ok d ∧ P ∈ [P] ∧
      buy.tradesPair P.tokenA P.tokenB = true ∧ sell.tradesPair P.tokenA P.tokenB = true ∧
      d.evaluate buy sell P m = .ok r m' ∧
      (buy.inputToken (buy.spending P.tokenB) = P.tokenB ∧
        sell.inputToken (sell.spending P.tokenA) = P.tokenA) ∧
      (r = none ↔ m.isFresh buy m.clock = false ∨ m.isFresh sell m.clock = false ∨
        PriceSkipped P buy ∨ PriceSkipped P sell ∨ NoGain m d P buy sell) ∧
      ∀ o, r = some o → ∃ bp sp e, orientedPrice buy P.tokenA P.tokenB = .ok bp ∧
        orientedPrice sell P.tokenA P.tokenB = .ok sp ∧
        FirstMax (samples m d P buy sell bp sp) e ∧
        (∀ x ∈ samples m d P buy sell bp sp, x.expectedValue.value = e.expectedValue.value →
          e.tradeSize.value ≤ x.tradeSize.value) ∧
        buildOpportunity d P buy sell bp sp e m.clock = .ok o := by
  intro P buy sell m
  have hd : create [P] Settings.default = .ok ⟨Settings.default, [P],
      [("SOL/USDC", [Calc.lit "5"])], []⟩ := by
    with_unfolding_all rfl
  have htrades : buy.tradesPair P.tokenA P.tokenB = true ∧
      sell.tradesPair P.tokenA P.tokenB = true := by
    decide
  obtain ⟨r, m', h⟩ : ∃ r m', Detector.evaluate ⟨Settings.default, [P],
      [("SOL/USDC", [Calc.lit "5"])], []⟩ buy sell P m = .ok r m' :=
    ⟨_, _, by dsimp only [P, buy, sell, m]; with_unfolding_all rfl⟩
  exact ⟨_, r, m', hd, List.mem_singleton_self P, htrades.1, htrades.2, h,
    evaluate_picks_first_best hd (List.mem_singleton_self P) htrades.1 htrades.2 h⟩

end Detector

end CrossPool
