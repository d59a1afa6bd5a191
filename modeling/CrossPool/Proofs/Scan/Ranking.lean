import Mathlib
import CrossPool.Proofs.Scan.Admissible
import CrossPool.Proofs.Scan.Frame
import CrossPool.Proofs.Decimal.Monotone
import CrossPool.Proofs.Binary64.Convert

/-!
# 走査の結果の順位

走査は、組ごとに閾値を通った機会を集め（`scanPairs`）、点数、次に期待値の大きい順に安定に
並べ（`rank`）、先頭の上限個だけを残す。ここではその結果について示す。

* 点数は正の期待値について単調である（`evScore_mono`）。正の値を正の満点で割る丸め、100 を
  掛ける丸め、浮動小数点数への変換、`[0, 100]` への切り詰めはどれも単調。
* 集めた機会の点数と期待値は NaN でないので、`scoreBelow` は鍵 `(点数, 期待値)` の辞書式の
  比較になる（`scoreBelow_eq`）。そのため `rank` は鍵の大きい順の安定な整列で、残した機会は
  落とした機会より下に来ない。
* 点数の順に並べれば期待値の順にも並ぶ。点数が大きいのに期待値が小さいことは、単調性から
  起こらない。
* 一つの組の中では、同じ二つのプールを使う機会は二つない。組の名前は重ならないので、組を
  越えて集めても、並べ替えても、このことは保たれる。
-/

namespace CrossPool

theorem Decimal.Plus.isNan_eq_false {a : Decimal} (h : a.Plus) : a.isNan = false := by
  cases h <;> rfl

theorem Calc.toFloat_eq_ok {d : Decimal} {x : Float} (h : Calc.toFloat d = .ok x) :
    d.toFloat? = some x := by
  unfold Calc.toFloat at h
  split at h
  · next y hy =>
    cases h
    exact hy
  · cases h

namespace Monitor

/-- 続けた計算が成功すれば、前の計算が成功し、その後の状態から後の計算が成功している。 -/
theorem bind_run_eq_ok {α β : Type} {x : Step α} {f : α → Step β} {m m' : Monitor} {b : β}
    (h : (x >>= f) m = .ok b m') : ∃ a m'', x m = .ok a m'' ∧ f a m'' = .ok b m' := by
  change EStateM.bind x f m = _ at h
  unfold EStateM.bind at h
  cases hx : x m with
  | ok a m'' =>
    rw [hx] at h
    exact ⟨a, m'', rfl, h⟩
  | error e s =>
    rw [hx] at h
    cases h

end Monitor

namespace Detector

open Monitor Binary64

/-! ## 点数の単調性 -/

/-- 満点が正なら、点数は `期待値 / 満点 * 100` を浮動小数点数にして `[0, 100]` に切り詰めた値。 -/
theorem evScore_eq_ok {ev scale : Decimal} {x : Float}
    (hs : Calc.le scale (Calc.ofInt 0) = .ok false) (h : evScore ev scale = .ok x) :
    ∃ q r f, Decimal.div Calc.ctx ev scale = .ok q ∧
      Decimal.mul Calc.ctx q (.finite false 100 0) = .ok r ∧ r.toFloat? = some f ∧
      x = clamp f 0.0 100.0 := by
  unfold evScore at h
  rw [hs, ok_bind, if_neg Bool.false_ne_true] at h
  obtain ⟨q, hq, h⟩ := bind_eq_ok h
  obtain ⟨r, hr, h⟩ := bind_eq_ok h
  obtain ⟨f, hf, h⟩ := bind_eq_ok h
  rw [show Calc.lit "100" = .finite false 100 0 from by decide +kernel] at hr
  exact ⟨q, r, f, Calc.liftSignal_eq_ok.mp hq, Calc.liftSignal_eq_ok.mp hr, Calc.toFloat_eq_ok hf,
    (Except.ok.inj h).symm⟩

/--
正の期待値では、点数は期待値について単調。満点が正なら各段の丸めと変換が単調で、0 以下なら
点数はどれも 0。
-/
theorem evScore_mono {a b scale : Decimal} {x y : Float} (ha : 0 < a.value)
    (hab : a.value ≤ b.value) (hx : evScore a scale = .ok x) (hy : evScore b scale = .ok y) :
    x ≤ y := by
  obtain ⟨t, ht, hx'⟩ := bind_eq_ok hx
  obtain ⟨hsNan, -, rfl⟩ := Calc.le_eq_ok.mp ht
  by_cases hpos : scale.value ≤ (Calc.ofInt 0).value
  · have hzero : ∀ {ev : Decimal} {z : Float}, evScore ev scale = .ok z → z = 0.0 := by
      intro ev z hz
      unfold evScore at hz
      rw [ht, ok_bind, if_pos (by simpa using hpos)] at hz
      exact (Except.ok.inj hz).symm
    rw [hzero hx, hzero hy]
    exact (le_iff_key comparable_zero comparable_zero).mpr le_rfl
  · have hs : Calc.le scale (Calc.ofInt 0) = .ok false := by simpa [hpos] using ht
    have hscale : 0 < scale.value := by
      rw [show (Calc.ofInt 0).value = 0 from Calc.value_lit_zero] at hpos
      exact not_le.mp hpos
    obtain ⟨qa, ra, fa, hqa, hra, hfa, rfl⟩ := evScore_eq_ok hs hx
    obtain ⟨qb, rb, fb, hqb, hrb, hfb, rfl⟩ := evScore_eq_ok hs hy
    have hpa := Decimal.plus_of_pos ha
    have hpb := Decimal.plus_of_pos (ha.trans_le hab)
    obtain ⟨hqa', hqb', hq⟩ := Decimal.div_plusMono (by decide) hscale hpa hpb hab hqa hqb
    obtain ⟨hra', hrb', hr⟩ := Decimal.mul_plusMono (by decide) (by norm_num) 0 hqa' hqb' hq hra hrb
    have hca := (toFloat_bounds hra' hfa).1
    have hcb := (toFloat_bounds hrb' hfb).1
    exact clamp_mono hca hcb comparable_zero (by decide +kernel)
      ((le_iff_key hca hcb).mpr (toFloat_mono hra' hrb' hr hfa hfb))

/-! ## 順位の鍵 -/

/-- 並べ替えで比べられる機会：点数も期待値も NaN でない。 -/
structure Rankable (o : Opportunity) : Prop where
  score : Comparable o.evScore
  ev : o.expectedValue.isNan = false

/-- 順位の鍵。点数、次に期待値の辞書式。 -/
def rankKey (o : Opportunity) : (ℤ ×ₗ ℤ ×ₗ ℤ) ×ₗ WithBot (WithTop ℚ) :=
  toLex (key o.evScore, o.expectedValue.value)

/-- `a` の順位は `b` 以上：点数が大きいか、点数が同じで期待値が大きいか等しい。 -/
def RanksAtLeast (a b : Opportunity) : Prop :=
  b.evScore ≤ a.evScore ∧ (a.evScore ≤ b.evScore → b.expectedValue.value ≤ a.expectedValue.value)

/-- 比べられる機会では、`scoreBelow` は順位の鍵の比較。 -/
theorem scoreBelow_eq {a b : Opportunity} (ha : Rankable a) (hb : Rankable b) :
    scoreBelow a b = decide (rankKey a < rankKey b) := by
  unfold scoreBelow rankKey
  rw [Decimal.cmpValue_eq_compare ha.ev hb.ev, Decimal.compare_beq_lt]
  simp only [Prod.Lex.toLex_lt_toLex]
  by_cases hk : key a.evScore = key b.evScore
  · rw [if_pos ((beq_iff_key ha.score hb.score).mpr hk)]
    simp [hk]
  · rw [if_neg fun h => hk ((beq_iff_key ha.score hb.score).mp h)]
    simp [hk, lt_iff_key ha.score hb.score]

theorem ranksAtLeast_iff {a b : Opportunity} (ha : Rankable a) (hb : Rankable b) :
    RanksAtLeast a b ↔ rankKey b ≤ rankKey a := by
  unfold RanksAtLeast rankKey
  rw [le_iff_key hb.score ha.score, le_iff_key ha.score hb.score, Prod.Lex.toLex_le_toLex]
  constructor
  · rintro ⟨hle, hev⟩
    rcases hle.lt_or_eq with hlt | heq
    · exact .inl hlt
    · exact .inr ⟨heq, hev heq.ge⟩
  · rintro (hlt | ⟨heq, hev⟩)
    · exact ⟨hlt.le, fun hle => absurd hle (not_le.mpr hlt)⟩
    · exact ⟨heq.le, fun _ => hev⟩

/-! ## 並べ替え -/

section Rank

variable {os : List Opportunity}

theorem rank_perm (os : List Opportunity) : (rank os).Perm os := List.mergeSort_perm _ _

/-- 比べられる機会の列では、`rank` は順位の鍵の大きい順の整列。 -/
theorem rank_eq_mergeSort (h : ∀ o ∈ os, Rankable o) :
    rank os = os.mergeSort fun a b => decide (rankKey b ≤ rankKey a) := by
  have hmap := List.map_mergeSort (f := id) (l := os) (r := fun a b => !scoreBelow a b)
    (s := fun a b => decide (rankKey b ≤ rankKey a)) fun a ha b hb => by
      simp only [scoreBelow_eq (h a ha) (h b hb), id, ← decide_not, not_lt]
  simpa [rank] using hmap

theorem rankKey_trans (a b c : Opportunity) (hab : decide (rankKey b ≤ rankKey a) = true)
    (hbc : decide (rankKey c ≤ rankKey b) = true) : decide (rankKey c ≤ rankKey a) = true := by
  simp only [decide_eq_true_eq] at *
  exact hbc.trans hab

theorem rankKey_total (a b : Opportunity) :
    (decide (rankKey b ≤ rankKey a) || decide (rankKey a ≤ rankKey b)) = true := by
  simpa using le_total (rankKey b) (rankKey a)

theorem rank_sorted (h : ∀ o ∈ os, Rankable o) : (rank os).Pairwise RanksAtLeast := by
  have hs : (rank os).Pairwise fun a b => decide (rankKey b ≤ rankKey a) = true := by
    rw [rank_eq_mergeSort h]
    exact List.pairwise_mergeSort rankKey_trans rankKey_total os
  refine hs.imp_of_mem fun ha hb hab => ?_
  have hsub := (rank_perm os).subset
  exact (ranksAtLeast_iff (h _ (hsub ha)) (h _ (hsub hb))).mpr (by simpa using hab)

/-- 整列は安定：順位が同じか上の機会が前にあれば、並べた後も前にある。 -/
theorem rank_stable (h : ∀ o ∈ os, Rankable o) {a b : Opportunity} (hab : [a, b].Sublist os)
    (hr : RanksAtLeast a b) : [a, b].Sublist (rank os) := by
  have ha := h a (hab.subset (List.mem_cons_self ..))
  have hb := h b (hab.subset (by simp))
  rw [rank_eq_mergeSort h]
  exact List.pair_sublist_mergeSort rankKey_trans rankKey_total
    (by simpa using (ranksAtLeast_iff ha hb).mp hr) hab

end Rank

/-! ## 組を越えて集めた機会 -/

theorem samePoolPair_comm {o o' : Opportunity} (h : SamePoolPair o o') : SamePoolPair o' o := by
  unfold SamePoolPair at h ⊢
  grind

/-- 点数が期待値から決まる二つの正の期待値の機会では、順位が上なら期待値も小さくない。点数が
上なのに期待値が下なら、単調性から点数は上になりえない。 -/
theorem ev_le_of_ranksAtLeast {s : Settings} {a b : Opportunity} (ha : Scored s a)
    (hb : Scored s b) (hpos : 0 < a.expectedValue.value) (h : RanksAtLeast a b) :
    b.expectedValue.value ≤ a.expectedValue.value := by
  by_contra hlt
  have hab : a.expectedValue.value < b.expectedValue.value := not_le.mp hlt
  exact hlt (h.2 (evScore_mono hpos hab.le ha hb))

/-- 組の列 `ps` を走査して集めた機会の列が満たすこと：どれも `ps` のどれかの組について許され、
点数は期待値から決まり、同じ組の名前の二つの機会は同じ二つのプールを使わない。 -/
structure CollectedFrom (d : Detector) (v : View) (ps : List MonitoredPair) (os : List Opportunity) :
    Prop where
  admissible : ∀ o ∈ os, ∃ P ∈ ps, Admissible d.settings v P (d.grid P.name) o
  scored : ∀ o ∈ os, Scored d.settings o
  distinct : os.Pairwise fun o o' => o.pairName = o'.pairName → ¬ SamePoolPair o o'

namespace CollectedFrom

variable {d : Detector} {v : View} {ps : List MonitoredPair} {os : List Opportunity}

theorem rankable (h : CollectedFrom d v ps os) : ∀ o ∈ os, Rankable o := by
  intro o ho
  obtain ⟨_, -, hadm⟩ := h.admissible o ho
  exact ⟨(comparable_of_le hadm.scoreMin).2, (Decimal.plus_of_pos hadm.evPos).isNan_eq_false⟩

theorem evPos (h : CollectedFrom d v ps os) : ∀ o ∈ os, 0 < o.expectedValue.value := by
  intro o ho
  obtain ⟨_, -, hadm⟩ := h.admissible o ho
  exact hadm.evPos

theorem mono {ps' : List MonitoredPair} (h : CollectedFrom d v ps os) (hsub : ps ⊆ ps') :
    CollectedFrom d v ps' os := by
  refine ⟨fun o ho => ?_, h.scored, h.distinct⟩
  obtain ⟨P, hP, hadm⟩ := h.admissible o ho
  exact ⟨P, hsub hP, hadm⟩

/--
走査の一歩：まだ走査していない名前の組 `P` の走査が返す機会を後ろに加えても保たれる。
前に集めた機会の組の名前は `ps` の組の名前で、`P` の名前と違う。
-/
theorem append {P : MonitoredPair} {found : List Opportunity} (h : CollectedFrom d v ps os)
    (hP : P.name ∉ ps.map (·.name))
    (hfound : ∀ o ∈ found, Admissible d.settings v P (d.grid P.name) o ∧ Scored d.settings o)
    (hpw : found.Pairwise fun o o' => ¬ SamePoolPair o o') :
    CollectedFrom d v (ps ++ [P]) (os ++ found) := by
  refine ⟨fun o ho => ?_, fun o ho => ?_, ?_⟩
  · rcases List.mem_append.mp ho with ho | ho
    · obtain ⟨Q, hQ, hadm⟩ := h.admissible o ho
      exact ⟨Q, List.mem_append_left _ hQ, hadm⟩
    · exact ⟨P, by simp, (hfound o ho).1⟩
  · rcases List.mem_append.mp ho with ho | ho
    · exact h.scored o ho
    · exact (hfound o ho).2
  · refine List.pairwise_append.mpr ⟨h.distinct,
      hpw.imp fun {o o'} hne (_ : o.pairName = o'.pairName) => hne, fun o ho o' ho' heq => ?_⟩
    obtain ⟨Q, hQ, hadm⟩ := h.admissible o ho
    have hname : Q.name = P.name :=
      hadm.pairName.symm.trans (heq.trans (hfound o' ho').1.pairName)
    exact absurd (hname ▸ List.mem_map_of_mem hQ) hP

end CollectedFrom

section Scan

variable {d : Detector} {v : View}

/-- 作った検出器は走査の頼る性質を持つ。 -/
theorem Validated.ready {pairs : List MonitoredPair} {settings : Settings}
    (hv : Validated pairs settings d) : Ready d :=
  ⟨hv.settings_eq ▸ hv.minExecutionProb, fun _ hP _ hx => hv.inRange_of_mem_grid (hv.pairs_eq ▸ hP) hx⟩

/--
組を順に走査して集めた機会は、監視するすべての組から集めた `CollectedFrom`。不変量は、走査し
終えた組 `done` から集めたこと。組の名前は重ならないので、次の組の名前は `done` にない。
-/
theorem scanPairs_collected (hd : Ready d) (hw : v.cache.WF) (hn : (d.pairs.map (·.name)).Nodup)
    (cancelAfter : Option Nat) :
    Ensures v (d.scanPairs cancelAfter d.pairs 0 []) (CollectedFrom d v d.pairs) := by
  refine (scanPairs_inv (I := fun rest acc => ∃ done, done ++ rest = d.pairs ∧
      CollectedFrom d v done acc)
    cancelAfter (fun P hP => scanPair_spec hd hw hP) ?_ d.pairs 0 [] (fun _ h => h)
    ⟨[], rfl, ⟨by simp, by simp, .nil⟩⟩).mono ?_
  · rintro P ps acc found - ⟨done, hdone, hacc⟩ ⟨hfound, hpw⟩
    have hnotin : P.name ∉ done.map (·.name) := by
      rw [← hdone, List.map_append, List.nodup_append] at hn
      exact fun hmem => hn.2.2 _ hmem _ (List.mem_map_of_mem (List.mem_cons_self ..)) rfl
    exact ⟨done ++ [P], by simpa using hdone, hacc.append hnotin hfound hpw⟩
  · rintro found ⟨rest, done, hdone, hacc⟩
    exact hacc.mono fun P hP => hdone ▸ List.mem_append_left _ hP

end Scan

/-- 走査の結果は、組を順に走査して集めた機会を並べ、先頭の上限個を残したもの。検出器は `last`
だけがその列に変わる。 -/
theorem scan_eq_ok_rank {d : Detector} {cancelAfter : Option Nat} {m m' : Monitor}
    {r : Detector × List Opportunity} (h : d.scan cancelAfter m = .ok r m') :
    ∃ found m'', d.scanPairs cancelAfter d.pairs 0 [] m = .ok found m'' ∧
      r = ({ d with last := Opportunity.takeSigned (rank found) d.settings.maxOpportunities },
        Opportunity.takeSigned (rank found) d.settings.maxOpportunities) := by
  unfold scan at h
  obtain ⟨found, m'', hfound, h⟩ := bind_run_eq_ok h
  refine ⟨found, m'', hfound, ?_⟩
  dsimp only at h
  obtain ⟨_, _, -, h⟩ := bind_run_eq_ok h
  generalize (Opportunity.takeSigned (rank found) d.settings.maxOpportunities).head? = top at h
  cases top <;>
  · obtain ⟨_, _, -, h⟩ := bind_run_eq_ok h
    cases h
    rfl

theorem takeSigned_of_nonneg {α : Type} (xs : List α) {k : Int} (hk : 0 ≤ k) :
    Opportunity.takeSigned xs k = xs.take k.toNat := by
  unfold Opportunity.takeSigned
  rw [if_pos hk]

/-! ## 主定理 -/

/--
作った検出器が届く状態で走査すると、返す列 `L` は、組を順に走査して集めた機会 `found` を
点数、次に期待値の大きい順に安定に並べた列の、先頭の上限個。落とした機会は残した機会より
順位が上にならず、`L` は期待値の大きい順にも並ぶ。同じ組の名前の二つの機会は同じ二つの
プールを使わず、検出器は `last` だけが `L` に変わる。
-/
theorem scan_keeps_top_ranked {pairs : List MonitoredPair} {settings : Settings} {d : Detector}
    (hd : create pairs settings = .ok d) {m : Monitor} (hm : Monitor.Reachable m)
    (prev : List Opportunity) (cancelAfter : Option Nat) {d' : Detector} {L : List Opportunity}
    {m' : Monitor} (hs : ({ d with last := prev }).scan cancelAfter m = .ok (d', L) m') :
    ∃ found m'', d.scanPairs cancelAfter d.pairs 0 [] m = .ok found m'' ∧
      (rank found).Perm found ∧ (rank found).Pairwise RanksAtLeast ∧
      (∀ a b, [a, b].Sublist found → RanksAtLeast a b → [a, b].Sublist (rank found)) ∧
      L = (rank found).take settings.maxOpportunities.toNat ∧
      (∀ k ∈ L, ∀ o ∈ (rank found).drop settings.maxOpportunities.toNat, RanksAtLeast k o) ∧
      (L.length : Int) ≤ settings.maxOpportunities ∧
      L.Pairwise RanksAtLeast ∧
      L.Pairwise (fun a b => b.expectedValue.value ≤ a.expectedValue.value) ∧
      L.Pairwise (fun o o' => o.pairName = o'.pairName → ¬ SamePoolPair o o') ∧
      d' = { d with last := L } := by
  have hv := create_validated pairs settings d hd
  have hpos : 0 ≤ settings.maxOpportunities := by
    have := hv.maxOpportunities
    omega
  rw [scan_with_last] at hs
  obtain ⟨found, m'', hfound, hr⟩ := scan_eq_ok_rank hs
  have hc : CollectedFrom d m.view d.pairs found :=
    (scanPairs_collected hv.ready hm.wf (hv.pairs_eq ▸ hv.names_nodup) cancelAfter m found m''
      rfl hfound).2
  have hrank := hc.rankable
  rw [show d.settings.maxOpportunities = settings.maxOpportunities by rw [hv.settings_eq],
    takeSigned_of_nonneg _ hpos] at hr
  obtain ⟨rfl, rfl⟩ := Prod.mk.inj hr
  -- 残した列と落とした列に分けると、並べた列の順位の性質はそれぞれと、その間に分かれる
  have hsorted := rank_sorted hrank
  have hsplit := hsorted
  rw [← List.take_append_drop settings.maxOpportunities.toNat (rank found),
    List.pairwise_append] at hsplit
  have hmem : ∀ o ∈ (rank found).take settings.maxOpportunities.toNat, o ∈ found :=
    fun o ho => (rank_perm found).subset (List.mem_of_mem_take ho)
  refine ⟨found, m'', hfound, rank_perm found, hsorted, fun a b hab hr => rank_stable hrank hab hr,
    rfl, hsplit.2.2, ?_, hsplit.1, ?_, ?_, rfl⟩
  · have hlen := List.length_take_le settings.maxOpportunities.toNat (rank found)
    have hcast := Int.toNat_of_nonneg hpos
    omega
  · exact hsplit.1.imp_of_mem fun ha hb hab =>
      ev_le_of_ranksAtLeast (hc.scored _ (hmem _ ha)) (hc.scored _ (hmem _ hb))
        (hc.evPos _ (hmem _ ha)) hab
  · -- 同じプールの組を使わないことは向きによらないので、並べ替えても保たれる
    have hperm := hc.distinct.perm (rank_perm found).symm fun h heq hsame =>
      h heq.symm (samePoolPair_comm hsame)
    exact hperm.sublist (List.take_sublist _ _)

/-- 区間 `[1, 10]` と取引量 5 の組が一つで、保管所が空の監視器。最初の組の前で中断する走査は
何も返さず、検出器の `last` は空の列になる。 -/
theorem scan_keeps_top_ranked_when_cancelled :
    ∃ d m d' L m', create [⟨"SOL/USDC", "SOL", "USDC", Calc.lit "1", Calc.lit "10", none,
        some [Calc.lit "5"]⟩] Settings.default = .ok d ∧ Monitor.Reachable m ∧
      ({ d with last := [] }).scan (some 0) m = .ok (d', L) m' ∧
      (L.length : Int) ≤ Settings.default.maxOpportunities ∧ d' = { d with last := L } := by
  have hd : create [⟨"SOL/USDC", "SOL", "USDC", Calc.lit "1", Calc.lit "10", none,
      some [Calc.lit "5"]⟩] Settings.default = .ok ⟨Settings.default,
        [⟨"SOL/USDC", "SOL", "USDC", Calc.lit "1", Calc.lit "10", none, some [Calc.lit "5"]⟩],
        [("SOL/USDC", [Calc.lit "5"])], []⟩ := by
    with_unfolding_all rfl
  have hmc : Monitor.create ⟨PoolCache.strHash, [[], []], []⟩ 60.0 1000.0
      (Stability.empty none 0.5) none = .ok ⟨⟨PoolCache.strHash, [[], []], []⟩,
        Stability.empty none 0.5, 60.0, 1000.0, none, []⟩ := by
    unfold Monitor.create
    rw [if_neg (by decide +kernel)]
  have hm := Monitor.Reachable.create (n := 2) rfl hmc
  have hs : Detector.scan ⟨Settings.default,
      [⟨"SOL/USDC", "SOL", "USDC", Calc.lit "1", Calc.lit "10", none, some [Calc.lit "5"]⟩],
      [("SOL/USDC", [Calc.lit "5"])], []⟩ (some 0)
      ⟨⟨PoolCache.strHash, [[], []], []⟩, Stability.empty none 0.5, 60.0, 1000.0, none, []⟩ =
      .ok (⟨Settings.default,
        [⟨"SOL/USDC", "SOL", "USDC", Calc.lit "1", Calc.lit "10", none, some [Calc.lit "5"]⟩],
        [("SOL/USDC", [Calc.lit "5"])], []⟩, [])
        ⟨⟨PoolCache.strHash, [[], []], []⟩, Stability.empty none 0.5, 60.0, 1000.0, none,
          [⟨.debug, "Scan found no opportunities in 0.0ms"⟩,
            ⟨.warning, "Scan cancelled before pair SOL/USDC; returning 0 opportunities"⟩]⟩ := by
    with_unfolding_all rfl
  obtain ⟨_, _, -, -, -, -, -, -, hlen, -, -, -, hlast⟩ := scan_keeps_top_ranked hd hm [] (some 0) hs
  exact ⟨_, _, _, _, _, hd, hm, hs, hlen, hlast⟩

end Detector

end CrossPool
