import Mathlib.Data.List.Forall2
import CrossPool.Detector.Scan
import CrossPool.Proofs.Decimal.Order
import CrossPool.Proofs.Binary64.Unit
import CrossPool.Proofs.Monitor.Step

/-!
# 検出器を作るときの検査

`Detector.create` が成功した検出器について、検査が保証することを `Validated` にまとめる
（`create_validated`）。

* 設定の実行確率の閾値は `[0, 1]` にあり、結果の上限は 1 以上である。
* 組は入力のままで、名前に重なりがない。重なりは、重複を除いた名前の列が短くなることで
  見つける（`nodup_of_length_eraseDups`）。
* 組の格子は `buildGrid` の値で、その点はすべて組の取引量の区間にある
  （`Validated.inRange_of_mem_grid`）。生成した格子では `clamp` が、指定された取引量では
  区間の外の取引量の検査が、それを保証する。
-/

namespace CrossPool

open Binary64

/-- 取引量 `x` が組の区間 `[下限, 上限]` にある。 -/
def MonitoredPair.InRange (p : MonitoredPair) (x : Decimal) : Prop :=
  p.minTradeSize.value ≤ x.value ∧ x.value ≤ p.maxTradeSize.value

/-- 指定された取引量はすべて組の区間にある。 -/
def MonitoredPair.SizesInRange (p : MonitoredPair) : Prop :=
  ∀ xs, p.tradeSizes = some xs → ∀ x ∈ xs, p.InRange x

namespace Validate

/-! ## 名前の重なり -/

section EraseDups

variable {α : Type} [BEq α]

theorem eraseDups_sublist (l : List α) : l.eraseDups.Sublist l := by
  match l with
  | [] => exact List.Sublist.slnil
  | a :: as =>
    rw [List.eraseDups_cons]
    exact ((eraseDups_sublist (as.filter fun b => !b == a)).trans List.filter_sublist).cons_cons a
termination_by l.length
decreasing_by exact Nat.lt_succ_of_le (List.length_filter_le _ _)

theorem eraseDups_nodup [LawfulBEq α] (l : List α) : l.eraseDups.Nodup := by
  match l with
  | [] => exact List.nodup_nil
  | a :: as =>
    rw [List.eraseDups_cons, List.nodup_cons]
    refine ⟨fun ha => ?_, eraseDups_nodup (as.filter fun b => !b == a)⟩
    -- 先頭と等しい要素は、残りから先に除いてある
    have hmem := List.mem_filter.mp (List.mem_eraseDups.mp ha)
    simp at hmem
termination_by l.length
decreasing_by exact Nat.lt_succ_of_le (List.length_filter_le _ _)

theorem nodup_of_length_eraseDups [LawfulBEq α] {l : List α} (h : l.eraseDups.length = l.length) : l.Nodup :=
  (eraseDups_sublist l).eq_of_length h ▸ eraseDups_nodup l

end EraseDups

/-! ## 設定 -/

theorem note_eq_nil {ps : List String} {bad : Bool} {problem : String} :
    note ps bad problem = [] ↔ ps = [] ∧ bad = false := by
  cases bad <;> simp [note]

/-- 問題の一覧が空で終わるのは、途中の比較がすべて成功し、どの `note` の条件も偽のとき。 -/
theorem settingsProblems_eq_nil_inv {s : Settings} (h : settingsProblems s = .ok []) :
    (0.0 <= s.minExecutionProb && s.minExecutionProb <= 1.0) = true ∧
    (0.0 <= s.minEvScore && s.minEvScore <= 100.0) = true ∧
    ¬ s.tradeSizeSamples < 1 ∧ gridSpacings.contains s.gridSpacing = true ∧
    Calc.le (Calc.lit "0") s.flashLoanFeeRate = .ok true ∧
    Calc.lt s.flashLoanFeeRate (Calc.lit "1") = .ok true ∧
    Calc.lt s.baseFee (Calc.lit "0") = .ok false ∧
    Calc.lt s.priorityFee (Calc.lit "0") = .ok false ∧
    Calc.lt s.tipPctOfGross (Calc.lit "0") = .ok false ∧
    Calc.le s.evFullScale (Calc.lit "0") = .ok false ∧
    ¬ s.maxOpportunities < 1 := by
  unfold settingsProblems at h
  obtain ⟨low, hlow, h⟩ := bind_eq_ok h
  dsimp only at h
  -- 率の検査の値は、下限の比較のどちらの枝からも同じ続きに渡る
  rw [← apply_ite (· >>= _)] at h
  obtain ⟨rate, hrate, h⟩ := bind_eq_ok h
  obtain ⟨base, hbase, h⟩ := bind_eq_ok h
  obtain ⟨prio, hprio, h⟩ := bind_eq_ok h
  obtain ⟨tip, htip, h⟩ := bind_eq_ok h
  obtain ⟨scale, hscale, h⟩ := bind_eq_ok h
  replace h := Except.ok.inj h
  simp only [note_eq_nil, true_and, decide_eq_false_iff_not, Bool.not_eq_eq_eq_not, Bool.not_false] at h
  obtain ⟨⟨⟨⟨⟨⟨⟨⟨⟨hprob, hscore⟩, hsamples⟩, hgrid⟩, rfl⟩, rfl⟩, rfl⟩, rfl⟩, rfl⟩, hmax⟩ := h
  cases low with
  | false => cases hrate
  | true => exact ⟨hprob, hscore, hsamples, hgrid, hlow, hrate, hbase, hprio, htip, hscale, hmax⟩

/-- 設定の検証が通るのは問題の一覧が空のときで、そのとき設定は入力のまま。 -/
theorem validateSettings_eq_ok_inv {s s' : Settings} (h : validateSettings s = .ok s') :
    s' = s ∧ settingsProblems s = .ok [] := by
  obtain ⟨ps, hps, h⟩ := bind_eq_ok h
  cases ps with
  | nil => exact ⟨(Except.ok.inj h).symm, hps⟩
  | cons _ _ => cases h

/-- 通った設定では、実行確率の閾値は `[0, 1]` にあり、結果の上限は 1 以上。 -/
theorem validateSettings_ok (s : Settings) :
    Returns (validateSettings s) fun s' =>
      s' = s ∧ InUnit s.minExecutionProb ∧ 1 ≤ s.maxOpportunities := by
  intro s' h
  obtain ⟨rfl, hps⟩ := validateSettings_eq_ok_inv h
  obtain ⟨hprob, -, -, -, -, -, -, -, -, -, hmax⟩ := settingsProblems_eq_nil_inv hps
  simp only [Bool.and_eq_true, decide_eq_true_eq] at hprob
  exact ⟨rfl, hprob, not_lt.mp hmax⟩

/-! ## 組 -/

theorem outsideRange_false (p : MonitoredPair) (x : Decimal) :
    Returns (outsideRange p x) fun b => b = false → p.InRange x := by
  unfold outsideRange
  simp only [Returns.bind_iff, Returns.ite_iff, Returns.pure_iff, Bool.true_eq_false,
    false_implies, imp_true_iff, true_and]
  intro below hbelow hnot above habove hfalse
  obtain ⟨-, -, rfl⟩ := Calc.lt_eq_ok.mp hbelow
  obtain ⟨-, -, rfl⟩ := Calc.lt_eq_ok.mp habove
  simp only [decide_eq_true_eq, not_lt, decide_eq_false_iff_not] at hnot hfalse
  exact ⟨hnot, hfalse⟩

/-- 通った組は入力のままで、指定された取引量はすべて区間にある。 -/
theorem validatePair_ok (p : MonitoredPair) :
    Returns (validatePair p) fun p' => p' = p ∧ p.SizesInRange := by
  unfold validatePair MonitoredPair.SizesInRange
  cases hts : p.tradeSizes with
  | none => simp
  | some sizes =>
    simp only [Returns.bind_iff, Returns.ite_iff, Returns.pure_iff, Returns.throw, imp_true_iff,
      true_and, and_true, Option.some.injEq, forall_eq']
    intro _ _ _ _ _ _ _ _
    refine (Returns.filterM sizes).mono fun outside hout hnil x hx => ?_
    obtain ⟨b, hb, hin⟩ := hout x hx
    have hfalse : b = false := by
      cases b
      · rfl
      · simpa [List.isEmpty_iff.mp hnil] using hin rfl
    exact outsideRange_false p x b hb hfalse

/-- 組の列の検証が通れば、通った列は入力の列そのもの。 -/
theorem mapM_validatePair_eq {pairs ps : List MonitoredPair}
    (h : pairs.mapM validatePair = .ok ps) : ps = pairs := by
  have hsame := (Returns.mapM fun p _ => validatePair_ok p) ps h
  rw [← List.forall₂_eq_eq_eq]
  exact (hsame.imp fun _ _ hp => hp.1).flip

end Validate

namespace Grid

section Dedup

variable {F : Decimal → List Decimal → List Decimal} (hnil : ∀ x, F x [] = [x])
  (hcons : ∀ x y ys,
    F x (y :: ys) = if Decimal.cmpValue x y == .eq then x :: ys else x :: y :: ys)
include hnil hcons

/-- 右からの畳み込みで値の重複を除く段 `F` の結果の要素は、元の列の要素。各段は先頭に一つ
置くか、置いたうえで次の要素を一つ除く。 -/
theorem foldr_dedup_mem : ∀ l : List Decimal, ∀ y ∈ l.foldr F [], y ∈ l
  | [] => by simp
  | x :: l => by
    have ih := foldr_dedup_mem l
    rw [List.foldr_cons]
    cases hacc : l.foldr F [] with
    | nil =>
      rw [hnil]
      intro y hy
      rw [List.mem_singleton.mp hy]
      exact List.mem_cons_self
    | cons y ys =>
      rw [hacc] at ih
      rw [hcons]
      intro z hz
      split at hz <;> rcases List.mem_cons.mp hz with rfl | hz
      · exact List.mem_cons_self
      · exact List.mem_cons_of_mem _ (ih z (List.mem_cons_of_mem _ hz))
      · exact List.mem_cons_self
      · exact List.mem_cons_of_mem _ (ih z hz)

/-- 値の狭義の昇順の列からは、重複を除く段は何も落とさない。 -/
theorem foldr_dedup_self : ∀ l : List Decimal, l.Pairwise (fun a b => a.value < b.value) →
    (∀ x ∈ l, x.isNan = false) → l.foldr F [] = l
  | [], _, _ => rfl
  | x :: l, hs, hn => by
    obtain ⟨hx, hl⟩ := List.pairwise_cons.mp hs
    rw [List.foldr_cons, foldr_dedup_self l hl fun z hz => hn z (List.mem_cons_of_mem _ hz)]
    cases l with
    | nil => exact hnil x
    | cons y ys =>
      have hne : (Decimal.cmpValue x y == .eq) = false := by
        rw [Decimal.cmpValue_eq_compare (hn x List.mem_cons_self)
          (hn y (List.mem_cons_of_mem _ List.mem_cons_self)), Decimal.compare_beq_eq]
        exact decide_eq_false (hx y List.mem_cons_self).ne
      rw [hcons, hne]
      rfl

end Dedup

theorem mem_sortDistinct {xs : List Decimal} {x : Decimal} (h : x ∈ sortDistinct xs) : x ∈ xs := by
  dsimp only [sortDistinct] at h
  refine List.mem_mergeSort.mp (foldr_dedup_mem ?_ ?_ _ x h)
  · intro x
    rfl
  · intro x y ys
    rfl

/-- どの thread の context でも、生成した格子の点は区間 `[minSize, maxSize]` にある。区間の
検査と `clamp` による。 -/
theorem tradeSizesIn_mem (c : Decimal.Context) (lo hi : Decimal) (n : Int) (spacing : String) :
    Returns (tradeSizesIn c lo hi n spacing) fun xs =>
      ∀ x ∈ xs, lo.value ≤ x.value ∧ x.value ≤ hi.value := by
  unfold tradeSizesIn
  simp only [Returns.bind_iff, Returns.ite_iff, Returns.pure_iff, Returns.throw, imp_true_iff,
    true_and]
  intro _ reversed hreversed
  obtain ⟨-, -, rfl⟩ := Calc.lt_eq_ok.mp hreversed
  simp only [decide_eq_true_eq, not_lt]
  intro hle
  have hclamp : ∀ l : List Decimal, Returns (l.mapM fun s => Calc.clamp s lo hi) fun ys =>
      ∀ x ∈ sortDistinct ys, lo.value ≤ x.value ∧ x.value ≤ hi.value := by
    intro l
    refine (Returns.mapM_forall fun s _ r hr => Calc.clamp_mem hr hle).mono fun ys hys x hx => ?_
    exact hys x (mem_sortDistinct hx)
  simp only [hclamp, Returns.of_true, implies_true, List.mem_singleton, forall_eq, le_refl, hle,
    and_self]

theorem tradeSizes_mem (lo hi : Decimal) (n : Int) (spacing : String) :
    Returns (tradeSizes lo hi n spacing) fun xs => ∀ x ∈ xs, lo.value ≤ x.value ∧ x.value ≤ hi.value :=
  tradeSizesIn_mem Calc.ctx lo hi n spacing

end Grid

namespace Detector

/-- 主 thread の格子は標準 context での格子。 -/
theorem buildGridIn_ctx : buildGridIn Calc.ctx = buildGrid := rfl

/-- どの thread の context でも、組の格子の点は組の区間にある。 -/
theorem buildGridIn_mem (c : Decimal.Context) (s : Settings) {p : MonitoredPair}
    (hp : p.SizesInRange) : Returns (buildGridIn c s p) fun xs => ∀ x ∈ xs, p.InRange x := by
  unfold buildGridIn
  split
  · next xs hxs =>
    exact (Returns.ok_iff _).mpr fun x hx => hp xs hxs x (Grid.mem_sortDistinct hx)
  · split
    · exact Returns.error _
    · exact Grid.tradeSizesIn_mem _ _ _ _ _

theorem buildGrid_mem (s : Settings) {p : MonitoredPair} (hp : p.SizesInRange) :
    Returns (buildGrid s p) fun xs => ∀ x ∈ xs, p.InRange x :=
  buildGridIn_mem Calc.ctx s hp

/-- 組の列と、組ごとに `(名前, 格子)` を並べた表。名前に重なりがなければ、表を組の名前で
引いた値は組の格子。 -/
theorem buildGridIn_eq_find? {c : Decimal.Context} {s : Settings} {ps : List MonitoredPair}
    {grids : List (String × List Decimal)}
    (hg : List.Forall₂ (fun p g => ∃ xs, buildGridIn c s p = .ok xs ∧ g = (p.name, xs)) ps grids)
    (hn : (ps.map (·.name)).Nodup) {P : MonitoredPair} (hP : P ∈ ps) :
    buildGridIn c s P = .ok (((grids.find? (·.1 == P.name)).map Prod.snd).getD []) := by
  induction hg with
  | nil => cases hP
  | @cons p g ps gs hpg _ ih =>
    obtain ⟨xs, hxs, rfl⟩ := hpg
    rw [List.map_cons, List.nodup_cons] at hn
    rcases List.mem_cons.mp hP with rfl | hP
    · simp [hxs]
    · have hne : p.name ≠ P.name := fun h => hn.1 (h ▸ List.mem_map_of_mem hP)
      simpa [hne] using ih hn.2 hP

/-- 作った検出器について検査が保証すること。 -/
structure Validated (pairs : List MonitoredPair) (settings : Settings) (d : Detector) : Prop where
  settings_eq : d.settings = settings
  pairs_eq : d.pairs = pairs
  /-- 実行確率の閾値は `[0, 1]` にある。 -/
  minExecutionProb : InUnit settings.minExecutionProb
  maxOpportunities : 1 ≤ settings.maxOpportunities
  names_nodup : (pairs.map (·.name)).Nodup
  sizesInRange : ∀ P ∈ pairs, P.SizesInRange
  /-- 組の格子は、組の名前で引いた表の値。 -/
  buildGrid_eq : ∀ P ∈ pairs, buildGrid settings P = .ok (d.grid P.name)

/-- どの thread の context で作っても、検出器は検査が保証することを満たし、組の格子はその
context での格子。 -/
theorem createIn_validated (c : Decimal.Context) (pairs : List MonitoredPair) (settings : Settings) :
    Returns (createIn c pairs settings) fun d =>
      d.settings = settings ∧ d.pairs = pairs ∧ InUnit settings.minExecutionProb ∧
        1 ≤ settings.maxOpportunities ∧ (pairs.map (·.name)).Nodup ∧
        (∀ P ∈ pairs, P.SizesInRange) ∧ ∀ P ∈ pairs, buildGridIn c settings P = .ok (d.grid P.name) := by
  unfold createIn
  rw [Returns.bind_iff]
  refine (Validate.validateSettings_ok settings).mono ?_
  rintro s' ⟨hs', hprob, hmax⟩
  subst s'
  rw [Returns.bind_iff]
  refine (Returns.mapM fun p _ => Validate.validatePair_ok p).mono fun ps hps => ?_
  have hsame : ps = pairs ∧ ∀ P ∈ pairs, P.SizesInRange := by
    have h := hps.imp fun (p p' : MonitoredPair) hp => And.intro hp.2 hp.1.symm
    rw [List.forall₂_and_left, List.forall₂_eq_eq_eq] at h
    exact ⟨h.2.symm, h.1⟩
  obtain ⟨hps', hsizes⟩ := hsame
  subst ps
  simp only [Returns.bind_iff, Returns.ite_iff, Returns.throw, bne_iff_ne, ne_eq, not_not,
    imp_true_iff, true_and, Returns.pure_iff]
  intro hlen
  have hn := Validate.nodup_of_length_eraseDups hlen
  have hgrid : ∀ p ∈ pairs, Returns (do let xs ← buildGridIn c settings p; pure (p.name, xs))
      fun g => ∃ xs, buildGridIn c settings p = .ok xs ∧ g = (p.name, xs) := by
    intro p _
    simp only [Returns.bind_iff, Returns.pure_iff]
    exact fun xs hxs => ⟨xs, hxs, rfl⟩
  refine (Returns.mapM hgrid).mono fun grids hgrids => ?_
  exact ⟨hprob, hmax, hn, hsizes, fun P hP => buildGridIn_eq_find? hgrids hn hP⟩

theorem create_validated (pairs : List MonitoredPair) (settings : Settings) :
    Returns (create pairs settings) (Validated pairs settings) :=
  (createIn_validated Calc.ctx pairs settings).mono
    fun _ ⟨hs, hp, hprob, hmax, hn, hsizes, hgrid⟩ => ⟨hs, hp, hprob, hmax, hn, hsizes, hgrid⟩

/-- 作った検出器の組の格子の点は、組の区間にある。 -/
theorem Validated.inRange_of_mem_grid {pairs : List MonitoredPair} {settings : Settings}
    {d : Detector} (h : Validated pairs settings d) {P : MonitoredPair} (hP : P ∈ pairs)
    {x : Decimal} (hx : x ∈ d.grid P.name) : P.InRange x :=
  buildGrid_mem settings (h.sizesInRange P hP) _ (h.buildGrid_eq P hP) x hx

end Detector

end CrossPool
