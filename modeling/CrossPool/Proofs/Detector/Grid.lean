import Mathlib
import CrossPool.Proofs.Detector.WellFormed

/-!
# 格子は値の狭義の昇順

組の格子は値の狭義の昇順に並ぶ（`create_grid_sorted`）。だから格子の順で最初の点は、値の
いちばん小さい点である。

* `sortDistinct` は NaN のない列を値の順に安定に並べ、値の等しい組から最初の一つだけを残す
  ので、結果は値の狭義の昇順（`sortDistinct_sorted`）。並べる比較は、NaN のない列の上では
  値の `≤` である。
* 生成した格子の点は区間に収めた値で、区間に収める比較が成功したので NaN でない。指定された
  取引量は組の検証で区間の端と比べたので、やはり NaN でない。
-/

namespace CrossPool

namespace Grid

/-- NaN のない列では、`sortDistinct` の並べ替えの比較は値の `≤`。 -/
theorem mergeSort_cmpValue {xs : List Decimal} (h : ∀ x ∈ xs, x.isNan = false) :
    xs.mergeSort (fun a b => Decimal.cmpValue a b != .gt) =
      xs.mergeSort fun a b => decide (a.value ≤ b.value) := by
  have hmap := List.map_mergeSort (f := id) (l := xs)
    (r := fun a b => Decimal.cmpValue a b != .gt) (s := fun a b => decide (a.value ≤ b.value))
    fun a ha b hb => by
      simp only [Decimal.cmpValue_eq_compare (h a ha) (h b hb), Decimal.compare_bne_gt, id]
  simpa using hmap

/--
右からの畳み込みで値の重複を除く段 `F`：先頭の値が次の値と等しければ次を落とす。値の昇順の
列を受けると、結果は値の狭義の昇順の列。
-/
theorem foldr_dedup {F : Decimal → List Decimal → List Decimal} (hnil : ∀ x, F x [] = [x])
    (hcons : ∀ x y ys,
      F x (y :: ys) = if Decimal.cmpValue x y == .eq then x :: ys else x :: y :: ys) :
    ∀ l : List Decimal, l.Pairwise (fun a b => a.value ≤ b.value) → (∀ x ∈ l, x.isNan = false) →
      (l.foldr F []).Pairwise (fun a b => a.value < b.value)
  | [], _, _ => by simp
  | x :: l, hs, hn => by
    obtain ⟨hx, hl⟩ := List.pairwise_cons.mp hs
    have ih := foldr_dedup hnil hcons l hl fun z hz => hn z (List.mem_cons_of_mem _ hz)
    have hsub := foldr_dedup_mem hnil hcons l
    rw [List.foldr_cons]
    cases hacc : l.foldr F [] with
    | nil => simp [hnil]
    | cons y ys =>
      rw [hacc] at ih hsub
      obtain ⟨hy, hys⟩ := List.pairwise_cons.mp ih
      have hxy : x.value ≤ y.value := hx y (hsub y List.mem_cons_self)
      rw [hcons]
      by_cases heq : (Decimal.cmpValue x y == .eq) = true
      · rw [if_pos heq]
        exact List.pairwise_cons.mpr ⟨fun z hz => hxy.trans_lt (hy z hz), hys⟩
      · rw [if_neg heq]
        have hne : x.value ≠ y.value := by
          rw [Decimal.cmpValue_eq_compare (hn x List.mem_cons_self)
            (hn y (List.mem_cons_of_mem _ (hsub y List.mem_cons_self))),
            Decimal.compare_beq_eq] at heq
          simpa using heq
        have hlt : x.value < y.value := lt_of_le_of_ne hxy hne
        refine List.pairwise_cons.mpr ⟨fun z hz => ?_, ih⟩
        rcases List.mem_cons.mp hz with rfl | hz
        · exact hlt
        · exact hlt.trans (hy z hz)

/-- NaN のない列を並べて重複を除くと、値の狭義の昇順になる。 -/
theorem sortDistinct_sorted {xs : List Decimal} (h : ∀ x ∈ xs, x.isNan = false) :
    (sortDistinct xs).Pairwise fun a b => a.value < b.value := by
  dsimp only [sortDistinct]
  rw [mergeSort_cmpValue h]
  have hsorted := @List.pairwise_mergeSort _ (fun a b : Decimal => decide (a.value ≤ b.value))
    (fun a b c hab hbc => by simp only [decide_eq_true_eq] at *; exact hab.trans hbc)
    (fun a b => by simpa using le_total a.value b.value) xs
  have hnan : ∀ x ∈ xs.mergeSort (fun a b => decide (a.value ≤ b.value)), x.isNan = false :=
    fun x hx => h x ((List.mergeSort_perm _ _).subset hx)
  refine foldr_dedup ?_ ?_ _ (by simpa using hsorted) hnan
  · intro x
    rfl
  · intro x y ys
    rfl

/-- 値の狭義の昇順に並んだ NaN のない列は、並べて重複を除いても変わらない。 -/
theorem sortDistinct_of_lt {xs : List Decimal} (hs : xs.Pairwise fun a b => a.value < b.value)
    (h : ∀ x ∈ xs, x.isNan = false) : sortDistinct xs = xs := by
  dsimp only [sortDistinct]
  rw [mergeSort_cmpValue h,
    List.mergeSort_of_pairwise (hs.imp fun hab => decide_eq_true (le_of_lt hab))]
  refine foldr_dedup_self ?_ ?_ xs hs h
  · intro x
    rfl
  · intro x y ys
    rfl

/-- どの thread の context でも、生成した格子は値の狭義の昇順。点はどれも区間に収める比較を
通ったので NaN でない。 -/
theorem tradeSizesIn_sorted (c : Decimal.Context) (lo hi : Decimal) (n : Int) (spacing : String) :
    Returns (tradeSizesIn c lo hi n spacing) fun xs => xs.Pairwise fun a b => a.value < b.value := by
  have hclamp : ∀ l : List Decimal, Returns (l.mapM fun s => Calc.clamp s lo hi) fun ys =>
      (sortDistinct ys).Pairwise fun a b => a.value < b.value := fun l =>
    (Returns.mapM_forall fun _ _ r hr =>
      (Decimal.clamp_eq_ok (Calc.liftSignal_eq_ok.mp hr)).1).mono fun _ hys =>
        sortDistinct_sorted hys
  unfold tradeSizesIn
  simp only [Returns.bind_iff, Returns.ite_iff, Returns.pure_iff, imp_true_iff, true_and,
    List.pairwise_singleton, hclamp, Returns.of_true]

theorem tradeSizes_sorted (lo hi : Decimal) (n : Int) (spacing : String) :
    Returns (tradeSizes lo hi n spacing) fun xs => xs.Pairwise fun a b => a.value < b.value :=
  tradeSizesIn_sorted Calc.ctx lo hi n spacing

end Grid

namespace Validate

/-- 区間の外かどうかの比較が成功すれば、その取引量は NaN でない。 -/
theorem outsideRange_notNan (p : MonitoredPair) (x : Decimal) :
    Returns (outsideRange p x) fun _ => x.isNan = false := by
  unfold outsideRange
  rw [Returns.bind_iff]
  intro below hbelow
  have hx := (Calc.lt_eq_ok.mp hbelow).1
  exact (Returns.of_true _).mono fun _ _ => hx

theorem validatePair_notNan (p : MonitoredPair) :
    Returns (validatePair p) fun _ => ∀ xs, p.tradeSizes = some xs → ∀ x ∈ xs, x.isNan = false := by
  unfold validatePair
  cases hts : p.tradeSizes with
  | none => simp
  | some sizes =>
    simp only [Returns.bind_iff, Returns.ite_iff, Returns.pure_iff, Returns.throw, imp_true_iff,
      true_and, Option.some.injEq, forall_eq']
    intro _ _ _ _ _ _ _ _
    refine (Returns.filterM sizes).mono fun outside hout => ⟨fun _ x hx => ?_, trivial⟩
    obtain ⟨b, hb, -⟩ := hout x hx
    exact outsideRange_notNan p x b hb

end Validate

namespace Detector

/-- どの thread の context でも、組の格子は値の狭義の昇順。 -/
theorem buildGridIn_sorted (c : Decimal.Context) (s : Settings) {p : MonitoredPair}
    (hp : ∀ xs, p.tradeSizes = some xs → ∀ x ∈ xs, x.isNan = false) :
    Returns (buildGridIn c s p) fun xs => xs.Pairwise fun a b => a.value < b.value := by
  unfold buildGridIn
  split
  · next xs hxs => exact (Returns.ok_iff _).mpr (Grid.sortDistinct_sorted (hp xs hxs))
  · split
    · exact Returns.error _
    · exact Grid.tradeSizesIn_sorted _ _ _ _ _

theorem buildGrid_sorted (s : Settings) {p : MonitoredPair}
    (hp : ∀ xs, p.tradeSizes = some xs → ∀ x ∈ xs, x.isNan = false) :
    Returns (buildGrid s p) fun xs => xs.Pairwise fun a b => a.value < b.value :=
  buildGridIn_sorted Calc.ctx s hp

theorem create_validatePair {pairs : List MonitoredPair} {settings : Settings} {d : Detector}
    (hd : create pairs settings = .ok d) : ∀ P ∈ pairs, ∃ P', Validate.validatePair P = .ok P' := by
  unfold create createIn at hd
  obtain ⟨_, -, hd⟩ := bind_eq_ok hd
  obtain ⟨ps, hps, -⟩ := bind_eq_ok hd
  exact mapM_isOk_iff.mp ⟨ps, hps⟩

theorem create_grid_sorted {pairs : List MonitoredPair} {settings : Settings} {d : Detector}
    (hd : create pairs settings = .ok d) {P : MonitoredPair} (hP : P ∈ pairs) :
    (d.grid P.name).Pairwise fun a b => a.value < b.value := by
  obtain ⟨P', hP'⟩ := create_validatePair hd P hP
  have hv := create_validated pairs settings d hd
  exact buildGrid_sorted settings (Validate.validatePair_notNan P P' hP') _ (hv.buildGrid_eq P hP)

end Detector

end CrossPool
