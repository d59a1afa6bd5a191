import Mathlib
import CrossPool.Proofs.Scan.Admissible

/-!
# 最も良いプール

`findBestPool tokenIn tokenOut size` は、組の新鮮なプールをアドレスの順に一つずつ見積もり、
良いほうを残す。成功したときの結果は次のとおりである（`findBestPool_first_best`）。

* 候補になるプール（`Eligible`：保管所にあり、時計で新鮮で、組を扱い、出力と実行確率が
  どちらも正）がなければ `none`。
* あれば、候補のうち（点数, 確率）が辞書式で最大のもので、完全に並べばアドレスが最小の
  もの。点数は出力と、確率の最短表記を読んだ 10 進数の積。

各プールの見積もりは状態によらず `quoteOf` で決まる。畳み込みの累積は、そこまでの見積もりの
うち辞書式で最大の最初のもの（`FirstBest`）で、比較 `better` は辞書式で狭義に上回るときだけ
置き換える（`better_firstBest`）。列はアドレスの狭義の昇順なので、最大の最初の見積もりは、
完全に並ぶもののうちアドレスが最小である。
-/

namespace CrossPool

open Binary64 Decimal

namespace Binary64

theorem lt_trans {a b c : Float} (hab : a < b) (hbc : b < c) : a < c := by
  obtain ⟨ha, hb⟩ := comparable_of_lt hab
  obtain ⟨-, hc⟩ := comparable_of_lt hbc
  rw [lt_iff_key ha hb] at hab
  rw [lt_iff_key hb hc] at hbc
  exact (lt_iff_key ha hc).mpr (hab.trans hbc)

theorem lt_of_le_of_lt {a b c : Float} (hab : a ≤ b) (hbc : b < c) : a < c := by
  obtain ⟨ha, hb⟩ := comparable_of_le hab
  obtain ⟨-, hc⟩ := comparable_of_lt hbc
  rw [le_iff_key ha hb] at hab
  rw [lt_iff_key hb hc] at hbc
  exact (lt_iff_key ha hc).mpr (hab.trans_lt hbc)

theorem lt_irrefl (a : Float) : ¬ a < a := fun h =>
  let ha := (comparable_of_lt h).1
  (lt_iff_key ha ha).mp h |>.false

/-- 互いに下回らない二つの比べられる数は `==` で等しい。 -/
theorem beq_of_not_lt {a b : Float} (ha : Comparable a) (hb : Comparable b) (hab : ¬ a < b)
    (hba : ¬ b < a) : (a == b) = true := by
  rw [lt_iff_key ha hb] at hab
  rw [lt_iff_key hb ha] at hba
  exact (beq_iff_key ha hb).mpr (le_antisymm (not_lt.mp hba) (not_lt.mp hab))

end Binary64

namespace Monitor

/-! ## 一つのプールの見積もり -/

/-- 記録 `p` で `tokenIn` を `size` だけ替える見積もり。出力と実行確率がどちらも正で、点数
（出力と確率の積）が求まれば、その見積もり。 -/
def quoteOf (m : Monitor) (tokenIn : String) (size : Decimal) (p : PoolState) :
    Option PoolQuote := do
  let aToB := p.tokenA == tokenIn
  let out ← (expectedOutput p size aToB).toOption
  let prob ← (m.executionProbability p size aToB m.clock).toOption
  if 0.0 < prob ∧ 0 < out.value then
    let score ← (Calc.mul out (Calc.ofFloat prob)).toOption
    some ⟨p, out, prob, score⟩
  else none

/-- 記録 `p` の出力と実行確率がどちらも正。 -/
def QuotesPositive (m : Monitor) (tokenIn : String) (size : Decimal) (p : PoolState) : Prop :=
  ∃ out prob, expectedOutput p size (p.tokenA == tokenIn) = .ok out ∧
    m.executionProbability p size (p.tokenA == tokenIn) m.clock = .ok prob ∧
    0 < out.value ∧ 0.0 < prob

/-- 記録 `p` が、`tokenIn` を `size` だけ `tokenOut` に替える候補：保管所にあり、時計で新鮮で、
組を扱い、出力と実行確率がどちらも正。 -/
structure Eligible (m : Monitor) (tokenIn tokenOut : String) (size : Decimal) (p : PoolState) :
    Prop where
  cached : m.cache.get? p.address = some p
  trades : p.key = pairKey tokenIn tokenOut
  fresh : m.isFresh p m.clock = true
  quotes : QuotesPositive m tokenIn size p

theorem toOption_eq_some {α : Type} {x : Except Fault α} {a : α} :
    x.toOption = some a ↔ x = .ok a := by
  cases x <;> simp [Except.toOption]

/-- 見積もりは、記録の出力と実行確率がどちらも正で、点数がその積のときのもの。 -/
theorem quoteOf_eq_some {m : Monitor} {tokenIn : String} {size : Decimal} {p : PoolState}
    {q : PoolQuote} :
    quoteOf m tokenIn size p = some q ↔
      q.pool = p ∧ expectedOutput p size (p.tokenA == tokenIn) = .ok q.expectedOutput ∧
      m.executionProbability p size (p.tokenA == tokenIn) m.clock = .ok q.probability ∧
      0.0 < q.probability ∧ 0 < q.expectedOutput.value ∧
      Calc.mul q.expectedOutput (Calc.ofFloat q.probability) = .ok q.score := by
  obtain ⟨qp, qo, qr, qs⟩ := q
  simp only [quoteOf, Option.bind_eq_bind, Option.bind_eq_some_iff, toOption_eq_some]
  constructor
  · rintro ⟨out, ho, prob, hr, h⟩
    split_ifs at h with hpos
    obtain ⟨score, hs, h⟩ := Option.bind_eq_some_iff.mp h
    cases h
    exact ⟨rfl, ho, hr, hpos.1, hpos.2, toOption_eq_some.mp hs⟩
  · rintro ⟨rfl, ho, hr, hprob, hout, hs⟩
    refine ⟨qo, ho, qr, hr, ?_⟩
    rw [if_pos ⟨hprob, hout⟩]
    exact Option.bind_eq_some_iff.mpr ⟨qs, toOption_eq_some.mpr hs, rfl⟩

/-! ## 読む部分だけで決まる値 -/

theorem executionProbability_congr {m₁ m₂ : Monitor} (h : m₁.view = m₂.view) :
    m₁.executionProbability = m₂.executionProbability := by
  have hs : m₁.stability = m₂.stability := congrArg View.stability h
  have ha : m₁.maxPoolAge = m₂.maxPoolAge := congrArg View.maxPoolAge h
  unfold executionProbability
  rw [hs, ha]

theorem quoteOf_congr {m₁ m₂ : Monitor} (h : m₁.view = m₂.view) : quoteOf m₁ = quoteOf m₂ := by
  have hc : m₁.clock = m₂.clock := congrArg View.clock h
  unfold quoteOf
  rw [executionProbability_congr h, hc]

theorem poolsForPair_congr {m₁ m₂ : Monitor} (h : m₁.view = m₂.view) :
    m₁.poolsForPair = m₂.poolsForPair := by
  have hc : m₁.cache = m₂.cache := congrArg View.cache h
  have hk : m₁.clock = m₂.clock := congrArg View.clock h
  have ha : m₁.maxPoolAge = m₂.maxPoolAge := congrArg View.maxPoolAge h
  funext a b l
  simp only [poolsForPair, isFresh, hc, hk, ha]

theorem quotesPositive_congr {m₁ m₂ : Monitor} (h : m₁.view = m₂.view) :
    QuotesPositive m₁ = QuotesPositive m₂ := by
  have hc : m₁.clock = m₂.clock := congrArg View.clock h
  unfold QuotesPositive
  rw [executionProbability_congr h, hc]

/-! ## 辞書式の順 -/

/-- 見積もり `x` が `y` より辞書式で狭義に下：点数が小さいか、点数が等しく確率が小さい。 -/
def Below (x y : PoolQuote) : Prop :=
  x.score.value < y.score.value ∨ (x.score.value = y.score.value ∧ x.probability < y.probability)

theorem Below.trans {x y z : PoolQuote} (hxy : Below x y) (hyz : Below y z) : Below x z := by
  rcases hxy with hs | ⟨hs, hp⟩ <;> rcases hyz with hs' | ⟨hs', hp'⟩
  · exact .inl (hs.trans hs')
  · exact .inl (hs'.symm ▸ hs)
  · exact .inl (hs ▸ hs')
  · exact .inr ⟨hs.trans hs', Binary64.lt_trans hp hp'⟩

/-- `y` を上回らない見積もりは、`y` の上にある見積もりの下にある。 -/
theorem Below.of_not_below {x y z : PoolQuote} (hc : Comparable x.probability) (hyx : ¬ Below y x)
    (hyz : Below y z) : Below x z := by
  simp only [Below, not_or, not_and, not_lt] at hyx
  obtain ⟨hs, hp⟩ := hyx
  rcases hyz with hs' | ⟨hs', hp'⟩
  · exact .inl (hs.trans_lt hs')
  · rcases hs.lt_or_eq with hlt | heq
    · exact .inl (hs' ▸ hlt)
    · have hyc := (Binary64.comparable_of_lt hp').1
      have hle : x.probability ≤ y.probability :=
        (Binary64.not_lt_iff_le hyc hc).mp (hp heq.symm)
      exact .inr ⟨heq.trans hs', Binary64.lt_of_le_of_lt hle hp'⟩

theorem Below.irrefl (x : PoolQuote) : ¬ Below x x := by
  rintro (h | ⟨-, h⟩)
  · exact h.false
  · exact Binary64.lt_irrefl _ h

/-- `y` を上回らない見積もりは、`y` の狭義に下にあるか、点数も確率も等しい。 -/
theorem Below.or_tie {x y : PoolQuote} (hx : Comparable x.probability)
    (hy : Comparable y.probability) (h : ¬ Below y x) :
    Below x y ∨ (x.score.value = y.score.value ∧ (x.probability == y.probability) = true) := by
  have hs : x.score.value ≤ y.score.value := not_lt.mp fun hlt => h (.inl hlt)
  rcases hs.lt_or_eq with hlt | heq
  · exact .inl (.inl hlt)
  by_cases hp : x.probability < y.probability
  · exact .inl (.inr ⟨heq, hp⟩)
  · exact .inr ⟨heq, Binary64.beq_of_not_lt hx hy hp fun hlt => h (.inr ⟨heq.symm, hlt⟩)⟩

/-- `q` は `qs` のうち辞書式で最大の最初の見積もり：前の見積もりはどれも `q` の狭義に下で、
後の見積もりはどれも `q` を上回らない。見積もりがなければ `none`。 -/
def FirstBest (qs : List PoolQuote) : Option PoolQuote → Prop
  | none => qs = []
  | some q => ∃ pre post, qs = pre ++ q :: post ∧ (∀ x ∈ pre, Below x q) ∧ ∀ x ∈ post, ¬ Below q x

/-- 最初の最大の見積もりより前の見積もりはその狭義に下にあり、後の見積もりはそれを上回らず、
プールのアドレスが大きい。 -/
theorem FirstBest.below_or_after {qs : List PoolQuote} {q x : PoolQuote}
    (hb : FirstBest qs (some q)) (hs : qs.Pairwise fun x y => x.pool.address < y.pool.address)
    (hx : x ∈ qs) : Below x q ∨ (¬ Below q x ∧ q.pool.address ≤ x.pool.address) := by
  obtain ⟨pre, post, rfl, hpre, hpost⟩ := hb
  rcases List.mem_append.mp hx with hx | hx
  · exact .inl (hpre x hx)
  rcases List.mem_cons.mp hx with rfl | hx
  · exact .inr ⟨Below.irrefl x, le_rfl⟩
  · have hq := (List.pairwise_cons.mp (List.pairwise_append.mp hs).2.1).1 x hx
    exact .inr ⟨hpost x hx, hq.le⟩

/-- 比較は、新しい見積もりが辞書式で狭義に上回るときだけ置き換える。 -/
theorem better_eq_ok {best : Option PoolQuote} {q : PoolQuote} {r : Option PoolQuote}
    (h : better best q = .ok r) :
    (best = none ∧ r = some q) ∨
      ∃ b, best = some b ∧ ((Below b q ∧ r = some q) ∨ (¬ Below b q ∧ r = some b)) := by
  unfold better at h
  cases best with
  | none =>
    cases h
    exact .inl ⟨rfl, rfl⟩
  | some b =>
    refine .inr ⟨b, rfl, ?_⟩
    obtain ⟨t, ht, h⟩ := bind_eq_ok h
    obtain ⟨hb, hq, rfl⟩ := Calc.lt_eq_ok.mp ht
    by_cases hlt : b.score.value < q.score.value
    · simp only [hlt, decide_true, if_true] at h
      cases h
      exact .inl ⟨.inl hlt, rfl⟩
    simp only [hlt, decide_false, Bool.false_eq_true, if_false] at h
    obtain ⟨t, ht, h⟩ := bind_eq_ok h
    rw [Calc.eq_of_not_nan hq hb] at ht
    cases ht
    by_cases hup : q.score.value = b.score.value ∧ b.probability < q.probability
    · simp only [hup, decide_true, Bool.and_self, if_true] at h
      cases h
      exact .inl ⟨.inr ⟨hup.1.symm, hup.2⟩, rfl⟩
    · have hdown : (decide (q.score.value = b.score.value) &&
          decide (q.probability > b.probability)) = false := by
        simpa [gt_iff_lt] using hup
      rw [hdown] at h
      cases h
      refine .inr ⟨?_, rfl⟩
      rintro (hs | ⟨hs, hp⟩)
      · exact hlt hs
      · exact hup ⟨hs.symm, hp⟩

/-- 比べた結果は、見積もりを一つ加えた列で辞書式で最大の最初の見積もり。 -/
theorem better_firstBest {qs : List PoolQuote} {best : Option PoolQuote} {q : PoolQuote}
    {r : Option PoolQuote} (hb : FirstBest qs best) (hc : ∀ x ∈ qs, Comparable x.probability)
    (h : better best q = .ok r) : FirstBest (qs ++ [q]) r := by
  rcases better_eq_ok h with ⟨rfl, rfl⟩ | ⟨b, rfl, ⟨hbq, rfl⟩ | ⟨hbq, rfl⟩⟩
  · have hqs : qs = [] := hb
    subst hqs
    exact ⟨[], [], rfl, by simp, by simp⟩
  · -- 新しい見積もりが上回る。それまでの見積もりはどれもその下にある
    obtain ⟨pre, post, rfl, hpre, hpost⟩ := hb
    refine ⟨pre ++ b :: post, [], by simp, fun x hx => ?_, by simp⟩
    rcases List.mem_append.mp hx with hx | hx
    · exact (hpre x hx).trans hbq
    · rcases List.mem_cons.mp hx with rfl | hx
      · exact hbq
      · exact Below.of_not_below (hc x (by simp [hx])) (hpost x hx) hbq
  · obtain ⟨pre, post, rfl, hpre, hpost⟩ := hb
    refine ⟨pre, post ++ [q], by simp, hpre, fun x hx => ?_⟩
    rcases List.mem_append.mp hx with hx | hx
    · exact hpost x hx
    · rw [List.mem_singleton.mp hx]
      exact hbq

/-! ## 一つのプールを見る段 -/

section Steps

variable {v : View}

/-- 読み飛ばしは読む部分を変えない。 -/
theorem Ensures.skipPool (p : PoolState) (e : Fault) :
    Ensures v (Monitor.skipPool p e) fun _ => True := by
  unfold Monitor.skipPool
  split
  · exact (Ensures.emit _ _).bind fun _ _ => Ensures.recordSkip _
  · exact (Ensures.emit _ _).bind fun _ _ => Ensures.recordSkip _
  · exact (Ensures.emit _ _).bind fun _ _ => Ensures.recordSkip _
  · exact Ensures.throw

end Steps

/-- 一つのプールを見ると、見積もりがなければ候補は元のまま（そのプールは正の見積もりを
持たない）、あれば候補と比べた結果になる。 -/
theorem considerPool_spec (m : Monitor) (tokenIn : String) (size : Decimal)
    (best : Option PoolQuote) (p : PoolState) :
    Ensures m.view (considerPool tokenIn size m.clock best p) fun r =>
      (quoteOf m tokenIn size p = none ∧ r = best ∧ ¬ QuotesPositive m tokenIn size p) ∨
        ∃ q, quoteOf m tokenIn size p = some q ∧ better best q = .ok r := by
  unfold considerPool
  refine Ensures.get.bind fun m' hm' => ?_
  rw [executionProbability_congr hm']
  dsimp only
  split
  · next e hq =>
    have hfail : ∀ out prob, expectedOutput p size (p.tokenA == tokenIn) = .ok out →
        m.executionProbability p size (p.tokenA == tokenIn) m.clock = .ok prob → False := by
      intro out prob ho hp
      rw [ho, hp] at hq
      cases hq
    have hnone : quoteOf m tokenIn size p = none := by
      cases hq' : quoteOf m tokenIn size p with
      | none => rfl
      | some q =>
        obtain ⟨-, ho, hp, -⟩ := quoteOf_eq_some.mp hq'
        exact (hfail _ _ ho hp).elim
    refine (Ensures.skipPool p e).bind fun _ _ => Ensures.pure (.inl ⟨hnone, rfl, ?_⟩)
    rintro ⟨_, _, ho, hp, -⟩
    exact hfail _ _ ho hp
  · next out prob hq =>
    obtain ⟨out', ho, hq⟩ := bind_eq_ok hq
    obtain ⟨prob', hp, hq⟩ := bind_eq_ok hq
    cases hq
    have hc : Comparable 0.0 ∧ Comparable prob :=
      comparable_of_le (Detector.executionProbability_mem m p size _ m.clock prob hp).1
    by_cases hp0 : prob ≤ 0.0
    · have hnpos : ¬ 0.0 < prob := (not_lt_iff_le hc.1 hc.2).mpr hp0
      rw [if_pos hp0]
      refine Ensures.pure (.inl ⟨?_, rfl, ?_⟩)
      · simp [quoteOf, ho, hp, Except.toOption, hnpos]
      · rintro ⟨_, prob', -, hp', -, hpos⟩
        rw [hp] at hp'
        cases hp'
        exact hnpos hpos
    have hpos : 0.0 < prob := by
      by_contra hn
      exact hp0 ((not_lt_iff_le hc.1 hc.2).mp hn)
    rw [if_neg hp0]
    refine Ensures.lift.bind fun t ht => ?_
    obtain ⟨-, -, rfl⟩ := Calc.le_eq_ok.mp ht
    rw [Calc.value_lit_zero]
    by_cases hout : out.value ≤ 0
    · rw [decide_eq_true hout, if_pos rfl]
      refine Ensures.pure (.inl ⟨?_, rfl, ?_⟩)
      · simp [quoteOf, ho, hp, Except.toOption, not_lt.mpr hout]
      · rintro ⟨out', _, ho', -, hout', -⟩
        rw [ho] at ho'
        cases ho'
        exact not_lt.mpr hout hout'
    rw [decide_eq_false hout, if_neg Bool.false_ne_true]
    refine Ensures.lift.bind fun score hs => Ensures.lift.mono fun r hr => ?_
    exact .inr ⟨⟨p, out, prob, score⟩,
      quoteOf_eq_some.mpr ⟨rfl, ho, hp, hpos, not_le.mp hout, hs⟩, hr⟩

/-! ## プールの列を見る畳み込み -/

/-- 見積もりの確率は正なので比べられる。 -/
theorem comparable_of_quoteOf {m : Monitor} {tokenIn : String} {size : Decimal} {p : PoolState}
    {q : PoolQuote} (h : quoteOf m tokenIn size p = some q) : Comparable q.probability :=
  (comparable_of_lt (quoteOf_eq_some.mp h).2.2.2.1).2

/--
プールの列を順に見ると、候補は、それまでの見積もり `qs` にこの列の見積もりを続けた列の
辞書式で最大の最初の見積もりになる。正の見積もりを持つプールは、見積もりを持つ。
-/
theorem foldlM_considerPool (m : Monitor) (tokenIn : String) (size : Decimal) :
    ∀ (ps : List PoolState) {qs : List PoolQuote} {best : Option PoolQuote},
      FirstBest qs best → (∀ x ∈ qs, Comparable x.probability) →
      Ensures m.view (ps.foldlM (considerPool tokenIn size m.clock) best) fun r =>
        FirstBest (qs ++ ps.filterMap (quoteOf m tokenIn size)) r ∧
          ∀ p ∈ ps, QuotesPositive m tokenIn size p → (quoteOf m tokenIn size p).isSome
  | [], qs, best, hb, _ => Ensures.pure ⟨by simpa using hb, by simp⟩
  | p :: ps, qs, best, hb, hc => by
    rw [List.foldlM_cons]
    refine Ensures.bind (considerPool_spec m tokenIn size best p) fun r hr => ?_
    rcases hr with ⟨hq, rfl, hneg⟩ | ⟨q, hq, hr⟩
    · refine (foldlM_considerPool m tokenIn size ps hb hc).mono fun r' ⟨hfb, hsome⟩ => ?_
      refine ⟨by simpa [List.filterMap_cons, hq] using hfb, fun p' hp' hpos => ?_⟩
      rcases List.mem_cons.mp hp' with rfl | hp'
      · exact absurd hpos hneg
      · exact hsome p' hp' hpos
    · have hc' : ∀ x ∈ qs ++ [q], Comparable x.probability := by
        intro x hx
        rcases List.mem_append.mp hx with hx | hx
        · exact hc x hx
        · rw [List.mem_singleton.mp hx]
          exact comparable_of_quoteOf hq
      refine (foldlM_considerPool m tokenIn size ps (better_firstBest hb hc hr) hc').mono
        fun r' ⟨hfb, hsome⟩ => ?_
      refine ⟨by simpa [List.filterMap_cons, hq] using hfb, fun p' hp' hpos => ?_⟩
      rcases List.mem_cons.mp hp' with rfl | hp'
      · simp [hq]
      · exact hsome p' hp' hpos

/-- 最良のプールを探すと、結果は組の新鮮なプールの見積もりの列の、辞書式で最大の最初の
見積もり。正の見積もりを持つ組の新鮮なプールは、見積もりを持つ。 -/
theorem findBestPool_spec (m : Monitor) (tokenIn tokenOut : String) (size : Decimal) :
    Ensures m.view (findBestPool tokenIn tokenOut size) fun r =>
      FirstBest ((m.poolsForPair tokenIn tokenOut none).filterMap (quoteOf m tokenIn size)) r ∧
        ∀ p ∈ m.poolsForPair tokenIn tokenOut none, QuotesPositive m tokenIn size p →
          (quoteOf m tokenIn size p).isSome := by
  unfold findBestPool
  refine Ensures.get.bind fun m' hm' => ?_
  -- 読んだ状態 `m'` は読む部分が同じなので、見積もりも組のプールも `m` のもの
  rw [← hm', ← poolsForPair_congr hm', ← quoteOf_congr hm', ← quotesPositive_congr hm']
  exact foldlM_considerPool m' tokenIn size _ (show FirstBest [] none from rfl) (by simp)

/-! ## 最良のプール -/

section Pools

variable {m : Monitor} {tokenIn tokenOut : String} {size : Decimal}

/-- 許可リストなしの組のプールは、保管され、組を扱い、新鮮な記録そのもの。 -/
theorem mem_poolsForPair_none (hw : m.cache.WF) {p : PoolState} :
    p ∈ m.poolsForPair tokenIn tokenOut none ↔
      m.cache.get? p.address = some p ∧ p.key = pairKey tokenIn tokenOut ∧
        m.isFresh p m.clock = true := by
  unfold poolsForPair
  rw [List.mem_filter, hw.mem_poolsForPair, Bool.and_true, and_assoc]

theorem eligible_iff_mem (hw : m.cache.WF) {p : PoolState} :
    Eligible m tokenIn tokenOut size p ↔
      p ∈ m.poolsForPair tokenIn tokenOut none ∧ QuotesPositive m tokenIn size p := by
  rw [mem_poolsForPair_none hw]
  constructor
  · rintro ⟨hc, hk, hf, hq⟩
    exact ⟨⟨hc, hk, hf⟩, hq⟩
  · rintro ⟨⟨hc, hk, hf⟩, hq⟩
    exact ⟨hc, hk, hf, hq⟩

theorem quotesPositive_of_quoteOf {p : PoolState} {q : PoolQuote}
    (h : quoteOf m tokenIn size p = some q) : QuotesPositive m tokenIn size p := by
  obtain ⟨rfl, ho, hp, hprob, hout, -⟩ := quoteOf_eq_some.mp h
  exact ⟨_, _, ho, hp, hout, hprob⟩

theorem quoteOf_of_mem_quotes {ps : List PoolState} {x : PoolQuote}
    (hx : x ∈ ps.filterMap (quoteOf m tokenIn size)) :
    x.pool ∈ ps ∧ quoteOf m tokenIn size x.pool = some x := by
  obtain ⟨p, hp, hq⟩ := List.mem_filterMap.mp hx
  rw [(quoteOf_eq_some.mp hq).1]
  exact ⟨hp, hq⟩

theorem quotes_sorted (hw : m.cache.WF) :
    ((m.poolsForPair tokenIn tokenOut none).filterMap (quoteOf m tokenIn size)).Pairwise
      fun x y => x.pool.address < y.pool.address := by
  have hps : (m.poolsForPair tokenIn tokenOut none).Pairwise fun a b => a.address < b.address :=
    List.pairwise_map.mp ((hw.poolsForPair_sorted _ _).sublist (List.filter_sublist.map _))
  refine hps.filterMap _ fun a b hab x hx y hy => ?_
  rw [(quoteOf_eq_some.mp hx).1, (quoteOf_eq_some.mp hy).1]
  exact hab

end Pools

/--
届く状態で最良のプールを探して成功すれば、結果がないのは資格のあるプールがないときに限る。
結果があれば、そのプールは資格があり、見積もりはそのプールの出力と確率とその積の点数で、
資格のあるどのプールの見積もりも、点数と確率の辞書式でその狭義に下にあるか、完全に等しく
アドレスが小さくない。
-/
theorem findBestPool_first_best {m : Monitor} (hm : Reachable m) {tokenIn tokenOut : String}
    {size : Decimal} {r : Option PoolQuote} {m' : Monitor}
    (h : findBestPool tokenIn tokenOut size m = .ok r m') :
    (r = none ↔ ∀ p, ¬ Eligible m tokenIn tokenOut size p) ∧
      ∀ q, r = some q →
        Eligible m tokenIn tokenOut size q.pool ∧
          expectedOutput q.pool size (q.pool.tokenA == tokenIn) = .ok q.expectedOutput ∧
          m.executionProbability q.pool size (q.pool.tokenA == tokenIn) m.clock =
            .ok q.probability ∧
          Calc.mul q.expectedOutput (Calc.ofFloat q.probability) = .ok q.score ∧
          ∀ p, Eligible m tokenIn tokenOut size p →
            ∃ qp, quoteOf m tokenIn size p = some qp ∧
              (Below qp q ∨ (qp.score.value = q.score.value ∧
                (qp.probability == q.probability) = true ∧ q.pool.address ≤ p.address)) := by
  have hw := hm.wf
  obtain ⟨-, hfb, hsome⟩ := findBestPool_spec m tokenIn tokenOut size m r m' rfl h
  have hquote : ∀ p, Eligible m tokenIn tokenOut size p → ∃ qp,
      quoteOf m tokenIn size p = some qp ∧
        qp ∈ (m.poolsForPair tokenIn tokenOut none).filterMap (quoteOf m tokenIn size) := by
    intro p hp
    obtain ⟨hpm, hpos⟩ := (eligible_iff_mem hw).mp hp
    obtain ⟨qp, hqp⟩ := Option.isSome_iff_exists.mp (hsome p hpm hpos)
    exact ⟨qp, hqp, List.mem_filterMap.mpr ⟨p, hpm, hqp⟩⟩
  have helig : ∀ x ∈ (m.poolsForPair tokenIn tokenOut none).filterMap (quoteOf m tokenIn size),
      Eligible m tokenIn tokenOut size x.pool := by
    intro x hx
    obtain ⟨hp, hq⟩ := quoteOf_of_mem_quotes hx
    exact (eligible_iff_mem hw).mpr ⟨hp, quotesPositive_of_quoteOf hq⟩
  cases r with
  | none =>
    refine ⟨⟨fun _ p hp => ?_, fun _ => rfl⟩, fun q hq => nomatch hq⟩
    obtain ⟨qp, -, hmem⟩ := hquote p hp
    have hnil : (m.poolsForPair tokenIn tokenOut none).filterMap (quoteOf m tokenIn size) = [] :=
      hfb
    rw [hnil] at hmem
    cases hmem
  | some q =>
    have hq : q ∈ (m.poolsForPair tokenIn tokenOut none).filterMap (quoteOf m tokenIn size) := by
      obtain ⟨pre, post, hqs, -, -⟩ := hfb
      rw [hqs]
      exact List.mem_append_right _ (List.mem_cons_self ..)
    refine ⟨⟨nofun, fun hnone => (hnone q.pool (helig q hq)).elim⟩, ?_⟩
    rintro q' ⟨⟩
    have hqq := (quoteOf_of_mem_quotes hq).2
    obtain ⟨-, ho, hpr, -, -, hs⟩ := quoteOf_eq_some.mp hqq
    refine ⟨helig q hq, ho, hpr, hs, fun p hp => ?_⟩
    obtain ⟨qp, hqp, hmem⟩ := hquote p hp
    refine ⟨qp, hqp, ?_⟩
    have hpool : qp.pool = p := (quoteOf_eq_some.mp hqp).1
    -- 前にある見積もりは狭義に下、後にある見積もりは上回らずアドレスが大きい
    rcases hfb.below_or_after (quotes_sorted hw) hmem with hb | ⟨hnb, haddr⟩
    · exact .inl hb
    rcases Below.or_tie (comparable_of_quoteOf hqp) (comparable_of_quoteOf hqq) hnb with
      hb | ⟨hs, hpr⟩
    · exact .inl hb
    · exact .inr ⟨hs, hpr, hpool ▸ haddr⟩

/-- 区画が二つの空の保管所を持つ監視器。探しても結果はなく、資格のあるプールもない。 -/
theorem findBestPool_first_best_on_empty_cache :
    ∃ m r m', Reachable m ∧ findBestPool "SOL" "USDC" (Calc.lit "1") m = .ok r m' ∧
      r = none ∧ ∀ p, ¬ Eligible m "SOL" "USDC" (Calc.lit "1") p := by
  have hmc : Monitor.create ⟨PoolCache.strHash, [[], []], []⟩ 60.0 1000.0
      (Stability.empty none 0.5) none = .ok ⟨⟨PoolCache.strHash, [[], []], []⟩,
        Stability.empty none 0.5, 60.0, 1000.0, none, []⟩ := by
    unfold Monitor.create
    rw [if_neg (by decide +kernel)]
  have hm := Reachable.create (n := 2) rfl hmc
  have hs : findBestPool "SOL" "USDC" (Calc.lit "1") ⟨⟨PoolCache.strHash, [[], []], []⟩,
      Stability.empty none 0.5, 60.0, 1000.0, none, []⟩ =
        .ok none ⟨⟨PoolCache.strHash, [[], []], []⟩, Stability.empty none 0.5, 60.0, 1000.0, none,
          []⟩ := by
    with_unfolding_all rfl
  exact ⟨_, _, _, hm, hs, rfl, (findBestPool_first_best hm hs).1.mp rfl⟩

end Monitor

end CrossPool
