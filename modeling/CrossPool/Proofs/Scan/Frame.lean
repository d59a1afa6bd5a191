import Mathlib
import CrossPool.Proofs.Monitor.Step
import CrossPool.Proofs.Monitor.Reachable
import CrossPool.Detector.Scan

/-!
# 走査は読むだけである

走査と評価は、監視器の保管所、安定度、鮮度の上限、時計（`View`）を読むだけで書かない。
書くのはログと計測値、それに検出器の `last` だけである。`Ensures` は成功した走査について
これを言うが、ここでは途中で失敗した走査も含め、さらに結果が読む部分だけで決まることを示す。

`ReadOnly x` は二つの状態の間の関係で言う。読む部分の等しい二つの状態から `x` を走らせると、
どちらでも読む部分はそのまま残り、値（または失敗）は等しい。`bind`、`get`、畳み込みの規則を
一度示し、走査の各段の保証をその部分の保証から組み立てる。

主定理は、前に何があったか（前の走査の結果 `last`、ログ、計測値）によらず、読む部分が
同じなら走査と評価は同じ結果を返すこと。プールの更新も刈り込みもなく時計も同じなら、
二度の走査は等しい機会の列を返す。
-/

namespace CrossPool.Monitor

/-- 操作の値か失敗。終わりの状態は捨てる。 -/
def outcome {α : Type} : EStateM.Result Fault Monitor α → Except Fault α
  | .ok a _ => .ok a
  | .error e _ => .error e

/-- 読む部分の等しい状態は、計測値とログだけが違う。 -/
theorem eq_of_view_eq {m m' : Monitor} (h : m.view = m'.view) :
    m' = { m with metrics := m'.metrics, log := m'.log } := by
  obtain ⟨c, s, a, t, k, l⟩ := m
  obtain ⟨c', s', a', t', k', l'⟩ := m'
  simp only [view, View.mk.injEq] at h
  obtain ⟨rfl, rfl, rfl, rfl⟩ := h
  rfl

/--
操作 `x` は読む部分を書かず、値は読む部分だけで決まる。読む部分の等しい二つの状態から
走らせると、読む部分はそのまま残り、値または失敗は等しい。
-/
def ReadOnly {α : Type} (x : Step α) : Prop :=
  ∀ m m', m.view = m'.view → (finalState (x m)).view = m.view ∧ outcome (x m) = outcome (x m')

namespace ReadOnly

variable {α β : Type}

theorem frame {x : Step α} (h : ReadOnly x) (m : Monitor) : (finalState (x m)).view = m.view :=
  (h m m rfl).1

/-- 読むだけの操作は、成功すれば読む部分を保つ。 -/
theorem ensures {x : Step α} (h : ReadOnly x) (v : View) : Ensures v x fun _ => True := by
  intro m a m' hv hx
  have hf := h.frame m
  rw [hx] at hf
  exact ⟨hf.trans hv, trivial⟩

theorem pure (a : α) : ReadOnly (Pure.pure a : Step α) := fun _ _ _ => ⟨rfl, rfl⟩

theorem throw (e : Fault) : ReadOnly (throw e : Step α) := fun _ _ _ => ⟨rfl, rfl⟩

theorem bind {x : Step α} {f : α → Step β} (hx : ReadOnly x) (hf : ∀ a, ReadOnly (f a)) :
    ReadOnly (x >>= f) := by
  intro m₁ m₂ hv
  obtain ⟨hv₁, ho⟩ := hx m₁ m₂ hv
  have hv₂ := hx.frame m₂
  change (finalState (EStateM.bind x f m₁)).view = m₁.view ∧
    outcome (EStateM.bind x f m₁) = outcome (EStateM.bind x f m₂)
  unfold EStateM.bind
  -- `x` の二つの走りは同じ値か同じ失敗で終わる。食い違う組は `ho` が退ける
  cases h₁ : x m₁ with
  | ok a s₁ =>
    cases h₂ : x m₂ with
    | ok b s₂ =>
      rw [h₁, h₂] at ho
      rw [h₁] at hv₁
      rw [h₂] at hv₂
      obtain rfl : a = b := Except.ok.inj ho
      obtain ⟨hvf, hof⟩ := hf a s₁ s₂ (hv₁.trans (hv.trans hv₂.symm))
      exact ⟨hvf.trans hv₁, hof⟩
    | error e s₂ =>
      rw [h₁, h₂] at ho
      cases ho
  | error e s₁ =>
    cases h₂ : x m₂ with
    | ok b s₂ =>
      rw [h₁, h₂] at ho
      cases ho
    | error e' s₂ =>
      rw [h₁, h₂] at ho
      rw [h₁] at hv₁
      obtain rfl : e = e' := Except.error.inj ho
      exact ⟨hv₁, rfl⟩

theorem map {x : Step α} (hx : ReadOnly x) (f : α → β) : ReadOnly (f <$> x) := by
  rw [map_eq_pure_bind]
  exact hx.bind fun a => pure (f a)

/--
状態を読んでから続ける操作。続きが読む部分のほかに計測値もログも読まなければ、読む部分の
等しい状態からは同じ続きになる。
-/
theorem get_bind {f : Monitor → Step α}
    (hf : ∀ m k l, f { m with metrics := k, log := l } = f m) (h : ∀ m, ReadOnly (f m)) :
    ReadOnly (MonadState.get >>= f) := by
  intro m₁ m₂ hv
  have h₂ : f m₂ = f m₁ := by
    rw [eq_of_view_eq hv]
    exact hf m₁ _ _
  change (finalState (f m₁ m₁)).view = m₁.view ∧ outcome (f m₁ m₁) = outcome (f m₂ m₂)
  rw [h₂]
  exact h m₁ m₁ m₂ hv

theorem modify {g : Monitor → Monitor} (hg : ∀ m, (g m).view = m.view) :
    ReadOnly (modify g : Step Unit) :=
  fun m _ _ => ⟨hg m, rfl⟩

theorem lift (r : Except Fault α) : ReadOnly (Monitor.lift r) := by
  cases r with
  | ok a => exact pure a
  | error e => exact throw e

theorem emit (level : Log.Level) (message : String) : ReadOnly (Monitor.emit level message) :=
  modify fun _ => rfl

theorem measure (f : Metrics → Metrics) : ReadOnly (Monitor.measure f) := modify fun _ => rfl

/-- 理由を記録して読み飛ばす枝。 -/
theorem emit_skip (level : Log.Level) (message reason : String) (a : α) :
    ReadOnly (Monitor.emit level message >>= fun _ =>
      Monitor.recordSkip reason >>= fun _ => (Pure.pure a : Step α)) :=
  (emit level message).bind fun _ => (measure _).bind fun _ => pure a

theorem foldlM {f : β → α → Step β} (hf : ∀ b a, ReadOnly (f b a)) :
    ∀ (l : List α) (init : β), ReadOnly (l.foldlM f init)
  | [], _ => pure _
  | a :: l, init => by
    rw [List.foldlM_cons]
    exact (hf init a).bind fun b => foldlM hf l b

theorem filterMapM {f : α → Step (Option β)} (hf : ∀ a, ReadOnly (f a)) (l : List α) :
    ReadOnly (l.filterMapM f) := by
  -- 本体は集めた結果 `acc` を引数に持つ再帰
  suffices h : ∀ acc, ReadOnly (List.filterMapM.loop f l acc) from h []
  induction l with
  | nil => exact fun _ => pure _
  | cons a l ih =>
    intro acc
    refine (hf a).bind fun b => ?_
    cases b with
    | none => exact ih acc
    | some b => exact ih (b :: acc)

end ReadOnly

end CrossPool.Monitor

namespace CrossPool.Detector

open Monitor

/-! ## 走査の各段

状態を読むのは `evaluateSize`（実行確率の見積もり）、`evaluate`（鮮度）、`scanPair`（組の
プール）の三つで、どれも読む部分だけを読む（`get_bind` の等式は `rfl`）。ほかの段は
記録と計測値を書くか、状態を持たない計算を持ち上げるだけである。 -/

theorem readOnly_safePrice (p : MonitoredPair) (pool : PoolState) :
    ReadOnly (safePrice p pool) := by
  unfold safePrice
  split
  · exact .pure _
  · exact .emit_skip _ _ _ _
  · exact .emit_skip _ _ _ _
  · exact .throw _

theorem readOnly_evaluateSize (d : Detector) (size : Decimal) (buy sell : PoolState)
    (buyPrice sellPrice : Decimal) (buyAToB sellAToB : Bool) (now : Float) :
    ReadOnly (d.evaluateSize size buy sell buyPrice sellPrice buyAToB sellAToB now) := by
  unfold evaluateSize
  refine ReadOnly.get_bind (fun _ _ _ => rfl) fun m => (ReadOnly.lift _).bind fun _ => ?_
  dsimp only
  split
  · exact (ReadOnly.lift _).map _
  · exact .emit_skip _ _ _ _
  · exact .emit_skip _ _ _ _
  · exact .throw _

theorem readOnly_searchGrid (d : Detector) (p : MonitoredPair) (buy sell : PoolState)
    (now : Float) : ReadOnly (d.searchGrid p buy sell now) := by
  unfold searchGrid
  refine (readOnly_safePrice p buy).bind fun _ => (readOnly_safePrice p sell).bind fun _ => ?_
  split
  · refine (ReadOnly.foldlM (fun best size => ?_) _ _).bind fun best => ?_
    · exact (readOnly_evaluateSize _ _ _ _ _ _ _ _ _).bind fun _ => ReadOnly.lift _
    split
    · exact .pure _
    · refine (ReadOnly.lift _).bind fun _ => ?_
      split
      · exact .pure _
      · exact (ReadOnly.lift _).map _
  · exact .pure _

theorem readOnly_evaluate (d : Detector) (buy sell : PoolState) (p : MonitoredPair) :
    ReadOnly (d.evaluate buy sell p) := by
  unfold evaluate
  refine ReadOnly.get_bind (fun _ _ _ => rfl) fun m => ?_
  dsimp only
  split
  · exact readOnly_searchGrid d p buy sell _
  · exact .emit_skip _ _ _ _
  · exact .throw _

theorem readOnly_considerPair (d : Detector) (p : MonitoredPair) (acc : List Opportunity)
    (c : (PoolState × Decimal) × (PoolState × Decimal)) : ReadOnly (d.considerPair p acc c) := by
  obtain ⟨⟨pp, prp⟩, pq, prq⟩ := c
  unfold considerPair
  refine (ReadOnly.lift _).bind fun _ => ?_
  split
  · exact .pure _
  · refine (ReadOnly.lift _).bind fun _ => (readOnly_evaluate d _ _ p).bind fun o => ?_
    split
    · exact .pure _
    · refine (ReadOnly.lift _).bind fun _ => ?_
      split
      · exact .pure _
      · split
        · exact .pure _
        · exact (ReadOnly.measure _).bind fun _ => .pure _

theorem readOnly_scanPair (d : Detector) (p : MonitoredPair) : ReadOnly (d.scanPair p) := by
  unfold scanPair
  refine ReadOnly.get_bind (fun _ _ _ => rfl) fun m => ?_
  dsimp only
  split
  · exact (ReadOnly.emit _ _).bind fun _ => .pure _
  · refine (ReadOnly.filterMapM (fun pool =>
      (readOnly_safePrice p pool).bind fun _ => .pure _) _).bind fun priced => ?_
    exact ReadOnly.foldlM (readOnly_considerPair d p) _ _

theorem readOnly_scanPairs (d : Detector) (cancelAfter : Option Nat) :
    ∀ (ps : List MonitoredPair) (i : Nat) (acc : List Opportunity),
      ReadOnly (d.scanPairs cancelAfter ps i acc)
  | [], _, _ => .pure _
  | p :: ps, i, acc => by
    unfold scanPairs
    split
    · exact (ReadOnly.emit _ _).bind fun _ => (ReadOnly.measure _).bind fun _ => .pure _
    · exact (readOnly_scanPair d p).bind fun found =>
        readOnly_scanPairs d cancelAfter ps (i + 1) (acc ++ found)

theorem readOnly_scan (d : Detector) (cancelAfter : Option Nat) :
    ReadOnly (d.scan cancelAfter) := by
  unfold scan
  refine (readOnly_scanPairs d cancelAfter _ 0 []).bind fun found => ?_
  refine (ReadOnly.measure _).bind fun _ => ?_
  dsimp only
  split
  · exact (ReadOnly.emit _ _).bind fun _ => .pure _
  · exact (ReadOnly.emit _ _).bind fun _ => .pure _

/-! ## 前の走査の結果 -/

/-- 組の走査は前の走査の結果 `last` を読まない。 -/
theorem scanPairs_with_last (d : Detector) (l : List Opportunity) (cancelAfter : Option Nat) :
    ∀ (ps : List MonitoredPair) (i : Nat) (acc : List Opportunity),
      { d with last := l }.scanPairs cancelAfter ps i acc = d.scanPairs cancelAfter ps i acc
  | [], _, _ => rfl
  | p :: ps, i, acc => by
    have hp : { d with last := l }.scanPair p = d.scanPair p := rfl
    simp only [scanPairs, hp, scanPairs_with_last d l cancelAfter ps]

/-- 走査は前の走査の結果 `last` を読まない。 -/
theorem scan_with_last (d : Detector) (l : List Opportunity) (cancelAfter : Option Nat) :
    { d with last := l }.scan cancelAfter = d.scan cancelAfter := by
  unfold scan
  rw [scanPairs_with_last]

/-- 走査が成功すれば、検出器は `last` だけが新しい結果に変わる。 -/
theorem scan_ensures_last (d : Detector) (cancelAfter : Option Nat) (v : View) :
    Ensures v (d.scan cancelAfter) fun r => r.1 = { d with last := r.2 } := by
  unfold scan
  refine ((readOnly_scanPairs d cancelAfter _ 0 []).ensures v).bind fun found _ => ?_
  refine (Ensures.measure _).bind fun _ _ => ?_
  dsimp only
  split
  · exact (Ensures.emit _ _).bind fun _ _ => Ensures.pure rfl
  · exact (Ensures.emit _ _).bind fun _ _ => Ensures.pure rfl

/-! ## 主定理 -/

/--
走査と評価は監視器の読む部分を書かず、結果は読む部分だけで決まる。走査は失敗しても読む部分を
そのまま残し、前の走査の結果 `last` にも、ログと計測値にもよらない同じ値（または同じ失敗）を
返す。成功すれば検出器は `last` だけが変わる。評価も同じく読む部分を残し、結果は読む部分で
決まる。
-/
theorem scan_depends_only_on_view (d : Detector) (cancelAfter : Option Nat)
    (l l' : List Opportunity) (buy sell : PoolState) (p : MonitoredPair) {m m' : Monitor}
    (hv : m.view = m'.view) :
    (finalState ({ d with last := l }.scan cancelAfter m)).view = m.view ∧
      outcome ({ d with last := l }.scan cancelAfter m) =
        outcome ({ d with last := l' }.scan cancelAfter m') ∧
      (∀ d' os m'', { d with last := l }.scan cancelAfter m = .ok (d', os) m'' →
        d' = { d with last := os }) ∧
      (finalState (d.evaluate buy sell p m)).view = m.view ∧
      outcome (d.evaluate buy sell p m) = outcome (d.evaluate buy sell p m') := by
  simp only [scan_with_last]
  obtain ⟨hframe, hout⟩ := readOnly_scan d cancelAfter m m' hv
  refine ⟨hframe, hout, fun d' os m'' h => ?_, readOnly_evaluate d buy sell p m m' hv⟩
  exact (scan_ensures_last d cancelAfter m.view m (d', os) m'' rfl h).2

/-- 走査のあとの状態は読む部分が同じなので、もう一度走査しても同じ結果になる。 -/
theorem scan_depends_only_on_view_after_scan :
    let d : Detector := default
    let m : Monitor := default
    let m' := finalState (d.scan none m)
    m.view = m'.view ∧
      (finalState ({ d with last := [] }.scan none m)).view = m.view ∧
      outcome ({ d with last := [] }.scan none m) = outcome ({ d with last := [] }.scan none m') ∧
      (∀ d' os m'', { d with last := [] }.scan none m = .ok (d', os) m'' →
        d' = { d with last := os }) ∧
      (finalState (d.evaluate default default default m)).view = m.view ∧
      outcome (d.evaluate default default default m) =
        outcome (d.evaluate default default default m') := by
  intro d m m'
  have hv : m.view = m'.view := ((readOnly_scan d none).frame m).symm
  exact ⟨hv, scan_depends_only_on_view d none [] [] default default default hv⟩

end CrossPool.Detector
