import Mathlib
import CrossPool.Proofs.Monitor.Prune
import CrossPool.Proofs.Decimal.Rounded

/-!
# 価格の窓が持つもの

監視器の安定度は、アドレスごとに直近の価格の窓を持つ。窓は記録の書き込み（`updatePool`）で
作られて伸び、古い記録の取り除き（`pruneStale`）でだけ消える。

空の保管所と空の安定度から書き込みと取り除きを重ねると、各アドレスについて「最後に
取り除かれてから書かれた記録のうち、値付けに足りる状態を持ち値付けに成功したものの価格」の
列 `H` が決まる（`Sampled`）。窓はこの列の末尾 `windowSize` 個で、窓を持つアドレスは保管所に
ある（`window_holds_last_samples`）。

証明は次の不変量による（`Sampled.holds`）。

1. 窓の長さが作れる長さなら、窓があるのは列が空でないアドレスちょうどで、窓は列の末尾。
   作れない長さ（負か、64 bit 符号付き整数に収まらない）なら窓は一つもない。
2. 列が空でないアドレスは保管所にある。

値付けした価格は有限の 10 進数なので、いつも浮動小数点数にできる（`price_isFinite`）。
だから窓を作った書き込みは、必ず窓に観測を一つ加える。
-/

namespace CrossPool

open Decimal

/-! ## 価格は有限 -/

section Finite

theorem fix_isFinite {ctx : Context} (hp : 0 < ctx.prec) {neg : Bool} {c : ℕ} {e : ℤ}
    {r : Decimal} (h : ctx.fix neg c e = .ok r) : r.isFinite = true := by
  obtain ⟨c', e', rfl, -⟩ := fix_eq_ok hp h
  rfl

theorem Calc.div_isFinite {a b r : Decimal} (ha : a.isFinite = true) (hb : b.isFinite = true)
    (h : Calc.div a b = .ok r) : r.isFinite = true := by
  cases a <;> cases b <;> simp only [isFinite, Bool.false_eq_true] at ha hb
  obtain ⟨c', e', rfl, -⟩ := divFinite_eq_ok (by decide) (Calc.liftSignal_eq_ok.mp h)
  rfl

theorem Calc.mul_isFinite {a b r : Decimal} (ha : a.isFinite = true) (hb : b.isFinite = true)
    (h : Calc.mul a b = .ok r) : r.isFinite = true := by
  cases a <;> cases b <;> simp only [isFinite, Bool.false_eq_true] at ha hb
  obtain ⟨c', e', rfl, -⟩ := mul_finite_eq_ok (by decide) (Calc.liftSignal_eq_ok.mp h)
  rfl

theorem Calc.pow10_isFinite {n : Int} {r : Decimal} (h : Calc.pow10 n = .ok r) :
    r.isFinite = true := by
  replace h := Calc.liftSignal_eq_ok.mp h
  unfold Decimal.pow10 at h
  split at h
  · split at h
    · cases h
    · split at h <;> cases h <;> rfl
  · exact fix_isFinite (by decide) h

/-- 有限の 10 進数は浮動小数点数にできる。できないのは sNaN だけ。 -/
theorem Calc.toFloat_of_isFinite {d : Decimal} (h : d.isFinite = true) :
    ∃ x, Calc.toFloat d = .ok x := by
  cases d with
  | finite n c e =>
    obtain ⟨x, hx⟩ : ∃ x, Decimal.toFloat? (.finite n c e) = some x := by
      dsimp only [Decimal.toFloat?]
      split_ifs <;> exact ⟨_, rfl⟩
    refine ⟨x, ?_⟩
    unfold Calc.toFloat
    rw [hx]
  | infinity => cases h
  | nan => cases h

theorem Amount.fromRaw_isFinite {raw decimals : Int} {r : Decimal}
    (h : Amount.fromRaw raw decimals = .ok r) : r.isFinite = true := by
  obtain ⟨t, ht, h⟩ := bind_eq_ok h
  exact Calc.div_isFinite rfl (Calc.pow10_isFinite ht) h

theorem Amount.q64ToDecimal_isFinite {v : Int} {r : Decimal} (h : Amount.q64ToDecimal v = .ok r) :
    r.isFinite = true := by
  obtain ⟨_, -, h⟩ := bind_eq_ok h
  exact Calc.div_isFinite rfl rfl h

theorem Monitor.price_isFinite {p : PoolState} {r : Decimal} (h : Monitor.price p = .ok r) :
    r.isFinite = true := by
  unfold Monitor.price Monitor.priceIn at h
  split at h
  · cases h
  · split at h
    · unfold ConstantProduct.spotPriceIn at h
      split at h
      · cases h
      · obtain ⟨uiA, hA, h⟩ := bind_eq_ok h
        obtain ⟨uiB, hB, h⟩ := bind_eq_ok h
        exact Calc.div_isFinite (Amount.fromRaw_isFinite hB) (Amount.fromRaw_isFinite hA) h
    · unfold Concentrated.sqrtPriceToPriceIn at h
      split at h
      · cases h
      · split at h
        · cases h
        · obtain ⟨root, hroot, h⟩ := bind_eq_ok h
          obtain ⟨sq, hsq, h⟩ := bind_eq_ok h
          obtain ⟨t, ht, h⟩ := bind_eq_ok h
          have hroot := Amount.q64ToDecimal_isFinite hroot
          exact Calc.mul_isFinite (Calc.mul_isFinite hroot hroot hsq) (Calc.pow10_isFinite ht) h

end Finite

/-! ## 窓の操作 -/

namespace Stability

/-- 窓を作れる長さか。無制限か、0 以上で 64 bit 符号付き整数に収まる長さ。 -/
def validSize : Option Int → Bool
  | none => true
  | some n => decide (0 ≤ n) && decide (n < Int.pow 2 63)

/-- 観測の列のうち窓に残る部分。長さ `n` の窓では末尾の `n` 個。 -/
def keepLast (windowSize : Option Int) (xs : List Float) : List Float :=
  windowSize.elim xs fun n => xs.rtake n.toNat

theorem push_eq_keepLast (ws : Option Int) (w : List Float) (x : Float) :
    push ws w x = keepLast ws (w ++ [x]) := by
  cases ws <;> rfl

/-- 窓の末尾を残してから一つ加えても、加えてから末尾を残しても同じ。 -/
theorem keepLast_keepLast_append (ws : Option Int) (xs : List Float) (x : Float) :
    keepLast ws (keepLast ws xs ++ [x]) = keepLast ws (xs ++ [x]) := by
  cases ws with
  | none => rfl
  | some n =>
    show (xs.rtake n.toNat ++ [x]).rtake n.toNat = (xs ++ [x]).rtake n.toNat
    cases n.toNat with
    | zero => simp [List.rtake_zero]
    | succ k =>
      rw [List.rtake_concat_succ, List.rtake_concat_succ, List.rtake_eq_reverse_take_reverse,
        List.rtake_eq_reverse_take_reverse, List.reverse_reverse, List.take_take,
        Nat.min_eq_left (Nat.le_succ k), ← List.rtake_eq_reverse_take_reverse]

theorem window?_putWindow (s : Stability) (a b : String) (w : List Float) :
    (s.putWindow a w).window? b = if b = a then some w else s.window? b := by
  unfold putWindow window?
  split
  · next hany =>
    rw [List.find?_map]
    have hcomp : ((fun e : String × List Float => e.1 == b) ∘
        fun p => if p.1 == a then (a, w) else p) = fun e => e.1 == b := by
      funext p
      by_cases hp : p.1 = a <;> by_cases hb : b = a <;> simp_all
    rw [hcomp]
    cases hf : s.windows.find? (·.1 == b) with
    | none =>
      rw [List.find?_eq_none] at hf
      obtain ⟨e, he, hk⟩ := List.any_eq_true.mp hany
      have hne : b ≠ a := fun hb => hf e he (by simpa [hb] using hk)
      simp [hne]
    | some e =>
      have hk : e.1 = b := by simpa using List.find?_some hf
      by_cases hb : b = a <;> simp [hk, hb]
  · next hany =>
    rw [List.find?_append]
    by_cases hb : b = a
    · subst hb
      have hnone : s.windows.find? (·.1 == b) = none :=
        List.find?_eq_none.mpr fun e he hk => hany (List.any_eq_true.mpr ⟨e, he, hk⟩)
      simp [hnone]
    · simp [hb, Ne.symm hb]

@[simp] theorem windowSize_putWindow (s : Stability) (a : String) (w : List Float) :
    (s.putWindow a w).windowSize = s.windowSize := by
  unfold putWindow
  split <;> rfl

/-- 窓のあるアドレスに観測を加えると、窓の末尾に加わる。 -/
theorem add_of_window {s : Stability} {a : String} {pr : Decimal} {w : List Float} {x : Float}
    (hw : s.window? a = some w) (hx : Calc.toFloat pr = .ok x) :
    (s.add a pr).1 = s.putWindow a (push s.windowSize w x) := by
  unfold add
  simp only [hw, hx]

/-- 窓のないアドレスに観測を加えると、作れる長さなら窓ができる。 -/
theorem add_of_new {s : Stability} {a : String} {pr : Decimal} {x : Float}
    (hn : s.window? a = none) (hv : validSize s.windowSize = true) (hx : Calc.toFloat pr = .ok x) :
    (s.add a pr).1 = s.putWindow a (push s.windowSize [] x) := by
  unfold add
  cases hs : s.windowSize with
  | none => simp only [hn, hx]
  | some n =>
    rw [hs] at hv
    obtain ⟨h0, h1⟩ : 0 ≤ n ∧ n < Int.pow 2 63 := by simpa [validSize] using hv
    have hbig : (decide (n < -Int.pow 2 63) || decide (Int.pow 2 63 ≤ n)) = false := by
      have : (0 : Int) ≤ Int.pow 2 63 := by decide
      simp only [Bool.or_eq_false_iff, decide_eq_false_iff_not]
      omega
    simp only [hn, hbig, hx, Bool.false_eq_true, if_false, not_lt.mpr h0]

/-- 作れない長さでは、窓のないアドレスに観測を加えても何も変わらない。 -/
theorem add_of_invalid {s : Stability} {a : String} {pr : Decimal} (hn : s.window? a = none)
    (hv : validSize s.windowSize = false) : (s.add a pr).1 = s := by
  unfold add
  cases hs : s.windowSize with
  | none =>
    rw [hs] at hv
    cases hv
  | some n =>
    rw [hs] at hv
    simp only [validSize, Bool.and_eq_false_iff, decide_eq_false_iff_not, not_le, not_lt] at hv
    by_cases hbig : (decide (n < -Int.pow 2 63) || decide (Int.pow 2 63 ≤ n)) = true
    · simp only [hn, hbig, if_true]
    · have hneg : n < 0 := by
        simp only [Bool.or_eq_true, decide_eq_true_eq, not_or] at hbig
        omega
      simp only [Bool.not_eq_true] at hbig
      simp only [hn, hbig, hneg, Bool.false_eq_true, if_false, if_true]

/-- 観測を加えた結果は、元の安定度か、アドレス `a` の窓を一つ書いたもの。 -/
theorem add_fst_cases (s : Stability) (a : String) (pr : Decimal) :
    (s.add a pr).1 = s ∨ ∃ w, (s.add a pr).1 = s.putWindow a w := by
  unfold add
  dsimp only
  split
  · exact .inl rfl
  · split
    · exact .inr ⟨_, rfl⟩
    · exact .inr ⟨_, rfl⟩

theorem windowSize_add (s : Stability) (a : String) (pr : Decimal) :
    (s.add a pr).1.windowSize = s.windowSize := by
  rcases add_fst_cases s a pr with h | ⟨w, h⟩ <;> rw [h]
  exact windowSize_putWindow ..

theorem window?_add_of_ne (s : Stability) {a b : String} (pr : Decimal) (hb : b ≠ a) :
    (s.add a pr).1.window? b = s.window? b := by
  rcases add_fst_cases s a pr with h | ⟨w, h⟩ <;> rw [h]
  rw [window?_putWindow, if_neg hb]

end Stability

/-! ## 書き込みが安定度に加えるもの -/

namespace Monitor

/-- 値付けできた記録を書くと、その価格を安定度に加える。加えることに失敗しても、
加えたあとの安定度が残る。 -/
theorem stability_updatePool_of_price {p : PoolState} {pr : Decimal} (he : p.isEnriched = true)
    (hp : price p = .ok pr) (m : Monitor) :
    (finalState (updatePool p m)).stability = (m.stability.add p.address pr).1 := by
  unfold updatePool updatePoolIn observe
  rw [priceIn_ctx]
  simp only [he, hp, if_true, bind, EStateM.bind, get, getThe, MonadStateOf.get, EStateM.get, set,
    EStateM.set, measure, modify, modifyGet, MonadStateOf.modifyGet, EStateM.modifyGet, lift]
  cases (m.stability.add p.address pr).2 <;> rfl

/-- 値付けに足りない記録や値付けに失敗した記録を書いても、安定度は変わらない。 -/
theorem stability_updatePool_of_unpriced {p : PoolState}
    (h : p.isEnriched = false ∨ ∃ e, price p = .error e) (m : Monitor) :
    (finalState (updatePool p m)).stability = m.stability := by
  unfold updatePool updatePoolIn
  rw [priceIn_ctx]
  cases he : p.isEnriched
  · simp only [Bool.false_eq_true, if_false, bind, EStateM.bind, get, getThe, MonadStateOf.get,
      EStateM.get, measure, modify, modifyGet, MonadStateOf.modifyGet, EStateM.modifyGet]
    rfl
  · obtain ⟨e, hp⟩ := h.resolve_left (by simp [he])
    simp only [if_true, hp, bind, EStateM.bind, get, getThe, MonadStateOf.get, measure, emit, modify,
      modifyGet, MonadStateOf.modifyGet, EStateM.modifyGet]
    split <;> rfl

/-! ## 観測の列 -/

/-- 記録 `p` を書いたときに窓に加わる価格の標本。値付けに足りる状態を持ち、値付けに
成功した記録の価格を浮動小数点数にしたもの。 -/
def sample? (p : PoolState) : Option Float :=
  if p.isEnriched then (price p >>= Calc.toFloat).toOption else none

/-- 値付けできた記録には標本があり、値付けできない記録にはない。 -/
theorem sample?_cases (p : PoolState) :
    (∃ pr x, p.isEnriched = true ∧ price p = .ok pr ∧ Calc.toFloat pr = .ok x ∧ sample? p = some x) ∨
      ((p.isEnriched = false ∨ ∃ e, price p = .error e) ∧ sample? p = none) := by
  cases he : p.isEnriched
  · exact .inr ⟨.inl rfl, by simp [sample?, he]⟩
  · cases hp : price p with
    | error e => exact .inr ⟨.inr ⟨e, rfl⟩, by simp [sample?, he, hp, bind, Except.bind, Except.toOption]⟩
    | ok pr =>
      obtain ⟨x, hx⟩ := Calc.toFloat_of_isFinite (price_isFinite hp)
      exact .inl ⟨pr, x, rfl, rfl, hx, by simp [sample?, he, hp, hx, bind, Except.bind, Except.toOption]⟩

/--
空の保管所と長さ `ws` の空の安定度から、記録の書き込み、古い記録の取り除き、時計の進みを
重ねて届く状態 `m` と、各アドレスの観測の列 `H`。`H a` は、アドレス `a` が最後に取り除かれて
から書かれた記録の標本を、書かれた順に並べたもの。書き込みは失敗で終わっても数える。
-/
inductive Sampled (ws : Option Int) : Monitor → (String → List Float) → Prop
  | create {n : Int} {cache : PoolCache} {maxPoolAge clock cvCeiling : Float}
      {metrics : Option Metrics} {m : Monitor} :
      PoolCache.create n = .ok cache →
      Monitor.create cache maxPoolAge clock (Stability.empty ws cvCeiling) metrics = .ok m →
      Sampled ws m fun _ => []
  | updatePool {m : Monitor} {H : String → List Float} (p : PoolState) : Sampled ws m H →
      Sampled ws (finalState (updatePool p m))
        (Function.update H p.address (H p.address ++ (sample? p).toList))
  | pruneStale {m : Monitor} {H : String → List Float} (now : Float) : Sampled ws m H →
      Sampled ws (finalState (pruneStale now m))
        fun a => if (m.cache.get? a).any (·.isStale now m.maxPoolAge) then [] else H a
  | setClock {m : Monitor} {H : String → List Float} (t : Float) : Sampled ws m H →
      Sampled ws { m with clock := t } H

theorem Sampled.reachable {ws : Option Int} {m : Monitor} {H : String → List Float}
    (h : Sampled ws m H) : Reachable m := by
  induction h with
  | create hc hm => exact .create hc hm
  | updatePool p _ ih => exact ih.updatePool p
  | pruneStale now _ ih => exact ih.pruneStale now
  | setClock t _ ih => exact ih.setClock t

/-- 安定度と保管所が観測の列 `H` を表す：長さ `ws` が作れる長さなら、窓があるのは列が空で
ないアドレスちょうどで、窓は列の末尾。列が空でないアドレスは保管所にある。 -/
structure Holds (ws : Option Int) (m : Monitor) (H : String → List Float) : Prop where
  windowSize : m.stability.windowSize = ws
  window? : ∀ a, m.stability.window? a =
    if H a ≠ [] ∧ Stability.validSize ws = true then some (Stability.keepLast ws (H a)) else none
  cached : ∀ a, H a ≠ [] → (m.cache.get? a).isSome

namespace Holds

variable {ws : Option Int} {m : Monitor} {H : String → List Float}

/-- 作ったばかりの監視器は空の列を表す。安定度に窓はない。 -/
theorem create {cache : PoolCache} {maxPoolAge clock cvCeiling : Float} {metrics : Option Metrics}
    (hm : Monitor.create cache maxPoolAge clock (Stability.empty ws cvCeiling) metrics = .ok m) :
    Holds ws m fun _ => [] := by
  unfold Monitor.create at hm
  split at hm
  · cases hm
  · cases hm
    exact ⟨rfl, fun a => by simp [Stability.empty, Stability.window?], fun a h => absurd rfl h⟩

/-- 書いた記録のアドレスは保管所にあり、ほかのアドレスの記録は変わらない。 -/
theorem get?_updatePool (hw : m.cache.WF) (p : PoolState) (a : String) :
    (finalState (updatePool p m)).cache.get? a = Function.update m.cache.get? p.address (some p) a := by
  rw [cache_updatePool, PoolCache.get?_upsert_eq_update hw.shards_pos]

/-- 書き込みのあとのアドレス `a` の窓。列の末尾 `H a` に標本 `x` が加わる。 -/
theorem window?_add_self (hi : Holds ws m H) {a : String} {pr : Decimal} {x : Float}
    (hx : Calc.toFloat pr = .ok x) :
    (m.stability.add a pr).1.window? a =
      if H a ++ [x] ≠ [] ∧ Stability.validSize ws = true then
        some (Stability.keepLast ws (H a ++ [x])) else none := by
  have hwin := hi.window? a
  cases hw : m.stability.window? a with
  | some w =>
    rw [hw] at hwin
    split at hwin
    · next hc =>
      obtain rfl := (Option.some.inj hwin)
      rw [Stability.add_of_window hw hx, Stability.window?_putWindow, if_pos rfl, if_pos ⟨by simp, hc.2⟩,
        hi.windowSize, Stability.push_eq_keepLast, Stability.keepLast_keepLast_append]
    · cases hwin
  | none =>
    rw [hw] at hwin
    cases hv : Stability.validSize ws
    · rw [Stability.add_of_invalid hw (hi.windowSize ▸ hv), hw]
      simp
    · -- 作れる長さで窓がなければ、列は空。窓は標本一つから始まる
      have hnil : H a = [] := by
        by_contra hne
        rw [if_pos ⟨hne, hv⟩] at hwin
        cases hwin
      rw [Stability.add_of_new hw (hi.windowSize ▸ hv) hx, Stability.window?_putWindow, if_pos rfl,
        hi.windowSize, Stability.push_eq_keepLast, hnil]
      simp

/-- 書き込みは不変量を保つ。値付けできた記録なら、そのアドレスの列に標本が一つ加わる。 -/
theorem updatePool (hi : Holds ws m H) (hw : m.cache.WF) (p : PoolState) :
    Holds ws (finalState (Monitor.updatePool p m))
      (Function.update H p.address (H p.address ++ (sample? p).toList)) := by
  have hcached : ∀ a, Function.update H p.address (H p.address ++ (sample? p).toList) a ≠ [] →
      ((finalState (Monitor.updatePool p m)).cache.get? a).isSome := by
    intro a ha
    rw [get?_updatePool hw]
    by_cases hap : a = p.address
    · subst hap
      simp
    · rw [Function.update_of_ne hap] at ha ⊢
      exact hi.cached a ha
  rcases sample?_cases p with ⟨pr, x, he, hp, hx, hs⟩ | ⟨hno, hs⟩
  · have hst := stability_updatePool_of_price he hp m
    refine ⟨by rw [hst, Stability.windowSize_add, hi.windowSize], fun a => ?_, hcached⟩
    rw [hst, hs]
    by_cases hap : a = p.address
    · subst hap
      rw [Function.update_self, Option.toList_some]
      exact hi.window?_add_self hx
    · rw [Function.update_of_ne hap, Stability.window?_add_of_ne _ _ hap]
      exact hi.window? a
  · have hst := stability_updatePool_of_unpriced hno m
    have hH : Function.update H p.address (H p.address ++ (sample? p).toList) = H := by
      rw [hs, Option.toList_none, List.append_nil, Function.update_eq_self]
    refine ⟨by rw [hst]; exact hi.windowSize, fun a => ?_, hcached⟩
    rw [hst, hH]
    exact hi.window? a

/-- 取り除きは不変量を保つ。取り除いたアドレスの列は空になる。 -/
theorem pruneStale (hi : Holds ws m H) (hw : m.cache.WF) (now : Float) :
    Holds ws (finalState (Monitor.pruneStale now m))
      fun a => if (m.cache.get? a).any (·.isStale now m.maxPoolAge) then [] else H a := by
  obtain ⟨log, metrics, heq⟩ := pruneStale_eq now m
  rw [heq]
  refine ⟨?_, fun a => ?_, fun a ha => ?_⟩
  · exact (Stability.windowSize_foldl_forget _ _).trans hi.windowSize
  · show Stability.window? (List.foldl _ _ _) a = _
    rw [Stability.window?_foldl_forget, if_congr (hw.mem_removeWhere_addresses a) rfl rfl]
    by_cases hs : (m.cache.get? a).any (·.isStale now m.maxPoolAge) = true
    · simp [hs]
    · simp only [hs, if_false, Bool.false_eq_true]
      exact hi.window? a
  · show (PoolCache.get? (PoolCache.removeWhere _ _).1 a).isSome
    by_cases hs : (m.cache.get? a).any (·.isStale now m.maxPoolAge) = true
    · simp [hs] at ha
    · simp only [hs, if_false, Bool.false_eq_true] at ha
      obtain ⟨r, hr⟩ := Option.isSome_iff_exists.mp (hi.cached a ha)
      rw [hw.get?_removeWhere, hr]
      rw [hr] at hs
      simpa using hs

end Holds

/-- 空から届く状態は不変量を満たす。 -/
theorem Sampled.holds {ws : Option Int} {m : Monitor} {H : String → List Float}
    (h : Sampled ws m H) : Holds ws m H := by
  induction h with
  | create _ hm => exact Holds.create hm
  | updatePool p hprev ih => exact ih.updatePool hprev.reachable.wf p
  | pruneStale now hprev ih => exact ih.pruneStale hprev.reachable.wf now
  | setClock t _ ih => exact ⟨ih.windowSize, ih.window?, ih.cached⟩

/-- 空の保管所と空の安定度から書き込みと取り除きを重ねた状態で、窓を持つアドレスは保管所に
あり、窓はそのアドレスの観測の列の末尾 `ws` 個。 -/
theorem window_holds_last_samples {ws : Option Int} {m : Monitor} {H : String → List Float}
    (h : Sampled ws m H) (a : String) :
    ((m.stability.window? a).isSome → (m.cache.get? a).isSome) ∧
      ∀ w, m.stability.window? a = some w → w = Stability.keepLast ws (H a) := by
  have hi := h.holds
  have hwin := hi.window? a
  constructor
  · intro hs
    rw [hwin] at hs
    split at hs
    · next hc => exact hi.cached a hc.1
    · cases hs
  · intro w hw
    rw [hwin] at hw
    split at hw
    · exact (Option.some.inj hw).symm
    · cases hw

/-- 長さ 20 の窓の監視器に、準備量 1 と 2 の定積プール `a` を一度書いた状態。 -/
theorem window_holds_last_samples_after_one_write :
    let p : PoolState := { (default : PoolState) with address := "a", reserveA := 1, reserveB := 2 }
    let m := finalState (updatePool p
      ⟨⟨PoolCache.strHash, [[]], []⟩, Stability.empty (some 20) 0.02, 30.0, 1000.0, none, []⟩)
    ((m.stability.window? "a").isSome → (m.cache.get? "a").isSome) ∧
      ∀ w, m.stability.window? "a" = some w →
        w = Stability.keepLast (some 20) (Function.update (fun _ => []) "a" ([] ++ (sample? p).toList) "a") :=
  window_holds_last_samples (.updatePool _ (.create (n := 1) rfl create_thirty_seconds)) "a"

end Monitor

end CrossPool
