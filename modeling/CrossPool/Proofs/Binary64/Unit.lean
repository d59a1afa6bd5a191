import CrossPool.Proofs.Binary64.Order

/-!
# `[0, 1]` の浮動小数点数の積

`[0, 1]` の浮動小数点数どうしの積は `[0, 1]` に入り、NaN にならない（`mul_mem_unit`）。
確率を掛け合わせても確率のままである。

積は、仮数の積と指数の和を目標の指数まで右シフトし、最近接偶数に丸め、繰り上がれば
もう一度シフトしてから、ビット列に詰める。正確な積 `m * 2^e` が 1 以下なら、どの段でも
1 以下のままである（`AtMostOne`）。丸めで商に 1 を足すのは余りがあるときだけで、
そのとき商は `2^(-e)` より真に小さいからである。

ビット列から読み直した値は正規化されている。仮数は 53 bit 未満で、非正規化数を除けば
52 bit 目が立つ。だから 1 以下の正の値の鍵は 1.0 の鍵 `(1, -52, 2^52)` 以下になる。
-/

namespace CrossPool.Binary64

open Float.Model UnpackedFloat

/-! ## 1 以下の値 -/

/-- 有限値 `m * 2^e` が 1 以下であること。指数は 0 以下で、仮数は `2^(-e)` 以下。 -/
def AtMostOne (m : Nat) (e : Int) : Prop := e ≤ 0 ∧ m ≤ 2 ^ (-e).toNat

theorem AtMostOne.mono {m m' : Nat} {e : Int} (h : AtMostOne m e) (hm : m' ≤ m) :
    AtMostOne m' e :=
  ⟨h.1, hm.trans h.2⟩

theorem AtMostOne.log2_le {m : Nat} {e : Int} (h : AtMostOne m e) : (m.log2 : Int) ≤ -e := by
  have he := h.1
  by_cases hm : m = 0
  · subst hm
    have : Nat.log2 0 = 0 := by decide
    omega
  · have hlt : m < 2 ^ ((-e).toNat + 1) :=
      lt_of_le_of_lt h.2 (Nat.pow_lt_pow_right (by decide) (by omega))
    have := (Nat.log2_lt hm).mpr hlt
    omega

theorem AtMostOne.mul {m₁ m₂ : Nat} {e₁ e₂ : Int} (h₁ : AtMostOne m₁ e₁) (h₂ : AtMostOne m₂ e₂) :
    AtMostOne (m₁ * m₂) (e₁ + e₂) := by
  have he₁ := h₁.1
  have he₂ := h₂.1
  refine ⟨by omega, ?_⟩
  have hexp : (-(e₁ + e₂)).toNat = (-e₁).toNat + (-e₂).toNat := by omega
  rw [hexp, Nat.pow_add]
  exact Nat.mul_le_mul h₁.2 h₂.2

theorem AtMostOne.of_subnormal {m : Nat} {e : Int} (h : m < 2 ^ 52) (he : e = -1074) :
    AtMostOne m e := by
  subst he
  exact ⟨by decide, h.le.trans (Nat.pow_le_pow_right (by decide) (by decide))⟩

/-! ## 右シフトと丸め -/

theorem shiftRight_succ (em : ExtendedMantissa) (n : Nat) :
    em >>> (n + 1) = (em >>> n).shiftRightOne := rfl

theorem mantissa_shiftRight (em : ExtendedMantissa) (n : Nat) :
    (em >>> n).mantissa = em.mantissa / 2 ^ n := by
  induction n with
  | zero => exact (Nat.div_one _).symm
  | succ n ih =>
    rw [shiftRight_succ]
    simp only [ExtendedMantissa.shiftRightOne, ih, Nat.div_div_eq_div_mul, Nat.pow_succ]

/-- 落とす bit がすべて 0 なら、正確な仮数はシフトしても正確なまま。 -/
theorem exact_shiftRight (m n : Nat) (h : m % 2 ^ n = 0) :
    (ExtendedMantissa.mk m false false >>> n).roundBit = false ∧
      (ExtendedMantissa.mk m false false >>> n).stickyBit = false := by
  induction n with
  | zero => exact ⟨rfl, rfl⟩
  | succ n ih =>
    have hsplit := (Nat.mod_pow_succ (x := m) (b := 2) (k := n)).symm.trans h
    have hlow : m % 2 ^ n = 0 := by omega
    have hbit : m / 2 ^ n % 2 = 0 := by
      have hpos : 0 < 2 ^ n := Nat.two_pow_pos n
      rcases Nat.mul_eq_zero.mp (show 2 ^ n * (m / 2 ^ n % 2) = 0 by omega) with h0 | h0
      · omega
      · exact h0
    obtain ⟨h1, h2⟩ := ih hlow
    rw [shiftRight_succ]
    simp [ExtendedMantissa.shiftRightOne, mantissa_shiftRight, h1, h2, hbit]

theorem le_roundedMantissa (em : ExtendedMantissa) : em.mantissa ≤ em.roundedMantissa := by
  obtain ⟨m, r, s⟩ := em
  cases r <;> cases s <;>
    simp [ExtendedMantissa.roundedMantissa, ExtendedMantissa.accuracy,
      Accuracy.roundToNearestEven]

theorem roundedMantissa_le (em : ExtendedMantissa) : em.roundedMantissa ≤ em.mantissa + 1 := by
  obtain ⟨m, r, s⟩ := em
  have h2 : m % 2 ≤ 1 := by omega
  cases r <;> cases s <;>
    simp [ExtendedMantissa.roundedMantissa, ExtendedMantissa.accuracy,
      Accuracy.roundToNearestEven, h2]

theorem roundedMantissa_of_exact {em : ExtendedMantissa} (hr : em.roundBit = false)
    (hs : em.stickyBit = false) : em.roundedMantissa = em.mantissa := by
  obtain ⟨m, r, s⟩ := em
  subst hr hs
  rfl

theorem shiftToTargetExponent_exact (m : Nat) (e : Int) :
    shiftToTargetExponent Format.binary64 m e .exact =
      (ExtendedMantissa.mk m false false >>> (max ((m.log2 : Int) + 1 + e - 53) (-1074) - e).toNat,
        e + (max ((m.log2 : Int) + 1 + e - 53) (-1074) - e).toNat) := rfl

/--
目標の指数までのシフトと丸めは、1 以下の値を 1 以下に保つ。シフトしなければ値は
そのまま。シフトすれば指数は目標の指数で 0 以下になり、商は `2^(-指数)` 以下、余りが
あれば真に小さいので、丸めで 1 を足しても `2^(-指数)` を超えない。
-/
theorem atMostOne_shiftToTarget {m : Nat} {e : Int} (h : AtMostOne m e) :
    AtMostOne (shiftToTargetExponent Format.binary64 m e .exact).1.roundedMantissa
      (shiftToTargetExponent Format.binary64 m e .exact).2 := by
  have hlog := h.log2_le
  obtain ⟨he, hm⟩ := h
  rw [shiftToTargetExponent_exact]
  generalize hk : (max ((m.log2 : Int) + 1 + e - 53) (-1074) - e).toNat = k
  dsimp only
  have hq := mantissa_shiftRight (ExtendedMantissa.mk m false false) k
  by_cases hk0 : k = 0
  · subst hk0
    rw [roundedMantissa_of_exact (exact_shiftRight m 0 (Nat.mod_one m)).1
      (exact_shiftRight m 0 (Nat.mod_one m)).2, hq]
    refine ⟨by omega, ?_⟩
    simpa using hm
  · have hek : e + k ≤ 0 := by omega
    have hpow : 2 ^ (-e).toNat = 2 ^ (-(e + k)).toNat * 2 ^ k := by
      rw [← Nat.pow_add]
      congr 1
      omega
    refine ⟨by omega, ?_⟩
    generalize 2 ^ (-(e + k)).toNat = B at hpow ⊢
    have hmB : m ≤ B * 2 ^ k := hpow ▸ hm
    have hdiv : m / 2 ^ k ≤ B := Nat.div_le_of_le_mul (by rw [Nat.mul_comm]; exact hmB)
    by_cases hr : m % 2 ^ k = 0
    · rw [roundedMantissa_of_exact (exact_shiftRight m k hr).1 (exact_shiftRight m k hr).2, hq]
      exact hdiv
    · -- 余りがあれば、切り捨てた商は `B` より真に小さい
      have hlt : m / 2 ^ k < B := by
        have hsum := Nat.div_add_mod m (2 ^ k)
        refine Nat.lt_of_not_le fun hge => ?_
        have := Nat.mul_le_mul_left (2 ^ k) hge
        rw [Nat.mul_comm B] at hmB
        omega
      calc _ ≤ (ExtendedMantissa.mk m false false >>> k).mantissa + 1 := roundedMantissa_le _
        _ = m / 2 ^ k + 1 := by rw [hq]
        _ ≤ B := hlt

/-- 1 以下の正確な値を丸めると、0 か 1 以下の有限値になる。 -/
theorem roundWithAccuracy_atMostOne (s : Sign) {m : Nat} {e : Int} (h : AtMostOne m e) :
    roundWithAccuracy Format.binary64 s m e .exact = .zero s ∨
      ∃ m' e' hm', roundWithAccuracy Format.binary64 s m e .exact = .finite s m' e' hm' ∧
        AtMostOne m' e' := by
  have h₁ := atMostOne_shiftToTarget h
  unfold roundWithAccuracy
  generalize shiftToTargetExponent Format.binary64 m e .exact = p at h₁ ⊢
  obtain ⟨em₁, e₁⟩ := p
  -- 繰り上がりのあとのシフトも、丸めずに 1 以下を保つ
  have h₂ := atMostOne_shiftToTarget h₁
  dsimp only at h₁ h₂ ⊢
  generalize shiftToTargetExponent Format.binary64 em₁.roundedMantissa e₁ .exact = q at h₂ ⊢
  obtain ⟨em₂, e₂⟩ := q
  dsimp only at h₂ ⊢
  split
  next => exact .inl rfl
  next hne => exact .inr ⟨_, _, Nat.pos_of_ne_zero hne, rfl, h₂.mono (le_roundedMantissa em₂)⟩

/-! ## ビット列に詰めて読み直す -/

/-- `[0, 1]` の値の形。0（符号は問わない）か、1 以下の正の有限値。 -/
def UnitShape : UnpackedFloat → Prop
  | .zero _ => True
  | .finite .positive m e _ => AtMostOne m e
  | _ => False

theorem sign_unpack_packComponents (s : Sign) (ex : BitVec 11) (man : BitVec 52) :
    Sign.ofBitVec (unpackSign (packComponents Format.binary64 s ex man)) = s := by
  simp only [unpackSign, packComponents, BitVec.extractLsb]
  rw [BitVec.extractLsb'_append_eq_of_le (by omega), BitVec.extractLsb'_append_eq_of_le (by omega)]
  cases s <;> rfl

theorem exponentBias_binary64 : Format.binary64.exponentBias = 1023 := rfl

/-- 指数部が 0 の正の値は 0 か非正規化数で、1 以下。 -/
theorem unitShape_unpack_subnormal (man : BitVec 52) :
    UnitShape (unpack Format.binary64 (packComponents Format.binary64 .positive 0#11 man)) := by
  unfold UnpackedFloat.unpack
  simp only [unpackMantissa_packComponents, unpackExponent_packComponents,
    sign_unpack_packComponents]
  rw [if_pos trivial]
  by_cases hz : man = 0#52
  · rw [dif_pos hz]
    trivial
  · rw [dif_neg hz]
    exact AtMostOne.of_subnormal man.isLt (by decide)

/-- 1 以下の正の有限値を詰めて読み直すと、0 か 1 以下の正の有限値になる。 -/
theorem unitShape_unpack_pack {m : Nat} {e : Int} (hm : 0 < m) (h : AtMostOne m e) :
    UnitShape (unpack Format.binary64 (pack Format.binary64 (.finite .positive m e hm))) := by
  have he := h.1
  unfold UnpackedFloat.pack
  dsimp only
  split_ifs with hinf hlog
  · rw [exponentBias_binary64] at hinf
    omega
  · have hlog' : m.log2 = 52 := by
      simp only [Format.mantissaBits] at hlog
      omega
    have hm52 : 2 ^ 52 ≤ m := by
      have := Nat.log2_self_le (Nat.pos_iff_ne_zero.mp hm)
      rwa [hlog'] at this
    have hm53 : m < 2 ^ 53 := by
      have := @Nat.lt_log2_self m
      rwa [hlog'] at this
    rw [exponentBias_binary64]
    by_cases hb : (e + ((1023 : Nat) : Int) + ((52 : Nat) : Int)).toNat = 0
    · -- 指数部が 0 になるほど小さければ、非正規化数として読まれる
      rw [hb]
      exact unitShape_unpack_subnormal _
    · have hlt : (e + ((1023 : Nat) : Int) + ((52 : Nat) : Int)).toNat < 2047 := by omega
      have hbits : (BitVec.ofNat 11 (e + ((1023 : Nat) : Int) + ((52 : Nat) : Int)).toNat).toNat =
          (e + ((1023 : Nat) : Int) + ((52 : Nat) : Int)).toNat := by
        rw [BitVec.toNat_ofNat, Nat.mod_eq_of_lt (by omega)]
      unfold UnpackedFloat.unpack
      simp only [unpackMantissa_packComponents, unpackExponent_packComponents,
        sign_unpack_packComponents]
      rw [if_neg, if_neg]
      · show AtMostOne _ _
        have hman : (1#1 ++ BitVec.ofNat 52 m).toNat = m := by
          rw [BitVec.toNat_append, ← Nat.shiftLeft_add_eq_or_of_lt (BitVec.isLt _),
            BitVec.toNat_ofNat, Nat.shiftLeft_eq]
          simp only [BitVec.toNat_ofNat]
          omega
        rw [hman, hbits, exponentBias_binary64]
        have hexp : (((e + ((1023 : Nat) : Int) + ((52 : Nat) : Int)).toNat : Nat) : Int) -
            (((1023 : Nat) : Int) + ((52 : Nat) : Int)) = e := by omega
        rw [hexp]
        exact h
      · intro h0
        have := congrArg BitVec.toNat h0
        rw [hbits] at this
        exact hb this
      · intro h1
        have := congrArg BitVec.toNat h1
        rw [hbits] at this
        simp at this
        omega
  · exact unitShape_unpack_subnormal _

/-- 読み直した有限値は正規化されている。仮数は 53 bit 未満で、非正規化数を除けば 52 bit 目が立つ。 -/
theorem unpack_finite_normalized {b : BitVec Format.binary64.numBits} {s : Sign} {m : Nat}
    {e : Int} {hm : 0 < m} (h : UnpackedFloat.unpack Format.binary64 b = .finite s m e hm) :
    m < 2 ^ 53 ∧ (2 ^ 52 ≤ m ∨ e = -1074) := by
  unfold UnpackedFloat.unpack at h
  dsimp only at h
  split_ifs at h with hinf hnan hsub
  · injection h with _ hm' he'
    subst hm'
    refine ⟨lt_trans (BitVec.isLt _) (by decide), .inr ?_⟩
    rw [← he', hsub]
    decide
  · injection h with _ hm' _
    subst hm'
    rw [BitVec.toNat_append, ← Nat.shiftLeft_add_eq_or_of_lt (BitVec.isLt _), Nat.shiftLeft_eq]
    have := BitVec.isLt (unpackMantissa b)
    simp only [BitVec.toNat_ofNat] at this ⊢
    omega

/-! ## `[0, 1]` の浮動小数点数 -/

/-- 0 以上 1 以下の浮動小数点数。NaN は含まない。 -/
def InUnit (x : Float) : Prop := 0.0 ≤ x ∧ x ≤ 1.0

theorem comparable_zero : Comparable 0.0 := by decide +kernel

theorem comparable_one : Comparable 1.0 := by decide +kernel

theorem key_zero : key 0.0 = toLex (0, toLex (0, 0)) := by decide +kernel

theorem key_one : key 1.0 = toLex (1, toLex (-52, 2 ^ 52)) := by decide +kernel

/-- 正規化された正の有限値が 1 以下であることを、指数と仮数の辞書式順序で言う。 -/
theorem atMostOne_iff {m : Nat} {e : Int} (hm : m < 2 ^ 53) (hn : 2 ^ 52 ≤ m ∨ e = -1074) :
    AtMostOne m e ↔ e < -52 ∨ e = -52 ∧ m ≤ 2 ^ 52 := by
  constructor
  · rintro ⟨he, hle⟩
    rcases hn with hn | rfl
    · -- `2^52 ≤ m ≤ 2^(-e)` なので指数は -52 以下
      have h52 : 52 ≤ (-e).toNat := (Nat.pow_le_pow_iff_right (by decide)).mp (hn.trans hle)
      rcases lt_or_eq_of_le (show e ≤ -52 by omega) with hlt | heq
      · exact .inl hlt
      · subst heq
        exact .inr ⟨rfl, hle⟩
    · exact .inl (by decide)
  · rintro (he | ⟨rfl, hle⟩)
    · refine ⟨by omega, hm.le.trans (Nat.pow_le_pow_right (by decide) (by omega))⟩
    · exact ⟨by decide, hle⟩

theorem orderKey_le_one {u : UnpackedFloat} :
    orderKey u ≤ toLex (1, toLex (-52, 2 ^ 52)) ↔
      match u with
      | .finite .positive m e _ => e < -52 ∨ e = -52 ∧ m ≤ 2 ^ 52
      | .infinity .positive => False
      | _ => True := by
  rcases u with ⟨_ | _⟩ | _ | ⟨_ | _⟩ | ⟨_ | _, m, e, hm⟩ <;>
    simp only [orderKey, Prod.Lex.toLex_le_toLex, Int.reduceNeg, Int.reducePow, Int.reduceLT,
      Int.reduceEq, Int.neg_pos, reduceCtorEq, Int.zero_le_ofNat, Int.neg_lt_neg_iff, Int.neg_inj,
      Int.neg_natCast_le_ofNat, lt_self_iff_false, and_true, and_self, true_and, false_and,
      or_self, or_false, false_or]
  omega

section Shape

variable {u v : UnpackedFloat}

theorem UnitShape.cases (h : UnitShape u) :
    (∃ s, u = .zero s) ∨ ∃ m e hm, u = .finite .positive m e hm ∧ AtMostOne m e := by
  rcases u with ⟨_ | _⟩ | _ | ⟨s⟩ | ⟨_ | _, m, e, hm⟩
  · exact h.elim
  · exact h.elim
  · exact h.elim
  · exact .inl ⟨s, rfl⟩
  · exact h.elim
  · exact .inr ⟨m, e, hm, rfl, h⟩

theorem UnitShape.isNaN (h : UnitShape u) : u.isNaN = false := by
  rcases h.cases with ⟨s, rfl⟩ | ⟨m, e, hm, rfl, -⟩ <;> rfl

theorem UnitShape.zero_le (h : UnitShape u) : toLex (0, toLex (0, 0)) ≤ orderKey u := by
  rcases h.cases with ⟨s, rfl⟩ | ⟨m, e, hm, rfl, -⟩
  · cases s <;> exact le_rfl
  · simp [orderKey, Prod.Lex.toLex_le_toLex]

/-- 正規化された値なら、`[0, 1]` の形の鍵は 1.0 の鍵以下。 -/
theorem UnitShape.le_one (h : UnitShape u)
    (hn : ∀ {s m e hm}, u = .finite s m e hm → m < 2 ^ 53 ∧ (2 ^ 52 ≤ m ∨ e = -1074)) :
    orderKey u ≤ toLex (1, toLex (-52, 2 ^ 52)) := by
  rw [orderKey_le_one]
  rcases h.cases with ⟨s, rfl⟩ | ⟨m, e, hm, rfl, hme⟩
  · cases s <;> trivial
  · exact (atMostOne_iff (hn rfl).1 (hn rfl).2).mp hme

/-- NaN でなく、鍵が 0.0 と 1.0 の間にある正規化された値は `[0, 1]` の形。 -/
theorem unitShape_of_key (hc : u.isNaN = false) (k0 : toLex (0, toLex (0, 0)) ≤ orderKey u)
    (k1 : orderKey u ≤ toLex (1, toLex (-52, 2 ^ 52)))
    (hn : ∀ {s m e hm}, u = .finite s m e hm → m < 2 ^ 53 ∧ (2 ^ 52 ≤ m ∨ e = -1074)) :
    UnitShape u := by
  rw [orderKey_le_one] at k1
  rcases u with ⟨_ | _⟩ | _ | ⟨s⟩ | ⟨_ | _, m, e, hm⟩
  · simp [orderKey, Prod.Lex.toLex_le_toLex] at k0
  · exact k1.elim
  · simp [UnpackedFloat.isNaN] at hc
  · trivial
  · simp [orderKey, Prod.Lex.toLex_le_toLex] at k0
  · exact (atMostOne_iff (hn rfl).1 (hn rfl).2).mpr k1

theorem unpack_pack_zero (s : Sign) :
    UnpackedFloat.unpack Format.binary64 (UnpackedFloat.pack Format.binary64 (.zero s)) = .zero s := by
  cases s <;> rfl

/-- `[0, 1]` の形の値の積を詰めて読み直すと、`[0, 1]` の形。 -/
theorem unitShape_mul (hu : UnitShape u) (hv : UnitShape v) :
    UnitShape (UnpackedFloat.unpack Format.binary64
      (UnpackedFloat.pack Format.binary64 (UnpackedFloat.mul Format.binary64 u v))) := by
  rcases hu.cases with ⟨s, rfl⟩ | ⟨m, e, hm, rfl, hme⟩ <;>
    rcases hv.cases with ⟨s', rfl⟩ | ⟨m', e', hm', rfl, hme'⟩
  · rw [show UnpackedFloat.mul Format.binary64 (.zero s) (.zero s') = .zero (s * s') from rfl,
      unpack_pack_zero]
    trivial
  · rw [show UnpackedFloat.mul Format.binary64 (.zero s) (.finite .positive m' e' hm') =
      .zero (s * .positive) from rfl, unpack_pack_zero]
    trivial
  · rw [show UnpackedFloat.mul Format.binary64 (.finite .positive m e hm) (.zero s') =
      .zero (.positive * s') from rfl, unpack_pack_zero]
    trivial
  · rw [show UnpackedFloat.mul Format.binary64 (.finite .positive m e hm)
        (.finite .positive m' e' hm') =
      roundWithAccuracy Format.binary64 .positive (m * m') (e + e') .exact from rfl]
    rcases roundWithAccuracy_atMostOne .positive (hme.mul hme') with h | ⟨m'', e'', hm'', h, hA⟩
    · rw [h, unpack_pack_zero]
      trivial
    · rw [h]
      exact unitShape_unpack_pack hm'' hA

end Shape

/-- `[0, 1]` の浮動小数点数は、読み直した値の形で言える。 -/
theorem inUnit_iff (x : Float) : InUnit x ↔ UnitShape x.toModel.unpack := by
  have hn : ∀ {s m e hm}, x.toModel.unpack = .finite s m e hm →
      m < 2 ^ 53 ∧ (2 ^ 52 ≤ m ∨ e = -1074) := fun h => unpack_finite_normalized h
  constructor
  · rintro ⟨h0, h1⟩
    have hc : Comparable x := (comparable_of_le h0).2
    have k0 := (le_iff_key comparable_zero hc).mp h0
    have k1 := (le_iff_key hc comparable_one).mp h1
    rw [key_zero] at k0
    rw [key_one] at k1
    exact unitShape_of_key hc k0 k1 hn
  · intro h
    have hc : Comparable x := h.isNaN
    refine ⟨(le_iff_key comparable_zero hc).mpr ?_, (le_iff_key hc comparable_one).mpr ?_⟩
    · rw [key_zero]
      exact h.zero_le
    · rw [key_one]
      exact h.le_one hn

theorem InUnit.comparable {x : Float} (h : InUnit x) : Comparable x := (comparable_of_le h.1).2

/-- `[0, 1]` の浮動小数点数の積は `[0, 1]` に入る。 -/
theorem mul_mem_unit {x y : Float} (hx : InUnit x) (hy : InUnit y) : InUnit (x * y) := by
  rw [inUnit_iff] at hx hy ⊢
  exact unitShape_mul hx hy

theorem inUnit_zero : InUnit 0.0 := ⟨by decide +kernel, by decide +kernel⟩

/-- `[0, 1]` に収めた値は `[0, 1]` に入る。 -/
theorem inUnit_clamp (v : Float) : InUnit (clamp v 0.0 1.0) :=
  clamp_mem comparable_zero comparable_one (by decide +kernel)

end CrossPool.Binary64
