import Mathlib.Tactic
import PageTelemetry.Binary64

/-! Rounding to binary64 in exact arithmetic: a ratio that is neither tiny nor huge is rounded with a
relative error of at most `2 ^ (-53)`, and a ratio that has a mantissa of 53 bits is not changed. -/
namespace PageTelemetry.Binary64

lemma unscale_denominator_pos (n : ℕ) {d : ℕ} (hd : 0 < d) (e : ℤ) : 0 < (unscale n d e).2 := by
  unfold unscale
  split_ifs
  · simpa [Nat.shiftLeft_eq] using hd
  · exact hd

lemma unscale_value (n : ℕ) {d : ℕ} (hd : 0 < d) (e : ℤ) :
    ((unscale n d e).1 : ℚ)/(unscale n d e).2 = (n : ℚ)/d/2^e := by
  have hd' : (d : ℚ) ≠ 0 := by exact_mod_cast hd.ne'
  unfold unscale
  split_ifs with he
  · obtain ⟨k,rfl⟩ := Int.eq_ofNat_of_zero_le he
    simp [Nat.shiftLeft_eq,div_div]
  · obtain ⟨k,hk⟩ := Int.eq_ofNat_of_zero_le (a := -e) (by omega)
    obtain rfl : e = -(k : ℤ) := by omega
    simp only [Nat.shiftLeft_eq,neg_neg,Int.toNat_natCast,zpow_neg,zpow_natCast]
    push_cast
    field_simp

lemma ratio_denominator_pos (m : ℕ) (e : ℤ) : 0 < (ratio m e).2 := by
  unfold ratio
  split_ifs <;> simp [Nat.shiftLeft_eq]

/-- The ratio of a magnitude has the value of the magnitude. -/
lemma ratio_value (m : ℕ) (e : ℤ) : ((ratio m e).1 : ℚ)/(ratio m e).2 = m*2^e := by
  unfold ratio
  split_ifs with he
  · obtain ⟨k,rfl⟩ := Int.eq_ofNat_of_zero_le he
    simp [Nat.shiftLeft_eq]
  · obtain ⟨k,hk⟩ := Int.eq_ofNat_of_zero_le (a := -e) (by omega)
    obtain rfl : e = -(k : ℤ) := by omega
    simp [Nat.shiftLeft_eq,div_eq_mul_inv]

lemma divEven_error (n : ℕ) {d : ℕ} (hd : 0 < d) : |(divEven n d : ℚ) - (n : ℚ)/d| ≤ 1/2 := by
  have hd' : (0 : ℚ) < d := by exact_mod_cast hd
  have hn : (d : ℚ)*(n/d : ℕ) + (n%d : ℕ) = n := by exact_mod_cast Nat.div_add_mod n d
  have hr : n%d < d := Nat.mod_lt n hd
  have hv : (n : ℚ)/d = (n/d : ℕ) + (n%d : ℕ)/d := by
    rw [← hn]
    field_simp
  have hb : ∀ q : ℕ, q ≤ 1 → (q = 0 → 2*(n%d) ≤ d) → (q = 1 → d ≤ 2*(n%d)) →
      |((n/d+q : ℕ) : ℚ) - (n : ℚ)/d| ≤ 1/2 := by
    intro q hq h0 h1
    have hr' : ((n%d : ℕ) : ℚ) < d := by exact_mod_cast hr
    rw [hv,abs_le]
    push_cast
    obtain rfl | rfl : q = 0 ∨ q = 1 := by omega
    · have h : (2 : ℚ)*(n%d : ℕ) ≤ d := by exact_mod_cast h0 rfl
      have hu : ((n%d : ℕ) : ℚ)/d ≤ 1/2 := by rw [div_le_iff₀ hd']; linarith
      have hl : (0 : ℚ) ≤ ((n%d : ℕ) : ℚ)/d := by positivity
      constructor <;> push_cast <;> linarith
    · have h : (d : ℚ) ≤ 2*(n%d : ℕ) := by exact_mod_cast h1 rfl
      have hu : ((n%d : ℕ) : ℚ)/d ≤ 1 := by rw [div_le_one hd']; exact hr'.le
      have hl : (1/2 : ℚ) ≤ ((n%d : ℕ) : ℚ)/d := by rw [le_div_iff₀ hd']; linarith
      constructor <;> push_cast <;> linarith
  unfold divEven
  dsimp only
  split_ifs with hlow hhigh
  · exact hb 0 (by omega) (by omega) (by omega)
  · exact hb 1 (by omega) (by omega) (by omega)
  · exact hb (n/d%2) (by omega) (by omega) (by omega)

/-- What divides is not rounded. -/
lemma divEven_mul (q : ℕ) {d : ℕ} (hd : 0 < d) : divEven (q*d) d = q := by
  simp [divEven,Nat.mul_div_cancel _ hd,hd]

lemma log2_bounds {n : ℕ} (hn : 0 < n) : (2 : ℚ)^(n.log2 : ℤ) ≤ n ∧ (n : ℚ) < 2^((n.log2 : ℤ)+1) := by
  constructor
  · rw [zpow_natCast]
    exact_mod_cast Nat.log2_self_le hn.ne'
  · have h : n < 2^(n.log2+1) := Nat.lt_log2_self
    exact_mod_cast h

/-- A ratio lies within a factor of two of the power that the logarithms of its parts give. -/
lemma ratio_bounds {n d : ℕ} (hn : 0 < n) (hd : 0 < d) :
    (2 : ℚ)^((n.log2 : ℤ)-d.log2-1) < (n : ℚ)/d ∧ (n : ℚ)/d < 2^((n.log2 : ℤ)-d.log2+1) := by
  have hd' : (0 : ℚ) < d := by exact_mod_cast hd
  obtain ⟨hnl,hnu⟩ := log2_bounds hn
  obtain ⟨hdl,hdu⟩ := log2_bounds hd
  constructor
  · rw [lt_div_iff₀ hd']
    calc (2 : ℚ)^((n.log2 : ℤ)-d.log2-1)*d
        < 2^((n.log2 : ℤ)-d.log2-1)*2^((d.log2 : ℤ)+1) := by gcongr
      _ = 2^(n.log2 : ℤ) := by rw [← zpow_add₀ two_ne_zero]; congr 1; ring
      _ ≤ n := hnl
  · rw [div_lt_iff₀ hd']
    calc (n : ℚ) < 2^((n.log2 : ℤ)+1) := hnu
      _ = 2^((n.log2 : ℤ)-d.log2+1)*2^(d.log2 : ℤ) := by rw [← zpow_add₀ two_ne_zero]; congr 1; ring
      _ ≤ 2^((n.log2 : ℤ)-d.log2+1)*d := by gcongr

/-- A ratio that is far from both ends of the exponents. -/
def Moderate (n d : ℕ) : Prop := -900 ≤ (n.log2 : ℤ)-d.log2 ∧ (n.log2 : ℤ)-d.log2 ≤ 900

lemma moderate_of_bounds {n d : ℕ} (hn : 0 < n) (hd : 0 < d) (hl : (2 : ℚ)^(-100 : ℤ) ≤ (n : ℚ)/d)
    (hu : (n : ℚ)/d ≤ 2^(100 : ℤ)) : Moderate n d := by
  obtain ⟨hnl,hnu⟩ := ratio_bounds hn hd
  have h1 := (zpow_lt_zpow_iff_right₀ (by norm_num : (1 : ℚ) < 2)).mp (hl.trans_lt hnu)
  have h2 := (zpow_lt_zpow_iff_right₀ (by norm_num : (1 : ℚ) < 2)).mp (hnl.trans_le hu)
  unfold Moderate
  omega

/-- The fitting exponent leaves exactly 53 bits before the point. -/
lemma fittingExponent_bounds {n d : ℕ} (hn : 0 < n) (hd : 0 < d) (hm : Moderate n d) :
    fittingExponent n d ≤ 900 ∧ 2^52 ≤ (n : ℚ)/d/2^fittingExponent n d ∧
      (n : ℚ)/d/2^fittingExponent n d < 2^53 := by
  obtain ⟨hl,hu⟩ := ratio_bounds hn hd
  have hg : max ((n.log2 : ℤ)-d.log2-53) leastExponent = (n.log2 : ℤ)-d.log2-53 := by
    have h := hm.1
    simp only [leastExponent]
    omega
  have hpos (e : ℤ) : (0 : ℚ) < 2^e := by positivity
  have hsplit (a b : ℤ) : (2 : ℚ)^(a+b) = 2^a*2^b := zpow_add₀ two_ne_zero a b
  have hfloor : leastOverflow ≤ (unscale n d ((n.log2 : ℤ)-d.log2-53)).1 /
      (unscale n d ((n.log2 : ℤ)-d.log2-53)).2 ↔ 2^53 ≤ (n : ℚ)/d/2^((n.log2 : ℤ)-d.log2-53) := by
    have hq := unscale_denominator_pos n hd ((n.log2 : ℤ)-d.log2-53)
    rw [← unscale_value n hd,Nat.le_div_iff_mul_le hq,le_div_iff₀ (by exact_mod_cast hq)]
    norm_cast
  have h900 := hm.2
  unfold fittingExponent
  simp only [hg,hfloor]
  split_ifs with hbig
  · refine ⟨by omega,?_,?_⟩
    · rw [hsplit _ 1,← div_div,le_div_iff₀ (by norm_num)]
      norm_num at hbig ⊢
      linarith
    · rw [div_lt_iff₀ (hpos _)]
      calc (n : ℚ)/d < 2^((n.log2 : ℤ)-d.log2+1) := hu
        _ = 2^(53 : ℤ)*2^((n.log2 : ℤ)-d.log2-53+1) := by rw [← hsplit]; congr 1; ring
  · refine ⟨by omega,?_,lt_of_not_ge hbig⟩
    rw [le_div_iff₀ (hpos _)]
    calc (2 : ℚ)^(52 : ℤ)*2^((n.log2 : ℤ)-d.log2-53) = 2^((n.log2 : ℤ)-d.log2-1) := by
          rw [← hsplit]; congr 1; ring
      _ ≤ (n : ℚ)/d := hl.le

/-- A mantissa with a bit too many gives the same magnitude with the next exponent. -/
lemma ofMantissa_value (s : Bool) (m : ℕ) {e : ℤ} (he : e ≤ 900) :
    ∃ m' e', ofMantissa s m e = .finite s m' e' ∧ (m' : ℚ)*2^e' = m*2^e := by
  by_cases h : m = leastOverflow
  · have hfin : ¬greatestExponent < e+1 := by simp only [greatestExponent]; omega
    refine ⟨leastNormal,e+1,by simp [ofMantissa,h,hfin],?_⟩
    rw [h,zpow_add₀ two_ne_zero]
    norm_num [leastNormal,leastOverflow]
    ring
  · have hfin : ¬greatestExponent < e := by simp only [greatestExponent]; omega
    exact ⟨m,e,by simp [ofMantissa,h,hfin],rfl⟩

/-- Rounding a ratio changes it by no more than one part in `2 ^ 53`. -/
theorem ofRatio_error (s : Bool) {n d : ℕ} (hn : 0 < n) (hd : 0 < d) (hm : Moderate n d) :
    ∃ m e, ofRatio s n d = .finite s m e ∧ |(m : ℚ)*2^e - (n : ℚ)/d| ≤ (n : ℚ)/d/2^53 := by
  obtain ⟨he,hl,hu⟩ := fittingExponent_bounds hn hd hm
  set f := fittingExponent n d with hf
  have hq := unscale_denominator_pos n hd f
  have herr := divEven_error (unscale n d f).1 hq
  rw [unscale_value n hd] at herr
  have hpos : (0 : ℚ) < 2^f := by positivity
  obtain ⟨m,e,hfin,hval⟩ := ofMantissa_value s _ he
  refine ⟨m,e,?_,?_⟩
  · simpa [ofRatio,hn.ne',← hf] using hfin
  · have hscaled : (n : ℚ)/d = (n : ℚ)/d/2^f*2^f := by field_simp
    rw [hval,hscaled,← sub_mul,abs_mul,abs_of_pos hpos,mul_div_right_comm]
    gcongr
    norm_num at hl ⊢
    linarith

/-- A ratio with a mantissa of 53 bits is kept exactly. -/
theorem ofRatio_exact (s : Bool) {n d c : ℕ} {k : ℤ} (hn : 0 < n) (hd : 0 < d) (hm : Moderate n d)
    (hc : c < 2^53) (hv : (n : ℚ)/d = c*2^k) :
    ∃ m e, ofRatio s n d = .finite s m e ∧ (m : ℚ)*2^e = (n : ℚ)/d := by
  obtain ⟨he,hl,hu⟩ := fittingExponent_bounds hn hd hm
  set f := fittingExponent n d with hf
  have hq := unscale_denominator_pos n hd f
  have hpos : (0 : ℚ) < 2^f := by positivity
  have hfk : f ≤ k := by
    by_contra hlt
    have hk : (2 : ℚ)^k ≤ 2^(f-1) := zpow_le_zpow_right₀ (by norm_num) (by omega)
    have hc' : (c : ℚ) < 2^53 := by exact_mod_cast hc
    have h : (n : ℚ)/d/2^f < 2^52 := by
      rw [div_lt_iff₀ hpos,hv]
      calc (c : ℚ)*2^k ≤ c*2^(f-1) := by gcongr
        _ < 2^53*2^(f-1) := by gcongr
        _ = 2^52*2^f := by rw [zpow_sub₀ two_ne_zero]; ring
    linarith
  obtain ⟨j,hj⟩ := Int.eq_ofNat_of_zero_le (a := k-f) (by omega)
  have hmul : (unscale n d f).1 = c*2^j*(unscale n d f).2 := by
    have h : ((unscale n d f).1 : ℚ)/(unscale n d f).2 = ((c*2^j : ℕ) : ℚ) := by
      rw [unscale_value n hd,hv,div_eq_iff hpos.ne']
      push_cast
      rw [← zpow_natCast (2 : ℚ) j,← hj,mul_assoc,← zpow_add₀ two_ne_zero]
      congr 2
      ring
    rw [div_eq_iff (by exact_mod_cast hq.ne')] at h
    exact_mod_cast h
  have hdiv : divEven (unscale n d f).1 (unscale n d f).2 = c*2^j := by
    rw [hmul]
    exact divEven_mul _ hq
  have hexact : ((c*2^j : ℕ) : ℚ) = (n : ℚ)/d/2^f := by
    rw [← unscale_value n hd,hmul]
    push_cast
    have : ((unscale n d f).2 : ℚ) ≠ 0 := by exact_mod_cast hq.ne'
    field_simp
  obtain ⟨m,e,hfin,hval⟩ := ofMantissa_value s _ he
  refine ⟨m,e,?_,?_⟩
  · simpa [ofRatio,hn.ne',← hf,hdiv] using hfin
  · rw [hval,hexact]
    field_simp

/-- Rounding away from zero reaches a whole number exactly when it is at most half below it. -/
lemma le_divAway_iff (k a : ℕ) {b : ℕ} (hb : 0 < b) : k ≤ divAway a b ↔ (k : ℚ)-1/2 ≤ (a : ℚ)/b := by
  have hb' : (0 : ℚ) < b := by exact_mod_cast hb
  rw [divAway,Nat.le_div_iff_mul_le (by omega),le_div_iff₀ hb']
  constructor
  · intro h
    have h' : (k : ℚ)*(2*b) ≤ 2*a+b := by exact_mod_cast h
    linarith
  · intro h
    have h' : (k : ℚ)*(2*b) ≤ 2*a+b := by linarith
    exact_mod_cast h'

/-! Finite numbers as rationals. -/

/-- The value of a finite number. -/
def value? : Binary64 → Option ℚ
  | .finite s m e => some ((if s then -1 else 1)*(m*2^e))
  | .infinity _ | .nan => none

lemma isNonneg_iff {x : Binary64} {q : ℚ} (hx : x.value? = some q) : x.isNonneg = true ↔ 0 ≤ q := by
  cases x with
  | finite s m e =>
    obtain rfl := Option.some.inj hx
    have hpos : (0 : ℚ) < 2^e := by positivity
    cases s with
    | false => simp [isNonneg]; positivity
    | true =>
      have hm : m = 0 ↔ (m : ℚ)*2^e ≤ 0 := by
        constructor
        · rintro rfl
          simp
        · intro h
          have h' : (m : ℚ) ≤ 0 := nonpos_of_mul_nonpos_left h hpos
          exact_mod_cast le_antisymm h' (Nat.cast_nonneg m)
      simp [isNonneg,hm]
  | infinity | nan => cases hx

/-- A number that is not negative is rounded to the nearest integer, and a half goes up. -/
theorem round?_eq {x : Binary64} {q : ℚ} (hx : x.value? = some q) (hq : 0 ≤ q) :
    ∃ i, x.round? = some i ∧ i.toNat = ⌊q+1/2⌋₊ := by
  have hnonneg := (isNonneg_iff hx).mpr hq
  cases x with
  | finite s m e =>
    obtain rfl := Option.some.inj hx
    refine ⟨_,rfl,?_⟩
    cases s with
    | false =>
      change (divAway (ratio m e).1 (ratio m e).2) = _
      refine eq_of_forall_le_iff fun k => ?_
      rw [le_divAway_iff k _ (ratio_denominator_pos m e),ratio_value,Nat.le_floor_iff (by linarith)]
      constructor <;> intro h <;> simp at h ⊢ <;> linarith
    | true =>
      -- Only a zero has a sign and is not negative.
      obtain rfl : m = 0 := by simpa [isNonneg] using hnonneg
      have hhalf : ⌊(1/2 : ℚ)⌋₊ = 0 := Nat.floor_eq_zero.mpr (by norm_num)
      simp only [if_true,Nat.cast_zero,zero_mul,mul_zero,zero_add,hhalf]
      omega
  | infinity | nan => cases hx

lemma round?_eq_none {x : Binary64} (hx : x.value? = none) : x.round? = none := by
  cases x with
  | finite => cases hx
  | infinity | nan => rfl

lemma divEven_pos {a b : ℕ} (hb : 0 < b) (h : b ≤ a) : 0 < divEven a b := by
  have hq : 0 < a/b := Nat.div_pos h hb
  unfold divEven
  dsimp only
  split_ifs <;> omega

/-- No integer is rounded to zero. -/
lemma unscale_fitting {n : ℕ} (hn : 0 < n) :
    (unscale n 1 (fittingExponent n 1)).2 ≤ (unscale n 1 (fittingExponent n 1)).1 := by
  have he : fittingExponent n 1 ≤ n.log2 := by
    have hone : Nat.log2 1 = 0 := by decide
    unfold fittingExponent
    simp only [hone,leastExponent]
    split_ifs <;> omega
  unfold unscale
  split_ifs with hnonneg
  · calc 1 <<< (fittingExponent n 1).toNat = 2^(fittingExponent n 1).toNat := Nat.one_shiftLeft _
      _ ≤ 2^n.log2 := Nat.pow_le_pow_right two_pos (by omega)
      _ ≤ n := Nat.log2_self_le hn.ne'
  · rw [Nat.shiftLeft_eq]
    exact Nat.mul_pos hn (by positivity)

lemma isNonneg_ofMantissa {m : ℕ} (hm : 0 < m) (e : ℤ) : (ofMantissa true m e).isNonneg = false := by
  unfold ofMantissa
  dsimp only
  split_ifs with hoverflow
  · rfl
  · rfl
  · rfl
  · simpa [isNonneg] using hm.ne'

/-- The double of a negative integer is negative. -/
lemma isNonneg_ofInt {i : ℤ} (hi : i < 0) : (ofInt i).isNonneg = false := by
  have hn : 0 < i.natAbs := by omega
  rw [ofInt,ofRatio,if_neg hn.ne',decide_eq_true hi]
  exact isNonneg_ofMantissa (divEven_pos (unscale_denominator_pos _ one_pos _) (unscale_fitting hn)) _

end PageTelemetry.Binary64
