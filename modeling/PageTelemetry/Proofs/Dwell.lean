import PageTelemetry.Clock
import PageTelemetry.Proofs.Binary64

/-! The seconds on a page, computed in doubles, are the rounded milliseconds: within the reported range
the two roundings of the computation never cross a half second. -/
namespace PageTelemetry
open Binary64

namespace Binary64

lemma ofNat_thousand : ofNat 1000 = .finite false 8796093022208000 (-43) := rfl

/-- Whole milliseconds as a double: exact up to 53 bits, and off by one part in `2 ^ 53` above. -/
lemma ofInt_natCast_error {n : ℕ} (hn : 0 < n) (hb : n < 2^63) :
    ∃ m e, ofInt n = .finite false m e ∧ |(m : ℚ)*2^e - n| ≤ (n : ℚ)/2^53 ∧
      (n < 2^53 → (m : ℚ)*2^e = n) := by
  have h1 : (1 : ℚ) ≤ n := by exact_mod_cast hn
  have hb' : (n : ℚ) < 2^63 := by exact_mod_cast hb
  have hm : Moderate n 1 := by
    apply moderate_of_bounds hn one_pos
    · have : (2 : ℚ)^(-100 : ℤ) ≤ 1 := by norm_num
      simpa using this.trans h1
    · have : (2 : ℚ)^63 ≤ 2^(100 : ℤ) := by norm_num
      simpa using hb'.le.trans this
  have hdef : ofInt n = ofRatio false n 1 := by simp [ofInt,show ¬(n : ℤ) < 0 by omega]
  rw [hdef]
  by_cases hs : n < 2^53
  · obtain ⟨m,e,hfin,hval⟩ := ofRatio_exact false (c := n) (k := 0) hn one_pos hm hs (by simp)
    simp only [Nat.cast_one,div_one] at hval
    exact ⟨m,e,hfin,by rw [hval,sub_self,abs_zero]; positivity,fun _ => hval⟩
  · obtain ⟨m,e,hfin,herr⟩ := ofRatio_error false hn one_pos hm
    exact ⟨m,e,hfin,by simpa using herr,fun h => absurd h hs⟩

/-- A thousandth of a positive double is a ratio of positive numbers. -/
lemma div_thousand {m : ℕ} {e : ℤ} (hm : 0 < (m : ℚ)*2^e) :
    ∃ a b : ℕ, 0 < a ∧ 0 < b ∧ (Binary64.finite false m e).div (ofNat 1000) = ofRatio false a b ∧
      (a : ℚ)/b = m*2^e/1000 := by
  have hb := ratio_denominator_pos m e
  have hv := ratio_value m e
  have hb' : (0 : ℚ) < (ratio m e).2 := by exact_mod_cast hb
  have ha : 0 < (ratio m e).1 := by
    rw [← hv] at hm
    exact_mod_cast (div_pos_iff_of_pos_right hb').mp hm
  have hr : ratio 8796093022208000 (-43) = (8796093022208000,8796093022208) := by decide
  refine ⟨(ratio m e).1*8796093022208,(ratio m e).2*8796093022208000,by omega,by omega,?_,?_⟩
  · simp [ofNat_thousand,div,hr]
  · rw [← hv]
    push_cast
    field_simp
    norm_num

/-- Up to an hour, a thousandth of whole milliseconds rounds to `j` or more exactly when the
milliseconds are at most five hundred short of `j` seconds. -/
theorem round_div_thousand {n : ℕ} (hn : 0 < n) (hb : n < 2^63) :
    ∃ k : ℕ, ((ofInt n).div (ofNat 1000)).round? = some (k : ℤ) ∧
      ∀ j : ℕ, j ≤ 3600 → (j ≤ k ↔ 1000*j ≤ n+500) := by
  have hn' : (1 : ℚ) ≤ n := by exact_mod_cast hn
  have hb' : (n : ℚ) < 2^63 := by exact_mod_cast hb
  obtain ⟨m,e,hfin,herr,hexact⟩ := ofInt_natCast_error hn hb
  obtain ⟨herrl,herru⟩ := abs_le.mp herr
  norm_num at herrl herru hb'
  obtain ⟨a,b,ha,hbp,hdiv,hv⟩ := div_thousand (m := m) (e := e) (by linarith)
  have hm : Moderate a b := by
    apply moderate_of_bounds ha hbp
    · rw [hv]
      have : (2 : ℚ)^(-100 : ℤ) ≤ 1/10000 := by norm_num
      linarith
    · rw [hv]
      have : (2 : ℚ)^64 ≤ 2^(100 : ℤ) := by norm_num
      have hx : (n : ℚ) < 9223372036854775808 := by exact_mod_cast hb'
      norm_num at this ⊢
      linarith
  obtain ⟨m',e',hfin',herr'⟩ := ofRatio_error false ha hbp hm
  rw [hv] at herr'
  obtain ⟨herrl',herru'⟩ := abs_le.mp herr'
  norm_num at herrl' herru'
  refine ⟨divAway (ratio m' e').1 (ratio m' e').2,by rw [hfin,hdiv,hfin']; rfl,?_⟩
  intro j hj
  have hj' : (j : ℚ) ≤ 3600 := by exact_mod_cast hj
  rw [le_divAway_iff _ _ (ratio_denominator_pos m' e'),ratio_value]
  -- a tie is a whole number of half seconds, which a double holds exactly
  rcases lt_trichotomy (1000*j) (n+500) with h | h | h
  · have h' : (1000 : ℚ)*j+1 ≤ n+500 := by exact_mod_cast h
    exact ⟨fun _ => h.le,fun _ => by linarith⟩
  · have h' : (1000 : ℚ)*j = n+500 := by exact_mod_cast h
    have hx : (m : ℚ)*2^e = n := hexact (by omega)
    have hhalf : (a : ℚ)/b = ((2*j-1 : ℕ) : ℚ)*2^(-1 : ℤ) := by
      rw [hv,hx,Nat.cast_sub (by omega)]
      push_cast
      norm_num
      linarith
    obtain ⟨m₂,e₂,hfin₂,hval₂⟩ := ofRatio_exact false ha hbp hm (by omega) hhalf
    obtain ⟨-,rfl,rfl⟩ := Binary64.finite.inj (hfin'.symm.trans hfin₂)
    rw [hval₂,hv,hx]
    exact ⟨fun _ => h.le,fun _ => by linarith⟩
  · have h' : (n : ℚ)+500+1 ≤ 1000*j := by exact_mod_cast h
    exact ⟨fun hle => by linarith,fun hle => by omega⟩

/-- Rounding keeps the sign, also where it overflows. -/
lemma ofRatio_sign (s : Bool) (n d : ℕ) :
    ofRatio s n d = .infinity s ∨ ∃ m e, ofRatio s n d = .finite s m e := by
  have hm (m : ℕ) (e : ℤ) : ofMantissa s m e = .infinity s ∨ ∃ m' e', ofMantissa s m e = .finite s m' e' := by
    by_cases h : m = leastOverflow <;> simp only [ofMantissa,h,if_true,if_false] <;> split_ifs <;> simp
  by_cases h : n = 0
  · exact .inr ⟨0,leastExponent,by simp [ofRatio,h]⟩
  · simpa [ofRatio,h] using hm _ _

lemma round_negative {x : Binary64} {k : ℤ} (hx : x = .infinity true ∨ ∃ m e, x = .finite true m e)
    (h : x.round? = some k) : k ≤ 0 := by
  obtain rfl | ⟨m,e,rfl⟩ := hx
  · simp [round?] at h
  · simp only [round?,if_true,Option.some.injEq] at h
    omega

/-- A negative number of milliseconds gives no positive number of seconds. -/
theorem round_div_thousand_negative {x k : ℤ} (hx : x < 0)
    (h : ((ofInt x).div (ofNat 1000)).round? = some k) : k ≤ 0 := by
  apply round_negative _ h
  have hdef : ofInt x = ofRatio true x.natAbs 1 := by simp [ofInt,hx]
  rw [hdef,ofNat_thousand]
  obtain hs | ⟨m,e,hs⟩ := ofRatio_sign true x.natAbs 1
  · exact .inl (by simp [hs,div])
  · have hd : (Binary64.finite true m e).div (.finite false 8796093022208000 (-43)) =
        ofRatio true ((ratio m e).1*(ratio 8796093022208000 (-43)).2)
          ((ratio m e).2*(ratio 8796093022208000 (-43)).1) := by simp [div]
    rw [hs,hd]
    exact ofRatio_sign _ _ _

end Binary64

namespace DwellClock

/-- The reported seconds are the time since the start rounded to the nearest second, halves upwards,
wherever that lies strictly between zero and an hour. The clamping of the difference to 64 bits and
the doubles do not show. -/
theorem leaveDuration_started (start now : ℤ) :
    (⟨some start⟩ : DwellClock).leaveDuration now =
      if 0 < (now-start+500)/1000 ∧ (now-start+500)/1000 < 3600 then some ((now-start+500)/1000).toNat
      else none := by
  have hl : (limit : ℤ) = 3600 := rfl
  simp only [leaveDuration,seconds?]
  obtain hneg | hzero | hpos := lt_trichotomy (clampInt64 (now-start)) 0
  · have hlt : now-start < 0 := by simp only [clampInt64] at hneg; omega
    rw [if_neg (by omega)]
    cases hr : ((ofInt (clampInt64 (now-start))).div (ofNat 1000)).round? with
    | none => rfl
    | some k =>
      have hk := round_div_thousand_negative hneg hr
      exact if_neg (by omega)
  · have heq : now-start = 0 := by simp only [clampInt64] at hzero; omega
    rw [hzero,heq]
    rfl
  · obtain ⟨n,hn⟩ := Int.eq_ofNat_of_zero_le hpos.le
    obtain ⟨k,hr,hk⟩ := round_div_thousand (n := n) (by omega) (by simp only [clampInt64] at hn; omega)
    rw [hn,hr]
    dsimp only
    have hclamp : (n : ℤ) = now-start ∨ 3600000 < n ∧ 3600000 < now-start := by
      simp only [clampInt64] at hn
      omega
    have h1 := hk 1 (by omega)
    have h3600 := hk 3600 (by omega)
    have hself (h : k ≤ 3600) : 1000*k ≤ n+500 := (hk k h).mp le_rfl
    have hnext (h : k < 3600) : n+500 < 1000*(k+1) := by
      have := hk (k+1) h
      omega
    by_cases hin : 0 < (now-start+500)/1000 ∧ (now-start+500)/1000 < 3600
    · rw [if_pos hin,if_pos (by omega)]
      congr 1
      omega
    · rw [if_neg hin,if_neg (by omega)]

/-- So many seconds are reported of the times that round to them. -/
lemma leaveDuration_eq_some_iff {start now : ℤ} {d : ℕ} : (⟨some start⟩ : DwellClock).leaveDuration now = some d ↔
    0 < d ∧ d < 3600 ∧ 1000*(d : ℤ)-500 ≤ now-start ∧ now-start < 1000*d+500 := by
  rw [leaveDuration_started]
  split_ifs with hin
  · rw [Option.some.injEq]
    omega
  · simp only [false_iff]
    omega

/-- None are reported before half a second has passed, nor when half a second is missing to an hour. -/
lemma leaveDuration_eq_none_iff {start now : ℤ} : (⟨some start⟩ : DwellClock).leaveDuration now = none ↔
    now-start < 500 ∨ 3599500 ≤ now-start := by
  rw [leaveDuration_started]
  split_ifs with hin
  · simp only [false_iff]
    omega
  · simp only [true_iff]
    omega

/-- A clock that was started reports exactly the whole seconds that are nearest to the time since then, a half going
up, where these are at least one and less than an hour. That the difference is clamped to 64 bits and taken through
doubles never shows, whatever the two readings are. A clock that was not started reports nothing. -/
theorem leaveDuration_reset_iff :
    (∀ (c : DwellClock) (start now : ℤ),
      (∀ d : ℕ, (c.reset start).leaveDuration now = some d ↔
        0 < d ∧ d < 3600 ∧ 1000*(d : ℤ)-500 ≤ now-start ∧ now-start < 1000*d+500) ∧
      ((c.reset start).leaveDuration now = none ↔ now-start < 500 ∨ 3599500 ≤ now-start)) ∧
    ∀ now : ℤ, ({} : DwellClock).leaveDuration now = none :=
  ⟨fun _ _ _ => ⟨fun _ => leaveDuration_eq_some_iff,leaveDuration_eq_none_iff⟩,fun _ => rfl⟩

end DwellClock
end PageTelemetry
