import Mathlib

/-!
# The loss rate of a bandwidth report

`onSenderBandwidthEstimationHandler` computes the percentage of the packets that were lost in 32-bit
arithmetic, and suggests a bitrate by it.  The subtraction wraps where more packets were received
than sent, the multiplication by 100 where many are lost, and nothing was sent is not told apart
from the rest.

    (tx - rx) * 100 / tx          the code
    100 * max (tx - rx) 0 / tx    over the integers        (lossRate)

    lossRate_exact_iff    the two agree where nothing wraps, or where the quotient is 0 all the same
-/

namespace WebrtcApp.Bandwidth

/-! ## The code -/

/-- `FLOAT` arithmetic: an operation gives the exact result, rounded.  Rounding is monotone, and
keeps the integers that have 24 bits. -/
structure FloatRounding where
  round : ℚ → ℚ
  monotone : Monotone round
  round_natCast : ∀ n : Nat, n ≤ 2 ^ 24 → round n = n

/-- Exact arithmetic. -/
def FloatRounding.exact : FloatRounding := ⟨id, monotone_id, fun _ _ => rfl⟩

/-- The conversion of a `FLOAT` to `UINT32` cuts off the fraction; outside of the range of `UINT32`
it is not defined. -/
def truncate (x : ℚ) : Option UInt32 :=
  let n := x.num.tdiv x.den
  if 0 ≤ n ∧ n < UInt32.size then some (UInt32.ofNat n.toNat) else none

structure Estimation where
  percentLost : UInt32
  factor : ℚ
  bitrate : Option UInt32
  deriving DecidableEq

/-- `1.0f - percentLost / 100.0f`. -/
def decreaseFactor (r : FloatRounding) (percentLost : UInt32) : ℚ :=
  r.round (1 - r.round (r.round percentLost.toNat / 100))

/-- `none` is the division by zero. -/
def onSenderBandwidthEstimationHandler (r : FloatRounding) (txPacketsCnt rxPacketsCnt : UInt32) :
    Option Estimation :=
  let lostPacketsCnt := txPacketsCnt - rxPacketsCnt
  if txPacketsCnt = 0 then none
  else
    let percentLost := lostPacketsCnt * 100 / txPacketsCnt
    let bitrate : UInt32 := 1024
    if percentLost < 2 then
      let factor := r.round 1.02
      some ⟨percentLost, factor, truncate (r.round (bitrate.toNat * factor))⟩
    else if 5 < percentLost then
      let factor := decreaseFactor r percentLost
      some ⟨percentLost, factor, truncate (r.round (bitrate.toNat * factor))⟩
    else some ⟨percentLost, 1, some bitrate⟩

/-! ## The specification -/

/-- The percentage over the integers; it is `0` where nothing was sent. -/
def lossRate (tx rx : UInt32) : Int := 100 * max ((tx.toNat : Int) - rx.toNat) 0 / tx.toNat

/-- The report is evaluated, with the percentage of the integers, and the bitrate is not multiplied
by a negative factor. -/
def Evaluated (r : FloatRounding) (tx rx : UInt32) : Prop :=
  ∃ e, onSenderBandwidthEstimationHandler r tx rx = some e ∧
    (e.percentLost.toNat : Int) = lossRate tx rx ∧ e.percentLost.toNat ≤ 100 ∧ 0 ≤ e.factor

/-- Packets were sent; and no more of them were received, and 100 times the lost ones have 32 bits;
or more were received, and 100 times the difference is, in 32 bits, less than what was sent. -/
def FitsWord (tx rx : UInt32) : Prop :=
  tx ≠ 0 ∧ (rx ≤ tx ∧ 100 * (tx.toNat - rx.toNat) < UInt32.size ∨
    tx < rx ∧ 100 * ((tx.toNat : Int) - rx.toNat) % UInt32.size < tx.toNat)

instance (tx rx : UInt32) : Decidable (FitsWord tx rx) := inferInstanceAs (Decidable (_ ∧ _))

/-! ### The percentage -/

variable {tx rx : UInt32}

theorem lossRate_of_le (h : rx ≤ tx) :
    lossRate tx rx = (100 * (tx.toNat - rx.toNat) / tx.toNat : Nat) := by
  have hle : rx.toNat ≤ tx.toNat := UInt32.le_iff_toNat_le.mp h
  unfold lossRate
  rw [max_eq_left (by omega)]
  push_cast [hle]
  rfl

theorem lossRate_of_lt (h : tx < rx) : lossRate tx rx = 0 := by
  have hlt : tx.toNat < rx.toNat := UInt32.lt_iff_toNat_lt.mp h
  unfold lossRate
  rw [max_eq_right (by omega), mul_zero, Int.zero_ediv]

/-- The loss rate is a percentage. -/
theorem lossRate_le (tx rx : UInt32) : lossRate tx rx ≤ 100 := by
  by_cases h : rx ≤ tx
  · rw [lossRate_of_le h]
    have hdiv : 100 * (tx.toNat - rx.toNat) / tx.toNat ≤ 100 :=
      Nat.div_le_of_le_mul (by rw [Nat.mul_comm]; exact Nat.mul_le_mul_right _ (Nat.sub_le ..))
    exact_mod_cast hdiv
  · rw [lossRate_of_lt (UInt32.not_le.mp h)]
    exact Int.zero_le_ofNat 100

/-- The percentage of the code, without the wrap of the subtraction. -/
theorem toNat_percentLost :
    ((tx - rx) * 100 / tx).toNat =
      (100 * ((tx.toNat : Int) - rx.toNat) % UInt32.size).toNat / tx.toNat := by
  have hwrap : ((tx - rx) * 100).toNat =
      (100 * ((tx.toNat : Int) - rx.toNat) % UInt32.size).toNat := by
    have htx := tx.toNat_lt_size
    have hrx := rx.toNat_lt_size
    rw [UInt32.toNat_mul, UInt32.toNat_sub]
    simp only [UInt32.size, UInt32.reduceToNat] at *
    omega
  rw [UInt32.toNat_div, hwrap]

/-- A quotient of what is left of a product in 32 bits is the quotient of the product only where
nothing was cut off. -/
theorem mod_div_eq_div_iff {n w d : Nat} (hd : 0 < d) (hdw : d ≤ w) :
    n % w / d = n / d ↔ n < w := by
  constructor
  · intro h
    by_contra hge
    have hn : n % w + d ≤ n := by
      have := Nat.mod_add_div n w
      have hq : 1 ≤ n / w := (Nat.one_le_div_iff (by omega)).mpr (by omega)
      have hw : w * 1 ≤ w * (n / w) := Nat.mul_le_mul_left w hq
      omega
    have hlt : n % w / d + 1 ≤ n / d := by
      rw [← Nat.add_div_right _ hd]
      exact Nat.div_le_div_right hn
    omega
  · intro h
    rw [Nat.mod_eq_of_lt h]

theorem percentLost_iff (htx : tx ≠ 0) :
    (((tx - rx) * 100 / tx).toNat : Int) = lossRate tx rx ↔ FitsWord tx rx := by
  have hpos : 0 < tx.toNat := Nat.pos_of_ne_zero fun h => htx (UInt32.toNat_inj.mp h)
  have hsize := tx.toNat_lt_size
  unfold FitsWord
  rw [and_iff_right htx, toNat_percentLost]
  by_cases h : rx ≤ tx
  · have hle : rx.toNat ≤ tx.toNat := UInt32.le_iff_toNat_le.mp h
    have hnat : (100 * ((tx.toNat : Int) - rx.toNat) % UInt32.size).toNat =
        100 * (tx.toNat - rx.toNat) % UInt32.size := by
      have hcast : 100 * ((tx.toNat : Int) - rx.toNat) = (100 * (tx.toNat - rx.toNat) : Nat) := by
        push_cast [hle]
        rfl
      rw [hcast, ← Int.natCast_mod, Int.toNat_natCast]
    rw [lossRate_of_le h, hnat, Nat.cast_inj, mod_div_eq_div_iff hpos hsize.le, and_iff_right h,
      or_iff_left fun hlt => UInt32.not_le.mpr hlt.1 h]
  · have hlt := UInt32.not_le.mp h
    have hmod : 0 ≤ 100 * ((tx.toNat : Int) - rx.toNat) % UInt32.size :=
      Int.emod_nonneg _ (by decide)
    rw [lossRate_of_lt hlt, and_iff_right hlt, or_iff_right fun hle => h hle.1,
      Nat.cast_eq_zero, Nat.div_eq_zero_iff_lt hpos]
    omega

/-! ### The factor -/

variable {r : FloatRounding}

theorem FloatRounding.round_nonneg {x : ℚ} (hx : 0 ≤ x) : 0 ≤ r.round x := by
  have h0 : r.round ((0 : Nat) : ℚ) = (0 : Nat) := r.round_natCast 0 (by decide)
  rw [Nat.cast_zero] at h0
  rw [← h0]
  exact r.monotone hx

theorem FloatRounding.round_le_one {x : ℚ} (hx : x ≤ 1) : r.round x ≤ 1 := by
  have h1 : r.round ((1 : Nat) : ℚ) = (1 : Nat) := r.round_natCast 1 (by decide)
  rw [Nat.cast_one] at h1
  rw [← h1]
  exact r.monotone hx

/-- A percentage does not turn the bitrate negative, however the operations are rounded. -/
theorem decreaseFactor_nonneg {percentLost : UInt32} (h : percentLost.toNat ≤ 100) :
    0 ≤ decreaseFactor r percentLost := by
  have hexact : r.round (percentLost.toNat : ℚ) = percentLost.toNat :=
    r.round_natCast _ (h.trans (by decide))
  have hle : (percentLost.toNat : ℚ) / 100 ≤ 1 := by
    rw [div_le_one (by norm_num)]
    exact_mod_cast h
  unfold decreaseFactor
  rw [hexact]
  apply r.round_nonneg
  rw [sub_nonneg]
  exact r.round_le_one hle

/-- The percentage and the factor of a report in which something was sent. -/
theorem handler_eq_some (r : FloatRounding) (rx : UInt32) (htx : tx ≠ 0) :
    ∃ e, onSenderBandwidthEstimationHandler r tx rx = some e ∧
      e.percentLost = (tx - rx) * 100 / tx ∧ (e.percentLost.toNat ≤ 100 → 0 ≤ e.factor) := by
  unfold onSenderBandwidthEstimationHandler
  simp only [if_neg htx]
  split_ifs with hlow hhigh
  · exact ⟨_, rfl, rfl, fun _ => r.round_nonneg (by norm_num)⟩
  · exact ⟨_, rfl, rfl, decreaseFactor_nonneg⟩
  · exact ⟨_, rfl, rfl, fun _ => zero_le_one⟩

/-- A report whose percentage is not that of the integers. -/
theorem not_evaluated (htx : tx ≠ 0)
    (h : (((tx - rx) * 100 / tx).toNat : Int) ≠ lossRate tx rx) : ¬ Evaluated r tx rx := by
  obtain ⟨e, he, hpercent, -⟩ := handler_eq_some r rx htx
  rintro ⟨e', he', hrate, -⟩
  obtain rfl := Option.some.inj (he.symm.trans he')
  rw [hpercent] at hrate
  exact h hrate

/-- A report is evaluated as over the integers exactly where it can be computed in 32 bits. -/
theorem lossRate_exact_iff (r : FloatRounding) (tx rx : UInt32) :
    Evaluated r tx rx ↔ FitsWord tx rx := by
  by_cases htx : tx = 0
  · refine iff_of_false ?_ fun h => h.1 htx
    rintro ⟨e, he, -⟩
    unfold onSenderBandwidthEstimationHandler at he
    simp only [if_pos htx] at he
    cases he
  · obtain ⟨e, he, hpercent, hfactor⟩ := handler_eq_some r rx htx
    rw [← percentLost_iff htx, ← hpercent]
    constructor
    · rintro ⟨e', he', hrate, -⟩
      obtain rfl := Option.some.inj (he.symm.trans he')
      exact hrate
    · intro hrate
      have hle : e.percentLost.toNat ≤ 100 := by
        have := lossRate_le tx rx
        omega
      exact ⟨e, he, hrate, hle, hfactor hle⟩

/-- Nothing sent; one packet more received than sent; and fifty million packets of which all are
lost. -/
theorem lossRate_wraps :
    ¬ Evaluated .exact 0 0 ∧ ¬ Evaluated .exact 100 101 ∧ ¬ Evaluated .exact 50000000 0 := by
  have hnone : ∀ r, onSenderBandwidthEstimationHandler r 0 0 = none := fun _ => rfl
  refine ⟨?_, ?_, ?_⟩
  · rintro ⟨e, he, -⟩
    rw [hnone] at he
    cases he
  · apply not_evaluated (by decide)
    decide
  · apply not_evaluated (by decide)
    decide

end WebrtcApp.Bandwidth
