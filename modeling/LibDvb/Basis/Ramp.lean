import Mathlib.Algebra.Order.Ring.Int
import Mathlib.Order.MinMax

namespace LibDvb

def ramp (lo hi top value : Int) : Int := top * (max lo (min hi value) - lo) / (hi - lo)

namespace Ramp

variable {lo hi top a b value : Int}

theorem monotone (ends : lo < hi) (htop : 0 ≤ top) (hab : a ≤ b) : ramp lo hi top a ≤ ramp lo hi top b := by
  have hclamp : max lo (min hi a) ≤ max lo (min hi b) := max_le_max_left lo (min_le_min_left hi hab)
  exact Int.ediv_le_ediv (Int.sub_pos_of_lt ends) (Int.mul_le_mul_of_nonneg_left (by omega) htop)

theorem of_le (low : value ≤ lo) (ends : lo ≤ hi) : ramp lo hi top value = 0 := by
  rw [ramp, min_eq_right (Int.le_trans low ends), max_eq_left low, Int.sub_self, Int.mul_zero, Int.zero_ediv]

theorem of_ge (high : hi ≤ value) (ends : lo < hi) : ramp lo hi top value = top := by
  rw [ramp, min_eq_left high, max_eq_right (Int.le_of_lt ends), Int.mul_ediv_cancel _ (by omega)]

theorem of_mem (low : lo ≤ value) (high : value ≤ hi) : ramp lo hi top value = top * (value - lo) / (hi - lo) := by
  rw [ramp, min_eq_right high, max_eq_right low]

theorem nonneg (ends : lo < hi) (htop : 0 ≤ top) (value : Int) : 0 ≤ ramp lo hi top value := by
  rcases Int.le_total value lo with low | low
  · rw [of_le low (Int.le_of_lt ends)]
  · calc 0 = ramp lo hi top lo := (of_le (Int.le_refl lo) (Int.le_of_lt ends)).symm
      _ ≤ ramp lo hi top value := monotone ends htop low

theorem le_top (ends : lo < hi) (htop : 0 ≤ top) (value : Int) : ramp lo hi top value ≤ top := by
  rcases Int.le_total hi value with high | high
  · rw [of_ge high ends]
  · calc ramp lo hi top value ≤ ramp lo hi top hi := monotone ends htop high
      _ = top := of_ge (Int.le_refl hi) ends

end Ramp

end LibDvb
