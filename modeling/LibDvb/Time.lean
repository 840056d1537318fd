import Mathlib.Algebra.GroupWithZero.Nat
import Mathlib.Data.Nat.Basic

namespace LibDvb

-- Nanoseconds. An `Instant` is kept as 64-bit seconds and nanoseconds, hence its upper end.
abbrev Instant := Nat

abbrev Duration := Nat

def Instant.limit : Nat := 2 ^ 63 * 10 ^ 9

def Instant.checkedAdd (now : Instant) (duration : Duration) : Option Instant :=
  if now + duration < Instant.limit then some (now + duration) else none

def Duration.fromMillis (n : Nat) : Duration := n * 10 ^ 6

def Duration.fromSecs (n : Nat) : Duration := n * 10 ^ 9

end LibDvb
