import Mathlib.Algebra.Order.Floor.Div
import Mathlib.Tactic.Linarith
import Mathlib.Tactic.Ring

set_option relaxedAutoImplicit false
set_option autoImplicit false

/-!
# Rounded shares

Facts about quotients rounded down (`a / d`) and up (`a ⌈/⌉ d`), for any denominator `d`. The
denominator plays the part of the fixed-point unit or of a total supply.

## Main results

* `Rounding.pred_div_succ` — the usual way to compute a ceiling without a remainder.
* `Rounding.div_add_div_eq_iff` — splitting a share loses to rounding exactly when the two
  remainders carry.
* `Rounding.add_div_le_of_room`, `div_le_of_add_div_le` — what covers a share before another one is
  added or taken covers it afterwards.
* `Rounding.ediv_mul_ediv_le`, `lt_of_ediv_mul_ediv`, `ediv_mul_ediv_eq_iff` — a quotient multiplied
  back does not grow, how much it loses, and when it loses nothing.
* `Rounding.div_mul_div_bounds` — the same bounds for natural numbers.
* `Rounding.backed_of_deposit`, `backed_of_withdrawal` — shares stay backed when deposits round up
  and withdrawals round down.
* `Rounding.issued_value_le`, `issued_value_le_of_surcharge`, `issued_value_le_of_dvd` — the value
  of shares issued by a rounded value of all shares.
* `Rounding.div_lt_ceilDiv`, `ceilDiv_le_div`, `ceilDiv_mul_div_eq` — a share rounded up against
  another one rounded down, and what is recovered of it.
* `Rounding.forall_mul_div_le_iff` — when a comparison of notional amounts is one of units.
* `Rounding.mul_le_of_scaled` — a product does not grow when its factors are scaled against each
  other.
-/

namespace Rounding

variable {a b c d : ℕ}

/-! ## Ceilings -/

/-- The ceiling of a positive number, computed by rounding the predecessor down. -/
theorem pred_div_succ (ha : 0 < a) (hd : 0 < d) : (a - 1) / d + 1 = a ⌈/⌉ d := by
  rw [Nat.ceilDiv_eq_add_pred_div, ← Nat.add_div_right _ hd]
  congr 1
  omega

/-- The ceiling covers the exact value. -/
theorem le_ceilDiv_mul (hd : 0 < d) : a ≤ (a ⌈/⌉ d) * d := by
  rw [Nat.mul_comm]
  exact (ceilDiv_le_iff_le_mul hd).mp le_rfl

/-- A ceiling is at most `c` exactly when `c` covers the exact value. -/
theorem ceilDiv_le_iff (hd : 0 < d) : a ⌈/⌉ d ≤ c ↔ a ≤ c * d := by
  rw [Nat.mul_comm]
  exact ceilDiv_le_iff_le_mul hd

/-- A ceiling is positive exactly when the number is. -/
theorem ceilDiv_pos_iff (hd : 0 < d) : 0 < a ⌈/⌉ d ↔ 0 < a := by
  have h := ceilDiv_le_iff (a := a) (c := 0) hd
  omega

/-! ## Sums of floors -/

/-- Two shares rounded down are the share of the sum exactly when the remainders do not carry. -/
theorem div_add_div_eq_iff (hd : 0 < d) : a / d + b / d = (a + b) / d ↔ a % d + b % d < d := by
  rw [Nat.add_div hd]
  split <;> omega

/-- A sum of two shares rounded down falls short of the share of the sum by one at most. -/
theorem add_div_le_succ (hd : 0 < d) : (a + b) / d ≤ a / d + b / d + 1 := by
  rw [Nat.add_div hd]
  split <;> omega

/-- What covers one share covers the sum with another one, next to that one rounded down, where the
remainders do not carry or more than the first share is there. -/
theorem add_div_le_of_room (hd : 0 < d) (h : a / d ≤ c)
    (room : a % d + b % d < d ∨ a / d < c) : (a + b) / d ≤ c + b / d := by
  rcases room with hcarry | hslack
  · rw [← (div_add_div_eq_iff hd).mpr hcarry]
    omega
  · have := add_div_le_succ (a := a) (b := b) hd
    omega

/-- What covers the sum of two shares, one of them rounded down, covers the other one. -/
theorem div_le_of_add_div_le (h : (a + b) / d ≤ c + b / d) : a / d ≤ c := by
  have := Nat.div_add_div_le_add_div (x := a) (y := b) (z := d)
  omega

/-! ## Bounds on quotients -/

/-- What is divided by `m` and multiplied by it again, both times rounded down, has not grown. -/
theorem ediv_mul_ediv_le {n d m : ℤ} (hd : 0 < d) (hm : 0 < m) : n * d / m * m / d ≤ n := by
  apply Int.ediv_le_of_le_mul hd
  exact Int.ediv_mul_le (n * d) hm.ne'

/-- And it loses less than one and a quotient of the denominators. -/
theorem lt_of_ediv_mul_ediv {n d m : ℤ} (hd : 0 < d) (hm : 0 < m) :
    (n - n * d / m * m / d - 1) * d < m := by
  have hquotient : n * d < (n * d / m + 1) * m := Int.lt_ediv_add_one_mul_self (n * d) hm
  have hback : n * d / m * m < (n * d / m * m / d + 1) * d :=
    Int.lt_ediv_add_one_mul_self (n * d / m * m) hd
  linarith

/-- The same for natural numbers, with the loss in whole numbers. -/
theorem div_mul_div_bounds {n m : ℕ} (hd : 0 < d) (hm : 0 < m) :
    n * d / m * m / d ≤ n ∧ n ≤ n * d / m * m / d + m / d + 1 := by
  have hd' : (0 : ℤ) < d := Int.natCast_pos.mpr hd
  have hm' : (0 : ℤ) < m := Int.natCast_pos.mpr hm
  have hle : n * d / m * m / d ≤ n := by
    exact_mod_cast ediv_mul_ediv_le (n := (n : ℤ)) hd' hm'
  refine ⟨hle, ?_⟩
  have hloss := lt_of_ediv_mul_ediv (n := (n : ℤ)) hd' hm'
  have hwhole : n - n * d / m * m / d - 1 ≤ m / d := by
    rw [Nat.le_div_iff_mul_le hd]
    rcases Nat.lt_or_ge (n * d / m * m / d + 1) n with hlt | hge
    · have : ((n - n * d / m * m / d - 1 : ℕ) : ℤ) * d < m := by
        rw [Nat.cast_sub (by omega), Nat.cast_sub hle]
        exact_mod_cast hloss
      exact_mod_cast this.le
    · rw [show n - n * d / m * m / d - 1 = 0 by omega, Nat.zero_mul]
      exact Nat.zero_le m
  omega

/-- It loses nothing exactly when the quotient is exact. -/
theorem ediv_mul_ediv_eq_iff {n d m : ℤ} (hd : 0 < d) (hm : 0 < m) :
    n * d / m * m / d = n ↔ m ∣ n * d := by
  constructor
  · intro h
    have hback : n * d ≤ n * d / m * m := (Int.le_ediv_iff_mul_le hd).mp h.ge
    have hquotient := Int.ediv_mul_le (n * d) hm.ne'
    exact Dvd.intro_left _ (le_antisymm hquotient hback)
  · intro h
    rw [Int.ediv_mul_cancel h, Int.mul_ediv_cancel n hd.ne']

/-- A ratio in units of `d` and its inverse, both rounded down, have a product of at most one. -/
theorem div_mul_inverse_le (ha : 0 < a) (hb : 0 < b) : a * d / b * (b * d / a) ≤ d * d := by
  have hratio : a * d / b * b ≤ a * d := Nat.div_mul_le_self _ _
  have hinverse : b * d / a * a ≤ b * d := Nat.div_mul_le_self _ _
  refine Nat.le_of_mul_le_mul_right ?_ (Nat.mul_pos hb ha)
  calc a * d / b * (b * d / a) * (b * a)
      = a * d / b * b * (b * d / a * a) := by ring
    _ ≤ a * d * (b * d) := Nat.mul_le_mul hratio hinverse
    _ = d * d * (b * a) := by ring

/-- A number divided by `d`, multiplied back, and made a multiple of `c`, all rounded down. -/
theorem div_mul_div_mul_le : a / d * d / c * c ≤ a :=
  (Nat.div_mul_le_self (a / d * d) c).trans (Nat.div_mul_le_self a d)

/-! ## Shares and what backs them

A claim of `u` per `d` shares is backed by holdings `b` when `u * s ≤ b * d`, for `s` shares in
all. This form has no division in it, and rounding only ever helps it. -/

section Backing

variable {u s s' b b' q : ℕ}

/-- Shares issued against a deposit rounded up stay backed. -/
theorem backed_of_deposit (hd : 0 < d) (h : u * s ≤ b * d) (hs : s' ≤ s + q)
    (hb : b + (u * q) ⌈/⌉ d ≤ b') : u * s' ≤ b' * d := by
  have hceil := le_ceilDiv_mul (a := u * q) hd
  calc u * s' ≤ u * (s + q) := Nat.mul_le_mul_left u hs
    _ = u * s + u * q := Nat.mul_add u s q
    _ ≤ b * d + (u * q) ⌈/⌉ d * d := Nat.add_le_add h hceil
    _ = (b + (u * q) ⌈/⌉ d) * d := (Nat.add_mul _ _ _).symm
    _ ≤ b' * d := Nat.mul_le_mul_right d hb

/-- Shares that remain after a withdrawal rounded down stay backed. -/
theorem backed_of_withdrawal (h : u * s ≤ b * d) (hs : s' + q ≤ s) (hb : b ≤ b' + u * q / d) :
    u * s' ≤ b' * d := by
  have hfloor := Nat.div_mul_le_self (u * q) d
  have hmul : u * s' + u * q ≤ u * s := by
    rw [← Nat.mul_add]
    exact Nat.mul_le_mul_left u hs
  have hbd : b * d ≤ b' * d + u * q / d * d := by
    rw [← Nat.add_mul]
    exact Nat.mul_le_mul_right d hb
  omega

/-- What a part of the shares can withdraw is there. -/
theorem withdrawal_le_of_backed (h : u * s ≤ b * d) (hq : q ≤ s) :
    u * q / d ≤ b := by
  apply Nat.div_le_of_le_mul
  rw [Nat.mul_comm d b]
  exact (Nat.mul_le_mul_left u hq).trans h

end Backing

/-! ## Issuing shares at a value

To `s` shares of the value `v` each, per `d`, there are `q` shares issued for the payment `p`. The
value of all shares is rounded down to `x`, and a surcharge `e` on the payment is added to it. -/

section Issuing

variable {q v x s p e : ℕ}

/-- The shares issued are worth no more than the payment, up to the rounding of `x`. -/
theorem issued_value_le (hq : q * (x + e) ≤ p * s) : q * v * x ≤ p * (s * v) := by
  calc q * v * x = q * x * v := by ring
    _ ≤ q * (x + e) * v := Nat.mul_le_mul_right v (Nat.mul_le_mul_left q (Nat.le_add_right x e))
    _ ≤ p * s * v := Nat.mul_le_mul_right v hq
    _ = p * (s * v) := Nat.mul_assoc p s v

/-- With a surcharge they are worth no more than the payment and the surcharge. -/
theorem issued_value_le_of_surcharge (hd : 0 < d) (hq : q * (x + e) ≤ p * s)
    (hx : s * v / d = x) (he : 0 < e) : q * v ≤ (p + e) * d := by
  have hrounded : s * v ≤ (x + 1) * d := by
    rw [← hx, Nat.mul_comm _ d]
    exact (Nat.lt_mul_div_succ (s * v) hd).le
  have hpos : 0 < x + e := by omega
  refine Nat.le_of_mul_le_mul_right ?_ hpos
  calc q * v * (x + e) = q * (x + e) * v := by ring
    _ ≤ p * s * v := Nat.mul_le_mul_right v hq
    _ = p * (s * v) := Nat.mul_assoc p s v
    _ ≤ p * ((x + 1) * d) := Nat.mul_le_mul_left p hrounded
    _ ≤ (p + e) * ((x + e) * d) := by
      apply Nat.mul_le_mul
      · exact Nat.le_add_right p e
      · exact Nat.mul_le_mul_right d (by omega)
    _ = (p + e) * d * (x + e) := by ring

/-- Where nothing is rounded they are worth no more than the payment. -/
theorem issued_value_le_of_dvd (hd : 0 < d) (hq : q * (x + e) ≤ p * s) (hx : s * v / d = x)
    (hdvd : d ∣ s * v) (hpos : 0 < s * v) : q * v ≤ p * d := by
  have hexact : s * v = x * d := by rw [← hx, Nat.div_mul_cancel hdvd]
  have hx0 : 0 < x := by
    rw [← hx]
    exact Nat.div_pos (Nat.le_of_dvd hpos hdvd) hd
  refine Nat.le_of_mul_le_mul_right ?_ hx0
  calc q * v * x ≤ p * (s * v) := issued_value_le hq
    _ = p * d * x := by rw [hexact]; ring

end Issuing

/-! ## Holding a share

Of `s` shares in all, the claims of `u` per `d` shares come to `s * u / d` or `(s * u) ⌈/⌉ d`, and
holdings `b` come back to `b * d / s` per `d` shares. -/

section Holding

variable {s t u b : ℕ}

/-- The ceiling is less than one above the exact value. -/
theorem ceilDiv_mul_lt (hd : 0 < d) : (a ⌈/⌉ d) * d < a + d := by
  have h := (ceilDiv_le_iff (a := a) (c := a ⌈/⌉ d) hd).mp le_rfl
  rw [Nat.ceilDiv_eq_add_pred_div] at h ⊢
  have := Nat.div_mul_le_self (a + d - 1) d
  omega

/-- The smaller claim rounded down is below the larger one rounded up. -/
theorem div_lt_ceilDiv (hd : 0 < d) (hs : 0 < s) (h : u < t) : s * u / d < (s * t) ⌈/⌉ d := by
  refine Nat.lt_of_mul_lt_mul_right (a := d) ?_
  calc s * u / d * d ≤ s * u := Nat.div_mul_le_self _ _
    _ < s * t := Nat.mul_lt_mul_of_pos_left h hs
    _ ≤ (s * t) ⌈/⌉ d * d := le_ceilDiv_mul hd

/-- Of as many shares as a claim is made for, the smaller claim rounded up is at most the larger one
rounded down. -/
theorem ceilDiv_le_div (hd : 0 < d) (hs : d ≤ s) (h : t < u) : (s * t) ⌈/⌉ d ≤ s * u / d := by
  rw [ceilDiv_le_iff hd]
  have hfloor : s * u < (s * u / d + 1) * d := by
    rw [Nat.mul_comm (s * u / d + 1)]
    exact Nat.lt_mul_div_succ (s * u) hd
  have hstep : s * t + s ≤ s * u := by
    rw [← Nat.mul_succ]
    exact Nat.mul_le_mul_left s h
  rw [Nat.add_mul] at hfloor
  omega

/-- Holdings that cover a claim come back to it at least. -/
theorem le_mul_div_of_ceilDiv_le (hd : 0 < d) (hs : 0 < s) (h : (s * t) ⌈/⌉ d ≤ b) :
    t ≤ b * d / s := by
  rw [Nat.le_div_iff_mul_le hs, Nat.mul_comm t s]
  exact (ceilDiv_le_iff hd).mp h

/-- Holdings within a claim rounded down come back to it at most. -/
theorem mul_div_le_of_le_div (h : b ≤ s * u / d) : b * d / s ≤ u := by
  apply Nat.div_le_of_le_mul
  exact (Nat.mul_le_mul_right d h).trans (Nat.div_mul_le_self (s * u) d)

/-- Holdings beyond a claim rounded down come back to it at least. -/
theorem le_mul_div_of_div_lt (hd : 0 < d) (hs : 0 < s) (h : s * u / d < b) : u ≤ b * d / s := by
  rw [Nat.le_div_iff_mul_le hs, Nat.mul_comm u s]
  have hfloor : s * u < d * (s * u / d + 1) := Nat.lt_mul_div_succ (s * u) hd
  calc s * u ≤ d * (s * u / d + 1) := hfloor.le
    _ ≤ b * d := by
      rw [Nat.mul_comm b]
      exact Nat.mul_le_mul_left d h

/-- Holdings within a claim rounded up come back to less than one share's part above it. -/
theorem mul_div_mul_lt_of_le_ceilDiv (hd : 0 < d) (h : b ≤ (s * t) ⌈/⌉ d) :
    b * d / s * s < t * s + d := by
  calc b * d / s * s ≤ b * d := Nat.div_mul_le_self _ _
    _ ≤ (s * t) ⌈/⌉ d * d := Nat.mul_le_mul_right d h
    _ < s * t + d := ceilDiv_mul_lt hd
    _ = t * s + d := by rw [Nat.mul_comm s t]

/-- Of as many shares as a claim is made for, what is held for a claim comes back to it exactly. -/
theorem ceilDiv_mul_div_eq (hd : 0 < d) (hs : d ≤ s) : (s * t) ⌈/⌉ d * d / s = t := by
  have hs0 : 0 < s := lt_of_lt_of_le hd hs
  have habove := mul_div_mul_lt_of_le_ceilDiv (s := s) (t := t) hd le_rfl
  apply le_antisymm
  · have hlt : (s * t) ⌈/⌉ d * d / s * s < (t + 1) * s := by
      rw [Nat.add_mul, Nat.one_mul]
      omega
    exact Nat.le_of_lt_succ (Nat.lt_of_mul_lt_mul_right hlt)
  · exact le_mul_div_of_ceilDiv_le hd hs0 le_rfl

end Holding

/-! ## Comparing units by their notional amounts -/

/-- Where the units `p` are compared with `n` by their notional amounts, this limits them as a
comparison of units would, for all `p` of a positive amount, exactly when a share is a whole one at
least and the notional amount of `n` is less than the next unit. -/
theorem forall_mul_div_le_iff {s n bound : ℕ} (hd : 0 < d) (hs : 0 < s) (hn : 0 < n)
    (hbound : (n + 1) * d ≤ bound) :
    (∀ p, 0 < s * p / d → (s * p < bound ∧ s * p / d ≤ n ↔ p ≤ n)) ↔
      d ≤ s ∧ s * n < (n + 1) * d := by
  have hle : ∀ p, s * p / d ≤ n ↔ s * p < (n + 1) * d := fun p => by
    rw [← Nat.lt_succ_iff, Nat.div_lt_iff_lt_mul hd]
  constructor
  · intro h
    have hwhole : d ≤ s := by
      by_contra hlt
      rw [Nat.not_le] at hlt
      -- the first units beyond `n` that have a positive amount
      let p := max (n + 1) (d ⌈/⌉ s)
      have hlow : d ≤ s * p := by
        calc d ≤ (d ⌈/⌉ s) * s := le_ceilDiv_mul hs
          _ = s * (d ⌈/⌉ s) := Nat.mul_comm _ _
          _ ≤ s * p := Nat.mul_le_mul_left s (Nat.le_max_right _ _)
      have hhigh : s * p < (n + 1) * d := by
        rcases Nat.le_total (d ⌈/⌉ s) (n + 1) with hp | hp
        · rw [show p = n + 1 from Nat.max_eq_left hp, Nat.mul_comm s]
          exact Nat.mul_lt_mul_of_pos_left hlt (Nat.succ_pos n)
        · rw [show p = d ⌈/⌉ s from Nat.max_eq_right hp, Nat.mul_comm s]
          have hround := ceilDiv_mul_lt (a := d) hs
          have htwo : 2 * d ≤ (n + 1) * d := Nat.mul_le_mul_right d (by omega)
          omega
      have hp := (h p (Nat.div_pos hlow hd)).mp ⟨hhigh.trans_le hbound, (hle p).mpr hhigh⟩
      exact absurd ((Nat.le_max_left _ _).trans hp) (Nat.not_succ_le_self n)
    refine ⟨hwhole, (hle n).mp ((h n ?_).mpr le_rfl).2⟩
    exact Nat.div_pos (hwhole.trans (Nat.le_mul_of_pos_right s hn)) hd
  · rintro ⟨hwhole, hlt⟩ p -
    constructor
    · rintro ⟨-, hp⟩
      refine le_trans ?_ hp
      rw [Nat.le_div_iff_mul_le hd, Nat.mul_comm]
      exact Nat.mul_le_mul_right p hwhole
    · intro hp
      have hp' : s * p < (n + 1) * d := (Nat.mul_le_mul_left s hp).trans_lt hlt
      exact ⟨hp'.trans_le hbound, (hle p).mpr hp'⟩

/-- All units of a positive notional amount are more than `n` exactly when `n` has none. -/
theorem forall_lt_of_mul_div_pos_iff {s n : ℕ} (hd : 0 < d) :
    (∀ p, 0 < s * p / d → n < p) ↔ s * n < d := by
  constructor
  · intro h
    by_contra hge
    exact absurd (h n (Nat.div_pos (Nat.le_of_not_lt hge) hd)) (Nat.lt_irrefl n)
  · intro h p hp
    by_contra hle
    have hlow : s * p < d := (Nat.mul_le_mul_left s (Nat.le_of_not_lt hle)).trans_lt h
    rw [Nat.div_eq_of_lt hlow] at hp
    exact absurd hp (Nat.lt_irrefl 0)

/-! ## Scaling -/

/-- A product does not grow when one factor shrinks by at least the ratio by which the other one
grows. -/
theorem mul_le_of_scaled {a a' s s' d e : ℤ} (hd : 0 < d) (he : 0 < e) (ha' : 0 ≤ a')
    (hs : 0 ≤ s) (ha : a' * d ≤ a * e) (hs' : s' * e ≤ s * d) : a' * s' ≤ a * s := by
  refine le_of_mul_le_mul_right ?_ (Int.mul_pos hd he)
  calc a' * s' * (d * e) = a' * d * (s' * e) := by ring
    _ ≤ a' * d * (s * d) := Int.mul_le_mul_of_nonneg_left hs' (Int.mul_nonneg ha' hd.le)
    _ ≤ a * e * (s * d) := Int.mul_le_mul_of_nonneg_right ha (Int.mul_nonneg hs hd.le)
    _ = a * s * (d * e) := by ring

/-- A unit that does not grow stays covered when the shares grow, where it was covered by what the
growth leaves of the holding. -/
theorem mul_le_of_spare {u u' s s' b b' d e : ℤ} (hd : 0 ≤ d) (he : 0 < e) (hu : 0 ≤ u)
    (hs' : 0 ≤ s') (hu' : u' ≤ u) (hgrowth : s' * e ≤ s * d) (hspare : u * s ≤ b * e)
    (hb : b ≤ b') : u' * s' ≤ b' * d := by
  refine le_of_mul_le_mul_right ?_ he
  calc u' * s' * e ≤ u * s' * e :=
        Int.mul_le_mul_of_nonneg_right (Int.mul_le_mul_of_nonneg_right hu' hs') he.le
    _ = u * (s' * e) := Int.mul_assoc u s' e
    _ ≤ u * (s * d) := Int.mul_le_mul_of_nonneg_left hgrowth hu
    _ = u * s * d := (Int.mul_assoc u s d).symm
    _ ≤ b * e * d := Int.mul_le_mul_of_nonneg_right hspare hd
    _ = b * d * e := Int.mul_right_comm b e d
    _ ≤ b' * d * e := Int.mul_le_mul_of_nonneg_right (Int.mul_le_mul_of_nonneg_right hb hd) he.le

/-- A unit that is rounded after such a scaling stands for less than one more part per share. -/
theorem ediv_mul_le_of_scaled {v m m' s s' d : ℤ} (hd : 0 < d) (hv : 0 ≤ v) (hs : 0 ≤ s)
    (hs' : 0 ≤ s') (h : m' * s' ≤ m * s) : v * m' / d * s' ≤ v * m / d * s + s := by
  have hfloor : v * m' / d * d ≤ v * m' := Int.ediv_mul_le _ hd.ne'
  have hnext : v * m < (v * m / d + 1) * d := Int.lt_ediv_add_one_mul_self _ hd
  refine le_of_mul_le_mul_right ?_ hd
  calc v * m' / d * s' * d = v * m' / d * d * s' := by ring
    _ ≤ v * m' * s' := Int.mul_le_mul_of_nonneg_right hfloor hs'
    _ = v * (m' * s') := by ring
    _ ≤ v * (m * s) := Int.mul_le_mul_of_nonneg_left h hv
    _ = v * m * s := by ring
    _ ≤ (v * m / d + 1) * d * s := Int.mul_le_mul_of_nonneg_right hnext.le hs
    _ = (v * m / d * s + s) * d := by ring

end Rounding
