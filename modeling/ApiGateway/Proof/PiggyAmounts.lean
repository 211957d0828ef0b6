import ApiGateway.Proof.WithdrawTransactions

/-!
# The amounts of a provider payout

The requested amount is split into a platform fee and the amount to be paid out. The second goes to
the provider as text, and comes back as text in the callback, where it is compared with the order
in 64 bits of cents.
-/

namespace ApiGateway

open Table Decimal

variable {cents cents' : Int} {rate : ℚ} {fee fee' : PiggyPlatformFeeCalculation}
  {order : WithdrawOrder}

/-- The amounts in the row of an order are those of its calculation. The rate need not be: the
column may have fewer digits. -/
structure StoredAmounts (fee : PiggyPlatformFeeCalculation) (order : WithdrawOrder) : Prop where
  platformFee : order.platformFeeAmountCents = fee.platformFeeAmountCents
  pay : order.piggyPayAmountCents = fee.piggyPayAmountCents
  text : order.piggyPayAmount = fee.piggyTaxBeforeAmount
  frozen : order.frozenAmountCents = fee.requestedAmountCents

/-- A larger request is not charged more than the difference. -/
theorem round0_fee_le (hrate : 0 ≤ rate) (hlt : rate < 100) (hpos : 0 < cents)
    (hle : cents ≤ cents') :
    round0 (cents' * rate / 100) ≤ round0 (cents * rate / 100) + (cents' - cents) := by
  have hcents : (0 : ℚ) < cents := Int.cast_pos.mpr hpos
  have hdiff : (0 : ℚ) ≤ cents' - cents := by
    rw [sub_nonneg]
    exact_mod_cast hle
  rw [round0, round0, if_pos (by nlinarith), if_pos (by positivity), ← Int.floor_add_intCast]
  refine Int.floor_le_floor ?_
  push_cast
  nlinarith

theorem round0_intCast (n : Int) : round0 (n : ℚ) = n := by
  unfold round0
  split
  · rw [Int.floor_eq_iff]
    constructor <;> linarith
  · rw [Int.ceil_eq_iff]
    constructor <;> linarith

theorem yuanToCents_quoted {text : String} {q : ℚ} (h : ofString (trimSpace text) = some q) :
    yuanToCents text = .ok (int64 (round0 (q * 100))) ∧ isBlank text = false := by
  have hblank : isBlank text = false := by
    rw [← Bool.not_eq_true, isBlank_iff]
    rintro hempty
    rw [hempty] at h
    cases h
  refine ⟨?_, hblank⟩
  rw [yuanToCents, hblank, h]
  rfl

section

variable (hfee : calculatePiggyPlatformFee cents rate = .ok fee)

include hfee

theorem platformFee_nonneg :
    0 ≤ fee.platformFeeAmountCents := by
  obtain ⟨hpos, -, hrate, -, hround, -⟩ := calculatePiggyPlatformFee_ok hfee
  rw [hround, round0, if_pos (by positivity)]
  exact Int.floor_nonneg.mpr (by positivity)

theorem StoredAmounts.expected (h : StoredAmounts fee order) :
    expectedPiggyPretaxAmountCents order = fee.piggyPayAmountCents := by
  obtain ⟨-, hcents, -, -, -, hpay, hpaypos, -⟩ := calculatePiggyPlatformFee_ok hfee
  have hnonneg := platformFee_nonneg hfee
  unfold expectedPiggyPretaxAmountCents
  rw [h.platformFee, h.pay, h.frozen, hcents]
  by_cases hrate : order.platformFeeRate > 0 ∨ fee.platformFeeAmountCents > 0
  · rw [if_pos ⟨hrate, hpaypos⟩]
  · -- without a fee the whole amount is paid out
    rw [if_neg fun h => hrate h.1, if_neg fun h => hrate h.1]
    omega

/-- The quoted amount is compared in 64 bits. -/
theorem StoredAmounts.callback {content : PiggyPaymentCallbackContent} {q : ℚ}
    (h : StoredAmounts fee order) (hfits : cents < 2 ^ 63)
    (hquoted : ofString (trimSpace content.pretaxAmount) = some q) :
    validatePiggyCallbackPretaxAmount order content = .ok () ↔
      2 ^ 64 ∣ round0 (q * 100) - fee.piggyPayAmountCents := by
  obtain ⟨-, -, -, -, -, hpay, hpaypos, -⟩ := calculatePiggyPlatformFee_ok hfee
  have hnonneg := platformFee_nonneg hfee
  obtain ⟨hcents, hblank⟩ := yuanToCents_quoted hquoted
  rw [← int64_eq_iff (by omega) (by omega)]
  unfold validatePiggyCallbackPretaxAmount
  rw [hblank, h.expected hfee, hcents]
  simp [bind_eq_ok, hpaypos]

end

/-- 100.01 at a rate of 8 per cent: the fee is 8.00. -/
theorem exists_roundedFee : ∃ fee, calculatePiggyPlatformFee 10001 8 = .ok fee ∧
    fee.piggyTaxBeforeAmount = "92.01" ∧ fee.piggyPayAmountCents = 9201 ∧
    fee.platformFeeAmountCents = 800 ∧ fee.requestedAmountCents = 10001 := by
  have h : (calculatePiggyPlatformFee 10001 8).toOption.any (fun fee =>
      fee.piggyTaxBeforeAmount = "92.01" ∧ fee.piggyPayAmountCents = 9201 ∧
        fee.platformFeeAmountCents = 800 ∧ fee.requestedAmountCents = 10001) := by decide +kernel
  cases hfee : calculatePiggyPlatformFee 10001 8 with
  | error => simp [hfee, Except.toOption] at h
  | ok fee => exact ⟨fee, rfl, by simpa [hfee, Except.toOption] using h⟩

def roundedOrder : WithdrawOrder where
  userId := 1
  withdrawNo := "W1"
  amount := 10001 / 100
  platformFeeRate := 8
  platformFeeAmountCents := 800
  piggyPayAmountCents := 9201
  piggyPayAmount := "92.01"
  frozenAmountCents := 10001

end ApiGateway
