import ApiGateway.Service.PiggyCrypto

/-!
# What decryption gives back

Nothing is trimmed off an escaped text, and a padding of one to sixteen bytes tells its own length.
`pkcs5UnPadding` compares that length with the length of the data and not with the size of a block,
so it takes paddings that `pkcs5Padding` never writes.
-/

namespace ApiGateway

open List Cbc Decimal

variable {data plain : Bytes}

/-! ## Escaping -/

/-- What is said of a byte is checked on all of them. -/
theorem forall_byte {p : UInt8 → Prop} (h : ∀ n < 256, p (UInt8.ofNat n)) : ∀ b, p b := by
  intro b
  simpa using h b.toNat b.toNat_lt

theorem queryUnescape_escapeByte (b : UInt8) (rest : List Char) :
    queryUnescape (escapeByte b ++ rest) = (b :: ·) <$> queryUnescape rest := by
  have hkept : ∀ b, isUnreserved b = true → Char.ofUInt8 b ≠ '%' ∧ Char.ofUInt8 b ≠ '+' ∧
      String.utf8EncodeChar (Char.ofUInt8 b) = [b] :=
    forall_byte (by decide +kernel)
  have hhex : ∀ b : UInt8, unhex (upperhex.getD (b.toNat / 16) '0') = some (b.toNat / 16) ∧
      unhex (upperhex.getD (b.toNat % 16) '0') = some (b.toNat % 16) :=
    forall_byte (by decide +kernel)
  unfold escapeByte
  split
  · rename_i h
    obtain ⟨hpercent, hplus, hbyte⟩ := hkept b h
    simp [queryUnescape, hpercent, hplus, hbyte]
  split
  · rename_i h
    subst h
    rfl
  · simp only [cons_append, nil_append, queryUnescape, hhex b, Option.bind_eq_bind,
      Option.bind_some, Nat.div_add_mod]
    rw [Nat.toUInt8_eq, UInt8.ofNat_toNat]
    cases queryUnescape rest <;> rfl

theorem queryUnescape_queryEscape (s : Bytes) : queryUnescape (queryEscape s) = some s := by
  unfold queryEscape
  induction s with
  | nil => rfl
  | cons b s ih => rw [flatMap_cons, queryUnescape_escapeByte, ih, Option.map_eq_map, Option.map_some]

theorem trimChars_queryEscape (s : Bytes) : trimChars (queryEscape s) = queryEscape s := by
  refine trimChars_of_not fun c hc => ?_
  obtain ⟨b, -, hc⟩ := mem_flatMap.mp hc
  have hall : ∀ b, (escapeByte b).all (!isSpace ·) = true := forall_byte (by decide +kernel)
  simpa using all_eq_true.mp (hall b) c hc

/-! ## Padding -/

/-- Behind `plain` stand `n` bytes, each of which says `n`. -/
def paddedWith (plain : Bytes) (n : Nat) : Bytes := plain ++ replicate n (UInt8.ofNat n)

theorem pkcs5Padding_eq (data : Bytes) :
    pkcs5Padding data 16 = paddedWith data (16 - data.length % 16) := by
  have hbyte : ∀ n < 17, String.utf8EncodeChar (Char.ofNat n) = [UInt8.ofNat n] := by decide
  have hle : 16 - data.length % 16 < 17 := by omega
  simp [pkcs5Padding, paddedWith, hbyte _ hle]

theorem pkcs5UnPadding_ok_iff : pkcs5UnPadding data = .ok plain ↔
    ∃ n, 0 < n ∧ n < 256 ∧ data = paddedWith plain n := by
  unfold pkcs5UnPadding paddedWith
  constructor
  · intro h
    split at h
    · cases h
    rename_i last hlast
    dsimp only at h
    split at h
    · cases h
    rename_i hlen
    split at h
    · cases h
    rename_i hall
    cases h
    refine ⟨last.toNat, by omega, last.toNat_lt, ?_⟩
    have hdrop : data.drop (data.length - last.toNat) = replicate last.toNat last := by
      refine eq_replicate_iff.mpr ⟨by simp; omega, fun b hb => ?_⟩
      by_contra hne
      exact hall ⟨b, hb, fun heq => hne (UInt8.toNat_inj.mp heq)⟩
    rw [UInt8.ofNat_toNat, ← hdrop, take_append_drop]
  · rintro ⟨n, hpos, hlt, rfl⟩
    have hlast : (plain ++ replicate n (UInt8.ofNat n)).getLast? = some (UInt8.ofNat n) := by
      rw [getLast?_append, getLast?_replicate, if_neg (by omega)]
      rfl
    have hn : (UInt8.ofNat n).toNat = n := by simp; omega
    rw [hlast]
    dsimp only
    rw [hn, if_neg (by simp; omega), if_neg]
    · simp
    · rintro ⟨b, hb, hne⟩
      have hb : b ∈ replicate n (UInt8.ofNat n) := by simpa using hb
      exact hne (by rw [eq_of_mem_replicate hb, hn])

theorem pkcs5UnPadding_pkcs5Padding (p : Bytes) : pkcs5UnPadding (pkcs5Padding p 16) = .ok p :=
  pkcs5UnPadding_ok_iff.mpr ⟨_, by omega, by omega, pkcs5Padding_eq p⟩

/-! ## Payloads -/

/-- **Payloads round-trip.** With a valid key and an IV of one block, decryption gives every payload
back. Whole blocks are accepted by `pkcs5UnPadding` exactly if they are the padding of some
plaintext, or end in more than sixteen bytes that all say how many they are. -/
theorem piggy_payload_round_trip (libs : CryptoLibs) (appSecret iv : Bytes)
    (hkey : appSecret.length = 16 ∨ appSecret.length = 24 ∨ appSecret.length = 32)
    (hiv : iv.length = 16) :
    (∀ p, ∃ c, piggyEncryptAES libs p appSecret iv = .ok c ∧
      piggyDecryptAES libs c appSecret iv = .ok p) ∧
    ∀ data : Bytes, 16 ∣ data.length → ((∃ plain, pkcs5UnPadding data = .ok plain) ↔
      (∃ p, data = pkcs5Padding p 16) ∨ ∃ p n, 16 < n ∧ n < 256 ∧ data = paddedWith p n) := by
  constructor
  · intro p
    have hlen : (pkcs5Padding p 16).length = (p.length / 16 + 1) * 16 := by
      rw [pkcs5Padding_eq, paddedWith, length_append, length_replicate]
      omega
    have hraw := length_encryptBlocks (c := libs.aes appSecret) _ hiv hlen
    have hcipher : newCipher libs appSecret = .ok (libs.aes appSecret) := if_pos hkey
    refine ⟨queryEscape (libs.encodeToString (encryptBlocks (libs.aes appSecret)
      (p.length / 16 + 1) iv (pkcs5Padding p 16))), ?_, ?_⟩
    · simp [piggyEncryptAES, hcipher, hiv, hlen]
    · simp only [piggyDecryptAES, trimChars_queryEscape, queryUnescape_queryEscape,
        libs.decode_encode, hcipher, hraw, hiv]
      -- neither check fails
      refine (if_neg (by omega)).trans ((if_neg (by simp)).trans ?_)
      rw [Nat.mul_div_cancel _ (by decide), decryptBlocks_encryptBlocks _ hiv hlen]
      exact pkcs5UnPadding_pkcs5Padding p
  · intro data hdvd
    constructor
    · rintro ⟨plain, hplain⟩
      obtain ⟨n, hpos, hlt, rfl⟩ := pkcs5UnPadding_ok_iff.mp hplain
      by_cases hn : n ≤ 16
      · rw [paddedWith, length_append, length_replicate] at hdvd
        have heq : 16 - plain.length % 16 = n := by omega
        exact .inl ⟨plain, by rw [pkcs5Padding_eq, heq]⟩
      · exact .inr ⟨plain, n, by omega, hlt, rfl⟩
    · rintro (⟨p, rfl⟩ | ⟨p, n, hn, hlt, rfl⟩)
      · exact ⟨p, pkcs5UnPadding_pkcs5Padding p⟩
      · exact ⟨p, pkcs5UnPadding_ok_iff.mpr ⟨n, by omega, hlt, rfl⟩⟩

/-- What AES is given for the payload `[7, 1]`, and what it makes of that under a key of zeros. -/
def payloadBlock : Bytes := [2, 4] ++ replicate 14 11

def payloadCipher : Bytes :=
  [37, 37, 173, 33, 199, 37, 86, 123, 163, 182, 171, 20, 248, 185, 30, 194]

/-- The cipher text in base64. -/
def payloadText : Bytes := "JSWtIcclVnujtqsU+Lkewg==".toList.flatMap String.utf8EncodeChar

/-- AES and base64 as they are, as far as this payload goes. -/
def payloadLibs : CryptoLibs where
  aes _ :=
    let swap b := if b = payloadBlock then payloadCipher
      else if b = payloadCipher then payloadBlock else b
    have hlen : payloadBlock.length = 16 ∧ payloadCipher.length = 16 := by decide
    ⟨swap, swap, by grind, by grind⟩
  encodeToString b := if b = payloadCipher then payloadText else 0 :: b
  decodeString s := if s = payloadText then some payloadCipher else s.tail?
  decode_encode b := by
    split
    · simp_all
    · have hhead : payloadText.head? ≠ some 0 := by decide +kernel
      refine if_neg fun h => hhead ?_
      rw [← h]
      rfl

/-- A payload that looks padded. -/
theorem piggy_payload_round_trip_padded : ∃ c,
    piggyEncryptAES payloadLibs [7, 1] (replicate 24 0) (replicate 16 5) = .ok c ∧
      piggyDecryptAES payloadLibs c (replicate 24 0) (replicate 16 5) = .ok [7, 1] :=
  (piggy_payload_round_trip _ _ _ (by decide) (by decide)).1 [7, 1]

example : piggyEncryptAES payloadLibs [7, 1] (replicate 24 0) (replicate 16 5) =
    .ok "JSWtIcclVnujtqsU%2BLkewg%3D%3D".toList := by decide +kernel

/-- Two blocks that no plaintext is padded to, and that are taken for the padding of nothing. -/
theorem long_padding_accepted : 16 ∣ (replicate 32 32 : Bytes).length ∧
    pkcs5UnPadding (replicate 32 32) = .ok [] ∧ ∀ p, replicate 32 32 ≠ pkcs5Padding p 16 := by
  have haccepted : pkcs5UnPadding (replicate 32 32) = .ok [] := by decide
  refine ⟨by decide, haccepted, fun p hp => ?_⟩
  rw [hp, pkcs5UnPadding_pkcs5Padding] at haccepted
  cases haccepted
  exact absurd (congrArg length hp) (by decide)

end ApiGateway
