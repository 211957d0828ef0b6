import Mathlib.Data.List.Basic

/-!
# Cipher block chaining

Every block is combined with the block that was encrypted before it, the first one with an
initial block. The mode is inverted as soon as the cipher is inverted on single blocks.
-/

namespace Cbc

open List

/-- A cipher for blocks of `n` bytes under a fixed key. -/
structure BlockCipher (n : Nat) where
  encrypt : List UInt8 → List UInt8
  decrypt : List UInt8 → List UInt8
  length_encrypt : ∀ b, b.length = n → (encrypt b).length = n
  decrypt_encrypt : ∀ b, b.length = n → decrypt (encrypt b) = b

def xorBytes (a b : List UInt8) : List UInt8 := zipWith (· ^^^ ·) a b

variable {n : Nat} (c : BlockCipher n)

/-- Encrypt `k` blocks of `src`. -/
def encryptBlocks : Nat → List UInt8 → List UInt8 → List UInt8
  | 0, _, _ => []
  | k + 1, prev, src =>
    let out := c.encrypt (xorBytes (src.take n) prev)
    out ++ encryptBlocks k out (src.drop n)

def decryptBlocks : Nat → List UInt8 → List UInt8 → List UInt8
  | 0, _, _ => []
  | k + 1, prev, src =>
    xorBytes (c.decrypt (src.take n)) prev ++ decryptBlocks k (src.take n) (src.drop n)

theorem xorBytes_xorBytes {a b : List UInt8} (h : a.length = b.length) :
    xorBytes (xorBytes a b) b = a := by
  refine ext_getElem (by simp [xorBytes, h]) fun i _ _ => ?_
  simp [xorBytes, UInt8.xor_assoc]

variable {c} {prev : List UInt8}

theorem length_encryptBlocks (k : Nat) {src : List UInt8} (hprev : prev.length = n)
    (hsrc : src.length = k * n) : (encryptBlocks c k prev src).length = k * n := by
  induction k generalizing prev src with
  | zero => simp [encryptBlocks]
  | succ k ih =>
    rw [Nat.succ_mul] at hsrc ⊢
    have hout := c.length_encrypt (xorBytes (src.take n) prev) (by simp [xorBytes]; omega)
    rw [encryptBlocks, length_append, hout, ih hout (by simp; omega), Nat.add_comm]

/-- **Decryption undoes encryption**, block by block. -/
theorem decryptBlocks_encryptBlocks (k : Nat) {src : List UInt8} (hprev : prev.length = n)
    (hsrc : src.length = k * n) : decryptBlocks c k prev (encryptBlocks c k prev src) = src := by
  induction k generalizing prev src with
  | zero =>
    rw [Nat.zero_mul, length_eq_zero_iff] at hsrc
    rw [hsrc]
    rfl
  | succ k ih =>
    rw [Nat.succ_mul] at hsrc
    have hblock : (src.take n).length = n := by simp; omega
    have hxor : (xorBytes (src.take n) prev).length = n := by simp [xorBytes]; omega
    have hout := c.length_encrypt _ hxor
    rw [encryptBlocks, decryptBlocks, take_left' hout, drop_left' hout, ih hout (by simp; omega),
      c.decrypt_encrypt _ hxor, xorBytes_xorBytes (hblock.trans hprev.symm), take_append_drop]

end Cbc
