import ApiGateway.Lib.Cbc
import ApiGateway.Lib.Decimal

/-!
# Encryption of provider payloads

A payload is padded to whole blocks, encrypted with AES in CBC mode, written in base64 and
escaped for a URL. Go strings that hold text are lists of characters, other data are bytes.
-/

namespace ApiGateway

open List Cbc Decimal

abbrev Bytes := List UInt8

inductive CryptoErr where
  | invalidEscape
  | corruptBase64
  | keySize (n : Nat)
  | message (text : String)
deriving DecidableEq

/-- What is assumed of the libraries: AES is inverted block by block, and base64 is inverted. -/
structure CryptoLibs where
  aes : Bytes → BlockCipher 16
  encodeToString : Bytes → Bytes
  decodeString : Bytes → Option Bytes
  decode_encode : ∀ b, decodeString (encodeToString b) = some b

/-! ## Escaping -/

def isUnreserved (b : UInt8) : Bool :=
  (Char.ofUInt8 b).isAlphanum || "-_.~".toList.contains (Char.ofUInt8 b)

def upperhex : List Char := "0123456789ABCDEF".toList

def escapeByte (b : UInt8) : List Char :=
  if isUnreserved b then [Char.ofUInt8 b]
  else if b = 32 then ['+']
  else ['%', upperhex.getD (b.toNat / 16) '0', upperhex.getD (b.toNat % 16) '0']

/-- `url.QueryEscape` -/
def queryEscape (s : Bytes) : List Char := s.flatMap escapeByte

/-- The value of a hexadecimal digit in either case. -/
def unhex (c : Char) : Option Nat := upperhex.idxOf? c.toUpper

/-- `url.QueryUnescape` -/
def queryUnescape : List Char → Option Bytes
  | [] => some []
  | '%' :: hi :: lo :: s => do
    let b := 16 * (← unhex hi) + (← unhex lo)
    return b.toUInt8 :: (← queryUnescape s)
  | '%' :: _ => none
  | c :: s => (String.utf8EncodeChar (if c = '+' then ' ' else c) ++ ·) <$> queryUnescape s

/-! ## Padding -/

/-- The padding is text: `string(rune(padding))`, repeated. -/
def pkcs5Padding (data : Bytes) (blockSize : Nat) : Bytes :=
  let padding := blockSize - data.length % blockSize
  data ++ (replicate padding (String.utf8EncodeChar (Char.ofNat padding))).flatten

def pkcs5UnPadding (data : Bytes) : Except CryptoErr Bytes :=
  match data.getLast? with
  | none => .error (.message "AES 明文为空")
  | some last =>
    let padding := last.toNat
    if padding = 0 ∨ padding > data.length then .error (.message "AES padding 无效")
    else if ∃ value ∈ data.drop (data.length - padding), value.toNat ≠ padding then
      .error (.message "AES padding 不一致")
    else .ok (data.take (data.length - padding))

/-! ## Encryption -/

variable (libs : CryptoLibs)

def newCipher (key : Bytes) : Except CryptoErr (BlockCipher 16) :=
  if key.length = 16 ∨ key.length = 24 ∨ key.length = 32 then .ok (libs.aes key)
  else .error (.keySize key.length)

def piggyEncryptAES (plainText appSecret iv : Bytes) : Except CryptoErr (List Char) := do
  let block ← newCipher libs appSecret
  if iv.length ≠ 16 then throw (.message "AES IV 必须是 16 字节")
  let padded := pkcs5Padding plainText 16
  let cipherText := encryptBlocks block (padded.length / 16) iv padded
  return queryEscape (libs.encodeToString cipherText)

def piggyDecryptAES (cipherText : List Char) (appSecret iv : Bytes) : Except CryptoErr Bytes := do
  let some decodedURL := queryUnescape (trimChars cipherText) | throw .invalidEscape
  let some raw := libs.decodeString decodedURL | throw .corruptBase64
  let block ← newCipher libs appSecret
  if raw.length = 0 ∨ raw.length % 16 ≠ 0 then throw (.message "AES 密文长度无效")
  if iv.length ≠ 16 then throw (.message "AES IV 必须是 16 字节")
  pkcs5UnPadding (decryptBlocks block (raw.length / 16) iv raw)

end ApiGateway
