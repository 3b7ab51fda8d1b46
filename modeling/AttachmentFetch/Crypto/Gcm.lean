import AttachmentFetch.Crypto.Aes

/-! Authenticated encryption: AES in counter mode, with a tag that is a
polynomial hash of the ciphertext under a key-dependent point. -/
namespace AttachmentFetch.Crypto.Gcm

open Aes (Block Key)

abbrev Nonce := Vector UInt8 12

/-- The bytes as one number, the first byte being the most significant. -/
def toBits (bytes : Bytes) : BitVec 128 :=
  BitVec.ofNat 128 (bytes.foldl (fun value byte => value * 256 + byte.toNat) 0)

def ofBits (bits : BitVec 128) : Block :=
  Vector.ofFn fun i => UInt8.ofNat (bits.toNat >>> (8 * (15 - i.val)))

/-- Multiplies by x in the field of 2 ^ 128 elements, whose bits are counted from the left. -/
def timesX (v : BitVec 128) : BitVec 128 :=
  let shifted := v >>> 1
  if v.getLsbD 0 then shifted ^^^ (0xE1 <<< 120) else shifted

def multiply (x : BitVec 128) : Nat → BitVec 128 → BitVec 128
  | 0, _ => 0
  | bits + 1, v => (if x.getLsbD bits then v else 0) ^^^ multiply x bits (timesX v)

/-- Hashes blocks of sixteen bytes; zeros complete the last one. -/
def hashBlocks (point : BitVec 128) : Nat → BitVec 128 → Bytes → BitVec 128
  | 0, sum, _ => sum
  | blocks + 1, sum, bytes =>
    let block := bytes.take 16
    let block := block ++ List.replicate (16 - block.length) 0
    hashBlocks point blocks (multiply (sum ^^^ toBits block) 128 point) (bytes.drop 16)

/-- The hash of a ciphertext, closed by its length in bits. -/
def hash (point : BitVec 128) (ciphertext : Bytes) : BitVec 128 :=
  let sum := hashBlocks point ((ciphertext.length + 15) / 16) 0 ciphertext
  multiply (sum ^^^ BitVec.ofNat 128 (8 * ciphertext.length % UInt64.size)) 128 point

def counterBlock (nonce : Nonce) (counter : Nat) : Block :=
  Vector.ofFn fun i =>
    if h : i.val < 12 then nonce[i.val] else UInt8.ofNat (counter >>> (8 * (15 - i.val)))

structure Cipher where
  keys : List Block
  point : BitVec 128

def Cipher.ofKey (key : Key) : Cipher :=
  let keys := Aes.roundKeys (Aes.schedule key)
  { keys
    point := toBits (Aes.encryptWith keys (Vector.replicate 16 0)).toList }

def Cipher.keystream (cipher : Cipher) (nonce : Nonce) : Nat → Nat → Bytes
  | 0, _ => []
  | blocks + 1, counter =>
    (Aes.encryptWith cipher.keys (counterBlock nonce counter)).toList ++
      cipher.keystream nonce blocks (counter + 1)

/-- Encrypts, and likewise decrypts: the text meets the same keystream either way. -/
def Cipher.crypt (cipher : Cipher) (nonce : Nonce) (text : Bytes) : Bytes :=
  List.zipWith (· ^^^ ·) text (cipher.keystream nonce ((text.length + 15) / 16) 2)

def Cipher.tag (cipher : Cipher) (nonce : Nonce) (ciphertext : Bytes) : Bytes :=
  let mask := Aes.encryptWith cipher.keys (counterBlock nonce 1)
  (Vector.zipWith (· ^^^ ·) (ofBits (hash cipher.point ciphertext)) mask).toList

/-- No longer text is encrypted, and no ciphertext decrypted that is longer by more than a tag. -/
def longestText : Nat := 68719476736

/-- The ciphertext followed by its tag of sixteen bytes. -/
def encrypt (key : Key) (nonce : Nonce) (plaintext : Bytes) : Bytes :=
  let cipher := Cipher.ofKey key
  let ciphertext := cipher.crypt nonce plaintext
  ciphertext ++ cipher.tag nonce ciphertext

/-- The plaintext, provided that the last sixteen bytes are the tag of the rest. -/
def decrypt (key : Key) (nonce : Nonce) (box : Bytes) : Option Bytes :=
  if box.length < 16 ∨ longestText + 16 < box.length - 16 then none
  else
    let cipher := Cipher.ofKey key
    let ciphertext := box.take (box.length - 16)
    if box.drop (box.length - 16) = cipher.tag nonce ciphertext then
      some (cipher.crypt nonce ciphertext)
    else none

end AttachmentFetch.Crypto.Gcm
