import AuthGateway.Crypto.Aes
import AuthGateway.Crypto.Word

namespace AuthGateway

namespace Crypto

namespace Gcm

/-!
AES-256-GCM without associated data: counter mode for secrecy, and a tag over the ciphertext
that only the holder of the key can make.  `encrypt` appends the tag; `decrypt?` gives the
plaintext back only under the right tag.
-/

open Text (Bytes)

def nonceLength : Nat := 12

def tagLength : Nat := 16

/-- The block that enciphers piece `i` of a text; piece 0 is kept for the tag. -/
def counterBlock (nonce : Bytes) (i : Nat) : Bytes :=
  nonce ++ bigEndianNat 4 (i + 1)

/-- So many bytes of the key stream, from the second counter block on. -/
def keyStream (words : Array Bytes) (nonce : Bytes) (length : Nat) : Bytes :=
  ((List.range ((length + 15) / 16)).flatMap fun i =>
    Aes.encryptBlock words (counterBlock nonce (i + 1))).take length

/-- Counter mode, which undoes itself. -/
def crypt (words : Array Bytes) (nonce text : Bytes) : Bytes :=
  Aes.xorBytes text (keyStream words nonce text.length)

/-- A block as a number, big end first. -/
def blockNat (block : Bytes) : Nat :=
  block.foldl (fun n b => n * 256 + b.toNat) 0

/-- The polynomial that closes the field of 2 ^ 128 elements. -/
def reduction : Nat := 0xE1 <<< 120

/-- The product in that field; the first bit of a block is the coefficient of one. -/
def multiply (x y : Nat) : Nat :=
  ((List.range 128).foldl
    (fun (acc, power) i =>
      (if x.testBit (127 - i) then acc ^^^ power else acc,
        if power.testBit 0 then (power >>> 1) ^^^ reduction else power >>> 1))
    (0, y)).1

/-- A run filled with zeros to whole blocks. -/
def fillBlock (bytes : Bytes) : Bytes :=
  bytes ++ List.replicate ((16 - bytes.length % 16) % 16) 0

/-- The hash of a ciphertext under the hash key: its blocks, then its length in bits. -/
def hash (key : Nat) (text : Bytes) : Nat :=
  let blocks := chunks 16 (fillBlock text) ++ [bigEndianNat 16 (text.length * 8)]
  blocks.foldl (fun acc block => multiply (acc ^^^ blockNat block) key) 0

def tag (words : Array Bytes) (nonce text : Bytes) : Bytes :=
  let hashKey := blockNat (Aes.encryptBlock words (List.replicate 16 0))
  Aes.xorBytes (bigEndianNat 16 (hash hashKey text)) (Aes.encryptBlock words (counterBlock nonce 0))

/-- The ciphertext of a text, and its tag. -/
def encrypt (key nonce text : Bytes) : Bytes :=
  let words := Aes.expandKey key
  let hidden := crypt words nonce text
  hidden ++ tag words nonce hidden

/-- The text of a ciphertext that carries its right tag. -/
def decrypt? (key nonce sealed : Bytes) : Option Bytes :=
  if sealed.length < tagLength then none
  else
    let words := Aes.expandKey key
    let hidden := sealed.take (sealed.length - tagLength)
    let found := sealed.drop (sealed.length - tagLength)
    if tag words nonce hidden = found then some (crypt words nonce hidden) else none

end Gcm

end Crypto

end AuthGateway
