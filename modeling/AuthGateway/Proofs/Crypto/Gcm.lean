import AuthGateway.Crypto.Gcm

namespace AuthGateway

namespace Crypto

/-!
# Decryption undoes encryption

Counter mode adds the same key stream when it hides a text and when it shows it again, so all it
takes is that the stream is as long as the text and the tag as long as a block.  Both come down to
the key schedule: every word of it has four bytes, whatever the key.
-/

open Text (Bytes)

namespace Aes

/-- Every word has four bytes. -/
private def Complete (words : Array Bytes) : Prop :=
  ∀ i, i < words.size → (words.getD i []).length = 4

private theorem length_xorBytes (xs ys : Bytes) :
    (xorBytes xs ys).length = min xs.length ys.length :=
  List.length_zipWith

private theorem length_nextWord {words : Array Bytes} (complete : Complete words)
    (eight : 8 ≤ words.size) (constant : UInt8) : (nextWord words constant).length = 4 := by
  have last : (words.getD (words.size - 1) []).length = 4 := complete _ (by omega)
  have before : (words.getD (words.size - 8) []).length = 4 := complete _ (by omega)
  unfold nextWord
  rw [length_xorBytes, before]
  split
  · split
    · rfl
    · rw [last]
      rfl
  · split
    · rw [List.length_map, last]
      rfl
    · rw [last]
      rfl

private theorem Complete.push {words : Array Bytes} (complete : Complete words) {word : Bytes}
    (four : word.length = 4) : Complete (words.push word) := by
  intro i inside
  rw [Array.size_push] at inside
  rw [Array.getD_eq_getD_getElem?, Array.getElem?_push]
  split
  · exact four
  · rw [← Array.getD_eq_getD_getElem?]
    exact complete i (by omega)

/-- Each step of the schedule adds one complete word. -/
private theorem complete_foldl (steps : List Nat) :
    ∀ {words : Array Bytes} (constant : UInt8), Complete words → 8 ≤ words.size →
      let result := (steps.foldl (fun (words, constant) i =>
        (words.push (nextWord words constant), if i % 8 = 0 then double constant else constant))
        (words, constant)).1
      Complete result ∧ result.size = words.size + steps.length := by
  induction steps with
  | nil => exact fun _ complete _ => ⟨complete, rfl⟩
  | cons step rest inductionHypothesis =>
    intro words constant complete eight
    have grown := complete.push (length_nextWord complete eight constant)
    rcases inductionHypothesis (if step % 8 = 0 then double constant else constant) grown
      (by rw [Array.size_push]; omega) with ⟨all, size⟩
    rw [Array.size_push] at size
    refine ⟨all, ?_⟩
    rw [List.length_cons]
    exact size.trans (by omega)

private theorem complete_expandKey (key : Bytes) :
    Complete (expandKey key) ∧ (expandKey key).size = 60 := by
  refine complete_foldl (List.range 52) 1 ?_ (Nat.le_refl 8)
  intro i inside
  have small : i < 8 := inside
  rw [Array.getD_eq_getD_getElem?, List.getElem?_toArray, List.getElem?_map, List.getElem?_range small]
  rfl

private theorem length_roundKey (key : Bytes) {round : Nat} (bound : round ≤ 14) :
    (roundKey (expandKey key) round).length = 16 := by
  rcases complete_expandKey key with ⟨complete, size⟩
  have word : ∀ j, j < 4 → ((expandKey key).getD (4 * round + j) []).length = 4 :=
    fun j small => complete _ (by omega)
  rw [roundKey]
  simp only [List.range, List.range.loop, List.flatMap_cons, List.flatMap_nil, List.length_append,
    List.length_nil, word 0 (by decide), word 1 (by decide), word 2 (by decide), word 3 (by decide)]

/-- An enciphered block has sixteen bytes. -/
theorem length_encryptBlock (key block : Bytes) :
    (encryptBlock (expandKey key) block).length = 16 := by
  rw [encryptBlock, length_xorBytes, length_roundKey key (Nat.le_refl 14), shiftRows, List.length_map,
    List.length_range]
  rfl

/-- Adding the same bytes again takes them away. -/
theorem xorBytes_xorBytes : ∀ {xs ys : Bytes}, xs.length ≤ ys.length →
    xorBytes (xorBytes xs ys) ys = xs
  | [], _, _ => rfl
  | x :: xs, [], short => absurd short (Nat.not_succ_le_zero _)
  | x :: xs, y :: ys, short => by
    have rest := xorBytes_xorBytes (Nat.le_of_succ_le_succ short)
    rw [xorBytes, xorBytes] at rest ⊢
    rw [List.zipWith_cons_cons, List.zipWith_cons_cons, rest, UInt8.xor_assoc, UInt8.xor_self,
      UInt8.xor_zero]

end Aes

namespace Gcm

theorem length_keyStream (key nonce : Bytes) (length : Nat) :
    (keyStream (Aes.expandKey key) nonce length).length = length := by
  have blocks : ∀ indices : List Nat, (indices.flatMap fun i =>
      Aes.encryptBlock (Aes.expandKey key) (counterBlock nonce (i + 1))).length =
        16 * indices.length := by
    intro indices
    induction indices with
    | nil => rfl
    | cons i rest inductionHypothesis =>
      rw [List.flatMap_cons, List.length_append, inductionHypothesis, Aes.length_encryptBlock,
        List.length_cons]
      omega
  rw [keyStream, List.length_take, blocks, List.length_range]
  omega

theorem length_crypt (key nonce text : Bytes) :
    (crypt (Aes.expandKey key) nonce text).length = text.length := by
  rw [crypt, Aes.xorBytes, List.length_zipWith, length_keyStream, Nat.min_self]

/-- Counter mode undoes itself. -/
theorem crypt_crypt (key nonce text : Bytes) :
    crypt (Aes.expandKey key) nonce (crypt (Aes.expandKey key) nonce text) = text := by
  rw [crypt, length_crypt, crypt, Aes.xorBytes_xorBytes (Nat.le_of_eq (length_keyStream key nonce _).symm)]

theorem length_tag (key nonce text : Bytes) :
    (tag (Aes.expandKey key) nonce text).length = tagLength := by
  rw [tag, Aes.xorBytes, List.length_zipWith, Aes.length_encryptBlock, bigEndianNat, List.length_map,
    List.length_reverse, List.length_range]
  rfl

theorem length_encrypt (key nonce text : Bytes) :
    (encrypt key nonce text).length = text.length + tagLength := by
  rw [encrypt, List.length_append, length_crypt, length_tag]

/-- What was encrypted is decrypted under the same key and nonce. -/
theorem decrypt?_encrypt (key nonce text : Bytes) :
    decrypt? key nonce (encrypt key nonce text) = some text := by
  have enough : ¬ (encrypt key nonce text).length < tagLength := by
    rw [length_encrypt]
    omega
  have hidden : (encrypt key nonce text).length - tagLength =
      (crypt (Aes.expandKey key) nonce text).length := by
    rw [length_encrypt, length_crypt, Nat.add_sub_cancel]
  rw [decrypt?, if_neg enough, hidden]
  simp only [encrypt, List.take_left, List.drop_left, if_pos, crypt_crypt]

end Gcm

end Crypto

end AuthGateway
