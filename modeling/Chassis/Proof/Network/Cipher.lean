import Chassis.Construction.Lanplus.Crypt
import Chassis.Construction.Network.Cipher

namespace Chassis
open Data

@[simp] theorem Block.xor_xor (first second : Block) : (first.xor second).xor second = first := by
  funext index
  rw [Block.xor, Block.xor, UInt8.xor_assoc, UInt8.xor_self, UInt8.xor_zero]

@[simp] theorem Block.ofBytes_ofFn (block : Block) (rest : List UInt8) :
    Block.ofBytes (List.ofFn block ++ rest) = block := by
  funext index
  have inside : (index : Nat) < (List.ofFn block).length := by simp
  rw [Block.ofBytes, List.getD_append _ _ _ _ inside, List.getD_eq_getElem _ _ inside,
    List.getElem_ofFn]

namespace Crypto

@[simp] theorem length_encrypt (crypto : Crypto) (key : List UInt8) (iv : Block)
    (input : List UInt8) : (crypto.encrypt key iv input).length = 16 * (input.length / 16) := by
  simp [encrypt]

@[simp] theorem length_decrypt (crypto : Crypto) (key : List UInt8) (iv : Block)
    (input : List UInt8) : (crypto.decrypt key iv input).length = 16 * (input.length / 16) := by
  simp [decrypt]

/-- Whole blocks are decrypted to what they were. -/
theorem decrypt_encrypt (crypto : Crypto) (key : List UInt8) (iv : Block) {input : List UInt8}
    (whole : input.length % 16 = 0) :
    crypto.decrypt key iv (crypto.encrypt key iv input) = input := by
  have count : 16 * (input.length / 16) / 16 = input.length / 16 := by omega
  have parts := blocks_joined (chain Block.xor (crypto.aes (key.take 16)) iv
    (blocks 16 (input.length / 16) input)) ([] : List UInt8)
  rw [length_chain, length_blocks, List.append_nil] at parts
  rw [decrypt, length_encrypt, count, encrypt, parts,
    unchain_chain _ (fun block previous => Block.xor_xor block previous)]
  exact joined_blocks (by omega)

end Crypto

namespace Netipmid

theorem confPadBytes_eq : confPadBytes = countedPad 15 := by decide

/-- The server strips a pad of up to fifteen bytes. -/
theorem stripConfPad_padded (payload : List UInt8) {count : Nat} (known : count ≤ 15) :
    stripConfPad (padded payload count) = .ok payload := by
  have byte : (UInt8.ofNat count).toNat = count := by
    rw [UInt8.toNat_ofNat']
    omega
  have shorter : min (payload.length + count + 1 - 1) count = count := by omega
  have front : payload.length + count + 1 - count - 1 = payload.length := by omega
  have within : ¬ confPadBytes.length < count := by
    rw [confPadBytes_eq, length_countedPad]
    omega
  have expected : confPadBytes.take count = countedPad count := by
    rw [confPadBytes_eq, take_countedPad known]
  simp only [stripConfPad, getLast?_padded, length_padded, byte, shorter, front, within, if_false,
    drop_padded, expected, ne_eq, not_true_eq_false, take_padded]

end Netipmid

namespace Lanplus

/-- The client takes off every pad that a byte can count. -/
theorem stripPad_padded (payload : List UInt8) {count : Nat} (fits : count < 256)
    (short : payload.length < 2 ^ 16) :
    stripPad (padded payload count) = .ok (padded payload count, payload.length) := by
  have byte : (UInt8.ofNat count).toNat = count := by
    rw [UInt8.toNat_ofNat']
    omega
  have size : (payload.length + count + 1 + 2 ^ 16 - count - 1) % 2 ^ 16 = payload.length := by
    omega
  have inside : ¬ payload.length + count + 1 < payload.length + count := by omega
  simp only [stripPad, getLast?_padded, length_padded, byte, size, inside, if_false, drop_padded,
    ne_eq, not_true_eq_false]

end Lanplus

end Chassis
