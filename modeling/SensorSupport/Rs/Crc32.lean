/-
# Checksums of MSOP packets (`rs_driver/driver/decoder/basic_attr.hpp`)

When it is compiled in, `processMsopPkt` checks the CRC-32 that a packet has four bytes before its
rolling counter: that of the bytes before it, continued over the counter. `calcCrc32` undoes the
xor on its start value when it continues, so a string can be cut at will. Its table is that of a
polynomial and the top bytes in it are all different: the checksum changes with any burst of four
bytes.

`size - 6` is passed as `uint32_t`, so in a packet of 4 GiB only the first bytes are covered.

Key definitions: `calcCrc32`, `isCrc32Correct`, `covered`, `Burst`.
Key theorems: `calcCrc32_continued`, `calcCrc32_burst`, `crc32_ok`.
-/
import Mathlib.Algebra.Group.Nat.Defs
import Mathlib.Data.List.Basic
import Mathlib.Data.List.GetD
import SensorSupport.Lib.Crc

namespace SensorSupport
namespace Rs

/-- `crc32table` -/
def crc32table : List UInt32 := [
  0x00000000, 0x77073096, 0xee0e612c, 0x990951ba, 0x076dc419, 0x706af48f, 0xe963a535,
  0x9e6495a3, 0x0edb8832, 0x79dcb8a4, 0xe0d5e91e, 0x97d2d988, 0x09b64c2b, 0x7eb17cbd,
  0xe7b82d07, 0x90bf1d91, 0x1db71064, 0x6ab020f2, 0xf3b97148, 0x84be41de, 0x1adad47d,
  0x6ddde4eb, 0xf4d4b551, 0x83d385c7, 0x136c9856, 0x646ba8c0, 0xfd62f97a, 0x8a65c9ec,
  0x14015c4f, 0x63066cd9, 0xfa0f3d63, 0x8d080df5, 0x3b6e20c8, 0x4c69105e, 0xd56041e4,
  0xa2677172, 0x3c03e4d1, 0x4b04d447, 0xd20d85fd, 0xa50ab56b, 0x35b5a8fa, 0x42b2986c,
  0xdbbbc9d6, 0xacbcf940, 0x32d86ce3, 0x45df5c75, 0xdcd60dcf, 0xabd13d59, 0x26d930ac,
  0x51de003a, 0xc8d75180, 0xbfd06116, 0x21b4f4b5, 0x56b3c423, 0xcfba9599, 0xb8bda50f,
  0x2802b89e, 0x5f058808, 0xc60cd9b2, 0xb10be924, 0x2f6f7c87, 0x58684c11, 0xc1611dab,
  0xb6662d3d, 0x76dc4190, 0x01db7106, 0x98d220bc, 0xefd5102a, 0x71b18589, 0x06b6b51f,
  0x9fbfe4a5, 0xe8b8d433, 0x7807c9a2, 0x0f00f934, 0x9609a88e, 0xe10e9818, 0x7f6a0dbb,
  0x086d3d2d, 0x91646c97, 0xe6635c01, 0x6b6b51f4, 0x1c6c6162, 0x856530d8, 0xf262004e,
  0x6c0695ed, 0x1b01a57b, 0x8208f4c1, 0xf50fc457, 0x65b0d9c6, 0x12b7e950, 0x8bbeb8ea,
  0xfcb9887c, 0x62dd1ddf, 0x15da2d49, 0x8cd37cf3, 0xfbd44c65, 0x4db26158, 0x3ab551ce,
  0xa3bc0074, 0xd4bb30e2, 0x4adfa541, 0x3dd895d7, 0xa4d1c46d, 0xd3d6f4fb, 0x4369e96a,
  0x346ed9fc, 0xad678846, 0xda60b8d0, 0x44042d73, 0x33031de5, 0xaa0a4c5f, 0xdd0d7cc9,
  0x5005713c, 0x270241aa, 0xbe0b1010, 0xc90c2086, 0x5768b525, 0x206f85b3, 0xb966d409,
  0xce61e49f, 0x5edef90e, 0x29d9c998, 0xb0d09822, 0xc7d7a8b4, 0x59b33d17, 0x2eb40d81,
  0xb7bd5c3b, 0xc0ba6cad, 0xedb88320, 0x9abfb3b6, 0x03b6e20c, 0x74b1d29a, 0xead54739,
  0x9dd277af, 0x04db2615, 0x73dc1683, 0xe3630b12, 0x94643b84, 0x0d6d6a3e, 0x7a6a5aa8,
  0xe40ecf0b, 0x9309ff9d, 0x0a00ae27, 0x7d079eb1, 0xf00f9344, 0x8708a3d2, 0x1e01f268,
  0x6906c2fe, 0xf762575d, 0x806567cb, 0x196c3671, 0x6e6b06e7, 0xfed41b76, 0x89d32be0,
  0x10da7a5a, 0x67dd4acc, 0xf9b9df6f, 0x8ebeeff9, 0x17b7be43, 0x60b08ed5, 0xd6d6a3e8,
  0xa1d1937e, 0x38d8c2c4, 0x4fdff252, 0xd1bb67f1, 0xa6bc5767, 0x3fb506dd, 0x48b2364b,
  0xd80d2bda, 0xaf0a1b4c, 0x36034af6, 0x41047a60, 0xdf60efc3, 0xa867df55, 0x316e8eef,
  0x4669be79, 0xcb61b38c, 0xbc66831a, 0x256fd2a0, 0x5268e236, 0xcc0c7795, 0xbb0b4703,
  0x220216b9, 0x5505262f, 0xc5ba3bbe, 0xb2bd0b28, 0x2bb45a92, 0x5cb36a04, 0xc2d7ffa7,
  0xb5d0cf31, 0x2cd99e8b, 0x5bdeae1d, 0x9b64c2b0, 0xec63f226, 0x756aa39c, 0x026d930a,
  0x9c0906a9, 0xeb0e363f, 0x72076785, 0x05005713, 0x95bf4a82, 0xe2b87a14, 0x7bb12bae,
  0x0cb61b38, 0x92d28e9b, 0xe5d5be0d, 0x7cdcefb7, 0x0bdbdf21, 0x86d3d2d4, 0xf1d4e242,
  0x68ddb3f8, 0x1fda836e, 0x81be16cd, 0xf6b9265b, 0x6fb077e1, 0x18b74777, 0x88085ae6,
  0xff0f6a70, 0x66063bca, 0x11010b5c, 0x8f659eff, 0xf862ae69, 0x616bffd3, 0x166ccf45,
  0xa00ae278, 0xd70dd2ee, 0x4e048354, 0x3903b3c2, 0xa7672661, 0xd06016f7, 0x4969474d,
  0x3e6e77db, 0xaed16a4a, 0xd9d65adc, 0x40df0b66, 0x37d83bf0, 0xa9bcae53, 0xdebb9ec5,
  0x47b2cf7f, 0x30b5ffe9, 0xbdbdf21c, 0xcabac28a, 0x53b39330, 0x24b4a3a6, 0xbad03605,
  0xcdd70693, 0x54de5729, 0x23d967bf, 0xb3667a2e, 0xc4614ab8, 0x5d681b02, 0x2a6f2b94,
  0xb40bbe37, 0xc30c8ea1, 0x5a05df1b, 0x2d02ef8d]

/-- The body of the loop of `calcCrc32`. -/
def crc32Step (startValue : UInt32) (data : UInt8) : UInt32 :=
  crc32table.getD (startValue.toUInt8 ^^^ data).toNat 0 ^^^ (startValue >>> 8)

/-- `calcCrc32` over its `len` bytes. -/
def calcCrc32 (data : List UInt8) (startValue : UInt32) (isFirstCall : Bool) : UInt32 :=
  let startValue := if isFirstCall then 0xFFFFFFFF else startValue ^^^ 0xFFFFFFFF
  data.foldl crc32Step startValue ^^^ 0xFFFFFFFF

/-- A `uint32_t` that is read from its bytes. -/
def readU32 (b₀ b₁ b₂ b₃ : UInt8) : UInt32 :=
  UInt32.ofNat (b₀.toNat + b₁.toNat * 2 ^ 8 + b₂.toNat * 2 ^ 16 + b₃.toNat * 2 ^ 24)

/-- `htonl`: the bytes in the other order. -/
def htonl (v : UInt32) : UInt32 :=
  readU32 (.ofNat (v.toNat / 2 ^ 24)) (.ofNat (v.toNat / 2 ^ 16)) (.ofNat (v.toNat / 2 ^ 8))
    (.ofNat v.toNat)

/-- The checksum in a packet: `htonl` of the four bytes before the rolling counter. -/
def storedCrc32 (pkt : List UInt8) : UInt32 :=
  match pkt.drop (pkt.length - 6) with
  | b₀ :: b₁ :: b₂ :: b₃ :: _ => htonl (readU32 b₀ b₁ b₂ b₃)
  | _ => 0

/-- `isCrc32Correct`; there is nothing to read before a packet that is too short. -/
def isCrc32Correct (pkt : List UInt8) : Option Bool :=
  let size := pkt.length
  if size < 6 then none
  else
    let expected := calcCrc32 (pkt.take ((size - 6) % 2 ^ 32)) 0 true
    let expected := calcCrc32 (pkt.drop (size - 2)) expected false
    some (expected == storedCrc32 pkt)

/-- The bytes that the checksum covers: those before it, and the rolling counter. -/
def covered (pkt : List UInt8) : List UInt8 :=
  pkt.take ((pkt.length - 6) % 2 ^ 32) ++ pkt.drop (pkt.length - 2)

/-- The four bytes of the checksum. -/
def crcBytes (pkt : List UInt8) : List UInt8 := (pkt.drop (pkt.length - 6)).take 4

/-- The strings differ, within at most four consecutive bytes. -/
def Burst (bs bs' : List UInt8) : Prop :=
  ∃ pre mid mid' post, bs = pre ++ mid ++ post ∧ bs' = pre ++ mid' ++ post ∧
    mid.length = mid'.length ∧ mid.length ≤ 4 ∧ mid ≠ mid'

/-- What is asked of the checksum: it does not depend on how a string is cut, and tells a packet
from one with the same checksum and a burst of other bytes, and from one with another checksum. -/
structure Crc32Ok : Prop where
  stream : ∀ (startValue : UInt32) (chunk : List UInt8) (chunks : List (List UInt8)),
    chunks.foldl (fun crc data => calcCrc32 data crc false) (calcCrc32 chunk startValue true) =
      calcCrc32 (chunk ++ chunks.flatten) startValue true
  covers : ∀ pkt : List UInt8, pkt.length < 2 ^ 32 + 6 →
    covered pkt = pkt.take (pkt.length - 6) ++ pkt.drop (pkt.length - 2)
  burst : ∀ pkt pkt' : List UInt8, 6 ≤ pkt.length → pkt'.length = pkt.length →
    isCrc32Correct pkt = some true → crcBytes pkt' = crcBytes pkt →
      Burst (covered pkt) (covered pkt') → isCrc32Correct pkt' = some false
  checksum : ∀ pkt pkt' : List UInt8, 6 ≤ pkt.length → pkt'.length = pkt.length →
    isCrc32Correct pkt = some true → covered pkt' = covered pkt → crcBytes pkt' ≠ crcBytes pkt →
      isCrc32Correct pkt' = some false

/-! ### The table -/

/-- A word of the table. -/
def crc32Word (i : BitVec 8) : BitVec 32 := (crc32table.getD i.toNat 0).toBitVec

theorem crc32table_eq : crc32table.map UInt32.toBitVec =
    (List.range 256).map fun i => Crc.divBits 0xEDB88320 8 (BitVec.ofNat 32 i) := by
  decide +kernel

/-- **The table is that of the polynomial 0xEDB88320.** -/
theorem crc32Word_eq (i : BitVec 8) :
    crc32Word i = Crc.divBits 0xEDB88320 8 (i.setWidth 32) := by
  have hword : (crc32table.map UInt32.toBitVec).getD i.toNat 0 = crc32Word i :=
    List.getD_map _ _ UInt32.toBitVec
  have hlt : i.toNat < ((List.range 256).map fun i =>
      Crc.divBits 0xEDB88320 8 (BitVec.ofNat 32 i)).length := by
    rw [List.length_map, List.length_range]
    exact i.isLt
  rw [← hword, crc32table_eq, List.getD_eq_getElem _ _ hlt, List.getElem_map, List.getElem_range,
    BitVec.ofNat_toNat]

theorem crc32Top_zero : ∀ i < 256,
    Crc.divBits 0xEDB88320 8 (BitVec.ofNat 32 i) >>> (32 - 8) = 0 → i = 0 := by
  decide +kernel

/-- The top byte of a word tells which one it is. -/
theorem crc32Word_top : Crc.TopInjective crc32Word := by
  apply Crc.topInjective_of_divBits crc32Word_eq
  intro i h
  rw [crc32Word_eq, ← BitVec.ofNat_toNat] at h
  exact BitVec.eq_of_toNat_eq (crc32Top_zero i.toNat i.isLt h)

theorem crc32Step_toBitVec (s : UInt32) (b : UInt8) :
    (crc32Step s b).toBitVec = Crc.update crc32Word s.toBitVec b.toBitVec := rfl

theorem foldl_crc32Step (s : UInt32) (bs : List UInt8) :
    (bs.foldl crc32Step s).toBitVec =
      Crc.remainder crc32Word s.toBitVec (bs.map UInt8.toBitVec) := by
  induction bs generalizing s with
  | nil => rfl
  | cons b bs ih =>
    rw [List.foldl_cons, ih, crc32Step_toBitVec]
    rfl

/-! ### Chunks -/

theorem xor_twice (v m : UInt32) : v ^^^ m ^^^ m = v := by
  rw [UInt32.xor_assoc, UInt32.xor_self, UInt32.xor_zero]

/-- **A checksum is continued.** -/
theorem calcCrc32_continued (data data' : List UInt8) (startValue : UInt32) (isFirstCall : Bool) :
    calcCrc32 data' (calcCrc32 data startValue isFirstCall) false =
      calcCrc32 (data ++ data') startValue isFirstCall := by
  unfold calcCrc32
  dsimp only
  rw [if_neg Bool.false_ne_true, xor_twice, List.foldl_append]

theorem calcCrc32_chunks (startValue : UInt32) (chunk : List UInt8) (chunks : List (List UInt8)) :
    chunks.foldl (fun crc data => calcCrc32 data crc false) (calcCrc32 chunk startValue true) =
      calcCrc32 (chunk ++ chunks.flatten) startValue true := by
  induction chunks generalizing chunk with
  | nil => rw [List.flatten_nil, List.append_nil, List.foldl_nil]
  | cons data chunks ih =>
    rw [List.foldl_cons, calcCrc32_continued, ih, List.flatten_cons, List.append_assoc]

/-! ### Changes -/

/-- **A burst of four bytes changes the checksum.** -/
theorem calcCrc32_burst {bs bs' : List UInt8} (h : Burst bs bs') (startValue : UInt32)
    (isFirstCall : Bool) :
    calcCrc32 bs startValue isFirstCall ≠ calcCrc32 bs' startValue isFirstCall := by
  obtain ⟨pre, mid, mid', post, rfl, rfl, hlen, hburst, hne⟩ := h
  intro heq
  unfold calcCrc32 at heq
  dsimp only at heq
  generalize (if isFirstCall = true then 0xFFFFFFFF else startValue ^^^ 0xFFFFFFFF) = s at heq
  have hfold := congrArg UInt32.toBitVec ((UInt32.xor_left_inj _).mp heq)
  rw [foldl_crc32Step, foldl_crc32Step, List.map_append, List.map_append, List.map_append,
    List.map_append] at hfold
  refine Crc.remainder_burst crc32Word_top (by decide) ?_ ?_ ?_ hfold
  · rw [List.length_map, List.length_map, hlen]
  · rw [List.length_map]
    omega
  · intro hmid
    exact hne (List.map_injective_iff.mpr (fun _ _ => UInt8.toBitVec_inj.mp) hmid)

/-! ### Packets -/

/-- A packet is accepted when the checksum of what is covered is the stored one. -/
theorem isCrc32Correct_eq {pkt : List UInt8} (h : 6 ≤ pkt.length) :
    isCrc32Correct pkt = some (calcCrc32 (covered pkt) 0 true == storedCrc32 pkt) := by
  unfold isCrc32Correct covered
  dsimp only
  rw [if_neg (Nat.not_lt.mpr h), calcCrc32_continued]

theorem toNat_readU32 (b₀ b₁ b₂ b₃ : UInt8) :
    (readU32 b₀ b₁ b₂ b₃).toNat =
      b₀.toNat + b₁.toNat * 2 ^ 8 + b₂.toNat * 2 ^ 16 + b₃.toNat * 2 ^ 24 := by
  have h₀ := b₀.toNat_lt
  have h₁ := b₁.toNat_lt
  have h₂ := b₂.toNat_lt
  have h₃ := b₃.toNat_lt
  exact UInt32.toNat_ofNat_of_lt' (show _ < 2 ^ 32 by omega)

/-- The bytes that are read in the other order. -/
theorem htonl_readU32 (b₀ b₁ b₂ b₃ : UInt8) :
    htonl (readU32 b₀ b₁ b₂ b₃) = readU32 b₃ b₂ b₁ b₀ := by
  have h₀ := b₀.toNat_lt
  have h₁ := b₁.toNat_lt
  have h₂ := b₂.toNat_lt
  have hbyte : ∀ {n : ℕ} {b : UInt8}, n % 2 ^ 8 = b.toNat → UInt8.ofNat n = b := by
    intro n b h
    exact UInt8.toNat_inj.mp (UInt8.toNat_ofNat'.trans h)
  have h₃ := b₃.toNat_lt
  unfold htonl
  rw [toNat_readU32]
  congr 1 <;> exact hbyte (by omega)

/-- A number tells its bytes. -/
theorem readU32_injective {b₀ b₁ b₂ b₃ c₀ c₁ c₂ c₃ : UInt8}
    (h : readU32 b₀ b₁ b₂ b₃ = readU32 c₀ c₁ c₂ c₃) : b₀ = c₀ ∧ b₁ = c₁ ∧ b₂ = c₂ ∧ b₃ = c₃ := by
  have hnat := congrArg UInt32.toNat h
  rw [toNat_readU32, toNat_readU32] at hnat
  have hb₀ := b₀.toNat_lt
  have hb₁ := b₁.toNat_lt
  have hb₂ := b₂.toNat_lt
  have hb₃ := b₃.toNat_lt
  have hc₀ := c₀.toNat_lt
  have hc₁ := c₁.toNat_lt
  have hc₂ := c₂.toNat_lt
  have hc₃ := c₃.toNat_lt
  refine ⟨?_, ?_, ?_, ?_⟩ <;> exact UInt8.toNat_inj.mp (by omega)

/-- The checksum of a packet is its four bytes, the highest one first. -/
theorem storedCrc32_eq {pkt : List UInt8} (h : 6 ≤ pkt.length) :
    ∃ b₀ b₁ b₂ b₃, crcBytes pkt = [b₀, b₁, b₂, b₃] ∧ storedCrc32 pkt = readU32 b₃ b₂ b₁ b₀ := by
  have hlen : (pkt.drop (pkt.length - 6)).length = 6 := by
    rw [List.length_drop]
    omega
  unfold crcBytes storedCrc32
  match pkt.drop (pkt.length - 6), hlen with
  | [b₀, b₁, b₂, b₃, _, _], _ => exact ⟨b₀, b₁, b₂, b₃, rfl, htonl_readU32 ..⟩

theorem storedCrc32_inj {pkt pkt' : List UInt8} (h : 6 ≤ pkt.length) (h' : 6 ≤ pkt'.length) :
    storedCrc32 pkt' = storedCrc32 pkt ↔ crcBytes pkt' = crcBytes pkt := by
  obtain ⟨b₀, b₁, b₂, b₃, hbytes, hcrc⟩ := storedCrc32_eq h
  obtain ⟨c₀, c₁, c₂, c₃, hbytes', hcrc'⟩ := storedCrc32_eq h'
  rw [hbytes, hbytes', hcrc, hcrc']
  constructor
  · intro heq
    obtain ⟨rfl, rfl, rfl, rfl⟩ := readU32_injective heq
    rfl
  · intro heq
    obtain ⟨rfl, rfl, rfl, rfl⟩ : c₀ = b₀ ∧ c₁ = b₁ ∧ c₂ = b₂ ∧ c₃ = b₃ := by simpa using heq
    rfl

theorem covered_short {pkt : List UInt8} (h : pkt.length < 2 ^ 32 + 6) :
    covered pkt = pkt.take (pkt.length - 6) ++ pkt.drop (pkt.length - 2) := by
  unfold covered
  rw [Nat.mod_eq_of_lt (by omega)]

/-- **The checksum is a function of the bytes, and tells apart what differs in a burst.** -/
theorem crc32_ok : Crc32Ok := by
  have hwrong : ∀ {pkt : List UInt8}, 6 ≤ pkt.length →
      calcCrc32 (covered pkt) 0 true ≠ storedCrc32 pkt → isCrc32Correct pkt = some false := by
    intro pkt h hne
    rw [isCrc32Correct_eq h, beq_false_of_ne hne]
  have hright : ∀ {pkt : List UInt8}, 6 ≤ pkt.length → isCrc32Correct pkt = some true →
      calcCrc32 (covered pkt) 0 true = storedCrc32 pkt := by
    intro pkt h hok
    rw [isCrc32Correct_eq h] at hok
    exact beq_iff_eq.mp (Option.some.inj hok)
  constructor
  · exact calcCrc32_chunks
  · exact fun pkt h => covered_short h
  · intro pkt pkt' h hlen hok hcrc hburst
    have h' : 6 ≤ pkt'.length := hlen ▸ h
    apply hwrong h'
    rw [(storedCrc32_inj h h').mpr hcrc, ← hright h hok]
    exact (calcCrc32_burst hburst 0 true).symm
  · intro pkt pkt' h hlen hok hsame hcrc
    have h' : 6 ≤ pkt'.length := hlen ▸ h
    apply hwrong h'
    rw [hsame, hright h hok]
    exact fun heq => hcrc ((storedCrc32_inj h h').mp heq.symm)

end Rs
end SensorSupport
