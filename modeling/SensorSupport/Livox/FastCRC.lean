/-
# The checksums (`3rdparty/FastCRC`)

The checksums the SDK uses are fixed functions of the bytes they cover. The
table-driven code is given here by the parameters its comments state: the
polynomial, the initial value, the bit order and the final xor, and each is
tested on the check value next to them.

Key definitions: `FastCRC`, `FastCRC.standard`.
-/
import Mathlib.Tactic.Common

namespace SensorSupport
namespace Livox

/-- The checksums of `FastCRC16` and `FastCRC32` the SDK calls. -/
structure FastCRC where
  /-- `FastCRC16::ccitt`, over the header of a command frame. -/
  ccitt : List UInt8 → UInt16
  /-- `FastCRC16::mcrf4xx`, over the header of a firmware file. -/
  mcrf4xx : List UInt8 → UInt16
  /-- `FastCRC32::crc32`, over the data. -/
  crc32 : List UInt8 → UInt32

/-- One bit of a checksum that shifts left (`refin=false`). -/
def shiftLeft16 (poly crc : UInt16) : UInt16 :=
  if crc &&& 0x8000 = 0 then crc <<< 1 else (crc <<< 1) ^^^ poly

/-- One bit of a checksum that shifts right (`refin=true`), with the
polynomial reversed. -/
def shiftRight16 (poly crc : UInt16) : UInt16 :=
  if crc &&& 1 = 0 then crc >>> 1 else (crc >>> 1) ^^^ poly

/-- As `shiftRight16`, for 32 bits. -/
def shiftRight32 (poly crc : UInt32) : UInt32 :=
  if crc &&& 1 = 0 then crc >>> 1 else (crc >>> 1) ^^^ poly

/-- A function applied to the result of itself, eight times. -/
def eightTimes {α : Type} (f : α → α) (a : α) : α := f (f (f (f (f (f (f (f a)))))))

namespace FastCRC

/-- The checksums with the parameters of `FastCRCsw.cpp`. The seed of
`mcrf4xx` is 0 there, not the 0xffff of its comment. -/
def standard : FastCRC where
  ccitt bytes := bytes.foldl (fun (crc : UInt16) b =>
    eightTimes (shiftLeft16 0x1021) (crc ^^^ (b.toUInt16 <<< (8 : UInt16)))) 0xFFFF
  mcrf4xx bytes := bytes.foldl (fun (crc : UInt16) b =>
    eightTimes (shiftRight16 0x8408) (crc ^^^ b.toUInt16)) 0
  crc32 bytes := bytes.foldl (fun (crc : UInt32) b =>
    eightTimes (shiftRight32 0xEDB88320) (crc ^^^ b.toUInt32)) 0xFFFFFFFF ^^^ 0xFFFFFFFF

/-- `"123456789"`, whose checksums are the check values. -/
def checkInput : List UInt8 := [0x31, 0x32, 0x33, 0x34, 0x35, 0x36, 0x37, 0x38, 0x39]

example : standard.ccitt checkInput = 0x29B1 := by decide +kernel

example : standard.crc32 checkInput = 0xCBF43926 := by decide +kernel

/-- The checksum of zeros, from the seed 0, is 0. -/
theorem mcrf4xx_replicate_zero (n : ℕ) : standard.mcrf4xx (List.replicate n 0) = 0 := by
  have hzero : eightTimes (shiftRight16 0x8408) (0 ^^^ (0 : UInt8).toUInt16) = 0 := by decide
  induction n with
  | zero => rfl
  | succ n ih =>
    rw [List.replicate_succ]
    simp only [standard, List.foldl_cons] at ih ⊢
    rw [hzero]
    exact ih

end FastCRC

end Livox
end SensorSupport
