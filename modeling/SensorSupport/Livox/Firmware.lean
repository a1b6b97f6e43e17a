/-
# Firmware files (`upgrade/firmware.cpp`)

A firmware file is a header of 286 bytes with a checksum, the image and a
tail of 16 bytes. `Open` checks the size of the file against the smallest one
and the checksum of the header; the image and the tail are read without a
check, so a file that ends early leaves them as they were.

Key definitions: `LivoxEncryptFirmwareHeader`, `Firmware`, `Firmware.open`.
-/
import SensorSupport.Lib.Memory
import SensorSupport.Livox.FastCRC

namespace SensorSupport
namespace Livox

/-- `kMd5SignatureLength`, the size of `LivoxEncryptFirmwareTail`. -/
def kMd5SignatureLength : ℕ := 16

/-- `kEnlFileVersionV3`. -/
def kEnlFileVersionV3 : UInt32 := 0x03000000

/-- `LivoxEncryptFirmwareHeader`. -/
structure LivoxEncryptFirmwareHeader where
  fileVersion : UInt32
  firmwareVersion : UInt32
  firmwareLength : UInt32
  firmwareType : UInt8
  deviceType : UInt8
  encryptType : UInt8
  checksumType : UInt8
  checksumLength : UInt16
  checksum : List UInt8
  hwWhitelist : List UInt8
  modifyTime : UInt64
  headerChecksum : UInt16

namespace LivoxEncryptFirmwareHeader

/-- `sizeof(header_)`. -/
def size : ℕ := 286

/-- The header at the start of a file. -/
def read (file : Mem) : LivoxEncryptFirmwareHeader where
  fileVersion := file.u32 0
  firmwareVersion := file.u32 4
  firmwareLength := file.u32 8
  firmwareType := file 12
  deviceType := file 13
  encryptType := file 14
  checksumType := file 17
  checksumLength := file.u16 18
  checksum := file.bytes 20 128
  hwWhitelist := file.bytes 148 128
  modifyTime := UInt64.ofNat (leValue (file.bytes 276 8))
  headerChecksum := file.u16 284

end LivoxEncryptFirmwareHeader

/-- `Firmware`. The image is allocated with the length the header gives. -/
structure Firmware where
  header : LivoxEncryptFirmwareHeader
  data : List UInt8
  tail : List UInt8
  fileSize : ℕ
  data_length : data.length = header.firmwareLength.toNat

namespace Firmware

/-- `FirmwarePackageVersion`. -/
def firmwarePackageVersion (firmware : Firmware) : UInt32 := firmware.header.fileVersion

/-- `MiniFileSize`. -/
def miniFileSize : ℕ := LivoxEncryptFirmwareHeader.size + kMd5SignatureLength + 1

/-- The bytes `file_.read` puts into a buffer of `n` bytes, from `off` on. What
the file does not have stays as it was. -/
def readInto (file : List UInt8) (off n : ℕ) (buffer : ℕ → UInt8) : List UInt8 :=
  (List.range n).map fun i => (file[off + i]?).getD (buffer i)

/-- What `ReadAndCheckHeader` reads, `data_` being allocated in the memory
`fresh`. -/
def read (file : List UInt8) (fresh : ℕ → UInt8) : Firmware :=
  let header := LivoxEncryptFirmwareHeader.read (memOf file)
  { header
    data := readInto file LivoxEncryptFirmwareHeader.size header.firmwareLength.toNat fresh
    tail := readInto file (LivoxEncryptFirmwareHeader.size + header.firmwareLength.toNat)
      kMd5SignatureLength fun _ => 0
    fileSize := file.length
    data_length := by simp [readInto] }

/-- `ReadAndCheckHeader`. -/
def readAndCheckHeader (crc : FastCRC) (file : List UInt8) (fresh : ℕ → UInt8) : Option Firmware :=
  let headerChecksum := (LivoxEncryptFirmwareHeader.read (memOf file)).headerChecksum
  if crc.mcrf4xx ((memOf file).bytes 0 (LivoxEncryptFirmwareHeader.size - 2)) ≠ headerChecksum then
    none
  else some (read file fresh)

/-- `Open`, given what the path leads to: the firmware, unless it returns
false. -/
def «open» (crc : FastCRC) (path : Option (List UInt8)) (fresh : ℕ → UInt8) : Option Firmware :=
  match path with
  | none => none
  | some file => if file.length < miniFileSize then none else readAndCheckHeader crc file fresh

/-- The smallest file that is accepted, of zeros. -/
theorem open_zeros (fresh : ℕ → UInt8) :
    «open» FastCRC.standard (some (List.replicate 303 0)) fresh =
      some (read (List.replicate 303 0) fresh) := by
  have hlong : ¬ (List.replicate 303 (0 : UInt8)).length < miniFileSize := by
    rw [List.length_replicate]
    decide
  rw [«open», if_neg hlong, readAndCheckHeader, if_neg]
  rw [ne_eq, not_not, memOf_replicate_zero, Mem.bytes_const, FastCRC.mcrf4xx_replicate_zero]
  rfl

end Firmware

end Livox
end SensorSupport
