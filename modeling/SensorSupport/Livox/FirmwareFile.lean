/-
# The opening of a firmware file (`upgrade/firmware.cpp`)

`Firmware` keeps its stream, and `Open` reads the header, the image and the
tail from it one after the other. A file is accepted when it has the smallest
size and its header the right checksum. That the image and the tail were read
is not asked: a file that ends early is accepted with what the memory had. And
a stream that a first `Open` has left open opens no second file, so `Open`
goes on with the header it has. `CompleteXferFirmware` sends the checksum of
the header with a length of one byte, where the header has two. The image is
taken to be allocated whatever its length.

Key definitions: `FirmwareFile`, `FirmwareFile.open`,
`FirmwareFile.checksumCopy`, `FirmwareFile.OpenOk`, `FirmwareFile.OpensWhole`.
Key theorems: `FirmwareFile.open_create`, `FirmwareFile.openOk_iff`,
`FirmwareFile.openOk_short`.
-/
import SensorSupport.Lib.InputStream
import SensorSupport.Livox.Upgrader

namespace SensorSupport
namespace Livox

open Firmware

namespace FirmwareFile

/-- The fields of the bytes of a header. -/
def fieldsOf (header : List UInt8) : LivoxEncryptFirmwareHeader := .read (memOf header)

/-- The `firmware_length` of the bytes of a header. -/
def imageLength (header : List UInt8) : ℕ := (fieldsOf header).firmwareLength.toNat

/-- Has a header the checksum of the bytes before it? -/
def HasChecksum (crc : FastCRC) (header : List UInt8) : Prop :=
  crc.mcrf4xx (header.take (LivoxEncryptFirmwareHeader.size - 2)) = (fieldsOf header).headerChecksum

instance (crc : FastCRC) (header : List UInt8) : Decidable (HasChecksum crc header) :=
  inferInstanceAs (Decidable (_ = _))

end FirmwareFile

/-- `Firmware`, with its stream. Without an image, `data` has no bytes. -/
structure FirmwareFile where
  header : List UInt8
  data : List UInt8
  tail : List UInt8
  fileSize : ℕ
  file : InputStream UInt8
  header_length : header.length = LivoxEncryptFirmwareHeader.size
  tail_length : tail.length = kMd5SignatureLength

namespace FirmwareFile

/-- The constructor. -/
def create : FirmwareFile where
  header := List.replicate LivoxEncryptFirmwareHeader.size 0
  data := []
  tail := List.replicate kMd5SignatureLength 0
  fileSize := 0
  file := .closed
  header_length := List.length_replicate
  tail_length := List.length_replicate

variable (f : FirmwareFile)

/-- `Close`. -/
def close : FirmwareFile := { f with file := f.file.close }

/-- What is read of the header. -/
def readHeader : FirmwareFile :=
  let headerRead := (f.file.seek 0).read LivoxEncryptFirmwareHeader.size
  { f with
    header := InputStream.fill headerRead.1 f.header
    file := headerRead.2
    header_length := InputStream.fill_read_length _ f.header_length }

/-- What is read of the image, allocated in the memory `fresh`, and of the
tail. -/
def readImage (fresh : ℕ → UInt8) : FirmwareFile :=
  let dataRead := f.file.read (imageLength f.header)
  let tailRead := dataRead.2.read kMd5SignatureLength
  { f with
    data := InputStream.fill dataRead.1 ((List.range (imageLength f.header)).map fresh)
    tail := InputStream.fill tailRead.1 f.tail
    file := tailRead.2
    tail_length := InputStream.fill_read_length _ f.tail_length }

/-- `ReadAndCheckHeader`. -/
def readAndCheckHeader (crc : FastCRC) (fresh : ℕ → UInt8) : Bool × FirmwareFile :=
  if HasChecksum crc f.readHeader.header then (true, f.readHeader.readImage fresh)
  else (false, f.readHeader)

/-- `Open`, given what the path leads to. -/
def «open» (crc : FastCRC) (path : Option (Option (List UInt8))) (fresh : ℕ → UInt8) :
    Bool × FirmwareFile :=
  match path with
  | none => (false, f)
  | some target =>
    let opened := f.file.openAtEnd target
    if opened.isOpen then
      -- where `tellg` fails it returns -1, which `file_size_` takes for the greatest size
      let fileSize := opened.tell.1.getD (2 ^ 64 - 1)
      let f := { f with fileSize, file := opened.tell.2.seek 0 }
      if fileSize < miniFileSize then (false, f) else f.readAndCheckHeader crc fresh
    else (false, { f with file := opened })

/-- The bytes that `CompleteXferFirmware` copies out of `header_`, with where
they are. -/
def checksumCopy : Traced ℕ (List UInt8) :=
  (memOf f.header).readBytes 20 (fieldsOf f.header).checksumLength.toUInt8.toNat

/-! ### What an accepted file gives -/

/-- What a file has that was accepted, and what was read of it. -/
structure Accepted (crc : FastCRC) (file : List UInt8) : Prop where
  header : f.header = file.take LivoxEncryptFirmwareHeader.size
  checksum : HasChecksum crc f.header
  complete : LivoxEncryptFirmwareHeader.size + imageLength f.header + kMd5SignatureLength ≤
    file.length
  data : f.data = (file.drop LivoxEncryptFirmwareHeader.size).take (imageLength f.header)
  tail : f.tail = (file.drop (LivoxEncryptFirmwareHeader.size + imageLength f.header)).take
    kMd5SignatureLength

/-- The checksum is copied from inside its field, and sent with its length. -/
structure ChecksumSent : Prop where
  inside : f.checksumCopy.All fun addr => 20 ≤ addr ∧ addr < 20 + 128
  full : ∀ u : LivoxLidarUpgrader, u.firmware.header = fieldsOf f.header → ∃ checksum,
    u.completeXferFirmware.2 =
      some (.completeXferFirmware (fieldsOf f.header).checksumType checksum) ∧
    checksum.length = (fieldsOf f.header).checksumLength.toNat

/-- `Open` returns true only when the path leads to a file that is complete
and has the right checksum, it has read what the file has, and the checksum
can be sent. -/
def OpenOk (crc : FastCRC) (path : Option (Option (List UInt8))) : Prop :=
  ∀ fresh, (f.open crc path fresh).1 = true → ∃ file, path = some (some file) ∧
    (f.open crc path fresh).2.Accepted crc file ∧ (f.open crc path fresh).2.ChecksumSent

/-- A file of the smallest size with the right header checksum has the image
and the tail too, and a checksum of 128 bytes at most. -/
def Whole (crc : FastCRC) (file : List UInt8) : Prop :=
  miniFileSize ≤ file.length → HasChecksum crc (file.take LivoxEncryptFirmwareHeader.size) →
    LivoxEncryptFirmwareHeader.size + imageLength (file.take LivoxEncryptFirmwareHeader.size) +
        kMd5SignatureLength ≤ file.length ∧
      (fieldsOf (file.take LivoxEncryptFirmwareHeader.size)).checksumLength.toNat ≤ 128

/-- The header and the tail that are there are those of the file, whose image
is empty. -/
structure Holds (file : List UInt8) : Prop where
  header : f.header = file.take LivoxEncryptFirmwareHeader.size
  empty : imageLength f.header = 0
  complete : LivoxEncryptFirmwareHeader.size + kMd5SignatureLength ≤ file.length
  tail : f.tail = (file.drop LivoxEncryptFirmwareHeader.size).take kMd5SignatureLength
  checksum : (fieldsOf f.header).checksumLength.toNat ≤ 128

/-- No file is open and the one the path leads to is whole, or else the header
that is there has the wrong checksum or is already that of the file. -/
def OpensWhole (crc : FastCRC) (path : Option (Option (List UInt8))) : Prop :=
  if f.file.isOpen then
    path ≠ none → HasChecksum crc f.header → ∃ file, path = some (some file) ∧ f.Holds file
  else ∀ file, path = some (some file) → Whole crc file

/-! ### What is read -/

theorem fieldsOf_take (file : List UInt8) :
    fieldsOf (file.take LivoxEncryptFirmwareHeader.size) = .read (memOf file) := by
  have hbytes : ∀ i n, i + n ≤ LivoxEncryptFirmwareHeader.size →
      (memOf (file.take LivoxEncryptFirmwareHeader.size)).bytes i n = (memOf file).bytes i n :=
    fun i n h => Mem.bytes_congr fun k _ hk => memOf_take file (by omega)
  have hbyte : ∀ i < LivoxEncryptFirmwareHeader.size,
      memOf (file.take LivoxEncryptFirmwareHeader.size) i = memOf file i :=
    fun i h => memOf_take file h
  unfold fieldsOf LivoxEncryptFirmwareHeader.read
  simp only [Mem.u32, Mem.u16]
  rw [hbytes 0 4 (by decide), hbytes 4 4 (by decide), hbytes 8 4 (by decide),
    hbyte 12 (by decide), hbyte 13 (by decide), hbyte 14 (by decide), hbyte 17 (by decide),
    hbytes 18 2 (by decide), hbytes 20 128 (by decide), hbytes 148 128 (by decide),
    hbytes 276 8 (by decide), hbytes 284 2 (by decide)]

variable {f} {crc : FastCRC} {file : List UInt8} {fresh : ℕ → UInt8}

/-- The header of a file that has one. -/
theorem readHeader_opened (h : f.file = ⟨some file, 0, false, false⟩)
    (hsize : LivoxEncryptFirmwareHeader.size ≤ file.length) :
    f.readHeader.header = file.take LivoxEncryptFirmwareHeader.size ∧
      f.readHeader.file = ⟨some file, LivoxEncryptFirmwareHeader.size, false, false⟩ := by
  have hseek : f.file.seek 0 = ⟨some file, 0, false, false⟩ := by rw [h]; rfl
  have hlength : (file.take LivoxEncryptFirmwareHeader.size).length = f.header.length := by
    rw [List.length_take_of_le hsize, f.header_length]
  constructor
  · show InputStream.fill ((f.file.seek 0).read _).1 f.header = _
    rw [hseek, InputStream.read_fst rfl]
    exact InputStream.fill_of_length hlength
  · show ((f.file.seek 0).read _).2 = _
    rw [hseek, InputStream.read_snd rfl hsize]
    rfl

/-- From a failed stream the header is not read. -/
theorem readHeader_failed (h : f.file.fail = true) :
    f.readHeader.header = f.header ∧ f.readHeader.file.fail = true := by
  have hseek : (f.file.seek 0).fail = true := by rw [InputStream.seek_failed h, h]
  constructor
  · show InputStream.fill ((f.file.seek 0).read _).1 f.header = _
    rw [InputStream.read_failed hseek, InputStream.fill_nil]
  · show ((f.file.seek 0).read _).2.fail = _
    rw [InputStream.read_failed hseek, hseek]

/-- What there is of the image and the tail behind the header. -/
theorem readImage_opened (fresh : ℕ → UInt8)
    (h : f.file = ⟨some file, LivoxEncryptFirmwareHeader.size, false, false⟩) :
    (f.readImage fresh).data = InputStream.fill
        ((file.drop LivoxEncryptFirmwareHeader.size).take (imageLength f.header))
        ((List.range (imageLength f.header)).map fresh) ∧
      (f.readImage fresh).tail = InputStream.fill
        ((file.drop (LivoxEncryptFirmwareHeader.size + imageLength f.header)).take
          kMd5SignatureLength) f.tail := by
  have hgood : f.file.good = true := by rw [h]; rfl
  have hrest : f.file.rest = file.drop LivoxEncryptFirmwareHeader.size := by rw [h]; rfl
  constructor
  · show InputStream.fill (f.file.read _).1 _ = _
    rw [InputStream.read_fst hgood, hrest]
  · show InputStream.fill ((f.file.read _).2.read _).1 _ = _
    rw [InputStream.read_read hgood, hrest, List.drop_drop]

/-- From a failed stream neither is read. -/
theorem readImage_failed (fresh : ℕ → UInt8) (h : f.file.fail = true) :
    (f.readImage fresh).data = (List.range (imageLength f.header)).map fresh ∧
      (f.readImage fresh).tail = f.tail := by
  have hdata := InputStream.read_failed h (imageLength f.header)
  constructor
  · show InputStream.fill (f.file.read _).1 _ = _
    rw [hdata, InputStream.fill_nil]
  · show InputStream.fill ((f.file.read _).2.read _).1 _ = _
    rw [hdata, InputStream.read_failed h, InputStream.fill_nil]

/-! ### What is accepted -/

theorem open_missing (h : f.file.isOpen = false) : (f.open crc (some none) fresh).1 = false := by
  have hopened : ¬ ({ f.file with fail := true } : InputStream UInt8).isOpen = true :=
    Bool.eq_false_iff.mp h
  simp only [«open», InputStream.openAtEnd_missing h, if_neg hopened]

/-- A file is opened where none is open. -/
theorem open_closed (h : f.file.isOpen = false) :
    f.open crc (some (some file)) fresh =
      let f := { f with fileSize := file.length, file := ⟨some file, 0, false, false⟩ }
      if file.length < miniFileSize then (false, f) else f.readAndCheckHeader crc fresh := by
  simp only [«open», InputStream.openAtEnd_closed h]
  rfl

/-- Where a file is open already, the stream fails. -/
theorem open_opened (h : f.file.isOpen = true) (target : Option (List UInt8)) :
    f.open crc (some target) fresh =
      ({ f with
        fileSize := 2 ^ 64 - 1
        file := { f.file with eof := false, fail := true } }).readAndCheckHeader crc fresh := by
  have hopen : ({ f.file with fail := true } : InputStream UInt8).isOpen = true := h
  have htell : ({ f.file with fail := true } : InputStream UInt8).tell =
      (none, { f.file with fail := true }) := by
    simp [InputStream.tell, InputStream.good]
  simp only [«open», InputStream.openAtEnd_open h, if_pos hopen, htell]
  rfl

/-- A file of the smallest size with the right header checksum is accepted, and
what there is of it is read. -/
theorem open_accepts (fresh : ℕ → UInt8) (h : f.file.isOpen = false) (hsize : miniFileSize ≤ file.length)
    (hsum : HasChecksum crc (file.take LivoxEncryptFirmwareHeader.size)) :
    (f.open crc (some (some file)) fresh).1 = true ∧
      let f' := (f.open crc (some (some file)) fresh).2
      f'.header = file.take LivoxEncryptFirmwareHeader.size ∧
      f'.data = InputStream.fill
        ((file.drop LivoxEncryptFirmwareHeader.size).take (imageLength f'.header))
        ((List.range (imageLength f'.header)).map fresh) ∧
      f'.tail = InputStream.fill
        ((file.drop (LivoxEncryptFirmwareHeader.size + imageLength f'.header)).take
          kMd5SignatureLength) f.tail := by
  have hheader : LivoxEncryptFirmwareHeader.size ≤ file.length :=
    Nat.le_trans (by decide) hsize
  rw [open_closed h]
  dsimp only
  rw [if_neg (Nat.not_lt.mpr hsize)]
  generalize hf₀ : ({ f with fileSize := _, file := _ } : FirmwareFile) = f₀
  have htail : f₀.tail = f.tail := by rw [← hf₀]
  obtain ⟨hread, hstream⟩ := readHeader_opened (f := f₀) (by rw [← hf₀]) hheader
  obtain ⟨hdata, htail'⟩ := readImage_opened fresh hstream
  rw [readAndCheckHeader, if_pos (hread ▸ hsum)]
  exact ⟨rfl, hread, hdata, htail ▸ htail'⟩

/-- No other file is accepted. -/
theorem open_rejects (crc : FastCRC) (fresh : ℕ → UInt8) (h : f.file.isOpen = false)
    (hnot : ¬ (miniFileSize ≤ file.length ∧
      HasChecksum crc (file.take LivoxEncryptFirmwareHeader.size))) :
    (f.open crc (some (some file)) fresh).1 = false := by
  rw [open_closed h]
  dsimp only
  by_cases hsize : miniFileSize ≤ file.length
  · have hheader : LivoxEncryptFirmwareHeader.size ≤ file.length :=
      Nat.le_trans (by decide) hsize
    rw [if_neg (Nat.not_lt.mpr hsize)]
    generalize hf₀ : ({ f with fileSize := _, file := _ } : FirmwareFile) = f₀
    obtain ⟨hread, -⟩ := readHeader_opened (f := f₀) (by rw [← hf₀]) hheader
    rw [readAndCheckHeader, if_neg (hread ▸ fun hsum => hnot ⟨hsize, hsum⟩)]
  · rw [if_pos (Nat.not_le.mp hsize)]

/-- Where a file is open already, the header that is there decides, and nothing
is read. -/
theorem reopen (crc : FastCRC) (fresh : ℕ → UInt8) (h : f.file.isOpen = true)
    (target : Option (List UInt8)) :
    ((f.open crc (some target) fresh).1 = true ↔ HasChecksum crc f.header) ∧
      (HasChecksum crc f.header →
        let f' := (f.open crc (some target) fresh).2
        f'.header = f.header ∧
        f'.data = (List.range (imageLength f.header)).map fresh ∧ f'.tail = f.tail) := by
  rw [open_opened h]
  generalize hf₀ : ({ f with fileSize := _, file := _ } : FirmwareFile) = f₀
  have hheader : f₀.header = f.header := by rw [← hf₀]
  have htail : f₀.tail = f.tail := by rw [← hf₀]
  obtain ⟨hread, hstream⟩ := readHeader_failed (f := f₀) (by rw [← hf₀])
  obtain ⟨hdata, htail'⟩ := readImage_failed fresh hstream
  rw [hheader] at hread
  rw [readAndCheckHeader, hread]
  by_cases hsum : HasChecksum crc f.header
  · rw [if_pos hsum]
    exact ⟨iff_of_true rfl hsum, fun _ => ⟨hread, hread ▸ hdata, htail ▸ htail'⟩⟩
  · rw [if_neg hsum]
    exact ⟨iff_of_false Bool.false_ne_true hsum, fun hsum' => absurd hsum' hsum⟩

/-! ### The file without its stream -/

theorem hasChecksum_take (crc : FastCRC) (h : LivoxEncryptFirmwareHeader.size ≤ file.length) :
    HasChecksum crc (file.take LivoxEncryptFirmwareHeader.size) ↔
      crc.mcrf4xx ((memOf file).bytes 0 (LivoxEncryptFirmwareHeader.size - 2)) =
        (LivoxEncryptFirmwareHeader.read (memOf file)).headerChecksum := by
  have hle : LivoxEncryptFirmwareHeader.size - 2 ≤ file.length :=
    Nat.le_trans (Nat.sub_le _ _) h
  rw [HasChecksum, fieldsOf_take, List.take_take, Mem.bytes_memOf file hle]
  rfl

theorem readInto_eq_fill (file : List UInt8) (off n : ℕ) (buffer : ℕ → UInt8) :
    readInto file off n buffer =
      InputStream.fill ((file.drop off).take n) ((List.range n).map buffer) := by
  refine List.ext_getElem? fun i => ?_
  by_cases hi : i < n
  · by_cases hlt : off + i < file.length
    · have hread : i < ((file.drop off).take n).length := by
        rw [List.length_take, List.length_drop]
        omega
      rw [InputStream.fill, List.getElem?_append_left hread]
      simp [readInto, hi, hlt]
    · have hread : ((file.drop off).take n).length ≤ i := by
        rw [List.length_take, List.length_drop]
        omega
      rw [InputStream.fill, List.getElem?_append_right hread, List.getElem?_drop,
        Nat.add_sub_cancel' hread]
      simp [readInto, hi, Nat.not_lt.mp hlt]
  · have hread := InputStream.fill_length ((file.drop off).take n) ((List.range n).map buffer)
      (by simp)
    rw [List.getElem?_eq_none (by simpa [readInto] using hi),
      List.getElem?_eq_none (by simpa [hread] using hi)]

/-- **The first `Open`** of a `Firmware` is the opening of the file alone. -/
theorem open_create (crc : FastCRC) (file : List UInt8) (fresh : ℕ → UInt8) :
    let opened := create.open crc (some (some file)) fresh
    opened.1 = (Firmware.open crc (some file) fresh).isSome ∧
      ∀ firmware, Firmware.open crc (some file) fresh = some firmware →
        firmware.header = fieldsOf opened.2.header ∧ firmware.data = opened.2.data ∧
          firmware.tail = opened.2.tail := by
  have hclosed : create.file.isOpen = false := rfl
  dsimp only
  by_cases hsize : miniFileSize ≤ file.length
  · have hheader : LivoxEncryptFirmwareHeader.size ≤ file.length :=
      Nat.le_trans (by decide) hsize
    by_cases hsum : HasChecksum crc (file.take LivoxEncryptFirmwareHeader.size)
    · obtain ⟨htrue, hread, hdata, htail⟩ := open_accepts fresh hclosed hsize hsum
      have hopen : Firmware.open crc (some file) fresh = some (Firmware.read file fresh) := by
        rw [Firmware.open, if_neg (Nat.not_lt.mpr hsize), Firmware.readAndCheckHeader,
          if_neg (not_not.mpr ((hasChecksum_take crc hheader).mp hsum))]
      have hfields : fieldsOf (create.open crc (some (some file)) fresh).2.header =
          .read (memOf file) := by
        rw [hread, fieldsOf_take]
      have hlength : imageLength (create.open crc (some (some file)) fresh).2.header =
          (LivoxEncryptFirmwareHeader.read (memOf file)).firmwareLength.toNat := by
        rw [imageLength, hfields]
      refine ⟨by rw [htrue, hopen]; rfl, fun firmware hfirmware => ?_⟩
      obtain rfl := Option.some.inj (hopen.symm.trans hfirmware)
      refine ⟨hfields.symm, ?_, ?_⟩
      · rw [hdata, hlength]
        exact readInto_eq_fill _ _ _ _
      · rw [htail, hlength]
        exact readInto_eq_fill _ _ _ _
    · have hfalse := open_rejects crc fresh hclosed fun h => hsum h.2
      have hopen : Firmware.open crc (some file) fresh = none := by
        rw [Firmware.open, if_neg (Nat.not_lt.mpr hsize), Firmware.readAndCheckHeader,
          if_pos (hsum ∘ (hasChecksum_take crc hheader).mpr)]
      simp [hfalse, hopen]
  · have hfalse := open_rejects crc fresh hclosed fun h => hsize h.1
    have hopen : Firmware.open crc (some file) fresh = none := by
      rw [Firmware.open, if_pos (Nat.not_le.mp hsize)]
    simp [hfalse, hopen]

/-! ### What is sent of it -/

/-- `CompleteXferFirmware` sends what is copied out of the header. -/
theorem completeXferFirmware_copy {u : LivoxLidarUpgrader}
    (h : u.firmware.header = fieldsOf f.header) :
    u.completeXferFirmware.2 =
      some (.completeXferFirmware (fieldsOf f.header).checksumType f.checksumCopy.val) := by
  have hle : (fieldsOf f.header).checksumLength.toUInt8.toNat ≤ 128 + 128 :=
    Nat.le_of_lt (UInt8.toNat_lt _)
  have hfields : (fieldsOf f.header).checksum ++ (fieldsOf f.header).hwWhitelist =
      (memOf f.header).bytes 20 (128 + 128) := (Mem.bytes_add _ 20 128 128).symm
  unfold LivoxLidarUpgrader.completeXferFirmware
  dsimp only
  rw [h, hfields, ← Mem.bytes_take _ 20 hle]
  rfl

/-- The copy is sent as it should be when the length of the checksum is that of
its field at most. -/
theorem checksumSent_iff :
    f.ChecksumSent ↔ (fieldsOf f.header).checksumLength.toNat ≤ 128 := by
  have hbyte : (fieldsOf f.header).checksumLength.toUInt8.toNat =
      (fieldsOf f.header).checksumLength.toNat % 256 := by simp
  have hlength : f.checksumCopy.val.length = (fieldsOf f.header).checksumLength.toNat % 256 := by
    rw [← hbyte]
    exact Mem.bytes_length _ _ _
  have hinside : (f.checksumCopy.All fun addr => 20 ≤ addr ∧ addr < 20 + 128) ↔
      (fieldsOf f.header).checksumLength.toNat % 256 ≤ 128 := by
    rw [← hbyte]
    refine ⟨fun h => ?_, fun h addr haddr => ?_⟩
    · by_contra hlt
      have := h (20 + 128) (List.mem_range'_1.mpr ⟨by omega, by omega⟩)
      omega
    · have := List.mem_range'_1.mp haddr
      omega
  constructor
  · rintro ⟨hin, hfull⟩
    let firmware : Firmware := ⟨fieldsOf f.header, List.replicate (imageLength f.header) 0, [], 0,
      List.length_replicate⟩
    obtain ⟨checksum, hsent, hcl⟩ := hfull (.create firmware 0) rfl
    rw [completeXferFirmware_copy rfl] at hsent
    obtain rfl : f.checksumCopy.val = checksum := by simpa using hsent
    have := hinside.mp hin
    omega
  · intro h
    refine ⟨hinside.mpr (by omega), fun u hu => ⟨_, completeXferFirmware_copy hu, ?_⟩⟩
    rw [hlength]
    omega

theorem openOk_closed (h : f.file.isOpen = false) (crc : FastCRC)
    (path : Option (Option (List UInt8))) :
    f.OpenOk crc path ↔ ∀ file, path = some (some file) → Whole crc file := by
  constructor
  · rintro hok file rfl hsize hsum
    obtain ⟨htrue, hheader, -, -⟩ := open_accepts (fun _ => 0) h hsize hsum
    obtain ⟨file', hpath, haccepted, hsent⟩ := hok _ htrue
    obtain rfl : file = file' := by simpa using hpath
    have hcomplete := haccepted.complete
    have hchecksum := checksumSent_iff.mp hsent
    rw [hheader] at hcomplete hchecksum
    exact ⟨hcomplete, hchecksum⟩
  · intro hwhole fresh htrue
    rcases path with _ | _ | file
    · cases htrue
    · exact absurd htrue (by simp [open_missing h])
    · by_cases hgood : miniFileSize ≤ file.length ∧
          HasChecksum crc (file.take LivoxEncryptFirmwareHeader.size)
      · obtain ⟨hcomplete, hchecksum⟩ := hwhole file rfl hgood.1 hgood.2
        obtain ⟨-, hheader, hdata, htail⟩ := open_accepts fresh h hgood.1 hgood.2
        rw [← hheader] at hcomplete hchecksum
        refine ⟨file, rfl, ⟨hheader, hheader ▸ hgood.2, hcomplete, ?_, ?_⟩,
          checksumSent_iff.mpr hchecksum⟩
        · refine hdata.trans (InputStream.fill_of_length ?_)
          rw [List.length_map, List.length_range, List.length_take_of_le]
          rw [List.length_drop]
          omega
        · refine htail.trans (InputStream.fill_of_length ?_)
          rw [f.tail_length, List.length_take_of_le]
          rw [List.length_drop]
          omega
      · exact absurd htrue (by simp [open_rejects crc fresh h hgood])

/-- After `Close`, a file is opened as by a new `Firmware`. -/
theorem openOk_close (f : FirmwareFile) (crc : FastCRC) (path : Option (Option (List UInt8))) :
    f.close.OpenOk crc path ↔ create.OpenOk crc path :=
  (openOk_closed InputStream.close_isOpen crc path).trans (openOk_closed rfl crc path).symm

/-- Memory that was not written may hold anything, so that it is the image of a
file only where there is no image. -/
theorem length_zero_of_unread {n : ℕ} {image : List UInt8}
    (h : ∀ fresh : ℕ → UInt8, (List.range n).map fresh = image) : n = 0 := by
  by_contra hne
  have hboth := congrArg (·[0]?) ((h fun _ => 0).trans (h fun _ => 1).symm)
  simp [Nat.pos_of_ne_zero hne] at hboth

/-- What an accepted second `Open` of an open stream says of the file. -/
theorem accepted_reopen {crc : FastCRC} (fresh : ℕ → UInt8) (h : f.file.isOpen = true)
    {target : Option (List UInt8)} (hsum : HasChecksum crc f.header)
    (hok : f.OpenOk crc (some target)) :
    ∃ file, target = some file ∧
      f.header = file.take LivoxEncryptFirmwareHeader.size ∧
      LivoxEncryptFirmwareHeader.size + imageLength f.header + kMd5SignatureLength ≤
        file.length ∧
      (List.range (imageLength f.header)).map fresh =
        (file.drop LivoxEncryptFirmwareHeader.size).take (imageLength f.header) ∧
      f.tail = (file.drop (LivoxEncryptFirmwareHeader.size + imageLength f.header)).take
        kMd5SignatureLength ∧
      (fieldsOf f.header).checksumLength.toNat ≤ 128 := by
  obtain ⟨hiff, hread⟩ := reopen crc fresh h target
  obtain ⟨hheader, hdata, htail⟩ := hread hsum
  obtain ⟨file, hpath, haccepted, hsent⟩ := hok fresh (hiff.mpr hsum)
  have hchecksum := checksumSent_iff.mp hsent
  obtain ⟨hheader', -, hcomplete, hdata', htail'⟩ := haccepted
  rw [hheader] at hheader' hcomplete hdata' htail' hchecksum
  exact ⟨file, Option.some.inj hpath, hheader', hcomplete, hdata.symm.trans hdata',
    htail.symm.trans htail', hchecksum⟩

theorem openOk_opened (h : f.file.isOpen = true) (crc : FastCRC)
    (path : Option (Option (List UInt8))) :
    f.OpenOk crc path ↔ (path ≠ none → HasChecksum crc f.header →
      ∃ file, path = some (some file) ∧ f.Holds file) := by
  constructor
  · intro hok hne hsum
    obtain ⟨target, rfl⟩ := Option.ne_none_iff_exists'.mp hne
    obtain ⟨file, rfl, hheader, hcomplete, -, htail, hchecksum⟩ :=
      accepted_reopen (fun _ => 0) h hsum hok
    have himage : ∀ fresh : ℕ → UInt8, (List.range (imageLength f.header)).map fresh =
        (file.drop LivoxEncryptFirmwareHeader.size).take (imageLength f.header) := by
      intro fresh
      obtain ⟨file', hfile, -, -, hdata, -⟩ := accepted_reopen fresh h hsum hok
      rw [Option.some.inj hfile]
      exact hdata
    have hempty := length_zero_of_unread himage
    rw [hempty] at hcomplete htail
    exact ⟨file, rfl, hheader, hempty, hcomplete, htail, hchecksum⟩
  · intro hholds fresh htrue
    have hne : path ≠ none := by
      rintro rfl
      cases htrue
    obtain ⟨target, rfl⟩ := Option.ne_none_iff_exists'.mp hne
    obtain ⟨hiff, hread⟩ := reopen crc fresh h target
    have hsum := hiff.mp htrue
    obtain ⟨hheader, hdata, htail⟩ := hread hsum
    obtain ⟨file, hpath, hh⟩ := hholds hne hsum
    refine ⟨file, hpath, ⟨?_, ?_, ?_, ?_, ?_⟩, ?_⟩
    · rw [hheader, hh.header]
    · rw [hheader]
      exact hsum
    · rw [hheader, hh.empty]
      exact hh.complete
    · rw [hdata, hheader, hh.empty]
      rfl
    · rw [htail, hheader, hh.empty, hh.tail]
      rfl
    · rw [checksumSent_iff, hheader]
      exact hh.checksum

/-- **A file is opened as it should be** when the stream is closed and the file
is whole, or when the stream is open and there is nothing left to read; and
only then. -/
theorem openOk_iff (crc : FastCRC) (path : Option (Option (List UInt8))) (f : FirmwareFile) :
    f.OpenOk crc path ↔ f.OpensWhole crc path := by
  unfold OpensWhole
  cases h : f.file.isOpen with
  | false => simpa using openOk_closed h crc path
  | true => simpa using openOk_opened h crc path

/-- A file of the smallest size. Its header tells of an image of two bytes, of
which it has one. -/
def shortFile : List UInt8 :=
  (List.replicate 8 0 ++ [2, 0, 0, 0, 118, 57]) ++ List.replicate 289 0

theorem shortFile_hasChecksum :
    HasChecksum FastCRC.standard (shortFile.take LivoxEncryptFirmwareHeader.size) := by
  -- behind the bytes that the checksum ends with, it is 0 and stays so
  have hstart : FastCRC.standard.mcrf4xx (List.replicate 8 0 ++ [2, 0, 0, 0, 118, 57]) = 0 := by
    decide +kernel
  have hzeros := FastCRC.mcrf4xx_replicate_zero 270
  have hcovered : (shortFile.take LivoxEncryptFirmwareHeader.size).take
      (LivoxEncryptFirmwareHeader.size - 2) =
        (List.replicate 8 0 ++ [2, 0, 0, 0, 118, 57]) ++ List.replicate 270 0 := by
    decide +kernel
  have hchecksum : (fieldsOf (shortFile.take LivoxEncryptFirmwareHeader.size)).headerChecksum =
      0 := by
    decide +kernel
  rw [HasChecksum, hcovered, hchecksum]
  simp only [FastCRC.standard] at hstart hzeros ⊢
  rw [List.foldl_append, hstart, hzeros]

/-- **A file that ends early is accepted.** -/
theorem openOk_short : ¬ create.OpenOk FastCRC.standard (some (some shortFile)) := by
  intro hok
  obtain ⟨hcomplete, -⟩ :=
    (openOk_closed rfl _ _).mp hok shortFile rfl (by decide +kernel) shortFile_hasChecksum
  revert hcomplete
  decide +kernel

end FirmwareFile

end Livox
end SensorSupport
