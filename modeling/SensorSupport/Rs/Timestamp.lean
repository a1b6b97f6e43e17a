/-
# Timestamps of packets (`decoder/basic_attr.hpp`, `decoder/decoder_RS*.hpp`)

A packet has its time as seconds in six bytes and the rest of a second in four, most significant
byte first. `createTimeUTCWithUs` and `createTimeUTCWithNs` write a 64-bit time so, and
`parseTimeUTCWithUs` and `parseTimeUTCWithNs` read it, in microseconds and in nanoseconds;
`ENABLE_STAMP_WITH_LOCAL` is off. Every time
comes back (`timestamp_roundTrip`): there are less than `2 ^ 48` seconds in `2 ^ 64` microseconds,
and the two parts add up without a carry.

`decodeMsopPkt` takes the time of a packet from the lidar's clock or from the host's. In the second
case, if packets are recorded, it puts the host's time into the packet, and whoever replays the
packet with the lidar's clock gets that time. What `* 1e-6` and taking off the duration of the
packet make of a time are parameters. RS16, RS32 and RSBP before its fourth version have the date
in their packets, and are left out here.

Key definitions: `RSTimestampUTC`, `parseTimeUTC`, `createTimeUTC`, `pktTsAt`, `MechType.pktTs`,
`SeqType.pktTs`.
Key theorems: `parse_create`, `create_parse`, `pktTsAt_replayed`, `timestamp_roundTrip`.
-/
import SensorSupport.Lib.BigEndian
import SensorSupport.Lib.Memory
import SensorSupport.Rs.MechDecoder
import SensorSupport.Rs.SeqDecoder

namespace SensorSupport
namespace Rs

open BigEndian

structure RSTimestampUTC where
  sec : Vector UInt8 6
  ss : Vector UInt8 4
deriving DecidableEq

namespace RSTimestampUTC

/-- The bytes of the structure, which is packed. -/
def bytes (ts : RSTimestampUTC) : List UInt8 := ts.sec.toList ++ ts.ss.toList

/-- The structure that lies at `off` in a packet. -/
def load (off : ℕ) (pkt : Mem) : RSTimestampUTC :=
  ⟨.ofFn fun i => pkt (off + i), .ofFn fun i => pkt (off + 6 + i)⟩

def store (ts : RSTimestampUTC) (off : ℕ) (pkt : Mem) : Mem := pkt.set off ts.bytes

@[simp] theorem bytes_length (ts : RSTimestampUTC) : ts.bytes.length = 10 := by simp [bytes]

/-- The structure that was stored is there. -/
@[simp] theorem load_store (ts : RSTimestampUTC) (off : ℕ) (pkt : Mem) :
    load off (ts.store off pkt) = ts := by
  have hat : ∀ k, k < 10 → ts.store off pkt (off + k) = ts.bytes.getD k 0 := by
    intro k hk
    have hlt : k < ts.bytes.length := by rwa [bytes_length]
    simp [store, Mem.set, List.getD_eq_getElem?_getD, List.getElem?_eq_getElem hlt]
  obtain ⟨sec, ss⟩ := ts
  unfold load
  congr 1
  · ext i hi
    rw [Vector.getElem_ofFn, hat i (by omega)]
    simp [bytes, List.getD_eq_getElem?_getD, List.getElem?_append_left, hi]
  · ext i hi
    rw [Vector.getElem_ofFn, Nat.add_assoc, hat (6 + i) (by omega)]
    simp [bytes, List.getD_eq_getElem?_getD, List.getElem?_append_right, hi]

/-- The number of seconds. -/
def secValue (ts : RSTimestampUTC) : UInt64 := readUpTo ts.sec 6 le_rfl

/-- The rest of a second. -/
def ssValue (ts : RSTimestampUTC) : UInt64 := readUpTo ts.ss 4 le_rfl

/-- The loops of the `create` functions. -/
def put (sec ss : UInt64) (tsUtc : RSTimestampUTC) : RSTimestampUTC :=
  ⟨writeUpTo 6 le_rfl sec tsUtc.sec, writeUpTo 4 le_rfl ss tsUtc.ss⟩

theorem secValue_put {sec : UInt64} (ss : UInt64) (tsUtc : RSTimestampUTC)
    (h : sec.toNat < 2 ^ 48) : (put sec ss tsUtc).secValue = sec :=
  read_write _ _ _ (by omega)

theorem ssValue_put (sec : UInt64) {ss : UInt64} (tsUtc : RSTimestampUTC)
    (h : ss.toNat < 2 ^ 32) : (put sec ss tsUtc).ssValue = ss :=
  read_write _ _ _ (by omega)

/-- Every byte is written. -/
theorem put_values (ts other : RSTimestampUTC) : put ts.secValue ts.ssValue other = ts := by
  obtain ⟨sec, ss⟩ := ts
  unfold put
  congr 1
  · ext i hi
    rw [secValue, write_read _ hi _ _ (by omega) hi]
  · ext i hi
    rw [ssValue, write_read _ hi _ _ (by omega) hi]

end RSTimestampUTC

open RSTimestampUTC

/-- A time in parts of a second, `unit` of them in one. -/
def parseTimeUTC (unit : UInt64) (tsUtc : RSTimestampUTC) : UInt64 :=
  tsUtc.secValue * unit + tsUtc.ssValue

def createTimeUTC (unit : UInt64) (t : UInt64) (tsUtc : RSTimestampUTC) : RSTimestampUTC :=
  put (t / unit) (t % unit) tsUtc

def parseTimeUTCWithUs : RSTimestampUTC → UInt64 := parseTimeUTC 1000000

def parseTimeUTCWithNs : RSTimestampUTC → UInt64 := parseTimeUTC 1000000000

def createTimeUTCWithUs : UInt64 → RSTimestampUTC → RSTimestampUTC := createTimeUTC 1000000

def createTimeUTCWithNs : UInt64 → RSTimestampUTC → RSTimestampUTC := createTimeUTC 1000000000

/-! ### The codec -/

/-- Seconds and the rest of a second add up to the time they are of. -/
theorem div_mul_add_mod (t unit : UInt64) : t / unit * unit + t % unit = t := by
  apply UInt64.toNat_inj.mp
  have hlt := t.toNat_lt
  have hsum : t.toNat / unit.toNat * unit.toNat + t.toNat % unit.toNat = t.toNat :=
    Nat.div_add_mod' _ _
  rw [UInt64.toNat_add, UInt64.toNat_mul, UInt64.toNat_div, UInt64.toNat_mod,
    Nat.mod_eq_of_lt (a := _ * _) (by omega), hsum, Nat.mod_eq_of_lt hlt]

/-- **A time comes back**, if the seconds of every time fit six bytes and the rest of a second
four. -/
theorem parse_create {unit : UInt64} (hsec : 2 ^ 16 ≤ unit.toNat) (hss : unit.toNat ≤ 2 ^ 32)
    (t : UInt64) (tsUtc : RSTimestampUTC) :
    parseTimeUTC unit (createTimeUTC unit t tsUtc) = t := by
  have hfits : (t / unit).toNat < 2 ^ 48 := by
    rw [UInt64.toNat_div, Nat.div_lt_iff_lt_mul (by omega)]
    calc t.toNat < 2 ^ 48 * 2 ^ 16 := t.toNat_lt
      _ ≤ 2 ^ 48 * unit.toNat := Nat.mul_le_mul_left _ hsec
  have hrest : (t % unit).toNat < 2 ^ 32 := by
    rw [UInt64.toNat_mod]
    exact lt_of_lt_of_le (Nat.mod_lt _ (by omega)) hss
  rw [parseTimeUTC, createTimeUTC, secValue_put _ _ hfits, ssValue_put _ _ hrest,
    div_mul_add_mod]

/-- A timestamp is written again, if its rest is less than a second and its time fits 64 bits. -/
theorem create_parse {unit : UInt64} {ts : RSTimestampUTC} (hss : ts.ssValue < unit)
    (hfits : ts.secValue.toNat * unit.toNat + ts.ssValue.toNat < 2 ^ 64) (other : RSTimestampUTC) :
    createTimeUTC unit (parseTimeUTC unit ts) other = ts := by
  have hss' : ts.ssValue.toNat < unit.toNat := UInt64.lt_iff_toNat_lt.mp hss
  have hval : (parseTimeUTC unit ts).toNat = ts.secValue.toNat * unit.toNat + ts.ssValue.toNat := by
    rw [parseTimeUTC, UInt64.toNat_add, UInt64.toNat_mul, Nat.mod_eq_of_lt (a := _ * _) (by omega),
      Nat.mod_eq_of_lt hfits]
  have hdiv : parseTimeUTC unit ts / unit = ts.secValue := by
    apply UInt64.toNat_inj.mp
    rw [UInt64.toNat_div, hval, Nat.add_comm, Nat.add_mul_div_right _ _ (by omega),
      Nat.div_eq_of_lt hss', Nat.zero_add]
  have hmod : parseTimeUTC unit ts % unit = ts.ssValue := by
    apply UInt64.toNat_inj.mp
    rw [UInt64.toNat_mod, hval, Nat.mul_add_mod', Nat.mod_eq_of_lt hss']
  rw [createTimeUTC, hdiv, hmod, put_values]

example : createTimeUTCWithUs (0x010203040506 * 1000000 + 0x00023344)
    ⟨.replicate 6 0, .replicate 4 0⟩
    = ⟨#v[0x01, 0x02, 0x03, 0x04, 0x05, 0x06], #v[0x00, 0x02, 0x33, 0x44]⟩ := by decide

/-! ### The time of a packet -/

section Packets

variable {Time : Type} (seconds : UInt64 → Time) (rollBack : Time → Time)

/-- The beginning of `decodeMsopPkt`: `pkt_ts`, and the packet with the time that is written into
it. The timestamp is at `off`; `ts` is the host's time, and `now` the one that is rolled back. -/
def pktTsAt (off : ℕ) (useLidarClock writePktTs : Bool) (ts now : UInt64) (pkt : Mem) :
    Time × Mem :=
  if useLidarClock then (seconds (parseTimeUTCWithUs (load off pkt)), pkt)
  else
    (rollBack (seconds now),
      if writePktTs then (createTimeUTCWithUs ts (load off pkt)).store off pkt else pkt)

/-- Where the header has a `RSTimestampUTC`; `isBpV4` is `isBpV4_` of RSBP. -/
def MechType.utcOffset (isBpV4 : Bool) : MechType → Option ℕ
  | .rs16 | .rs32 => none
  | .rsbp => if isBpV4 then some 20 else none
  | .rshelios | .rshelios16p | .rsairy | .rsfairy => some 20
  | .rs48 | .rs80 | .rs128 | .rsp48 | .rsp80 | .rsp128 => some 10
  | .rsairyliteEth => some 6

/-- The time that is written is the one that is rolled back. -/
def MechType.pktTs (t : MechType) (isBpV4 useLidarClock writePktTs : Bool) (ts : UInt64)
    (pkt : Mem) : Option (Time × Mem) :=
  (t.utcOffset isBpV4).map fun off =>
    pktTsAt seconds rollBack off useLidarClock writePktTs ts ts pkt

/-- `getTimeHost` is called again for the time that is rolled back. A packet of RSM1_Jumbo is one
of those in a datagram. -/
def SeqType.pktTs (_ : SeqType) (useLidarClock writePktTs : Bool) (ts now : UInt64) (pkt : Mem) :
    Time × Mem :=
  pktTsAt seconds rollBack 10 useLidarClock writePktTs ts now pkt

/-- **A packet that was recorded has the host's time**, and is not changed when it is replayed. -/
theorem pktTsAt_replayed (off : ℕ) (ts now : UInt64) (writePktTs : Bool) (ts' now' : UInt64)
    (pkt : Mem) :
    pktTsAt seconds rollBack off true writePktTs ts' now'
        (pktTsAt seconds rollBack off false true ts now pkt).2 =
      (seconds ts, (pktTsAt seconds rollBack off false true ts now pkt).2) := by
  simp [pktTsAt, createTimeUTCWithUs, parseTimeUTCWithUs, parse_create]

end Packets

/-- **Every time comes back**, from the functions and from a packet it was written into. -/
theorem timestamp_roundTrip :
    (∀ us tsUtc, parseTimeUTCWithUs (createTimeUTCWithUs us tsUtc) = us) ∧
    (∀ ns tsUtc, parseTimeUTCWithNs (createTimeUTCWithNs ns tsUtc) = ns) ∧
    ∀ (Time : Type) (seconds : UInt64 → Time) (rollBack : Time → Time) (writePktTs : Bool)
      (ts now ts' now' : UInt64) (pkt : Mem),
      (∀ (t : MechType) (isBpV4 : Bool),
        ((t.pktTs seconds rollBack isBpV4 false true ts pkt).bind fun written =>
          (t.pktTs seconds rollBack isBpV4 true writePktTs ts' written.2).map Prod.fst) =
        (t.utcOffset isBpV4).map fun _ => seconds ts) ∧
      ∀ t : SeqType,
        (t.pktTs seconds rollBack true writePktTs ts' now'
          (t.pktTs seconds rollBack false true ts now pkt).2).1 = seconds ts := by
  refine ⟨parse_create (by decide) (by decide), parse_create (by decide) (by decide), ?_⟩
  intro Time seconds rollBack writePktTs ts now ts' now' pkt
  constructor
  · intro t isBpV4
    unfold MechType.pktTs
    cases t.utcOffset isBpV4 with
    | none => rfl
    | some off =>
      simp only [Option.map_some, Option.bind_some, pktTsAt_replayed]
  · intro t
    rw [SeqType.pktTs, SeqType.pktTs, pktTsAt_replayed]

end Rs
end SensorSupport
