/-
# Texts of addresses that are read (`command_handler/build_request.cpp`, `params_check.cpp`)

`IpToU8` cuts a text at its dots, reads each piece with `std::stoi`, and takes 256 for a number of
a byte. It reads the four bytes of a dotted quad, and always gives four bytes or none. But
`std::stoi` throws at a piece without a number or with one too large for an `int`, and nothing
catches that. It also leaves out blanks and a sign before the digits and anything behind them,
256 is pushed as 0, and a dot at the end of the text is not seen.

Key definitions: `quadOctets`, `IpToU8Exact`, `Readable`, `WellRead`.
Key theorems: `ipToU8_readable`, `ipToU8_firstBad`, `quadOctets_cases`, `ipToU8Exact_iff`.
-/
import Mathlib.Data.List.TakeWhile
import SensorSupport.Livox.BuildRequest

namespace SensorSupport
namespace Livox
namespace BuildRequest

/-! ### Dotted quads -/

/-- The number that some digits are. -/
def decimal (field : List UInt8) : ℕ := field.foldl (fun n d => 10 * n + (d.toNat - 0x30)) 0

/-- A decimal number from 0 to 255. -/
def IsOctet (field : List UInt8) : Prop :=
  field ≠ [] ∧ field.all isDigit = true ∧ decimal field ≤ 255

instance (field : List UInt8) : Decidable (IsOctet field) :=
  inferInstanceAs (Decidable (_ ∧ _ ∧ _))

/-- The bytes of a text of four decimal numbers from 0 to 255 with single dots between them. -/
def quadOctets (text : List UInt8) : Option (List UInt8) :=
  let fields := text.splitOn 0x2E
  if fields.length = 4 ∧ ∀ field ∈ fields, IsOctet field then
    some (fields.map fun field => UInt8.ofNat (decimal field))
  else none

/-- The text is turned into the bytes of its quad, or refused, and those that it was written from
come back; a caller that goes on has four bytes. -/
structure IpToU8Exact (text : List UInt8) : Prop where
  exact : ipToU8 text 0x2E = (quadOctets text).elim (.error .refused) .ok
  inverts : ∀ bs : List UInt8, bs.length = 4 → text = ipText bs → ipToU8 text 0x2E = .ok bs
  four : ∀ bs, ipToU8 text 0x2E = .ok bs → bs.length = 4

/-- `std::stoi` reads a number that is pushed. -/
def Readable (piece : List UInt8) : Prop := ∃ val, stoi piece = .ok val ∧ 0 ≤ val ∧ val ≤ 256

/-- Behind readable pieces `std::stoi` does not throw; and if there are four pieces, and all are
readable, they are digits, none is 256, and there is no dot behind them. -/
def WellRead (text : List UInt8) : Prop :=
  (∀ pre piece post, pieces 0x2E text = pre ++ piece :: post → (∀ p ∈ pre, Readable p) →
    stoi piece ≠ .error .thrown) ∧
  ((pieces 0x2E text).length = 4 → (∀ p ∈ pieces 0x2E text, Readable p) →
    (∀ p ∈ pieces 0x2E text, p.all isDigit = true ∧ stoi p ≠ .ok 256) ∧
      (text.splitOn 0x2E).getLast? ≠ some [])

section Numbers

theorem digit_range (d : UInt8) (h : isDigit d = true) :
    0x30 ≤ d.toNat ∧ isSpace d = false ∧ d ≠ 0x2D ∧ d ≠ 0x2B := by
  have hall : ∀ n < 256, isDigit (UInt8.ofNat n) = true → 0x30 ≤ (UInt8.ofNat n).toNat ∧
      isSpace (UInt8.ofNat n) = false ∧ UInt8.ofNat n ≠ 0x2D ∧ UInt8.ofNat n ≠ 0x2B := by
    decide +kernel
  have hd := hall d.toNat d.toNat_lt
  rw [UInt8.ofNat_toNat] at hd
  exact hd h

/-- The digits are added up to the number that they are. -/
theorem foldl_digits {ds : List UInt8} (h : ∀ d ∈ ds, isDigit d = true) (n : ℕ) :
    ds.foldl (fun v d => 10 * v + ((d.toNat : ℤ) - 0x30)) (n : ℤ) =
      (ds.foldl (fun n d => 10 * n + (d.toNat - 0x30)) n : ℕ) := by
  induction ds generalizing n with
  | nil => rfl
  | cons d ds ih =>
    have hd := (digit_range d (h d List.mem_cons_self)).1
    have hstep : 10 * (n : ℤ) + ((d.toNat : ℤ) - 0x30) = (10 * n + (d.toNat - 0x30) : ℕ) := by
      omega
    rw [List.foldl_cons, List.foldl_cons, hstep]
    exact ih (fun d' hd' => h d' (List.mem_cons_of_mem d hd')) _

/-- Digits are read, unless they are too many for an `int`. -/
theorem stoi_digits {field : List UInt8} (hne : field ≠ []) (hdigits : field.all isDigit = true) :
    stoi field =
      if 2147483647 < decimal field then .error .thrown else .ok (decimal field : ℤ) := by
  have hdigit : ∀ d ∈ field, isDigit d = true := List.all_eq_true.mp hdigits
  obtain ⟨d, ds, rfl⟩ := List.exists_cons_of_ne_nil hne
  obtain ⟨-, hspace, hminus, hplus⟩ := digit_range d (hdigit d List.mem_cons_self)
  have hdrop : (d :: ds).dropWhile isSpace = d :: ds :=
    List.dropWhile_cons_of_neg (by rw [hspace]; decide)
  have htake : (d :: ds).takeWhile isDigit = d :: ds := List.takeWhile_eq_self_iff.mpr hdigit
  have hfold : (d :: ds).foldl (fun v d => 10 * v + ((d.toNat : ℤ) - 0x30)) 0 =
      (decimal (d :: ds) : ℤ) := foldl_digits hdigit 0
  unfold stoi
  simp only [hdrop, List.head?_cons, Option.some.injEq, hminus, hplus, or_self, if_false, htake,
    hfold, List.cons_ne_nil, false_or]
  by_cases hbig : 2147483647 < decimal (d :: ds)
  · rw [if_pos (by omega), if_pos hbig]
  · rw [if_neg (by omega), if_neg hbig]

/-- An octet is read. -/
theorem stoi_octet {field : List UInt8} (h : IsOctet field) :
    stoi field = .ok (decimal field : ℤ) := by
  obtain ⟨hne, hdigits, hle⟩ := h
  rw [stoi_digits hne hdigits, if_neg (by omega)]

theorem readable_octet {field : List UInt8} (h : IsOctet field) : Readable field := by
  have hle := h.2.2
  exact ⟨decimal field, stoi_octet h, by omega, by omega⟩

/-- A readable piece of digits is an octet, unless it is 256. -/
theorem isOctet_of_readable {piece : List UInt8} (h : Readable piece)
    (hdigits : piece.all isDigit = true) (hmax : stoi piece ≠ .ok 256) : IsOctet piece := by
  obtain ⟨val, hval, hpos, hle⟩ := h
  have hne : piece ≠ [] := by
    rintro rfl
    exact nomatch hval
  rw [stoi_digits hne hdigits] at hval hmax
  split at hval
  · exact nomatch hval
  · rename_i hint
    obtain rfl : (decimal piece : ℤ) = val := Except.ok.inj hval
    rw [if_neg hint] at hmax
    have hne256 : (decimal piece : ℤ) ≠ 256 := fun heq => hmax (congrArg _ heq)
    exact ⟨hne, hdigits, by omega⟩

end Numbers

section Pieces

variable {text : List UInt8}

theorem stoi_error {piece : List UInt8} {fault : BuildFault} (h : stoi piece = .error fault) :
    fault = .thrown := by
  unfold stoi at h
  rcases ite_eq_iff.mp h with ⟨-, h⟩ | ⟨-, h⟩
  · exact (Except.error.inj h).symm
  · exact nomatch h

/-- All pieces are readable, or there is a first one that is not. -/
theorem readable_or_firstBad (ps : List (List UInt8)) :
    (∀ p ∈ ps, Readable p) ∨ ∃ pre piece post, ps = pre ++ piece :: post ∧
      (∀ p ∈ pre, Readable p) ∧ ¬ Readable piece := by
  induction ps with
  | nil => exact .inl fun p hp => absurd hp List.not_mem_nil
  | cons p ps ih =>
    by_cases hp : Readable p
    · rcases ih with hall | ⟨pre, piece, post, rfl, hpre, hbad⟩
      · exact .inl (List.forall_mem_cons.mpr ⟨hp, hall⟩)
      · exact .inr ⟨p :: pre, piece, post, rfl, List.forall_mem_cons.mpr ⟨hp, hpre⟩, hbad⟩
    · exact .inr ⟨[], p, ps, rfl, fun q hq => absurd hq List.not_mem_nil, hp⟩

/-- A readable piece is pushed. -/
theorem piecesToU8_cons {piece : List UInt8} {val : ℤ} (h : stoi piece = .ok val) (hpos : 0 ≤ val)
    (hle : val ≤ 256) (ps : List (List UInt8)) (result : List UInt8) :
    piecesToU8 (piece :: ps) result = piecesToU8 ps (result ++ [UInt8.ofNat val.toNat]) := by
  rw [piecesToU8, h]
  exact if_neg (by omega)

/-- Readable pieces are pushed, and have to be four. -/
theorem piecesToU8_readable {ps : List (List UInt8)} (h : ∀ p ∈ ps, Readable p)
    (result : List UInt8) :
    ∃ bs : List UInt8, bs.length = ps.length ∧ piecesToU8 ps result =
      (if result.length + ps.length = 4 then .ok (result ++ bs) else .error .refused) ∧
      ((∀ p ∈ ps, IsOctet p) → bs = ps.map fun p => UInt8.ofNat (decimal p)) := by
  induction ps generalizing result with
  | nil => exact ⟨[], rfl, by rw [piecesToU8, List.append_nil]; rfl, fun _ => rfl⟩
  | cons piece ps ih =>
    obtain ⟨hpiece, hps⟩ := List.forall_mem_cons.mp h
    obtain ⟨val, hval, hpos, hle⟩ := hpiece
    obtain ⟨bs, hlen, hrest, hbytes⟩ := ih hps (result ++ [UInt8.ofNat val.toNat])
    refine ⟨UInt8.ofNat val.toNat :: bs, congrArg (· + 1) hlen, ?_, fun hoctets => ?_⟩
    · rw [piecesToU8_cons hval hpos hle, hrest, List.length_append, List.length_singleton,
        List.append_assoc, List.singleton_append, List.length_cons, Nat.add_assoc,
        Nat.add_comm 1]
    · obtain ⟨hoctet, hoctets⟩ := List.forall_mem_cons.mp hoctets
      rw [stoi_octet hoctet] at hval
      rw [← Except.ok.inj hval, Int.toNat_natCast, hbytes hoctets, List.map_cons]

/-- At the first piece that is not readable the text is refused, or `std::stoi` throws. -/
theorem piecesToU8_firstBad {pre post : List (List UInt8)} {piece : List UInt8}
    (hpre : ∀ p ∈ pre, Readable p) (hbad : ¬ Readable piece) (result : List UInt8) :
    piecesToU8 (pre ++ piece :: post) result =
      .error (if stoi piece = .error .thrown then .thrown else .refused) := by
  induction pre generalizing result with
  | nil =>
    rw [List.nil_append, piecesToU8]
    cases hval : stoi piece with
    | error fault =>
      obtain rfl := stoi_error hval
      rfl
    | ok val =>
      have hout : val < 0 ∨ 256 < val := by
        by_contra hin
        exact hbad ⟨val, hval, by omega, by omega⟩
      exact if_pos hout
  | cons p pre ih =>
    obtain ⟨⟨val, hval, hpos, hle⟩, hrest⟩ := List.forall_mem_cons.mp hpre
    rw [List.cons_append, piecesToU8_cons hval hpos hle]
    exact ih hrest _

/-- A dotted quad is four pieces, with an octet each and no dot behind them. -/
theorem quadOctets_eq_some {bs : List UInt8} :
    quadOctets text = some bs ↔ (text.splitOn 0x2E).getLast? ≠ some [] ∧
      (pieces 0x2E text).length = 4 ∧ (∀ p ∈ pieces 0x2E text, IsOctet p) ∧
      bs = (pieces 0x2E text).map fun p => UInt8.ofNat (decimal p) := by
  have hpieces : (text.splitOn 0x2E).getLast? ≠ some [] →
      pieces 0x2E text = text.splitOn 0x2E := fun h => if_neg h
  unfold quadOctets
  dsimp only
  constructor
  · intro h
    split at h
    · rename_i hquad
      have hlast : (text.splitOn 0x2E).getLast? ≠ some [] := fun h =>
        (hquad.2 [] (List.mem_of_getLast? h)).1 rfl
      rw [hpieces hlast]
      exact ⟨hlast, hquad.1, hquad.2, (Option.some.inj h).symm⟩
    · exact nomatch h
  · rintro ⟨hlast, hlen, hoctets, rfl⟩
    rw [hpieces hlast] at hlen hoctets ⊢
    exact if_pos ⟨hlen, hoctets⟩

end Pieces

/-- What is returned has four bytes. -/
theorem ipToU8_length {text bs : List UInt8} (h : ipToU8 text 0x2E = .ok bs) : bs.length = 4 := by
  unfold ipToU8 at h
  rcases readable_or_firstBad (pieces 0x2E text) with hall | ⟨pre, piece, post, hps, hpre, hbad⟩
  · obtain ⟨bs', hlen, hread, -⟩ := piecesToU8_readable hall []
    rw [hread, List.length_nil, Nat.zero_add, List.nil_append] at h
    split at h
    · rename_i hfour
      rw [← Except.ok.inj h, hlen, hfour]
    · exact nomatch h
  · rw [hps, piecesToU8_firstBad hpre hbad] at h
    exact nomatch h

/-- **A text is read as the four bytes of its quad or refused exactly when no piece makes
`std::stoi` throw, and four readable pieces are digits without 256 and without a dot behind
them.** -/
theorem ipToU8Exact_iff (text : List UInt8) : IpToU8Exact text ↔ WellRead text := by
  constructor
  · intro h
    have hexact := h.exact
    unfold ipToU8 at hexact
    constructor
    · intro pre piece post hps hpre hthrown
      have hbad : ¬ Readable piece := by
        rintro ⟨val, hval, -⟩
        exact nomatch hthrown.symm.trans hval
      rw [hps, piecesToU8_firstBad hpre hbad, if_pos hthrown] at hexact
      cases hquad : quadOctets text <;> rw [hquad] at hexact <;> exact nomatch hexact
    · intro hfour hall
      obtain ⟨bs, -, hread, -⟩ := piecesToU8_readable hall []
      rw [hread, List.length_nil, Nat.zero_add, if_pos hfour] at hexact
      cases hquad : quadOctets text with
      | none =>
        rw [hquad] at hexact
        exact nomatch hexact
      | some bs' =>
        obtain ⟨hlast, -, hoctets, -⟩ := quadOctets_eq_some.mp hquad
        refine ⟨fun p hp => ⟨(hoctets p hp).2.1, ?_⟩, hlast⟩
        have hle := (hoctets p hp).2.2
        rw [stoi_octet (hoctets p hp)]
        intro h256
        have heq : (decimal p : ℤ) = 256 := Except.ok.inj h256
        omega
  · rintro ⟨hthrown, hproper⟩
    refine ⟨?_, fun bs hbs htext => htext ▸ ipToU8_ipText hbs, fun bs => ipToU8_length⟩
    unfold ipToU8
    rcases readable_or_firstBad (pieces 0x2E text) with hall | ⟨pre, piece, post, hps, hpre, hbad⟩
    · obtain ⟨bs, -, hread, hbytes⟩ := piecesToU8_readable hall []
      rw [hread, List.length_nil, Nat.zero_add, List.nil_append]
      by_cases hfour : (pieces 0x2E text).length = 4
      · obtain ⟨hdigits, hlast⟩ := hproper hfour hall
        have hoctets : ∀ p ∈ pieces 0x2E text, IsOctet p := fun p hp =>
          isOctet_of_readable (hall p hp) (hdigits p hp).1 (hdigits p hp).2
        rw [if_pos hfour, quadOctets_eq_some.mpr ⟨hlast, hfour, hoctets, hbytes hoctets⟩]
        rfl
      · have hnone : quadOctets text = none := by
          apply Option.eq_none_iff_forall_not_mem.mpr
          exact fun bs' hquad => hfour (quadOctets_eq_some.mp hquad).2.1
        rw [if_neg hfour, hnone]
        rfl
    · have hnone : quadOctets text = none := by
        apply Option.eq_none_iff_forall_not_mem.mpr
        intro bs' hquad
        refine hbad (readable_octet ((quadOctets_eq_some.mp hquad).2.2.1 piece ?_))
        rw [hps]
        exact List.mem_append_right _ List.mem_cons_self
      rw [hps, piecesToU8_firstBad hpre hbad, if_neg (hthrown pre piece post hps hpre), hnone]
      rfl

/-- `1.2.3.256`, which is read as `1.2.3.0`. -/
theorem ipToU8_256 : ¬ ∀ text : List UInt8, IpToU8Exact text := by
  intro hall
  have hexact := (hall [0x31, 0x2E, 0x32, 0x2E, 0x33, 0x2E, 0x32, 0x35, 0x36]).exact
  revert hexact
  decide +kernel

end BuildRequest
end Livox
end SensorSupport
