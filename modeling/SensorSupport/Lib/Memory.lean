/-
# Memory and the accesses a computation makes

Bytes by address, the multi-byte numbers stored in them (little-endian), and
a value together with the log of the accesses made to compute it. A bounds
property is then a property of the log (`Traced.All`), which follows the
computation's binds.

Key definitions: `leValue`, `leBytes`, `Mem.bytes`, `Mem.set`, `Traced`,
`Traced.All`.
Key theorems: `leValue_leBytes`, `leBytes_leValue`, `Mem.bytes_set_self`,
`Mem.bytes_set_of_disjoint`, `Traced.all_bind`.
-/
import Mathlib.Data.List.Basic
import Mathlib.Data.Nat.Basic
import Mathlib.Tactic.Common
import Mathlib.Tactic.Ring

namespace SensorSupport

/-! ### Little-endian numbers -/

/-- The number that bytes are, the lowest one first. -/
def leValue : List UInt8 → ℕ
  | [] => 0
  | b :: bs => b.toNat + 256 * leValue bs

/-- The `n` low bytes of a number, the lowest one first. -/
def leBytes : ℕ → ℕ → List UInt8
  | 0, _ => []
  | n + 1, v => UInt8.ofNat v :: leBytes n (v / 256)

@[simp] theorem leBytes_length : ∀ n v : ℕ, (leBytes n v).length = n
  | 0, _ => rfl
  | n + 1, v => by rw [leBytes, List.length_cons, leBytes_length]

theorem leValue_lt : ∀ bs : List UInt8, leValue bs < 256 ^ bs.length
  | [] => Nat.one_pos
  | b :: bs => by
    have ih := leValue_lt bs
    have hb := b.toNat_lt
    unfold leValue
    rw [List.length_cons, pow_succ]
    omega

theorem leValue_leBytes : ∀ n v : ℕ, leValue (leBytes n v) = v % 256 ^ n
  | 0, v => by simp [leBytes, leValue, Nat.mod_one]
  | n + 1, v => by
    have hsplit : v % 256 ^ (n + 1) = v % 256 + 256 * (v / 256 % 256 ^ n) := by
      rw [pow_succ', Nat.mod_mul]
    unfold leBytes
    rw [leValue, leValue_leBytes n, UInt8.toNat_ofNat', hsplit]

theorem leBytes_leValue : ∀ bs : List UInt8, leBytes bs.length (leValue bs) = bs
  | [] => rfl
  | b :: bs => by
    have hb := b.toNat_lt
    have hdiv : (b.toNat + 256 * leValue bs) / 256 = leValue bs := by omega
    have hlow : UInt8.ofNat (b.toNat + 256 * leValue bs) = b :=
      UInt8.toNat_inj.mp (by rw [UInt8.toNat_ofNat']; omega)
    rw [List.length_cons, leValue, leBytes, hdiv, hlow, leBytes_leValue bs]

/-! ### Memory -/

/-- Bytes by address. -/
abbrev Mem := ℕ → UInt8

/-- Memory with some bytes at its start, and zeros behind them. -/
def memOf (bs : List UInt8) : Mem := fun i => bs.getD i 0

theorem memOf_replicate_zero (n : ℕ) : memOf (List.replicate n 0) = fun _ => 0 := by
  funext i
  unfold memOf
  rw [List.getD_eq_getElem?_getD, List.getElem?_replicate]
  split <;> rfl

/-- The bytes behind a cut are not seen before it. -/
theorem memOf_take (bs : List UInt8) {n i : ℕ} (h : i < n) : memOf (bs.take n) i = memOf bs i := by
  simp [memOf, List.getD_eq_getElem?_getD, h]

namespace Mem

variable (m : Mem) (i j n : ℕ) (bs : List UInt8)

/-- The `n` bytes from `i` on. -/
def bytes : List UInt8 := (List.range n).map fun k => m (i + k)

/-- The 16-bit number at `i`. -/
def u16 : UInt16 := UInt16.ofNat (leValue (m.bytes i 2))

/-- The 32-bit number at `i`. -/
def u32 : UInt32 := UInt32.ofNat (leValue (m.bytes i 4))

/-- The memory with `bs` put at `i`. -/
def set : Mem := fun k => if k < i then m k else (bs[k - i]?).getD (m k)

@[simp] theorem bytes_length : (m.bytes i n).length = n := by simp [bytes]

theorem bytes_const (b : UInt8) : Mem.bytes (fun _ => b) i n = List.replicate n b := by
  unfold bytes
  rw [List.map_const', List.length_range]

/-- The bytes are the same where the memory is. -/
theorem bytes_congr {m m' : Mem} {i n : ℕ} (h : ∀ k, i ≤ k → k < i + n → m k = m' k) :
    m.bytes i n = m'.bytes i n := by
  refine List.map_congr_left fun k hk => h (i + k) (Nat.le_add_right i k) ?_
  have := List.mem_range.mp hk
  omega

theorem bytes_memOf {n : ℕ} (h : n ≤ bs.length) : (memOf bs).bytes 0 n = bs.take n := by
  refine List.ext_getElem (by simp [h]) fun k hk hk' => ?_
  rw [bytes_length] at hk
  have hlt : k < bs.length := by omega
  simp [bytes, memOf, hlt]

theorem set_apply_of_disjoint (h : j < i ∨ i + bs.length ≤ j) : m.set i bs j = m j := by
  unfold set
  split
  · rfl
  · rw [List.getElem?_eq_none (by omega)]
    rfl

/-- What is put somewhere is there. -/
theorem bytes_set_self : (m.set i bs).bytes i bs.length = bs := by
  refine List.ext_getElem (by simp) fun k hk hk' => ?_
  simp [bytes, set, hk']

/-- What is elsewhere stays as it was. -/
theorem bytes_set_of_disjoint (h : j + n ≤ i ∨ i + bs.length ≤ j) :
    (m.set i bs).bytes j n = m.bytes j n := by
  refine List.map_congr_left fun k hk => set_apply_of_disjoint m i (j + k) bs ?_
  rw [List.mem_range] at hk
  omega

theorem u16_set_of_disjoint (h : j + 2 ≤ i ∨ i + bs.length ≤ j) :
    (m.set i bs).u16 j = m.u16 j := by
  rw [u16, bytes_set_of_disjoint m i j 2 bs h, u16]

theorem u32_set_of_disjoint (h : j + 4 ≤ i ∨ i + bs.length ≤ j) :
    (m.set i bs).u32 j = m.u32 j := by
  rw [u32, bytes_set_of_disjoint m i j 4 bs h, u32]

/-- Two bytes are the number they are of. -/
theorem u16_of_bytes {v : UInt16} (h : m.bytes i 2 = leBytes 2 v.toNat) : m.u16 i = v := by
  refine UInt16.toNat_inj.mp ?_
  have := v.toNat_lt
  unfold u16
  rw [h, leValue_leBytes, UInt16.toNat_ofNat']
  omega

theorem u16_set_self (v : UInt16) : (m.set i (leBytes 2 v.toNat)).u16 i = v := by
  have h := bytes_set_self m i (leBytes 2 v.toNat)
  rw [leBytes_length] at h
  exact u16_of_bytes _ i h

theorem u32_set_self (v : UInt32) : (m.set i (leBytes 4 v.toNat)).u32 i = v := by
  have h := bytes_set_self m i (leBytes 4 v.toNat)
  rw [leBytes_length] at h
  refine UInt32.toNat_inj.mp ?_
  have := v.toNat_lt
  unfold u32
  rw [h, leValue_leBytes, UInt32.toNat_ofNat']
  omega

/-- The bytes a stored number has. -/
theorem bytes_eq_u16 : m.bytes i 2 = leBytes 2 (m.u16 i).toNat := by
  have hlt := leValue_lt (m.bytes i 2)
  have h := leBytes_leValue (m.bytes i 2)
  rw [bytes_length] at hlt h
  unfold u16
  rw [UInt16.toNat_ofNat', Nat.mod_eq_of_lt (by omega), h]

theorem bytes_eq_u32 : m.bytes i 4 = leBytes 4 (m.u32 i).toNat := by
  have hlt := leValue_lt (m.bytes i 4)
  have h := leBytes_leValue (m.bytes i 4)
  rw [bytes_length] at hlt h
  unfold u32
  rw [UInt32.toNat_ofNat', Nat.mod_eq_of_lt (by omega), h]

theorem bytes_add (a b : ℕ) : m.bytes i (a + b) = m.bytes i a ++ m.bytes (i + a) b := by
  simp [bytes, List.range_add, Nat.add_assoc, Function.comp_def]

/-- Fewer bytes are a prefix of more. -/
theorem bytes_take {n n' : ℕ} (h : n ≤ n') : m.bytes i n = (m.bytes i n').take n := by
  obtain ⟨k, rfl⟩ := Nat.exists_eq_add_of_le h
  rw [bytes_add, List.take_left' (bytes_length m i n)]

/-- The bytes over which something is put are those before and what is put. -/
theorem bytes_set_congr {m m' : Mem} {i i' n : ℕ} (bs : List UInt8)
    (h : m.bytes i n = m'.bytes i' n) : (m.set i bs).bytes i n = (m'.set i' bs).bytes i' n := by
  unfold bytes at h ⊢
  refine List.map_congr_left fun k hk => ?_
  have hbyte := List.map_inj_left.mp h k hk
  unfold set
  rw [if_neg (Nat.not_lt.mpr (Nat.le_add_right i k)), hbyte,
    if_neg (Nat.not_lt.mpr (Nat.le_add_right i' k)), Nat.add_sub_cancel_left,
    Nat.add_sub_cancel_left]

/-- What is put behind what was put. -/
theorem set_set_append (cs : List UInt8) :
    (m.set i bs).set (i + bs.length) cs = m.set i (bs ++ cs) := by
  funext k
  unfold set
  by_cases hk : k < i
  · rw [if_pos (by omega), if_pos hk, if_pos hk]
  · rw [if_neg hk, if_neg hk]
    by_cases hbs : k < i + bs.length
    · rw [if_pos hbs, List.getElem?_append_left (by omega)]
    · have hnone : bs[k - i]? = none := List.getElem?_eq_none (by omega)
      rw [if_neg hbs, hnone, List.getElem?_append_right (by omega), Nat.sub_sub]
      rfl

/-- What is put over what was put. -/
theorem set_set_self {cs : List UInt8} (h : bs.length ≤ cs.length) :
    (m.set i bs).set i cs = m.set i cs := by
  funext k
  unfold set
  by_cases hk : k < i
  · rw [if_pos hk, if_pos hk, if_pos hk]
  · rw [if_neg hk, if_neg hk, if_neg hk]
    by_cases hcs : k - i < cs.length
    · rw [List.getElem?_eq_getElem hcs]
      rfl
    · rw [List.getElem?_eq_none (Nat.not_lt.mp hcs),
        List.getElem?_eq_none (Nat.le_trans h (Nat.not_lt.mp hcs))]
      rfl

/-- Bytes inside what is there. -/
theorem bytes_within {k : ℕ} (h : m.bytes i k = bs) (hle : j + n ≤ k) :
    m.bytes (i + j) n = (bs.drop j).take n := by
  have hfirst : m.bytes i (j + n) = bs.take (j + n) := by rw [bytes_take m i hle, h]
  have hdrop := congrArg (List.drop j) (hfirst.symm.trans (bytes_add m i j n))
  rw [List.drop_left' (bytes_length m i j), List.drop_take, Nat.add_sub_cancel_left] at hdrop
  exact hdrop.symm

/-- Bytes inside what is put. -/
theorem bytes_set_within (h : j + n ≤ bs.length) :
    (m.set 0 bs).bytes j n = (bs.drop j).take n := by
  have hwithin := bytes_within (m.set 0 bs) 0 j n bs (bytes_set_self m 0 bs) h
  rwa [Nat.zero_add] at hwithin

end Mem

/-- A byte address in a memory. -/
structure Ptr where
  mem : Mem
  off : ℕ

/-- The `n` bytes a pointer points to. -/
def Ptr.bytes (p : Ptr) (n : ℕ) : List UInt8 := p.mem.bytes p.off n

/-! ### Traces -/

/-- A value and the log of the accesses made to compute it. -/
structure Traced (ε α : Type) where
  val : α
  log : List ε

namespace Traced

variable {ε α β : Type} {p q : ε → Prop}

instance : Monad (Traced ε) where
  pure a := ⟨a, []⟩
  bind t f := ⟨(f t.val).val, t.log ++ (f t.val).log⟩

@[simp] theorem val_pure (a : α) : (pure a : Traced ε α).val = a := rfl

@[simp] theorem val_bind (t : Traced ε α) (f : α → Traced ε β) :
    (t >>= f).val = (f t.val).val := rfl

@[simp] theorem log_pure (a : α) : (pure a : Traced ε α).log = [] := rfl

@[simp] theorem log_bind (t : Traced ε α) (f : α → Traced ε β) :
    (t >>= f).log = t.log ++ (f t.val).log := rfl

@[simp] theorem log_map (f : α → β) (t : Traced ε α) : (f <$> t).log = t.log :=
  List.append_nil t.log

/-- Every access made has the property. -/
def All (p : ε → Prop) (t : Traced ε α) : Prop := ∀ e ∈ t.log, p e

@[simp] theorem all_pure (a : α) : (pure a : Traced ε α).All p := by simp [All]

@[simp] theorem all_bind (t : Traced ε α) (f : α → Traced ε β) :
    (t >>= f).All p ↔ t.All p ∧ (f t.val).All p := by
  simp only [All, log_bind, List.mem_append]
  exact ⟨fun h => ⟨fun e he => h e (.inl he), fun e he => h e (.inr he)⟩,
    fun h e he => he.elim (h.1 e) (h.2 e)⟩

@[simp] theorem all_map (f : α → β) (t : Traced ε α) : (f <$> t).All p ↔ t.All p := by
  simp only [All, log_map]

@[simp] theorem val_ite (c : Prop) {_ : Decidable c} (t u : Traced ε α) :
    (if c then t else u).val = if c then t.val else u.val := apply_ite Traced.val c t u

@[simp] theorem all_ite (c : Prop) {_ : Decidable c} (t u : Traced ε α) :
    (if c then t else u).All p ↔ if c then t.All p else u.All p := by
  split <;> rfl

/-- The same computation with its accesses named differently. -/
def mapLog {ε' : Type} (g : ε → ε') (t : Traced ε α) : Traced ε' α := ⟨t.val, t.log.map g⟩

@[simp] theorem val_mapLog {ε' : Type} (g : ε → ε') (t : Traced ε α) :
    (t.mapLog g).val = t.val := rfl

@[simp] theorem all_mapLog {ε' : Type} {p : ε' → Prop} (g : ε → ε') (t : Traced ε α) :
    (t.mapLog g).All p ↔ t.All (p ∘ g) := by
  simp [All, mapLog]

/-- One computation for each of some items, one after the other. -/
def each (f : α → Traced ε β) (items : List α) : Traced ε (List β) :=
  ⟨items.map fun a => (f a).val, items.flatMap fun a => (f a).log⟩

@[simp] theorem val_each (f : α → Traced ε β) (items : List α) :
    (each f items).val = items.map fun a => (f a).val := rfl

@[simp] theorem all_each (f : α → Traced ε β) (items : List α) :
    (each f items).All p ↔ ∀ a ∈ items, (f a).All p := by
  simp only [All, each, List.mem_flatMap]
  exact ⟨fun h a ha e he => h e ⟨a, ha, he⟩, fun h e ⟨a, ha, he⟩ => h a ha e he⟩

theorem All.mono {t : Traced ε α} (h : t.All p) (hpq : ∀ e, p e → q e) : t.All q :=
  fun e he => hpq e (h e he)

end Traced

namespace Mem

variable (m : Mem) (i n : ℕ) {p : ℕ → Prop}

/-- The read of a byte. -/
def read8 : Traced ℕ UInt8 := ⟨m i, [i]⟩

/-- The read of a 16-bit number. -/
def read16 : Traced ℕ UInt16 := ⟨m.u16 i, List.range' i 2⟩

/-- The read of a 32-bit number. -/
def read32 : Traced ℕ UInt32 := ⟨m.u32 i, List.range' i 4⟩

/-- The read of `n` bytes. -/
def readBytes : Traced ℕ (List UInt8) := ⟨m.bytes i n, List.range' i n⟩

/-- The write of some bytes. -/
def write (bs : List UInt8) : Traced ℕ Mem := ⟨m.set i bs, List.range' i bs.length⟩

@[simp] theorem val_read8 : (m.read8 i).val = m i := rfl

@[simp] theorem val_read16 : (m.read16 i).val = m.u16 i := rfl

@[simp] theorem val_read32 : (m.read32 i).val = m.u32 i := rfl

@[simp] theorem val_readBytes : (m.readBytes i n).val = m.bytes i n := rfl

@[simp] theorem val_write (bs : List UInt8) : (m.write i bs).val = m.set i bs := rfl

/-- The accesses of a range of addresses are below a bound when its end is. -/
theorem range'_below {b : ℕ} : (∀ e ∈ List.range' i n, e < b) ↔ n = 0 ∨ i + n ≤ b := by
  simp only [List.mem_range'_1]
  constructor
  · intro h
    by_cases hn : n = 0
    · exact .inl hn
    · have := h (i + n - 1) (by omega)
      omega
  · intro h e he
    omega

@[simp] theorem all_read8 : (m.read8 i).All p ↔ p i := by simp [read8, Traced.All]

@[simp] theorem all_read16 {b : ℕ} : (m.read16 i).All (· < b) ↔ i + 2 ≤ b :=
  (range'_below i 2).trans (by simp)

@[simp] theorem all_read32 {b : ℕ} : (m.read32 i).All (· < b) ↔ i + 4 ≤ b :=
  (range'_below i 4).trans (by simp)

@[simp] theorem all_readBytes {b : ℕ} : (m.readBytes i n).All (· < b) ↔ n = 0 ∨ i + n ≤ b :=
  range'_below i n

@[simp] theorem all_write {b : ℕ} (bs : List UInt8) :
    (m.write i bs).All (· < b) ↔ bs.length = 0 ∨ i + bs.length ≤ b :=
  range'_below i bs.length

end Mem

end SensorSupport
