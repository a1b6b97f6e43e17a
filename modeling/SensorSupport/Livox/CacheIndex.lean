/-
# Calls on the index cache from several threads (`livox_ros_driver2/src/comm/cache_index.cpp`)

A call on `CacheIndex` has two sections, and other threads run between them. `GetFreeIndex`
looks its key up in one section that holds the lock, and allocates in another;
`GetIndex` and `ResetIndex` look up without the lock, and read or erase with it. The second
section does not look again.

The map is injective, the marks are the indices that are held, and calls with the same
identity agree, exactly when each second section finds what the first has seen, or has
nothing to change (`cacheIndex_iff`).

Key definitions: `LidarIdentity`, `CacheIndex`, `Section`, `cacheStep`, `Fresh`, `Coherent`.
Key theorems: `cacheStep_consistent`, `coherent_of_fresh`, `cacheIndex_iff`,
`cacheIndex_race`.
-/
import SensorSupport.Lib.Run
import SensorSupport.Lib.Slots
import SensorSupport.Livox.PubHandler

namespace SensorSupport
namespace Livox
namespace IndexCache

/-! ### The cache -/

/-- What the calls name a lidar by. -/
structure LidarIdentity where
  livoxLidarType : UInt8
  handle : UInt32
deriving DecidableEq, Repr

/-- `kLivoxLidarType`. -/
def kLivoxLidarType : UInt8 := 8

/-- The keys that `GenerateIndexKey` makes. -/
abbrev IndexKey :=
  { key : String // ∃ handle : UInt32, key = "livox_lidar_" ++ toString handle.toNat }

/-- `CacheIndex::GenerateIndexKey`. -/
def generateIndexKey (id : LidarIdentity) : Option IndexKey :=
  if id.livoxLidarType = kLivoxLidarType then
    some ⟨"livox_lidar_" ++ toString id.handle.toNat, id.handle, rfl⟩
  else none

/-- `CacheIndex`. -/
structure CacheIndex where
  mapIndex : IndexKey → Option (Fin kMaxSourceLidar)
  indexCache : Fin kMaxSourceLidar → Bool

namespace CacheIndex

/-- Behind the constructor. -/
def init : CacheIndex := ⟨fun _ => none, fun _ => false⟩

/-- The index of the loop of `GetFreeIndex`. -/
def freeIndex (c : CacheIndex) : Option (Fin kMaxSourceLidar) :=
  (List.finRange kMaxSourceLidar).find? fun i => !c.indexCache i

/-- What `GetFreeIndex` does behind its lookup. -/
def allocate (c : CacheIndex) (key : IndexKey) : CacheIndex × Option (Fin kMaxSourceLidar) :=
  match c.freeIndex with
  | some i =>
    ({ indexCache := Function.update c.indexCache i true
       mapIndex := Function.update c.mapIndex key (some i) }, some i)
  | none => (c, none)

/-- `map_index_[key]`, which inserts 0 for a key that is not there. -/
def read (c : CacheIndex) (key : IndexKey) : CacheIndex × Fin kMaxSourceLidar :=
  match c.mapIndex key with
  | some index => (c, index)
  | none =>
    ({ c with mapIndex := Function.update c.mapIndex key (some ⟨0, by decide⟩) }, ⟨0, by decide⟩)

/-- What `ResetIndex` does behind its lookup. -/
def erase (c : CacheIndex) (key : IndexKey) (index : Fin kMaxSourceLidar) : CacheIndex where
  mapIndex := Function.update c.mapIndex key none
  indexCache := Function.update c.indexCache index false

end CacheIndex

/-! ### The threads -/

/-- The calls. -/
inductive CacheOp
  | getFreeIndex (id : LidarIdentity)
  | getIndex (id : LidarIdentity)
  | resetIndex (id : LidarIdentity)
deriving DecidableEq, Repr

/-- The section that a thread enters next. -/
inductive Section
  | idle
  | allocate (key : IndexKey)
  | read (key : IndexKey)
  | erase (key : IndexKey) (index : Fin kMaxSourceLidar)
deriving DecidableEq

/-- A key and the index that a call returned for it. -/
abbrev Returned := Option (IndexKey × Fin kMaxSourceLidar)

/-- The first section of a call: the next, or what the call returns. -/
def lookUp (c : CacheIndex) : CacheOp → Section × Returned
  | .getFreeIndex id =>
    match generateIndexKey id with
    | none => (.idle, none)
    | some key =>
      match c.mapIndex key with
      | some index => (.idle, some (key, index))
      | none => (.allocate key, none)
  | .getIndex id =>
    match generateIndexKey id with
    | none => (.idle, none)
    | some key => if (c.mapIndex key).isSome then (.read key, none) else (.idle, none)
  | .resetIndex id =>
    match generateIndexKey id with
    | none => (.idle, none)
    | some key =>
      match c.mapIndex key with
      | some index => (.erase key index, none)
      | none => (.idle, none)

/-- The second section of a call, and what the call returns. -/
def act (c : CacheIndex) : Section → Option (CacheIndex × Returned)
  | .idle => none
  | .allocate key =>
    let r := c.allocate key
    some (r.1, r.2.map (key, ·))
  | .read key =>
    let r := c.read key
    some (r.1, some (key, r.2))
  | .erase key index => some (c.erase key index, none)

/-- The cache, and the section that each thread enters next. -/
structure Shared (T : Type) where
  cache : CacheIndex
  threads : T → Section

/-- No thread is in a call. -/
def Shared.init {T : Type} : Shared T := ⟨.init, fun _ => .idle⟩

/-- A thread calls, up to the next section, or enters the section. -/
inductive CacheEvent (T : Type)
  | call (t : T) (op : CacheOp)
  | resume (t : T)
deriving DecidableEq

variable {T : Type}

/-- What an event does to the cache and its thread, and what its call returns. -/
def cacheAct (s : Shared T) : CacheEvent T → Option (T × Section × CacheIndex × Returned)
  | .call t op =>
    if s.threads t = .idle then
      let r := lookUp s.cache op
      some (t, r.1, s.cache, r.2)
    else none
  | .resume t => (act s.cache (s.threads t)).map fun r => (t, .idle, r)

/-- One event. -/
def cacheStep [DecidableEq T] (s : Shared T) (e : CacheEvent T) : Option (Shared T) :=
  (cacheAct s e).map fun r => ⟨r.2.2.1, Function.update s.threads r.1 r.2.1⟩

/-- What the call of an event returns. -/
def returned (s : Shared T) (e : CacheEvent T) : Returned := (cacheAct s e).bind (·.2.2.2)

/-- An event in which a call of `ResetIndex` erases a key. -/
def Resets (s : Shared T) (e : CacheEvent T) (key : IndexKey) : Prop :=
  ∃ t index, e = .resume t ∧ s.threads t = .erase key index

/-- A section finds what its call has seen before, or has nothing to change. -/
def CacheIndex.Sees (c : CacheIndex) : Section → Prop
  | .idle => True
  | .allocate key => c.mapIndex key = none ∨ ∀ i, c.indexCache i = true
  | .read key => c.mapIndex key ≠ none
  | .erase key index =>
    c.mapIndex key = some index ∨ c.mapIndex key = none ∧ c.indexCache index = false

/-- When an event enters a second section, the section finds what its call has seen. -/
def Fresh (s : Shared T) (e : CacheEvent T) : Prop :=
  ∀ t, e = .resume t → s.cache.Sees (s.threads t)

/-! ### What one event keeps -/

/-- The index of a lidar. -/
def CacheIndex.indexOf (c : CacheIndex) (id : LidarIdentity) : Option (Fin kMaxSourceLidar) :=
  (generateIndexKey id).bind c.mapIndex

/-- The map is injective, and the marks are the indices that the identities in it hold. -/
structure Consistent (c : CacheIndex) : Prop where
  injective : ∀ id id' i, c.indexOf id = some i → c.indexOf id' = some i → id = id'
  marked : ∀ i, c.indexCache i = true ↔ ∃ id, c.indexOf id = some i

/-- The cache as a pool of slots. -/
def CacheIndex.slots (c : CacheIndex) : Slots IndexKey kMaxSourceLidar :=
  ⟨c.mapIndex, c.indexCache⟩

/-- Calls with the same key return the same index when no reset of it is between. -/
def Agree (tr : List (Shared T × CacheEvent T)) : Prop :=
  ∀ before x mid y after key i j, tr = before ++ x :: (mid ++ y :: after) →
    returned x.1 x.2 = some (key, i) → returned y.1 y.2 = some (key, j) →
    (∀ z ∈ mid, ¬ Resets z.1 z.2 key) → i = j

/-- The cache is consistent in every state of a run, and its calls agree. -/
structure Coherent (tr : List (Shared T × CacheEvent T)) (s : Shared T) : Prop where
  consistent : ∀ x ∈ tr, Consistent x.1.cache
  last : Consistent s.cache
  agree : Agree tr

section Step

variable {c : CacheIndex} {key : IndexKey} {i : Fin kMaxSourceLidar}
  {id id' : LidarIdentity}

/-- Digits tell the number they were written from. -/
theorem toString_injective {a b : ℕ} (h : toString a = toString b) : a = b := by
  have hdigits := congrArg (fun text : String => Nat.ofDigitChars 10 text.toList 0) h
  simpa [toString, Nat.repr] using hdigits

/-- Different lidars have different keys. -/
theorem generateIndexKey_injective (h : generateIndexKey id = some key)
    (h' : generateIndexKey id' = some key) : id = id' := by
  unfold generateIndexKey at h h'
  by_cases htype : id.livoxLidarType = kLivoxLidarType
  · by_cases htype' : id'.livoxLidarType = kLivoxLidarType
    · rw [if_pos htype] at h
      rw [if_pos htype', ← h] at h'
      have htext := congrArg Subtype.val (Option.some.inj h')
      have hrepr : toString id'.handle.toNat = toString id.handle.toNat :=
        (String.append_right_inj _).mp htext
      have hhandle : id'.handle = id.handle := UInt32.toNat_inj.mp (toString_injective hrepr)
      cases id
      cases id'
      simp_all
    · rw [if_neg htype'] at h'
      cases h'
  · rw [if_neg htype] at h
    cases h

/-- Each key is that of a lidar. -/
theorem exists_generateIndexKey (key : IndexKey) : ∃ id, generateIndexKey id = some key := by
  obtain ⟨text, handle, rfl⟩ := key
  exact ⟨⟨kLivoxLidarType, handle⟩, if_pos rfl⟩

theorem indexOf_eq (h : generateIndexKey id = some key) : c.indexOf id = c.mapIndex key := by
  unfold CacheIndex.indexOf
  rw [h]
  rfl

theorem consistent_iff : Consistent c ↔ c.slots.Exact := by
  have hkey : ∀ id i, c.indexOf id = some i ↔
      ∃ key, generateIndexKey id = some key ∧ c.mapIndex key = some i :=
    fun id i => Option.bind_eq_some_iff
  constructor
  · intro h
    refine ⟨fun key key' i hi hi' => ?_, fun i => (h.marked i).trans ⟨?_, ?_⟩⟩
    · obtain ⟨id, hid⟩ := exists_generateIndexKey key
      obtain ⟨id', hid'⟩ := exists_generateIndexKey key'
      have heq := h.injective id id' i ((indexOf_eq hid).trans hi) ((indexOf_eq hid').trans hi')
      rw [heq, hid'] at hid
      exact (Option.some.inj hid).symm
    · rintro ⟨id, hid⟩
      obtain ⟨key, -, hi⟩ := (hkey id i).mp hid
      exact ⟨key, hi⟩
    · rintro ⟨key, hi⟩
      obtain ⟨id, hid⟩ := exists_generateIndexKey key
      exact ⟨id, (indexOf_eq hid).trans hi⟩
  · intro h
    refine ⟨fun id id' i hi hi' => ?_, fun i => (h.marked i).trans ⟨?_, ?_⟩⟩
    · obtain ⟨key, hid, hmap⟩ := (hkey id i).mp hi
      obtain ⟨key', hid', hmap'⟩ := (hkey id' i).mp hi'
      rw [h.injective key' key i hmap' hmap] at hid'
      exact generateIndexKey_injective hid hid'
    · rintro ⟨key, hi⟩
      obtain ⟨id, hid⟩ := exists_generateIndexKey key
      exact ⟨id, (indexOf_eq hid).trans hi⟩
    · rintro ⟨id, hid⟩
      obtain ⟨key, -, hi⟩ := (hkey id i).mp hid
      exact ⟨key, hi⟩

/-- **One section.** A consistent cache stays so exactly when the section finds what its
call has seen. -/
theorem act_consistent {sect : Section} {r : CacheIndex × Returned} (hc : Consistent c)
    (h : act c sect = some r) : Consistent r.1 ↔ c.Sees sect := by
  rw [consistent_iff] at hc ⊢
  cases sect with
  | idle => cases h
  | allocate key =>
    obtain rfl := Option.some.inj h
    change (c.allocate key).1.slots.Exact ↔ c.mapIndex key = none ∨ ∀ i, c.indexCache i = true
    unfold CacheIndex.allocate
    cases hfree : c.freeIndex with
    | none =>
      have hnone : c.slots.firstFree = none := hfree
      have hfull : ∀ i, c.indexCache i = true := Slots.firstFree_eq_none.mp hnone
      exact iff_of_true hc (.inr hfull)
    | some i =>
      have hi : c.slots.marks i = false := Slots.firstFree_eq_some hfree
      have hnot : ¬ ∀ i, c.indexCache i = true := by
        intro hall
        rw [show c.slots.marks i = true from hall i] at hi
        cases hi
      exact (Slots.take_exact hc hi).trans (or_iff_left hnot).symm
  | read key =>
    obtain rfl := Option.some.inj h
    change (c.read key).1.slots.Exact ↔ c.mapIndex key ≠ none
    unfold CacheIndex.read
    cases hkey : c.mapIndex key with
    | none => exact iff_of_false (Slots.put_not_exact hc hkey) (fun hne => hne rfl)
    | some index => exact iff_of_true hc nofun
  | erase key index =>
    obtain rfl := Option.some.inj h
    exact Slots.release_exact hc

/-- What a section returns is the index of its key. -/
theorem act_returned {sect : Section} {c' : CacheIndex} (h : act c sect = some (c', some (key, i))) :
    c'.mapIndex key = some i := by
  cases sect with
  | idle => cases h
  | allocate key' =>
    have h' := Option.some.inj h
    unfold CacheIndex.allocate at h'
    cases hfree : c.freeIndex with
    | none =>
      rw [hfree] at h'
      cases h'
    | some i' =>
      rw [hfree] at h'
      cases h'
      exact Function.update_self _ _ _
  | read key' =>
    have h' := Option.some.inj h
    unfold CacheIndex.read at h'
    cases hkey : c.mapIndex key' with
    | none =>
      rw [hkey] at h'
      cases h'
      exact Function.update_self _ _ _
    | some index =>
      rw [hkey] at h'
      cases h'
      exact hkey
  | erase key' index => cases h

/-- The index of a key stays through a section that sees what its call has seen, but for one
that erases the key. -/
theorem act_keeps {sect : Section} {r : CacheIndex × Returned} (hsees : c.Sees sect)
    (h : act c sect = some r) (hkey : c.mapIndex key = some i)
    (herase : ∀ index, sect ≠ .erase key index) : r.1.mapIndex key = some i := by
  cases sect with
  | idle => cases h
  | allocate key' =>
    obtain rfl := Option.some.inj h
    change (c.allocate key').1.mapIndex key = some i
    unfold CacheIndex.allocate
    cases hfree : c.freeIndex with
    | none => exact hkey
    | some i' =>
      have hi' : c.indexCache i' = false := Slots.firstFree_eq_some (s := c.slots) hfree
      have hne : key ≠ key' := by
        rintro rfl
        rcases hsees with hnone | hfull
        · rw [hkey] at hnone
          cases hnone
        · rw [hfull i'] at hi'
          cases hi'
      exact (Function.update_of_ne hne _ _).trans hkey
  | read key' =>
    obtain rfl := Option.some.inj h
    change (c.read key').1.mapIndex key = some i
    unfold CacheIndex.read
    cases hkey' : c.mapIndex key' with
    | none => exact absurd hkey' hsees
    | some index => exact hkey
  | erase key' index =>
    obtain rfl := Option.some.inj h
    have hne : key ≠ key' := by
      rintro rfl
      exact herase index rfl
    exact (Function.update_of_ne hne _ _).trans hkey

/-- What a lookup returns is the index of its key. -/
theorem lookUp_returned {op : CacheOp} (h : (lookUp c op).2 = some (key, i)) :
    c.mapIndex key = some i := by
  cases op with
  | getFreeIndex id =>
    unfold lookUp at h
    cases hid : generateIndexKey id with
    | none => simp [hid] at h
    | some key' =>
      cases hkey' : c.mapIndex key' with
      | none => simp [hid, hkey'] at h
      | some index =>
        simp only [hid, hkey', Option.some.injEq, Prod.mk.injEq] at h
        obtain ⟨rfl, rfl⟩ := h
        exact hkey'
  | getIndex id =>
    unfold lookUp at h
    cases hid : generateIndexKey id with
    | none => simp [hid] at h
    | some key' => cases hkey' : (c.mapIndex key').isSome <;> simp [hid, hkey'] at h
  | resetIndex id =>
    unfold lookUp at h
    cases hid : generateIndexKey id with
    | none => simp [hid] at h
    | some key' => cases hkey' : c.mapIndex key' <;> simp [hid, hkey'] at h

variable {T : Type} [DecidableEq T] {s s' : Shared T} {e : CacheEvent T}
  {tr : List (Shared T × CacheEvent T)}

/-- An event is a lookup, which leaves the cache, or a second section. -/
theorem cacheStep_cases (h : cacheStep s e = some s') :
    (∃ t op, e = .call t op ∧ s'.cache = s.cache ∧ returned s e = (lookUp s.cache op).2) ∨
    (∃ t r, e = .resume t ∧ act s.cache (s.threads t) = some r ∧ s'.cache = r.1 ∧
      returned s e = r.2) := by
  obtain ⟨r, hr, rfl⟩ := Option.map_eq_some_iff.mp h
  have hret : returned s e = r.2.2.2 := by
    unfold returned
    rw [hr]
    rfl
  cases e with
  | call t op =>
    dsimp only [cacheAct] at hr
    by_cases hidle : s.threads t = .idle
    · rw [if_pos hidle] at hr
      obtain rfl := Option.some.inj hr
      exact .inl ⟨t, op, rfl, rfl, hret⟩
    · rw [if_neg hidle] at hr
      cases hr
  | resume t =>
    obtain ⟨r', hact, rfl⟩ := Option.map_eq_some_iff.mp hr
    exact .inr ⟨t, r', rfl, hact, rfl, hret⟩

/-- **One event.** A consistent cache stays so exactly when the event is fresh. -/
theorem cacheStep_consistent (hs : Consistent s.cache) (h : cacheStep s e = some s') :
    Consistent s'.cache ↔ Fresh s e := by
  obtain ⟨t, op, rfl, hcache, -⟩ | ⟨t, r, rfl, hact, hcache, -⟩ := cacheStep_cases h
  · rw [hcache]
    exact iff_of_true hs nofun
  · rw [hcache, act_consistent hs hact]
    refine ⟨fun hsees t' heq => ?_, fun hfresh => hfresh t rfl⟩
    cases heq
    exact hsees

/-- What a call returns is the index of its key when it returns. -/
theorem returned_index (h : cacheStep s e = some s') (hret : returned s e = some (key, i)) :
    s'.cache.mapIndex key = some i := by
  obtain ⟨t, op, -, hcache, hreturned⟩ | ⟨t, r, -, hact, hcache, hreturned⟩ := cacheStep_cases h
  · rw [hcache]
    exact lookUp_returned (hreturned.symm.trans hret)
  · obtain ⟨c', ret⟩ := r
    rw [hreturned] at hret
    obtain rfl : ret = some (key, i) := hret
    rw [hcache]
    exact act_returned hact

omit [DecidableEq T] in
theorem not_resets_of_returned (hret : returned s e = some (key, i)) (key' : IndexKey) :
    ¬ Resets s e key' := by
  rintro ⟨t, index, rfl, hsection⟩
  dsimp only [returned, cacheAct] at hret
  rw [hsection] at hret
  cases hret

/-- The index of a key stays until it is reset. -/
theorem cacheStep_keeps (hfresh : Fresh s e) (h : cacheStep s e = some s')
    (hkey : s.cache.mapIndex key = some i) (hreset : ¬ Resets s e key) :
    s'.cache.mapIndex key = some i := by
  obtain ⟨t, op, -, hcache, -⟩ | ⟨t, r, rfl, hact, hcache, -⟩ := cacheStep_cases h
  · rw [hcache, hkey]
  · rw [hcache]
    exact act_keeps (hfresh t rfl) hact hkey fun index hsection => hreset ⟨t, index, rfl, hsection⟩

/-! ### Runs -/

omit [DecidableEq T] in
theorem init_consistent : Consistent (Shared.init : Shared T).cache :=
  consistent_iff.mpr Slots.empty_exact

/-- In a run of fresh events the cache is consistent. -/
theorem consistent_of_fresh (h : Run cacheStep Fresh .init tr s) : Consistent s.cache := by
  induction h with
  | nil => exact init_consistent
  | snoc _ hfresh hstep ih => exact (cacheStep_consistent ih hstep).mpr hfresh

/-- What a call has returned stays the index of its key until it is reset. -/
theorem kept_of_fresh (h : Run cacheStep Fresh .init tr s) : ∀ before x mid key i,
    tr = before ++ x :: mid → returned x.1 x.2 = some (key, i) →
      (∀ z ∈ mid, ¬ Resets z.1 z.2 key) → s.cache.mapIndex key = some i := by
  induction h with
  | nil => intro before x mid key i htr; simp at htr
  | snoc hrun hfresh hstep ih =>
    intro before x mid key i htr hret hreset
    rcases List.eq_nil_or_concat mid with rfl | ⟨mid, z, rfl⟩
    · obtain ⟨-, hlast⟩ := List.append_inj' htr rfl
      cases hlast
      exact returned_index hstep hret
    · rw [List.concat_eq_append] at hreset
      rw [List.concat_eq_append, ← List.cons_append, ← List.append_assoc] at htr
      obtain ⟨hbefore, hlast⟩ := List.append_inj' htr rfl
      cases hlast
      have hkey := ih before x mid key i hbefore hret
        fun z hz => hreset z (List.mem_append_left _ hz)
      exact cacheStep_keeps hfresh hstep hkey
        (hreset _ (List.mem_append_right _ (List.mem_singleton_self _)))

/-- A run of fresh events is coherent. -/
theorem coherent_of_fresh (h : Run cacheStep Fresh .init tr s) : Coherent tr s := by
  refine ⟨fun x hx => ?_, consistent_of_fresh h, ?_⟩
  · obtain ⟨before, after, htr⟩ := List.append_of_mem hx
    exact consistent_of_fresh (h.of_append htr).1
  · intro before x mid y after key i j htr hx hy hreset
    rw [← List.cons_append, ← List.append_assoc] at htr
    obtain ⟨hrun, hfresh, s₁, hstep⟩ := h.of_append htr
    have hkept := kept_of_fresh hrun before x mid key i rfl hx hreset
    have hi := cacheStep_keeps hfresh hstep hkept (not_resets_of_returned hy key)
    have hj := returned_index hstep hy
    rw [hi] at hj
    exact Option.some.inj hj

/-- In a run whose states are consistent each event is fresh. -/
theorem fresh_of_consistent (h : Run cacheStep (fun _ _ => True) .init tr s)
    (hconsistent : ∀ x ∈ tr, Consistent x.1.cache) (hlast : Consistent s.cache) :
    ∀ x ∈ tr, Fresh x.1 x.2 := by
  induction h with
  | nil => exact fun _ hx => absurd hx List.not_mem_nil
  | snoc hrun _ hstep ih =>
    have hs := hconsistent _ (List.mem_append_right _ (List.mem_singleton_self _))
    intro x hx
    rcases List.mem_append.mp hx with hx | hx
    · exact ih (fun y hy => hconsistent y (List.mem_append_left _ hy)) hs x hx
    · obtain rfl := List.mem_singleton.mp hx
      exact (cacheStep_consistent hs hstep).mp hlast

/-- **The cache stays consistent and its calls agree** exactly when every second section
finds what its call has seen, or has nothing to change. -/
theorem cacheIndex_iff (h : Run cacheStep (fun _ _ => True) .init tr s) :
    Coherent tr s ↔ ∀ x ∈ tr, Fresh x.1 x.2 :=
  ⟨fun hc => fresh_of_consistent h hc.consistent hc.last,
    fun hf => coherent_of_fresh (h.of_forall hf)⟩

end Step

/-- The first lidar. -/
def firstLidar : LidarIdentity := ⟨kLivoxLidarType, 0⟩

/-- The key of the first lidar. -/
def firstKey : IndexKey := ⟨"livox_lidar_" ++ toString (0 : UInt32).toNat, 0, rfl⟩

/-- A second call for a lidar returns the index that the first has allocated. -/
theorem cacheIndex_twice : ∃ tr s,
    Run cacheStep (fun _ _ => True) (Shared.init : Shared Bool) tr s ∧
    tr.map (fun x => returned x.1 x.2) =
      [none, some (firstKey, ⟨0, by decide⟩), some (firstKey, ⟨0, by decide⟩)] ∧
    (Coherent tr s ↔ ∀ x ∈ tr, Fresh x.1 x.2) := by
  have hexec : (exec cacheStep (Shared.init : Shared Bool)
      [.call true (.getFreeIndex firstLidar), .resume true,
        .call false (.getFreeIndex firstLidar)]).isSome = true := by
    decide +kernel
  obtain ⟨s, hs⟩ := Option.isSome_iff_exists.mp hexec
  have hrun := Run.nil.stepsOf hs
  exact ⟨_, s, hrun, by decide +kernel, cacheIndex_iff hrun⟩

/-- Two threads look the same lidar up, and then each allocates an index for it. -/
def raceEvents : List (CacheEvent Bool) :=
  [.call true (.getFreeIndex firstLidar), .call false (.getFreeIndex firstLidar), .resume true,
    .resume false]

/-- The second allocation leaves the first index marked, and returns another. -/
theorem cacheIndex_race : ¬ ∀ (T : Type) [DecidableEq T] (tr : List (Shared T × CacheEvent T))
    (s : Shared T), Run cacheStep (fun _ _ => True) .init tr s → Coherent tr s := by
  intro hall
  have hexec : (exec cacheStep (Shared.init : Shared Bool) raceEvents).isSome = true := by
    decide +kernel
  obtain ⟨s, hs⟩ := Option.isSome_iff_exists.mp hexec
  have hrun := Run.nil.stepsOf hs
  have hcoherent := hall Bool _ s hrun
  have hfresh := fresh_of_consistent hrun hcoherent.consistent hcoherent.last
  have hstale : (stepsOf cacheStep (Shared.init : Shared Bool) raceEvents).any (fun x =>
      decide (x.2 = .resume false) && decide (x.1.threads false = .allocate firstKey) &&
        (x.1.cache.mapIndex firstKey).isSome && !x.1.cache.indexCache ⟨1, by decide⟩) = true := by
    decide +kernel
  obtain ⟨x, hx, hstale⟩ := List.any_eq_true.mp hstale
  simp only [Bool.and_eq_true, decide_eq_true_eq, Bool.not_eq_true'] at hstale
  obtain ⟨⟨⟨hevent, hsection⟩, hkey⟩, hfree⟩ := hstale
  have hsees := hfresh x hx false hevent
  rw [hsection] at hsees
  rcases hsees with hnone | hfull
  · rw [hnone] at hkey
    cases hkey
  · rw [hfull] at hfree
    cases hfree

end IndexCache
end Livox
end SensorSupport
