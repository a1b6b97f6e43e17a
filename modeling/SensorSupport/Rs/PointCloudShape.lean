/-
# Published clouds are rectangular (`source/source_pointcloud_ros.hpp`)

With `dense_points` off every channel adds a point, and `setPointCloudHeader` takes
the height from the decoder and divides. `toRosMsg` makes a message of width times
height points: by rows it reads the points of that rectangle, otherwise it writes
all points one behind the other.

The points of a block are whole columns, and so are the clouds, of every decoder
but RSAIRY and RSFAIRY with 96 channels, whose columns are pairs of blocks: there a
frame that ends, or a packet that breaks off, inside a pair leaves half a column in
the cloud (`clouds_ragged`).

Key definitions: `toRosMsg`, `driverStep`, `PairedColumns`, `ColumnsWhole`, `CloudInv`, `ModelInv`.
Key theorems: `clouds_rectangular`, `clouds_ragged`, `toRosMsg_perm`.
-/
import Mathlib.Data.List.Perm.Subperm
import SensorSupport.Lib.Run
import SensorSupport.Rs.MechDecoder

namespace SensorSupport
namespace Rs

open Detector

variable {P : Type}

/-! ### The ROS message -/

/-- A rectangle of points, with a byte pattern of zeros where none was written;
`none` when the code reads behind the points or writes behind the data. -/
def toRosMsg (msg : PointCloud P) (sendByRows : Bool) : Option (List (Option P)) :=
  if sendByRows then
    (List.range msg.height).flatMap (fun i =>
      (List.range msg.width).map fun j => i + j * msg.height) |>.mapM fun k =>
        msg.points[k]?.map some
  else if msg.points.length ≤ msg.width * msg.height then
    some (msg.points.map some ++
      List.replicate (msg.width * msg.height - msg.points.length) none)
  else none

/-- The points fill the rectangle. -/
def PointCloud.Rectangular (msg : PointCloud P) : Prop :=
  msg.points.length = msg.width * msg.height

instance (msg : PointCloud P) : Decidable msg.Rectangular :=
  inferInstanceAs (Decidable (_ = _))

/-- By rows every place of the rectangle comes once. -/
theorem rows_perm (height width : ℕ) :
    ((List.range height).flatMap fun i => (List.range width).map fun j => i + j * height).Perm
      (List.range (width * height)) := by
  have hsub : List.range (width * height) ⊆
      (List.range height).flatMap fun i => (List.range width).map fun j => i + j * height := by
    intro k hk
    rw [List.mem_range] at hk
    have hheight : 0 < height := Nat.pos_of_mul_pos_left (Nat.zero_lt_of_lt hk)
    refine List.mem_flatMap.mpr ⟨k % height, List.mem_range.mpr (Nat.mod_lt _ hheight), ?_⟩
    refine List.mem_map.mpr ⟨k / height, List.mem_range.mpr ?_, Nat.mod_add_div' k height⟩
    exact Nat.div_lt_of_lt_mul (by rwa [Nat.mul_comm] at hk)
  apply ((List.subperm_of_subset List.nodup_range hsub).perm_of_length_le ?_).symm
  simp [List.length_flatMap, Nat.mul_comm]

/-- Reading at places within the points. -/
theorem mapM_getElem (points : List P) : ∀ ks : List ℕ, (∀ k ∈ ks, k < points.length) →
    ks.mapM (fun k => points[k]?.map some) = some (ks.map fun k => points[k]?)
  | [], _ => rfl
  | k :: ks, h => by
    have hk := h k List.mem_cons_self
    have hrest := mapM_getElem points ks fun k' hk' => h k' (List.mem_cons_of_mem _ hk')
    rw [List.mapM_cons, hrest, List.map_cons, List.getElem?_eq_getElem hk]
    rfl

theorem map_getElem_range (points : List P) :
    ((List.range points.length).map fun k => points[k]?) = points.map some := by
  apply List.ext_getElem
  · simp
  · intro k hk hk'
    simp

/-- **A rectangular cloud is copied, every point once.** -/
theorem toRosMsg_perm {msg : PointCloud P} (h : msg.Rectangular) (sendByRows : Bool) :
    ∃ data, toRosMsg msg sendByRows = some data ∧ data.Perm (msg.points.map some) := by
  have hsize : msg.points.length = msg.width * msg.height := h
  unfold toRosMsg
  cases sendByRows with
  | true =>
    have hperm := rows_perm msg.height msg.width
    rw [← hsize] at hperm
    have hin : ∀ k ∈ (List.range msg.height).flatMap (fun i =>
        (List.range msg.width).map fun j => i + j * msg.height), k < msg.points.length :=
      fun k hk => List.mem_range.mp (hperm.mem_iff.mp hk)
    refine ⟨_, mapM_getElem msg.points _ hin, ?_⟩
    rw [← map_getElem_range]
    exact hperm.map _
  | false =>
    refine ⟨msg.points.map some, ?_, .refl _⟩
    simp [hsize]

/-! ### The driver -/

/-- One packet. -/
def driverStep (t : MechType) (param : RSDecoderParam) (s : DecoderMech P) :
    DriverEvent P t.constParam → Option (DecoderMech P)
  | .msop pkt => some (processMsopPkt t param pkt s).1
  | .difop setting => some { s with setting := setting }

/-- The verdicts come in pairs, of which the second is no split. -/
def pairsWhole : List Bool → Bool
  | [] => true
  | [_] => false
  | _ :: second :: rest => !second && pairsWhole rest

/-- With 96 channels no frame ends at the second block of a pair, and a wrong id is
not that of a second block. -/
def PairedColumns {c : RSDecoderConstParam} (getLidarModel : UInt8 → LidarModel × ℕ)
    (initialized : LidarModel → DifopSetting → Bool) (param : RSDecoderParam) (pkt : MsopPkt P c)
    (s : DecoderMech P) : Prop :=
  let s := s.initModel getLidarModel initialized pkt
  pkt.dataType0 = 0 → s.lidarModel = .channel96 →
    pairsWhole (verdicts (SplitStrategy.newBlock (s.deref param)) (accepted c 2 pkt.blocks)
      s.splitStrategy) = true

/-- No column of an RSAIRY or RSFAIRY with 96 channels is torn. -/
def ColumnsWhole : (t : MechType) → RSDecoderParam → DecoderMech P →
    DriverEvent P t.constParam → Prop
  | .rsairy, param, s, .msop pkt => checkMsopPkt .rsairy param pkt s = true →
      PairedColumns getRsairyModel rsairyInitialized param pkt s
  | .rsfairy, param, s, .msop pkt => checkMsopPkt .rsfairy param pkt s = true →
      PairedColumns getRsfairyModel rsfairyInitialized param pkt s
  | _, _, _, _ => True

/-! ### Blocks -/

/-- The clouds that were put are rectangular, and the current one has whole columns. -/
structure CloudInv (column : ℕ) (s : DecoderMech P) : Prop where
  put : ∀ cloud ∈ s.putClouds, cloud.Rectangular
  columns : column ∣ s.pointCloud.length

section Blocks

variable {c : RSDecoderConstParam} {idLen column n : ℕ} {param : RSDecoderParam}
  {s : DecoderMech P} {block : MsopBlock P} {blocks : List (MsopBlock P)}

/-- A channel adds one point. -/
theorem points_length (hdense : param.densePoints = false) (channels : List (RSChannel P)) :
    (channels.flatMap (DecoderMech.channelPoint param)).length = channels.length := by
  induction channels with
  | nil => rfl
  | cons channel channels ih =>
    have hone : (DecoderMech.channelPoint param channel).length = 1 := by
      unfold DecoderMech.channelPoint
      rw [hdense]
      cases channel.measured with
      | some point => rfl
      | none => rfl
    rw [List.flatMap_cons, List.length_append, ih, hone, List.length_cons, Nat.add_comm]

theorem setPointCloudHeader_rectangular (hdense : param.densePoints = false) {points : List P}
    (hcolumns : column ∣ points.length) (hsize : points.length < 2 ^ 32) :
    (DecoderMech.setPointCloudHeader param column points).Rectangular := by
  unfold DecoderMech.setPointCloudHeader
  rw [if_neg (by rw [hdense]; decide), Nat.mod_eq_of_lt hsize]
  exact (Nat.div_mul_cancel hcolumns).symm

/-- A frame ends: the cloud is put and the next one is empty. -/
theorem splitFrame_inv (hdense : param.densePoints = false) (h : CloudInv column s)
    (hsize : s.pointCloud.length < 2 ^ 32) :
    (∀ cloud ∈ (s.splitFrame param column).putClouds, cloud.Rectangular) ∧
      (s.splitFrame param column).pointCloud = [] := by
  unfold DecoderMech.splitFrame
  split
  · refine ⟨?_, rfl⟩
    intro cloud hcloud
    rcases List.mem_append.mp hcloud with hold | hnew
    · exact h.put cloud hold
    · rw [List.mem_singleton.mp hnew]
      exact setPointCloudHeader_rectangular hdense h.columns hsize
  · rename_i hempty
    exact ⟨h.put, List.eq_nil_of_length_eq_zero (by omega)⟩

/-- A block at the start of a column, or at which no frame ends. -/
theorem decodeBlock_inv (hdense : param.densePoints = false)
    (hn : block.channels.length = n) (hput : ∀ cloud ∈ s.putClouds, cloud.Rectangular)
    (hsplit : (s.decodeBlock param column block).2 = true →
      column ∣ s.pointCloud.length ∧ s.pointCloud.length < 2 ^ 32) :
    (∀ cloud ∈ (s.decodeBlock param column block).1.putClouds, cloud.Rectangular) ∧
      (s.decodeBlock param column block).1.pointCloud.length =
        (if (s.decodeBlock param column block).2 then 0 else s.pointCloud.length) + n := by
  have hlength := points_length hdense block.channels
  unfold DecoderMech.decodeBlock at hsplit ⊢
  cases hverdict : (s.splitStrategy.newBlock (s.deref param) block.az).2 with
  | true =>
    obtain ⟨hcolumns, hsize⟩ := hsplit hverdict
    have hinv : CloudInv column { s with
        splitStrategy := (s.splitStrategy.newBlock (s.deref param) block.az).1 } :=
      ⟨hput, hcolumns⟩
    obtain ⟨hput', hempty⟩ := splitFrame_inv hdense hinv hsize
    simp only [hverdict, if_true]
    refine ⟨hput', ?_⟩
    rw [hempty, List.length_append, hlength, hn]
    rfl
  | false =>
    simp only [hverdict, Bool.false_eq_true, if_false]
    refine ⟨hput, ?_⟩
    rw [List.length_append, hlength, hn]

/-- The blocks are whole columns. -/
theorem decodeBlocks_columns (hdense : param.densePoints = false) (hcolumn : column ∣ n)
    (hchannels : ∀ block ∈ blocks, block.channels.length = n) (h : CloudInv column s)
    (hsize : s.pointCloud.length + blocks.length * n < 2 ^ 32) :
    CloudInv column (s.decodeBlocks c idLen param column blocks).1 := by
  induction blocks generalizing s with
  | nil => exact h
  | cons block blocks ih =>
    rw [List.length_cons, Nat.add_mul, Nat.one_mul] at hsize
    cases hid : block.hasId c idLen with
    | true =>
      rw [decodeBlocks_right hid]
      obtain ⟨hput, hlength⟩ := decodeBlock_inv (s := s) hdense
        (hchannels block List.mem_cons_self) h.put fun _ => ⟨h.columns, by omega⟩
      apply ih fun block' hblock' => hchannels block' (List.mem_cons_of_mem _ hblock')
      · refine ⟨hput, ?_⟩
        rw [hlength]
        apply Nat.dvd_add ?_ hcolumn
        split
        · exact Nat.dvd_zero _
        · exact h.columns
      · rw [hlength]
        split <;> omega
    | false =>
      rw [decodeBlocks_wrong hid]
      exact h

/-- The blocks are halves of columns, and no pair is torn. -/
theorem decodeBlocks_pairs (hdense : param.densePoints = false) :
    ∀ (blocks : List (MsopBlock P)) (s : DecoderMech P),
      (∀ block ∈ blocks, block.channels.length = n) → CloudInv (n + n) s →
      s.pointCloud.length + blocks.length * n < 2 ^ 32 →
      pairsWhole (verdicts (SplitStrategy.newBlock (s.deref param)) (accepted c idLen blocks)
        s.splitStrategy) = true →
      CloudInv (n + n) (s.decodeBlocks c idLen param (n + n) blocks).1
  | [], s, _, h, _, _ => h
  | block :: blocks, s, hchannels, h, hsize, hwhole => by
    rw [List.length_cons, Nat.add_mul, Nat.one_mul] at hsize
    cases hid : block.hasId c idLen with
    | false =>
      rw [decodeBlocks_wrong hid]
      exact h
    | true =>
      obtain ⟨hsame, hstrategy, hverdict⟩ := decodeBlock_eq param (n + n) s block
      obtain ⟨hput, hlength⟩ := decodeBlock_inv (s := s) hdense
        (hchannels block List.mem_cons_self) h.put fun _ => ⟨h.columns, by omega⟩
      rw [accepted_cons hid] at hwhole
      match blocks with
      | [] => cases hwhole
      | block' :: blocks =>
        cases hid' : block'.hasId c idLen with
        | false =>
          rw [accepted_wrong hid'] at hwhole
          cases hwhole
        | true =>
          have hchannels' : block'.channels.length = n :=
            hchannels block' (List.mem_cons_of_mem _ List.mem_cons_self)
          obtain ⟨hsame', hstrategy', hverdict'⟩ :=
            decodeBlock_eq param (n + n) (s.decodeBlock param (n + n) block).1 block'
          rw [accepted_cons hid'] at hwhole
          obtain ⟨hsecond, hrest⟩ := (Bool.and_eq_true _ _).mp hwhole
          rw [← hstrategy, ← hsame.deref] at hsecond hrest
          rw [← hstrategy', ← hsame'.deref] at hrest
          rw [← hverdict', Bool.not_eq_true'] at hsecond
          -- no frame ends at the second block
          obtain ⟨hput', hlength'⟩ := decodeBlock_inv (s := (s.decodeBlock param (n + n) block).1)
            hdense hchannels' hput fun hfire => by rw [hsecond] at hfire; cases hfire
          rw [hsecond, if_neg (by decide), hlength] at hlength'
          rw [List.length_cons, Nat.add_mul, Nat.one_mul] at hsize
          rw [decodeBlocks_right hid, decodeBlocks_right hid']
          apply decodeBlocks_pairs hdense blocks _ ?_ ⟨hput', ?_⟩ ?_ hrest
          · exact fun b hb => hchannels b (List.mem_cons_of_mem _ (List.mem_cons_of_mem _ hb))
          · rw [hlength', Nat.add_assoc]
            apply Nat.dvd_add ?_ (Nat.dvd_refl _)
            split
            · exact Nat.dvd_zero _
            · exact h.columns
          · rw [hlength']
            split <;> omega

end Blocks

/-! ### Packets -/

section Packets

variable {c : RSDecoderConstParam} {idLen column : ℕ} {param : RSDecoderParam}
  {s s' : DecoderMech P}

theorem decodeFixed_inv (hdense : param.densePoints = false)
    (hcolumn : column ∣ c.channelsPerBlock) (hpkt : c.blocksPerPkt * c.channelsPerBlock ≤ 1000)
    (pkt : MsopPkt P c) (h : CloudInv column s) (hsize : s.pointCloud.length ≤ 5000000) :
    CloudInv column (s.decodeFixed c idLen column param pkt).1 := by
  apply decodeBlocks_columns hdense hcolumn pkt.channels_length h
  rw [pkt.blocks_length]
  omega

/-- The points of a column, of which 48 come in a block. -/
def LidarModel.columnLen : LidarModel → ℕ
  | .channel48 => 48
  | .channel96 => 96
  | .channel192 => 96

/-- RSAIRY and RSFAIRY: a lidar with 48 channels stays one, and the height of the
clouds is that of a column. -/
structure ModelInv (s : DecoderMech P) : Prop where
  cloud : CloudInv s.lidarModel.columnLen s
  settled : s.lidarModel = .channel48 → s.bInit = true
  height : s.lidarModel ≠ .channel192 → s.channelNum = s.lidarModel.columnLen

theorem ModelInv.initModel (h : ModelInv s) {getLidarModel : UInt8 → LidarModel × ℕ}
    {initialized : LidarModel → DifopSetting → Bool}
    (hget : ∀ mode, (getLidarModel mode).1 ≠ .channel192 →
      (getLidarModel mode).2 = (getLidarModel mode).1.columnLen)
    (hinit : ∀ setting, initialized .channel48 setting = true) (pkt : MsopPkt P c) :
    ModelInv (s.initModel getLidarModel initialized pkt) := by
  unfold DecoderMech.initModel
  by_cases hready : s.bInit = true
  · rw [if_pos hready]
    exact h
  · rw [if_neg hready]
    have hcolumns : 96 ∣ s.pointCloud.length := by
      have := h.cloud.columns
      cases hmodel : s.lidarModel with
      | channel48 => exact absurd (h.settled hmodel) hready
      | channel96 => rwa [hmodel] at this
      | channel192 => rwa [hmodel] at this
    refine { cloud := ⟨h.cloud.put, ?_⟩, settled := ?_, height := hget pkt.lidarMode }
    · change (getLidarModel pkt.lidarMode).1.columnLen ∣ s.pointCloud.length
      cases (getLidarModel pkt.lidarMode).1 with
      | channel48 => exact Nat.dvd_trans (by decide) hcolumns
      | channel96 => exact hcolumns
      | channel192 => exact hcolumns
    · intro hmodel
      change (getLidarModel pkt.lidarMode).1 = .channel48 at hmodel
      change initialized (getLidarModel pkt.lidarMode).1 s.setting = true
      rw [hmodel]
      exact hinit s.setting

theorem ModelInv.of_same (h : ModelInv s) (hsame : SameModel s s')
    (hcloud : CloudInv s.lidarModel.columnLen s') : ModelInv s' where
  cloud := by rwa [hsame.lidarModel]
  settled := by
    rw [hsame.lidarModel, hsame.bInit]
    exact h.settled
  height := by
    rw [hsame.lidarModel, hsame.channelNum]
    exact h.height

theorem ModelInv.decode (h : ModelInv s) (hdense : param.densePoints = false)
    {getLidarModel : UInt8 → LidarModel × ℕ} {initialized : LidarModel → DifopSetting → Bool}
    (hget : ∀ mode, (getLidarModel mode).1 ≠ .channel192 →
      (getLidarModel mode).2 = (getLidarModel mode).1.columnLen)
    (hinit : ∀ setting, initialized .channel48 setting = true)
    (hchannels : c.channelsPerBlock = 48) (hblocks : c.blocksPerPkt = 8) {pkt : MsopPkt P c}
    (hwhole : PairedColumns getLidarModel initialized param pkt s)
    (hsize : s.pointCloud.length ≤ 5000000) :
    ModelInv (s.decodeByModel c getLidarModel initialized param pkt).1 := by
  unfold DecoderMech.decodeByModel
  by_cases htype : pkt.dataType0 = 0
  · have h' := h.initModel hget hinit pkt
    have hwhole' := hwhole htype
    have hcloud : (s.initModel getLidarModel initialized pkt).pointCloud = s.pointCloud := by
      unfold DecoderMech.initModel
      split <;> rfl
    have hpoints : ∀ block ∈ pkt.blocks, block.channels.length = 48 := by
      rw [← hchannels]
      exact pkt.channels_length
    have hroom : (s.initModel getLidarModel initialized pkt).pointCloud.length +
        pkt.blocks.length * 48 < 2 ^ 32 := by
      rw [hcloud, pkt.blocks_length, hblocks]
      omega
    rw [if_neg (not_not.mpr htype)]
    generalize s.initModel getLidarModel initialized pkt = s' at h' hwhole' hroom ⊢
    change ModelInv (if s'.lidarModel = .channel192 then (s', false)
      else s'.decodeBlocks c 2 param s'.channelNum pkt.blocks).1
    have hcolumns := h'.cloud
    cases hmodel : s'.lidarModel with
    | channel192 =>
      rw [if_pos rfl]
      exact h'
    | channel48 =>
      rw [if_neg (by decide), h'.height (by rw [hmodel]; decide), hmodel]
      apply h'.of_same (decodeBlocks_eq pkt.blocks s').1
      rw [hmodel] at hcolumns ⊢
      exact decodeBlocks_columns hdense (Nat.dvd_refl 48) hpoints hcolumns hroom
    | channel96 =>
      rw [if_neg (by decide), h'.height (by rw [hmodel]; decide), hmodel]
      apply h'.of_same (decodeBlocks_eq pkt.blocks s').1
      rw [hmodel] at hcolumns ⊢
      exact decodeBlocks_pairs hdense pkt.blocks s' hpoints hcolumns hroom (hwhole' hmodel)
  · rw [if_pos htype]
    exact h

end Packets

/-! ### Runs -/

section Runs

variable {t : MechType} {param : RSDecoderParam} {setting : DifopSetting} {s : DecoderMech P}

/-- What every packet keeps. -/
def MechInv : MechType → DecoderMech P → Prop
  | .rsairy, s => ModelInv s
  | .rsfairy, s => ModelInv s
  | t, s => CloudInv t.constParam.laserNum s

/-- A cleared cloud has whole columns. -/
theorem MechInv.clear (h : MechInv t s) : MechInv t { s with pointCloud := [] } := by
  have hcloud : ∀ {column}, CloudInv column s → CloudInv column { s with pointCloud := [] } :=
    fun hcloud => ⟨hcloud.put, Nat.dvd_zero _⟩
  have hmodel : ModelInv s → ModelInv { s with pointCloud := [] } :=
    fun hmodel => hmodel.of_same ⟨rfl, rfl, rfl, rfl, rfl⟩ (hcloud hmodel.cloud)
  cases t with
  | rsairy => exact hmodel h
  | rsfairy => exact hmodel h
  | _ => exact hcloud h

theorem MechInv.setDifop (h : MechInv t s) (setting : DifopSetting) :
    MechInv t { s with setting := setting } := by
  have hcloud : ∀ {column}, CloudInv column s → CloudInv column { s with setting := setting } :=
    fun hcloud => ⟨hcloud.put, hcloud.columns⟩
  have hmodel : ModelInv s → ModelInv { s with setting := setting } :=
    fun hmodel => ⟨hcloud hmodel.cloud, hmodel.settled, hmodel.height⟩
  cases t with
  | rsairy => exact hmodel h
  | rsfairy => exact hmodel h
  | _ => exact hcloud h

theorem MechInv.init (t : MechType) (param : RSDecoderParam) (setting : DifopSetting) :
    MechInv t (.init param setting : DecoderMech P) := by
  have hcloud : ∀ column, CloudInv column (.init param setting : DecoderMech P) :=
    fun column => ⟨fun _ hcloud => absurd hcloud List.not_mem_nil, Nat.dvd_zero column⟩
  have hninety : LidarModel.channel96 ≠ .channel48 := by decide
  have hmodel : ModelInv (.init param setting : DecoderMech P) :=
    ⟨hcloud 96, fun h => absurd h hninety, fun _ => rfl⟩
  cases t with
  | rsairy => exact hmodel
  | rsfairy => exact hmodel
  | _ => exact hcloud _

/-- A packet that is decoded. -/
theorem MechInv.decode (h : MechInv t s) (hdense : param.densePoints = false)
    {pkt : MsopPkt P t.constParam} (hcheck : checkMsopPkt t param pkt s = true)
    (hwhole : ColumnsWhole t param s (.msop pkt)) (hsize : s.pointCloud.length ≤ 5000000) :
    MechInv t (decodeMsopPkt t param pkt s).1 := by
  cases t with
  | rsairy =>
    apply ModelInv.decode h hdense _ (fun _ => rfl) rfl rfl (hwhole hcheck) hsize
    intro mode
    unfold getRsairyModel
    split_ifs <;> intro hmodel
    · rfl
    · rfl
    · exact absurd rfl hmodel
    · rfl
  | rsfairy =>
    apply ModelInv.decode h hdense _ (fun _ => rfl) rfl rfl (hwhole hcheck) hsize
    intro mode
    unfold getRsfairyModel
    split_ifs <;> exact fun _ => rfl
  | _ => exact decodeFixed_inv hdense (by decide) (by decide) pkt h hsize

/-- The condition does not look at the cloud. -/
theorem ColumnsWhole.clear {e : DriverEvent P t.constParam} (h : ColumnsWhole t param s e) :
    ColumnsWhole t param { s with pointCloud := [] } e := by
  have hpaired : ∀ {c : RSDecoderConstParam} {getLidarModel : UInt8 → LidarModel × ℕ}
      {initialized : LidarModel → DifopSetting → Bool} {pkt : MsopPkt P c},
      PairedColumns getLidarModel initialized param pkt s →
        PairedColumns getLidarModel initialized param pkt { s with pointCloud := [] } := by
    intro c getLidarModel initialized pkt hpaired
    unfold PairedColumns DecoderMech.initModel at hpaired ⊢
    by_cases hready : s.bInit = true
    · simp only [hready, if_true] at hpaired ⊢
      exact hpaired
    · simp only [hready] at hpaired ⊢
      exact hpaired
  cases t with
  | rsairy =>
    cases e with
    | msop pkt => exact fun hcheck => hpaired (h hcheck)
    | difop setting => trivial
  | rsfairy =>
    cases e with
    | msop pkt => exact fun hcheck => hpaired (h hcheck)
    | difop setting => trivial
  | _ => trivial

theorem MechInv.step (h : MechInv t s) (hdense : param.densePoints = false)
    {e : DriverEvent P t.constParam} (hwhole : ColumnsWhole t param s e) {s' : DecoderMech P}
    (hstep : driverStep t param s e = some s') : MechInv t s' := by
  cases e with
  | difop setting =>
    cases hstep
    exact h.setDifop setting
  | msop pkt =>
    cases hstep
    have hprocess : ∀ {s : DecoderMech P}, MechInv t s → ColumnsWhole t param s (.msop pkt) →
        s.pointCloud.length ≤ 5000000 → MechInv t
          (if checkMsopPkt t param pkt s then decodeMsopPkt t param pkt s else (s, false)).1 := by
      intro s h hwhole hsize
      split
      · exact h.decode hdense ‹_› hwhole hsize
      · exact h
    unfold processMsopPkt
    by_cases hover : 5000000 < s.pointCloud.length
    · simp only [if_pos hover]
      exact hprocess h.clear hwhole.clear (Nat.zero_le _)
    · simp only [if_neg hover]
      exact hprocess h hwhole (Nat.le_of_not_lt hover)

theorem MechInv.put (h : MechInv t s) : ∀ cloud ∈ s.putClouds, cloud.Rectangular := by
  cases t with
  | rsairy => exact h.cloud.put
  | rsfairy => exact h.cloud.put
  | _ => exact h.put

/-- **The clouds are rectangular.** They are in every run of a decoder, DIFOP packets
coming as they may, when no column of an RSAIRY or RSFAIRY with 96 channels is torn;
and then the message has every point once. -/
theorem clouds_rectangular (t : MechType) (param : RSDecoderParam)
    (hdense : param.densePoints = false) (setting : DifopSetting)
    {tr : List (DecoderMech P × DriverEvent P t.constParam)} {s : DecoderMech P}
    (h : Run (driverStep t param) (ColumnsWhole t param) (.init param setting) tr s) :
    ∀ cloud ∈ s.putClouds, cloud.Rectangular ∧ ∀ sendByRows, ∃ data,
      toRosMsg cloud sendByRows = some data ∧ data.Perm (cloud.points.map some) := by
  have hinv : MechInv t s := by
    apply h.invariant
    · exact MechInv.init t param setting
    · intro tr s e s' ih hwhole hstep
      exact ih.step hdense hwhole hstep
  intro cloud hcloud
  have hrect := hinv.put cloud hcloud
  exact ⟨hrect, toRosMsg_perm hrect⟩

instance {c : RSDecoderConstParam} (getLidarModel : UInt8 → LidarModel × ℕ)
    (initialized : LidarModel → DifopSetting → Bool) (pkt : MsopPkt P c) :
    Decidable (PairedColumns getLidarModel initialized param pkt s) :=
  inferInstanceAs (Decidable (_ → _ → _ = _))

instance : ∀ e : DriverEvent P MechType.rsairy.constParam,
    Decidable (ColumnsWhole .rsairy param s e)
  | .msop pkt => inferInstanceAs (Decidable (checkMsopPkt .rsairy param pkt s = true →
      PairedColumns getRsairyModel rsairyInitialized param pkt s))
  | .difop _ => .isTrue trivial

end Runs

/-- Split by angle, at 0. -/
def byAngleParam : RSDecoderParam := ⟨false, false, .splitByAngle, 0, 0⟩

/-- A lidar whose DIFOP packet has not come. -/
def noDifop : DifopSetting := ⟨900, 900, false, false, 0⟩

/-- A packet of RSAIRY with 96 channels, all blocks at one azimuth, of which one may
have a wrong id; nothing was in the sections. -/
def rsairyPkt (azimuth : UInt16) (wrong : Option ℕ) : MsopPkt ℕ rsairy where
  size := 1248
  id := rsairy.msopId
  dataType0 := 0
  dataType1 := 0x04
  lidarMode := 0x02
  blocks := (List.range 8).map fun i =>
    ⟨if wrong = some i then [0, 0] else rsairy.blockId, azimuth, List.replicate 48 ⟨none, i⟩⟩
  blocks_length := List.length_map _
  channels_length := by
    intro block hblock
    obtain ⟨i, -, rfl⟩ := List.mem_map.mp hblock
    exact List.length_replicate

theorem clouds_rectangular_rsairy : ∃ tr, ∃ s : DecoderMech ℕ,
    Run (driverStep .rsairy byAngleParam) (ColumnsWhole .rsairy byAngleParam)
      (.init byAngleParam noDifop) tr s ∧
    s.putClouds.map (fun cloud => (cloud.points.length, cloud.height, cloud.width)) =
      [(384, 96, 4)] ∧
    ∀ cloud ∈ s.putClouds, cloud.Rectangular ∧ ∀ sendByRows, ∃ data,
      toRosMsg cloud sendByRows = some data ∧ data.Perm (cloud.points.map some) := by
  have hend : (exec (fun s e => if decide (ColumnsWhole .rsairy byAngleParam s e) then
      driverStep .rsairy byAngleParam s e else none) (.init byAngleParam noDifop)
      [.msop (rsairyPkt 100 none), .msop (rsairyPkt 0 none)]).map
      (fun s => decide (s.putClouds.map (fun cloud =>
        (cloud.points.length, cloud.height, cloud.width)) = [(384, 96, 4)])) = some true := by
    decide +kernel
  obtain ⟨s, hs, hstate⟩ := Option.map_eq_some_iff.mp hend
  obtain ⟨tr, -, hrun⟩ := Run.of_exec_test (fun _ _ => of_decide_eq_true) hs
  exact ⟨tr, s, hrun, of_decide_eq_true hstate,
    clouds_rectangular .rsairy byAngleParam rfl noDifop hrun⟩

/-! ### A torn column -/

/-- **A cloud that is not rectangular.** The fourth block of a packet of RSAIRY has a
wrong id, which leaves one and a half columns in the cloud: the next frame begins, the
cloud has 144 points of a height of 96, and the message has no room for the last 48. -/
theorem clouds_ragged : ∃ tr, ∃ s : DecoderMech ℕ,
    Run (driverStep .rsairy byAngleParam) (fun _ _ => True) (.init byAngleParam noDifop) tr s ∧
    ∃ cloud ∈ s.putClouds, cloud.points.length = 144 ∧ cloud.height = 96 ∧ cloud.width = 1 ∧
      ¬ cloud.Rectangular ∧ toRosMsg cloud false = none := by
  have hend : (exec (driverStep .rsairy byAngleParam) (.init byAngleParam noDifop)
      [.msop (rsairyPkt 100 (some 3)), .msop (rsairyPkt 0 none)]).map
      (fun s => decide (∃ cloud ∈ s.putClouds, cloud.points.length = 144 ∧ cloud.height = 96 ∧
        cloud.width = 1 ∧ ¬ cloud.Rectangular ∧ toRosMsg cloud false = none)) = some true := by
    decide +kernel
  obtain ⟨s, hs, hstate⟩ := Option.map_eq_some_iff.mp hend
  obtain ⟨tr, -, hrun⟩ := Run.of_exec hs
  exact ⟨tr, s, hrun, of_decide_eq_true hstate⟩

end Rs
end SensorSupport
