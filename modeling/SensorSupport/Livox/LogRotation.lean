/-
# The room for the logs (`logger_handler/logger_manager.cpp`, `file_manager.cpp`)

`Init` divides the room that was configured among the two types of log. A thread looks at
the directory of each type whenever a file was ended, and every ten minutes: when the
files in it are too big, it collects the names of the files that do not begin with a dot,
also of those in the directories below, sorted by the time in them, and removes what has
the first of these names in the directory until the rest fits.

The sizes are configured in MB and computed with 64 bits; `Init` takes none for which that
wraps around. The two limits are what was configured, up to 1 MB (`init_limits`).

A pass removes the oldest closed files, as many as it needs. Beside them it removes what
else in the directory has the name of a file further below, a link say, but neither a
hidden file nor what is in a directory below (`cycleDelete_pass`). So while files are
removed, an open file keeps its hidden name, and gets the one without the dot when it is
closed (`cycleDelete_keepsOpen`, `open_logs_named`).

Key definitions: `LoggerManager.init`, `DirEntry`, `getDirTotalSize`, `getFileNames`, `cycleDelete`,
`Below`, `RotationOnly`.
Key theorems: `cycleDelete_pass`, `init_limits`, `cycleDelete_keepsOpen`, `open_logs_named`.
-/
import Mathlib.Data.Char
import Mathlib.Data.List.Lex
import SensorSupport.Lib.Eviction
import SensorSupport.Livox.LoggerHandler

namespace SensorSupport
namespace Livox

/-! ### The limits -/

/-- `LivoxLidarLoggerCfg`; the size is in MB. -/
structure LivoxLidarLoggerCfg where
  lidarLogEnable : Bool
  lidarLogCacheSize : UInt64
  lidarLogPath : List Char

/-- What `LoggerManager` keeps of it. -/
structure LoggerManager where
  logEnable : Bool
  logRootPath : List Char
  maxRealtimelogCacheSize : UInt64
  maxExceptionlogCacheSize : UInt64
  logCycleDeleteEnable : Bool

def kMaxExceptionLogCachSizeMb : UInt16 := 200

def kExceptionLogCacheRatio : UInt16 := 1

def kRealtimeLogCacheRatio : UInt16 := 3

namespace LoggerManager

/-- The constructor. -/
def new : LoggerManager := ⟨false, ['.', '/'], 150 * 1024 * 1024, 50 * 1024 * 1024, false⟩

/-- The sizes for the two types of log, real time and exceptions. -/
def logLimits (lidarLogCacheSize : UInt64) : UInt64 × UInt64 :=
  let maxException := kMaxExceptionLogCachSizeMb.toUInt64
  let exception := kExceptionLogCacheRatio.toUInt64
  let realtime := kRealtimeLogCacheRatio.toUInt64
  let parts := exception + realtime
  if maxException * parts / exception < lidarLogCacheSize then
    ((lidarLogCacheSize - maxException) * 1024 * 1024, maxException * 1024 * 1024)
  else
    (lidarLogCacheSize * realtime / parts * 1024 * 1024,
      lidarLogCacheSize * exception / parts * 1024 * 1024)

/-- The path in which the directories of the types of log are. -/
def savePath (logRootPath : List Char) : List Char :=
  logRootPath ++ (if logRootPath.getLast? = some '/' then [] else ['/']) ++ "lidar_log/".toList

/-- `Init`; `directory` says whether the path is there or can be made. -/
def init (directory : Bool) (cfg : Option LivoxLidarLoggerCfg) (s : LoggerManager) :
    LoggerManager × Bool :=
  match cfg with
  | none => ({ s with logEnable := false }, true)
  | some cfg =>
    if cfg.lidarLogEnable = false then ({ s with logEnable := false }, true)
    else if cfg.lidarLogCacheSize = 0 ∨ 1000000000 < cfg.lidarLogCacheSize then
      ({ s with logEnable := false }, true)
    else
      let limits := logLimits cfg.lidarLogCacheSize
      let s := { s with
        logEnable := cfg.lidarLogEnable
        maxRealtimelogCacheSize := limits.1
        maxExceptionlogCacheSize := limits.2 }
      if directory then
        ({ s with logRootPath := savePath cfg.lidarLogPath, logCycleDeleteEnable := true }, true)
      else (s, false)

end LoggerManager

/-! ### Directories -/

/-- What a directory has: files with their sizes, links with the size of what is behind
them, directories, and others. -/
inductive DirEntry
  | reg (size : ℕ)
  | lnk (size : ℕ)
  | dir (entries : List (List Char × DirEntry))
  | other

/-- The entries in the order of `readdir`. -/
abbrev DirEntries := List (List Char × DirEntry)

mutual

/-- `GetDirTotalSize` -/
def DirEntry.totalSize : DirEntry → ℕ
  | .reg size => size
  | .lnk size => size
  | .dir entries => getDirTotalSize entries
  | .other => 0

def getDirTotalSize : List (List Char × DirEntry) → ℕ
  | [] => 0
  | (_, entry) :: rest => entry.totalSize + getDirTotalSize rest

end

/-- `kLengthOfTimeInFilename` -/
def kLengthOfTimeInFilename : ℕ := 19

/-- The key of a name. -/
def recordTime (filename : List Char) : List Char := filename.take kLengthOfTimeInFilename

/-- `StoreFileName` -/
def storeFileName (filename : List Char) (filenames : List (List Char)) : List (List Char) :=
  if filename = [] then filenames else insertByKey recordTime filename filenames

mutual

/-- What `GetFileNames` does with an entry. -/
def DirEntry.fileNames (name : List Char) : DirEntry → List (List Char) → List (List Char)
  | .reg _, filenames => if name.head? = some '.' then filenames else storeFileName name filenames
  | .dir entries, filenames => getFileNames entries filenames
  | .lnk _, filenames => filenames
  | .other, filenames => filenames

/-- `GetFileNames`: the names of the files that are not hidden, with those of the
directories below. -/
def getFileNames : List (List Char × DirEntry) → List (List Char) → List (List Char)
  | [], filenames => filenames
  | (name, entry) :: rest, filenames => getFileNames rest (entry.fileNames name filenames)

end

/-- Can `remove` be called? A directory has to be empty. -/
def DirEntry.removable : DirEntry → Bool
  | .dir entries => entries.isEmpty
  | _ => true

/-- `remove` of a name in a directory. -/
def removeName (entries : DirEntries) (name : List Char) : DirEntries :=
  entries.filter fun x => !(decide (x.1 = name) && x.2.removable)

/-- What `CycleDelete` does with the directory of a type of log. -/
def cycleDelete (limit : ℕ) (entries : DirEntries) : DirEntries :=
  if limit < getDirTotalSize entries then
    evict limit getDirTotalSize removeName (getFileNames entries []) entries
  else entries

/-! ### A pass over a directory -/

/-- A file whose name does not begin with a dot: nobody writes to it any more. -/
def closedLog : List Char × DirEntry → Bool
  | (c :: _, .reg _) => c != '.'
  | _ => false

/-- What is left when some names are removed. -/
def without (removed : List (List Char)) (entries : DirEntries) : DirEntries :=
  entries.filter fun x => !(removed.contains x.1 && x.2.removable)

theorem foldl_removeName : ∀ (removed : List (List Char)) (entries : DirEntries),
    removed.foldl removeName entries = without removed entries
  | [], entries => by simp [without]
  | name :: removed, entries => by
    rw [List.foldl_cons, foldl_removeName removed]
    unfold without removeName
    rw [List.filter_filter]
    congr 1
    funext x
    cases x.2.removable <;> simp [Bool.and_comm]

mutual

/-- What storing a name keeps is kept by `GetFileNames`. -/
theorem DirEntry.fileNames_keeps {Q : List (List Char) → Prop}
    (hstore : ∀ name filenames, name.head? ≠ some '.' → Q filenames →
      Q (storeFileName name filenames)) (name : List Char) : ∀ (entry : DirEntry)
    (filenames : List (List Char)), Q filenames → Q (entry.fileNames name filenames)
  | .reg size, filenames, h => by
    unfold DirEntry.fileNames
    split
    · exact h
    · exact hstore name filenames ‹_› h
  | .dir entries, filenames, h => getFileNames_keeps hstore entries filenames h
  | .lnk _, _, h => h
  | .other, _, h => h

theorem getFileNames_keeps {Q : List (List Char) → Prop}
    (hstore : ∀ name filenames, name.head? ≠ some '.' → Q filenames →
      Q (storeFileName name filenames)) : ∀ (entries : List (List Char × DirEntry))
    (filenames : List (List Char)), Q filenames → Q (getFileNames entries filenames)
  | [], _, h => h
  | (name, entry) :: rest, filenames, h =>
    getFileNames_keeps hstore rest _ (entry.fileNames_keeps hstore name filenames h)

end

theorem mem_storeFileName {name other : List Char} {filenames : List (List Char)} :
    other ∈ storeFileName name filenames ↔ name ≠ [] ∧ other = name ∨ other ∈ filenames := by
  unfold storeFileName
  split
  · rename_i hnil
    simp [hnil]
  · rename_i hnil
    rw [mem_insertByKey]
    simp [hnil]

mutual

/-- `GetFileNames` adds to the names what it finds. -/
theorem DirEntry.mem_fileNames {other : List Char} (name : List Char) : ∀ (entry : DirEntry)
    (filenames : List (List Char)),
    other ∈ entry.fileNames name filenames ↔ other ∈ filenames ∨ other ∈ entry.fileNames name []
  | .reg size, filenames => by
    unfold DirEntry.fileNames
    split
    · simp
    · rw [mem_storeFileName, mem_storeFileName]
      simp [or_comm]
  | .dir entries, filenames => mem_getFileNames entries filenames
  | .lnk _, _ => by simp [DirEntry.fileNames]
  | .other, _ => by simp [DirEntry.fileNames]

theorem mem_getFileNames {other : List Char} : ∀ (entries : List (List Char × DirEntry))
    (filenames : List (List Char)),
    other ∈ getFileNames entries filenames ↔ other ∈ filenames ∨ other ∈ getFileNames entries []
  | [], filenames => by simp [getFileNames]
  | (name, entry) :: rest, filenames => by
    unfold getFileNames
    rw [mem_getFileNames rest, mem_getFileNames rest (entry.fileNames name []),
      entry.mem_fileNames name filenames, or_assoc]

end

/-- A file without a dot in a directory below has that name. -/
def Below (name : List Char) (entries : DirEntries) : Prop :=
  ∃ x ∈ entries, ∃ inner, x.2 = .dir inner ∧ name ∈ getFileNames inner []

theorem mem_fileNames_iff {name : List Char} (x : List Char × DirEntry) :
    name ∈ x.2.fileNames x.1 [] ↔ closedLog x = true ∧ x.1 = name ∨
      ∃ inner, x.2 = .dir inner ∧ name ∈ getFileNames inner [] := by
  obtain ⟨other, entry⟩ := x
  cases entry with
  | reg size =>
    cases other with
    | nil => simp [DirEntry.fileNames, storeFileName, closedLog]
    | cons c cs =>
      by_cases hdot : c = '.'
      · simp [DirEntry.fileNames, closedLog, hdot]
      · simp only [DirEntry.fileNames, closedLog, List.head?_cons, Option.some.injEq, hdot,
          if_false, mem_storeFileName]
        simpa [hdot] using eq_comm
  | lnk size => simp [DirEntry.fileNames, closedLog]
  | dir inner => simp [DirEntry.fileNames, closedLog]
  | other => simp [DirEntry.fileNames, closedLog]

/-- The names are those of the closed files, here or below. -/
theorem mem_getFileNames_iff {name : List Char} : ∀ (entries : DirEntries),
    name ∈ getFileNames entries [] ↔
      (∃ x ∈ entries, closedLog x = true ∧ x.1 = name) ∨ Below name entries
  | [] => by simp [getFileNames, Below]
  | x :: rest => by
    unfold getFileNames
    rw [mem_getFileNames, mem_fileNames_iff, mem_getFileNames_iff rest]
    simp only [Below, List.mem_cons, exists_eq_or_imp]
    exact or_or_or_comm

/-- The names are sorted by their times. -/
theorem getFileNames_sorted (entries : DirEntries) :
    (getFileNames entries []).Pairwise fun a b => recordTime a ≤ recordTime b := by
  refine getFileNames_keeps (fun name filenames _ h => ?_) entries [] List.Pairwise.nil
  unfold storeFileName
  split
  · exact h
  · exact insertByKey_sorted name h

/-- No name is hidden. -/
theorem getFileNames_visible (entries : DirEntries) :
    ∀ name ∈ getFileNames entries [], name.head? ≠ some '.' := by
  refine getFileNames_keeps (Q := fun filenames => ∀ name ∈ filenames, name.head? ≠ some '.')
    (fun name filenames hname h => ?_) entries [] fun _ hin => absurd hin List.not_mem_nil
  unfold storeFileName
  split
  · exact h
  · intro other hother
    rcases mem_insertByKey.mp hother with rfl | hin
    · exact hname
    · exact h other hin

theorem closedLog_removable {x : List Char × DirEntry} (h : closedLog x = true) :
    x.2.removable = true := by
  unfold closedLog at h
  split at h
  · rfl
  · cases h

/-- A pass removes the first of the names, each when the directory did not fit; then it
fits, or all were removed. -/
theorem cycleDelete_spec (limit : ℕ) (entries : DirEntries) : ∃ removed : List (List Char),
    removed <+: getFileNames entries [] ∧ cycleDelete limit entries = without removed entries ∧
      (∀ before last, before ++ [last] <+: removed →
        limit < getDirTotalSize (without before entries)) ∧
      (getDirTotalSize (cycleDelete limit entries) ≤ limit ∨ removed = getFileNames entries []) := by
  unfold cycleDelete
  split
  · obtain ⟨removed, hprefix, hleft, hover, hfits⟩ :=
      evict_spec limit getDirTotalSize removeName (getFileNames entries []) entries
    rw [foldl_removeName] at hleft
    refine ⟨removed, hprefix, hleft, fun before last hlast => ?_, hfits⟩
    rw [← foldl_removeName]
    exact hover before last hlast
  · rename_i hfits
    exact ⟨[], List.nil_prefix, by simp [without], fun before last hlast => by simp at hlast,
      .inl (Nat.not_lt.mp hfits)⟩

/-- A closed file that is left has a name that was not removed. -/
theorem without_closed {removed rest : List (List Char)} {entries : DirEntries}
    (hnames : removed ++ rest = getFileNames entries []) :
    ∀ x ∈ without removed entries, closedLog x = true → x.1 ∈ rest := by
  intro x hx hclosed
  obtain ⟨hin, hkept⟩ := List.mem_filter.mp hx
  have hname : x.1 ∈ getFileNames entries [] :=
    (mem_getFileNames_iff entries).mpr (.inl ⟨x, hin, hclosed, rfl⟩)
  rw [← hnames] at hname
  rcases List.mem_append.mp hname with hremoved | hrest
  · simp [hremoved, closedLog_removable hclosed] at hkept
  · exact hrest

/-- Behind a pass the directory fits, or no closed file is left in it. -/
theorem cycleDelete_fits (limit : ℕ) (entries : DirEntries) :
    getDirTotalSize (cycleDelete limit entries) ≤ limit ∨
      ∀ x ∈ cycleDelete limit entries, closedLog x = false := by
  obtain ⟨removed, -, hleft, -, hfits⟩ := cycleDelete_spec limit entries
  refine hfits.imp_right fun hall x hx => ?_
  cases hclosed : closedLog x with
  | false => rfl
  | true =>
    have hnames : removed ++ [] = getFileNames entries [] := by rw [List.append_nil, hall]
    exact absurd (without_closed hnames x (hleft ▸ hx) hclosed) List.not_mem_nil

/-- What is gone has one of the names, and can be removed. -/
theorem without_gone {removed : List (List Char)} {entries : DirEntries}
    {x : List Char × DirEntry} (hin : x ∈ entries) (hgone : x ∉ without removed entries) :
    x.1 ∈ removed ∧ x.2.removable = true := by
  have htest : (!(removed.contains x.1 && x.2.removable)) = false :=
    Bool.eq_false_iff.mpr fun hkept => hgone (List.mem_filter.mpr ⟨hin, hkept⟩)
  simpa using htest

/-- **A pass removes the oldest closed files**, and as many as it has to. The names it tries are
the first ones of the closed files, here and below, in the order of their times. What it removes
is a closed file, or something else that has the name of one below; hidden files stay, and
directories that are not empty stay as they are. Behind it the directory fits, or no closed file
is left; no closed file that is left is older than a name that was tried, and without the last
name the directory did not fit. -/
theorem cycleDelete_pass (limit : ℕ) (entries : DirEntries)
    (hdistinct : (entries.map Prod.fst).Nodup) : ∃ removed : List (List Char),
    removed <+: getFileNames entries [] ∧
      (removed.Pairwise fun a b => recordTime a ≤ recordTime b) ∧
      cycleDelete limit entries = without removed entries ∧
      (∀ x ∈ entries, x ∉ cycleDelete limit entries →
        closedLog x = true ∨ x.2.removable = true ∧ Below x.1 entries) ∧
      (∀ x ∈ entries, x.1.head? = some '.' ∨ x.2.removable = false →
        x ∈ cycleDelete limit entries) ∧
      (getDirTotalSize (cycleDelete limit entries) ≤ limit ∨
        ∀ x ∈ cycleDelete limit entries, closedLog x = false) ∧
      (∀ name ∈ removed, ∀ x ∈ cycleDelete limit entries, closedLog x = true →
        recordTime name ≤ recordTime x.1) ∧
      ∀ before last, removed = before ++ [last] →
        limit < getDirTotalSize (without before entries) := by
  obtain ⟨removed, hprefix, hleft, hover, -⟩ := cycleDelete_spec limit entries
  obtain ⟨rest, hnames⟩ := hprefix
  have hsorted := getFileNames_sorted entries
  rw [← hnames] at hsorted
  obtain ⟨hremoved, -, hacross⟩ := List.pairwise_append.mp hsorted
  have hfound : ∀ name ∈ removed, name ∈ getFileNames entries [] := fun name hname =>
    hnames ▸ List.mem_append_left _ hname
  refine ⟨removed, ⟨rest, hnames⟩, hremoved, hleft, fun x hin hgone => ?_, fun x hin hstays => ?_,
    cycleDelete_fits limit entries, fun name hname x hx hclosed => ?_, fun before last heq => ?_⟩
  · obtain ⟨hname, hremovable⟩ := without_gone hin (hleft ▸ hgone)
    rcases (mem_getFileNames_iff entries).mp (hfound _ hname) with ⟨y, hy, hclosed, hyx⟩ | hbelow
    · obtain rfl : y = x := List.inj_on_of_nodup_map hdistinct hy hin hyx
      exact .inl hclosed
    · exact .inr ⟨hremovable, hbelow⟩
  · by_contra hgone
    obtain ⟨hname, hremovable⟩ := without_gone hin (hleft ▸ hgone)
    rcases hstays with hdot | hkept
    · exact getFileNames_visible entries x.1 (hfound _ hname) hdot
    · rw [hremovable] at hkept
      cases hkept
  · exact hacross name hname x.1 (without_closed hnames x (hleft ▸ hx) hclosed)
  · exact hover before last (heq ▸ List.prefix_rfl)

/-- A directory with a file that is being written, two that were closed, a link, and a
directory with an older file that has the name of the link. -/
def demoDirectory : DirEntries :=
  [(".2024-05-07.dat".toList, .reg 40), ("2024-05-06.dat".toList, .reg 30),
    ("2024-05-05.dat".toList, .reg 30), ("2024-05-04.dat".toList, .lnk 10),
    ("old".toList, .dir [("2024-05-04.dat".toList, .reg 20)])]

/-- The link goes first, then the older one of the closed files. -/
theorem cycleDelete_pass_demo : ∃ removed : List (List Char),
    cycleDelete 95 demoDirectory = without removed demoDirectory ∧
      removed <+: ["2024-05-04.dat".toList, "2024-05-05.dat".toList, "2024-05-06.dat".toList] ∧
      (cycleDelete 95 demoDirectory).map Prod.fst =
        [".2024-05-07.dat".toList, "2024-05-06.dat".toList, "old".toList] := by
  have hnames : getFileNames demoDirectory [] =
      ["2024-05-04.dat".toList, "2024-05-05.dat".toList, "2024-05-06.dat".toList] := by
    decide +kernel
  obtain ⟨removed, hprefix, -, hleft, -⟩ := cycleDelete_pass 95 demoDirectory (by decide +kernel)
  exact ⟨removed, hleft, hnames ▸ hprefix, by decide +kernel⟩

/-! ### The limits that were configured -/

/-- The limits without the roundings of the machine; sizes up to 10^9 do not wrap around. -/
theorem logLimits_toNat {size : UInt64} (h : size.toNat ≤ 1000000000) :
    let limits := LoggerManager.logLimits size
    limits.1.toNat = (if 800 < size.toNat then size.toNat - 200 else size.toNat * 3 / 4) * 2 ^ 20 ∧
      limits.2.toNat = (if 800 < size.toNat then 200 else size.toNat / 4) * 2 ^ 20 := by
  intro limits
  have hbound : kMaxExceptionLogCachSizeMb.toUInt64 *
      (kExceptionLogCacheRatio.toUInt64 + kRealtimeLogCacheRatio.toUInt64) /
        kExceptionLogCacheRatio.toUInt64 < size ↔ 800 < size.toNat := UInt64.lt_iff_toNat_lt
  have hone : (1024 : UInt64).toNat = 1024 := rfl
  by_cases hbig : 800 < size.toNat
  · have hlimits : limits = ((size - 200) * 1024 * 1024, 200 * 1024 * 1024) :=
      if_pos (hbound.mpr hbig)
    have hsub : (size - 200).toNat = size.toNat - 200 :=
      UInt64.toNat_sub_of_le _ _ (UInt64.le_iff_toNat_le.mpr (by
        change 200 ≤ size.toNat
        omega))
    rw [hlimits, if_pos hbig, if_pos hbig]
    refine ⟨?_, rfl⟩
    rw [UInt64.toNat_mul, UInt64.toNat_mul, hsub, hone]
    omega
  · have hlimits : limits = (size * 3 / 4 * 1024 * 1024, size * 1 / 4 * 1024 * 1024) :=
      if_neg fun hlt => hbig (hbound.mp hlt)
    have hparts : (4 : UInt64).toNat = 4 := rfl
    have hthree : (3 : UInt64).toNat = 3 := rfl
    have hmul : size.toNat * 3 % 2 ^ 64 = size.toNat * 3 := Nat.mod_eq_of_lt (by omega)
    rw [hlimits, if_neg hbig, if_neg hbig, UInt64.mul_one]
    constructor
    · rw [UInt64.toNat_mul, UInt64.toNat_mul, UInt64.toNat_div, UInt64.toNat_mul, hone, hparts,
        hthree, hmul]
      omega
    · rw [UInt64.toNat_mul, UInt64.toNat_mul, UInt64.toNat_div, hone, hparts]
      omega

/-- What `Init` keeps of a configuration that turns the logs on. -/
theorem init_enabled {directory : Bool} {cfg : LivoxLidarLoggerCfg} {s : LoggerManager}
    (h : (s.init directory (some cfg)).1.logEnable = true) :
    0 < cfg.lidarLogCacheSize.toNat ∧ cfg.lidarLogCacheSize.toNat ≤ 1000000000 ∧
      ((s.init directory (some cfg)).1.maxRealtimelogCacheSize,
        (s.init directory (some cfg)).1.maxExceptionlogCacheSize) =
          LoggerManager.logLimits cfg.lidarLogCacheSize := by
  simp only [LoggerManager.init] at h ⊢
  split at h
  · cases h
  · rename_i henable
    split at h
    · cases h
    · rename_i hsize
      rw [if_neg henable, if_neg hsize]
      obtain ⟨hzero, hmax⟩ := not_or.mp hsize
      refine ⟨Nat.pos_of_ne_zero fun h => hzero (UInt64.toNat_inj.mp h), ?_, ?_⟩
      · exact Nat.le_of_not_lt fun h => hmax (UInt64.lt_iff_toNat_lt.mpr h)
      · split <;> rfl

/-- **The limits are what was configured**, or 1 MB less when that is at most 800 MB and not
divisible by 4. The exceptions get a fourth, and at most 200 MB; the real time logs get nothing
only of 1 MB. With these limits a pass over each of the directories leaves no more than was
configured, or no closed file in one of them. -/
theorem init_limits (directory : Bool) (cfg : LivoxLidarLoggerCfg) (s : LoggerManager)
    (h : (s.init directory (some cfg)).1.logEnable = true) :
    let s' := (s.init directory (some cfg)).1
    let size := cfg.lidarLogCacheSize.toNat
    let realtime := s'.maxRealtimelogCacheSize.toNat
    let exception := s'.maxExceptionlogCacheSize.toNat
    realtime + exception = (if size ≤ 800 ∧ size % 4 ≠ 0 then size - 1 else size) * 2 ^ 20 ∧
      exception = min (size / 4) 200 * 2 ^ 20 ∧ (realtime = 0 ↔ size = 1) ∧
      ∀ realtimeLogs exceptionLogs : DirEntries,
        getDirTotalSize (cycleDelete realtime realtimeLogs) +
            getDirTotalSize (cycleDelete exception exceptionLogs) ≤ size * 2 ^ 20 ∨
          (∀ x ∈ cycleDelete realtime realtimeLogs, closedLog x = false) ∨
            ∀ x ∈ cycleDelete exception exceptionLogs, closedLog x = false := by
  intro s' size realtime exception
  obtain ⟨hpositive, hmax, hlimits⟩ := init_enabled h
  obtain ⟨hrealtime, hexception⟩ := logLimits_toNat hmax
  rw [← hlimits] at hrealtime hexception
  change realtime = (if 800 < size then size - 200 else size * 3 / 4) * 2 ^ 20 at hrealtime
  change exception = (if 800 < size then 200 else size / 4) * 2 ^ 20 at hexception
  have hsum : realtime + exception =
      (if size ≤ 800 ∧ size % 4 ≠ 0 then size - 1 else size) * 2 ^ 20 := by
    rw [hrealtime, hexception]
    split <;> split <;> omega
  have hle : realtime + exception ≤ size * 2 ^ 20 := by
    rw [hsum]
    split <;> omega
  refine ⟨hsum, ?_, ?_, fun realtimeLogs exceptionLogs => ?_⟩
  · rw [hexception]
    split <;> omega
  · have hpos : 0 < size := hpositive
    rw [hrealtime]
    split <;> omega
  · rcases cycleDelete_fits realtime realtimeLogs with hfits | hnone
    · rcases cycleDelete_fits exception exceptionLogs with hfits' | hnone'
      · exact .inl ((Nat.add_le_add hfits hfits').trans hle)
      · exact .inr (.inr hnone')
    · exact .inr (.inl hnone)

/-- With 4296 MB the real time logs get 4096 MB. -/
theorem init_limits_big :
    let s' := (LoggerManager.new.init true (some ⟨true, 4296, ['.']⟩)).1
    s'.maxExceptionlogCacheSize.toNat = 200 * 2 ^ 20 ∧
      s'.maxRealtimelogCacheSize.toNat + s'.maxExceptionlogCacheSize.toNat = 4296 * 2 ^ 20 :=
  have h := init_limits true ⟨true, 4296, ['.']⟩ .new rfl
  ⟨h.2.1, h.1⟩

/-! ### Files that are being written -/

/-- Only names without a dot are removed, and only from the directories of the logs. -/
def RotationOnly (s : LoggerHandler) : LogEvent → Prop
  | .remove path => ∃ t name, name.head? ≠ some '.' ∧ path = s.filePath t name
  | _ => True

/-- The open files have the names that were noted for them. -/
structure Named (s : LoggerHandler) : Prop where
  file : ∀ {t f}, (s.currentFiles t).fp = some f →
    s.names.file (s.filePath t (s.currentFiles t).fileName) = some f

section Named

variable {s : LoggerHandler} {t : UInt8} {buff : WriteBuffer}

/-- The other names are as they were. -/
theorem changeCurrentFileName_other {dir cut p : List Char} {names : FileNames (List Char)}
    (hdot : p ≠ dir ++ '/' :: '.' :: cut) (hcut : p ≠ dir ++ '/' :: cut) :
    (LoggerHandler.changeCurrentFileName dir ('.' :: cut) names).file p = names.file p := by
  rw [LoggerHandler.changeCurrentFileName_dot]
  split
  · rfl
  · rename_i hsome
    obtain ⟨f, hf⟩ := Option.ne_none_iff_exists'.mp hsome
    have hne : dir ++ '/' :: '.' :: cut ≠ dir ++ '/' :: cut := by
      intro heq
      have hlength := congrArg List.length heq
      simp at hlength
    split
    · rw [FileNames.rename_file hf, if_neg hcut, if_neg hdot]
    · have hf' : (names.remove (dir ++ '/' :: cut)).file (dir ++ '/' :: '.' :: cut) = some f := by
        rw [FileNames.remove_file, if_neg hne, hf]
      rw [FileNames.rename_file hf', if_neg hcut, if_neg hdot, FileNames.remove_file, if_neg hcut]

/-- The file gets the name without the dot. -/
theorem changeCurrentFileName_cut {dir cut : List Char} {names : FileNames (List Char)} {f : ℕ}
    (hf : names.file (dir ++ '/' :: '.' :: cut) = some f) :
    (LoggerHandler.changeCurrentFileName dir ('.' :: cut) names).file (dir ++ '/' :: cut) =
      some f := by
  have hne : dir ++ '/' :: '.' :: cut ≠ dir ++ '/' :: cut := by
    intro heq
    have hlength := congrArg List.length heq
    simp at hlength
  rw [LoggerHandler.changeCurrentFileName_dot, if_neg (by rw [hf]; exact Option.some_ne_none f)]
  split
  · rw [FileNames.rename_file hf, if_pos rfl]
  · have hf' : (names.remove (dir ++ '/' :: cut)).file (dir ++ '/' :: '.' :: cut) = some f := by
      rw [FileNames.remove_file, if_neg hne, hf]
    rw [FileNames.rename_file hf', if_pos rfl]

theorem Named.closeCurrent (h : Named s) (htidy : Tidy s) (t : UInt8) :
    Named (s.closeCurrent t) := by
  unfold LoggerHandler.closeCurrent
  dsimp only
  split
  · exact h
  · rename_i hsome
    obtain ⟨f, hf⟩ := Option.ne_none_iff_exists'.mp hsome
    have ho := htidy.opened hf
    obtain ⟨cut, hname, -⟩ := ho.name
    obtain ⟨info, hinfo, hnone⟩ : ∃ info : CurrentFileInfo,
      { s.currentFiles t with fp := none } = info ∧ info.fp = none := ⟨_, rfl, rfl⟩
    rw [hinfo]
    refine ⟨fun {u g} hu => ?_⟩
    have hne : u ≠ t := by
      rintro rfl
      rw [show (Function.update s.currentFiles u info u).fp = info.fp by rw [Function.update_self],
        hnone] at hu
      cases hu
    have hsame : Function.update s.currentFiles t info u = s.currentFiles u :=
      Function.update_of_ne hne _ _
    have hother : ∀ name name', s.filePath u name ≠ s.filePath t name' := fun name name' heq =>
      hne (LoggerHandler.filePath_inj heq).1
    change (LoggerHandler.changeCurrentFileName (s.logBranchPath t) (s.currentFiles t).fileName
      s.names).file (s.filePath u (Function.update s.currentFiles t info u).fileName) = some g
    rw [hsame, ho.branch, hname,
      changeCurrentFileName_other (hother _ ('.' :: cut)) (hother _ cut)]
    exact h.file ((congrArg CurrentFileInfo.fp hsame).symm.trans hu)

/-- What is noted of a type of log without an open file does not matter. -/
theorem Named.note (h : Named s) {cur : CurrentFileInfo}
    (hcur : cur.fp = none) :
    Named { s with currentFiles := Function.update s.currentFiles t cur } := by
  refine ⟨fun {u g} hu => ?_⟩
  have hu : (Function.update s.currentFiles t cur u).fp = some g := hu
  change s.names.file (s.filePath u (Function.update s.currentFiles t cur u).fileName) = some g
  by_cases hut : u = t
  · rw [hut, Function.update_self, hcur] at hu
    cases hu
  · rw [Function.update_of_ne hut] at hu ⊢
    exact h.file hu

/-- A file is opened under its name; those of the other types keep theirs. -/
theorem Named.opens (h : Named s) {cur : CurrentFileInfo} {name : List Char}
    {writes : List (ℕ × WriteBuffer)}
    (hfp : cur.fp = some (s.names.openAppend (s.filePath t name)).2) (hname : cur.fileName = name) :
    Named { s with
      currentFiles := Function.update s.currentFiles t cur
      names := (s.names.openAppend (s.filePath t name)).1
      writes := writes } := by
  refine ⟨fun {u g} hu => ?_⟩
  have hu : (Function.update s.currentFiles t cur u).fp = some g := hu
  change (s.names.openAppend (s.filePath t name)).1.file
    (s.filePath u (Function.update s.currentFiles t cur u).fileName) = some g
  rw [FileNames.openAppend_file]
  by_cases hut : u = t
  · rw [hut, Function.update_self, hfp] at hu
    rw [hut, Function.update_self, hname, if_pos rfl, hu]
  · rw [Function.update_of_ne hut] at hu ⊢
    rw [if_neg fun heq => hut (LoggerHandler.filePath_inj heq).1]
    exact h.file hu

theorem Named.createFile (h : Named s) (htidy : Tidy s) (answer : CreateAnswer)
    (buff : WriteBuffer) : Named (s.createFile answer buff) := by
  have hnoted := htidy.noteBranch buff.logType
  have hnamed : Named { s with
      logBranchPath := Function.update s.logBranchPath buff.logType (s.typePath buff.logType) } :=
    ⟨h.file⟩
  unfold LoggerHandler.createFile
  dsimp only
  split
  · exact hnamed
  · obtain ⟨noted, hdef, hbranch, hroot⟩ : ∃ noted : LoggerHandler,
      { s with logBranchPath :=
          Function.update s.logBranchPath buff.logType (s.typePath buff.logType) } = noted ∧
        noted.logBranchPath buff.logType = s.typePath buff.logType ∧
        noted.logRootPath = s.logRootPath := ⟨_, rfl, Function.update_self .., rfl⟩
    rw [hdef] at hnoted hnamed ⊢
    have hclosed := hnamed.closeCurrent hnoted buff.logType
    obtain ⟨-, -, hpath⟩ := hnoted.closeCurrent buff.logType
    have htype : (noted.closeCurrent buff.logType).logBranchPath buff.logType =
        (noted.closeCurrent buff.logType).typePath buff.logType := by
      have hclosedRoot : (noted.closeCurrent buff.logType).logRootPath = s.logRootPath := by
        unfold LoggerHandler.closeCurrent
        dsimp only
        split <;> exact hroot
      rw [hpath, hbranch]
      unfold LoggerHandler.typePath
      rw [hclosedRoot]
    generalize noted.closeCurrent buff.logType = closed at *
    cases answer.opens with
    | false => exact hclosed.note rfl
    | true =>
      rw [htype]
      exact hclosed.opens rfl rfl

theorem Named.writeFile (h : Named s) (buff : WriteBuffer) : Named (s.writeFile buff) := by
  unfold LoggerHandler.writeFile
  dsimp only
  split
  · exact h
  · refine ⟨fun {u g} hu => ?_⟩
    have hu : (Function.update s.currentFiles buff.logType
      { s.currentFiles buff.logType with flag := buff.flag, transIndex := buff.transIndex } u).fp =
        some g := hu
    change s.names.file (s.filePath u (Function.update s.currentFiles buff.logType
      { s.currentFiles buff.logType with flag := buff.flag, transIndex := buff.transIndex }
        u).fileName) = some g
    by_cases hut : u = buff.logType
    · rw [hut, Function.update_self] at hu ⊢
      exact h.file hu
    · rw [Function.update_of_ne hut] at hu ⊢
      exact h.file hu

theorem Named.process (h : Named s) (htidy : Tidy s) (answer : CreateAnswer) (buff : WriteBuffer) :
    Named (s.process answer buff) := by
  unfold LoggerHandler.process
  dsimp only
  by_cases hcreate : buff.flag = kCreateFile
  · have hend : buff.flag ≠ kEndFile := hcreate ▸ by decide
    have htransfer : buff.flag ≠ kTransferData := hcreate ▸ by decide
    rw [if_pos hcreate, if_neg hend, if_neg htransfer]
    exact h.createFile htidy answer buff
  · rw [if_neg hcreate]
    by_cases hend : buff.flag = kEndFile
    · have htransfer : buff.flag ≠ kTransferData := hend ▸ by decide
      rw [if_pos hend, if_neg htransfer]
      exact (h.closeCurrent htidy buff.logType).note rfl
    · rw [if_neg hend]
      split
      · exact h.writeFile buff
      · exact h

/-- `Write` keeps the names of the open files. -/
theorem Named.writeLoop {answers : ℕ → CreateAnswer} : ∀ (fuel n : ℕ) (queue : List WriteBuffer)
    (s : LoggerHandler) (r : LoggerHandler × List WriteBuffer),
    LoggerHandler.writeLoop answers fuel n queue s = some r → Tidy s → Named s → Named r.1
  | 0, _, [], s, _, h, _, hnamed | _ + 1, _, [], s, _, h, _, hnamed => by
    cases h
    exact hnamed
  | 0, _, _ :: _, _, _, h, _, _ => nomatch h
  | fuel + 1, n, buff :: queue, s, r, h, htidy, hnamed => by
    rw [writeLoop_cons] at h
    split at h
    · exact Named.writeLoop fuel n (buff :: queue) s r h htidy hnamed
    · rename_i hskip
      obtain ⟨r', hr', rfl⟩ := Option.map_eq_some_iff.mp h
      exact Named.writeLoop fuel (n + 1) queue _ r' hr'
        (htidy.process (answers n) ((not_skipped_iff s buff).mp hskip))
        (hnamed.process htidy (answers n) buff)

theorem tidy_step {s' : LoggerHandler} {e : LogEvent} (h : Tidy s) (he : s.step e = some s') :
    Tidy s' := by
  cases e with
  | store req flag =>
    cases he
    exact h.storeLogBag req flag
  | write answers fuel =>
    obtain ⟨r, hr, rfl⟩ := Option.map_eq_some_iff.mp he
    exact (writeLoop_handles fuel 0 s.queue _ r hr h.takeQueue).1
  | remove path =>
    cases he
    exact h.remove path

theorem named_step {s' : LoggerHandler} {e : LogEvent} (h : Named s) (htidy : Tidy s)
    (hok : RotationOnly s e) (he : s.step e = some s') : Named s' := by
  cases e with
  | store req flag =>
    cases he
    exact ⟨h.file⟩
  | write answers fuel =>
    obtain ⟨r, hr, rfl⟩ := Option.map_eq_some_iff.mp he
    exact Named.writeLoop fuel 0 s.queue _ r hr htidy.takeQueue ⟨h.file⟩
  | remove path =>
    cases he
    obtain ⟨t, name, hname, rfl⟩ := hok
    refine ⟨fun {u g} hu => ?_⟩
    change (s.names.remove (s.filePath t name)).file (s.filePath u (s.currentFiles u).fileName) =
      some g
    rw [FileNames.remove_file, if_neg]
    · exact h.file hu
    · intro heq
      obtain ⟨cut, hcut, -⟩ := (htidy.opened hu).name
      rw [← (LoggerHandler.filePath_inj heq).2, hcut] at hname
      exact hname rfl

/-- The open files keep their names in every run. -/
theorem run_named {root sn : List Char} {names : FileNames (List Char)}
    {tr : List (LoggerHandler × LogEvent)} {s : LoggerHandler}
    (h : Run LoggerHandler.step RotationOnly (.init root sn names) tr s) : Tidy s ∧ Named s := by
  refine h.invariant (P := fun _ s => Tidy s ∧ Named s)
    ⟨init_tidy root sn names, ⟨fun hfp => nomatch hfp⟩⟩ fun tr s e s' ih hok he => ?_
  exact ⟨tidy_step ih.1 he, named_step ih.2 ih.1 hok he⟩

/-- The names that a pass collects are those that it may remove. -/
theorem pass_rotationOnly (s : LoggerHandler) (t : UInt8) (entries : DirEntries) :
    ∀ name ∈ getFileNames entries [], RotationOnly s (.remove (s.filePath t name)) :=
  fun name hname => ⟨t, name, getFileNames_visible entries name hname, rfl⟩

/-- The removals of a pass prolong a run. -/
theorem run_removals {s₀ : LoggerHandler} (t : UInt8) (entries : DirEntries) :
    ∀ {removed : List (List Char)} {tr : List (LoggerHandler × LogEvent)} {s : LoggerHandler},
      (∀ name ∈ removed, name ∈ getFileNames entries []) →
      Run LoggerHandler.step RotationOnly s₀ tr s → ∃ tr' names,
        tr'.map Prod.snd = removed.map (fun name => LogEvent.remove (s.filePath t name)) ∧
          Run LoggerHandler.step RotationOnly s₀ (tr ++ tr') { s with names := names }
  | [], _, s, _, h => ⟨[], s.names, rfl, by simpa using h⟩
  | name :: removed, tr, s, hfound, h => by
    obtain ⟨hname, hrest⟩ := List.forall_mem_cons.mp hfound
    have hstep := h.snoc (pass_rotationOnly s t entries name hname) rfl
    obtain ⟨tr', names, htr', hrun⟩ := run_removals t entries hrest hstep
    refine ⟨(s, .remove (s.filePath t name)) :: tr', names, ?_, ?_⟩
    · rw [List.map_cons, htr', List.map_cons]
      rfl
    · rwa [List.append_assoc] at hrun

/-- **A pass goes past the open files.** Between two steps of the writing thread a pass over the
directory of a type removes what it tries there, and each open file still has the name that was
noted for it. -/
theorem cycleDelete_keepsOpen {root sn : List Char} {names : FileNames (List Char)}
    {tr : List (LoggerHandler × LogEvent)} {s : LoggerHandler}
    (h : Run LoggerHandler.step RotationOnly (.init root sn names) tr s) (t : UInt8) (limit : ℕ)
    (entries : DirEntries) : ∃ removed tr' names',
    cycleDelete limit entries = without removed entries ∧
      tr'.map Prod.snd = removed.map (fun name => LogEvent.remove (s.filePath t name)) ∧
      Run LoggerHandler.step RotationOnly (.init root sn names) (tr ++ tr')
        { s with names := names' } ∧
      ∀ u f, (s.currentFiles u).fp = some f →
        names'.file (s.filePath u (s.currentFiles u).fileName) = some f := by
  obtain ⟨removed, hprefix, hleft, -⟩ := cycleDelete_spec limit entries
  obtain ⟨tr', names', htr', hrun⟩ := run_removals t entries (fun _ => hprefix.mem) h
  exact ⟨removed, tr', names', hleft, htr', hrun, fun u f hf => (run_named hrun).2.file hf⟩

/-- **An open file is never removed.** Whatever is written, and whichever closed files are
removed meanwhile: an open file has the hidden name that was noted for it, and when it is
closed it gets the one without the dot. -/
theorem open_logs_named {root sn : List Char} {names : FileNames (List Char)}
    {tr : List (LoggerHandler × LogEvent)} {s : LoggerHandler}
    (h : Run LoggerHandler.step RotationOnly (.init root sn names) tr s) {t : UInt8} {f : ℕ}
    (hf : (s.currentFiles t).fp = some f) :
    ∃ cut, (s.currentFiles t).fileName = '.' :: cut ∧
      s.names.file (s.filePath t ('.' :: cut)) = some f ∧
      (s.closeCurrent t).names.file (s.filePath t cut) = some f := by
  obtain ⟨htidy, hnamed⟩ := run_named h
  have ho := htidy.opened hf
  obtain ⟨cut, hname, -⟩ := ho.name
  have hfile := hnamed.file hf
  rw [hname] at hfile
  refine ⟨cut, hname, hfile, ?_⟩
  unfold LoggerHandler.closeCurrent
  dsimp only
  rw [if_neg (by rw [hf]; exact Option.some_ne_none f), ho.branch, hname]
  exact changeCurrentFileName_cut hfile

/-- A closed file of the same type is removed while one is open. -/
theorem open_logs_named_demo : ∃ (s : LoggerHandler), ∃ cut,
    (s.currentFiles 0).fileName = '.' :: cut ∧
      s.names.file (s.filePath 0 ('.' :: cut)) = some 1 ∧
      (s.closeCurrent 0).names.file (s.filePath 0 cut) = some 1 := by
  let old : LoggerHandler → List Char := fun s => s.filePath 0 "2024-05-05.dat".toList
  let names := (FileNames.empty.openAppend
    (old (.init "lidar_log/".toList "3JEDK8J00100511".toList .empty))).1
  let ok : LoggerHandler → LogEvent → Bool := fun s e =>
    match e with
    | .remove path => decide (path = old s)
    | _ => true
  have hok : ∀ s e, ok s e = true → RotationOnly s e := by
    intro s e htest
    cases e with
    | remove path => exact ⟨0, "2024-05-05.dat".toList, by decide, of_decide_eq_true htest⟩
    | store req flag => trivial
    | write answers fuel => trivial
  have hexec : ((exec (fun s e => if ok s e then LoggerHandler.step s e else none)
      (.init "lidar_log/".toList "3JEDK8J00100511".toList names)
      [.store (request 0) kCreateFile, .write created 1,
        .remove "lidar_log/type_0/2024-05-05.dat".toList]).any fun s =>
          decide ((s.currentFiles 0).fp = some 1)) = true := by
    decide +kernel
  obtain ⟨s, hs, hf⟩ := (Option.any_eq_true _ _).mp hexec
  obtain ⟨tr, -, hrun⟩ := Run.of_exec_test hok hs
  exact ⟨s, open_logs_named hrun (of_decide_eq_true hf)⟩

end Named

end Livox
end SensorSupport
