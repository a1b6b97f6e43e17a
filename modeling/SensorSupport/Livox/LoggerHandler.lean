/-
# The log files of a lidar (`logger_handler/logger_handler.cpp`, `file_manager.cpp`)

A lidar pushes the chunks of its log files, each with a type of log, the number of its
file and its `trans_index`. `StoreLogBag` queues them, with a flag that creates a file,
ends it or transfers a chunk, and a thread calls `Write`, which takes the queue and
handles it to its end. While a file is written its name begins with a dot, which
`ChangeCurrentFileName` takes away when it is closed.

`Write` skips a buffer that is older than its file with `continue`, before the `pop`, so
it stays at the front of the queue: `write_iff` says that the loop ends, and then handles
each buffer once, exactly when there is none.

Key definitions: `LoggerHandler`, `LoggerHandler.write`, `InOrder`, `Tidy`.
Key theorems: `write_iff`, `Tidy.process`, `run_tidy`, `write_stuck`, `write_spins`.
-/
import Mathlib.Data.List.Sublists
import Mathlib.Data.UInt
import SensorSupport.Lib.FileNames
import SensorSupport.Lib.Memory
import SensorSupport.Lib.Run

namespace SensorSupport
namespace Livox

/-! ### The handler -/

/-- `Flag::kCreateFile` -/
def kCreateFile : UInt8 := 1

/-- `Flag::kEndFile` -/
def kEndFile : UInt8 := 2

/-- `Flag::kTransferData` -/
def kTransferData : UInt8 := 3

/-- `DeviceLoggerFilePushRequest`; its data is behind it in memory. -/
structure DeviceLoggerFilePushRequest where
  logType : UInt8
  fileIndex : UInt8
  transIndex : UInt32
  dataLength : UInt16
  data : Mem

structure WriteBuffer where
  logType : UInt8
  flag : UInt8
  fileIndex : UInt8
  dataLength : UInt16
  transIndex : UInt32
  data : List UInt8
deriving DecidableEq

/-- `CurrentFileInfo`; an open file is its number. -/
structure CurrentFileInfo where
  flag : UInt8
  fileIndex : UInt8
  transIndex : UInt32
  fp : Option ℕ
  fileName : List Char

/-- `LoggerHandler`, the names of the files around it, and what it has written to
which file. -/
structure LoggerHandler where
  logRootPath : List Char
  serialNum : List Char
  logBranchPath : UInt8 → List Char
  currentFiles : UInt8 → CurrentFileInfo
  queue : List WriteBuffer
  names : FileNames (List Char)
  writes : List (ℕ × WriteBuffer)

/-- What the system answers when a file is created: the time as `GetCurFormatTime` gives
it, which begins with the year, whether the directory is there or can be made, and
whether the file can be opened. -/
structure CreateAnswer where
  time : List Char
  directory : Bool
  opens : Bool
  time_head : time.head? ≠ some '.'

/-- `std::to_string` of a byte. -/
def digits (n : UInt8) : List Char := Nat.toDigits 10 n.toNat

namespace LoggerHandler

/-- Nothing was pushed yet. -/
def init (logRootPath serialNum : List Char) (names : FileNames (List Char)) : LoggerHandler where
  logRootPath := logRootPath
  serialNum := serialNum
  logBranchPath _ := []
  currentFiles _ := ⟨0, 0, 0, none, []⟩
  queue := []
  names := names
  writes := []

/-- `StoreLogBag` -/
def storeLogBag (req : DeviceLoggerFilePushRequest) (flag : UInt8) (s : LoggerHandler) :
    LoggerHandler :=
  { s with queue := s.queue ++ [{
      logType := req.logType
      flag := flag
      fileIndex := req.fileIndex
      dataLength := req.dataLength
      transIndex := req.transIndex
      data := req.data.bytes 0 req.dataLength.toNat }] }

/-- The directory of a type of log. -/
def typePath (s : LoggerHandler) (logType : UInt8) : List Char :=
  s.logRootPath ++ (if s.logRootPath.getLast? = some '/' then [] else ['/']) ++
    ['t', 'y', 'p', 'e', '_'] ++ digits logType

/-- The name that a file gets when it is created. -/
def newFileName (s : LoggerHandler) (time : List Char) (buff : WriteBuffer) : List Char :=
  '.' :: time ++ '_' :: s.serialNum ++ '_' :: digits buff.logType ++ '_' :: digits buff.fileIndex ++
    ['.', 'd', 'a', 't']

/-- `ChangeCurrentFileName`: a name that begins with a dot, and is that of a file, loses it. -/
def changeCurrentFileName (dir fileName : List Char) (names : FileNames (List Char)) :
    FileNames (List Char) :=
  match fileName with
  | '.' :: cut =>
    if names.file (dir ++ '/' :: fileName) = none then names
    else
      let names' := if names.file (dir ++ '/' :: cut) = none then names
        else names.remove (dir ++ '/' :: cut)
      names'.rename (dir ++ '/' :: fileName) (dir ++ '/' :: cut)
  | _ => names

/-- The file of a type of log is closed, if one is open. -/
def closeCurrent (logType : UInt8) (s : LoggerHandler) : LoggerHandler :=
  let cur := s.currentFiles logType
  if cur.fp = none then s
  else { s with
    currentFiles := Function.update s.currentFiles logType { cur with fp := none }
    names := changeCurrentFileName (s.logBranchPath logType) cur.fileName s.names }

/-- `CreateFile` -/
def createFile (answer : CreateAnswer) (buff : WriteBuffer) (s : LoggerHandler) : LoggerHandler :=
  let logType := buff.logType
  let s := { s with
    logBranchPath := Function.update s.logBranchPath logType (s.typePath logType) }
  if !answer.directory then s
  else
    let s := s.closeCurrent logType
    let fileName := s.newFileName answer.time buff
    let file := s.names.openAppend (s.logBranchPath logType ++ '/' :: fileName)
    { s with
      currentFiles := Function.update s.currentFiles logType {
        flag := buff.flag
        fileIndex := buff.fileIndex
        transIndex := buff.transIndex
        fp := if answer.opens then some file.2 else none
        fileName := fileName }
      names := if answer.opens then file.1 else s.names
      writes := if answer.opens then s.writes ++ [(file.2, buff)] else s.writes }

/-- `WriteFile`; a chunk without an open file is dropped. -/
def writeFile (buff : WriteBuffer) (s : LoggerHandler) : LoggerHandler :=
  let cur := s.currentFiles buff.logType
  if cur.fileIndex ≠ buff.fileIndex then s
  else { s with
    currentFiles := Function.update s.currentFiles buff.logType
      { cur with flag := buff.flag, transIndex := buff.transIndex }
    writes := match cur.fp with
      | some f => s.writes ++ [(f, buff)]
      | none => s.writes }

/-- `StopFile` -/
def stopFile (buff : WriteBuffer) (s : LoggerHandler) : LoggerHandler :=
  let s := s.closeCurrent buff.logType
  let cur := s.currentFiles buff.logType
  { s with
    currentFiles := Function.update s.currentFiles buff.logType
      { cur with fp := none, flag := buff.flag, transIndex := buff.transIndex } }

/-- What `Write` does with a buffer that it does not skip. -/
def process (answer : CreateAnswer) (buff : WriteBuffer) (s : LoggerHandler) : LoggerHandler :=
  let s := if buff.flag = kCreateFile then s.createFile answer buff else s
  let s := if buff.flag = kEndFile then s.stopFile buff else s
  if buff.flag = kTransferData then s.writeFile buff else s

/-- The loop of `Write` over the queue that it took, and the buffers that it removes:
`none` when it is not at its end after that many rounds. The `n`-th buffer that is
handled is given the `n`-th answer. -/
def writeLoop (answers : ℕ → CreateAnswer) :
    ℕ → ℕ → List WriteBuffer → LoggerHandler → Option (LoggerHandler × List WriteBuffer)
  | _, _, [], s => some (s, [])
  | 0, _, _ :: _, _ => none
  | fuel + 1, n, buff :: queue, s =>
    if buff.transIndex < (s.currentFiles buff.logType).transIndex ∧ buff.flag ≠ kCreateFile then
      writeLoop answers fuel n (buff :: queue) s
    else
      (writeLoop answers fuel (n + 1) queue (s.process (answers n) buff)).map fun r =>
        (r.1, buff :: r.2)

/-- `Write` -/
def write (answers : ℕ → CreateAnswer) (fuel : ℕ) (s : LoggerHandler) :
    Option (LoggerHandler × List WriteBuffer) :=
  writeLoop answers fuel 0 s.queue { s with queue := [] }

/-- The chunks that were written to a file. -/
def chunks (s : LoggerHandler) (f : ℕ) : List WriteBuffer :=
  (s.writes.filter fun w => decide (w.1 = f)).map Prod.snd

end LoggerHandler

/-- What happens to a logger: a request is stored, the thread calls `Write`, or someone
removes a file, as the thread that keeps the logs small does. -/
inductive LogEvent
  | store (req : DeviceLoggerFilePushRequest) (flag : UInt8)
  | write (answers : ℕ → CreateAnswer) (fuel : ℕ)
  | remove (path : List Char)

def LoggerHandler.step (s : LoggerHandler) : LogEvent → Option LoggerHandler
  | .store req flag => some (s.storeLogBag req flag)
  | .write answers fuel => (s.write answers fuel).map Prod.fst
  | .remove path => some { s with names := s.names.remove path }

/-! ### Old buffers -/

/-- What a type of log remembers of the buffers it was given: the number of its file and
the `trans_index` of the last one. -/
structure Mark where
  fileIndex : UInt8
  transIndex : UInt32

/-- What the log types remember before a call of `Write`. -/
def LoggerHandler.marks (s : LoggerHandler) (logType : UInt8) : Mark :=
  ⟨(s.currentFiles logType).fileIndex, (s.currentFiles logType).transIndex⟩

/-- What a log type remembers behind one of its buffers: one that creates a file in a
directory, ends it, or transfers a chunk of it. -/
def Mark.next (directory : Bool) (buff : WriteBuffer) (mark : Mark) : Mark :=
  if buff.flag = kCreateFile then
    if directory then ⟨buff.fileIndex, buff.transIndex⟩ else mark
  else if buff.flag = kEndFile then ⟨mark.fileIndex, buff.transIndex⟩
  else if buff.flag = kTransferData ∧ mark.fileIndex = buff.fileIndex then
    ⟨mark.fileIndex, buff.transIndex⟩
  else mark

/-- No buffer is older than the last one of its log type before it, unless it creates a file. -/
def InOrder (answers : ℕ → CreateAnswer) : ℕ → (UInt8 → Mark) → List WriteBuffer → Prop
  | _, _, [] => True
  | n, marks, buff :: queue =>
    (buff.flag ≠ kCreateFile → (marks buff.logType).transIndex ≤ buff.transIndex) ∧
      InOrder answers (n + 1) (Function.update marks buff.logType
        ((marks buff.logType).next (answers n).directory buff)) queue

/-! ### Paths -/

theorem digits_inj {t t' : UInt8} (h : digits t = digits t') : t = t' := by
  have hnat : t.toNat = t'.toNat := by
    rw [← Nat.ofDigitChars_ten_toDigits (n := t.toNat)]
    show Nat.ofDigitChars 10 (digits t) 0 = _
    rw [h]
    exact Nat.ofDigitChars_ten_toDigits
  exact UInt8.toNat_inj.mp hnat

theorem slash_notMem_digits (t : UInt8) : '/' ∉ digits t := fun h =>
  absurd (Nat.isDigit_of_mem_toDigits (by omega) (Nat.le_refl _) h) (by decide)

/-- What stands before the first slash, and what behind it. -/
theorem append_slash_inj {a b x y : List Char} (ha : '/' ∉ a) (hb : '/' ∉ b)
    (h : a ++ '/' :: x = b ++ '/' :: y) : a = b ∧ x = y := by
  induction a generalizing b with
  | nil =>
    cases b with
    | nil => exact ⟨rfl, (List.cons.inj h).2⟩
    | cons c b => exact absurd ((List.cons.inj h).1 ▸ List.mem_cons_self) hb
  | cons c a ih =>
    cases b with
    | nil => exact absurd ((List.cons.inj h).1 ▸ List.mem_cons_self) ha
    | cons d b =>
      obtain ⟨rfl, htail⟩ := List.cons.inj h
      obtain ⟨rfl, hxy⟩ := ih (fun hm => ha (List.mem_cons_of_mem _ hm))
        (fun hm => hb (List.mem_cons_of_mem _ hm)) htail
      exact ⟨rfl, hxy⟩


namespace LoggerHandler

/-- The path of a file of a type of log. -/
def filePath (s : LoggerHandler) (logType : UInt8) (fileName : List Char) : List Char :=
  s.typePath logType ++ '/' :: fileName

theorem filePath_inj {s : LoggerHandler} {t t' : UInt8} {name name' : List Char}
    (h : s.filePath t name = s.filePath t' name') : t = t' ∧ name = name' := by
  unfold filePath typePath at h
  rw [List.append_assoc, List.append_assoc _ (digits t')] at h
  have hdigits := append_slash_inj (slash_notMem_digits t) (slash_notMem_digits t')
    (List.append_cancel_left h)
  exact ⟨digits_inj hdigits.1, hdigits.2⟩

theorem changeCurrentFileName_dot (dir cut : List Char) (names : FileNames (List Char)) :
    changeCurrentFileName dir ('.' :: cut) names =
      if names.file (dir ++ '/' :: '.' :: cut) = none then names
      else (if names.file (dir ++ '/' :: cut) = none then names
        else names.remove (dir ++ '/' :: cut)).rename (dir ++ '/' :: '.' :: cut)
          (dir ++ '/' :: cut) := rfl

/-- A name is that of the file that lost its dot, or one from before, but not the one with
the dot. -/
theorem changeCurrentFileName_some {dir cut p : List Char} {names : FileNames (List Char)} {f : ℕ}
    (h : (changeCurrentFileName dir ('.' :: cut) names).file p = some f) :
    (p = dir ++ '/' :: cut ∧ names.file (dir ++ '/' :: '.' :: cut) = some f) ∨
      (p ≠ dir ++ '/' :: '.' :: cut ∧ names.file p = some f) := by
  have hne : dir ++ '/' :: '.' :: cut ≠ dir ++ '/' :: cut := by
    intro heq
    have hlength := congrArg List.length heq
    simp at hlength
  rw [changeCurrentFileName_dot] at h
  cases hdot : names.file (dir ++ '/' :: '.' :: cut) with
  | none =>
    rw [if_pos hdot] at h
    refine .inr ⟨fun hp => ?_, h⟩
    rw [hp, hdot] at h
    cases h
  | some g =>
    rw [if_neg (by rw [hdot]; exact Option.some_ne_none g)] at h
    have hkeeps : ∀ q, (if names.file (dir ++ '/' :: cut) = none then names
        else names.remove (dir ++ '/' :: cut)).file q =
        if q = dir ++ '/' :: cut then none else names.file q := by
      intro q
      split
      · rename_i hnone
        split
        · rename_i hq
          rw [hq, hnone]
        · rfl
      · exact FileNames.remove_file _ _ _
    rw [FileNames.rename_file (by rw [hkeeps, if_neg hne, hdot]), hkeeps] at h
    split at h
    · exact .inl ⟨‹_›, h⟩
    · split at h
      · cases h
      · exact .inr ⟨‹_›, h⟩

theorem changeCurrentFileName_next (dir fileName : List Char) (names : FileNames (List Char)) :
    names.next ≤ (changeCurrentFileName dir fileName names).next := by
  unfold changeCurrentFileName
  split
  · split
    · exact Nat.le_refl _
    · refine Nat.le_trans ?_ (FileNames.rename_next _ _ _)
      split
      · exact Nat.le_refl _
      · exact Nat.le_refl _
  · exact Nat.le_refl _

end LoggerHandler

/-! ### Tidy files -/

/-- The open file of a type of log, noted as `cur`, has its hidden name, if any, and no
chunk of it is newer than the `trans_index` noted. -/
structure Opened (s : LoggerHandler) (t : UInt8) (cur : CurrentFileInfo) (f : ℕ) : Prop where
  branch : s.logBranchPath t = s.typePath t
  name : ∃ cut, cur.fileName = '.' :: cut ∧ cut.head? ≠ some '.'
  path : ∀ p, s.names.file p = some f → p = s.filePath t cur.fileName
  lt : f < s.names.next
  latest : ∀ b, (f, b) ∈ s.writes → b.transIndex ≤ cur.transIndex

/-- Each type of log has a file of its own, which was opened when its name was that of no
file with chunks, and the chunks of every file are sorted. -/
structure Tidy (s : LoggerHandler) : Prop where
  opened : ∀ {t f}, (s.currentFiles t).fp = some f → Opened s t (s.currentFiles t) f
  apart : ∀ {t t' f}, (s.currentFiles t).fp = some f → (s.currentFiles t').fp = some f → t = t'
  written : ∀ w ∈ s.writes, w.1 < s.names.next
  hidden : ∀ w ∈ s.writes, ∀ t name, s.names.file (s.filePath t ('.' :: name)) = some w.1 →
    (s.currentFiles t).fp = some w.1
  sorted : ∀ f, (s.chunks f).Pairwise fun b c => b.transIndex ≤ c.transIndex

section Tidy

variable {s s' : LoggerHandler} {t : UInt8} {cur : CurrentFileInfo} {f : ℕ} {buff : WriteBuffer}
  {answer : CreateAnswer}

/-- A step that gives a file no name and no chunk leaves it as it is. -/
theorem Opened.frame (h : Opened s t cur f) (hroot : s'.logRootPath = s.logRootPath)
    (hbranch : s'.logBranchPath t = s.logBranchPath t)
    (hfile : ∀ p, s'.names.file p = some f → s.names.file p = some f)
    (hnext : s.names.next ≤ s'.names.next) (hwrites : ∀ b, (f, b) ∈ s'.writes → (f, b) ∈ s.writes) :
    Opened s' t cur f := by
  have htype : s'.typePath t = s.typePath t := by
    unfold LoggerHandler.typePath
    rw [hroot]
  refine ⟨hbranch.trans (h.branch.trans htype.symm), h.name, ?_, Nat.lt_of_lt_of_le h.lt hnext,
    fun b hb => h.latest b (hwrites b hb)⟩
  intro p hp
  rw [h.path p (hfile p hp)]
  unfold LoggerHandler.filePath
  rw [htype]

theorem init_tidy (root sn : List Char) (names : FileNames (List Char)) :
    Tidy (.init root sn names) where
  opened h := nomatch h
  apart h := nomatch h
  written _ h := nomatch h
  hidden _ h := nomatch h
  sorted _ := List.Pairwise.nil

theorem Tidy.storeLogBag (h : Tidy s) (req : DeviceLoggerFilePushRequest) (flag : UInt8) :
    Tidy (s.storeLogBag req flag) where
  opened hfp := (h.opened hfp).frame rfl rfl (fun _ hp => hp) (Nat.le_refl _) fun _ hb => hb
  apart := h.apart
  written := h.written
  hidden := h.hidden
  sorted := h.sorted

theorem Tidy.takeQueue (h : Tidy s) : Tidy { s with queue := [] } where
  opened hfp := (h.opened hfp).frame rfl rfl (fun _ hp => hp) (Nat.le_refl _) fun _ hb => hb
  apart := h.apart
  written := h.written
  hidden := h.hidden
  sorted := h.sorted

/-- A name is removed by someone. -/
theorem Tidy.remove (h : Tidy s) (p : List Char) :
    Tidy { s with names := s.names.remove p } where
  opened hfp := (h.opened hfp).frame rfl rfl (fun _ hq => (FileNames.remove_some hq).2)
    (Nat.le_refl _) fun _ hb => hb
  apart := h.apart
  written := h.written
  hidden w hw t name hfile := h.hidden w hw t name (FileNames.remove_some hfile).2
  sorted := h.sorted

/-- The directory of a type of log is noted. -/
theorem Tidy.noteBranch (h : Tidy s) (t : UInt8) :
    Tidy { s with logBranchPath := Function.update s.logBranchPath t (s.typePath t) } where
  opened {u f} hfp := by
    have ho := h.opened hfp
    refine ho.frame rfl ?_ (fun _ hp => hp) (Nat.le_refl _) fun _ hb => hb
    show Function.update s.logBranchPath t (s.typePath t) u = s.logBranchPath u
    by_cases hu : u = t
    · rw [hu, Function.update_self, ← hu, ho.branch]
    · exact Function.update_of_ne hu _ _
  apart := h.apart
  written := h.written
  hidden := h.hidden
  sorted := h.sorted

/-- What is noted of a type of log without an open file does not matter. -/
theorem Tidy.note (h : Tidy s) (hnone : (s.currentFiles t).fp = none) (hcur : cur.fp = none) :
    Tidy { s with currentFiles := Function.update s.currentFiles t cur } := by
  have hsame : ∀ {u f}, (Function.update s.currentFiles t cur u).fp = some f →
      Function.update s.currentFiles t cur u = s.currentFiles u := by
    intro u f hu
    apply Function.update_of_ne
    rintro rfl
    rw [Function.update_self, hcur] at hu
    cases hu
  have hopen : ∀ {u f}, (Function.update s.currentFiles t cur u).fp = some f →
      (s.currentFiles u).fp = some f := fun hu => by rwa [hsame hu] at hu
  constructor
  · intro u f hu
    show Opened _ u (Function.update s.currentFiles t cur u) f
    rw [hsame hu]
    exact (h.opened (hopen hu)).frame rfl rfl (fun _ hp => hp) (Nat.le_refl _) fun _ hb => hb
  · intro u u' f hu hu'
    exact h.apart (hopen hu) (hopen hu')
  · exact h.written
  · intro w hw u name hfile
    have hu := h.hidden w hw u name hfile
    show (Function.update s.currentFiles t cur u).fp = some w.1
    rw [Function.update_of_ne]
    · exact hu
    · rintro rfl
      rw [hnone] at hu
      cases hu
  · exact h.sorted

/-- The file of a type of log is closed, and loses its dot. -/
theorem Tidy.closeCurrent (h : Tidy s) (t : UInt8) :
    Tidy (s.closeCurrent t) ∧ ((s.closeCurrent t).currentFiles t).fp = none ∧
      (s.closeCurrent t).logBranchPath = s.logBranchPath := by
  unfold LoggerHandler.closeCurrent
  dsimp only
  split
  · rename_i hnone
    exact ⟨h, hnone, rfl⟩
  · rename_i hsome
    obtain ⟨f, hf⟩ := Option.ne_none_iff_exists'.mp hsome
    have ho := h.opened hf
    obtain ⟨cut, hname, hhead⟩ := ho.name
    obtain ⟨info, hinfo, hnone⟩ : ∃ info : CurrentFileInfo,
      { s.currentFiles t with fp := none } = info ∧ info.fp = none := ⟨_, rfl, rfl⟩
    rw [hinfo, ho.branch, hname]
    have hnames : ∀ {p g}, (LoggerHandler.changeCurrentFileName (s.typePath t) ('.' :: cut)
        s.names).file p = some g → (p = s.filePath t cut ∧ s.names.file (s.filePath t ('.' :: cut)) =
          some g) ∨ (p ≠ s.filePath t ('.' :: cut) ∧ s.names.file p = some g) :=
      LoggerHandler.changeCurrentFileName_some
    have hnext := LoggerHandler.changeCurrentFileName_next (s.typePath t) ('.' :: cut) s.names
    have hother : ∀ {u g}, (Function.update s.currentFiles t info u).fp = some g → u ≠ t ∧
        Function.update s.currentFiles t info u = s.currentFiles u := by
      intro u g hu
      have hne : u ≠ t := by
        rintro rfl
        rw [Function.update_self, hnone] at hu
        cases hu
      exact ⟨hne, Function.update_of_ne hne _ _⟩
    refine ⟨⟨?_, ?_, ?_, ?_, h.sorted⟩, ?_, rfl⟩
    · intro u g hu
      obtain ⟨hne, hsame⟩ := hother hu
      show Opened _ u (Function.update s.currentFiles t info u) g
      rw [hsame]
      have hg := h.opened ((congrArg CurrentFileInfo.fp hsame).symm.trans hu)
      refine hg.frame rfl rfl ?_ hnext fun _ hb => hb
      intro p hp
      rcases hnames hp with ⟨-, hdot⟩ | ⟨-, hp⟩
      · exact absurd (LoggerHandler.filePath_inj (hg.path _ hdot)).1.symm hne
      · exact hp
    · intro u u' g hu hu'
      exact h.apart ((congrArg CurrentFileInfo.fp (hother hu).2).symm.trans hu)
        ((congrArg CurrentFileInfo.fp (hother hu').2).symm.trans hu')
    · exact fun w hw => Nat.lt_of_lt_of_le (h.written w hw) hnext
    · intro w hw u name hfile
      rcases hnames hfile with ⟨hp, -⟩ | ⟨hp, hold⟩
      · obtain ⟨-, rfl⟩ := LoggerHandler.filePath_inj hp
        exact absurd rfl hhead
      · have hu := h.hidden w hw u name hold
        show (Function.update s.currentFiles t info u).fp = some w.1
        rw [Function.update_of_ne]
        · exact hu
        · rintro rfl
          rw [hf] at hu
          cases hu
          exact hp ((ho.path _ hold).trans (by rw [hname]))
    · show (Function.update s.currentFiles t info t).fp = none
      rw [Function.update_self, hnone]

/-- A chunk that is not older than those of its file keeps the files sorted. -/
theorem Tidy.sorted_write (h : Tidy s) (hwrites : s'.writes = s.writes ++ [(f, buff)])
    (hlast : ∀ b, (f, b) ∈ s.writes → b.transIndex ≤ buff.transIndex) (g : ℕ) :
    (s'.chunks g).Pairwise fun b c => b.transIndex ≤ c.transIndex := by
  have hchunks : s'.chunks g = s.chunks g ++ if f = g then [buff] else [] := by
    unfold LoggerHandler.chunks
    rw [hwrites, List.filter_append, List.map_append]
    congr 1
    by_cases hf : f = g
    · rw [if_pos hf, List.filter_cons_of_pos (by simpa using hf)]
      rfl
    · rw [if_neg hf, List.filter_cons_of_neg (by simpa using hf)]
      rfl
  rw [hchunks]
  split
  · rename_i hf
    apply List.pairwise_append.mpr
    refine ⟨h.sorted g, List.pairwise_singleton _ _, ?_⟩
    intro b hb c hc
    rw [List.mem_singleton.mp hc]
    obtain ⟨w, hw, rfl⟩ := List.mem_map.mp hb
    obtain ⟨hw, hwf⟩ := List.mem_filter.mp hw
    have hwf : w.1 = f := (of_decide_eq_true hwf).trans hf.symm
    exact hlast w.2 (hwf ▸ hw)
  · rw [List.append_nil]
    exact h.sorted g

/-- A chunk is written to the open file of its type. -/
theorem Tidy.append (h : Tidy s) (hf : (s.currentFiles t).fp = some f)
    (hle : (s.currentFiles t).transIndex ≤ buff.transIndex) :
    Tidy { s with
      currentFiles := Function.update s.currentFiles t
        { s.currentFiles t with flag := buff.flag, transIndex := buff.transIndex }
      writes := s.writes ++ [(f, buff)] } := by
  have ho := h.opened hf
  have hlast : ∀ b, (f, b) ∈ s.writes → b.transIndex ≤ buff.transIndex :=
    fun b hb => UInt32.le_trans (ho.latest b hb) hle
  obtain ⟨info, hinfo, hfp, hname, htrans⟩ : ∃ info : CurrentFileInfo,
    { s.currentFiles t with flag := buff.flag, transIndex := buff.transIndex } = info ∧
      info.fp = some f ∧ info.fileName = (s.currentFiles t).fileName ∧
      info.transIndex = buff.transIndex := ⟨_, rfl, hf, rfl, rfl⟩
  rw [hinfo]
  have hopen : ∀ u, (Function.update s.currentFiles t info u).fp = (s.currentFiles u).fp := by
    intro u
    by_cases hu : u = t
    · rw [hu, Function.update_self, hfp, hf]
    · rw [Function.update_of_ne hu]
  constructor
  · intro u g hu
    have hu : (s.currentFiles u).fp = some g := (hopen u).symm.trans hu
    show Opened _ u (Function.update s.currentFiles t info u) g
    by_cases hut : u = t
    · rw [hut] at hu ⊢
      rw [hf] at hu
      cases hu
      rw [Function.update_self]
      refine ⟨ho.branch, hname ▸ ho.name, hname ▸ ho.path, ho.lt, ?_⟩
      intro b hb
      rw [htrans]
      rcases List.mem_append.mp hb with hb | hb
      · exact hlast b hb
      · cases List.mem_singleton.mp hb
        exact UInt32.le_refl _
    · rw [Function.update_of_ne hut]
      refine (h.opened hu).frame rfl rfl (fun _ hp => hp) (Nat.le_refl _) fun b hb => ?_
      rcases List.mem_append.mp hb with hb | hb
      · exact hb
      · cases List.mem_singleton.mp hb
        exact absurd (h.apart hu hf) hut
  · intro u u' g hu hu'
    exact h.apart ((hopen u).symm.trans hu) ((hopen u').symm.trans hu')
  · intro w hw
    rcases List.mem_append.mp hw with hw | hw
    · exact h.written w hw
    · cases List.mem_singleton.mp hw
      exact ho.lt
  · intro w hw u name hfile
    apply (hopen u).trans
    rcases List.mem_append.mp hw with hw | hw
    · exact h.hidden w hw u name hfile
    · cases List.mem_singleton.mp hw
      obtain ⟨rfl, -⟩ := LoggerHandler.filePath_inj (ho.path _ hfile)
      exact hf
  · exact h.sorted_write rfl hlast

/-- A file that is opened for a type without one has no chunks, and is not open. -/
theorem Tidy.openAppend_unused (h : Tidy s) (hnone : (s.currentFiles t).fp = none) (cut : List Char) :
    (∀ w ∈ s.writes, w.1 ≠ (s.names.openAppend (s.filePath t ('.' :: cut))).2) ∧
      ∀ {u g}, (s.currentFiles u).fp = some g →
        g ≠ (s.names.openAppend (s.filePath t ('.' :: cut))).2 := by
  have hfresh := s.names.openAppend_fresh (s.filePath t ('.' :: cut))
  constructor
  · intro w hw heq
    rcases hfresh with hfresh | hfresh
    · have hopen := h.hidden w hw t cut (heq ▸ hfresh)
      rw [hnone] at hopen
      cases hopen
    · have hlt := h.written w hw
      omega
  · rintro u g hu rfl
    have ho := h.opened hu
    rcases hfresh with hfresh | hfresh
    · obtain ⟨rfl, -⟩ := LoggerHandler.filePath_inj (ho.path _ hfresh)
      rw [hnone] at hu
      cases hu
    · have hlt := ho.lt
      omega

/-- A file is opened under a hidden name of its type, with its first chunk: it had no
chunks before. -/
theorem Tidy.opens (h : Tidy s) (hnone : (s.currentFiles t).fp = none)
    (hbranch : s.logBranchPath t = s.typePath t) {cut : List Char} (hhead : cut.head? ≠ some '.')
    (hfp : cur.fp = some (s.names.openAppend (s.filePath t ('.' :: cut))).2)
    (hname : cur.fileName = '.' :: cut) (htrans : cur.transIndex = buff.transIndex) :
    Tidy { s with
      currentFiles := Function.update s.currentFiles t cur
      names := (s.names.openAppend (s.filePath t ('.' :: cut))).1
      writes := s.writes ++ [((s.names.openAppend (s.filePath t ('.' :: cut))).2, buff)] } := by
  obtain ⟨hempty, hother⟩ := h.openAppend_unused hnone cut
  obtain ⟨hnext, hlt⟩ := s.names.openAppend_next (s.filePath t ('.' :: cut))
  have hkeeps : ∀ {p g}, g ≠ (s.names.openAppend (s.filePath t ('.' :: cut))).2 →
      (s.names.openAppend (s.filePath t ('.' :: cut))).1.file p = some g →
        s.names.file p = some g := FileNames.openAppend_other
  have hpath : ∀ p, (s.names.openAppend (s.filePath t ('.' :: cut))).1.file p =
      some (s.names.openAppend (s.filePath t ('.' :: cut))).2 → p = s.filePath t ('.' :: cut) :=
    fun _ => FileNames.openAppend_path
  generalize s.names.openAppend (s.filePath t ('.' :: cut)) = opened at *
  have hopen : ∀ {u g}, (Function.update s.currentFiles t cur u).fp = some g →
      (u = t ∧ g = opened.2) ∨ (u ≠ t ∧ (s.currentFiles u).fp = some g) := by
    intro u g hu
    by_cases hut : u = t
    · rw [hut, Function.update_self, hfp] at hu
      cases hu
      exact .inl ⟨hut, rfl⟩
    · rw [Function.update_of_ne hut] at hu
      exact .inr ⟨hut, hu⟩
  have hself : (Function.update s.currentFiles t cur t).fp = some opened.2 := by
    rw [Function.update_self, hfp]
  constructor
  · intro u g hu
    show Opened _ u (Function.update s.currentFiles t cur u) g
    rcases hopen hu with ⟨rfl, rfl⟩ | ⟨hut, hu⟩
    · rw [Function.update_self]
      refine ⟨hbranch, ⟨cut, hname, hhead⟩, hname ▸ hpath, hlt, ?_⟩
      intro b hb
      rcases List.mem_append.mp hb with hb | hb
      · exact absurd rfl (hempty _ hb)
      · cases List.mem_singleton.mp hb
        rw [htrans]
        exact UInt32.le_refl _
    · rw [Function.update_of_ne hut]
      have hg := hother hu
      refine (h.opened hu).frame rfl rfl (fun p hp => hkeeps hg hp) hnext fun b hb => ?_
      rcases List.mem_append.mp hb with hb | hb
      · exact hb
      · cases List.mem_singleton.mp hb
        exact absurd rfl hg
  · intro u u' g hu hu'
    rcases hopen hu with ⟨hut, hg⟩ | ⟨-, hopen₁⟩ <;>
      rcases hopen hu' with ⟨hut', hg'⟩ | ⟨-, hopen₂⟩
    · rw [hut, hut']
    · exact absurd hg (hother hopen₂)
    · exact absurd hg' (hother hopen₁)
    · exact h.apart hopen₁ hopen₂
  · intro w hw
    rcases List.mem_append.mp hw with hw | hw
    · exact Nat.lt_of_lt_of_le (h.written w hw) hnext
    · cases List.mem_singleton.mp hw
      exact hlt
  · intro w hw u name hp
    show (Function.update s.currentFiles t cur u).fp = some w.1
    rcases List.mem_append.mp hw with hw | hw
    · have hu := h.hidden w hw u name (hkeeps (hempty w hw) hp)
      rw [Function.update_of_ne]
      · exact hu
      · rintro rfl
        rw [hnone] at hu
        cases hu
    · cases List.mem_singleton.mp hw
      obtain ⟨rfl, -⟩ := LoggerHandler.filePath_inj (hpath _ hp)
      exact hself
  · exact h.sorted_write rfl fun b hb => absurd rfl (hempty _ hb)

end Tidy

/-! ### What a buffer does -/

section Process

variable {s : LoggerHandler} {t : UInt8} {buff : WriteBuffer} {answer : CreateAnswer}

theorem marks_update (names : FileNames (List Char)) (writes : List (ℕ × WriteBuffer))
    (cur : CurrentFileInfo) :
    LoggerHandler.marks { s with
      currentFiles := Function.update s.currentFiles t cur
      names := names
      writes := writes } = Function.update s.marks t ⟨cur.fileIndex, cur.transIndex⟩ := by
  funext u
  show Mark.mk (Function.update s.currentFiles t cur u).fileIndex
    (Function.update s.currentFiles t cur u).transIndex = _
  by_cases hu : u = t
  · rw [hu, Function.update_self, Function.update_self]
  · rw [Function.update_of_ne hu, Function.update_of_ne hu]
    rfl

theorem closeCurrent_marks (t : UInt8) : (s.closeCurrent t).marks = s.marks := by
  unfold LoggerHandler.closeCurrent
  dsimp only
  split
  · rfl
  · rw [marks_update]
    exact Function.update_eq_self t s.marks

theorem closeCurrent_writes (t : UInt8) : (s.closeCurrent t).writes = s.writes := by
  unfold LoggerHandler.closeCurrent
  dsimp only
  split <;> rfl

theorem closeCurrent_queue (t : UInt8) : (s.closeCurrent t).queue = s.queue := by
  unfold LoggerHandler.closeCurrent
  dsimp only
  split <;> rfl

/-- What a step leaves of the queue, remembers, and writes. -/
structure Handles (s : LoggerHandler) (buff : WriteBuffer) (mark : Mark) (s' : LoggerHandler) :
    Prop where
  queue : s'.queue = s.queue
  marks : s'.marks = Function.update s.marks buff.logType mark
  writes : ∃ new, s'.writes = s.writes ++ new ∧ (new.map Prod.snd).Sublist [buff]

theorem createFile_handles : Handles s buff (if answer.directory then
    ⟨buff.fileIndex, buff.transIndex⟩ else s.marks buff.logType) (s.createFile answer buff) := by
  unfold LoggerHandler.createFile
  dsimp only
  cases answer.directory with
  | false =>
    exact ⟨rfl, (Function.update_eq_self buff.logType s.marks).symm, [], (List.append_nil _).symm,
      List.nil_sublist _⟩
  | true =>
    obtain ⟨noted, hnoted, hqueue, hmarks, hwrites⟩ : ∃ noted : LoggerHandler,
      { s with logBranchPath :=
          Function.update s.logBranchPath buff.logType (s.typePath buff.logType) } = noted ∧
        noted.queue = s.queue ∧ noted.marks = s.marks ∧ noted.writes = s.writes :=
      ⟨_, rfl, rfl, rfl, rfl⟩
    simp only [hnoted, Bool.not_true, Bool.false_eq_true, if_false, if_true]
    refine ⟨(closeCurrent_queue _).trans hqueue, ?_, ?_⟩
    · rw [marks_update, closeCurrent_marks, hmarks]
    · dsimp only
      rw [closeCurrent_writes, hwrites]
      split
      · exact ⟨_, rfl, List.Sublist.refl _⟩
      · exact ⟨[], (List.append_nil _).symm, List.nil_sublist _⟩

theorem stopFile_handles : Handles s buff ⟨(s.marks buff.logType).fileIndex, buff.transIndex⟩
    (s.stopFile buff) := by
  unfold LoggerHandler.stopFile
  dsimp only
  refine ⟨closeCurrent_queue _, ?_, [], ?_, List.nil_sublist _⟩
  · rw [marks_update, closeCurrent_marks]
    show Function.update s.marks buff.logType
      ⟨((s.closeCurrent buff.logType).marks buff.logType).fileIndex, buff.transIndex⟩ = _
    rw [closeCurrent_marks]
  · rw [List.append_nil]
    exact closeCurrent_writes _

theorem writeFile_handles : Handles s buff
    (if (s.marks buff.logType).fileIndex = buff.fileIndex then
      ⟨(s.marks buff.logType).fileIndex, buff.transIndex⟩ else s.marks buff.logType)
    (s.writeFile buff) := by
  have hmark : (s.marks buff.logType).fileIndex = (s.currentFiles buff.logType).fileIndex := rfl
  rw [hmark]
  unfold LoggerHandler.writeFile
  dsimp only
  by_cases hindex : (s.currentFiles buff.logType).fileIndex = buff.fileIndex
  · rw [if_neg (not_not_intro hindex), if_pos hindex]
    refine ⟨rfl, marks_update _ _ _, ?_⟩
    cases (s.currentFiles buff.logType).fp with
    | none => exact ⟨[], (List.append_nil _).symm, List.nil_sublist _⟩
    | some f => exact ⟨[(f, buff)], rfl, List.Sublist.refl _⟩
  · rw [if_pos hindex, if_neg hindex]
    exact ⟨rfl, (Function.update_eq_self buff.logType s.marks).symm, [], (List.append_nil _).symm,
      List.nil_sublist _⟩

/-- What `Write` does with a buffer that it does not skip. -/
theorem process_handles (s : LoggerHandler) (buff : WriteBuffer) (answer : CreateAnswer) :
    Handles s buff ((s.marks buff.logType).next answer.directory buff) (s.process answer buff) := by
  unfold LoggerHandler.process Mark.next
  dsimp only
  by_cases hcreate : buff.flag = kCreateFile
  · have hend : buff.flag ≠ kEndFile := hcreate ▸ by decide
    have htransfer : buff.flag ≠ kTransferData := hcreate ▸ by decide
    rw [if_pos hcreate, if_pos hcreate, if_neg hend, if_neg htransfer]
    exact createFile_handles
  · rw [if_neg hcreate, if_neg hcreate]
    by_cases hend : buff.flag = kEndFile
    · have htransfer : buff.flag ≠ kTransferData := hend ▸ by decide
      rw [if_pos hend, if_pos hend, if_neg htransfer]
      exact stopFile_handles
    · rw [if_neg hend, if_neg hend]
      by_cases htransfer : buff.flag = kTransferData
      · rw [if_pos htransfer]
        simp only [htransfer, true_and]
        exact writeFile_handles
      · rw [if_neg htransfer, if_neg fun h => htransfer h.1]
        exact ⟨rfl, (Function.update_eq_self buff.logType s.marks).symm, [],
          (List.append_nil _).symm, List.nil_sublist _⟩

theorem Tidy.createFile (h : Tidy s) (answer : CreateAnswer) (buff : WriteBuffer) :
    Tidy (s.createFile answer buff) := by
  have hnoted := h.noteBranch buff.logType
  unfold LoggerHandler.createFile
  dsimp only
  split
  · exact hnoted
  · obtain ⟨noted, hdef, hbranch, hroot⟩ : ∃ noted : LoggerHandler,
      { s with logBranchPath :=
          Function.update s.logBranchPath buff.logType (s.typePath buff.logType) } = noted ∧
        noted.logBranchPath buff.logType = s.typePath buff.logType ∧
        noted.logRootPath = s.logRootPath := ⟨_, rfl, Function.update_self .., rfl⟩
    rw [hdef] at hnoted ⊢
    obtain ⟨hclosed, hnone, hpath⟩ := hnoted.closeCurrent buff.logType
    have hclosedRoot : (noted.closeCurrent buff.logType).logRootPath = s.logRootPath := by
      unfold LoggerHandler.closeCurrent
      dsimp only
      split <;> exact hroot
    have htype : (noted.closeCurrent buff.logType).logBranchPath buff.logType =
        (noted.closeCurrent buff.logType).typePath buff.logType := by
      rw [hpath, hbranch]
      unfold LoggerHandler.typePath
      rw [hclosedRoot]
    generalize noted.closeCurrent buff.logType = closed at *
    cases answer.opens with
    | false => exact hclosed.note hnone rfl
    | true =>
      rw [htype]
      have hhead : (answer.time ++ '_' :: closed.serialNum ++ '_' :: digits buff.logType ++
          '_' :: digits buff.fileIndex ++ ['.', 'd', 'a', 't']).head? ≠ some '.' := by
        have htime := answer.time_head
        cases htext : answer.time with
        | nil => exact fun heq => nomatch heq
        | cons c time =>
          rw [htext] at htime
          exact htime
      exact hclosed.opens hnone htype hhead rfl rfl rfl

theorem Tidy.stopFile (h : Tidy s) (buff : WriteBuffer) : Tidy (s.stopFile buff) := by
  obtain ⟨hclosed, hnone, -⟩ := h.closeCurrent buff.logType
  exact hclosed.note hnone rfl

theorem Tidy.writeFile (h : Tidy s)
    (hle : (s.currentFiles buff.logType).transIndex ≤ buff.transIndex) :
    Tidy (s.writeFile buff) := by
  unfold LoggerHandler.writeFile
  dsimp only
  split
  · exact h
  · split
    · rename_i f hf
      exact h.append hf hle
    · rename_i hnone
      exact h.note hnone hnone

/-- A buffer that is not skipped keeps the files tidy. -/
theorem Tidy.process (h : Tidy s) (answer : CreateAnswer)
    (hle : buff.flag ≠ kCreateFile → (s.currentFiles buff.logType).transIndex ≤ buff.transIndex) :
    Tidy (s.process answer buff) := by
  unfold LoggerHandler.process
  dsimp only
  by_cases hcreate : buff.flag = kCreateFile
  · have hend : buff.flag ≠ kEndFile := hcreate ▸ by decide
    have htransfer : buff.flag ≠ kTransferData := hcreate ▸ by decide
    rw [if_pos hcreate, if_neg hend, if_neg htransfer]
    exact h.createFile answer buff
  · rw [if_neg hcreate]
    by_cases hend : buff.flag = kEndFile
    · have htransfer : buff.flag ≠ kTransferData := hend ▸ by decide
      rw [if_pos hend, if_neg htransfer]
      exact h.stopFile buff
    · rw [if_neg hend]
      split
      · exact h.writeFile (hle hcreate)
      · exact h

end Process

/-! ### The loop -/

section Loop

variable {answers : ℕ → CreateAnswer} {s : LoggerHandler}

theorem writeLoop_cons (fuel n : ℕ) (buff : WriteBuffer) (queue : List WriteBuffer)
    (s : LoggerHandler) :
    LoggerHandler.writeLoop answers (fuel + 1) n (buff :: queue) s =
      if buff.transIndex < (s.currentFiles buff.logType).transIndex ∧ buff.flag ≠ kCreateFile then
        LoggerHandler.writeLoop answers fuel n (buff :: queue) s
      else (LoggerHandler.writeLoop answers fuel (n + 1) queue
        (s.process (answers n) buff)).map fun r => (r.1, buff :: r.2) := rfl

/-- A buffer is not skipped when it is not older than its type, or creates a file. -/
theorem not_skipped_iff (s : LoggerHandler) (buff : WriteBuffer) :
    ¬ (buff.transIndex < (s.currentFiles buff.logType).transIndex ∧ buff.flag ≠ kCreateFile) ↔
      (buff.flag ≠ kCreateFile → (s.marks buff.logType).transIndex ≤ buff.transIndex) := by
  rw [not_and', UInt32.not_lt]
  rfl

/-- The loop ends when the queue is in order, with a round for each buffer. -/
theorem writeLoop_ends : ∀ (queue : List WriteBuffer) (n : ℕ) (s : LoggerHandler),
    InOrder answers n s.marks queue →
      ∃ r, LoggerHandler.writeLoop answers queue.length n queue s = some r
  | [], _, s, _ => ⟨(s, []), rfl⟩
  | buff :: queue, n, s, h => by
    obtain ⟨hfirst, hrest⟩ := h
    have hmarks := (process_handles s buff (answers n)).marks
    rw [← hmarks] at hrest
    obtain ⟨r, hr⟩ := writeLoop_ends queue (n + 1) _ hrest
    refine ⟨(r.1, buff :: r.2), ?_⟩
    rw [List.length_cons, writeLoop_cons, if_neg ((not_skipped_iff s buff).mpr hfirst), hr]
    rfl

/-- The loop does not end when the queue is not in order: it stays at the first buffer
that is too old. -/
theorem writeLoop_inOrder : ∀ (fuel n : ℕ) (queue : List WriteBuffer) (s : LoggerHandler)
    (r : LoggerHandler × List WriteBuffer),
    LoggerHandler.writeLoop answers fuel n queue s = some r → InOrder answers n s.marks queue
  | _, _, [], _, _, _ => trivial
  | 0, _, _ :: _, _, _, h => nomatch h
  | fuel + 1, n, buff :: queue, s, r, h => by
    rw [writeLoop_cons] at h
    split at h
    · exact writeLoop_inOrder fuel n (buff :: queue) s r h
    · rename_i hskip
      obtain ⟨r', hr', -⟩ := Option.map_eq_some_iff.mp h
      have hmarks := (process_handles s buff (answers n)).marks
      have hrest := writeLoop_inOrder fuel (n + 1) queue _ r' hr'
      rw [hmarks] at hrest
      exact ⟨(not_skipped_iff s buff).mp hskip, hrest⟩

/-- A loop that ends removes each buffer once, in order, writes each at most once, and
keeps the files tidy. -/
theorem writeLoop_handles : ∀ (fuel n : ℕ) (queue : List WriteBuffer) (s : LoggerHandler)
    (r : LoggerHandler × List WriteBuffer),
    LoggerHandler.writeLoop answers fuel n queue s = some r → Tidy s →
      Tidy r.1 ∧ r.1.queue = s.queue ∧ r.2 = queue ∧
        ∃ new, r.1.writes = s.writes ++ new ∧ (new.map Prod.snd).Sublist queue
  | 0, _, [], s, _, h, htidy | _ + 1, _, [], s, _, h, htidy => by
    cases h
    exact ⟨htidy, rfl, rfl, [], (List.append_nil _).symm, List.nil_sublist _⟩
  | 0, _, _ :: _, _, _, h, _ => nomatch h
  | fuel + 1, n, buff :: queue, s, r, h, htidy => by
    rw [writeLoop_cons] at h
    split at h
    · exact writeLoop_handles fuel n (buff :: queue) s r h htidy
    · rename_i hskip
      obtain ⟨r', hr', rfl⟩ := Option.map_eq_some_iff.mp h
      have hhandles := process_handles s buff (answers n)
      obtain ⟨new, hnew, hsub⟩ := hhandles.writes
      obtain ⟨htidy', hqueue, hpopped, new', hnew', hsub'⟩ := writeLoop_handles fuel (n + 1) queue _
        r' hr' (htidy.process (answers n) ((not_skipped_iff s buff).mp hskip))
      refine ⟨htidy', hqueue.trans hhandles.queue, by rw [hpopped], new ++ new', ?_, ?_⟩
      · rw [hnew', hnew, List.append_assoc]
      · rw [List.map_append]
        exact hsub.append hsub'

/-- A call of `Write` with a buffer that is too old never ends. -/
theorem write_stuck (h : ¬ InOrder answers 0 s.marks s.queue) (fuel : ℕ) :
    s.write answers fuel = none := by
  cases hwrite : s.write answers fuel with
  | none => rfl
  | some r => exact absurd (writeLoop_inOrder fuel 0 s.queue { s with queue := [] } r hwrite) h

/-- What holds after every run: the files are tidy. -/
theorem run_tidy {root sn : List Char} {names : FileNames (List Char)}
    {tr : List (LoggerHandler × LogEvent)}
    (h : Run LoggerHandler.step (fun _ _ => True) (.init root sn names) tr s) : Tidy s := by
  apply h.invariant
  · exact init_tidy root sn names
  · intro tr s e s' hs _ he
    cases e with
    | store req flag =>
      cases he
      exact hs.storeLogBag req flag
    | write answers fuel =>
      obtain ⟨r, hr, rfl⟩ := Option.map_eq_some_iff.mp he
      exact (writeLoop_handles fuel 0 s.queue _ r hr hs.takeQueue).1
    | remove path =>
      cases he
      exact hs.remove path

/-- **`Write` ends exactly when no buffer is too old.** After every run, and whatever the
system answers: the loop ends, removes each queued buffer once and in order, writes each
to at most one file, and leaves the chunks of every file sorted, if and only if the queue
is in order. -/
theorem write_iff {root sn : List Char} {names : FileNames (List Char)}
    {tr : List (LoggerHandler × LogEvent)}
    (h : Run LoggerHandler.step (fun _ _ => True) (.init root sn names) tr s)
    (answers : ℕ → CreateAnswer) :
    (∃ fuel s' popped, s.write answers fuel = some (s', popped) ∧ s'.queue = [] ∧
      popped = s.queue ∧
      (∃ new, s'.writes = s.writes ++ new ∧ (new.map Prod.snd).Sublist popped) ∧
      ∀ f, (s'.chunks f).Pairwise fun b c => b.transIndex ≤ c.transIndex) ↔
    InOrder answers 0 s.marks s.queue := by
  constructor
  · rintro ⟨fuel, s', popped, hwrite, -⟩
    exact writeLoop_inOrder fuel 0 s.queue { s with queue := [] } _ hwrite
  · intro horder
    obtain ⟨⟨s', popped⟩, hwrite⟩ := writeLoop_ends s.queue 0 { s with queue := [] } horder
    obtain ⟨htidy, hqueue, rfl, hwrites⟩ := writeLoop_handles _ 0 s.queue _ _ hwrite
      (run_tidy h).takeQueue
    exact ⟨s.queue.length, s', s.queue, hwrite, hqueue, rfl, hwrites, htidy.sorted⟩

instance decidableInOrder (answers : ℕ → CreateAnswer) : ∀ (n : ℕ) (marks : UInt8 → Mark)
    (queue : List WriteBuffer), Decidable (InOrder answers n marks queue)
  | _, _, [] => .isTrue trivial
  | n, marks, buff :: queue =>
    have := decidableInOrder answers (n + 1) (Function.update marks buff.logType
      ((marks buff.logType).next (answers n).directory buff)) queue
    inferInstanceAs (Decidable ((buff.flag ≠ kCreateFile →
      (marks buff.logType).transIndex ≤ buff.transIndex) ∧ _))

/-- Files can be created. -/
def created (_ : ℕ) : CreateAnswer where
  time := "2024-05-06_07-08-09".toList
  directory := true
  opens := true
  time_head := by decide

/-- A request for file 0 of the first type of log, with two bytes. -/
def request (transIndex : UInt32) : DeviceLoggerFilePushRequest := ⟨0, 0, transIndex, 2, memOf [7, 8]⟩

/-- A file with two chunks, the second pushed twice, is written and closed. -/
theorem write_iff_file : ∃ tr s, Run LoggerHandler.step (fun _ _ => True)
      (.init "lidar_log/".toList "3JEDK8J00100511".toList .empty) tr s ∧ s.queue.length = 5 ∧
    (∃ fuel s' popped, s.write created fuel = some (s', popped) ∧ s'.queue = [] ∧
      popped = s.queue ∧
      (∃ new, s'.writes = s.writes ++ new ∧ (new.map Prod.snd).Sublist popped) ∧
      ∀ f, (s'.chunks f).Pairwise fun b c => b.transIndex ≤ c.transIndex) := by
  have hexec : (exec LoggerHandler.step
      (.init "lidar_log/".toList "3JEDK8J00100511".toList .empty)
      [.store (request 0) kCreateFile, .store (request 1) kTransferData,
        .store (request 2) kTransferData, .store (request 2) kTransferData,
        .store (request 3) kEndFile]).map
      (fun s => decide (s.queue.length = 5 ∧ InOrder created 0 s.marks s.queue)) =
        some true := by
    decide +kernel
  obtain ⟨s, hs, htest⟩ := Option.map_eq_some_iff.mp hexec
  obtain ⟨hlength, horder⟩ := of_decide_eq_true htest
  obtain ⟨tr, -, hrun⟩ := Run.of_exec hs
  exact ⟨tr, s, hrun, hlength, (write_iff hrun created).mpr horder⟩

/-- **A chunk that comes late stops the log.** Chunk 1 is pushed behind chunk 2: the call
of `Write` that finds it never ends. -/
theorem write_spins : ∃ tr s, Run LoggerHandler.step (fun _ _ => True)
      (.init "lidar_log/".toList "3JEDK8J00100511".toList .empty) tr s ∧
    s.queue.map WriteBuffer.transIndex = [0, 2, 1] ∧ ∀ fuel, s.write created fuel = none := by
  have hexec : (exec LoggerHandler.step
      (.init "lidar_log/".toList "3JEDK8J00100511".toList .empty)
      [.store (request 0) kCreateFile, .store (request 2) kTransferData,
        .store (request 1) kTransferData]).map
      (fun s => decide (s.queue.map WriteBuffer.transIndex = [0, 2, 1] ∧
        ¬ InOrder created 0 s.marks s.queue)) = some true := by
    decide +kernel
  obtain ⟨s, hs, htest⟩ := Option.map_eq_some_iff.mp hexec
  obtain ⟨hqueue, horder⟩ := of_decide_eq_true htest
  obtain ⟨tr, -, hrun⟩ := Run.of_exec hs
  exact ⟨tr, s, hrun, hqueue, write_stuck horder⟩

end Loop

end Livox
end SensorSupport
