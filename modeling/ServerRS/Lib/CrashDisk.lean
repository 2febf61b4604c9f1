import Mathlib.Data.List.Infix
import Mathlib.Logic.Function.Basic
import ServerRS.Lib.Stepwise

/-!
# Files that survive a crash

A disk maps names to files. A file is what a reader sees and how much of it has been
synced. A crash keeps of each file what was synced and any prefix beyond it; what is left
then is on the disk for good. Creating, renaming and removing a file are atomic.
-/

namespace ServerRS.Lib

/-- A file: its bytes, of which the first `synced` survive every crash. -/
structure File (α : Type) where
  bytes : List α
  synced : ℕ
deriving DecidableEq

namespace File

variable {α : Type}

def write (data : List α) (file : File α) : File α := { file with bytes := file.bytes ++ data }

def sync (file : File α) : File α := { file with synced := file.bytes.length }

def setLen (n : ℕ) (file : File α) : File α := ⟨file.bytes.take n, min file.synced n⟩

/-- What a crash may leave of a file. -/
def Crash (file left : File α) : Prop :=
  ∃ keep, file.synced ≤ keep ∧ keep ≤ file.bytes.length ∧ left = ⟨file.bytes.take keep, keep⟩

@[simp] theorem write_nil (file : File α) : file.write [] = file := by
  rw [write, List.append_nil]

@[simp] theorem write_write (first second : List α) (file : File α) :
    (file.write first).write second = file.write (first ++ second) := by
  rw [write, write, write, List.append_assoc]

@[simp] theorem bytes_write (data : List α) (file : File α) :
    (file.write data).bytes = file.bytes ++ data := rfl

@[simp] theorem synced_write (data : List α) (file : File α) :
    (file.write data).synced = file.synced := rfl

@[simp] theorem sync_sync (file : File α) : file.sync.sync = file.sync := rfl

/-- A file that is synced as a whole is left as it is. -/
theorem Crash.eq_of_synced {file left : File α} (h : Crash file left)
    (hsynced : file.synced = file.bytes.length) : left = file := by
  obtain ⟨keep, hlow, hhigh, rfl⟩ := h
  obtain rfl : keep = file.bytes.length := by omega
  rw [List.take_length, ← hsynced]

end File

abbrev Disk (ν α : Type) := ν → Option (File α)

namespace Disk

variable {ν α : Type} [DecidableEq ν]

/-- What a crash may leave of a disk. -/
def Crash (disk left : Disk ν α) : Prop :=
  ∀ name, match disk name with
    | none => left name = none
    | some file => ∃ file', left name = some file' ∧ file.Crash file'

/-- What a crash leaves that loses every byte that was not synced. -/
def loseUnsynced (disk : Disk ν α) : Disk ν α := fun name =>
  (disk name).map fun file => ⟨file.bytes.take file.synced, file.synced⟩

omit [DecidableEq ν] in
theorem crash_loseUnsynced {disk : Disk ν α}
    (hsynced : ∀ name, ((disk name).all fun file => file.synced ≤ file.bytes.length) = true) :
    Crash disk disk.loseUnsynced := by
  intro name
  have hle := hsynced name
  cases hfile : disk name with
  | none => exact congrArg (Option.map _) hfile
  | some file =>
    rw [hfile, Option.all_some, decide_eq_true_eq] at hle
    exact ⟨_, congrArg (Option.map _) hfile, file.synced, Nat.le_refl _, hle, rfl⟩

def set (disk : Disk ν α) (name : ν) (file : Option (File α)) : Disk ν α :=
  Function.update disk name file

@[simp] theorem set_self (disk : Disk ν α) (name : ν) (file : Option (File α)) :
    disk.set name file name = file := Function.update_self ..

@[simp] theorem set_of_ne {disk : Disk ν α} {name other : ν} (file : Option (File α))
    (h : other ≠ name) : disk.set name file other = disk other := Function.update_of_ne h ..

@[simp] theorem set_set (disk : Disk ν α) (name : ν) (first second : Option (File α)) :
    (disk.set name first).set name second = disk.set name second := Function.update_idem ..

omit [DecidableEq ν] in
theorem Crash.of_none {disk left : Disk ν α} {name : ν} (h : Crash disk left)
    (hname : disk name = none) : left name = none := by
  have := h name
  rw [hname] at this
  exact this

omit [DecidableEq ν] in
theorem Crash.of_some {disk left : Disk ν α} {name : ν} {file : File α} (h : Crash disk left)
    (hname : disk name = some file) : ∃ file', left name = some file' ∧ file.Crash file' := by
  have := h name
  rw [hname] at this
  exact this

/-! ## Operations on the files of a disk -/

variable {ε : Type}

/-- Create the file, or empty the one that is there. -/
def create (name : ν) : Stepwise (Disk ν α) ε Unit :=
  .atomic fun disk => disk.set name (some ⟨[], 0⟩)

/-- `write_all`: append `data`; cut off, any prefix of it has been written. -/
def writeAll (name : ν) (data : List α) : Stepwise (Disk ν α) ε Unit :=
  .op (fun disk => data.inits.map fun part => disk.set name ((disk name).map (File.write part)))
    fun disk => disk.set name ((disk name).map (File.write data))

def syncAll (name : ν) : Stepwise (Disk ν α) ε Unit :=
  .atomic fun disk => disk.set name ((disk name).map File.sync)

def setLen (name : ν) (n : ℕ) : Stepwise (Disk ν α) ε Unit :=
  .atomic fun disk => disk.set name ((disk name).map (File.setLen n))

def remove (name : ν) : Stepwise (Disk ν α) ε Unit :=
  .atomic fun disk => disk.set name none

/-- The file `source` takes the place of `target`. -/
def rename (source target : ν) : Stepwise (Disk ν α) ε Unit :=
  .atomic fun disk => (disk.set target (disk source)).set source none

/-! ## Preconditions of the operations -/

section

open Stepwise

variable {C : Disk ν α → Prop} {Q : Unit → Disk ν α → Prop} {E : ε → Disk ν α → Prop}
  {disk : Disk ν α} {name : ν} {file : File α}

theorem wp_create (hdone : C (disk.set name (some ⟨[], 0⟩)))
    (h : Q () (disk.set name (some ⟨[], 0⟩))) : wp (create name) C Q E disk :=
  wp_atomic hdone h

theorem wp_writeAll {data : List α} (hname : disk name = some file)
    (hpart : ∀ part, part <+: data → C (disk.set name (some (file.write part))))
    (h : Q () (disk.set name (some (file.write data)))) :
    wp (writeAll name data) C Q E disk := by
  have hwrt : ∀ part, disk.set name ((disk name).map (File.write part)) =
      disk.set name (some (file.write part)) := fun part => by rw [hname, Option.map_some]
  refine wp_op (fun t ht => ?_) ?_ ?_
  · obtain ⟨part, hmem, rfl⟩ := List.mem_map.mp ht
    rw [hwrt]
    exact hpart part ((List.mem_inits part data).mp hmem)
  · rw [hwrt]
    exact hpart data (List.prefix_refl data)
  · rw [hwrt]
    exact h

theorem wp_writeAll_next {written data : List α}
    (hpart : ∀ part, part <+: data → C (disk.set name (some (file.write (written ++ part)))))
    (h : Q () (disk.set name (some (file.write (written ++ data))))) :
    wp (writeAll name data) C Q E (disk.set name (some (file.write written))) := by
  refine wp_writeAll (set_self ..) (fun part hdata => ?_) ?_
  · rw [set_set, File.write_write]
    exact hpart part hdata
  · rw [set_set, File.write_write]
    exact h

theorem wp_syncAll (hname : disk name = some file) (hdone : C (disk.set name (some file.sync)))
    (h : Q () (disk.set name (some file.sync))) : wp (syncAll name) C Q E disk := by
  have hsync : disk.set name ((disk name).map File.sync) = disk.set name (some file.sync) := by
    rw [hname, Option.map_some]
  exact wp_atomic (by rwa [hsync]) (by rwa [hsync])

theorem wp_setLen {n : ℕ} (hname : disk name = some file)
    (hdone : C (disk.set name (some (file.setLen n))))
    (h : Q () (disk.set name (some (file.setLen n)))) : wp (setLen name n) C Q E disk := by
  have hset : disk.set name ((disk name).map (File.setLen n)) =
      disk.set name (some (file.setLen n)) := by rw [hname, Option.map_some]
  exact wp_atomic (by rwa [hset]) (by rwa [hset])

theorem wp_remove (hdone : C (disk.set name none)) (h : Q () (disk.set name none)) :
    wp (remove name) C Q E disk := wp_atomic hdone h

theorem wp_rename {source target : ν} (hname : disk source = some file)
    (hdone : C ((disk.set target (some file)).set source none))
    (h : Q () ((disk.set target (some file)).set source none)) :
    wp (rename source target) C Q E disk :=
  wp_atomic (by rwa [hname]) (by rwa [hname])

end

end Disk

end ServerRS.Lib
