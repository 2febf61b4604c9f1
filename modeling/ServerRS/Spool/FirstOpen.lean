import ServerRS.Spool.CrashSafety

/-!
# Crashes of the first open

The first `open` on an empty directory may crash any number of times. The next one succeeds
exactly if no WAL file was left without its whole header (`opensEmpty_iff`).
-/

namespace ServerRS.Spool

open Lib Stepwise

variable {M : Type} [SpoolMessage M] {env : SpoolEnv M} {disk disk' : SpoolDisk}

/-- An `open` is cut off, and the machine crashes. -/
def CrashedOpen (env : SpoolEnv M) (disk disk' : SpoolDisk) : Prop :=
  ∃ generation, generation ≠ Uuid.nil ∧
    ∃ left, Leaves (RealtimeMessageSpool.open env generation) disk left ∧ left.Crash disk'

/-- `open` succeeds and nothing is pending. -/
def OpensEmpty (env : SpoolEnv M) (generation : Uuid) (disk : SpoolDisk) : Prop :=
  ∃ opened, (RealtimeMessageSpool.open env generation disk).result = .ok opened ∧
    (opened.spool.recoverPending env (RealtimeMessageSpool.open env generation disk).state).result =
      .ok []

/-- Disks that crashed attempts leave of an empty one. -/
def AfterCrashedOpens (env : SpoolEnv M) (disk : SpoolDisk) : Prop :=
  Reachable (fun disk => disk = fun _ => none) (CrashedOpen env) disk

/-- Crashed attempts are a history in which nothing is appended. -/
theorem AfterCrashedOpens.history (hreach : AfterCrashedOpens env disk) :
    CarefulHistory env { SpoolHistory.initial with disk } := by
  refine Reachable.invariant hreach (fun disk => CarefulHistory env { SpoolHistory.initial with disk })
    ?_ fun disk disk' hhistory hstep => ?_
  · rintro _ rfl
    exact .initial rfl
  · obtain ⟨generation, hgen, left, hleft, hcrash⟩ := hstep
    have hopen : CarefulStep env { SpoolHistory.initial with disk }
        { SpoolHistory.initial with disk := left } :=
      ⟨.open generation, fun h => by simp [SpoolHistory.initial] at h,
        fun _ _ _ h _ => by simp [SpoolHistory.initial] at h, .openFailed rfl hgen hleft⟩
    have hcrashed : CarefulStep env { SpoolHistory.initial with disk := left }
        { SpoolHistory.initial with disk := disk' } :=
      ⟨.crash, fun h => by simp [SpoolHistory.initial] at h,
        fun _ _ _ h _ => by simp [SpoolHistory.initial] at h, .crashed rfl hcrash⟩
    exact (Reachable.tail hhistory hopen).tail hcrashed

/-- However many attempts crashed, the next `open` succeeds with nothing pending if and only if they
left no WAL file without its whole header. -/
theorem opensEmpty_iff (hreach : AfterCrashedOpens env disk) {generation : Uuid}
    (hgeneration : generation ≠ Uuid.nil) : OpensEmpty env generation disk ↔ HeaderComplete disk := by
  refine ⟨fun ⟨opened, hok, _⟩ => ?_, fun hhdr => ?_⟩
  · by_contra hhdr
    exact open_short_error hhdr generation opened hok
  · obtain ⟨opened, frames, hok, hpend, hcomp⟩ :=
      hreach.history.kept.recovers_iff.mpr hhdr generation hgeneration
    -- no frame was ever written
    have hnil := List.eq_nil_of_map_eq_nil (List.eq_nil_of_sublist_nil hcomp.order)
    exact ⟨opened, hok, by rw [hpend, hnil]⟩

/-- The first `open` crashed after it had written and synced the header. -/
def crashedOpen : SpoolDisk := scriptedRunning.disk.loseUnsynced

theorem crashedOpen_after : AfterCrashedOpens scriptedEnv crashedOpen := by
  have hlast : (points (RealtimeMessageSpool.open scriptedEnv scriptedGeneration)
      (fun _ => none)).getLast? = some scriptedRunning.disk := rfl
  refine Reachable.tail (.initial rfl) ⟨scriptedGeneration, by decide, scriptedRunning.disk,
    .inl (List.mem_of_getLast? hlast), Disk.crash_loseUnsynced fun name => ?_⟩
  cases name <;> decide

theorem opensEmpty_scripted : fileLen crashedOpen .wal = WAL_HEADER_LEN ∧
    (OpensEmpty scriptedEnv scriptedGeneration crashedOpen ↔ HeaderComplete crashedOpen) :=
  ⟨by decide, opensEmpty_iff crashedOpen_after (by decide)⟩

/-- One crash after the magic bytes, and every later `open` fails. -/
theorem not_opensEmpty_cutOffHeader : AfterCrashedOpens scriptedEnv (cutOffHeader 4) ∧
    ¬OpensEmpty scriptedEnv scriptedGeneration (cutOffHeader 4) := by
  refine ⟨Reachable.tail (.initial rfl) ⟨scriptedGeneration, by decide, cutOffHeader 0,
    leaves_cutOffHeader, fun name => ?_⟩, fun ⟨opened, hok, _⟩ => ?_⟩
  · cases name with
    | wal => exact ⟨⟨WAL_MAGIC, 4⟩, rfl, 4, Nat.zero_le _, Nat.le_refl _, rfl⟩
    | compactTemp => rfl
    | checkpoint => rfl
    | checkpointTemp => rfl
  · exact open_short_error (not_headerComplete_cutOffHeader 4) scriptedGeneration opened hok

end ServerRS.Spool
