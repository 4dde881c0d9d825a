import PagedMemory.FreeList
import PagedMemory.Word

/-!
# Settings of the machine

The settings fix the size of a page, the number of frames handed out to processes, the number of
pages of every process, how many of its first pages are pinned, and how many free frames the machine
keeps in reserve.  The defaults describe 48 MiB of user memory in pages of 4 KiB.

The array that a process searches starts behind its pinned pages and is laid out in integers of four
bytes; `Settings.pageOfIndex?` says which page an element lies in.
-/

namespace PagedMemory

/-- The constants of a machine. -/
structure Settings where
  /-- Bytes in a page, and in a frame. -/
  pageSize : Nat := 4096
  /-- Frames handed out to processes. -/
  userFrames : Nat := 48 * 1024 * 1024 / 4096
  /-- Pages of every process. -/
  tableEntries : Nat := 2048
  /-- Pages at the bottom of every process that are never evicted. -/
  essentialPages : Nat := 10
  /-- A fault evicts a page while at most this many frames are free. -/
  reserve : Nat := 1000
  /-- How a frame is chosen when no affinity rule picks one. -/
  fallback : FallbackRule := .random 0
deriving DecidableEq

/-- What can be wrong with settings.  The last case leaves room for rules that a caller adds. -/
inductive SettingsFlaw where
  | badFrameCount (userFrames : Nat)
  | badPageSize (pageSize : Nat)
  | noRoom (essentialPages tableEntries : Nat)
  | other (description : String)
deriving DecidableEq

namespace SettingsFlaw

/-- The flaw in words. -/
def describe : SettingsFlaw → String
  | badFrameCount userFrames =>
    s!"user frame count {userFrames} must be within 1..={Entry.frameLimit}"
  | badPageSize pageSize => s!"page size {pageSize} must be a positive multiple of 4"
  | noRoom essentialPages tableEntries =>
    s!"{essentialPages} essential pages leave no room in a {tableEntries}-entry page table"
  | other description => description

end SettingsFlaw

namespace Settings

/-- The first flaw of the settings, if they have one. -/
def flaw? (settings : Settings) : Option SettingsFlaw :=
  if settings.userFrames = 0 ∨ Entry.frameLimit < settings.userFrames then
    some (.badFrameCount settings.userFrames)
  else if settings.pageSize < 4 ∨ settings.pageSize % 4 ≠ 0 then
    some (.badPageSize settings.pageSize)
  else if settings.tableEntries ≤ settings.essentialPages then
    some (.noRoom settings.essentialPages settings.tableEntries)
  else
    none

/-- Settings that a machine can be built from. -/
def Valid (settings : Settings) : Prop := settings.flaw? = none

instance (settings : Settings) : Decidable settings.Valid :=
  inferInstanceAs (Decidable (settings.flaw? = none))

theorem valid_iff {settings : Settings} :
    settings.Valid ↔
      (0 < settings.userFrames ∧ settings.userFrames ≤ Entry.frameLimit) ∧
        (4 ≤ settings.pageSize ∧ settings.pageSize % 4 = 0) ∧
        settings.essentialPages < settings.tableEntries := by
  unfold Valid flaw?
  constructor
  · intro hnone
    split at hnone
    · cases hnone
    · split at hnone
      · cases hnone
      · split at hnone
        · cases hnone
        · omega
  · rintro ⟨hframes, hpage, hroom⟩
    rw [if_neg (by omega), if_neg (by omega), if_neg (by omega)]

theorem Valid.pinned_le {settings : Settings} (h : settings.Valid) :
    settings.essentialPages ≤ settings.tableEntries :=
  Nat.le_of_lt (valid_iff.1 h).2.2

/-- How many integers of the searched array a page holds. -/
def intsPerPage (settings : Settings) : Nat := settings.pageSize / 4

/-- The page of an element of the searched array.  There is none when a page holds no integer, or
when the page number is not a word. -/
def pageOfIndex? (settings : Settings) (index : Nat) : Option Nat :=
  if settings.intsPerPage = 0 then none
  else Word.add? settings.essentialPages (index / settings.intsPerPage)

end Settings

end PagedMemory
