import PagedMemory.Entry

/-!
# Page tables with aging registers

A page table has one slot per page: the entry of the page and a 16-bit aging register, its
*history*.  At every clock tick the history of each resident page is shifted right by one bit, the
referenced bit of its entry enters at the top, and the referenced bit is cleared.  Read from the top
bit down, the register therefore tells at which of the latest sixteen ticks the page had been
touched, and a smaller register means a page that was left alone for longer.

The operations below name a page by its number.  A page past the end of the table leaves the table
as it is; `PageTable.at?` is the reading in which such a page has no answer at all.
-/

namespace PagedMemory

/-- What a page table keeps for one page. -/
structure Slot where
  entry : Entry := .empty
  history : BitVec 16 := 0
deriving DecidableEq

/-- The slots of pages `0`, `1`, ... in order. -/
structure PageTable where
  slots : Array Slot
deriving DecidableEq

namespace Slot

/-- The history of a page that was just brought in: touched at all of the latest ticks. -/
def freshHistory : BitVec 16 := 0xFFFF

/-- The slot of a page that was just brought into `frame`. -/
def loaded (frame : FrameNumber) : Slot where
  entry := .mapping frame true
  history := freshHistory

/-- Drops the mapping.  The history stays. -/
def unmapped (slot : Slot) : Slot := { slot with entry := .empty }

/-- Notes that the page was touched. -/
def markReferenced (slot : Slot) : Slot := { slot with entry := slot.entry.markReferenced }

/-- One clock tick.  Only the register of a resident page moves. -/
def tick (slot : Slot) : Slot :=
  if slot.entry.valid then
    { entry := slot.entry.clearReferenced
      history := (slot.history >>> 1) ||| (if slot.entry.referenced then 0x8000 else 0) }
  else
    slot

end Slot

namespace PageTable

/-- A table of `size` pages, none of them resident. -/
def blank (size : Nat) : PageTable := ⟨Array.replicate size {}⟩

/-- There is no room for so many pages: an entry takes two bytes, and an allocation has fewer than
`2 ^ 63`. -/
def sizeLimit : Nat := 0x4000000000000000

/-- A blank table, if there is room for it. -/
def blank? (size : Nat) : Option PageTable :=
  if sizeLimit ≤ size then none else some (.blank size)

/-- The number of pages. -/
def size (table : PageTable) : Nat := table.slots.size

/-- The slot of a page of the table. -/
def slot? (table : PageTable) (page : Nat) : Option Slot := table.slots[page]?

/-- The answer of an operation on one page, or none when the page lies past the end. -/
def at? {α : Type} (table : PageTable) (page : Nat) (answer : Slot → α) : Option α :=
  (table.slot? page).map answer

/-! ## Changing one page -/

/-- Maps `page` to `frame` as a freshly touched page. -/
def map (table : PageTable) (page : Nat) (frame : FrameNumber) : PageTable :=
  ⟨table.slots.modify page fun _ ↦ .loaded frame⟩

/-- Unmaps `page`. -/
def unmap (table : PageTable) (page : Nat) : PageTable :=
  ⟨table.slots.modify page Slot.unmapped⟩

/-- Notes that `page` was touched. -/
def markReferenced (table : PageTable) (page : Nat) : PageTable :=
  ⟨table.slots.modify page Slot.markReferenced⟩

/-! ## The whole table -/

/-- One clock tick for every page. -/
def tick (table : PageTable) : PageTable := ⟨table.slots.map Slot.tick⟩

/-- The pages with their slots, in page order. -/
def rows (table : PageTable) : List (Nat × Slot) :=
  table.slots.toList.zipIdx.map fun (slot, page) ↦ (page, slot)

/-- The resident pages with their frames, in page order. -/
def resident (table : PageTable) : List (Nat × FrameNumber) :=
  table.rows.filterMap fun (page, slot) ↦ slot.entry.frame?.map fun frame ↦ (page, frame)

/-! ## What the operations do to each slot -/

@[simp] theorem size_blank (size : Nat) : (blank size).size = size := by
  simp [blank, PageTable.size]

@[simp] theorem size_map (table : PageTable) (page : Nat) (frame : FrameNumber) :
    (table.map page frame).size = table.size := by
  simp [map, size]

@[simp] theorem size_unmap (table : PageTable) (page : Nat) :
    (table.unmap page).size = table.size := by
  simp [unmap, size]

@[simp] theorem size_markReferenced (table : PageTable) (page : Nat) :
    (table.markReferenced page).size = table.size := by
  simp [markReferenced, size]

@[simp] theorem size_tick (table : PageTable) : table.tick.size = table.size := by
  simp [tick, size]

theorem slot?_map (table : PageTable) (page other : Nat) (frame : FrameNumber) :
    (table.map page frame).slot? other =
      if page = other then (table.slot? other).map fun _ ↦ .loaded frame
      else table.slot? other := by
  simp [map, slot?, Array.getElem?_modify]

theorem slot?_unmap (table : PageTable) (page other : Nat) :
    (table.unmap page).slot? other =
      if page = other then (table.slot? other).map Slot.unmapped else table.slot? other := by
  simp [unmap, slot?, Array.getElem?_modify]

theorem slot?_markReferenced (table : PageTable) (page other : Nat) :
    (table.markReferenced page).slot? other =
      if page = other then (table.slot? other).map Slot.markReferenced else table.slot? other := by
  simp [markReferenced, slot?, Array.getElem?_modify]

theorem slot?_tick (table : PageTable) (page : Nat) :
    table.tick.slot? page = (table.slot? page).map Slot.tick := by
  simp [tick, slot?]

theorem slot?_eq_none_iff (table : PageTable) (page : Nat) :
    table.slot? page = none ↔ table.size ≤ page := by
  simp [slot?, size]

end PageTable

end PagedMemory
