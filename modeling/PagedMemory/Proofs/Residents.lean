import Mathlib.Data.List.Nodup
import PagedMemory.VictimPolicy

/-!
# Resident pages and the frames behind them

A page table is looked at in two ways.  `PageTable.residentPages` lists the pages that are resident,
each once, and `PageTable.frames` the frames behind them.  The lemmas say what mapping, unmapping
and a clock tick do to the two lists, and to their common length.  The frames are compared as lists
up to order, so a frame that two pages share counts twice.

The last section says what a table's oldest page is: a resident page that may be given up, and there
is one whenever such a page exists.
-/

namespace PagedMemory

/-- A frame number below the limit survives being stored in an entry. -/
theorem Entry.frame_mapping {frame : FrameNumber} (hlimit : frame.toNat < frameLimit)
    (referenced : Bool) : (mapping frame referenced).frame = frame := by
  apply UInt16.toBitVec_inj.1
  apply BitVec.eq_of_toNat_eq
  have hsmall : frame.toNat < 2 ^ 14 := hlimit
  simp only [mapping, Entry.frame, BitVec.toNat_setWidth, UInt16.toNat_toBitVec]
  rw [Nat.mod_eq_of_lt hsmall, Nat.mod_eq_of_lt frame.toNat_lt]

theorem Entry.frame?_eq_some_iff {entry : Entry} {frame : FrameNumber} :
    entry.frame? = some frame ↔ entry.valid = true ∧ entry.frame = frame := by
  simp [Entry.frame?]

theorem Entry.frame?_eq_none_iff {entry : Entry} : entry.frame? = none ↔ entry.valid = false := by
  simp [Entry.frame?]

@[simp] theorem Slot.entry_tick_frame? (slot : Slot) :
    slot.tick.entry.frame? = slot.entry.frame? := by
  unfold Slot.tick
  split <;> rfl

@[simp] theorem Slot.entry_tick_valid (slot : Slot) : slot.tick.entry.valid = slot.entry.valid := by
  unfold Slot.tick
  split <;> rfl

namespace PageTable

/-- The entry of the page is valid. -/
def Resident (table : PageTable) (page : Nat) : Prop :=
  ∃ slot, table.slot? page = some slot ∧ slot.entry.valid = true

/-- The page belongs to the table, and its entry is not valid. -/
def Absent (table : PageTable) (page : Nat) : Prop :=
  ∃ slot, table.slot? page = some slot ∧ slot.entry.valid = false

/-- The resident pages, in page order. -/
def residentPages (table : PageTable) : List Nat := table.resident.map (·.1)

/-- The frames behind the resident pages, in page order. -/
def frames (table : PageTable) : List FrameNumber := table.resident.map (·.2)

theorem mem_rows_iff {table : PageTable} {page : Nat} {slot : Slot} :
    (page, slot) ∈ table.rows ↔ table.slot? page = some slot := by
  simp only [rows, slot?, List.mem_map, Prod.exists, List.mem_zipIdx_iff_getElem?, Prod.mk.injEq,
    Array.getElem?_toList]
  constructor
  · rintro ⟨_, _, hslot, rfl, rfl⟩
    exact hslot
  · exact fun hslot ↦ ⟨slot, page, hslot, rfl, rfl⟩

theorem map_fst_rows (table : PageTable) : table.rows.map (·.1) = List.range table.size := by
  simp [rows, size, Function.comp_def, List.zipIdx_map_snd, List.range_eq_range']

theorem pairwise_rows (table : PageTable) :
    table.rows.Pairwise fun row row' ↦ row.1 < row'.1 := by
  rw [← List.pairwise_map, map_fst_rows]
  exact List.pairwise_lt_range

/-- The resident pages are listed in page order. -/
theorem pairwise_resident (table : PageTable) :
    table.resident.Pairwise fun pair pair' ↦ pair.1 < pair'.1 := by
  apply table.pairwise_rows.filterMap
  intro row row' hless pair hpair pair' hpair'
  obtain ⟨_, _, rfl⟩ := Option.map_eq_some_iff.1 hpair
  obtain ⟨_, _, rfl⟩ := Option.map_eq_some_iff.1 hpair'
  exact hless

theorem mem_resident_iff {table : PageTable} {page : Nat} {frame : FrameNumber} :
    (page, frame) ∈ table.resident ↔
      ∃ slot, table.slot? page = some slot ∧ slot.entry.frame? = some frame := by
  simp only [resident, List.mem_filterMap, Option.map_eq_some_iff, Prod.mk.injEq, Prod.exists,
    mem_rows_iff]
  constructor
  · rintro ⟨_, slot, hslot, _, hframe, rfl, rfl⟩
    exact ⟨slot, hslot, hframe⟩
  · rintro ⟨slot, hslot, hframe⟩
    exact ⟨page, slot, hslot, frame, hframe, rfl, rfl⟩

/-- A page that is mapped is in its frame. -/
theorem mem_resident_map {table : PageTable} {page : Nat} {frame : FrameNumber}
    (hin : page < table.size) (hlimit : frame.toNat < Entry.frameLimit) :
    (page, frame) ∈ (table.map page frame).resident := by
  obtain ⟨slot, hslot⟩ : ∃ slot, table.slot? page = some slot :=
    ⟨_, Array.getElem?_eq_getElem hin⟩
  refine mem_resident_iff.2 ⟨.loaded frame, ?_, ?_⟩
  · rw [slot?_map, if_pos rfl, hslot, Option.map_some]
  · exact Entry.frame?_eq_some_iff.2 ⟨rfl, Entry.frame_mapping hlimit true⟩

theorem mem_residentPages_iff {table : PageTable} {page : Nat} :
    page ∈ table.residentPages ↔ table.Resident page := by
  simp only [residentPages, List.mem_map, Prod.exists, mem_resident_iff, Resident]
  constructor
  · rintro ⟨_, _, ⟨slot, hslot, hframe⟩, rfl⟩
    exact ⟨slot, hslot, (Entry.frame?_eq_some_iff.1 hframe).1⟩
  · rintro ⟨slot, hslot, hvalid⟩
    exact ⟨page, slot.entry.frame, ⟨slot, hslot, Entry.frame?_eq_some_iff.2 ⟨hvalid, rfl⟩⟩, rfl⟩

/-- No page is listed twice. -/
theorem nodup_residentPages (table : PageTable) : table.residentPages.Nodup := by
  have hordered : table.residentPages.Pairwise (· < ·) :=
    List.pairwise_map.2 table.pairwise_resident
  exact hordered.imp Nat.ne_of_lt

@[simp] theorem length_residentPages (table : PageTable) :
    table.residentPages.length = table.resident.length := by
  simp [residentPages]

@[simp] theorem length_frames (table : PageTable) :
    table.frames.length = table.resident.length := by
  simp [frames]

/-! ## What the operations do to residence -/

theorem lt_size_of_slot?_eq_some {table : PageTable} {page : Nat} {slot : Slot}
    (h : table.slot? page = some slot) : page < table.size :=
  (Array.getElem?_eq_some_iff.1 h).1

theorem Resident.lt_size {table : PageTable} {page : Nat} (h : table.Resident page) :
    page < table.size := by
  obtain ⟨slot, hslot, _⟩ := h
  exact lt_size_of_slot?_eq_some hslot

theorem Absent.not_resident {table : PageTable} {page : Nat} (h : table.Absent page) :
    ¬ table.Resident page := by
  obtain ⟨slot, hslot, hinvalid⟩ := h
  rintro ⟨other, hother, hvalid⟩
  rw [hslot] at hother
  cases hother
  rw [hinvalid] at hvalid
  cases hvalid

theorem absent_of_not_resident {table : PageTable} {page : Nat} (hin : page < table.size)
    (h : ¬ table.Resident page) : table.Absent page := by
  cases hslot : table.slot? page with
  | none =>
    have hout := (slot?_eq_none_iff table page).1 hslot
    omega
  | some slot =>
    cases hvalid : slot.entry.valid with
    | true => exact absurd ⟨slot, hslot, hvalid⟩ h
    | false => exact ⟨slot, hslot, hvalid⟩

theorem not_resident_blank (size page : Nat) : ¬ (blank size).Resident page := by
  rintro ⟨slot, hslot, hvalid⟩
  simp only [slot?, blank, Array.getElem?_replicate] at hslot
  split at hslot
  · cases hslot
    cases hvalid
  · cases hslot

theorem resident_map_iff {table : PageTable} {page other : Nat} {frame : FrameNumber} :
    (table.map page frame).Resident other ↔
      other = page ∧ page < table.size ∨ table.Resident other := by
  unfold Resident
  rw [slot?_map]
  split
  case isTrue hsame =>
    subst hsame
    cases hslot : table.slot? page with
    | none =>
      have hout := (slot?_eq_none_iff table page).1 hslot
      simp only [Option.map_none, reduceCtorEq, false_and, exists_false, or_false, true_and,
        false_iff]
      omega
    | some slot =>
      have hin := lt_size_of_slot?_eq_some hslot
      simp [hin, Slot.loaded, Entry.mapping]
  case isFalse hother =>
    have hne : other ≠ page := fun h ↦ hother h.symm
    simp [hne]

theorem resident_unmap_iff {table : PageTable} {page other : Nat} :
    (table.unmap page).Resident other ↔ other ≠ page ∧ table.Resident other := by
  unfold Resident
  rw [slot?_unmap]
  split
  case isTrue hsame =>
    subst hsame
    cases table.slot? page <;> simp [Slot.unmapped, Entry.empty]
  case isFalse hother =>
    simp [Ne.symm hother]

theorem Absent.resident_map {table : PageTable} {page : Nat} (h : table.Absent page)
    (frame : FrameNumber) : (table.map page frame).Resident page := by
  obtain ⟨slot, hslot, _⟩ := h
  exact resident_map_iff.2 (.inl ⟨rfl, lt_size_of_slot?_eq_some hslot⟩)

theorem Absent.unmap {table : PageTable} {page : Nat} (h : table.Absent page) (other : Nat) :
    (table.unmap other).Absent page := by
  obtain ⟨slot, hslot, hinvalid⟩ := h
  unfold Absent
  rw [slot?_unmap, hslot]
  split
  · exact ⟨slot.unmapped, rfl, rfl⟩
  · exact ⟨slot, rfl, hinvalid⟩

theorem resident_markReferenced_iff {table : PageTable} {page other : Nat} :
    (table.markReferenced page).Resident other ↔ table.Resident other := by
  unfold Resident
  rw [slot?_markReferenced]
  split
  · cases table.slot? other <;> simp [Slot.markReferenced, Entry.markReferenced]
  · rfl

theorem resident_tick_iff {table : PageTable} {page : Nat} :
    table.tick.Resident page ↔ table.Resident page := by
  unfold Resident
  rw [slot?_tick]
  cases table.slot? page <;> simp

/-! ## What the operations do to the number of resident pages -/

/-- Tables with the same resident pages have the same number of them. -/
theorem length_resident_congr {table other : PageTable}
    (h : ∀ page, table.Resident page ↔ other.Resident page) :
    table.resident.length = other.resident.length := by
  have hperm : table.residentPages.Perm other.residentPages := by
    rw [List.perm_ext_iff_of_nodup (nodup_residentPages _) (nodup_residentPages _)]
    intro page
    rw [mem_residentPages_iff, mem_residentPages_iff, h]
  simpa using hperm.length_eq

/-- A table with one more resident page has one more. -/
theorem length_resident_of_insert {table other : PageTable} {page : Nat}
    (hnew : ¬ table.Resident page)
    (h : ∀ candidate, other.Resident candidate ↔ candidate = page ∨ table.Resident candidate) :
    other.resident.length = table.resident.length + 1 := by
  have hperm : other.residentPages.Perm (page :: table.residentPages) := by
    rw [List.perm_ext_iff_of_nodup (nodup_residentPages _)
      (List.nodup_cons.2 ⟨fun hmem ↦ hnew (mem_residentPages_iff.1 hmem), nodup_residentPages _⟩)]
    intro candidate
    rw [List.mem_cons, mem_residentPages_iff, mem_residentPages_iff, h]
  simpa using hperm.length_eq

theorem length_resident_map {table : PageTable} {page : Nat} (habsent : table.Absent page)
    (frame : FrameNumber) :
    (table.map page frame).resident.length = table.resident.length + 1 := by
  apply length_resident_of_insert habsent.not_resident
  intro other
  obtain ⟨slot, hslot, _⟩ := habsent
  rw [resident_map_iff, and_iff_left (lt_size_of_slot?_eq_some hslot)]

theorem length_resident_unmap {table : PageTable} {page : Nat} (hresident : table.Resident page) :
    (table.unmap page).resident.length + 1 = table.resident.length := by
  have hgone : ¬ (table.unmap page).Resident page := by
    rw [resident_unmap_iff]
    exact fun h ↦ h.1 rfl
  have hback (other : Nat) :
      table.Resident other ↔ other = page ∨ (table.unmap page).Resident other := by
    rw [resident_unmap_iff]
    by_cases hsame : other = page
    · simp [hsame, hresident]
    · simp [hsame]
  exact (length_resident_of_insert hgone hback).symm

theorem length_resident_unmap_of_absent {table : PageTable} {page : Nat}
    (habsent : table.Absent page) :
    (table.unmap page).resident.length = table.resident.length := by
  apply length_resident_congr
  intro other
  rw [resident_unmap_iff, and_iff_right_iff_imp]
  rintro hresident rfl
  exact habsent.not_resident hresident

@[simp] theorem length_resident_markReferenced (table : PageTable) (page : Nat) :
    (table.markReferenced page).resident.length = table.resident.length :=
  length_resident_congr fun _ ↦ resident_markReferenced_iff

@[simp] theorem length_resident_tick (table : PageTable) :
    table.tick.resident.length = table.resident.length :=
  length_resident_congr fun _ ↦ resident_tick_iff

/-! ## What the operations do to the frames -/

/-- The frames, read off the slots. -/
theorem frames_eq_filterMap (table : PageTable) :
    table.frames = table.slots.toList.filterMap fun slot ↦ slot.entry.frame? := by
  have hzip (slots : List Slot) (start : Nat) :
      (((slots.zipIdx start).map fun row ↦ (row.2, row.1)).filterMap
          fun row ↦ row.2.entry.frame?.map fun frame ↦ (row.1, frame)).map (·.2) =
        slots.filterMap fun slot ↦ slot.entry.frame? := by
    induction slots generalizing start with
    | nil => rfl
    | cons slot slots ih =>
      cases hframe : slot.entry.frame? with
      | none => simpa [hframe] using ih (start + 1)
      | some frame => simpa [hframe] using ih (start + 1)
  exact hzip table.slots.toList 0

/-- A table around one of its slots: the frames before it, its own, and those behind it. -/
theorem exists_frames_split {table : PageTable} {page : Nat} {slot : Slot}
    (hslot : table.slot? page = some slot) :
    ∃ front back : List FrameNumber,
      table.frames = front ++ slot.entry.frame?.toList ++ back ∧
        ∀ change : Slot → Slot, PageTable.frames ⟨table.slots.modify page change⟩ =
          front ++ (change slot).entry.frame?.toList ++ back := by
  obtain ⟨hin, hget⟩ := Array.getElem?_eq_some_iff.1 hslot
  have hlist : page < table.slots.toList.length := by simpa using hin
  have hsplit : table.slots.toList =
      table.slots.toList.take page ++ slot :: table.slots.toList.drop (page + 1) := by
    have hdrop := List.drop_eq_getElem_cons hlist
    rw [Array.getElem_toList, hget] at hdrop
    rw [← hdrop, List.take_append_drop]
  have hone (slot : Slot) (slots : List Slot) :
      (slot :: slots).filterMap (fun slot ↦ slot.entry.frame?) =
        slot.entry.frame?.toList ++ slots.filterMap fun slot ↦ slot.entry.frame? := by
    cases hframe : slot.entry.frame? <;> simp [hframe]
  refine ⟨(table.slots.toList.take page).filterMap fun slot ↦ slot.entry.frame?,
    (table.slots.toList.drop (page + 1)).filterMap fun slot ↦ slot.entry.frame?, ?_, ?_⟩
  · rw [frames_eq_filterMap, hsplit, List.filterMap_append, hone, ← hsplit, List.append_assoc]
  · intro change
    rw [frames_eq_filterMap, Array.toList_modify, List.modify_eq_take_cons_drop hlist,
      Array.getElem_toList, hget, List.filterMap_append, hone, List.append_assoc]

@[simp] theorem frames_blank (size : Nat) : (blank size).frames = [] := by
  rw [frames_eq_filterMap, List.filterMap_eq_nil_iff]
  intro slot hslot
  simp only [blank, Array.toList_replicate, List.mem_replicate] at hslot
  rw [hslot.2]
  rfl

/-- Mapping a page that is not resident adds its frame. -/
theorem frames_map_perm {table : PageTable} {page : Nat} {frame : FrameNumber}
    (habsent : table.Absent page) (hlimit : frame.toNat < Entry.frameLimit) :
    (table.map page frame).frames.Perm (frame :: table.frames) := by
  obtain ⟨slot, hslot, hinvalid⟩ := habsent
  obtain ⟨front, back, hold, hnew⟩ := exists_frames_split hslot
  have hloaded : (Slot.loaded frame).entry.frame? = some frame :=
    Entry.frame?_eq_some_iff.2 ⟨rfl, Entry.frame_mapping hlimit true⟩
  unfold PageTable.map
  rw [hnew, hold, hloaded, Entry.frame?_eq_none_iff.2 hinvalid]
  simp

/-- Unmapping a resident page takes its frame away. -/
theorem frames_unmap_perm {table : PageTable} {page : Nat} {slot : Slot} {frame : FrameNumber}
    (hslot : table.slot? page = some slot) (hframe : slot.entry.frame? = some frame) :
    table.frames.Perm (frame :: (table.unmap page).frames) := by
  obtain ⟨front, back, hold, hnew⟩ := exists_frames_split hslot
  unfold PageTable.unmap
  rw [hnew, hold, hframe]
  simp [Slot.unmapped, Entry.empty, Entry.frame?]

/-- Unmapping a page that is not resident takes no frame away. -/
theorem frames_unmap_of_absent {table : PageTable} {page : Nat} {slot : Slot}
    (hslot : table.slot? page = some slot) (habsent : slot.entry.frame? = none) :
    (table.unmap page).frames = table.frames := by
  obtain ⟨front, back, hold, hnew⟩ := exists_frames_split hslot
  unfold PageTable.unmap
  rw [hnew, hold, habsent]
  simp [Slot.unmapped, Entry.empty, Entry.frame?]

@[simp] theorem frames_markReferenced (table : PageTable) (page : Nat) :
    (table.markReferenced page).frames = table.frames := by
  unfold PageTable.markReferenced
  cases hslot : table.slot? page with
  | none =>
    have hout : table.slots.size ≤ page := (slot?_eq_none_iff table page).1 hslot
    congr 2
    apply Array.ext'
    rw [Array.toList_modify, List.modify_eq_self (by simpa using hout)]
  | some slot =>
    obtain ⟨front, back, hold, hnew⟩ := exists_frames_split hslot
    rw [hnew, hold]
    rfl

@[simp] theorem frames_tick (table : PageTable) : table.tick.frames = table.frames := by
  simp [frames_eq_filterMap, tick, List.filterMap_map]

/-! ## The oldest page -/

theorem mem_candidates_iff {table : PageTable} {first page : Nat} {slot : Slot} :
    (page, slot) ∈ table.candidates first ↔
      table.slot? page = some slot ∧ first ≤ page ∧ slot.entry.valid = true := by
  simp [candidates, List.mem_filter, mem_rows_iff]

/-- A table has an oldest page unless no page that may be given up is resident. -/
theorem oldest?_eq_none_iff {table : PageTable} {first : Nat} :
    table.oldest? first = none ↔ ∀ page, first ≤ page → ¬ table.Resident page := by
  have hempty : table.oldest? first = none ↔ table.candidates first = [] := by
    rw [oldest?, Option.map_eq_none_iff, ← Option.not_isSome_iff_eq_none, List.isSome_minOn?_iff,
      not_not]
  rw [hempty, List.eq_nil_iff_forall_not_mem]
  constructor
  · rintro hnone page hfirst ⟨slot, hslot, hvalid⟩
    exact hnone (page, slot) (mem_candidates_iff.2 ⟨hslot, hfirst, hvalid⟩)
  · rintro hnone ⟨page, slot⟩ hmem
    obtain ⟨hslot, hfirst, hvalid⟩ := mem_candidates_iff.1 hmem
    exact hnone page hfirst ⟨slot, hslot, hvalid⟩

/-- The oldest page is resident and may be given up. -/
theorem of_oldest?_eq_some {table : PageTable} {first victim : Nat}
    (h : table.oldest? first = some victim) : first ≤ victim ∧ table.Resident victim := by
  obtain ⟨⟨page, slot⟩, hmin, rfl⟩ := Option.map_eq_some_iff.1 h
  obtain ⟨hslot, hfirst, hvalid⟩ := mem_candidates_iff.1 (List.minOn?_mem hmin)
  exact ⟨hfirst, slot, hslot, hvalid⟩

end PageTable

end PagedMemory
