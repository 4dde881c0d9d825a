import PagedMemory.Proofs.Loading

/-!
# Tables without their frames

Which frame a page is in is the one thing about a page table that no decision depends on.
`PageTable.outline` forgets the frames and keeps the rest: which pages are resident, which were
touched, and their histories.  Every operation on a table has the same effect on its outline,
whatever frame it works with, and the oldest page of a table can be read off its outline.
-/

namespace PagedMemory

/-- The slot, with its frame forgotten. -/
def Slot.outline (slot : Slot) : Slot := { slot with entry := { slot.entry with frameField := 0 } }

theorem Slot.outline_loaded (frame : FrameNumber) : (loaded frame).outline = loaded 0 := rfl

theorem Slot.outline_unmapped (slot : Slot) : slot.unmapped.outline = slot.outline.unmapped := rfl

theorem Slot.outline_markReferenced (slot : Slot) :
    slot.markReferenced.outline = slot.outline.markReferenced := rfl

theorem Slot.outline_tick (slot : Slot) : slot.tick.outline = slot.outline.tick := by
  unfold tick
  cases hvalid : slot.entry.valid with
  | true =>
    have hvalid' : slot.outline.entry.valid = true := hvalid
    rw [if_pos rfl, if_pos hvalid']
    rfl
  | false =>
    have hvalid' : ¬ slot.outline.entry.valid = true := by
      rw [show slot.outline.entry.valid = slot.entry.valid from rfl, hvalid]
      exact nofun
    rw [if_neg nofun, if_neg hvalid']

namespace PageTable

/-- The table, with all frames forgotten. -/
def outline (table : PageTable) : PageTable := ⟨table.slots.map Slot.outline⟩

theorem ext_slot? {left right : PageTable} (h : ∀ page, left.slot? page = right.slot? page) :
    left = right := by
  obtain ⟨slots⟩ := left
  obtain ⟨slots'⟩ := right
  congr 1
  apply Array.ext_getElem?
  exact h

theorem slot?_outline (table : PageTable) (page : Nat) :
    table.outline.slot? page = (table.slot? page).map Slot.outline := by
  simp only [outline, slot?, Array.getElem?_map]

/-! ## Operations -/

/-- What changes one slot, whatever its frame, changes one slot of the outline. -/
theorem outline_modify (table : PageTable) (page : Nat) {change change' : Slot → Slot}
    (h : ∀ slot, (change slot).outline = change' slot.outline) :
    outline ⟨table.slots.modify page change⟩ = ⟨table.outline.slots.modify page change'⟩ := by
  apply ext_slot?
  intro other
  simp only [outline, slot?, Array.getElem?_map, Array.getElem?_modify]
  split
  · rw [Option.map_map, Option.map_map]
    congr 1
    funext slot
    exact h slot
  · rfl

theorem outline_map (table : PageTable) (page : Nat) (frame : FrameNumber) :
    (table.map page frame).outline = table.outline.map page 0 :=
  outline_modify table page fun _ ↦ Slot.outline_loaded frame

theorem outline_unmap (table : PageTable) (page : Nat) :
    (table.unmap page).outline = table.outline.unmap page :=
  outline_modify table page Slot.outline_unmapped

theorem outline_markReferenced (table : PageTable) (page : Nat) :
    (table.markReferenced page).outline = table.outline.markReferenced page :=
  outline_modify table page Slot.outline_markReferenced

theorem outline_tick (table : PageTable) : table.tick.outline = table.outline.tick := by
  apply ext_slot?
  intro other
  rw [slot?_outline, slot?_tick, slot?_tick, slot?_outline, Option.map_map, Option.map_map]
  congr 1
  funext slot
  exact slot.outline_tick

theorem outline_mapFrom (table : PageTable) (page : Nat) (frames : List FrameNumber) :
    (table.mapFrom page frames).outline =
      table.outline.mapFrom page (List.replicate frames.length 0) := by
  induction frames generalizing table page with
  | nil => rfl
  | cons frame frames ih =>
    rw [mapFrom, ih, outline_map]
    rfl

theorem outline_unmapAll (table : PageTable) (pages : List Nat) :
    (table.unmapAll pages).outline = table.outline.unmapAll pages := by
  unfold unmapAll
  induction pages generalizing table with
  | nil => rfl
  | cons page pages ih => rw [List.foldl_cons, ih, outline_unmap, List.foldl_cons]

/-! ## Observations -/

theorem resident_outline_iff {table : PageTable} {page : Nat} :
    table.outline.Resident page ↔ table.Resident page := by
  unfold Resident
  rw [slot?_outline]
  cases table.slot? page with
  | none => simp
  | some slot => simp [Slot.outline]

theorem rows_outline (table : PageTable) :
    table.outline.rows = table.rows.map fun (page, slot) ↦ (page, slot.outline) := by
  simp only [rows, outline, Array.toList_map, List.zipIdx_map, List.map_map]
  rfl

theorem minOn?_map {α β : Type} (change : α → β) (key : β → Nat) (list : List α) :
    (list.map change).minOn? key = (list.minOn? (key ∘ change)).map change := by
  have hfold (list : List α) (first : α) :
      (list.map change).foldl (minOn key) (change first) =
        change (list.foldl (minOn (key ∘ change)) first) := by
    induction list generalizing first with
    | nil => rfl
    | cons head list ih =>
      have hhead : minOn key (change first) (change head) =
          change (minOn (key ∘ change) first head) := by
        unfold minOn
        simp only [Function.comp_apply]
        split <;> rfl
      rw [List.map_cons, List.foldl_cons, List.foldl_cons, hhead, ih]
  cases list with
  | nil => rfl
  | cons head list => exact congrArg some (hfold list head)

/-- The oldest page can be read off the outline. -/
theorem oldest?_outline (table : PageTable) (first : Nat) :
    table.outline.oldest? first = table.oldest? first := by
  have hcandidates : table.outline.candidates first =
      (table.candidates first).map fun (page, slot) ↦ (page, slot.outline) := by
    unfold candidates
    rw [rows_outline, List.filter_map]
    rfl
  unfold oldest?
  rw [hcandidates, minOn?_map, Option.map_map]
  rfl

theorem residentPages_outline (table : PageTable) :
    table.outline.residentPages = table.residentPages := by
  unfold residentPages resident
  rw [rows_outline, List.filterMap_map, List.map_filterMap, List.map_filterMap]
  congr 1
  funext ⟨page, slot⟩
  cases hvalid : slot.entry.valid <;> simp [Slot.outline, Entry.frame?, hvalid]

theorem outline_vacated (table : PageTable) : table.vacated.outline = table.outline.vacated := by
  unfold vacated
  rw [outline_unmapAll, residentPages_outline]

theorem length_resident_outline (table : PageTable) :
    table.outline.resident.length = table.resident.length := by
  rw [← length_residentPages, ← length_residentPages, residentPages_outline]

end PageTable

end PagedMemory
