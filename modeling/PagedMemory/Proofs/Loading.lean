import PagedMemory.Memory
import PagedMemory.Proofs.Residents
import PagedMemory.Proofs.Selection

/-!
# How pages are loaded and given back

Pinned pages are loaded from the end of the free list: `Session.loadPages_eq` says that page number
`i` of those to be loaded gets the frame that stands `i` places before the last, and that loading
fails exactly when there are fewer free frames than pages.  A load that fails has emptied the list.

When a process leaves, its frames go to the end of the free list in page order, and none of its
pages is resident any more.
-/

namespace PagedMemory

namespace FreeList

/-- The numbers of the free frames, the one that is taken first in front. -/
def stack (list : FreeList) : List FrameNumber := list.numbers.reverse

/-- The list without its last `count` frames. -/
def dropLast (list : FreeList) (count : Nat) : FreeList :=
  { list with frames := list.frames.take (list.size - count) }

theorem size_dropLast (list : FreeList) (count : Nat) :
    (list.dropLast count).size = list.size - count := by
  simp [dropLast, size]

theorem dropLast_zero (list : FreeList) : list.dropLast 0 = list := by
  simp [dropLast, size]

theorem numbers_dropLast (list : FreeList) (count : Nat) :
    (list.dropLast count).numbers = (list.stack.drop count).reverse := by
  simp [dropLast, numbers, stack, List.drop_reverse, List.map_take, size]

theorem numbers_dropLast_of_le {list : FreeList} {count : Nat} (h : list.size ≤ count) :
    (list.dropLast count).numbers = [] := by
  rw [← List.length_eq_zero_iff, length_numbers, size_dropLast]
  omega

theorem mem_of_mem_dropLast {list : FreeList} {count : Nat} {free : FreeFrame}
    (h : free ∈ (list.dropLast count).frames) : free ∈ list.frames := by
  rw [dropLast, Array.take_eq_extract, Array.mem_extract_iff_getElem] at h
  obtain ⟨index, _, rfl⟩ := h
  exact Array.getElem_mem _

theorem stack_of_pop?_eq_some {list rest : FreeList} {chosen : FreeFrame}
    (h : list.pop? = some (chosen, rest)) : list.stack = chosen.frame :: rest.stack := by
  simp [stack, numbers_of_pop?_eq_some h]

theorem dropLast_of_pop?_eq_some {list rest : FreeList} {chosen : FreeFrame}
    (h : list.pop? = some (chosen, rest)) (count : Nat) :
    list.dropLast (count + 1) = rest.dropLast count := by
  obtain ⟨hframes, hrule, hstream⟩ := of_pop?_eq_some h
  obtain ⟨frames, rule, stream⟩ := list
  obtain ⟨left, rule', stream'⟩ := rest
  simp only at hframes hrule hstream
  subst hframes hrule hstream
  simp only [dropLast, size, Array.size_push, Nat.add_sub_add_right, mk.injEq, and_self, and_true]
  rw [Array.take_eq_extract, Array.take_eq_extract, Array.extract_push_of_le (Nat.sub_le _ _)]

end FreeList

namespace PageTable

/-- Maps the pages from `page` on to the given frames. -/
def mapFrom (table : PageTable) (page : Nat) : List FrameNumber → PageTable
  | [] => table
  | frame :: frames => (table.map page frame).mapFrom (page + 1) frames

@[simp] theorem size_mapFrom (table : PageTable) (page : Nat) (frames : List FrameNumber) :
    (table.mapFrom page frames).size = table.size := by
  induction frames generalizing table page with
  | nil => rfl
  | cons frame frames ih => rw [mapFrom, ih, size_map]

theorem resident_mapFrom_iff {table : PageTable} {page other : Nat} {frames : List FrameNumber}
    (hin : page + frames.length ≤ table.size) :
    (table.mapFrom page frames).Resident other ↔
      (page ≤ other ∧ other < page + frames.length) ∨ table.Resident other := by
  induction frames generalizing table page with
  | nil =>
    simp only [mapFrom, List.length_nil, Nat.add_zero]
    constructor
    · exact Or.inr
    · rintro (⟨hle, hlt⟩ | hresident)
      · omega
      · exact hresident
  | cons frame frames ih =>
    simp only [List.length_cons] at hin ⊢
    rw [mapFrom, ih (by rw [size_map]; omega), resident_map_iff]
    constructor
    · rintro (⟨hle, hlt⟩ | ⟨rfl, _⟩ | hresident)
      · exact .inl ⟨by omega, by omega⟩
      · exact .inl ⟨by omega, by omega⟩
      · exact .inr hresident
    · rintro (⟨hle, hlt⟩ | hresident)
      · by_cases hsame : other = page
        · exact .inr (.inl ⟨hsame, by omega⟩)
        · exact .inl ⟨by omega, by omega⟩
      · exact .inr (.inr hresident)

/-- Mapping pages that are not resident adds their frames. -/
theorem frames_mapFrom_perm {table : PageTable} {page : Nat} {frames : List FrameNumber}
    (hin : page + frames.length ≤ table.size)
    (habsent : ∀ other, page ≤ other → other < page + frames.length → ¬ table.Resident other)
    (hlimit : ∀ frame ∈ frames, frame.toNat < Entry.frameLimit) :
    (table.mapFrom page frames).frames.Perm (frames ++ table.frames) := by
  induction frames generalizing table page with
  | nil => exact List.Perm.refl _
  | cons frame frames ih =>
    simp only [List.length_cons] at hin habsent
    have hpage : table.Absent page := by
      apply absent_of_not_resident (by omega)
      exact habsent page (Nat.le_refl _) (by omega)
    have hrest : ((table.map page frame).mapFrom (page + 1) frames).frames.Perm
        (frames ++ (table.map page frame).frames) := ih
      (by rw [size_map]; omega)
      (by
        intro other hle hlt
        rw [resident_map_iff]
        rintro (⟨rfl, _⟩ | hresident)
        · omega
        · exact habsent other (by omega) (by omega) hresident)
      (fun frame hframe ↦ hlimit frame (List.mem_cons_of_mem _ hframe))
    have hhead := frames_map_perm hpage (hlimit frame List.mem_cons_self)
    rw [mapFrom]
    calc
      ((table.map page frame).mapFrom (page + 1) frames).frames.Perm
          (frames ++ (table.map page frame).frames) := hrest
      List.Perm _ (frames ++ frame :: table.frames) := hhead.append_left frames
      List.Perm _ (frame :: frames ++ table.frames) := List.perm_middle

end PageTable

namespace Session

variable {ρ : Type}

/-- Loading maps the pages to the last frames of the free list, as far as they go. -/
theorem loadPages_eq (session : Session ρ) (page : Nat) {count : Nat}
    (hin : page + count ≤ session.space.table.size) :
    session.loadPages page count =
      ⟨if count ≤ session.memory.free.size then .ok ()
          else .error (.outOfFrames session.space.process),
        ⟨{ session.memory with free := session.memory.free.dropLast count },
          { session.space with
            table := session.space.table.mapFrom page (session.memory.free.stack.take count) }⟩,
        []⟩ := by
  induction count generalizing session page with
  | zero =>
    rw [FreeList.dropLast_zero]
    rfl
  | succ count ih =>
    unfold loadPages
    cases hpop : session.memory.free.pop? with
    | none =>
      have hzero := FreeList.pop?_eq_none_iff.1 hpop
      have hstack : session.memory.free.stack = [] := by
        rw [← List.length_eq_zero_iff]
        simpa [FreeList.stack] using hzero
      have hrest : session.memory.free.dropLast (count + 1) = session.memory.free := by
        rw [← FreeList.dropLast_zero session.memory.free]
        simp [FreeList.dropLast, hzero]
      rw [hstack, hrest, hzero]
      rfl
    | some popped =>
      obtain ⟨chosen, rest⟩ := popped
      have hsize := FreeList.size_of_pop?_eq_some hpop
      have hpage : page < session.space.table.size := by omega
      have hrest := ih ((session.withFree rest).mapPage page chosen.frame) (page + 1)
        (by simp only [mapPage, withTable, withFree, PageTable.size_map]; omega)
      simp only [hpage, if_true]
      rw [hrest, FreeList.dropLast_of_pop?_eq_some hpop, FreeList.stack_of_pop?_eq_some hpop,
        List.take_succ_cons, PageTable.mapFrom]
      by_cases hle : count ≤ rest.size
      · simp only [mapPage, withTable, withFree, hle,
          show count + 1 ≤ session.memory.free.size by omega, if_true]
      · simp only [mapPage, withTable, withFree, hle,
          show ¬ count + 1 ≤ session.memory.free.size by omega, if_false]

end Session

/-! ## Giving everything back -/

namespace FreeList

/-- Puts the frames of several pages of a process at the end of the list. -/
def releaseAll (list : FreeList) (process : ProcessId) (pairs : List (Nat × FrameNumber)) :
    FreeList :=
  pairs.foldl (fun list (page, frame) ↦ list.release frame ⟨process, page⟩) list

/-- Frames are added behind those of the list, and nothing else changes. -/
theorem releaseAll_eq (list : FreeList) (process : ProcessId) (pairs : List (Nat × FrameNumber)) :
    list.releaseAll process pairs =
      { list with
        frames := list.frames ++
          (pairs.map fun (page, frame) ↦ ⟨frame, some ⟨process, page⟩⟩).toArray } := by
  unfold releaseAll
  induction pairs generalizing list with
  | nil => simp
  | cons pair pairs ih =>
    rw [List.foldl_cons, ih]
    simp [release]

theorem frames_releaseAll (list : FreeList) (process : ProcessId)
    (pairs : List (Nat × FrameNumber)) :
    (list.releaseAll process pairs).frames.toList =
      list.frames.toList ++
        pairs.map fun (page, frame) ↦ { frame := frame, last := some ⟨process, page⟩ } := by
  rw [releaseAll_eq, Array.toList_append]

theorem numbers_releaseAll (list : FreeList) (process : ProcessId)
    (pairs : List (Nat × FrameNumber)) :
    (list.releaseAll process pairs).numbers = list.numbers ++ pairs.map (·.2) := by
  simp [numbers, frames_releaseAll, Function.comp_def]

theorem size_releaseAll (list : FreeList) (process : ProcessId)
    (pairs : List (Nat × FrameNumber)) :
    (list.releaseAll process pairs).size = list.size + pairs.length := by
  rw [← length_numbers, numbers_releaseAll]
  simp

end FreeList

namespace PageTable

/-- Unmaps several pages. -/
def unmapAll (table : PageTable) (pages : List Nat) : PageTable := pages.foldl unmap table

@[simp] theorem size_unmapAll (table : PageTable) (pages : List Nat) :
    (table.unmapAll pages).size = table.size := by
  unfold unmapAll
  induction pages generalizing table with
  | nil => rfl
  | cons page pages ih => rw [List.foldl_cons, ih, size_unmap]

theorem resident_unmapAll_iff {table : PageTable} {pages : List Nat} {other : Nat} :
    (table.unmapAll pages).Resident other ↔ other ∉ pages ∧ table.Resident other := by
  unfold unmapAll
  induction pages generalizing table with
  | nil => simp
  | cons page pages ih => rw [List.foldl_cons, ih, resident_unmap_iff, List.mem_cons, not_or,
      and_left_comm, and_assoc]

/-- The table of a process that has left. -/
def vacated (table : PageTable) : PageTable := table.unmapAll table.residentPages

theorem not_resident_vacated (table : PageTable) (page : Nat) : ¬ table.vacated.Resident page := by
  intro hresident
  obtain ⟨hnot, hbefore⟩ := resident_unmapAll_iff.1 hresident
  exact hnot (mem_residentPages_iff.2 hbefore)

@[simp] theorem residentPages_vacated (table : PageTable) : table.vacated.residentPages = [] := by
  rw [List.eq_nil_iff_forall_not_mem]
  intro page hpage
  exact not_resident_vacated table page (mem_residentPages_iff.1 hpage)

@[simp] theorem resident_vacated (table : PageTable) : table.vacated.resident = [] :=
  List.map_eq_nil_iff.1 (residentPages_vacated table)

@[simp] theorem frames_vacated (table : PageTable) : table.vacated.frames = [] := by
  rw [frames, resident_vacated, List.map_nil]

end PageTable

namespace Session

variable {ρ : Type}

/-- The session of a process that has given everything back. -/
def released (session : Session ρ) : Session ρ where
  memory :=
    { session.memory with
      free := session.memory.free.releaseAll session.space.process session.space.table.resident }
  space := { session.space with table := session.space.table.vacated }

theorem size_free_released (session : Session ρ) :
    session.released.memory.free.size =
      session.memory.free.size + session.space.table.resident.length :=
  FreeList.size_releaseAll _ _ _

theorem release_eq (session : Session ρ) :
    session.release =
      ⟨.ok (), session.released,
        [.framesReleased session.space.process session.released.memory.free.size]⟩ := by
  have hfold (pairs : List (Nat × FrameNumber)) (session : Session ρ) :
      pairs.foldl
          (fun session (page, frame) ↦
            (session.releaseFrame frame page).withTable (session.space.table.unmap page))
          session =
        ⟨{ session.memory with
            free := session.memory.free.releaseAll session.space.process pairs },
          { session.space with
            table := session.space.table.unmapAll (pairs.map (·.1)) }⟩ := by
    induction pairs generalizing session with
    | nil => rfl
    | cons pair pairs ih =>
      rw [List.foldl_cons, ih]
      rfl
  unfold release
  simp only [hfold]
  rfl

end Session

end PagedMemory
