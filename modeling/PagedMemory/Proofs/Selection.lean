import PagedMemory.FreeList

/-!
# Taking frames from the free list

Each way of taking a frame takes exactly one, and loses none: `FreeList.numbers`, the numbers of the
free frames, is the number that was taken in front of the numbers that are left, up to order.  A
selection fails on the empty list only, whatever the fallback rule draws.

An eviction gives a frame back and takes one.  `FreeList.exchange?` does both in the order that the
memory keeps to: an empty list gets the frame back first, so that there is one to take, and any
other list gets it back last.  An exchange never fails and never changes the number of free frames.
-/

namespace PagedMemory.FreeList

/-- The numbers of the free frames, in list order. -/
def numbers (list : FreeList) : List FrameNumber := list.frames.toList.map (·.frame)

@[simp] theorem length_numbers (list : FreeList) : list.numbers.length = list.size := by
  simp [numbers, size]

theorem isEmpty_iff {list : FreeList} : list.isEmpty = true ↔ list.size = 0 := by
  simp [isEmpty, size]

@[simp] theorem size_release (list : FreeList) (frame : FrameNumber) (holder : Holder) :
    (list.release frame holder).size = list.size + 1 := by
  simp [release, size]

theorem toList_frames_release (list : FreeList) (frame : FrameNumber) (holder : Holder) :
    (list.release frame holder).frames.toList =
      list.frames.toList ++ [{ frame := frame, last := some holder }] := by
  simp [release]

@[simp] theorem size_full (frameCount : Nat) (rule : FallbackRule) :
    (full frameCount rule).size = frameCount := by
  simp [full, size]

theorem numbers_full (frameCount : Nat) (rule : FallbackRule) :
    (full frameCount rule).numbers = (List.range frameCount).map UInt16.ofNat := by
  apply List.ext_getElem
  · simp
  · intro index _ _
    simp [numbers, full]

/-! ## Taking the last frame -/

theorem pop?_eq_none_iff {list : FreeList} : list.pop? = none ↔ list.size = 0 := by
  simp [pop?, size]

/-- The last frame is taken, and all others stay where they are. -/
theorem of_pop?_eq_some {list rest : FreeList} {chosen : FreeFrame}
    (h : list.pop? = some (chosen, rest)) :
    list.frames = rest.frames.push chosen ∧ rest.rule = list.rule ∧ rest.stream = list.stream := by
  obtain ⟨free, hback, heq⟩ := Option.map_eq_some_iff.1 h
  cases heq
  obtain ⟨front, hfront⟩ := Array.back?_eq_some_iff.1 hback
  refine ⟨?_, rfl, rfl⟩
  simp only [hfront, Array.pop_push]

theorem size_of_pop?_eq_some {list rest : FreeList} {chosen : FreeFrame}
    (h : list.pop? = some (chosen, rest)) : list.size = rest.size + 1 := by
  simp [size, (of_pop?_eq_some h).1]

theorem numbers_of_pop?_eq_some {list rest : FreeList} {chosen : FreeFrame}
    (h : list.pop? = some (chosen, rest)) : list.numbers = rest.numbers ++ [chosen.frame] := by
  simp [numbers, (of_pop?_eq_some h).1]

theorem mem_numbers_of_pop? {list rest : FreeList} {chosen : FreeFrame}
    (h : list.pop? = some (chosen, rest)) : chosen.frame ∈ list.numbers := by
  rw [numbers_of_pop?_eq_some h]
  exact List.mem_append_right _ List.mem_cons_self

/-! ## Selection -/

theorem takeAt?_perm {frames rest : Array FreeFrame} {index : Nat} {chosen : FreeFrame}
    (h : takeAt? frames index = some (chosen, rest)) :
    frames.toList.Perm (chosen :: rest.toList) := by
  unfold takeAt? at h
  split at h
  case isFalse => cases h
  case isTrue hinside =>
    cases h
    have hlast : frames.size - 1 < frames.size := by omega
    have hswap : (frames.swap index (frames.size - 1)).toList.Perm frames.toList :=
      (Array.swap_perm hinside hlast).toList
    have hsize : (frames.swap index (frames.size - 1)).size = frames.size := Array.size_swap
    have hpush : frames.swap index (frames.size - 1) =
        (frames.swap index (frames.size - 1)).pop.push frames[index] := by
      apply Array.ext
      · simp only [Array.size_push, Array.size_pop, hsize]
        omega
      · intro position hleft hright
        rw [Array.getElem_push]
        split
        · rw [Array.getElem_pop]
        · have hposition : position = frames.size - 1 := by
            simp only [Array.size_pop, hsize] at *
            omega
          subst hposition
          rw [Array.getElem_swap_right]
    refine hswap.symm.trans ?_
    rw [hpush, Array.toList_push, ← hpush]
    exact List.perm_append_comm

/-- The fallback rule names a position inside the list, also where it draws. -/
theorem fallbackIndex_lt {list : FreeList} (hsome : 0 < list.size) :
    list.fallbackIndex.1 < list.size := by
  unfold fallbackIndex
  cases list.rule with
  | random _ => exact list.stream.draw_lt hsome
  | mostRecent => exact Nat.sub_one_lt (Nat.ne_of_gt hsome)

/-- The position that a selection takes from lies inside the list unless the list is empty. -/
theorem exists_select? {list : FreeList} (hsome : 0 < list.size) (incoming : Holder) :
    ∃ chosen affinity rest, list.select? incoming = some (chosen, affinity, rest) := by
  have htake (index : Nat) (hinside : index < list.size) :
      ∃ chosen frames, takeAt? list.frames index = some (chosen, frames) := by
    unfold takeAt?
    rw [dif_pos (show index < list.frames.size from hinside)]
    exact ⟨_, _, rfl⟩
  unfold select?
  cases haffine : list.affine? incoming with
  | some found =>
    obtain ⟨index, affinity⟩ := found
    obtain ⟨rule, _, hrule⟩ := List.exists_of_findSome?_eq_some haffine
    obtain ⟨position, hposition, heq⟩ := Option.map_eq_some_iff.1 hrule
    cases heq
    have hinside := (Array.findIdx?_eq_some_iff_getElem.1 hposition).1
    obtain ⟨chosen, frames, htaken⟩ := htake index hinside
    simp only [htaken, Option.map_some]
    exact ⟨_, _, _, rfl⟩
  | none =>
    obtain ⟨chosen, frames, htaken⟩ := htake _ (fallbackIndex_lt hsome)
    simp only [htaken, Option.map_some]
    exact ⟨_, _, _, rfl⟩

/-- A selection takes one frame. -/
theorem select?_perm {list rest : FreeList} {incoming : Holder} {chosen : FreeFrame}
    {affinity : Affinity} (h : list.select? incoming = some (chosen, affinity, rest)) :
    list.frames.toList.Perm (chosen :: rest.frames.toList) := by
  unfold select? at h
  obtain ⟨⟨free, frames⟩, htaken, heq⟩ := Option.map_eq_some_iff.1 h
  cases heq
  exact takeAt?_perm htaken

/-- If a free frame held the incoming page last, the first such frame on the list is taken. -/
theorem select?_of_exact {list : FreeList} {incoming : Holder} {free : FreeFrame}
    (hfree : free ∈ list.frames) (hlast : free.last = some incoming) :
    ∃ chosen rest, list.frames.find? (·.last = some incoming) = some chosen ∧
      list.select? incoming = some (chosen, .exactReuse, rest) := by
  obtain ⟨index, hindex⟩ : ∃ index,
      list.frames.findIdx? (Affinity.exactReuse.admits incoming) = some index := by
    rw [← Option.ne_none_iff_exists']
    intro hnone
    have hrefused := Array.findIdx?_eq_none_iff.1 hnone free hfree
    exact Bool.false_ne_true (hrefused.symm.trans (decide_eq_true hlast))
  obtain ⟨hinside, hadmits, hbefore⟩ := Array.findIdx?_eq_some_iff_getElem.1 hindex
  have haffine : list.affine? incoming = some (index, .exactReuse) := by
    unfold affine?
    rw [List.findSome?_cons, hindex]
    rfl
  obtain ⟨rest, hselect⟩ : ∃ rest,
      list.select? incoming = some (list.frames[index], .exactReuse, rest) := by
    unfold select? takeAt?
    simp only [haffine, dif_pos hinside, Option.map_some]
    exact ⟨_, rfl⟩
  refine ⟨list.frames[index], rest, ?_, hselect⟩
  rw [Array.find?_eq_some_iff_getElem]
  refine ⟨hadmits, index, hinside, rfl, ?_⟩
  intro earlier hearlier
  simpa [Affinity.admits] using hbefore earlier hearlier

/-! ## Exchange -/

/-- Gives back the frame that a page left, and takes the one that suits the incoming page best. -/
def exchange? (list : FreeList) (incoming : Holder) (frame : FrameNumber) (leaving : Holder) :
    Option (FreeFrame × Affinity × FreeList) :=
  if list.isEmpty then
    (list.release frame leaving).select? incoming
  else
    (list.select? incoming).map fun (chosen, affinity, rest) ↦
      (chosen, affinity, rest.release frame leaving)

/-- An exchange always finds a frame: if there is no other, the one that is given back. -/
theorem exists_exchange? (list : FreeList) (incoming : Holder) (frame : FrameNumber)
    (leaving : Holder) :
    ∃ chosen affinity rest,
      list.exchange? incoming frame leaving = some (chosen, affinity, rest) := by
  unfold exchange?
  split
  · exact exists_select? (by simp) incoming
  · rename_i hempty
    have hsome : 0 < list.size := Nat.pos_of_ne_zero fun hzero ↦ hempty (isEmpty_iff.2 hzero)
    obtain ⟨chosen, affinity, rest, hselect⟩ := exists_select? hsome incoming
    rw [hselect]
    exact ⟨_, _, _, rfl⟩

/-- An exchange gives back one frame and takes one. -/
theorem exchange?_perm {list rest : FreeList} {incoming leaving : Holder}
    {frame : FrameNumber} {chosen : FreeFrame} {affinity : Affinity}
    (h : list.exchange? incoming frame leaving = some (chosen, affinity, rest)) :
    ({ frame := frame, last := some leaving } :: list.frames.toList).Perm
      (chosen :: rest.frames.toList) := by
  unfold exchange? at h
  split at h
  · have hperm := select?_perm h
    rw [toList_frames_release] at hperm
    exact (List.perm_append_singleton _ _).symm.trans hperm
  · obtain ⟨⟨_, _, left⟩, hselect, heq⟩ := Option.map_eq_some_iff.1 h
    cases heq
    have hperm := (select?_perm hselect).cons { frame := frame, last := some leaving }
    rw [toList_frames_release]
    calc
      ({ frame := frame, last := some leaving } :: list.frames.toList).Perm
          ({ frame := frame, last := some leaving } :: chosen :: left.frames.toList) := hperm
      List.Perm _ (chosen :: { frame := frame, last := some leaving } :: left.frames.toList) :=
        .swap _ _ _
      List.Perm _ (chosen :: (left.frames.toList ++ [{ frame := frame, last := some leaving }])) :=
        (List.perm_append_singleton _ _).symm.cons _

theorem exchange?_numbers_perm {list rest : FreeList} {incoming leaving : Holder}
    {frame : FrameNumber} {chosen : FreeFrame} {affinity : Affinity}
    (h : list.exchange? incoming frame leaving = some (chosen, affinity, rest)) :
    (frame :: list.numbers).Perm (chosen.frame :: rest.numbers) :=
  (exchange?_perm h).map FreeFrame.frame

/-- If a free frame held the incoming page last, an exchange takes the first such frame. -/
theorem exchange?_of_exact {list : FreeList} {incoming leaving : Holder} {frame : FrameNumber}
    {free : FreeFrame} (hfree : free ∈ list.frames) (hlast : free.last = some incoming) :
    ∃ chosen rest, list.frames.find? (·.last = some incoming) = some chosen ∧
      list.exchange? incoming frame leaving = some (chosen, .exactReuse, rest) := by
  obtain ⟨chosen, rest, hfirst, hselect⟩ := select?_of_exact hfree hlast
  have hsome : list.isEmpty = false := by
    rw [Bool.eq_false_iff, Ne, isEmpty_iff]
    exact Nat.ne_of_gt (Array.size_pos_of_mem hfree)
  refine ⟨chosen, rest.release frame leaving, hfirst, ?_⟩
  unfold exchange?
  simp only [hsome, Bool.false_eq_true, if_false, hselect, Option.map_some]

/-- An exchange keeps the number of free frames. -/
theorem size_of_exchange?_eq_some {list rest : FreeList} {incoming leaving : Holder}
    {frame : FrameNumber} {chosen : FreeFrame} {affinity : Affinity}
    (h : list.exchange? incoming frame leaving = some (chosen, affinity, rest)) :
    rest.size = list.size := by
  simpa using (exchange?_numbers_perm h).length_eq.symm

end PagedMemory.FreeList
