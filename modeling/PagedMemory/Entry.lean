/-!
# Page-table entries

An entry of a page table says whether its page is resident, whether the page was touched since the
last clock tick, and which frame holds it.  In memory it is a 16-bit word: bit 15 is the valid bit,
bit 14 the referenced bit, and bits 0 to 13 hold the frame number.  `Entry.toWord` writes that
layout and `Entry.ofWord` reads it; the two are inverse to each other, so an entry may be treated as
the record of its three fields.
-/

namespace PagedMemory

/-- Frames are numbered by 16-bit words. -/
abbrev FrameNumber := UInt16

/-- A page-table entry.  The frame field has a meaning only while the entry is valid. -/
structure Entry where
  valid : Bool := false
  referenced : Bool := false
  frameField : BitVec 14 := 0
deriving DecidableEq

namespace Entry

/-- The frame field has 14 bits, so no machine has more frames than this. -/
def frameLimit : Nat := 0x4000

/-- The entry of a page that is not resident. -/
def empty : Entry := {}

/-- The entry of a resident page.  Only the low 14 bits of the frame number are stored. -/
def mapping (frame : FrameNumber) (referenced : Bool) : Entry where
  valid := true
  referenced := referenced
  frameField := frame.toBitVec.setWidth 14

/-- The number in the frame field. -/
def frame (entry : Entry) : FrameNumber := ⟨entry.frameField.setWidth 16⟩

/-- The frame behind a valid entry. -/
def frame? (entry : Entry) : Option FrameNumber :=
  if entry.valid then some entry.frame else none

/-- Notes that the page was touched. -/
def markReferenced (entry : Entry) : Entry := { entry with referenced := true }

/-- Forgets that the page was touched. -/
def clearReferenced (entry : Entry) : Entry := { entry with referenced := false }

/-! ## Layout in memory -/

/-- The entry as a 16-bit word. -/
def toWord (entry : Entry) : UInt16 :=
  ⟨BitVec.ofBool entry.valid ++ BitVec.ofBool entry.referenced ++ entry.frameField⟩

/-- The entry that a 16-bit word stands for. -/
def ofWord (word : UInt16) : Entry where
  valid := word.toBitVec.getLsbD 15
  referenced := word.toBitVec.getLsbD 14
  frameField := word.toBitVec.setWidth 14

theorem ofWord_toWord (entry : Entry) : ofWord entry.toWord = entry := by
  obtain ⟨valid, referenced, frameField⟩ := entry
  simp only [ofWord, toWord, mk.injEq]
  refine ⟨?_, ?_, ?_⟩
  · simp only [BitVec.getLsbD_append]
    simp
  · simp only [BitVec.getLsbD_append]
    simp
  · apply BitVec.eq_of_getLsbD_eq
    intro i hi
    simp only [BitVec.getLsbD_setWidth, BitVec.getLsbD_append]
    simp [hi]

theorem toWord_ofWord (word : UInt16) : (ofWord word).toWord = word := by
  apply UInt16.toBitVec_inj.1
  apply BitVec.eq_of_getLsbD_eq
  intro i hi
  simp only [ofWord, toWord, BitVec.getLsbD_append, BitVec.getLsbD_setWidth]
  rcases (by omega : i < 14 ∨ i = 14 ∨ i = 15) with h | rfl | rfl
  · simp [h]
  · simp
  · simp

end Entry

end PagedMemory
