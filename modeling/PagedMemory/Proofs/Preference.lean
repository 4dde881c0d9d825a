import Mathlib.Tactic.Ring
import PagedMemory.Proofs.Selection

/-!
# Which frame suits an incoming page best

`FreeList.Chooses` describes the position that a selection takes from, without saying how it is
found.  Its frame meets the first rule that any free frame meets, and stands in front of all others
that meet it.  If only the fallback rule is met, the position is the last one or a drawn one, and
only a draw changes the stream.  `Affinity.Meets` says what each rule asks of the past of a frame.
`FreeList.Takes` describes what is left: the last frame fills the gap, and no other frame moves.

Both descriptions leave no choice (`Chooses.unique`, `Takes.unique`).  So what a selection gives is
all that fits them, and `FreeList.selection_exact` is an equivalence.

A draw below a bound is the bound times a fraction of two words, rounded down (`draw_eq_div`), so it
stays below the bound whatever the words are.
-/

namespace PagedMemory

open Randomness (KeyStream)

/-! ## What a draw gives -/

namespace Randomness.KeyStream

/-- The widening product of two words in a row, cut down to its high part: that of the first, and
what the second carries over. -/
theorem wideProduct_div (first second bound : Nat) :
    (first * wordCount + second) * bound / (wordCount * wordCount) =
      first * bound / wordCount +
        (first * bound % wordCount + second * bound / wordCount) / wordCount := by
  have hpos : 0 < wordCount := by decide
  calc
    (first * wordCount + second) * bound / (wordCount * wordCount)
      = (second * bound + first * bound * wordCount) / wordCount / wordCount := by
        rw [Nat.div_div_eq_div_mul]
        congr 1
        ring
    _ = (second * bound / wordCount + first * bound) / wordCount := by
        rw [Nat.add_mul_div_right _ _ hpos]
    _ = (first * bound % wordCount + second * bound / wordCount +
          first * bound / wordCount * wordCount) / wordCount := by
        have hparts := Nat.div_add_mod' (first * bound) wordCount
        congr 1
        omega
    _ = first * bound / wordCount +
          (first * bound % wordCount + second * bound / wordCount) / wordCount := by
        rw [Nat.add_mul_div_right _ _ hpos, Nat.add_comm]

/-- The number drawn below a bound is the bound times a fraction, rounded down.  The fraction has
two words; the second is taken only if the first leaves the number open. -/
theorem draw_eq_div (stream : KeyStream) {bound : Nat} (hbound : bound ≤ wordCount) :
    (stream.draw bound).1 =
      (stream.word.toNat * wordCount + stream.advance.word.toNat) * bound /
        (wordCount * wordCount) := by
  have hpos : 0 < wordCount := by decide
  have hsecond : stream.advance.word.toNat < wordCount := stream.advance.word.toNat_lt
  have hadded : stream.advance.word.toNat * bound / wordCount ≤ bound - 1 := by
    rcases Nat.eq_zero_or_pos bound with rfl | hsome
    · rw [Nat.mul_zero, Nat.zero_div]
    · apply Nat.le_sub_one_of_lt
      apply Nat.div_lt_of_lt_mul
      exact Nat.mul_lt_mul_of_pos_right hsecond hsome
  have hlow := Nat.mod_lt (stream.word.toNat * bound) hpos
  rw [wideProduct_div]
  by_cases hnear : wordCount < stream.word.toNat * bound % wordCount + bound
  · -- The second word decides whether the low part of the first product is carried over.
    by_cases hcarries : wordCount ≤ stream.word.toNat * bound % wordCount +
        stream.advance.word.toNat * bound / wordCount
    · have hone : (stream.word.toNat * bound % wordCount +
          stream.advance.word.toNat * bound / wordCount) / wordCount = 1 :=
        Nat.div_eq_of_lt_le (by omega) (by omega)
      simp only [draw, next, hnear, hcarries, if_true, hone]
    · have hnone := Nat.div_eq_of_lt (Nat.not_le.1 hcarries)
      simp only [draw, next, hnear, hcarries, if_true, if_false, hnone, Nat.add_zero]
  · -- Whatever the second word is, it adds too little to the low part.
    have hnone : (stream.word.toNat * bound % wordCount +
        stream.advance.word.toNat * bound / wordCount) / wordCount = 0 :=
      Nat.div_eq_of_lt (by omega)
    simp only [draw, next, hnear, if_false, hnone, Nat.add_zero]

end Randomness.KeyStream

/-! ## What a rule asks -/

namespace Affinity

/-- The place of a rule in the order in which they are tried. -/
def order : Affinity → Nat
  | exactReuse => 0
  | unowned => 1
  | sameOwner => 2
  | fallback => 3

theorem order_injective : Function.Injective order := by
  intro affinity affinity' hsame
  cases affinity <;> cases affinity' <;> first | rfl | cases hsame

/-- What the rule asks of the past of a free frame. -/
def Meets (affinity : Affinity) (incoming : Holder) (free : FreeFrame) : Prop :=
  match affinity with
  | exactReuse => free.last = some incoming
  | unowned => free.last = none
  | sameOwner => ∃ page, free.last = some ⟨incoming.process, page⟩
  | fallback => True

theorem admits_iff_meets {affinity : Affinity} {incoming : Holder} {free : FreeFrame} :
    affinity.admits incoming free = true ↔ affinity.Meets incoming free := by
  cases affinity with
  | exactReuse => simp [admits, Meets]
  | unowned => simp [admits, Meets]
  | sameOwner =>
    cases hlast : free.last with
    | none => simp [admits, Meets, hlast]
    | some holder =>
      simp only [admits, Meets, hlast, Option.any_some, decide_eq_true_eq, Option.some.injEq]
      constructor
      · intro hsame
        exact ⟨holder.page, by rw [← hsame]⟩
      · rintro ⟨_, rfl⟩
        rfl
  | fallback => simp [admits, Meets]

end Affinity

namespace FreeList

/-! ## Which frame -/

/-- No rule of affinity picks a frame, and the choice among all of them is left to chance. -/
def LeftToChance (list : FreeList) (affinity : Affinity) : Prop :=
  affinity = .fallback ∧ ∃ seed, list.rule = .random seed

/-- The position that suits an incoming page best, the rule by which it does, and the stream behind
the choice. -/
structure Chooses (list : FreeList) (incoming : Holder) (index : Nat) (affinity : Affinity)
    (after : KeyStream) : Prop where
  /-- The position lies inside the list, and its frame meets the rule. -/
  meets : ∃ chosen, list.frames[index]? = some chosen ∧ affinity.Meets incoming chosen
  /-- No frame meets a rule that is tried before. -/
  first_rule : ∀ earlier : Affinity, earlier.order < affinity.order → ∀ free ∈ list.frames,
    ¬ earlier.Meets incoming free
  /-- Unless it is the fallback rule, no frame further in front meets the rule either. -/
  first_frame : affinity ≠ .fallback → ∀ earlier < index, ∀ free,
    list.frames[earlier]? = some free → ¬ affinity.Meets incoming free
  /-- The fallback rule that does not draw takes the frame that was freed last. -/
  last_frame : affinity = .fallback → list.rule = .mostRecent → index + 1 = list.size
  /-- A draw chooses the position and takes words from the stream. -/
  drawn : list.LeftToChance affinity → (index, after) = list.stream.draw list.size
  /-- Nothing else does. -/
  undrawn : ¬ list.LeftToChance affinity → after = list.stream

/-- What is left when the frame at a position is taken: the last frame moves to its place. -/
structure Takes (frames : Array FreeFrame) (index : Nat) (chosen : FreeFrame)
    (rest : Array FreeFrame) : Prop where
  chosen : frames[index]? = some chosen
  size : rest.size + 1 = frames.size
  filled : ∀ position < rest.size, rest[position]? =
    if position = index then frames.back? else frames[position]?

section Choice

variable {list : FreeList} {incoming : Holder} {index index' : Nat} {affinity affinity' : Affinity}
  {after after' : KeyStream}

theorem Chooses.order_le (h : list.Chooses incoming index affinity after)
    (h' : list.Chooses incoming index' affinity' after') : affinity.order ≤ affinity'.order := by
  apply Nat.le_of_not_lt
  intro hbefore
  obtain ⟨free, hfree, hmeets⟩ := h'.meets
  exact h.first_rule affinity' hbefore free (Array.mem_of_getElem? hfree) hmeets

theorem Chooses.index_le (h : list.Chooses incoming index affinity after)
    (h' : list.Chooses incoming index' affinity' after') (hsame : affinity = affinity')
    (haffine : affinity ≠ .fallback) : index ≤ index' := by
  apply Nat.le_of_not_lt
  intro hbefore
  obtain ⟨free, hfree, hmeets⟩ := h'.meets
  exact h.first_frame haffine index' hbefore free hfree (hsame ▸ hmeets)

/-- Only one position suits best. -/
theorem Chooses.unique (h : list.Chooses incoming index affinity after)
    (h' : list.Chooses incoming index' affinity' after') :
    index = index' ∧ affinity = affinity' ∧ after = after' := by
  -- Each of the two is tried no later than the other, so they are the same rule.
  have horder := Nat.le_antisymm (h.order_le h') (h'.order_le h)
  obtain rfl : affinity = affinity' := Affinity.order_injective horder
  by_cases hchance : list.LeftToChance affinity
  · obtain ⟨hindex, hafter⟩ := Prod.mk.inj ((h.drawn hchance).trans (h'.drawn hchance).symm)
    exact ⟨hindex, rfl, hafter⟩
  · refine ⟨?_, rfl, (h.undrawn hchance).trans (h'.undrawn hchance).symm⟩
    by_cases hfallback : affinity = .fallback
    · cases hrule : list.rule with
      | mostRecent =>
        have hlast := (h.last_frame hfallback hrule).trans (h'.last_frame hfallback hrule).symm
        exact Nat.succ.inj hlast
      | random seed => exact absurd ⟨hfallback, seed, hrule⟩ hchance
    · exact Nat.le_antisymm (h.index_le h' rfl hfallback) (h'.index_le h rfl hfallback)

/-- The first rule on a list that picks a frame is preceded only by rules that pick none. -/
theorem of_findSome?_findIdx? {rules : List Affinity}
    (hordered : rules.Pairwise fun left right ↦ left.order < right.order)
    (h : (rules.findSome? fun affinity ↦
      (list.frames.findIdx? (affinity.admits incoming)).map fun index ↦ (index, affinity)) =
        some (index, affinity)) :
    affinity ∈ rules ∧ list.frames.findIdx? (affinity.admits incoming) = some index ∧
      ∀ earlier ∈ rules, earlier.order < affinity.order →
        list.frames.findIdx? (earlier.admits incoming) = none := by
  obtain ⟨before, rule, behind, rfl, hrule, hbefore⟩ := List.findSome?_eq_some_iff.1 h
  obtain ⟨position, hposition, hpair⟩ := Option.map_eq_some_iff.1 hrule
  obtain ⟨rfl, rfl⟩ := Prod.mk.inj hpair
  refine ⟨by simp, hposition, ?_⟩
  intro earlier hearlier hless
  rcases List.mem_append.1 hearlier with hfront | hback
  · exact Option.map_eq_none_iff.1 (hbefore earlier hfront)
  · have hrules := (List.pairwise_append.1 hordered).2.1
    rcases List.mem_cons.1 hback with rfl | hbehind
    · exact absurd hless (Nat.lt_irrefl _)
    · exact absurd hless ((List.pairwise_cons.1 hrules).1 earlier hbehind).asymm

theorem findIdx?_eq_none_iff_meets : list.frames.findIdx? (affinity.admits incoming) = none ↔
    ∀ free ∈ list.frames, ¬ affinity.Meets incoming free := by
  simp only [Array.findIdx?_eq_none_iff, ← Affinity.admits_iff_meets, Bool.not_eq_true]

/-- A rule of affinity picks its first frame, if no rule before it picks any. -/
theorem chooses_of_affine? (h : list.affine? incoming = some (index, affinity)) :
    list.Chooses incoming index affinity list.stream := by
  have hordered : [Affinity.exactReuse, .unowned, .sameOwner].Pairwise
      fun left right ↦ left.order < right.order := by decide
  obtain ⟨hrule, hindex, hbefore⟩ := of_findSome?_findIdx? hordered h
  obtain ⟨hinside, hadmits, hfirst⟩ := Array.findIdx?_eq_some_iff_getElem.1 hindex
  have haffine : affinity ≠ .fallback := by
    rintro rfl
    revert hrule
    decide
  have hchance : ¬ list.LeftToChance affinity := fun hchance ↦ haffine hchance.1
  constructor
  case meets =>
    exact ⟨list.frames[index], Array.getElem?_eq_getElem hinside,
      Affinity.admits_iff_meets.1 hadmits⟩
  case first_rule =>
    intro earlier hless
    apply findIdx?_eq_none_iff_meets.1
    apply hbefore earlier _ hless
    revert hless hrule
    cases affinity <;> cases earlier <;> decide
  case first_frame =>
    intro _ earlier hearlier free hfree hmeets
    obtain ⟨_, rfl⟩ := Array.getElem?_eq_some_iff.1 hfree
    exact hfirst earlier hearlier (Affinity.admits_iff_meets.2 hmeets)
  case last_frame => exact fun hfallback ↦ absurd hfallback haffine
  case drawn => exact fun hdrawn ↦ absurd hdrawn hchance
  case undrawn => exact fun _ ↦ rfl

/-- Where no rule of affinity picks a frame, the fallback rule picks one of all of them. -/
theorem chooses_of_affine?_none (hsome : 0 < list.size) (h : list.affine? incoming = none) :
    list.Chooses incoming list.fallbackIndex.1 .fallback list.fallbackIndex.2 := by
  constructor
  case meets => exact ⟨_, Array.getElem?_eq_getElem (fallbackIndex_lt hsome), trivial⟩
  case first_rule =>
    intro earlier hless
    apply findIdx?_eq_none_iff_meets.1
    have hnone := List.findSome?_eq_none_iff.1 h earlier
    rw [Option.map_eq_none_iff] at hnone
    apply hnone
    revert hless
    cases earlier <;> decide
  case first_frame => exact fun hother ↦ absurd rfl hother
  case last_frame =>
    intro _ hrule
    simp only [fallbackIndex, hrule]
    omega
  case drawn =>
    rintro ⟨_, seed, hrule⟩
    simp only [fallbackIndex, hrule]
  case undrawn =>
    intro hchance
    unfold fallbackIndex
    cases hrule : list.rule with
    | random seed => exact absurd ⟨rfl, seed, hrule⟩ hchance
    | mostRecent => rfl

end Choice

/-! ## What is left -/

section Rest

variable {frames rest rest' : Array FreeFrame} {index : Nat} {chosen chosen' : FreeFrame}

theorem takes_of_takeAt? (h : takeAt? frames index = some (chosen, rest)) :
    Takes frames index chosen rest := by
  unfold takeAt? at h
  split at h
  case isFalse => cases h
  case isTrue hinside =>
    obtain ⟨rfl, rfl⟩ := Prod.mk.inj (Option.some.inj h)
    constructor
    case chosen => exact Array.getElem?_eq_getElem hinside
    case size =>
      rw [Array.size_pop, Array.size_swap]
      omega
    case filled =>
      intro position hposition
      rw [Array.size_pop, Array.size_swap] at hposition
      rw [Array.getElem?_pop, Array.size_swap, if_pos hposition, Array.getElem?_swap,
        if_neg (Nat.ne_of_gt hposition), Array.back?_eq_getElem?]
      by_cases hgap : position = index
      · rw [if_pos hgap, if_pos hgap.symm, Array.getElem?_eq_getElem]
      · rw [if_neg hgap, if_neg (Ne.symm hgap)]

theorem Takes.unique (h : Takes frames index chosen rest) (h' : Takes frames index chosen' rest') :
    chosen = chosen' ∧ rest = rest' := by
  refine ⟨Option.some.inj (h.chosen.symm.trans h'.chosen), ?_⟩
  have hsize : rest.size = rest'.size := Nat.succ.inj (h.size.trans h'.size.symm)
  apply Array.ext_getElem?
  intro position
  by_cases hposition : position < rest.size
  · rw [h.filled position hposition, h'.filled position (hsize ▸ hposition)]
  · rw [Array.getElem?_eq_none (by omega), Array.getElem?_eq_none (by omega)]

end Rest

variable {list rest : FreeList} {incoming : Holder} {chosen : FreeFrame} {affinity : Affinity}

theorem exists_of_select? (h : list.select? incoming = some (chosen, affinity, rest)) :
    ∃ index, list.Chooses incoming index affinity rest.stream ∧
      Takes list.frames index chosen rest.frames ∧ rest.rule = list.rule := by
  unfold select? at h
  cases haffine : list.affine? incoming with
  | some found =>
    obtain ⟨index, rule⟩ := found
    rw [haffine] at h
    obtain ⟨⟨free, frames⟩, htaken, heq⟩ := Option.map_eq_some_iff.1 h
    cases heq
    exact ⟨index, chooses_of_affine? haffine, takes_of_takeAt? htaken, rfl⟩
  | none =>
    rw [haffine] at h
    obtain ⟨⟨free, frames⟩, htaken, heq⟩ := Option.map_eq_some_iff.1 h
    cases heq
    have htakes := takes_of_takeAt? htaken
    have hsome : 0 < list.size := by
      have hsize : frames.size + 1 = list.size := htakes.size
      omega
    exact ⟨_, chooses_of_affine?_none hsome haffine, htakes, rfl⟩

theorem select?_eq_none_iff : list.select? incoming = none ↔ list.size = 0 := by
  constructor
  · intro hnone
    by_contra hsome
    obtain ⟨chosen, affinity, rest, hselect⟩ :=
      exists_select? (Nat.pos_of_ne_zero hsome) incoming
    rw [hnone] at hselect
    cases hselect
  · intro hempty
    cases hselect : list.select? incoming with
    | none => rfl
    | some found =>
      obtain ⟨chosen, affinity, rest⟩ := found
      obtain ⟨index, _, htakes, _⟩ := exists_of_select? hselect
      have hsize : rest.frames.size + 1 = list.size := htakes.size
      omega

theorem select?_eq_some_iff : list.select? incoming = some (chosen, affinity, rest) ↔
    ∃ index, list.Chooses incoming index affinity rest.stream ∧
      Takes list.frames index chosen rest.frames ∧ rest.rule = list.rule := by
  refine ⟨exists_of_select?, ?_⟩
  rintro ⟨index, hchooses, htakes, hrule⟩
  -- A selection gives something, and what fits the descriptions is what it gives.
  have hsome : list.size ≠ 0 := by
    have hsize : rest.frames.size + 1 = list.size := htakes.size
    omega
  obtain ⟨chosen', affinity', rest', hselect⟩ := exists_select? (Nat.pos_of_ne_zero hsome) incoming
  obtain ⟨index', hchooses', htakes', hrule'⟩ := exists_of_select? hselect
  obtain ⟨rfl, rfl, hstream⟩ := hchooses.unique hchooses'
  obtain ⟨rfl, hframes⟩ := htakes.unique htakes'
  have hrest : rest = rest' := by
    cases rest
    cases rest'
    rw [mk.injEq]
    exact ⟨hframes, hrule.trans hrule'.symm, hstream⟩
  rw [hselect, hrest]

/-- A selection fails on the empty list only.  It takes the first frame that meets the first rule
that any frame meets, or else the frame that was freed last or a drawn one, and fills the gap with
the last frame of the list.  Nothing is lost, and the stream moves on only if the frame was drawn.
A draw takes the position at a fraction of the list, which has two words. -/
theorem selection_exact (list : FreeList) (incoming : Holder) :
    (list.select? incoming = none ↔ list.size = 0) ∧
    (∀ chosen affinity rest, list.select? incoming = some (chosen, affinity, rest) ↔
      ∃ index, list.Chooses incoming index affinity rest.stream ∧
        Takes list.frames index chosen rest.frames ∧ rest.rule = list.rule) ∧
    (∀ chosen affinity rest, list.select? incoming = some (chosen, affinity, rest) →
      list.frames.toList.Perm (chosen :: rest.frames.toList)) ∧
    (list.size ≤ 2 ^ 32 → (list.stream.draw list.size).1 =
      (list.stream.word.toNat * 2 ^ 32 + list.stream.advance.word.toNat) * list.size / 2 ^ 64) :=
  ⟨select?_eq_none_iff, fun _ _ _ ↦ select?_eq_some_iff, fun _ _ _ ↦ select?_perm,
    list.stream.draw_eq_div⟩

/-- Six frames that process `0` held. -/
def strangers : FreeList where
  frames := Array.ofFn fun frame : Fin 6 ↦ ⟨UInt16.ofNat frame, some ⟨0, 10 + frame⟩⟩
  rule := .random 0
  stream := .ofSeed 0

/-- What is left of them when frame `4` is taken. -/
def strangersLeft : FreeList where
  frames := #[⟨0, some ⟨0, 10⟩⟩, ⟨1, some ⟨0, 11⟩⟩, ⟨2, some ⟨0, 12⟩⟩, ⟨3, some ⟨0, 13⟩⟩,
    ⟨5, some ⟨0, 15⟩⟩]
  rule := .random 0
  stream := ⟨(KeyStream.ofSeed 0).key, 1⟩

theorem selection_exact_strangers :
    strangers.select? ⟨1, 14⟩ = some (⟨4, some ⟨0, 14⟩⟩, .fallback, strangersLeft) ∧
      strangers.Chooses ⟨1, 14⟩ 4 .fallback strangersLeft.stream ∧
      strangers.frames.toList.Perm (⟨4, some ⟨0, 14⟩⟩ :: strangersLeft.frames.toList) ∧
      strangers.size ≤ 2 ^ 32 ∧ (strangers.stream.draw strangers.size).1 =
        (strangers.stream.word.toNat * 2 ^ 32 + strangers.stream.advance.word.toNat) *
          strangers.size / 2 ^ 64 := by
  obtain ⟨-, hiff, hperm, hdraw⟩ := selection_exact strangers ⟨1, 14⟩
  have hselect : strangers.select? ⟨1, 14⟩ =
      some (⟨4, some ⟨0, 14⟩⟩, .fallback, strangersLeft) := by decide +kernel
  obtain ⟨index, hchooses, -, -⟩ := (hiff _ _ _).1 hselect
  have hdrawn : (strangers.stream.draw strangers.size).1 = 4 := by decide +kernel
  have hchance : strangers.LeftToChance .fallback := ⟨rfl, 0, rfl⟩
  obtain rfl : index = 4 := (congrArg Prod.fst (hchooses.drawn hchance)).trans hdrawn
  have hsmall : strangers.size ≤ 2 ^ 32 := by decide
  exact ⟨hselect, hchooses, hperm _ _ _ hselect, hsmall, hdraw hsmall⟩

end FreeList

end PagedMemory
