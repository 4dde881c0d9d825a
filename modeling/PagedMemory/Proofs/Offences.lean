import PagedMemory.Proofs.Fields
import PagedMemory.Proofs.Spacing

/-!
# The first offending word

The counts at the beginning of a workload say which further words it needs, and what for.
`Workload.Asks` lists them, with their places counted from one.  A place offends if no word stands
there, or none that denotes a number.

Where reading fails, it fails at the first place that is asked for and offends.
`Workload.error_at_first_offence` says what the error then tells, and that nothing behind that place
matters.
-/

namespace PagedMemory.Workload

variable {words : List (List Char)} {position : Nat} {field : Field} {text : List Char}
  {reason : ReadError}

/-- The first two words denote the number of processes and of searches for each. -/
def Counts (words : List (List Char)) (count searches : Nat) : Prop :=
  ∃ word word', words.take 2 = [word, word'] ∧ Numeral.Denotes word count ∧
    Numeral.Denotes word' searches

/-- The workload needs a number for this field, at this place among its words. -/
inductive Asks (words : List (List Char)) : Nat → Field → Prop
  | processCount : Asks words 1 .processCount
  | searchesPerProcess : Asks words 2 .searchesPerProcess
  | arraySize {count searches process : Nat} (hcounts : Counts words count searches)
      (hprocess : process < count) :
      Asks words (3 + process * (searches + 1)) (.arraySize process)
  | key {count searches process search : Nat} (hcounts : Counts words count searches)
      (hprocess : process < count) (hsearch : search < searches) :
      Asks words (4 + process * (searches + 1) + search) (.key search process)

/-- At the place, counted from one, there is no word or none that denotes a number. -/
def Offends (words : List (List Char)) (position : Nat) : Prop := ¬ Filled words (position - 1)

/-- Among the places that are asked for this is the first that offends. -/
structure FirstOffence (words : List (List Char)) (position : Nat) (field : Field) : Prop where
  asked : Asks words position field
  offends : Offends words position
  least : ∀ earlier field', Asks words earlier field' → Offends words earlier → position ≤ earlier

/-! ## Places -/

theorem Asks.pos (h : Asks words position field) : 0 < position := by
  cases h <;> omega

theorem Counts.unique {count searches count' searches' : Nat} (h : Counts words count searches)
    (h' : Counts words count' searches') : count = count' ∧ searches = searches' := by
  obtain ⟨_, _, htake, hcount, hsearches⟩ := h
  obtain ⟨_, _, htake', hcount', hsearches'⟩ := h'
  rw [htake] at htake'
  cases htake'
  exact ⟨hcount.unique hcount', hsearches.unique hsearches'⟩

/-- The fields of the counts are asked for at the places in front. -/
theorem asks_iff_countFields {index : Nat} (hfront : index < 2) :
    Asks words (index + 1) field ↔ countFields[index]? = some field := by
  constructor
  · intro hasks
    generalize hposition : index + 1 = position at hasks
    cases hasks with
    | processCount =>
      cases hposition
      rfl
    | searchesPerProcess =>
      cases hposition
      rfl
    | arraySize => omega
    | key => omega
  · intro hfield
    obtain rfl | rfl : index = 0 ∨ index = 1 := by omega
    · cases hfield
      exact .processCount
    · cases hfield
      exact .searchesPerProcess

/-- The fields of the processes are asked for at the places behind the counts. -/
theorem asks_iff_fieldsFrom {count searches index : Nat} (hcounts : Counts words count searches) :
    Asks words (index + 3) field ↔ (fieldsFrom searches 0 count)[index]? = some field := by
  simp only [getElem?_fieldsFrom, Nat.zero_add, getElem?_processFields]
  constructor
  · intro hasks
    generalize hposition : index + 3 = position at hasks
    cases hasks with
    | processCount => omega
    | searchesPerProcess => omega
    | arraySize hcounts' hprocess =>
      obtain ⟨rfl, rfl⟩ := hcounts.unique hcounts'
      exact ⟨_, hprocess, 0, by omega, .inl ⟨rfl, rfl⟩⟩
    | @key _ _ _ search hcounts' hprocess hsearch =>
      obtain ⟨rfl, rfl⟩ := hcounts.unique hcounts'
      exact ⟨_, hprocess, search + 1, by omega, .inr ⟨search, hsearch, rfl, rfl⟩⟩
  · rintro ⟨process, hprocess, offset, rfl, ⟨rfl, rfl⟩ | ⟨search, hsearch, rfl, rfl⟩⟩
    · rw [Nat.add_zero, Nat.add_comm]
      exact .arraySize hcounts hprocess
    · have hplace : process * (searches + 1) + (search + 1) + 3 =
          4 + process * (searches + 1) + search := by omega
      rw [hplace]
      exact .key hcounts hprocess hsearch

/-! ## Errors -/

/-- The first two words are counts exactly if both denote numbers. -/
theorem exists_counts_iff :
    (∃ count searches, Counts words count searches) ↔ ∀ index < 2, Filled words index := by
  constructor
  · rintro ⟨count, searches, word, word', htake, hcount, hsearches⟩ index hfront
    have hsame : words[index]? = [word, word'][index]? := by
      rw [← htake, List.getElem?_take_of_lt hfront]
    obtain rfl | rfl : index = 0 ∨ index = 1 := by omega
    · exact ⟨word, count, hsame, hcount⟩
    · exact ⟨word', searches, hsame, hsearches⟩
  · intro hfilled
    obtain ⟨word, count, hword, hcount⟩ := hfilled 0 (by decide)
    obtain ⟨word', searches, hword', hsearches⟩ := hfilled 1 (by decide)
    refine ⟨count, searches, word, word', ?_, hcount, hsearches⟩
    rw [List.take_add_one, List.take_add_one, hword, hword']
    rfl

theorem readCounts_eq_ok_iff_counts {count searches : Nat} {cursor : Cursor} :
    readCounts { words } = .ok ((count, searches), cursor) ↔
      Counts words count searches ∧ cursor = ⟨2, words.drop 2⟩ := by
  rw [readCounts_eq_ok_iff]
  constructor
  · rintro ⟨word, word', rest, rfl, hword, hword', rfl⟩
    exact ⟨⟨word, word', rfl, hword, hword'⟩, rfl⟩
  · rintro ⟨⟨word, word', htake, hword, hword'⟩, rfl⟩
    refine ⟨word, word', words.drop 2, ?_, hword, hword', rfl⟩
    rw [← List.take_append_drop 2 words, htake]
    rfl

/-- The words in front of a place are the two counts and those behind them. -/
theorem Counts.filled_iff {count searches index : Nat} (h : Counts words count searches) :
    (∀ earlier < index + 2, Filled words earlier) ↔
      ∀ earlier < index, Filled (words.drop 2) earlier := by
  simp only [filled_drop_iff]
  constructor
  · intro hfilled earlier hearlier
    exact hfilled (earlier + 2) (Nat.add_lt_add_right hearlier 2)
  · intro hfilled earlier hearlier
    by_cases hfront : earlier < 2
    · exact exists_counts_iff.1 ⟨count, searches, h⟩ earlier hfront
    · obtain ⟨earlier, rfl⟩ := Nat.exists_eq_add_of_le' (Nat.not_lt.1 hfront)
      exact hfilled earlier (Nat.lt_of_add_lt_add_right hearlier)

/-- Reading fails exactly at the first place that offends, if it is asked for and room was set aside
for the processes before. -/
theorem read_eq_error_iff : read text = .error reason ↔ ∃ index field,
    Asks (Text.words text) (index + 1) field ∧
      (∀ count searches, Counts (Text.words text) count searches → 2 ≤ index →
        count < processLimit) ∧
      (∀ earlier < index, Filled (Text.words text) earlier) ∧
      fault? field (index + 1) (Text.words text)[index]? = some reason := by
  generalize hwords : Text.words text = words
  have hbehind (index : Nat) : (words.drop 2)[index]? = words[index + 2]? := by
    rw [List.getElem?_drop, Nat.add_comm]
  simp only [read_eq_error_iff_loops, hwords, readCounts_eq_error_iff,
    readCounts_eq_ok_iff_counts, readProcesses_eq_error_iff]
  constructor
  · rintro (⟨index, field, hfield, hfilled, hfault⟩ |
      ⟨count, searches, _, ⟨hcounts, rfl⟩, hlimit, index, field, hfield, hfilled, hfault⟩)
    · have hfront : index < 2 := (List.getElem?_eq_some_iff.1 hfield).1
      rw [Nat.zero_add] at hfault
      exact ⟨index, field, (asks_iff_countFields hfront).2 hfield, by omega, hfilled, hfault⟩
    · refine ⟨index + 2, field, (asks_iff_fieldsFrom hcounts).2 hfield, ?_, ?_, ?_⟩
      · intro count' searches' hcounts' _
        rwa [(hcounts'.unique hcounts).1]
      · exact hcounts.filled_iff.2 hfilled
      · rwa [hbehind, Nat.add_comm 2] at hfault
  · rintro ⟨index, field, hasks, hlimit, hfilled, hfault⟩
    by_cases hfront : index < 2
    · refine .inl ⟨index, field, (asks_iff_countFields hfront).1 hasks, hfilled, ?_⟩
      rwa [Nat.zero_add]
    · obtain ⟨index, rfl⟩ := Nat.exists_eq_add_of_le' (Nat.not_lt.1 hfront)
      obtain ⟨count, searches, hcounts⟩ := exists_counts_iff.2 fun earlier hearlier ↦
        hfilled earlier (by omega)
      refine .inr ⟨count, searches, _, ⟨hcounts, rfl⟩, hlimit count searches hcounts (by omega),
        index, field, (asks_iff_fieldsFrom hcounts).1 hasks, ?_, ?_⟩
      · exact hcounts.filled_iff.1 hfilled
      · rwa [hbehind, Nat.add_comm 2]

/-! ## What comes behind -/

theorem Counts.congr {words' : List (List Char)} (hsame : words'.take 2 = words.take 2)
    {count searches : Nat} : Counts words' count searches ↔ Counts words count searches := by
  unfold Counts
  rw [hsame]

theorem take_eq_of_le {words' : List (List Char)} {count : Nat}
    (hsame : words'.take position = words.take position) (hle : count ≤ position) :
    words'.take count = words.take count := by
  rw [← Nat.min_eq_left hle, ← List.take_take, hsame, List.take_take]

theorem getElem?_eq_of_take {words' : List (List Char)} {index : Nat}
    (hsame : words'.take position = words.take position) (hless : index < position) :
    words'[index]? = words[index]? := by
  rw [← List.getElem?_take_of_lt hless, hsame, List.getElem?_take_of_lt hless]

/-- Whether a place is asked for depends on the words in front of it. -/
theorem Asks.congr {words' : List (List Char)} (h : Asks words position field)
    (hsame : words'.take position = words.take position) : Asks words' position field := by
  cases h with
  | processCount => exact .processCount
  | searchesPerProcess => exact .searchesPerProcess
  | arraySize hcounts hprocess =>
    exact .arraySize ((Counts.congr (take_eq_of_le hsame (by omega))).2 hcounts) hprocess
  | key hcounts hprocess hsearch =>
    exact .key ((Counts.congr (take_eq_of_le hsame (by omega))).2 hcounts) hprocess hsearch

/-- An error is the same for all texts that begin with the same words, up to that of the error. -/
theorem read_error_congr {other : List Char} {index : Nat}
    (hasks : Asks (Text.words text) (index + 1) field)
    (hlimit : ∀ count searches, Counts (Text.words text) count searches → 2 ≤ index →
      count < processLimit)
    (hfilled : ∀ earlier < index, Filled (Text.words text) earlier)
    (hfault : fault? field (index + 1) (Text.words text)[index]? = some reason)
    (hsame : (Text.words other).take (index + 1) = (Text.words text).take (index + 1)) :
    read other = .error reason := by
  refine read_eq_error_iff.2 ⟨index, field, hasks.congr hsame, ?_, ?_, ?_⟩
  · intro count searches hcounts hbehind
    have htake := take_eq_of_le hsame (Nat.le_succ_of_le hbehind)
    exact hlimit count searches ((Counts.congr htake).1 hcounts) hbehind
  · intro earlier hearlier
    unfold Filled
    rw [getElem?_eq_of_take hsame (by omega)]
    exact hfilled earlier hearlier
  · rwa [getElem?_eq_of_take hsame (by omega)]

/-! ## What the error tells -/

/-- If everything in front of it is filled, a place that offends is the first to do so. -/
theorem firstOffence_of_filled {index : Nat} (hasks : Asks words (index + 1) field)
    (hoffends : ¬ Filled words index) (hfilled : ∀ earlier < index, Filled words earlier) :
    FirstOffence words (index + 1) field where
  asked := hasks
  offends := hoffends
  least earlier field' hasks' hoffends' := by
    by_contra hless
    have hpos := hasks'.pos
    exact hoffends' (hfilled (earlier - 1) (by omega))

/-- Everything in front of the first missing word is there. -/
theorem length_eq_of_filled {index : Nat} (hfilled : ∀ earlier < index, Filled words earlier)
    (hmissing : words[index]? = none) : words.length = index := by
  apply Nat.le_antisymm (List.getElem?_eq_none_iff.1 hmissing)
  by_contra hshort
  obtain ⟨word, _, hword, _⟩ := hfilled words.length (Nat.not_le.1 hshort)
  rw [List.getElem?_length] at hword
  cases hword

/-- A word that denotes no number is quoted, and its flaw is told. -/
theorem chain_of_fault? {word : List Char} (hsome : word ≠ [])
    (hfault : fault? field position (some word) = some reason) : ∃ cause,
      reason.chain = [s!"invalid {field.describe} {Text.quote word} (token {position})", cause] ∧
      (Numeral.MeetsNonDigit word ∧ cause = "invalid digit found in string" ∨
        ¬ Numeral.MeetsNonDigit word ∧ cause = "number too large to fit in target type") := by
  unfold fault? at hfault
  cases hread : Numeral.read word with
  | ok value => simp [hread] at hfault
  | error flaw =>
    simp only [hread, Option.some.injEq] at hfault
    subst hfault
    refine ⟨flaw.describe, rfl, ?_⟩
    rcases Numeral.flaw_of_read hsome hread with ⟨rfl, hmeets⟩ | ⟨rfl, hmeets⟩
    · exact .inl ⟨hmeets, rfl⟩
    · exact .inr ⟨hmeets, rfl⟩

/-- Where reading fails, it fails at the first place that offends.  The error names the field and
the place, and quotes the word if there is one.  What the words behind that place are does not
matter. -/
theorem error_at_first_offence (hfailed : read text = .error reason) :
    ∃ position field, FirstOffence (Text.words text) position field ∧
      ((Text.words text)[position - 1]? = none →
        position = (Text.words text).length + 1 ∧ reason.chain =
          [s!"unexpected end of input, expected {field.describe} (token {position})"]) ∧
      (∀ word, (Text.words text)[position - 1]? = some word → ∃ cause,
        reason.chain =
          [s!"invalid {field.describe} {Text.quote word} (token {position})", cause] ∧
        (Numeral.MeetsNonDigit word ∧ cause = "invalid digit found in string" ∨
          ¬ Numeral.MeetsNonDigit word ∧ cause = "number too large to fit in target type")) ∧
      ∀ other, (Text.words other).take position = (Text.words text).take position →
        read other = .error reason := by
  obtain ⟨index, field, hasks, hlimit, hfilled, hfault⟩ := read_eq_error_iff.1 hfailed
  have hoffends : ¬ Filled (Text.words text) index := by
    rw [← fault?_eq_none_iff, hfault]
    exact nofun
  refine ⟨index + 1, field, firstOffence_of_filled hasks hoffends hfilled, ?_, ?_, ?_⟩
  · intro hmissing
    rw [Nat.add_sub_cancel] at hmissing
    rw [hmissing] at hfault
    cases hfault
    exact ⟨by rw [length_eq_of_filled hfilled hmissing], rfl⟩
  · intro word hword
    rw [Nat.add_sub_cancel] at hword
    rw [hword] at hfault
    exact chain_of_fault? (Text.ne_nil_of_mem_pieces (List.mem_of_getElem? hword)) hfault
  · intro other hsame
    exact read_error_congr hasks hlimit hfilled hfault hsame

/-- A key that leaves the range before it turns out not to be a number at all, and a word behind it
that is none either. -/
def overlong : List Char := "1 3 8 +4 18446744073709551616x y".toList

/-- What is wrong with it. -/
def overlongKey : ReadError :=
  .malformed (.key 1 0) "18446744073709551616x".toList 5 .tooLarge

theorem error_at_first_offence_overlong :
    read overlong = .error overlongKey ∧
      overlongKey.chain = ["invalid key 1 of process 0 \"18446744073709551616x\" (token 5)",
        "number too large to fit in target type"] ∧
      ∃ position field, FirstOffence (Text.words overlong) position field ∧
        ∀ other, (Text.words other).take position = (Text.words overlong).take position →
          read other = .error overlongKey := by
  have hfailed : read overlong = .error overlongKey := by decide +kernel
  obtain ⟨position, field, hfirst, _, _, hsame⟩ := error_at_first_offence hfailed
  exact ⟨hfailed, by decide +kernel, position, field, hfirst, hsame⟩

end PagedMemory.Workload
