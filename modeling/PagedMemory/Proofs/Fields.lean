import Mathlib.Data.List.Forall2
import PagedMemory.Proofs.Numerals
import PagedMemory.Workload

/-!
# Field by field

A workload is read in loops within loops.  What the loops ask for is one list of fields, and reading
takes one word for each of them, in order.  `Cursor.nextAll` reads a list of fields that is given in
advance, and the loops are shown to do the same with theirs.

What becomes of such a list is plain.  By `Cursor.nextAll_eq_ok_iff` it is read exactly if the words
in front of the cursor denote its values, and by `Cursor.nextAll_eq_error_iff` it fails exactly at
the first field whose word is missing or denotes nothing.
-/

namespace PagedMemory

/-- The numbers that describe a process, in the order in which they are written. -/
def ProcessSpec.numbers (spec : ProcessSpec) : List Nat := spec.arraySize :: spec.keys.toList

theorem ProcessSpec.numbers_injective : Function.Injective ProcessSpec.numbers := by
  intro spec spec' hnumbers
  obtain ⟨hsize, hkeys⟩ := List.cons.inj hnumbers
  cases spec
  cases spec'
  exact congr (congrArg ProcessSpec.mk hsize) (Array.toList_inj.1 hkeys)

namespace Workload

/-! ## The fields of a workload -/

/-- The two fields at the beginning. -/
def countFields : List Field := [.processCount, .searchesPerProcess]

/-- The fields of one process. -/
def processFields (searches process : Nat) : List Field :=
  .arraySize process :: (List.range searches).map (Field.key · process)

/-- The fields of several processes, the first of which has the given number. -/
def fieldsFrom (searches first count : Nat) : List Field :=
  (List.range' first count).flatMap (processFields searches)

theorem length_processFields (searches process : Nat) :
    (processFields searches process).length = searches + 1 := by
  simp [processFields]

theorem fieldsFrom_succ (searches first count : Nat) :
    fieldsFrom searches first (count + 1) =
      processFields searches first ++ fieldsFrom searches (first + 1) count := by
  simp [fieldsFrom, List.range'_succ]

theorem length_fieldsFrom (searches first count : Nat) :
    (fieldsFrom searches first count).length = count * (searches + 1) := by
  simp [fieldsFrom, List.length_flatMap, length_processFields]

theorem getElem?_processFields {searches process index : Nat} {field : Field} :
    (processFields searches process)[index]? = some field ↔
      index = 0 ∧ field = .arraySize process ∨
        ∃ search < searches, index = search + 1 ∧ field = .key search process := by
  cases index with
  | zero => simp [processFields, eq_comm]
  | succ search =>
    simp only [processFields, List.getElem?_cons_succ, List.getElem?_map, Option.map_eq_some_iff,
      List.getElem?_eq_some_iff, List.length_range, List.getElem_range]
    constructor
    · rintro ⟨_, ⟨hsearch, rfl⟩, rfl⟩
      exact .inr ⟨search, hsearch, rfl, rfl⟩
    · rintro (⟨hzero, _⟩ | ⟨_, hsearch, hindex, rfl⟩)
      · cases hzero
      · cases hindex
        exact ⟨search, ⟨hsearch, rfl⟩, rfl⟩

/-- Among the fields of several processes, those of each stand in front of those of the next. -/
theorem getElem?_fieldsFrom {searches first count index : Nat} {field : Field} :
    (fieldsFrom searches first count)[index]? = some field ↔ ∃ process < count, ∃ offset,
      index = process * (searches + 1) + offset ∧
        (processFields searches (first + process))[offset]? = some field := by
  induction count generalizing first index with
  | zero => simp [fieldsFrom]
  | succ count ih =>
    rw [fieldsFrom_succ]
    constructor
    · intro hfield
      rw [List.getElem?_append, length_processFields] at hfield
      split at hfield
      · exact ⟨0, Nat.succ_pos count, index, by omega, hfield⟩
      · obtain ⟨process, hprocess, offset, hindex, hfield⟩ := ih.1 hfield
        refine ⟨process + 1, Nat.succ_lt_succ hprocess, offset, ?_, ?_⟩
        · rw [Nat.succ_mul]
          omega
        · rwa [Nat.add_right_comm] at hfield
    · rintro ⟨process, hprocess, offset, rfl, hfield⟩
      obtain ⟨hoffset, _⟩ := List.getElem?_eq_some_iff.1 hfield
      rw [length_processFields] at hoffset
      cases process with
      | zero =>
        rw [Nat.zero_mul, Nat.zero_add, List.getElem?_append_left (by simpa using hoffset)]
        exact hfield
      | succ process =>
        rw [Nat.succ_mul, List.getElem?_append_right (by rw [length_processFields]; omega), ih]
        refine ⟨process, Nat.lt_of_succ_lt_succ hprocess, offset, ?_, ?_⟩
        · rw [length_processFields]
          omega
        · rwa [Nat.add_right_comm]

/-! ## Reading a list of fields -/

/-- Reads the next words as the values of the given fields. -/
def Cursor.nextAll (cursor : Cursor) : List Field → Except ReadError (List Nat × Cursor)
  | [] => .ok ([], cursor)
  | field :: fields =>
    match cursor.next field with
    | .error reason => .error reason
    | .ok (value, cursor) =>
      (cursor.nextAll fields).map fun (values, cursor) ↦ (value :: values, cursor)

/-- What is wrong with a field at a position where this word stands, or none. -/
def fault? (field : Field) (position : Nat) : Option (List Char) → Option ReadError
  | none => some (.missing field position)
  | some word =>
    match Numeral.read word with
    | .ok _ => none
    | .error flaw => some (.malformed field word position flaw)

/-- There is a word with this index, and it denotes a number. -/
def Filled (words : List (List Char)) (index : Nat) : Prop :=
  ∃ word value, words[index]? = some word ∧ Numeral.Denotes word value

theorem fault?_eq_none_iff {field : Field} {position : Nat} {words : List (List Char)}
    {index : Nat} : fault? field position words[index]? = none ↔ Filled words index := by
  unfold Filled
  cases words[index]? with
  | none => simp [fault?]
  | some word =>
    simp only [fault?, ← Numeral.read_eq_ok_iff, Option.some.injEq, exists_and_left,
      exists_eq_left']
    cases Numeral.read word with
    | error flaw => simp
    | ok value => simp

theorem filled_drop_iff {words : List (List Char)} {count index : Nat} :
    Filled (words.drop count) index ↔ Filled words (index + count) := by
  unfold Filled
  rw [List.getElem?_drop, Nat.add_comm]

namespace Cursor

variable {cursor later : Cursor} {field : Field} {fields : List Field} {value : Nat}
  {values : List Nat} {reason : ReadError}

theorem next_eq_ok_iff : cursor.next field = .ok (value, later) ↔ ∃ word words,
    cursor.words = word :: words ∧ Numeral.Denotes word value ∧
      later = ⟨cursor.position + 1, words⟩ := by
  unfold next
  cases cursor.words with
  | nil => simp
  | cons word words =>
    simp only [List.cons.injEq, ← Numeral.read_eq_ok_iff]
    constructor
    · intro hread
      cases hword : Numeral.read word with
      | error flaw =>
        rw [hword] at hread
        cases hread
      | ok value =>
        rw [hword] at hread
        cases hread
        exact ⟨word, words, ⟨rfl, rfl⟩, hword, rfl⟩
    · rintro ⟨_, _, ⟨rfl, rfl⟩, hword, rfl⟩
      rw [hword]

theorem next_eq_error_iff : cursor.next field = .error reason ↔
    fault? field (cursor.position + 1) cursor.words[0]? = some reason := by
  unfold next
  cases cursor.words with
  | nil => simp [fault?]
  | cons word words =>
    simp only [List.getElem?_cons_zero, fault?]
    cases Numeral.read word with
    | error flaw => simp
    | ok value => simp

theorem nextAll_cons_eq_ok_iff : cursor.nextAll (field :: fields) = .ok (values, later) ↔
    ∃ value next others, cursor.next field = .ok (value, next) ∧
      next.nextAll fields = .ok (others, later) ∧ values = value :: others := by
  simp only [nextAll]
  cases cursor.next field with
  | error reason => simp
  | ok first =>
    obtain ⟨value, next⟩ := first
    cases hrest : next.nextAll fields with
    | error reason => simp [Except.map, hrest]
    | ok others => simp [Except.map, hrest, Prod.ext_iff, and_comm, eq_comm]

theorem nextAll_cons_eq_error_iff : cursor.nextAll (field :: fields) = .error reason ↔
    cursor.next field = .error reason ∨ ∃ value next, cursor.next field = .ok (value, next) ∧
      next.nextAll fields = .error reason := by
  simp only [nextAll]
  cases cursor.next field with
  | error reason => simp
  | ok first =>
    obtain ⟨value, next⟩ := first
    cases hrest : next.nextAll fields with
    | error reason => simp [Except.map, hrest]
    | ok others => simp [Except.map, hrest]

/-- A list of fields is read exactly if as many words in front of the cursor denote its values. -/
theorem nextAll_eq_ok_iff : cursor.nextAll fields = .ok (values, later) ↔
    values.length = fields.length ∧ ∃ numerals rest, cursor.words = numerals ++ rest ∧
      List.Forall₂ Numeral.Denotes numerals values ∧
      later = ⟨cursor.position + fields.length, rest⟩ := by
  induction fields generalizing cursor values with
  | nil =>
    cases values with
    | nil => simp [nextAll, eq_comm]
    | cons value values => simp [nextAll]
  | cons field fields ih =>
    rw [nextAll_cons_eq_ok_iff, List.length_cons, Nat.add_comm fields.length, ← Nat.add_assoc]
    constructor
    · rintro ⟨value, next, others, hnext, hrest, rfl⟩
      obtain ⟨word, words, hwords, hword, rfl⟩ := next_eq_ok_iff.1 hnext
      obtain ⟨hlength, numerals, rest, rfl, hnumerals, hlater⟩ := ih.1 hrest
      rw [List.length_cons, hlength, Nat.add_comm 1]
      exact ⟨rfl, word :: numerals, rest, hwords, .cons hword hnumerals, hlater⟩
    · rintro ⟨hlength, numerals, rest, hsplit, hnumerals, hlater⟩
      cases hnumerals with
      | nil => exact absurd hlength (by rw [List.length_nil]; omega)
      | @cons word value numerals others hword hnumerals =>
        rw [List.length_cons, Nat.add_comm 1, Nat.add_right_cancel_iff] at hlength
        exact ⟨value, _, others,
          next_eq_ok_iff.2 ⟨word, numerals ++ rest, hsplit, hword, rfl⟩,
          ih.2 ⟨hlength, numerals, rest, rfl, hnumerals, hlater⟩, rfl⟩

/-- A list of fields fails exactly at the first whose word is missing or denotes nothing. -/
theorem nextAll_eq_error_iff : cursor.nextAll fields = .error reason ↔ ∃ index field,
    fields[index]? = some field ∧ (∀ earlier < index, Filled cursor.words earlier) ∧
      fault? field (cursor.position + index + 1) cursor.words[index]? = some reason := by
  induction fields generalizing cursor with
  | nil => simp [nextAll]
  | cons first fields ih =>
    rw [nextAll_cons_eq_error_iff]
    constructor
    · rintro (hnext | ⟨value, next, hnext, hrest⟩)
      · exact ⟨0, first, rfl, nofun, next_eq_error_iff.1 hnext⟩
      · obtain ⟨word, words, hwords, hword, rfl⟩ := next_eq_ok_iff.1 hnext
        obtain ⟨index, field, hfield, hearlier, hfault⟩ := ih.1 hrest
        rw [hwords]
        refine ⟨index + 1, field, hfield, ?_, ?_⟩
        · rintro (_ | earlier) hless
          · exact ⟨word, value, rfl, hword⟩
          · exact hearlier earlier (Nat.lt_of_succ_lt_succ hless)
        · rwa [Nat.add_right_comm _ 1] at hfault
    · rintro ⟨index, field, hfield, hearlier, hfault⟩
      cases index with
      | zero =>
        cases hfield
        exact .inl (next_eq_error_iff.2 hfault)
      | succ index =>
        obtain ⟨word, value, hfirst, hword⟩ := hearlier 0 (Nat.succ_pos index)
        obtain ⟨words, hwords⟩ := List.head?_eq_some_iff.1 (List.head?_eq_getElem? ▸ hfirst)
        refine .inr ⟨value, _, next_eq_ok_iff.2 ⟨word, words, hwords, hword, rfl⟩, ih.2 ?_⟩
        rw [hwords] at hearlier hfault
        refine ⟨index, field, hfield, fun earlier hless ↦ ?_, ?_⟩
        · exact hearlier (earlier + 1) (Nat.succ_lt_succ hless)
        · rwa [Nat.add_right_comm _ 1]

theorem nextAll_append (cursor : Cursor) (fields fields' : List Field) :
    cursor.nextAll (fields ++ fields') = (cursor.nextAll fields).bind fun (values, cursor) ↦
      (cursor.nextAll fields').map fun (values', cursor) ↦ (values ++ values', cursor) := by
  induction fields generalizing cursor with
  | nil =>
    simp only [List.nil_append, nextAll, Except.bind]
    cases cursor.nextAll fields' <;> rfl
  | cons field fields ih =>
    simp only [List.cons_append, nextAll]
    cases cursor.next field with
    | error reason => rfl
    | ok read =>
      obtain ⟨value, later⟩ := read
      simp only [ih]
      cases later.nextAll fields with
      | error reason => rfl
      | ok read =>
        obtain ⟨values, last⟩ := read
        simp only [Except.bind, Except.map]
        cases last.nextAll fields' <;> rfl

end Cursor

/-! ## The loops -/

theorem map_eq_error_iff {α β : Type} {function : α → β} {result : Except ReadError α}
    {reason : ReadError} : result.map function = .error reason ↔ result = .error reason := by
  cases result <;> simp [Except.map]

theorem readCounts_eq (cursor : Cursor) :
    (readCounts cursor).map (fun ((count, searches), cursor) ↦ ([count, searches], cursor)) =
      cursor.nextAll countFields := by
  unfold readCounts countFields
  simp only [Cursor.nextAll]
  cases cursor.next .processCount with
  | error reason => rfl
  | ok read =>
    obtain ⟨count, later⟩ := read
    dsimp only
    cases later.next .searchesPerProcess <;> rfl

theorem readCounts_eq_ok_iff {count searches : Nat} {cursor later : Cursor} :
    readCounts cursor = .ok ((count, searches), later) ↔
      ∃ word word' rest, cursor.words = word :: word' :: rest ∧ Numeral.Denotes word count ∧
        Numeral.Denotes word' searches ∧ later = ⟨cursor.position + 2, rest⟩ := by
  have hread : readCounts cursor = .ok ((count, searches), later) ↔
      cursor.nextAll countFields = .ok ([count, searches], later) := by
    rw [← readCounts_eq]
    cases readCounts cursor with
    | error reason => simp [Except.map]
    | ok read => simp [Except.map, Prod.ext_iff]
  rw [hread, Cursor.nextAll_eq_ok_iff]
  constructor
  · rintro ⟨_, _, rest, hsplit, _ | ⟨hword, _ | ⟨hword', _ | _⟩⟩, hlater⟩
    exact ⟨_, _, rest, hsplit, hword, hword', hlater⟩
  · rintro ⟨word, word', rest, hsplit, hword, hword', hlater⟩
    exact ⟨rfl, [word, word'], rest, hsplit, .cons hword (.cons hword' .nil), hlater⟩

theorem readCounts_eq_error_iff {cursor : Cursor} {reason : ReadError} :
    readCounts cursor = .error reason ↔ ∃ index field, countFields[index]? = some field ∧
      (∀ earlier < index, Filled cursor.words earlier) ∧
        fault? field (cursor.position + index + 1) cursor.words[index]? = some reason := by
  rw [← Cursor.nextAll_eq_error_iff, ← readCounts_eq, map_eq_error_iff]

theorem readKeys_eq (process : Nat) (cursor : Cursor) (keys : Array Nat) (count : Nat) :
    readKeys process cursor keys count =
      (cursor.nextAll ((List.range' keys.size count).map (Field.key · process))).map
        fun (values, cursor) ↦ (keys ++ values.toArray, cursor) := by
  induction count generalizing cursor keys with
  | zero => simp [readKeys, Cursor.nextAll, Except.map]
  | succ count ih =>
    simp only [readKeys, List.range'_succ, List.map_cons, Cursor.nextAll]
    cases cursor.next (.key keys.size process) with
    | error reason => rfl
    | ok read =>
      obtain ⟨key, later⟩ := read
      simp only [ih, Array.size_push]
      cases later.nextAll _ with
      | error reason => rfl
      | ok read => simp [Except.map]

theorem readProcess_eq (searches process : Nat) (cursor : Cursor) :
    (readProcess searches process cursor).map (fun (spec, cursor) ↦ (spec.numbers, cursor)) =
      cursor.nextAll (processFields searches process) := by
  unfold readProcess processFields
  simp only [Cursor.nextAll, List.range_eq_range']
  cases cursor.next (.arraySize process) with
  | error reason => rfl
  | ok read =>
    obtain ⟨arraySize, later⟩ := read
    simp only [readKeys_eq, List.size_toArray, List.length_nil]
    cases later.nextAll _ with
    | error reason => rfl
    | ok read => simp [Except.map, ProcessSpec.numbers]

theorem readProcesses_eq (searches : Nat) (cursor : Cursor) (processes : Array ProcessSpec)
    (count : Nat) :
    (readProcesses searches cursor processes count).map
        (fun specs ↦ specs.toList.flatMap ProcessSpec.numbers) =
      (cursor.nextAll (fieldsFrom searches processes.size count)).map
        fun (values, _) ↦ processes.toList.flatMap ProcessSpec.numbers ++ values := by
  induction count generalizing cursor processes with
  | zero => simp [readProcesses, fieldsFrom, Cursor.nextAll, Except.map]
  | succ count ih =>
    rw [fieldsFrom_succ, Cursor.nextAll_append, ← readProcess_eq]
    unfold readProcesses
    cases readProcess searches processes.size cursor with
    | error reason => rfl
    | ok read =>
      obtain ⟨spec, later⟩ := read
      dsimp only [Except.bind]
      rw [ih, Array.size_push]
      simp only [Except.map]
      cases later.nextAll _ with
      | error reason => rfl
      | ok read => simp

theorem readProcesses_eq_error_iff {searches count : Nat} {cursor : Cursor}
    {processes : Array ProcessSpec} {reason : ReadError} :
    readProcesses searches cursor processes count = .error reason ↔ ∃ index field,
      (fieldsFrom searches processes.size count)[index]? = some field ∧
        (∀ earlier < index, Filled cursor.words earlier) ∧
          fault? field (cursor.position + index + 1) cursor.words[index]? = some reason := by
  rw [← Cursor.nextAll_eq_error_iff]
  calc
    _ ↔ (readProcesses searches cursor processes count).map _ = .error reason :=
      map_eq_error_iff.symm
    _ ↔ (cursor.nextAll (fieldsFrom searches processes.size count)).map _ = .error reason := by
      rw [readProcesses_eq]
    _ ↔ _ := map_eq_error_iff

/-- A workload is read if the loops read its counts and its processes. -/
theorem read_eq_ok_iff_loops {text : List Char} {workload : Workload} :
    read text = .ok workload ↔ ∃ count cursor,
      readCounts { words := Text.words text } =
          .ok ((count, workload.searchesPerProcess), cursor) ∧
        count < processLimit ∧
        readProcesses workload.searchesPerProcess cursor #[] count = .ok workload.processes := by
  unfold read
  cases readCounts { words := Text.words text } with
  | error reason => simp
  | ok counts =>
    obtain ⟨⟨count, searches⟩, cursor⟩ := counts
    dsimp only
    split
    · rename_i hlarge
      constructor
      · exact nofun
      · rintro ⟨_, _, ⟨⟩, hsmall, _⟩
        exact absurd hlarge (Nat.not_le.2 hsmall)
    · rename_i hsmall
      constructor
      · intro hread
        cases hprocesses : readProcesses searches cursor #[] count with
        | error reason =>
          rw [hprocesses] at hread
          cases hread
        | ok specs =>
          rw [hprocesses] at hread
          cases hread
          exact ⟨count, cursor, rfl, Nat.not_le.1 hsmall, hprocesses⟩
      · rintro ⟨_, _, ⟨⟩, _, hprocesses⟩
        rw [hprocesses]

/-- Reading a workload fails where one of the loops fails. -/
theorem read_eq_error_iff_loops {text : List Char} {reason : ReadError} :
    read text = .error reason ↔
      readCounts { words := Text.words text } = .error reason ∨ ∃ count searches cursor,
        readCounts { words := Text.words text } = .ok ((count, searches), cursor) ∧
          count < processLimit ∧ readProcesses searches cursor #[] count = .error reason := by
  unfold read
  cases readCounts { words := Text.words text } with
  | error reason => simp
  | ok counts =>
    obtain ⟨⟨count, searches⟩, cursor⟩ := counts
    dsimp only
    split
    · rename_i hlarge
      constructor
      · exact nofun
      · rintro (hcounts | ⟨_, _, _, ⟨⟩, hsmall, _⟩)
        · cases hcounts
        · exact absurd hlarge (Nat.not_le.2 hsmall)
    · rename_i hsmall
      constructor
      · intro hread
        cases hprocesses : readProcesses searches cursor #[] count with
        | error reason =>
          rw [hprocesses] at hread
          cases hread
          exact .inr ⟨count, searches, cursor, rfl, Nat.not_le.1 hsmall, hprocesses⟩
        | ok specs =>
          rw [hprocesses] at hread
          cases hread
      · rintro (hcounts | ⟨_, _, _, ⟨⟩, _, hprocesses⟩)
        · cases hcounts
        · rw [hprocesses]

end Workload

end PagedMemory
