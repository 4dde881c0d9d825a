import PagedMemory.Word

/-!
# What a numeral denotes

A numeral is an optional plus sign and digits, and denotes the number that they write in the decimal
system.  `Numeral.Denotes` says so without a word about reading; by `Numeral.read_eq_ok_iff` the
words that can be read are those that denote a 64-bit word, with any number of leading zeros.

A word that denotes none has one of two flaws, and which of them is told depends on what is met
first when the digits are read from the left: something that is no digit, or the end of the range.
-/

namespace PagedMemory.Numeral

/-- The word is a numeral with this value: digits, perhaps with a plus sign in front. -/
def Denotes (word : List Char) (value : Nat) : Prop :=
  ∃ digits, (word = digits ∨ word = '+' :: digits) ∧ digits ≠ [] ∧
    (∀ char ∈ digits, char.isDigit = true) ∧ Nat.ofDigitChars 10 digits 0 = value ∧
    value < Word.bound

/-- What is left of a word behind a plus sign. -/
def unsigned : List Char → List Char
  | '+' :: rest => rest
  | word => word

/-- Reading what stands behind the sign, from the left, something that is no digit is met while the
value of the digits before it is still a 64-bit word.  If there is nothing, no digit is met. -/
def MeetsNonDigit (word : List Char) : Prop :=
  unsigned word = [] ∨ ∃ digits char rest, unsigned word = digits ++ char :: rest ∧
    (∀ digit ∈ digits, digit.isDigit = true) ∧ char.isDigit = false ∧
    Nat.ofDigitChars 10 digits 0 < Word.bound

/-! ## Digits -/

theorem digit?_of_isDigit {char : Char} (hdigit : char.isDigit = true) :
    digit? char = some (char.toNat - '0'.toNat) := if_pos hdigit

theorem digit?_of_not_isDigit {char : Char} (hother : char.isDigit = false) :
    digit? char = none := if_neg (by rw [hother]; exact nofun)

/-- Further digits make a value no smaller. -/
theorem le_ofDigitChars (digits : List Char) (value : Nat) :
    value ≤ Nat.ofDigitChars 10 digits value := by
  induction digits generalizing value with
  | nil => exact Nat.le_refl _
  | cons char digits ih =>
    rw [Nat.ofDigitChars_cons]
    apply Nat.le_trans _ (ih _)
    omega

/-- One step of reading digits. -/
theorem readDigits_cons (value : Nat) {char : Char} (hdigit : char.isDigit = true)
    (rest : List Char) : readDigits value (char :: rest) =
      if 10 * value + (char.toNat - '0'.toNat) < Word.bound then
        readDigits (10 * value + (char.toNat - '0'.toNat)) rest
      else .error .tooLarge := by
  simp only [readDigits, digit?_of_isDigit hdigit, Nat.mul_comm value 10]

theorem readDigits_eq_ok_iff {value result : Nat} {digits : List Char}
    (hsmall : value < Word.bound) :
    readDigits value digits = .ok result ↔ (∀ char ∈ digits, char.isDigit = true) ∧
      Nat.ofDigitChars 10 digits value = result ∧ result < Word.bound := by
  induction digits generalizing value with
  | nil =>
    simp only [readDigits, Except.ok.injEq, Nat.ofDigitChars_nil]
    constructor
    · rintro rfl
      exact ⟨nofun, rfl, hsmall⟩
    · exact fun h ↦ h.2.1
  | cons char digits ih =>
    cases hdigit : char.isDigit with
    | false => simp [readDigits, digit?_of_not_isDigit hdigit, hdigit]
    | true =>
      rw [readDigits_cons value hdigit, List.forall_mem_cons, Nat.ofDigitChars_cons]
      split
      · rename_i hnext
        rw [ih hnext]
        simp only [hdigit, true_and]
      · rename_i hlarge
        have hmore := le_ofDigitChars digits (10 * value + (char.toNat - '0'.toNat))
        constructor
        · exact nofun
        · rintro ⟨_, rfl, hresult⟩
          exact absurd (Nat.lt_of_le_of_lt hmore hresult) hlarge

/-- Behind a digit, something that is no digit comes later. -/
theorem exists_nonDigit_cons_iff {value : Nat} {first : Char} {digits : List Char}
    (hdigit : first.isDigit = true) :
    (∃ front char rest, first :: digits = front ++ char :: rest ∧
        (∀ digit ∈ front, digit.isDigit = true) ∧ char.isDigit = false ∧
        Nat.ofDigitChars 10 front value < Word.bound) ↔
      ∃ front char rest, digits = front ++ char :: rest ∧
        (∀ digit ∈ front, digit.isDigit = true) ∧ char.isDigit = false ∧
        Nat.ofDigitChars 10 front (10 * value + (first.toNat - '0'.toNat)) < Word.bound := by
  constructor
  · rintro ⟨front, char, rest, hsplit, hfront, hother, hbelow⟩
    cases front with
    | nil =>
      cases hsplit
      rw [hdigit] at hother
      cases hother
    | cons head front =>
      cases hsplit
      rw [Nat.ofDigitChars_cons] at hbelow
      exact ⟨front, char, rest, rfl, (List.forall_mem_cons.1 hfront).2, hother, hbelow⟩
  · rintro ⟨front, char, rest, rfl, hfront, hother, hbelow⟩
    rw [← Nat.ofDigitChars_cons] at hbelow
    exact ⟨first :: front, char, rest, rfl, List.forall_mem_cons.2 ⟨hdigit, hfront⟩, hother, hbelow⟩

/-- What is wrong with digits is something that is no digit exactly if it is met while the value of
the digits before it is a word. -/
theorem readDigits_eq_invalidDigit_iff {value : Nat} {digits : List Char}
    (hsmall : value < Word.bound) :
    readDigits value digits = .error .invalidDigit ↔ ∃ front char rest,
      digits = front ++ char :: rest ∧ (∀ digit ∈ front, digit.isDigit = true) ∧
      char.isDigit = false ∧ Nat.ofDigitChars 10 front value < Word.bound := by
  induction digits generalizing value with
  | nil => simp [readDigits]
  | cons first digits ih =>
    cases hdigit : first.isDigit with
    | false =>
      simp only [readDigits, digit?_of_not_isDigit hdigit, true_iff]
      exact ⟨[], first, digits, rfl, nofun, hdigit, hsmall⟩
    | true =>
      rw [readDigits_cons value hdigit, exists_nonDigit_cons_iff hdigit]
      split
      · rename_i hnext
        exact ih hnext
      · rename_i hlarge
        constructor
        · exact nofun
        · rintro ⟨front, _, _, _, _, _, hbelow⟩
          exact absurd (Nat.lt_of_le_of_lt (le_ofDigitChars front _) hbelow) hlarge

theorem readDigits_ne_empty {value : Nat} {digits : List Char} :
    readDigits value digits ≠ .error .empty := by
  induction digits generalizing value with
  | nil => exact nofun
  | cons char digits ih =>
    cases hdigit : char.isDigit with
    | false => simp [readDigits, digit?_of_not_isDigit hdigit]
    | true =>
      rw [readDigits_cons value hdigit]
      split
      · exact ih
      · exact nofun

/-! ## Numerals -/

theorem unsigned_of_ne {char : Char} (hplain : char ≠ '+') (rest : List Char) :
    unsigned (char :: rest) = char :: rest := by
  unfold unsigned
  split
  · rename_i hsigned
    exact absurd (List.cons.inj hsigned).1 hplain
  · rfl

theorem eq_unsigned_or (word : List Char) : word = unsigned word ∨ word = '+' :: unsigned word := by
  unfold unsigned
  split
  · exact .inr rfl
  · exact .inl rfl

theorem denotes_iff {word : List Char} {value : Nat} :
    Denotes word value ↔ unsigned word ≠ [] ∧ (∀ char ∈ unsigned word, char.isDigit = true) ∧
      Nat.ofDigitChars 10 (unsigned word) 0 = value ∧ value < Word.bound := by
  constructor
  · rintro ⟨digits, rfl | rfl, hsome, hdigits⟩
    · obtain ⟨char, rest, rfl⟩ := List.exists_cons_of_ne_nil hsome
      have hplain : char ≠ '+' := by
        rintro rfl
        exact absurd (hdigits.1 '+' List.mem_cons_self) (by decide)
      rw [unsigned_of_ne hplain]
      exact ⟨hsome, hdigits⟩
    · exact ⟨hsome, hdigits⟩
  · exact fun h ↦ ⟨unsigned word, eq_unsigned_or word, h⟩

/-- A word denotes one number at most. -/
theorem Denotes.unique {word : List Char} {value value' : Nat} (h : Denotes word value)
    (h' : Denotes word value') : value = value' :=
  (denotes_iff.1 h).2.2.1.symm.trans (denotes_iff.1 h').2.2.1

/-- Reading begins behind the sign. -/
theorem read_eq {word : List Char} (hsome : word ≠ []) :
    read word =
      if unsigned word = [] then .error .invalidDigit else readDigits 0 (unsigned word) := by
  obtain ⟨char, rest, rfl⟩ := List.exists_cons_of_ne_nil hsome
  by_cases hsigned : char = '+'
  · subst hsigned
    cases rest with
    | nil => rfl
    | cons digit digits => rfl
  · rw [unsigned_of_ne hsigned, if_neg (List.cons_ne_nil _ _)]
    unfold read
    split
    · rename_i hnil
      cases hnil
    · rename_i hsign
      exact absurd (List.cons.inj hsign).1 hsigned
    · rename_i hsign
      exact absurd (List.cons.inj hsign).1 hsigned
    · rfl

/-- The words that can be read are those that denote a 64-bit word. -/
theorem read_eq_ok_iff {word : List Char} {value : Nat} :
    read word = .ok value ↔ Denotes word value := by
  rw [denotes_iff]
  by_cases hsome : word = []
  · subst hsome
    constructor
    · exact nofun
    · exact fun h ↦ absurd rfl h.1
  · rw [read_eq hsome]
    split
    · rename_i hnone
      constructor
      · exact nofun
      · exact fun h ↦ absurd hnone h.1
    · rename_i hdigits
      rw [readDigits_eq_ok_iff (by decide), ne_eq, and_iff_right hdigits]

/-- A word that denotes no number is told to be too large, unless something that is no digit is met
first. -/
theorem flaw_of_read {word : List Char} {flaw : NumeralFlaw} (hsome : word ≠ [])
    (hfailed : read word = .error flaw) :
    flaw = .invalidDigit ∧ MeetsNonDigit word ∨ flaw = .tooLarge ∧ ¬ MeetsNonDigit word := by
  rw [read_eq hsome] at hfailed
  split at hfailed
  · rename_i hnone
    cases hfailed
    exact .inl ⟨rfl, .inl hnone⟩
  · rename_i hdigits
    have hmeets : MeetsNonDigit word ↔ readDigits 0 (unsigned word) = .error .invalidDigit := by
      rw [readDigits_eq_invalidDigit_iff (by decide), MeetsNonDigit, or_iff_right hdigits]
    rw [hmeets, hfailed]
    cases flaw with
    | empty => exact absurd hfailed readDigits_ne_empty
    | invalidDigit => exact .inl ⟨rfl, rfl⟩
    | tooLarge => exact .inr ⟨rfl, nofun⟩

/-! ## Writing a number down -/

/-- A value in the decimal system, with some zeros in front. -/
def padded (zeros value : Nat) : List Char :=
  List.replicate zeros '0' ++ Nat.toDigits 10 value

/-- The word writes this 64-bit value down. -/
def Writes (word : List Char) (value : Nat) : Prop :=
  value < Word.bound ∧ ∃ zeros, word = padded zeros value

theorem Writes.denotes {word : List Char} {value : Nat} (h : Writes word value) :
    Denotes word value := by
  obtain ⟨hvalue, zeros, rfl⟩ := h
  refine ⟨padded zeros value, .inl rfl, ?_, ?_, ?_, hvalue⟩
  · exact List.append_ne_nil_of_right_ne_nil _ Nat.toDigits_ne_nil
  · intro char hchar
    rcases List.mem_append.1 hchar with hzero | hdigit
    · rw [List.eq_of_mem_replicate hzero]
      rfl
    · exact Nat.isDigit_of_mem_toDigits (by decide) (Nat.le_refl 10) hdigit
  · rw [padded, Nat.ofDigitChars_append, Nat.ofDigitChars_replicate_zero,
      Nat.mul_zero, Nat.ofDigitChars_ten_toDigits]

end PagedMemory.Numeral
