import PagedMemory.FreeList
import PagedMemory.Word

/-!
# Paging counters

Counters are kept for each process and for the whole machine: page accesses, page faults, page
replacements, and how many replacements each affinity rule served.  Every counter is a 64-bit word;
an increment that would leave the word has no result.
-/

namespace PagedMemory

/-- One number for each affinity rule. -/
structure AffinityTally where
  exactReuse : Nat := 0
  unowned : Nat := 0
  sameOwner : Nat := 0
  fallback : Nat := 0
deriving DecidableEq

namespace AffinityTally

/-- The number kept for a rule. -/
def get (tally : AffinityTally) : Affinity → Nat
  | .exactReuse => tally.exactReuse
  | .unowned => tally.unowned
  | .sameOwner => tally.sameOwner
  | .fallback => tally.fallback

/-- Replaces the number kept for a rule. -/
def set (tally : AffinityTally) (affinity : Affinity) (number : Nat) : AffinityTally :=
  match affinity with
  | .exactReuse => { tally with exactReuse := number }
  | .unowned => { tally with unowned := number }
  | .sameOwner => { tally with sameOwner := number }
  | .fallback => { tally with fallback := number }

/-- The sum over all rules. -/
def total (tally : AffinityTally) : Nat :=
  tally.exactReuse + tally.unowned + tally.sameOwner + tally.fallback

/-- Adds two tallies rule by rule. -/
def add? (left right : AffinityTally) : Option AffinityTally := do
  let exactReuse ← Word.add? left.exactReuse right.exactReuse
  let unowned ← Word.add? left.unowned right.unowned
  let sameOwner ← Word.add? left.sameOwner right.sameOwner
  let fallback ← Word.add? left.fallback right.fallback
  return { exactReuse, unowned, sameOwner, fallback }

end AffinityTally

/-- What is counted about a process, or about the machine. -/
structure Counters where
  accesses : Nat := 0
  faults : Nat := 0
  replacements : Nat := 0
  attempts : AffinityTally := {}
deriving DecidableEq

namespace Counters

/-- Counts a page access. -/
def recordAccess? (counters : Counters) : Option Counters := do
  return { counters with accesses := ← Word.add? counters.accesses 1 }

/-- Counts a page fault. -/
def recordFault? (counters : Counters) : Option Counters := do
  return { counters with faults := ← Word.add? counters.faults 1 }

/-- Counts a replacement that was served by the given rule. -/
def recordReplacement? (counters : Counters) (affinity : Affinity) : Option Counters := do
  let replacements ← Word.add? counters.replacements 1
  let served ← Word.add? (counters.attempts.get affinity) 1
  return { counters with
    replacements := replacements
    attempts := counters.attempts.set affinity served }

/-- The number of replacements over all rules, as a word. -/
def attemptsTotal? (counters : Counters) : Option Nat :=
  if counters.attempts.total < Word.bound then some counters.attempts.total else none

/-- Adds two records counter by counter. -/
def add? (left right : Counters) : Option Counters := do
  let accesses ← Word.add? left.accesses right.accesses
  let faults ← Word.add? left.faults right.faults
  let replacements ← Word.add? left.replacements right.replacements
  let attempts ← left.attempts.add? right.attempts
  return { accesses, faults, replacements, attempts }

end Counters

end PagedMemory
