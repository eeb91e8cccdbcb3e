/-!
# Bit Sets

Sets of named bits in a fixed-width word.

Readers, cards and clients all speak in words whose bits have names, and they
all may set bits that have no name yet. So a set is kept as the plain word
`BitVec w` it travels as: nothing is lost when an unknown bit passes through,
and equality of sets is equality of words. What is added here are the
questions asked of such a word, and the way it is taken apart into its named
members.

`split` is the one function with a law worth stating. It walks the named bits
in their fixed order and leaves every unnamed bit in one last part, so the
parts together are the word again.

## Main definitions

* `contains`: Every bit of one set lies in another.
* `intersects`: Two sets share a bit.
* `without`: A set with the bits of another taken out.
* `split`: The named members of a set, then the unnamed rest.
* `union`: The set holding every bit of a list of sets.

## Theorems

* `contains_iff`: Containment, bit by bit.
* `contains_without`, `intersects_without`, `without_of_disjoint`: Bits that have no
  part in it.
* `union_split`: The parts of a set together are the set.
-/

namespace CardHost

namespace Bits

variable {w : Nat}

/-- Every bit of `t` is set in `s`. -/
def contains (s t : BitVec w) : Bool := s &&& t == t

/-- Some bit is set in both `s` and `t`. -/
def intersects (s t : BitVec w) : Bool := s &&& t != 0#w

/-- The set `s` with the bits of `t` taken out. -/
def without (s t : BitVec w) : BitVec w := s &&& ~~~t

/-- The members of `s` among the `named` bits, in the order of `named`, and
    then the bits that carry no name as one part, if there are any. -/
def split : List (BitVec w) → BitVec w → List (BitVec w)
  | [], rest => if rest = 0#w then [] else [rest]
  | bit :: named, s =>
    if contains s bit then bit :: split named (without s bit) else split named s

/-- The set of all bits that occur in a list of sets. -/
def union (parts : List (BitVec w)) : BitVec w := parts.foldr (· ||| ·) 0#w

/-- The set written with its names, `A | B`. Unnamed bits follow as one
    hexadecimal word, and the empty set is written as the word `0x0`. -/
def render (named : List (BitVec w × String)) (s : BitVec w) : String :=
  if s = 0#w then "0x0"
  else
    let rest := named.foldl (fun rest bit => without rest bit.1) s
    let names := (named.filter fun bit => contains s bit.1).map Prod.snd
    let tail := if rest = 0#w then [] else ["0x" ++ String.ofList (Nat.toDigits 16 rest.toNat)]
    String.intercalate " | " (names ++ tail)

theorem contains_iff (s t : BitVec w) :
    contains s t = true ↔ ∀ i : Nat, t.getLsbD i = true → s.getLsbD i = true := by
  unfold contains
  rw [beq_iff_eq]
  constructor
  · intro h i hi
    have := congrArg (fun v => v.getLsbD i) h
    simp only [BitVec.getLsbD_and, hi, Bool.and_true] at this
    exact this
  · intro h
    refine BitVec.eq_of_getLsbD_eq fun i _ => ?_
    rw [BitVec.getLsbD_and]
    cases ht : t.getLsbD i with
    | false => rw [Bool.and_false]
    | true => rw [h i ht, Bool.and_true]

/-- A member that was found and the set without it make up the set. -/
theorem or_without (s t : BitVec w) (h : contains s t = true) : t ||| without s t = s := by
  refine BitVec.eq_of_getLsbD_eq fun i hi => ?_
  have hc := (contains_iff s t).mp h i
  simp only [without, BitVec.getLsbD_or, BitVec.getLsbD_and, BitVec.getLsbD_not, hi,
    decide_true, Bool.true_and]
  cases ht : t.getLsbD i with
  | false => simp only [Bool.not_false, Bool.and_true, Bool.false_or]
  | true => rw [hc ht]; rfl

theorem intersects_comm (s t : BitVec w) : intersects s t = intersects t s := by
  rw [intersects, BitVec.and_comm, intersects]

/-- A set lies outside of one that it shares no bit with. -/
theorem not_and_of_disjoint {s t : BitVec w} (h : intersects s t = false) : ~~~s &&& t = t := by
  rw [intersects, bne_eq_false_iff_eq] at h
  refine BitVec.eq_of_getLsbD_eq fun i hi => ?_
  have hnone := congrArg (fun v => v.getLsbD i) h
  rw [BitVec.getLsbD_and, BitVec.getLsbD_zero] at hnone
  rw [BitVec.getLsbD_and, BitVec.getLsbD_not, decide_eq_true hi, Bool.true_and]
  cases ht : t.getLsbD i with
  | false => exact Bool.and_false _
  | true =>
      rw [ht, Bool.and_true] at hnone
      rw [hnone]
      rfl

/-- Bits that have no part in a question can be taken out before it is asked. -/
theorem contains_without {s t u : BitVec w} (h : intersects t u = false) :
    contains (without s t) u = contains s u := by
  rw [contains, without, BitVec.and_assoc, not_and_of_disjoint h, contains]

theorem intersects_without {s t u : BitVec w} (h : intersects t u = false) :
    intersects (without s t) u = intersects s u := by
  rw [intersects, without, BitVec.and_assoc, not_and_of_disjoint h, intersects]

theorem without_of_disjoint {s t : BitVec w} (h : intersects s t = false) : without s t = s := by
  rw [without, BitVec.and_comm, not_and_of_disjoint (intersects_comm t s ▸ h)]

theorem union_split (named : List (BitVec w)) (s : BitVec w) : union (split named s) = s := by
  induction named generalizing s with
  | nil =>
      unfold split
      split
      · next h => rw [h]; rfl
      · exact BitVec.or_zero
  | cons bit named ih =>
      unfold split
      split
      · next h =>
          show bit ||| union (split named (without s bit)) = s
          rw [ih, or_without s bit h]
      · exact ih s

end Bits

end CardHost
