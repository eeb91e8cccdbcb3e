import CardHost.Idc.CardData

/-!
# The Members of a Bit Set

A word is taken apart by going through the named bits in their order, and whatever is
left in the end is one last part. That the parts together are the word is known from
the recursion. That they do not overlap is not much harder: a named bit is taken out of
the word before the others are looked for, so what comes later lies in what is left.

What the parts are is another matter. It depends on the names. If a name stood for two
bits at once, or two names for the same one, a bit could stay behind because the name
it belongs to was not found as a whole, or because it was used up. For names of single
bits that are all different, `split_eq` says that the parts are just the names that
occur, in the order in which names are listed, and then the bits without a name.

The sources of a read are such a set. They are named from the lowest bit on, so the
bits without a name are all above the named ones, and the answer goes through the
request from the lowest part to the highest.

## Main definitions

* `Bits.Single`: A set is found as a whole or not at all.
* `DataSources.unnamed`: The bits of a request that name no source.
* `CardData.Partitions`: An answer takes a request apart.

## Theorems

* `split_disjoint`, `ne_zero_of_mem_split`: The parts do not overlap, and none is empty.
* `split_eq`: The parts, for names of single bits.
* `read_sources`: The sources of an answer.
* `read_ascending`: They go from the lowest to the highest.
* `read_element`: What is said about a source.
* `read_partitions`: All of this of the answer to a read.
-/

namespace CardHost

namespace Bits

variable {w : Nat} {named : List (BitVec w)} {s t u bit : BitVec w}

/-- A set is found in another as a whole or not at all, as a single bit is. -/
def Single (bit : BitVec w) : Prop := ∀ s, contains s bit = false → intersects s bit = false

theorem single_twoPow (i : Nat) : Single (BitVec.twoPow w i) := by
  intro s hnot
  rw [contains, BitVec.and_twoPow] at hnot
  rw [intersects, BitVec.and_twoPow]
  cases hbit : s.getLsbD i with
  | true =>
      rw [hbit, if_pos rfl, beq_self_eq_true] at hnot
      cases hnot
  | false =>
      rw [if_neg Bool.false_ne_true]
      exact bne_self_eq_false _

theorem and_eq_zero_of_disjoint (h : intersects s t = false) : s &&& t = 0#w := by
  rw [intersects, bne_eq_false_iff_eq] at h
  exact h

theorem contains_self (s : BitVec w) : contains s s = true := by
  rw [contains, BitVec.and_self]
  exact beq_self_eq_true s

/-- What lies in a set without some bits lies in the set. -/
theorem contains_of_without (h : contains (without s t) u = true) : contains s u = true := by
  rw [contains_iff] at h ⊢
  intro i hi
  have hleft := h i hi
  rw [without, BitVec.getLsbD_and, Bool.and_eq_true] at hleft
  exact hleft.1

/-- And it has none of these bits. -/
theorem disjoint_of_without (h : contains (without s t) u = true) : intersects t u = false := by
  rw [intersects, bne_eq_false_iff_eq]
  refine BitVec.eq_of_getLsbD_eq fun i _ => ?_
  rw [BitVec.getLsbD_and, BitVec.getLsbD_zero]
  cases hu : u.getLsbD i with
  | false => exact Bool.and_false _
  | true =>
      have hleft := (contains_iff _ _).mp h i hu
      rw [without, BitVec.getLsbD_and, BitVec.getLsbD_not, Bool.and_eq_true, Bool.and_eq_true,
        Bool.not_eq_true'] at hleft
      rw [hleft.2.2]
      rfl

theorem contains_of_mem_split (h : t ∈ split named s) : contains s t = true := by
  induction named generalizing s with
  | nil =>
      rw [split] at h
      split at h
      · cases h
      · rw [List.mem_singleton.mp h]
        exact contains_self s
  | cons bit named ih =>
      rw [split] at h
      split at h
      · next hfound =>
          rcases List.mem_cons.mp h with rfl | h
          · exact hfound
          · exact contains_of_without (ih h)
      · exact ih h

/-- The parts of a set do not overlap. -/
theorem split_disjoint (named : List (BitVec w)) (s : BitVec w) :
    (split named s).Pairwise fun part later => intersects part later = false := by
  induction named generalizing s with
  | nil =>
      rw [split]
      split
      · exact List.Pairwise.nil
      · exact List.pairwise_singleton _ _
  | cons bit named ih =>
      rw [split]
      split
      · -- What is found later lies in the set that the bit was taken out of.
        exact List.pairwise_cons.mpr
          ⟨fun later hlater => disjoint_of_without (contains_of_mem_split hlater), ih _⟩
      · exact ih s

/-- None of them is empty, as long as no name is. -/
theorem ne_zero_of_mem_split (hnamed : ∀ bit ∈ named, bit ≠ 0#w) (h : t ∈ split named s) :
    t ≠ 0#w := by
  induction named generalizing s with
  | nil =>
      rw [split] at h
      split at h
      · cases h
      · next hrest =>
          rw [List.mem_singleton.mp h]
          exact hrest
  | cons bit named ih =>
      have hnamed' : ∀ bit ∈ named, bit ≠ 0#w := fun bit hbit =>
        hnamed bit (List.mem_cons_of_mem _ hbit)
      rw [split] at h
      split at h
      · rcases List.mem_cons.mp h with rfl | h
        · exact hnamed t List.mem_cons_self
        · exact ih hnamed' h
      · exact ih hnamed' h

/-- To take two sets out is to take out both at once. -/
theorem without_without (s t u : BitVec w) : without (without s t) u = without s (t ||| u) := by
  rw [without, without, without, BitVec.not_or, BitVec.and_assoc]

/-- The parts of a set are the names that occur in it, in their order, and then the
    bits without a name, if there are any. -/
theorem split_eq (hsingle : ∀ bit ∈ named, Single bit)
    (hother : named.Pairwise fun bit later => intersects bit later = false) (s : BitVec w) :
    split named s = named.filter (contains s) ++
      if without s (union named) = 0#w then [] else [without s (union named)] := by
  induction named generalizing s with
  | nil =>
      have hall : without s (union []) = s := without_of_disjoint (by
        rw [union, List.foldr_nil, intersects, BitVec.and_zero]
        exact bne_self_eq_false _)
      rw [split, hall]
      rfl
  | cons bit named ih =>
      rcases List.pairwise_cons.mp hother with ⟨hbit, hrest⟩
      have hrec := ih (fun later hlater => hsingle later (List.mem_cons_of_mem _ hlater)) hrest
      have hunion : union (bit :: named) = bit ||| union named := rfl
      rw [split, hunion, ← without_without]
      cases hfound : contains s bit with
      | true =>
          rw [if_pos rfl, List.filter_cons_of_pos hfound, hrec, List.cons_append]
          -- The other names are found with the bit taken out or not.
          rw [List.filter_congr fun later hlater => contains_without (hbit later hlater)]
      | false =>
          rw [if_neg Bool.false_ne_true, List.filter_cons_of_neg (Bool.eq_false_iff.mp hfound),
            hrec, without_of_disjoint (hsingle bit List.mem_cons_self s hfound)]

end Bits

/-- A source has a bit, and that is one of the lowest four. -/
theorem DataSources.known_range {bit : DataSources} (h : bit ∈ known) :
    bit ≠ 0#16 ∧ bit.toNat ≤ 8 := by
  simp only [known, List.mem_cons, List.not_mem_nil, or_false] at h
  rcases h with rfl | rfl | rfl | rfl <;> exact ⟨by decide, by decide⟩

/-- The bits of a request that name no source. -/
def DataSources.unnamed (sources : DataSources) : DataSources :=
  Bits.without sources DataSources.all

/-- They are all above the bits that do. -/
theorem DataSources.unnamed_above {sources bit : DataSources} (h : sources.unnamed ≠ 0#16)
    (hbit : bit ∈ known) : bit.toNat < sources.unnamed.toNat := by
  have hnone : sources.unnamed &&& 0xf#16 = 0#16 := by
    rw [unnamed, Bits.without, BitVec.and_assoc]
    exact BitVec.and_zero
  have hlow : sources.unnamed.toNat % 2 ^ 4 = 0 := by
    rw [← Nat.and_two_pow_sub_one_eq_mod]
    exact (BitVec.toNat_and _ _).symm.trans (congrArg BitVec.toNat hnone)
  have hpos : sources.unnamed.toNat ≠ 0 := fun hzero => h (BitVec.eq_of_toNat_eq hzero)
  have hbelow := (known_range hbit).2
  omega

namespace CardData

variable {sources : DataSources} {atr : Bytes}

/-- The sources of an answer are those of the request that have a name, in their order,
    and then all the others as one. -/
theorem read_sources (sources : DataSources) (atr : Bytes) :
    (read sources atr).map source = DataSources.known.filter (Bits.contains sources) ++
      if sources.unnamed = 0#16 then [] else [sources.unnamed] := by
  have hsource : source ∘ ofSource atr = id := funext (ofSource_source atr)
  have hknown : DataSources.known = [0, 1, 2, 3].map (BitVec.twoPow 16) := by decide
  rw [read, List.map_map, hsource, List.map_id]
  refine Bits.split_eq (fun bit hbit => ?_) (by decide) sources
  rw [hknown] at hbit
  rcases List.mem_map.mp hbit with ⟨i, -, rfl⟩
  exact Bits.single_twoPow i

/-- They go from the lowest to the highest. -/
theorem read_ascending (sources : DataSources) (atr : Bytes) :
    ((read sources atr).map fun element => element.source.toNat).Pairwise (· < ·) := by
  have hmap : ((read sources atr).map fun element => element.source.toNat) =
      ((read sources atr).map source).map BitVec.toNat := by
    rw [List.map_map]
    rfl
  have hknown : (DataSources.known.map BitVec.toNat).Pairwise (· < ·) := by decide
  rw [hmap, read_sources, List.map_append, List.pairwise_append]
  refine ⟨hknown.sublist (List.filter_sublist.map _), ?_, fun low hlow high hhigh => ?_⟩
  · split
    · exact List.Pairwise.nil
    · exact List.pairwise_singleton _ _
  · split at hhigh
    · cases hhigh
    · next hrest =>
        rcases List.mem_map.mp hlow with ⟨bit, hbit, rfl⟩
        rw [List.mem_singleton.mp hhigh]
        exact DataSources.unnamed_above hrest (List.mem_filter.mp hbit).1

theorem read_disjoint (sources : DataSources) (atr : Bytes) :
    ((read sources atr).map source).Pairwise fun s t => s &&& t = 0#16 := by
  have hsource : source ∘ ofSource atr = id := funext (ofSource_source atr)
  rw [read, List.map_map, hsource, List.map_id]
  exact (Bits.split_disjoint _ _).imp Bits.and_eq_zero_of_disjoint

/-- What is said about a source: the chip has its answer to reset, and is missing if
    that is empty, and no other source is supported. -/
theorem read_element {element : CardData} (h : element ∈ read sources atr) :
    element.source ≠ 0#16 ∧
      (element.source = DataSources.chip →
        element.data = atr ∧ element.status = if atr = [] then .missing else .ok) ∧
      (element.source ≠ DataSources.chip →
        element.data = [] ∧ element.status = .sourceNotSupp) := by
  rcases List.mem_map.mp h with ⟨part, hpart, rfl⟩
  have hnonzero : part ≠ 0#16 := Bits.ne_zero_of_mem_split
    (fun bit hbit => (DataSources.known_range hbit).1) hpart
  rw [ofSource_source]
  refine ⟨hnonzero, fun hchip => ?_, fun hother => ?_⟩
  · rw [ofSource, if_pos hchip]
    exact ⟨rfl, by simp only [List.isEmpty_iff]⟩
  · rw [ofSource, if_neg hother]
    exact ⟨rfl, rfl⟩

/-- An answer takes a request apart, and says of the chip what its answer to reset is. -/
structure Partitions (sources : DataSources) (atr : Bytes) (data : List CardData) : Prop where
  /-- The sources with a name come first, in their order, and all other bits last. -/
  parts : data.map source = DataSources.known.filter (Bits.contains sources) ++
    if sources.unnamed = 0#16 then [] else [sources.unnamed]
  /-- No element is about no source. -/
  nonempty : ∀ element ∈ data, element.source ≠ 0#16
  /-- No bit is in two elements. -/
  disjoint : (data.map source).Pairwise fun s t => s &&& t = 0#16
  /-- No bit of the request is in none, and no other bit in any. -/
  union : Bits.union (data.map source) = sources
  ascending : (data.map fun element => element.source.toNat).Pairwise (· < ·)
  chip : ∀ element ∈ data, element.source = DataSources.chip →
    element.data = atr ∧ element.status = if atr = [] then .missing else .ok
  other : ∀ element ∈ data, element.source ≠ DataSources.chip →
    element.data = [] ∧ element.status = .sourceNotSupp

theorem read_partitions (sources : DataSources) (atr : Bytes) :
    Partitions sources atr (read sources atr) where
  parts := read_sources sources atr
  nonempty _ h := (read_element h).1
  disjoint := read_disjoint sources atr
  union := union_read_source sources atr
  ascending := read_ascending sources atr
  chip _ h := (read_element h).2.1
  other _ h := (read_element h).2.2

end CardData

end CardHost
