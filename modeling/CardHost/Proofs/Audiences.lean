import CardHost.Proofs.Careers
import CardHost.Proofs.Scenes
import Mathlib.Data.Fintype.Basic

/-!
# Who Is Told About Events

A table of subscriptions is a list of windows with bit masks. It is meant to be
something simpler: a set of event classes for each window. Windows that are not in
the list have the empty set, and that is the only way to have it, so a window that
has lost its last class is as if it had never been there.

Both arguments of a cancellation, and the classes of a subscription, have a value
that stands for all. In the sets this is written out: `Topic.meant` turns the
classes that a client named into the classes that were meant, and a cancellation
without a window goes over every window.

`Mirrors` relates a table to its sets. Masks go over to sets bit by bit: a mask
that has class bits only is the mask of the set of its classes, and what is done to
masks, or and and-not, is what is done to sets. Each change keeps the relation, and
what the table does is then read off the sets: who is told, how many that are, and
whether a cancellation has taken anything from anyone.

## Main definitions

* `Topic`: The event classes, one by one.
* `EventClass.ofTopics`, `EventClass.topics`: The mask of a set, the set of a mask.
* `Subscriptions.Change`: What clients do to a table.
* `Audience`: A set of classes for each window; `Audience.after` is one change.
* `Subscriptions.Mirrors`: A table stands for sets.
* `Subscriptions.Serves`: What a table does, in terms of sets.

## Theorems

* `getLsbD_ofTopics`, `ofTopics_topics`: Masks and sets.
* `classes_add`, `classes_remove`: What a change makes of the mask of a window.
* `Mirrors.after`, `Mirrors.run`: One change; any number of them.
* `Mirrors.serves`: What a table does that stands for sets.
* `subscribers_served`: The tables of clients, over every run.
-/

namespace CardHost

variable {σ κ ε : Type}

/-- The event classes, one by one. -/
inductive Topic where
  | service
  | user
  | system
  | execute
  deriving DecidableEq

namespace Topic

instance : Fintype Topic where
  elems := {service, user, system, execute}
  complete topic := by cases topic <;> decide

/-- The class as a mask. -/
def bit : Topic → EventClass
  | service => EventClass.service
  | user => EventClass.user
  | system => EventClass.system
  | execute => EventClass.execute

/-- Which bit of a mask it is. -/
def index : Topic → Nat
  | service => 0
  | user => 1
  | system => 2
  | execute => 3

theorem index_lt (topic : Topic) : topic.index < 4 := by cases topic <;> decide

theorem index_inj : ∀ {topic topic' : Topic}, topic.index = topic'.index → topic = topic' := by
  decide

theorem bit_eq (topic : Topic) : topic.bit = BitVec.twoPow 32 topic.index := by
  cases topic <;> rfl

theorem getLsbD_bit (topic : Topic) (i : Nat) :
    topic.bit.getLsbD i = true ↔ topic.index = i := by
  have hbound := topic.index_lt
  rw [bit_eq, BitVec.getLsbD_twoPow, Bool.and_eq_true, decide_eq_true_eq, decide_eq_true_eq]
  omega

/-- The classes that are meant if some are named: all if none is. -/
def meant (named : Finset Topic) : Finset Topic := if named = ∅ then Finset.univ else named

theorem meant_ne_empty (named : Finset Topic) : meant named ≠ ∅ := by
  rw [meant]
  by_cases hempty : named = ∅
  · rw [if_pos hempty]
    exact Finset.ne_empty_of_mem (Finset.mem_univ service)
  · rw [if_neg hempty]
    exact hempty

/-- The classes in their order. -/
def inOrder : List Topic := [service, user, system, execute]

theorem mem_inOrder (topic : Topic) : topic ∈ inOrder := by cases topic <;> decide

end Topic

/-- The class of an event, `none` for a completion. -/
def MessageKind.topic? : MessageKind → Option Topic
  | executeEvent => some .execute
  | serviceEvent => some .service
  | userEvent => some .user
  | systemEvent => some .system
  | openComplete | closeComplete | lockComplete | unlockComplete | registerComplete
  | deregisterComplete | getInfoComplete | executeComplete => none

theorem MessageKind.eventClass_eq (kind : MessageKind) :
    kind.eventClass = kind.topic?.map Topic.bit := by cases kind <;> rfl

namespace Bits

variable {w : Nat}

theorem getLsbD_union (parts : List (BitVec w)) (i : Nat) :
    (union parts).getLsbD i = parts.any (·.getLsbD i) := by
  induction parts with
  | nil => exact BitVec.getLsbD_zero
  | cons part parts ih =>
      rw [List.any_cons, ← ih]
      exact BitVec.getLsbD_or

/-- Sets share a bit if there is one in both. -/
theorem intersects_iff (s t : BitVec w) :
    intersects s t = true ↔ ∃ i, s.getLsbD i = true ∧ t.getLsbD i = true := by
  rw [intersects, bne_iff_ne]
  constructor
  · intro hne
    by_contra hnone
    push Not at hnone
    refine hne (BitVec.eq_of_getLsbD_eq fun i _ => ?_)
    rw [BitVec.getLsbD_and, BitVec.getLsbD_zero]
    cases hs : s.getLsbD i with
    | false => rfl
    | true => rw [Bool.true_and, Bool.eq_false_iff.mpr (hnone i hs)]
  · rintro ⟨i, hs, ht⟩ hzero
    have hbit := congrArg (·.getLsbD i) hzero
    simp only [BitVec.getLsbD_and, hs, ht, BitVec.getLsbD_zero] at hbit
    cases hbit

end Bits

namespace EventClass

/-- The mask of a set of classes. -/
def ofTopics (topics : Finset Topic) : EventClass :=
  Bits.union ((Topic.inOrder.filter (· ∈ topics)).map Topic.bit)

/-- The classes in a mask. -/
def topics (mask : EventClass) : Finset Topic :=
  Finset.univ.filter fun topic => Bits.contains mask topic.bit = true

theorem mem_topics {mask : EventClass} {topic : Topic} :
    topic ∈ mask.topics ↔ mask.getLsbD topic.index = true := by
  have hbound := topic.index_lt
  rw [topics, Finset.mem_filter, Topic.bit_eq, Bits.contains_twoPow mask (by omega)]
  simp only [Finset.mem_univ, true_and]

theorem getLsbD_ofTopics (topics : Finset Topic) (i : Nat) :
    (ofTopics topics).getLsbD i = true ↔ ∃ topic ∈ topics, topic.index = i := by
  rw [ofTopics, Bits.getLsbD_union, List.any_map, List.any_eq_true]
  constructor
  · rintro ⟨topic, hmem, hbit⟩
    rw [List.mem_filter, decide_eq_true_eq] at hmem
    exact ⟨topic, hmem.2, (topic.getLsbD_bit i).mp hbit⟩
  · rintro ⟨topic, hmem, hindex⟩
    refine ⟨topic, List.mem_filter.mpr ⟨topic.mem_inOrder, ?_⟩, (topic.getLsbD_bit i).mpr hindex⟩
    exact decide_eq_true hmem

theorem getLsbD_ofTopics_index (topics : Finset Topic) (topic : Topic) :
    (ofTopics topics).getLsbD topic.index = true ↔ topic ∈ topics := by
  rw [getLsbD_ofTopics]
  constructor
  · rintro ⟨topic', hmem, hindex⟩
    exact Topic.index_inj hindex ▸ hmem
  · intro hmem
    exact ⟨topic, hmem, rfl⟩

theorem ofTopics_univ : ofTopics Finset.univ = all := by decide

/-- A mask of class bits is the mask of the set of its classes. -/
theorem ofTopics_topics {mask : EventClass} (h : Bits.contains all mask = true) :
    ofTopics mask.topics = mask := by
  refine BitVec.eq_of_getLsbD_eq fun i _ => Bool.eq_iff_iff.mpr ?_
  rw [getLsbD_ofTopics]
  constructor
  · rintro ⟨topic, hmem, rfl⟩
    exact mem_topics.mp hmem
  · intro hbit
    -- It is one of the bits that are classes.
    have hclass := (Bits.contains_iff all mask).mp h i hbit
    rw [← ofTopics_univ, getLsbD_ofTopics] at hclass
    rcases hclass with ⟨topic, -, rfl⟩
    exact ⟨topic, mem_topics.mpr hbit, rfl⟩

variable (s t : Finset Topic)

theorem ofTopics_union : ofTopics (s ∪ t) = ofTopics s ||| ofTopics t := by
  refine BitVec.eq_of_getLsbD_eq fun i _ => Bool.eq_iff_iff.mpr ?_
  simp only [BitVec.getLsbD_or, Bool.or_eq_true, getLsbD_ofTopics, Finset.mem_union, or_and_right,
    exists_or]

theorem ofTopics_sdiff : ofTopics (s \ t) = Bits.without (ofTopics s) (ofTopics t) := by
  refine BitVec.eq_of_getLsbD_eq fun i hi => Bool.eq_iff_iff.mpr ?_
  rw [Bits.without, BitVec.getLsbD_and, BitVec.getLsbD_not, decide_eq_true hi, Bool.true_and,
    Bool.and_eq_true, Bool.not_eq_true', Bool.eq_false_iff]
  simp only [ne_eq, getLsbD_ofTopics, Finset.mem_sdiff]
  constructor
  · rintro ⟨topic, ⟨hs, ht⟩, rfl⟩
    refine ⟨⟨topic, hs, rfl⟩, ?_⟩
    rintro ⟨topic', ht', hindex⟩
    exact ht (Topic.index_inj hindex ▸ ht')
  · rintro ⟨⟨topic, hs, rfl⟩, hnone⟩
    exact ⟨topic, ⟨hs, fun ht => hnone ⟨topic, ht, rfl⟩⟩, rfl⟩

theorem ofTopics_eq_zero : ofTopics s = 0#32 ↔ s = ∅ := by
  constructor
  · intro hzero
    refine Finset.eq_empty_of_forall_notMem fun topic hmem => ?_
    have hbit := (getLsbD_ofTopics_index s topic).mpr hmem
    rw [hzero, BitVec.getLsbD_zero] at hbit
    cases hbit
  · rintro rfl
    rfl

theorem intersects_ofTopics :
    Bits.intersects (ofTopics s) (ofTopics t) = true ↔ ∃ topic ∈ s, topic ∈ t := by
  rw [Bits.intersects_iff]
  constructor
  · rintro ⟨i, hs, ht⟩
    rcases (getLsbD_ofTopics s i).mp hs with ⟨topic, hmem, rfl⟩
    exact ⟨topic, hmem, (getLsbD_ofTopics_index t topic).mp ht⟩
  · rintro ⟨topic, hs, ht⟩
    exact ⟨topic.index, (getLsbD_ofTopics_index s topic).mpr hs,
      (getLsbD_ofTopics_index t topic).mpr ht⟩

theorem contains_ofTopics (topic : Topic) :
    Bits.contains (ofTopics s) topic.bit = true ↔ topic ∈ s := by
  have hbound := topic.index_lt
  rw [Topic.bit_eq, Bits.contains_twoPow _ (by omega), getLsbD_ofTopics_index]

theorem orAll_ofTopics : orAll (ofTopics s) = ofTopics (Topic.meant s) := by
  rw [orAll, Topic.meant]
  by_cases hempty : s = ∅
  · rw [if_pos hempty, if_pos ((ofTopics_eq_zero s).mpr hempty), ofTopics_univ]
  · rw [if_neg hempty, if_neg (fun hzero => hempty ((ofTopics_eq_zero s).mp hzero))]

end EventClass

namespace Subscriptions

variable {table : Subscriptions} {window : Window}

theorem classes_cons (entry : Window × EventClass) (rest : Subscriptions) (window : Window) :
    classes (entry :: rest) window = if entry.1 = window then entry.2 else classes rest window := by
  rw [classes, List.find?_cons]
  by_cases hsame : entry.1 = window
  · rw [if_pos hsame, beq_iff_eq.mpr hsame]
    rfl
  · rw [if_neg hsame, beq_eq_false_iff_ne.mpr hsame]
    rfl

/-- A window without an entry has no classes. -/
theorem classes_of_not_mem (h : window ∉ table.map Prod.fst) : table.classes window = 0#32 := by
  induction table with
  | nil => rfl
  | cons entry rest ih =>
      rw [List.map_cons, List.mem_cons, not_or] at h
      rw [classes_cons, if_neg (Ne.symm h.1), ih h.2]

/-- Entries have windows of their own, so each is what is found under its window. -/
theorem Ascending.classes_of_mem (h : table.Ascending) {entry : Window × EventClass}
    (hmem : entry ∈ table) : table.classes entry.1 = entry.2 := by
  induction table with
  | nil => cases hmem
  | cons first rest ih =>
      have hrest := List.pairwise_cons.mp h
      rw [classes_cons]
      rcases List.mem_cons.mp hmem with rfl | hmem
      · exact if_pos rfl
      · have hless := hrest.1 entry.1 (List.mem_map_of_mem hmem)
        rw [if_neg (UInt64.ne_of_lt hless), ih hrest.2 hmem]

/-- A window with classes has an entry that says so. -/
theorem mem_of_classes (h : table.classes window ≠ 0#32) :
    (window, table.classes window) ∈ table := by
  induction table with
  | nil => exact absurd rfl h
  | cons entry rest ih =>
      rw [classes_cons] at h ⊢
      by_cases hsame : entry.1 = window
      · rw [if_pos hsame, ← hsame]
        exact List.mem_cons_self
      · rw [if_neg hsame] at h ⊢
        exact List.mem_cons_of_mem _ (ih h)

/-- A subscription widens the mask of its window. -/
theorem classes_add (h : table.Ascending) (window : Window) (named : EventClass)
    (other : Window) :
    (table.add window named).classes other =
      if other = window then table.classes window ||| EventClass.orAll named
      else table.classes other := by
  rw [add]
  induction table with
  | nil =>
      simp only [widen, classes_cons, eq_comm (a := window)]
      split
      · exact BitVec.zero_or.symm
      · rfl
  | cons first rest ih =>
      have hrest := List.pairwise_cons.mp h
      rw [widen]
      by_cases hless : window < first.1
      · -- All windows of the table come later, so this one had no entry.
        have hnone : classes (first :: rest) window = 0#32 := by
          refine classes_of_not_mem fun hmem => ?_
          rcases List.mem_cons.mp hmem with hsame | hmem
          · exact UInt64.ne_of_lt hless hsame
          · exact UInt64.lt_irrefl window (UInt64.lt_trans hless (hrest.1 window hmem))
        rw [if_pos hless, hnone, BitVec.zero_or, classes_cons]
        simp only [eq_comm (a := window)]
      · by_cases hsame : window = first.1
        · rw [if_neg hless, if_pos hsame, classes_cons, classes_cons, classes_cons,
            if_pos hsame.symm, hsame]
          simp only [eq_comm (a := first.1)]
          split <;> rfl
        · rw [if_neg hless, if_neg hsame, classes_cons, classes_cons, classes_cons, ih hrest.2,
            if_neg (Ne.symm hsame)]
          by_cases hother : other = window
          · rw [if_pos hother, if_pos hother, hother, if_neg (Ne.symm hsame)]
          · rw [if_neg hother, if_neg hother]

/-- What is left by a cancellation: entries that it concerns with a part of their
    mask, unless that is empty, and all others. -/
theorem mem_remove {target : Option Window} {named : EventClass} {entry : Window × EventClass} :
    entry ∈ (table.remove target named).2 ↔
      (concerns target entry.1 = true ∧ entry.2 ≠ 0#32 ∧ ∃ mask, (entry.1, mask) ∈ table ∧
        entry.2 = Bits.without mask (EventClass.orAll named)) ∨
      (concerns target entry.1 = false ∧ entry ∈ table) := by
  simp only [remove, List.mem_filterMap]
  constructor
  · rintro ⟨⟨window, mask⟩, hmem, hkept⟩
    by_cases hconcerns : concerns target window = true
    · simp only [hconcerns, if_true] at hkept
      by_cases hnone : Bits.without mask (EventClass.orAll named) = 0#32
      · simp only [hnone, if_true, reduceCtorEq] at hkept
      · rw [if_neg hnone] at hkept
        cases hkept
        exact .inl ⟨hconcerns, hnone, mask, hmem, rfl⟩
    · rw [if_neg hconcerns] at hkept
      cases hkept
      exact .inr ⟨Bool.eq_false_iff.mpr hconcerns, hmem⟩
  · rintro (⟨hconcerns, hsome, mask, hmem, hmask⟩ | ⟨hconcerns, hmem⟩)
    · refine ⟨(entry.1, mask), hmem, ?_⟩
      rw [if_pos hconcerns, ← hmask]
      exact if_neg hsome
    · exact ⟨entry, hmem, if_neg (Bool.eq_false_iff.mp hconcerns)⟩

/-- A cancellation narrows the masks that it concerns. -/
theorem classes_remove (h : table.Ascending) (target : Option Window) (named : EventClass)
    (window : Window) :
    (table.remove target named).2.classes window =
      if concerns target window then
        Bits.without (table.classes window) (EventClass.orAll named)
      else table.classes window := by
  by_cases hmem : window ∈ ((table.remove target named).2).map Prod.fst
  · -- The entry that is left tells what there was.
    rcases List.mem_map.mp hmem with ⟨entry, hentry, rfl⟩
    rw [(h.remove target named).classes_of_mem hentry]
    rcases mem_remove.mp hentry with ⟨hconcerns, -, mask, hold, hmask⟩ | ⟨hconcerns, hold⟩
    · rw [if_pos hconcerns, h.classes_of_mem hold, hmask]
    · rw [if_neg (Bool.eq_false_iff.mp hconcerns), h.classes_of_mem hold]
  · -- Classes that were left would have left an entry.
    have hleft : ∀ mask, (window, mask) ∉ (table.remove target named).2 :=
      fun mask hmask => hmem (List.mem_map_of_mem hmask)
    rw [classes_of_not_mem hmem]
    by_cases hconcerns : concerns target window = true
    · rw [if_pos hconcerns]
      by_contra hsome
      have hbefore : table.classes window ≠ 0#32 := by
        intro hzero
        rw [hzero] at hsome
        exact hsome BitVec.zero_and.symm
      exact hleft _ (mem_remove.mpr
        (.inl ⟨hconcerns, Ne.symm hsome, _, mem_of_classes hbefore, rfl⟩))
    · rw [if_neg hconcerns]
      by_contra hsome
      exact hleft _ (mem_remove.mpr
        (.inr ⟨Bool.eq_false_iff.mpr hconcerns, mem_of_classes (Ne.symm hsome)⟩))

theorem concerns_iff (target : Option Window) (window : Window) :
    concerns target window = true ↔ target = none ∨ target = some window := by
  rcases target with _ | other
  · exact ⟨fun _ => .inl rfl, fun _ => rfl⟩
  · simp [concerns]

/-- What clients do to a table. -/
inductive Change where
  | add (window : Window) (named : EventClass)
  | remove (target : Option Window) (named : EventClass)

/-- A change that names classes by bits that there are. -/
def Change.Valid : Change → Prop
  | add _ named | remove _ named => Bits.contains EventClass.all named = true

/-- The table after a change. -/
def after (table : Subscriptions) : Change → Subscriptions
  | .add window named => table.add window named
  | .remove target named => (table.remove target named).2

/-- The table that changes make of an empty one. -/
def run (changes : List Change) : Subscriptions := changes.foldl after []

end Subscriptions

/-- The classes that each window is subscribed to. -/
abbrev Audience := Window → Finset Topic

namespace Audience

/-- The subscribers after a change. No class stands for all, and no window for
    every one. -/
def after (audience : Audience) : Subscriptions.Change → Audience
  | .add window named => fun other =>
    if other = window then audience other ∪ Topic.meant named.topics else audience other
  | .remove target named => fun window =>
    if target = none ∨ target = some window then audience window \ Topic.meant named.topics
    else audience window

theorem after_add (audience : Audience) (window : Window) (named : EventClass)
    (other : Window) :
    audience.after (.add window named) other =
      if other = window then audience other ∪ Topic.meant named.topics else audience other := rfl

theorem after_remove (audience : Audience) (target : Option Window) (named : EventClass)
    (window : Window) :
    audience.after (.remove target named) window =
      if target = none ∨ target = some window then audience window \ Topic.meant named.topics
      else audience window := rfl

/-- The subscribers that changes make of nobody. -/
def run (changes : List Subscriptions.Change) : Audience := changes.foldl after fun _ => ∅

end Audience

namespace Subscriptions

variable {table : Subscriptions} {audience : Audience}

/-- A table stands for sets of classes. -/
structure Mirrors (table : Subscriptions) (audience : Audience) : Prop where
  ascending : table.Ascending
  /-- Windows without classes have no entry. -/
  nonempty : ∀ entry ∈ table, entry.2 ≠ 0#32
  classes : ∀ window, table.classes window = EventClass.ofTopics (audience window)

/-- What a table does, in terms of the sets that it stands for. -/
structure Serves (table : Subscriptions) (audience : Audience) : Prop where
  /-- The mask of a window is that of its set. -/
  classes : ∀ window, table.classes window = EventClass.ofTopics (audience window)
  /-- No empty mask is kept. -/
  nonempty : ∀ entry ∈ table, entry.2 ≠ 0#32
  /-- A cancellation tells whether it has taken a class from a window. -/
  removal : ∀ (target : Option Window) (named : EventClass),
    Bits.contains EventClass.all named = true →
      ((table.remove target named).1 = true ↔ ∃ window, ∃ topic ∈ audience window,
        topic ∉ audience.after (.remove target named) window)
  /-- An event goes to the windows that are subscribed to its class, once to each,
      in their order, and they are counted. -/
  event : ∀ message topic, message.kind.topic? = some topic →
    ∃ windows : List Window, windows.Pairwise (· < ·) ∧
      (∀ window, window ∈ windows ↔ topic ∈ audience window) ∧
      table.notify message = (windows.length, windows.map fun window => ⟨window, message⟩)
  /-- A completion goes to none of them. -/
  completion : ∀ message, message.kind.topic? = none → table.notify message = (0, [])

/-- The classes that are meant by a mask, as a mask. -/
theorem orAll_eq {named : EventClass} (h : Bits.contains EventClass.all named = true) :
    named.orAll = EventClass.ofTopics (Topic.meant named.topics) := by
  rw [← EventClass.orAll_ofTopics, EventClass.ofTopics_topics h]

theorem mirrors_nil : Mirrors [] fun _ => ∅ where
  ascending := List.Pairwise.nil
  nonempty _ hentry := nomatch hentry
  classes _ := rfl

theorem Mirrors.add (h : table.Mirrors audience) (window : Window) {named : EventClass}
    (hvalid : Bits.contains EventClass.all named = true) :
    (table.add window named).Mirrors (audience.after (.add window named)) := by
  have hascending : (table.add window named).Ascending := h.ascending.widen window _
  have hclasses := classes_add h.ascending window named
  have hmeant : named.orAll ≠ 0#32 := by
    rw [orAll_eq hvalid, ne_eq, EventClass.ofTopics_eq_zero]
    exact Topic.meant_ne_empty named.topics
  refine ⟨hascending, fun entry hentry => ?_, fun other => ?_⟩
  · rw [← hascending.classes_of_mem hentry, hclasses]
    by_cases hother : entry.1 = window
    · rw [if_pos hother]
      exact fun hzero => hmeant (BitVec.or_eq_zero_iff.mp hzero).2
    · -- The entry was there before, and it was not empty.
      rcases mem_widen (List.mem_map_of_mem hentry) with hsame | hold
      · exact absurd hsame hother
      · rcases List.mem_map.mp hold with ⟨entry', hentry', hsame⟩
        rw [if_neg hother, ← hsame, h.ascending.classes_of_mem hentry']
        exact h.nonempty entry' hentry'
  · rw [hclasses, h.classes, h.classes, orAll_eq hvalid, Audience.after_add]
    by_cases hother : other = window
    · rw [if_pos hother, if_pos hother, hother, EventClass.ofTopics_union]
    · rw [if_neg hother, if_neg hother]

theorem Mirrors.remove (h : table.Mirrors audience) (target : Option Window) {named : EventClass}
    (hvalid : Bits.contains EventClass.all named = true) :
    (table.remove target named).2.Mirrors (audience.after (.remove target named)) := by
  refine ⟨h.ascending.remove target named, fun entry hentry => ?_, fun window => ?_⟩
  · rcases mem_remove.mp hentry with ⟨-, hsome, -⟩ | ⟨-, hold⟩
    · exact hsome
    · exact h.nonempty entry hold
  · rw [classes_remove h.ascending, h.classes, orAll_eq hvalid, Audience.after_remove]
    by_cases hconcerns : concerns target window = true
    · rw [if_pos hconcerns, if_pos ((concerns_iff target window).mp hconcerns),
        EventClass.ofTopics_sdiff]
    · rw [if_neg hconcerns,
        if_neg fun hmeant => hconcerns ((concerns_iff target window).mpr hmeant)]

/-- A change of the table is the change of the sets. -/
theorem Mirrors.after (h : table.Mirrors audience) {change : Change} (hvalid : change.Valid) :
    (table.after change).Mirrors (audience.after change) := by
  cases change with
  | add window named => exact h.add window hvalid
  | remove target named => exact h.remove target hvalid

/-- Any number of changes. -/
theorem Mirrors.run {changes : List Change} (hvalid : ∀ change ∈ changes, change.Valid) :
    (Subscriptions.run changes).Mirrors (Audience.run changes) := by
  induction changes using List.reverseRecOn with
  | nil => exact mirrors_nil
  | append_singleton changes change ih =>
      rw [Subscriptions.run, Audience.run, List.foldl_append, List.foldl_append]
      refine (ih fun other hother => hvalid other ?_).after (hvalid change ?_)
      · exact List.mem_append_left _ hother
      · exact List.mem_append_right _ List.mem_cons_self

/-- Who is told are the windows whose set has the class. -/
theorem Mirrors.mem_recipients (h : table.Mirrors audience) (topic : Topic) (window : Window) :
    window ∈ table.recipients topic.bit ↔ topic ∈ audience window := by
  rw [← EventClass.contains_ofTopics, ← h.classes, Subscriptions.mem_recipients]
  constructor
  · rintro ⟨mask, hmem, hclass⟩
    rw [h.ascending.classes_of_mem hmem]
    exact hclass
  · intro hclass
    refine ⟨table.classes window, mem_of_classes ?_, hclass⟩
    intro hzero
    have hbound := topic.index_lt
    rw [hzero, Topic.bit_eq, Bits.contains_twoPow _ (by omega), BitVec.getLsbD_zero] at hclass
    cases hclass

/-- What a table does that stands for sets. -/
theorem Mirrors.serves (h : table.Mirrors audience) : table.Serves audience where
  classes := h.classes
  nonempty := h.nonempty
  removal target named hvalid := by
    rw [Subscriptions.remove, List.any_eq_true]
    constructor
    · rintro ⟨entry, hentry, hfound⟩
      rw [Bool.and_eq_true] at hfound
      rw [← h.ascending.classes_of_mem hentry, h.classes, orAll_eq hvalid,
        EventClass.intersects_ofTopics] at hfound
      rcases hfound with ⟨hconcerns, topic, hhad, hmeant⟩
      refine ⟨entry.1, topic, hhad, ?_⟩
      rw [Audience.after_remove, if_pos ((concerns_iff target entry.1).mp hconcerns),
        Finset.mem_sdiff]
      exact fun hleft => hleft.2 hmeant
    · rintro ⟨window, topic, hhad, hlost⟩
      rw [Audience.after_remove] at hlost
      split at hlost
      · next hconcerns =>
          rw [Finset.mem_sdiff, not_and, not_not] at hlost
          have hshares : Bits.intersects (table.classes window) named.orAll = true := by
            rw [h.classes, orAll_eq hvalid, EventClass.intersects_ofTopics]
            exact ⟨topic, hhad, hlost hhad⟩
          have hsome : table.classes window ≠ 0#32 := by
            rw [h.classes, ne_eq, EventClass.ofTopics_eq_zero]
            exact Finset.ne_empty_of_mem hhad
          refine ⟨_, mem_of_classes hsome, ?_⟩
          rw [Bool.and_eq_true]
          exact ⟨(concerns_iff target window).mpr hconcerns, hshares⟩
      · exact absurd hhad hlost
  event message topic htopic := by
    refine ⟨table.recipients topic.bit, h.ascending.sublist (List.filter_sublist.map _),
      h.mem_recipients topic, ?_⟩
    rw [notify_eq, posts, MessageKind.eventClass_eq, htopic]
    simp only [Option.map_some, List.length_map]
  completion message htopic := by
    rw [notify, MessageKind.eventClass_eq, htopic]
    rfl

end Subscriptions

/-- The change of a table that an operation makes. -/
def Session.Operation.change? : Operation → Option Subscriptions.Change
  | register window named => some (.add window named)
  | deregister target named => some (.remove target named)
  | reread _ | setTraceLevel _ | ask _ | disconnect | notify .. => none

/-- The changes that were made to the subscriptions of a session. -/
def Career.changes (career : Career) : List Subscriptions.Change :=
  career.operations.filterMap Session.Operation.change?

theorem Career.changes_extend (career : Career) (operation : Session.Operation) :
    (career.extend operation).changes = career.changes ++ operation.change?.toList :=
  career.filterMap_extend Session.Operation.change? operation

/-- The subscriptions of a session are what these changes make. -/
theorem Career.terms_subscriptions (career : Career) :
    career.terms.subscriptions = Subscriptions.run career.changes := by
  induction career using induct with
  | hstart opening => rfl
  | hextend career operation ih =>
      rw [terms_extend, changes_extend, Subscriptions.run, List.foldl_append, ← Subscriptions.run,
        ← ih]
      cases operation with
      | reread | setTraceLevel | register | deregister | ask | disconnect => rfl
      | notify state kind =>
          cases kind with
          | deviceList => rfl
          | card =>
              rw [Session.Terms.after]
              split <;> rfl

/-- A client that names other bits than classes is refused. -/
theorem EventClass.contains_of_ofBits? {bits : BitVec 32} {named : EventClass}
    (h : ofBits? bits = some named) : Bits.contains all named = true := by
  rw [ofBits?] at h
  split at h
  · next hbits =>
      cases h
      exact hbits
  · cases h

theorem Entry.bearing_valid {entry : Entry} {config : Config} {operation : Session.Operation}
    (h : entry.bearing config = .does operation) :
    ∀ change, operation.change? = some change → change.Valid := by
  intro change hchange
  cases entry with
  | register call classes window | deregister call classes window =>
      rw [bearing] at h
      rcases hbits : EventClass.ofBits? classes with _ | named
      · rw [hbits] at h
        cases h
      · rw [hbits] at h
        cases h
        cases hchange
        exact EventClass.contains_of_ofBits? hbits
  | openSession call logicalName traceLevel =>
      rw [bearing] at h
      rcases hresolved : Settings.Resolved.of? config logicalName with _ | first
      · rw [hresolved] at h
        cases h
      · rw [hresolved] at h
        cases h
  | setTraceLevel | reload =>
      cases h
      cases hchange
  | closeSession | lock | unlock | getInfo | execute | executeRaw | cancelAsync | unload => cases h

namespace Stage

/-- Tables of subscriptions are sets of classes, one for each window. Whatever is
    subscribed to and cancelled, with masks of class bits, the mask of a window is
    that of its set; none that is empty is kept; a cancellation tells truly whether
    it took a class from a window; and an event goes once, in the order of windows,
    to those that have its class, who are counted, while a completion goes to
    nobody. The tables of sessions are of this kind at every moment of every run:
    they come about by the calls that clients have made since the session was
    opened, and calls with other bits have no part in it. -/
theorem subscribers_served (b : Backend σ κ ε) (hardware : σ) (config : Config)
    (moves : List (Move σ)) :
    (∀ changes : List Subscriptions.Change, (∀ change ∈ changes, change.Valid) →
      (Subscriptions.run changes).Serves (Audience.run changes)) ∧
      let first : Stage σ κ ε := start hardware config
      ∀ handle s, (first.run b moves).provider.hub.session? handle = some s →
        ∃ career, first.career b handle moves none = some career ∧
          s.subscriptions = Subscriptions.run career.changes ∧
          (∀ change ∈ career.changes, change.Valid) ∧
          s.subscriptions.Serves (Audience.run career.changes) := by
  refine ⟨fun changes hvalid => (Subscriptions.Mirrors.run hvalid).serves,
    fun handle s hopen => ?_⟩
  rcases career_of_open b hardware config moves hopen with ⟨career, hcareer, hterms⟩
  have htable : s.subscriptions = Subscriptions.run career.changes :=
    (congrArg (·.subscriptions) hterms).trans career.terms_subscriptions
  have hvalid : ∀ change ∈ career.changes, change.Valid := by
    have hnone : ∀ career, (none : Option Career) = some career →
        ∀ change ∈ career.changes, change.Valid := fun _ h => nomatch h
    refine career_induct (fun opening change hmem => nomatch hmem) ?_ moves hnone hcareer
    intro st move operation before hdoes hbefore change hmem
    rw [Career.changes_extend] at hmem
    rcases List.mem_append.mp hmem with hmem | hmem
    · exact hbefore change hmem
    · rcases bearing_does hdoes with ⟨state, kind, rfl⟩ | ⟨entry, hentry⟩
      · cases hmem
      · exact Entry.bearing_valid hentry change (Option.mem_toList.mp hmem)
  refine ⟨career, hcareer, htable, hvalid, ?_⟩
  rw [htable]
  exact (Subscriptions.Mirrors.run hvalid).serves

end Stage

end CardHost
