import CardHost.Pending.Queue
import Mathlib.Data.List.Nodup

/-!
# The Agenda Behind the Two Indexes

A queue keeps its requests under two indexes, and nothing in its type says
that the two agree. What says so is an agenda: one list of requests with their
slots, of which both indexes are images. The index by deadline is the agenda
with the requests replaced by their keys, in the same order. The index by key
is the agenda in any order, since it is only ever searched.

`Indexes` is that relation, together with what makes the agenda one that a
queue can have: slots ascend strictly, keys are all different, a slot carries
the deadline of its request, and its number was given out before. Every
operation of the queue is then an operation on the agenda. Requests are taken
out by filtering, and a new request goes behind all that are due no later.

The agenda is what the proofs are about, and the queue is only ever asked
which agenda it indexes. So a lemma about an operation names the agenda before
and the agenda after, and no proof outside this module opens an index.

## Main definitions

* `Agenda`: Requests with their slots, in order.
* `RequestQueue.Indexes`: Both indexes are images of an agenda.
* `enterBy`, `Agenda.enter`: A list, and the agenda, with a new member at its
  place.

## Theorems

* `indexes_empty`: The empty queue indexes the empty agenda.
* `Indexes.find?_eq_some_iff`: A search by key finds what is on the agenda.
* `Indexes.live_eq`: The requests of the queue are those of the agenda.
* `Indexes.insert`: A new request enters the agenda.
* `Indexes.remove`: Removing a key filters the agenda.
* `Indexes.removeAll`: Removing the keys of some entries filters them out.
* `Indexes.splitDue`: Splitting at an instant filters by deadline.
-/

namespace CardHost

/-- Requests with their slots, in order of the slots. -/
abbrev Agenda := List (Slot × PendingRequest)

/-- A list with a new member, behind every member that is due no later. -/
def enterBy {α : Type} (due : α → Instant) (a : α) : List α → List α
  | [] => [a]
  | b :: rest => if due a < due b then a :: b :: rest else b :: enterBy due a rest

/-- The agenda with a new entry at its place. -/
def Agenda.enter (entry : Slot × PendingRequest) (agenda : Agenda) : Agenda :=
  enterBy (fun e => e.2.deadline) entry agenda

theorem Slot.before_iff (a b : Slot) :
    a.before b = true ↔
      a.deadline < b.deadline ∨ a.deadline = b.deadline ∧ a.arrival < b.arrival := by
  simp only [before, Bool.or_eq_true, Bool.and_eq_true, decide_eq_true_eq, beq_iff_eq]

theorem Slot.before_trans {a b c : Slot} (hab : a.before b = true) (hbc : b.before c = true) :
    a.before c = true := by
  rw [before_iff] at hab hbc ⊢
  unfold Instant at *
  omega

theorem Slot.ne_of_before {a b : Slot} (h : a.before b = true) : a ≠ b := by
  rintro rfl
  rw [before_iff] at h
  unfold Instant at *
  omega

/-- A slot that was given out later comes first only by its deadline. -/
theorem Slot.before_iff_of_later {a b : Slot} (h : b.arrival < a.arrival) :
    a.before b = true ↔ a.deadline < b.deadline := by
  rw [before_iff]
  unfold Instant
  omega

theorem enterBy_perm {α : Type} (due : α → Instant) (a : α) (l : List α) :
    (enterBy due a l).Perm (a :: l) := by
  induction l with
  | nil => exact List.Perm.refl _
  | cons b rest ih =>
      unfold enterBy
      split
      · exact List.Perm.refl _
      · -- The new member went into the rest, so it is moved past `b`.
        exact (ih.cons b).trans (List.Perm.swap a b rest)

theorem map_enterBy {α β : Type} (due : β → Instant) (f : α → β) (a : α) (l : List α) :
    (enterBy (fun x => due (f x)) a l).map f = enterBy due (f a) (l.map f) := by
  induction l with
  | nil => rfl
  | cons b rest ih =>
      rw [List.map_cons, enterBy, enterBy, apply_ite (List.map f), List.map_cons, List.map_cons,
        List.map_cons, ih]

theorem Agenda.mem_enter {entry e : Slot × PendingRequest} {agenda : Agenda} :
    e ∈ agenda.enter entry ↔ e = entry ∨ e ∈ agenda := by
  rw [enter, (enterBy_perm _ _ _).mem_iff, List.mem_cons]

theorem Agenda.enter_sorted {entry : Slot × PendingRequest} {agenda : Agenda}
    (hentry : entry.1.deadline = entry.2.deadline)
    (hdeadline : ∀ e ∈ agenda, e.1.deadline = e.2.deadline)
    (hlater : ∀ e ∈ agenda, e.1.arrival < entry.1.arrival)
    (hsorted : agenda.Pairwise fun a b => a.1.before b.1 = true) :
    (agenda.enter entry).Pairwise fun a b => a.1.before b.1 = true := by
  unfold enter
  induction agenda with
  | nil => exact List.pairwise_singleton _ _
  | cons other rest ih =>
      rcases List.pairwise_cons.mp hsorted with ⟨hother, hrest⟩
      have hold := hlater other List.mem_cons_self
      have hdue := hdeadline other List.mem_cons_self
      unfold enterBy
      split
      · next hlt =>
          -- It comes before the first entry, and so before all the others.
          have hfirst : entry.1.before other.1 = true := by
            rw [Slot.before_iff_of_later hold, hentry, hdue]
            exact hlt
          refine List.pairwise_cons.mpr ⟨fun e he => ?_, hsorted⟩
          rcases List.mem_cons.mp he with rfl | he
          · exact hfirst
          · exact Slot.before_trans hfirst (hother e he)
      · next hge =>
          refine List.pairwise_cons.mpr
            ⟨fun e he => ?_, ih (fun e he => hdeadline e (List.mem_cons_of_mem _ he))
              (fun e he => hlater e (List.mem_cons_of_mem _ he)) hrest⟩
          rcases List.mem_cons.mp ((enterBy_perm _ _ _).mem_iff.mp he) with rfl | he
          · -- The new entry is due no earlier, and it was given out later.
            rw [Slot.before_iff, hentry, hdue]
            unfold Instant at *
            omega
          · exact hother e he

namespace RequestQueue

variable {q : RequestQueue} {agenda : Agenda} {key : RequestKey} {slot : Slot}
  {r : PendingRequest}

/-- Both indexes of a queue are images of an agenda. -/
structure Indexes (q : RequestQueue) (agenda : Agenda) : Prop where
  /-- The index by deadline has the keys, in order. -/
  byDeadline : q.byDeadline = agenda.map fun e => (e.1, e.2.key)
  /-- The index by key has every entry once. -/
  byKey : q.byKey.Perm (agenda.map fun e => (e.2.key, e.1, e.2))
  sorted : agenda.Pairwise fun a b => a.1.before b.1 = true
  keys : (agenda.map fun e => e.2.key).Nodup
  /-- A slot carries the deadline of its request. -/
  deadline : ∀ e ∈ agenda, e.1.deadline = e.2.deadline
  /-- The number of a slot was given out before. -/
  arrival : ∀ e ∈ agenda, e.1.arrival < q.nextArrival

theorem indexes_empty : empty.Indexes [] where
  byDeadline := rfl
  byKey := List.Perm.refl _
  sorted := List.Pairwise.nil
  keys := List.nodup_nil
  deadline _ he := nomatch he
  arrival _ he := nomatch he

namespace Indexes

theorem eq_of_key_eq (h : q.Indexes agenda) {e e' : Slot × PendingRequest} (he : e ∈ agenda)
    (he' : e' ∈ agenda) (hkey : e.2.key = e'.2.key) : e = e' :=
  List.inj_on_of_nodup_map h.keys he he' hkey

theorem eq_of_slot_eq (h : q.Indexes agenda) {e e' : Slot × PendingRequest} (he : e ∈ agenda)
    (he' : e' ∈ agenda) (hslot : e.1 = e'.1) : e = e' := by
  have hslots : (agenda.map Prod.fst).Nodup :=
    List.pairwise_map.mpr (h.sorted.imp Slot.ne_of_before)
  exact List.inj_on_of_nodup_map hslots he he' hslot

theorem mem_byKey_iff (h : q.Indexes agenda) :
    (key, slot, r) ∈ q.byKey ↔ (slot, r) ∈ agenda ∧ r.key = key := by
  rw [h.byKey.mem_iff, List.mem_map]
  constructor
  · rintro ⟨e, he, heq⟩
    cases heq
    exact ⟨he, rfl⟩
  · rintro ⟨he, rfl⟩
    exact ⟨(slot, r), he, rfl⟩

/-- A search by key finds the entry on the agenda that has the key. -/
theorem find?_eq_some_iff (h : q.Indexes agenda) :
    q.find? key = some (slot, r) ↔ (slot, r) ∈ agenda ∧ r.key = key := by
  constructor
  · intro hfind
    rcases Option.map_eq_some_iff.mp hfind with ⟨⟨k, s, x⟩, hsearch, hx⟩
    -- What a search finds has the key that was searched for.
    have hk := List.find?_some hsearch
    have hkey : k = key := beq_iff_eq.mp hk
    cases hx
    rw [← hkey]
    exact h.mem_byKey_iff.mp (List.mem_of_find?_eq_some hsearch)
  · rintro ⟨he, rfl⟩
    have hmem : (r.key, slot, r) ∈ q.byKey := h.mem_byKey_iff.mpr ⟨he, rfl⟩
    rcases hsearch : q.byKey.find? (·.1 == r.key) with _ | ⟨k, s, x⟩
    · exact absurd (beq_self_eq_true r.key) (List.find?_eq_none.mp hsearch _ hmem)
    · -- The search found some entry with the key, and there is only one.
      have hk := List.find?_some hsearch
      have hkey : k = r.key := beq_iff_eq.mp hk
      have hx := h.mem_byKey_iff.mp (List.mem_of_find?_eq_some hsearch)
      have heq : (s, x) = (slot, r) := h.eq_of_key_eq hx.1 he (hx.2.trans hkey)
      rw [find?, hsearch, Option.map_some, heq]

theorem find?_of_mem (h : q.Indexes agenda) {e : Slot × PendingRequest} (he : e ∈ agenda) :
    q.find? e.2.key = some e :=
  h.find?_eq_some_iff.mpr ⟨he, rfl⟩

theorem find?_eq_none_iff (h : q.Indexes agenda) :
    q.find? key = none ↔ ∀ e ∈ agenda, e.2.key ≠ key := by
  constructor
  · intro hfind e he hkey
    rw [← hkey, h.find?_of_mem he] at hfind
    cases hfind
  · intro hnone
    rcases hfind : q.find? key with _ | e
    · rfl
    · have he := h.find?_eq_some_iff.mp hfind
      exact absurd he.2 (hnone e he.1)

theorem contains_iff (h : q.Indexes agenda) :
    q.contains key = true ↔ ∃ e ∈ agenda, e.2.key = key := by
  rw [contains, Option.isSome_iff_ne_none, ne_eq, h.find?_eq_none_iff]
  push Not
  exact Iff.rfl

theorem keys_eq (h : q.Indexes agenda) : q.keys = agenda.map fun e => e.2.key := by
  rw [RequestQueue.keys, h.byDeadline, List.map_map]
  rfl

/-- The requests of the queue are those of the agenda. -/
theorem live_eq (h : q.Indexes agenda) : q.live = agenda.map Prod.snd := by
  rw [live, h.keys_eq, List.filterMap_map, ← List.filterMap_eq_map]
  refine List.filterMap_congr fun e he => ?_
  rw [Function.comp_apply, h.find?_of_mem he]
  rfl

theorem size_eq (h : q.Indexes agenda) : q.size = agenda.length := by
  rw [size, h.byKey.length_eq, List.length_map]

theorem insertSlot_map (slot : Slot) (r : PendingRequest) (agenda : Agenda)
    (hslot : slot.deadline = r.deadline)
    (hdeadline : ∀ e ∈ agenda, e.1.deadline = e.2.deadline)
    (hlater : ∀ e ∈ agenda, e.1.arrival < slot.arrival) :
    insertSlot slot r.key (agenda.map fun e => (e.1, e.2.key)) =
      (agenda.enter (slot, r)).map fun e => (e.1, e.2.key) := by
  unfold Agenda.enter
  induction agenda with
  | nil => rfl
  | cons other rest ih =>
      -- The slot is new, so it goes before another only by its deadline.
      have hbefore := Slot.before_iff_of_later (hlater other List.mem_cons_self)
      rw [hslot, hdeadline other List.mem_cons_self] at hbefore
      rw [List.map_cons, insertSlot, enterBy]
      by_cases hlt : r.deadline < other.2.deadline
      · rw [if_pos (hbefore.mpr hlt), if_pos hlt]
        rfl
      · rw [if_neg (hlt ∘ hbefore.mp), if_neg hlt,
          ih (fun e he => hdeadline e (List.mem_cons_of_mem _ he))
            fun e he => hlater e (List.mem_cons_of_mem _ he)]
        rfl

/-- A new request enters the agenda under the next number. -/
theorem insert (h : q.Indexes agenda) (hnew : ∀ e ∈ agenda, e.2.key ≠ r.key) :
    (q.insert r).Indexes (agenda.enter (⟨r.deadline, q.nextArrival⟩, r)) where
  byDeadline := by
    rw [RequestQueue.insert, h.byDeadline]
    exact insertSlot_map _ _ _ rfl h.deadline h.arrival
  byKey := by
    have hperm := (enterBy_perm (fun e => e.2.deadline)
      ((⟨r.deadline, q.nextArrival⟩, r) : Slot × PendingRequest) agenda).map
        fun e => (e.2.key, e.1, e.2)
    exact (h.byKey.cons _).trans hperm.symm
  sorted := Agenda.enter_sorted rfl h.deadline h.arrival h.sorted
  keys := by
    refine ((enterBy_perm _ _ agenda).map _).nodup_iff.mpr (List.nodup_cons.mpr ⟨?_, h.keys⟩)
    intro hmem
    rcases List.mem_map.mp hmem with ⟨e, he, hkey⟩
    exact hnew e he hkey
  deadline e he := by
    rcases Agenda.mem_enter.mp he with rfl | he
    · rfl
    · exact h.deadline e he
  arrival e he := by
    rcases Agenda.mem_enter.mp he with rfl | he
    · exact Nat.lt_succ_self _
    · exact Nat.lt_succ_of_lt (h.arrival e he)

/-- What is left of an agenda is an agenda of whatever both indexes were cut
    down to. -/
theorem filter (h : q.Indexes agenda) (p : Slot × PendingRequest → Bool) {q' : RequestQueue}
    (hdeadline : q'.byDeadline = (agenda.filter p).map fun e => (e.1, e.2.key))
    (hkey : q'.byKey.Perm ((agenda.filter p).map fun e => (e.2.key, e.1, e.2)))
    (harrival : q'.nextArrival = q.nextArrival) : q'.Indexes (agenda.filter p) where
  byDeadline := hdeadline
  byKey := hkey
  sorted := h.sorted.filter p
  keys := h.keys.sublist (List.filter_sublist.map _)
  deadline e he := h.deadline e (List.mem_of_mem_filter he)
  arrival e he := harrival ▸ h.arrival e (List.mem_of_mem_filter he)

/-- Removing a key filters the agenda. -/
theorem remove (h : q.Indexes agenda) (key : RequestKey) :
    (q.remove key).2.Indexes (agenda.filter fun e => e.2.key != key) := by
  unfold RequestQueue.remove
  split
  · next hfind =>
      have hall := h.find?_eq_none_iff.mp hfind
      rw [List.filter_eq_self.mpr fun e he => bne_iff_ne.mpr (hall e he)]
      exact h
  · next slot r hfind =>
      rcases h.find?_eq_some_iff.mp hfind with ⟨hmem, hkey⟩
      refine h.filter _ ?_ ?_ rfl
      · rw [h.byDeadline, List.filter_map]
        refine congrArg (List.map _) (List.filter_congr fun e he => ?_)
        -- On the agenda, the slot and the key of an entry stand for each other.
        have hiff : e.1 = slot ↔ e.2.key = key :=
          ⟨fun hs => by rw [h.eq_of_slot_eq he hmem hs, hkey],
           fun hk => by rw [h.eq_of_key_eq he hmem (hk.trans hkey.symm)]⟩
        exact Bool.eq_iff_iff.mpr (by simp only [Function.comp_apply, bne_iff_ne, ne_eq, hiff])
      · -- The index by key is filtered by the very same test.
        have hperm := h.byKey.filter fun entry => entry.1 != key
        rw [List.filter_map] at hperm
        exact hperm

theorem remove_fst (q : RequestQueue) (key : RequestKey) :
    (q.remove key).1 = (q.find? key).map Prod.snd := by
  unfold RequestQueue.remove
  split
  · next hfind => rw [hfind, Option.map_none]
  · next hfind => rw [hfind, Option.map_some]

theorem find?_remove_of_ne (h : q.Indexes agenda) {key other : RequestKey} (hne : other ≠ key) :
    (q.remove key).2.find? other = q.find? other := by
  refine Option.ext fun e => ?_
  rw [(h.remove key).find?_eq_some_iff, h.find?_eq_some_iff, List.mem_filter, bne_iff_ne]
  constructor
  · rintro ⟨⟨he, -⟩, hother⟩
    exact ⟨he, hother⟩
  · rintro ⟨he, rfl⟩
    exact ⟨⟨he, hne⟩, rfl⟩

theorem removeAll_snd (h : q.Indexes agenda) (keys : List RequestKey) :
    (removeAll keys q).2.Indexes (agenda.filter fun e => !keys.contains e.2.key) := by
  induction keys generalizing q agenda with
  | nil =>
      have hall : (agenda.filter fun e => !([] : List RequestKey).contains e.2.key) = agenda :=
        List.filter_eq_self.mpr fun _ _ => rfl
      rw [hall]
      exact h
  | cons key keys ih =>
      have hrest := ih (h.remove key)
      -- Two filters, one after the other, are one filter by both tests.
      have hboth : (agenda.filter fun e => !(key :: keys).contains e.2.key) =
          agenda.filter fun e => !keys.contains e.2.key && e.2.key != key := by
        refine List.filter_congr fun e _ => ?_
        rw [List.contains_cons, Bool.not_or, Bool.and_comm, bne]
      rw [hboth, ← List.filter_filter]
      exact hrest

theorem removeAll_cons_fst (key : RequestKey) (keys : List RequestKey) (q : RequestQueue) :
    (RequestQueue.removeAll (key :: keys) q).1 =
      (q.remove key).1.toList ++ (RequestQueue.removeAll keys (q.remove key).2).1 := rfl

theorem removeAll_fst (h : q.Indexes agenda) {keys : List RequestKey} (hkeys : keys.Nodup) :
    (removeAll keys q).1 = keys.filterMap fun key => (q.find? key).map Prod.snd := by
  induction keys generalizing q agenda with
  | nil => rfl
  | cons key keys ih =>
      rcases List.nodup_cons.mp hkeys with ⟨hkey, hkeys⟩
      rw [removeAll_cons_fst, ih (h.remove key) hkeys, remove_fst, List.filterMap_cons]
      -- The other keys are looked up in a queue without this one.
      rw [List.filterMap_congr fun other hother =>
        congrArg (Option.map Prod.snd) (h.find?_remove_of_ne (ne_of_mem_of_not_mem hother hkey))]
      rcases (q.find? key).map Prod.snd with _ | r <;> rfl

/-- Looking up the keys of some entries finds these entries, in order. -/
theorem filterMap_find? (h : q.Indexes agenda) (p : Slot × PendingRequest → Bool) :
    (((agenda.filter p).map fun e => e.2.key).filterMap fun key => (q.find? key).map Prod.snd) =
      (agenda.filter p).map Prod.snd := by
  rw [List.filterMap_map, ← List.filterMap_eq_map]
  refine List.filterMap_congr fun e he => ?_
  rw [Function.comp_apply, h.find?_of_mem (List.mem_of_mem_filter he)]
  rfl

/-- The keys of some entries are on no other entry. -/
theorem contains_keys (h : q.Indexes agenda) (p : Slot × PendingRequest → Bool)
    {e : Slot × PendingRequest} (he : e ∈ agenda) :
    ((agenda.filter p).map fun e => e.2.key).contains e.2.key = p e := by
  refine Bool.eq_iff_iff.mpr ?_
  rw [List.contains_iff_mem, List.mem_map]
  constructor
  · rintro ⟨e', he', hkey⟩
    rcases List.mem_filter.mp he' with ⟨hmem, hp⟩
    -- The entry that has the key is this one, so it passed the test.
    rw [← h.eq_of_key_eq hmem he hkey]
    exact hp
  · intro hp
    exact ⟨e, List.mem_filter.mpr ⟨he, hp⟩, rfl⟩

/-- Removing the keys of some entries takes out these entries, in order. -/
theorem removeAll (h : q.Indexes agenda) (p : Slot × PendingRequest → Bool)
    (keys : List RequestKey) (hkeys : keys = (agenda.filter p).map fun e => e.2.key) :
    (RequestQueue.removeAll keys q).1 = (agenda.filter p).map Prod.snd ∧
      (RequestQueue.removeAll keys q).2.Indexes (agenda.filter fun e => !p e) := by
  subst hkeys
  constructor
  · rw [h.removeAll_fst (h.keys.sublist (List.filter_sublist.map _)), h.filterMap_find?]
  · have hrest := h.removeAll_snd ((agenda.filter p).map fun e => e.2.key)
    rw [List.filter_congr fun e he => congrArg (!·) (h.contains_keys p he)] at hrest
    exact hrest

/-- Splitting at an instant takes out what is due by then. -/
theorem splitDue (h : q.Indexes agenda) (now : Instant) :
    (q.splitDue now).1 = (agenda.filter fun e => e.2.deadline ≤ now).map Prod.snd ∧
      (q.splitDue now).2.Indexes (agenda.filter fun e => !(e.2.deadline ≤ now)) := by
  have hsplit : ∀ p : Instant → Bool, q.byDeadline.filter (fun entry => p entry.1.deadline) =
      (agenda.filter fun e => p e.2.deadline).map fun e => (e.1, e.2.key) := by
    intro p
    rw [h.byDeadline, List.filter_map]
    refine congrArg (List.map _) (List.filter_congr fun e he => ?_)
    rw [Function.comp_apply, h.deadline e he]
  have hkeys : (q.byDeadline.filter fun entry => entry.1.deadline ≤ now).map Prod.snd =
      (agenda.filter fun e => e.2.deadline ≤ now).map fun e => e.2.key := by
    rw [hsplit (· ≤ now), List.map_map]
    rfl
  constructor
  · rw [RequestQueue.splitDue, hkeys, h.filterMap_find?]
  · -- One index is split by deadline and the other by key, with the same rest.
    refine h.filter _ (hsplit fun deadline => !decide (deadline ≤ now)) ?_ rfl
    have hrest : (agenda.filter fun e => !((agenda.filter fun e => e.2.deadline ≤ now).map
        fun e => e.2.key).contains e.2.key) = agenda.filter fun e => !(e.2.deadline ≤ now) :=
      List.filter_congr fun e he =>
        congrArg (!·) (h.contains_keys (fun e => e.2.deadline ≤ now) he)
    have hperm := h.byKey.filter fun entry =>
      !((agenda.filter fun e => e.2.deadline ≤ now).map fun e => e.2.key).contains entry.1
    rw [List.filter_map, Function.comp_def, hrest] at hperm
    rw [RequestQueue.splitDue, hkeys]
    exact hperm

end Indexes

end RequestQueue

end CardHost
