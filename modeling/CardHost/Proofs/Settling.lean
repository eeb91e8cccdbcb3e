import CardHost.Proofs.Agenda

/-!
# What the Queue Does to Its Requests

The operations of the queue as operations on `live`, the requests in the order
in which they would expire. There are two kinds. `add` puts one request into
the list, behind all that are due no later. Every other operation ends the
requests that some test selects: it counts them, posts their messages in the
order of the list, and leaves the others as they are.

`Settled.Ends` says the second in one line, so the five operations that end
requests differ only in the test and in the messages. Whoever builds on the
queue needs no more than these lemmas: the indexes and the agenda behind them
do not show.

`Consistent` is the invariant. It is all that is asked of a queue here, and
every operation keeps it.

## Main definitions

* `RequestQueue.Consistent`: The two indexes agree.
* `RequestQueue.Agree`: What that comes to, without an agenda.
* `Settled.Ends`: An operation ended the requests that a test selects.

## Theorems

* `cancel_ends`, `cancelService_ends`, `cancelAll_ends`: Calling requests off.
* `expireDue_ends`: Ending what is due.
* `notifyChange_ends`: Ending what a report serves.
* `Consistent.add_new`: A new request enters the list.
* `Consistent.nextDeadline_eq`: The earliest deadline is the least.
-/

namespace CardHost

/-- An operation on a queue ended the requests that a test selects, each with
    its messages, and left the others. -/
structure Settled.Ends (s : Settled) (q : RequestQueue) (p : PendingRequest → Bool)
    (finish : PendingRequest → List Message) : Prop where
  count : s.count = (q.live.filter p).length
  posts : s.posts = (q.live.filter p).flatMap fun r => r.toWindow (finish r)
  live : s.queue.live = q.live.filter fun r => !p r
  consistent : ∃ agenda, s.queue.Indexes agenda

namespace RequestQueue

variable {q : RequestQueue} {r : PendingRequest}

/-- The two indexes of a queue agree. -/
def Consistent (q : RequestQueue) : Prop := ∃ agenda, q.Indexes agenda

theorem consistent_empty : empty.Consistent := ⟨[], indexes_empty⟩

/-- What agreement of the two indexes comes to, said of the indexes alone. -/
structure Agree (q : RequestQueue) : Prop where
  /-- Both have the same keys. -/
  keys : q.keys.Perm (q.byKey.map Prod.fst)
  /-- No key is there twice. -/
  once : q.keys.Nodup
  /-- A request is under its own key, and its key under its own deadline. -/
  own : ∀ key slot r, (key, slot, r) ∈ q.byKey →
    (slot, key) ∈ q.byDeadline ∧ r.key = key ∧ slot.deadline = r.deadline
  /-- Slots ascend, so no two requests have the same one. -/
  ascending : q.byDeadline.Pairwise fun a b => a.1.before b.1 = true

namespace Consistent

theorem agree (h : q.Consistent) : q.Agree := by
  rcases h with ⟨agenda, h⟩
  refine ⟨?_, ?_, ?_, ?_⟩
  · have hperm := h.byKey.map Prod.fst
    rw [List.map_map] at hperm
    rw [h.keys_eq]
    exact hperm.symm
  · rw [h.keys_eq]
    exact h.keys
  · intro key slot r hmem
    rcases h.mem_byKey_iff.mp hmem with ⟨he, rfl⟩
    rw [h.byDeadline]
    exact ⟨List.mem_map.mpr ⟨(slot, r), he, rfl⟩, rfl, h.deadline _ he⟩
  · rw [h.byDeadline, List.pairwise_map]
    exact h.sorted

theorem contains_iff (h : q.Consistent) (key : RequestKey) :
    q.contains key = true ↔ ∃ r ∈ q.live, r.key = key := by
  rcases h with ⟨agenda, h⟩
  rw [h.contains_iff, h.live_eq]
  simp only [List.mem_map, exists_exists_and_eq_and]

theorem contains_eq_any (h : q.Consistent) (key : RequestKey) :
    q.contains key = q.live.any (·.key == key) := by
  rw [Bool.eq_iff_iff, h.contains_iff, List.any_eq_true]
  simp only [beq_iff_eq]

/-- Requests stand in the order in which they expire. -/
theorem sorted (h : q.Consistent) :
    q.live.Pairwise fun a b => a.deadline ≤ b.deadline := by
  rcases h with ⟨agenda, h⟩
  rw [h.live_eq, List.pairwise_map]
  refine h.sorted.imp_of_mem fun {a b} ha hb hab => ?_
  -- A slot carries the deadline of its request, and slots ascend.
  rw [← h.deadline a ha, ← h.deadline b hb]
  rw [Slot.before_iff] at hab
  unfold Instant at *
  omega

theorem size_eq (h : q.Consistent) : q.size = q.live.length := by
  rcases h with ⟨agenda, h⟩
  rw [h.size_eq, h.live_eq, List.length_map]

theorem head?_eq (h : q.Consistent) :
    q.head?.map Slot.deadline = q.live.head?.map PendingRequest.deadline := by
  rcases h with ⟨agenda, h⟩
  rw [head?, h.byDeadline, h.live_eq]
  cases agenda with
  | nil => rfl
  | cons e rest => exact congrArg some (h.deadline e List.mem_cons_self)

/-- The earliest deadline is the least of all, and there is one unless there
    are no requests. -/
theorem nextDeadline_eq (h : q.Consistent) :
    q.nextDeadline = (q.live.map PendingRequest.deadline).min? := by
  have hsorted := h.sorted
  rw [nextDeadline, h.head?_eq]
  cases hlive : q.live with
  | nil => rfl
  | cons r rest =>
      rw [hlive] at hsorted
      symm
      rw [List.head?_cons, Option.map_some, List.min?_eq_some_iff]
      -- The first is one of them, and none of the others is due earlier.
      refine ⟨List.mem_map_of_mem List.mem_cons_self, fun d hd => ?_⟩
      rcases List.mem_map.mp hd with ⟨x, hx, rfl⟩
      rcases List.mem_cons.mp hx with rfl | hx
      · exact Nat.le_refl _
      · exact (List.pairwise_cons.mp hsorted).1 x hx

/-- The earliest deadline comes no later than that of any request. -/
theorem nextDeadline_le (h : q.Consistent) (hr : r ∈ q.live) :
    ∃ d, q.nextDeadline = some d ∧ d ≤ r.deadline := by
  rw [h.nextDeadline_eq]
  have hmem := List.mem_map_of_mem (f := PendingRequest.deadline) hr
  rcases hmin : (q.live.map PendingRequest.deadline).min? with _ | d
  · rw [List.min?_eq_none_iff.mp hmin] at hmem
    cases hmem
  · exact ⟨d, rfl, (List.min?_eq_some_iff.mp hmin).2 _ hmem⟩

/-- A new request enters the list behind all that are due no later, and is
    nearest if it is due before all of them. -/
theorem add_new (h : q.Consistent) (hnew : q.contains r.key = false) :
    ∃ q', q.add r = .ok (q.live.all fun x => r.deadline < x.deadline, q') ∧
      q'.live = enterBy PendingRequest.deadline r q.live ∧ q'.Consistent := by
  rcases h with ⟨agenda, h⟩
  have hkeys : ∀ e ∈ agenda, e.2.key ≠ r.key := fun e he hkey =>
    Bool.eq_false_iff.mp hnew (h.contains_iff.mpr ⟨e, he, hkey⟩)
  have hinsert := h.insert hkeys
  refine ⟨q.insert r, ?_, ?_, _, hinsert⟩
  · have hnearest : ((q.insert r).head? == some ⟨r.deadline, q.nextArrival⟩) =
        q.live.all fun x => r.deadline < x.deadline := by
      rw [head?, hinsert.byDeadline, h.live_eq, Agenda.enter]
      cases hagenda : agenda with
      | nil => exact beq_self_eq_true _
      | cons e rest =>
          have hsorted := (Consistent.sorted ⟨agenda, h⟩)
          rw [h.live_eq, hagenda, List.map_cons, List.pairwise_cons] at hsorted
          have hlater := h.arrival e (hagenda ▸ List.mem_cons_self)
          rw [enterBy, List.map_cons, List.all_cons]
          by_cases hlt : r.deadline < e.2.deadline
          · -- It is due before the first, and so before all the others.
            have hall : ((rest.map Prod.snd).all fun x => r.deadline < x.deadline) = true :=
              List.all_eq_true.mpr fun x hx =>
                decide_eq_true (Nat.lt_of_lt_of_le hlt (hsorted.1 x hx))
            rw [if_pos hlt, hall, decide_eq_true hlt]
            exact beq_self_eq_true _
          · -- The request that was first still is, and it has an older slot.
            rw [if_neg hlt, decide_eq_false hlt, Bool.false_and]
            refine beq_eq_false_iff_ne.mpr fun heq => ?_
            have harrival := congrArg Slot.arrival (Option.some.inj heq)
            exact absurd harrival (Nat.ne_of_lt hlater)
    rw [add, hnew, if_neg Bool.false_ne_true]
    exact congrArg (fun nearest => Except.ok (nearest, q.insert r)) hnearest
  · rw [hinsert.live_eq, h.live_eq, Agenda.enter]
    exact map_enterBy PendingRequest.deadline Prod.snd _ agenda

end Consistent

theorem add_pending (hkey : q.contains r.key = true) :
    q.add r = .error (.duplicateRequest r.key) := by
  rw [add, if_pos hkey]

/-- Ending requests that were taken off the agenda by a test. -/
theorem settle_ends {agenda : Agenda} (h : q.Indexes agenda) (p : PendingRequest → Bool)
    (finish : PendingRequest → List Message) {taken : List PendingRequest × RequestQueue}
    (htaken : taken.1 = (agenda.filter fun e => p e.2).map Prod.snd ∧
      taken.2.Indexes (agenda.filter fun e => !p e.2)) :
    (settle finish taken).Ends q p finish := by
  have hfilter : ∀ t : PendingRequest → Bool,
      q.live.filter t = (agenda.filter fun e => t e.2).map Prod.snd := by
    intro t
    rw [h.live_eq, List.filter_map]
    rfl
  refine ⟨?_, ?_, ?_, _, htaken.2⟩
  · rw [settle, htaken.1, hfilter]
  · rw [settle, htaken.1, hfilter]
  · rw [settle, htaken.2.live_eq, hfilter]

theorem cancel_ends (h : q.Consistent) (key : RequestKey) :
    (q.cancel key).Ends q (·.key == key) PendingRequest.canceled := by
  rcases h with ⟨agenda, h⟩
  -- Among keys that are all different, one is found once or not at all.
  have hcount : (agenda.filter fun e => e.2.key == key).map (fun e => e.2.key) =
      List.replicate ((agenda.map fun e => e.2.key).count key) key := by
    rw [← List.filter_beq, List.filter_map]
    rfl
  have hremove := h.removeAll (fun e => e.2.key == key) _ rfl
  rw [hcount] at hremove
  refine settle_ends h _ _ ?_
  by_cases hmem : key ∈ agenda.map fun e => e.2.key
  · rw [List.count_eq_one_of_mem h.keys hmem] at hremove
    exact hremove
  · -- Removing a key that is not there is removing nothing.
    rw [List.count_eq_zero_of_not_mem hmem] at hremove
    have hnone : q.find? key = none := h.find?_eq_none_iff.mpr fun e he hkey =>
      hmem (List.mem_map.mpr ⟨e, he, hkey⟩)
    have hsame : removeAll [key] q = removeAll [] q := by
      simp only [removeAll, remove, hnone, Option.toList_none, List.append_nil]
    rw [hsame]
    exact hremove

theorem cancelService_ends (h : q.Consistent) (service : ServiceHandle) :
    (q.cancelService service).Ends q (·.key.service == service) PendingRequest.canceled := by
  rcases h with ⟨agenda, h⟩
  refine settle_ends h _ _ (h.removeAll (fun e => e.2.key.service == service) _ ?_)
  rw [h.keys_eq, List.filter_map]
  rfl

theorem cancelAll_ends (h : q.Consistent) :
    q.cancelAll.Ends q (fun _ => true) PendingRequest.canceled := by
  rcases h with ⟨agenda, h⟩
  refine settle_ends h _ _ (h.removeAll (fun _ => true) _ ?_)
  rw [h.keys_eq, List.filter_true]

theorem expireDue_ends (h : q.Consistent) (now : Instant) :
    (q.expireDue now).Ends q (fun r => r.deadline ≤ now) PendingRequest.expired := by
  rcases h with ⟨agenda, h⟩
  exact settle_ends h _ _ (h.splitDue now)

theorem notifyChange_ends (h : q.Consistent) (bindings : Nat → Binding) (s : Snapshot)
    (kind : ChangeKind) :
    (q.notifyChange bindings s kind).Ends q (·.isServedBy bindings s kind)
      (PendingRequest.served · s.atr) := by
  rcases h with ⟨agenda, h⟩
  refine settle_ends h _ _ (h.removeAll (fun e => e.2.isServedBy bindings s kind) _ ?_)
  rw [servedKeys, h.keys_eq, List.filter_map]
  -- Each key is looked up again to ask its request, and leads back to it.
  refine congrArg (List.map _) (List.filter_congr fun e he => ?_)
  rw [Function.comp_apply, h.find?_of_mem he]

end RequestQueue

end CardHost
