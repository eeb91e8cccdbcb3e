import CardHost.Pending.Reentry
import CardHost.Proofs.Completions

/-!
# A Desk Is a Line

What a desk with its two indexes does, said of one list. In a `WaitingLine`
the requests stand in the order in which they would expire. A new request goes
behind all that are due no later, so requests with the same deadline stand in
the order they came. An operation that ends requests picks them by a test, and
their messages go out in the order of the line. There is nothing else to know:
no slots, no numbers, no second index.

`Desk.line` forgets the indexes. As long as they agree, a desk and its line
give the same answers, post the same messages and stay a desk and its line, so
whatever is true of lines is true of desks.

## Main definitions

* `WaitingLine`: The requests in order.
* `WaitingLine.endThose`: End the requests that a test selects.
* `WaitingLine.apply`: The operations.
* `Desk.line`: The line of a desk.
* `Operation.admitted?`: What an operation put in line.

## Theorems

* `Desk.apply_line`: A desk does what its line does.
* `Desk.apply_consistent`: Every operation keeps the indexes in agreement.
* `Desk.apply_add_pending`: A duplicate changes nothing at all.
* `WaitingLine.apply_accounts`: No operation loses a request or completes one
  twice.
-/

namespace CardHost

/-- The requests that wait, in the order in which they would expire. -/
structure WaitingLine where
  requests : List PendingRequest
  bindings : List Binding
  clock : Instant

namespace WaitingLine

/-- The binding under a number; one that does not exist is unbound. -/
def binding (l : WaitingLine) (slot : Nat) : Binding := l.bindings.getD slot ⟨none⟩

/-- Whether a request with a key is in the line. -/
def pending (l : WaitingLine) (key : RequestKey) : Bool := l.requests.any (·.key == key)

/-- The earliest deadline. -/
def nextDeadline (l : WaitingLine) : Option Instant :=
  (l.requests.map PendingRequest.deadline).min?

/-- End the requests that a test selects: they leave the line, their messages
    are to go out in its order, and they are counted. -/
def endThose (l : WaitingLine) (p : PendingRequest → Bool)
    (finish : PendingRequest → List Message) (answer : Nat → Answer) :
    Answer × List Post × WaitingLine :=
  let ended := l.requests.filter p
  (answer ended.length, ended.flatMap fun r => r.toWindow (finish r),
   { l with requests := l.requests.filter fun r => !p r })

/-- Carry out an operation up to the point where its messages are posted. -/
def apply (l : WaitingLine) : Operation → Answer × List Post × WaitingLine
  | .add r =>
    if l.pending r.key then (.refused (.duplicateRequest r.key), [], l)
    else
      (.flag (l.requests.all fun x => r.deadline < x.deadline), [],
       { l with requests := enterBy PendingRequest.deadline r l.requests })
  | .cancel key => l.endThose (·.key == key) PendingRequest.canceled fun n => .flag (n != 0)
  | .cancelService service =>
    l.endThose (·.key.service == service) PendingRequest.canceled .count
  | .cancelAll => l.endThose (fun _ => true) PendingRequest.canceled .count
  | .contains key => (.flag (l.pending key), [], l)
  | .size => (.size l.requests.length, [], l)
  | .nextDeadline => (.time l.nextDeadline, [], l)
  | .nextTimeout => (.time (l.nextDeadline.map (Clock.left l.clock)), [], l)
  | .nextTimeoutAt now => (.time (l.nextDeadline.map (Clock.left now)), [], l)
  | .expireDue now => l.endThose (fun r => r.deadline ≤ now) PendingRequest.expired .count
  | .notifyChange state kind =>
    l.endThose (·.isServedBy l.binding state kind) (PendingRequest.served · state.atr) .count
  | .bind slot name =>
    let (changed, binding) := (l.binding slot).bind name
    (.flag changed, [], { l with bindings := l.bindings.set slot binding })
  | .rebind slot name =>
    (.done, [], { l with bindings := l.bindings.set slot ((l.binding slot).rebind name) })
  | .advance duration => (.done, [], { l with clock := l.clock + duration })
  | .describe => (.text s!"RequestRegistry \x7b len: {l.requests.length}, .. \x7d", [], l)
  | .nothing => (.done, [], l)

/-- A line without requests. -/
def start (bindings : List Binding) (clock : Instant) : WaitingLine :=
  { requests := [], bindings, clock }

end WaitingLine

namespace Desk

variable {d : Desk}

/-- The line of a desk. -/
def line (d : Desk) : WaitingLine :=
  { requests := d.queue.live, bindings := d.bindings, clock := d.clock }

/-- An operation that ended requests of the queue ended those of the line. -/
theorem settled_line {s : Settled} {p : PendingRequest → Bool}
    {finish : PendingRequest → List Message} (hs : s.Ends d.queue p finish)
    (answer : Nat → Answer) :
    d.line.endThose p finish answer =
      (answer s.count, s.posts, ({ d with queue := s.queue } : Desk).line) := by
  unfold line
  rw [hs.count, hs.posts, hs.live]
  rfl

theorem line_pending (h : d.queue.Consistent) (key : RequestKey) :
    d.line.pending key = d.queue.contains key := (h.contains_eq_any key).symm

theorem line_nextDeadline (h : d.queue.Consistent) :
    d.line.nextDeadline = d.queue.nextDeadline := h.nextDeadline_eq.symm

/-- A duplicate is refused, and changes nothing at all. -/
theorem apply_add_pending {r : PendingRequest} (hkey : d.queue.contains r.key = true) :
    d.apply (.add r) = (.refused (.duplicateRequest r.key), [], d) := by
  rw [apply, RequestQueue.add_pending hkey]

/-- A desk does what its line does. -/
theorem apply_line (h : d.queue.Consistent) (op : Operation) :
    d.line.apply op = ((d.apply op).1, (d.apply op).2.1, (d.apply op).2.2.line) := by
  cases op with
  | add r =>
      rw [WaitingLine.apply, line_pending h]
      by_cases hkey : d.queue.contains r.key = true
      · rw [apply_add_pending hkey, if_pos hkey]
      · -- A new key enters the line and the queue at the same place.
        rcases h.add_new (eq_false_of_ne_true hkey) with ⟨q, hadd, hlive, -⟩
        rw [if_neg hkey, apply, hadd]
        simp only [line, hlive]
  | cancel key => exact settled_line (RequestQueue.cancel_ends h key) fun n => .flag (n != 0)
  | cancelService service => exact settled_line (RequestQueue.cancelService_ends h service) _
  | cancelAll => exact settled_line (RequestQueue.cancelAll_ends h) _
  | expireDue now => exact settled_line (RequestQueue.expireDue_ends h now) _
  | notifyChange state kind =>
      exact settled_line (RequestQueue.notifyChange_ends h d.binding state kind) _
  | contains key => rw [WaitingLine.apply, line_pending h]; rfl
  | size => rw [apply, h.size_eq]; rfl
  | describe => rw [apply, h.size_eq]; rfl
  | nextDeadline => rw [WaitingLine.apply, line_nextDeadline h]; rfl
  | nextTimeout => rw [WaitingLine.apply, line_nextDeadline h]; rfl
  | nextTimeoutAt now => rw [WaitingLine.apply, line_nextDeadline h]; rfl
  | bind slot name => rfl
  | rebind slot name => rfl
  | advance duration => rfl
  | nothing => rfl

/-- Every operation keeps the indexes in agreement. -/
theorem apply_consistent (h : d.queue.Consistent) (op : Operation) :
    (d.apply op).2.2.queue.Consistent := by
  cases op with
  | add r =>
      by_cases hkey : d.queue.contains r.key = true
      · rw [apply_add_pending hkey]
        exact h
      · rcases h.add_new (eq_false_of_ne_true hkey) with ⟨q, hadd, -, hq⟩
        rw [apply, hadd]
        exact hq
  | cancel key => exact (RequestQueue.cancel_ends h key).consistent
  | cancelService service => exact (RequestQueue.cancelService_ends h service).consistent
  | cancelAll => exact (RequestQueue.cancelAll_ends h).consistent
  | expireDue now => exact (RequestQueue.expireDue_ends h now).consistent
  | notifyChange state kind =>
      exact (RequestQueue.notifyChange_ends h d.binding state kind).consistent
  | contains | size | nextDeadline | nextTimeout | nextTimeoutAt | bind | rebind | advance
  | describe | nothing => exact h

end Desk

/-- The request that an operation put in line, going by its answer. -/
def Operation.admitted? : Operation → Answer → Option PendingRequest
  | .add r, .flag _ => some r
  | _, _ => none

namespace WaitingLine

variable (l : WaitingLine) (call : Call)

theorem endThose_accounts (p : PendingRequest → Bool) {finish : PendingRequest → List Message}
    (hfinish : PendingRequest.EndsOnce finish) (answer : Nat → Answer) :
    call.completions (l.endThose p finish answer).2.1 +
      call.waiting (l.endThose p finish answer).2.2.requests = call.waiting l.requests := by
  rw [endThose, hfinish.flatMap, call.waiting_filter]

/-- No operation loses a request or completes one twice: what was in line, and
    what it put there, it completed or left there. -/
theorem apply_accounts (op : Operation) :
    call.completions (l.apply op).2.1 + call.waiting (l.apply op).2.2.requests =
      call.waiting (op.admitted? (l.apply op).1).toList + call.waiting l.requests := by
  -- An operation either leaves the line alone, or ends some, or adds one.
  have hkeep : call.completions [] + call.waiting l.requests =
      call.waiting [] + call.waiting l.requests := rfl
  have hend : ∀ p finish answer, PendingRequest.EndsOnce finish →
      call.completions (l.endThose p finish answer).2.1 +
        call.waiting (l.endThose p finish answer).2.2.requests =
          call.waiting [] + call.waiting l.requests := by
    intro p finish answer hfinish
    rw [l.endThose_accounts call p hfinish]
    exact (Nat.zero_add _).symm
  cases op with
  | add r =>
      rw [apply]
      by_cases hkey : l.pending r.key = true
      · rw [if_pos hkey]
        exact hkeep
      · rw [if_neg hkey, Operation.admitted?, call.waiting_enterBy, call.completions_nil,
          Nat.zero_add]
        rfl
  | cancel => exact hend _ _ _ PendingRequest.endsOnce_canceled
  | cancelService => exact hend _ _ _ PendingRequest.endsOnce_canceled
  | cancelAll => exact hend _ _ _ PendingRequest.endsOnce_canceled
  | expireDue => exact hend _ _ _ PendingRequest.endsOnce_expired
  | notifyChange state => exact hend _ _ _ (PendingRequest.endsOnce_served state.atr)
  | contains | size | nextDeadline | nextTimeout | nextTimeoutAt | bind | rebind | advance
  | describe | nothing => exact hkeep

end WaitingLine

end CardHost
