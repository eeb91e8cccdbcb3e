import CardHost.Proofs.Settling

/-!
# Counting Completions

A call that is accepted is owed one message, its completion. Whether the host
keeps to that is a question of counting: for one call, the completions that
were posted and the requests that still wait add up to the times it was
accepted. Nothing stronger could be asked, since a client may use a request
number again as soon as the last request under it is over.

What makes the sums come out is that each way for a request to end has exactly
one completion among its messages, and that it is the request's own. An
operation that ends requests therefore turns each of them into one posted
completion and leaves the sum as it was.

## Main definitions

* `Post.completes`: A post is the completion of a call.
* `PendingRequest.isOf`: A pending request was made by a call.
* `Call.completions`, `Call.waiting`: How many there are of each.
* `PendingRequest.EndsOnce`: A way to end requests completes each once.

## Theorems

* `endsOnce_canceled`, `endsOnce_expired`, `endsOnce_served`: The three ways
  to end a request complete it once.
* `Settled.Ends.accounts`: Ending requests leaves the sum as it was.
-/

namespace CardHost

/-- Whether a post is the completion of a call: it goes to the window of the
    call, names its request, and has no event class. -/
def Post.completes (call : Call) (post : Post) : Bool :=
  post.message.isCompletion && post.window == call.window && post.message.key == call.key

/-- Whether a pending request was made by a call. -/
def PendingRequest.isOf (call : Call) (r : PendingRequest) : Bool :=
  r.window == call.window && r.key == call.key

namespace Call

variable (call : Call)

/-- How many posts complete the call. -/
def completions (posts : List Post) : Nat := posts.countP (Post.completes call)

/-- How many requests the call has waiting. -/
def waiting (requests : List PendingRequest) : Nat := requests.countP (PendingRequest.isOf call)

theorem completions_nil : call.completions [] = 0 := rfl

theorem waiting_nil : call.waiting [] = 0 := rfl

theorem completions_append (a b : List Post) :
    call.completions (a ++ b) = call.completions a + call.completions b :=
  List.countP_append

theorem waiting_append (a b : List PendingRequest) :
    call.waiting (a ++ b) = call.waiting a + call.waiting b :=
  List.countP_append

/-- Completions among what some of the members of a list stand for. -/
theorem completions_filterMap_cons {α : Type} (f : α → Option Post) (a : α) (l : List α) :
    call.completions ((a :: l).filterMap f) =
      call.completions (f a).toList + call.completions (l.filterMap f) := by
  rw [← call.completions_append, List.filterMap_cons]
  rcases f a with _ | post <;> rfl

theorem waiting_filterMap_cons {α : Type} (f : α → Option PendingRequest) (a : α) (l : List α) :
    call.waiting ((a :: l).filterMap f) =
      call.waiting (f a).toList + call.waiting (l.filterMap f) := by
  rw [← call.waiting_append, List.filterMap_cons]
  rcases f a with _ | r <;> rfl

/-- A request that enters the line counts like one that is put in front. -/
theorem waiting_enterBy (r : PendingRequest) (l : List PendingRequest) :
    call.waiting (enterBy PendingRequest.deadline r l) = call.waiting [r] + call.waiting l := by
  rw [← call.waiting_append]
  exact (enterBy_perm _ _ _).countP_eq _

/-- A test divides the requests in two. -/
theorem waiting_filter (p : PendingRequest → Bool) (l : List PendingRequest) :
    call.waiting (l.filter p) + call.waiting (l.filter fun r => !p r) = call.waiting l :=
  (List.countP_eq_countP_filter_add l (PendingRequest.isOf call) p).symm

/-- Without events there are no completions: messages with an event class
    complete nothing. -/
theorem completions_eq_zero {posts : List Post}
    (h : ∀ post ∈ posts, post.message.isCompletion = false) : call.completions posts = 0 := by
  refine List.countP_eq_zero.mpr fun post hpost => ?_
  rw [Post.completes, h post hpost]
  exact Bool.false_ne_true

end Call

namespace PendingRequest

/-- Among the messages with which a request ends there is one completion, and
    it is that of the request. -/
def EndsOnce (finish : PendingRequest → List Message) : Prop :=
  ∀ (call : Call) (r : PendingRequest),
    call.completions (r.toWindow (finish r)) = call.waiting [r]

/-- A completion of a request counts for whoever made the request. -/
theorem completions_completion (call : Call) (r : PendingRequest) (result : ResultCode)
    (payload : Payload) :
    call.completions [⟨r.window, r.completion result payload⟩] = call.waiting [r] := by
  rw [Call.completions, Call.waiting, List.countP_singleton, List.countP_singleton]
  rfl

theorem endsOnce_canceled : EndsOnce canceled := fun call r =>
  completions_completion call r .canceled .none

theorem endsOnce_expired : EndsOnce expired := fun call r =>
  completions_completion call r .timeout .none

/-- The event that goes before the completion does not count. -/
theorem endsOnce_served (atr : Bytes) : EndsOnce (served · atr) := by
  intro call r
  have hevent : call.completions
      [⟨r.window, Message.event .executeEvent r.key .mediaInserted .none⟩] = 0 :=
    call.completions_eq_zero fun _ hpost => by rw [List.mem_singleton.mp hpost]; rfl
  -- The messages are the event and then the completion.
  have hposts := call.completions_append
    [⟨r.window, Message.event .executeEvent r.key .mediaInserted .none⟩]
    [⟨r.window, r.completion .success (.cardData (CardData.read r.sources atr))⟩]
  rw [hevent, Nat.zero_add, completions_completion] at hposts
  exact hposts

/-- Requests that end turn into as many completions. -/
theorem EndsOnce.flatMap {finish : PendingRequest → List Message} (h : EndsOnce finish)
    (call : Call) (l : List PendingRequest) :
    call.completions (l.flatMap fun r => r.toWindow (finish r)) = call.waiting l := by
  induction l with
  | nil => rfl
  | cons r rest ih =>
      rw [List.flatMap_cons, call.completions_append, h call r, ih, ← call.waiting_append]
      rfl

end PendingRequest

/-- Ending requests leaves the sum of completions and waiting requests as it
    was. -/
theorem Settled.Ends.accounts {s : Settled} {q : RequestQueue} {p : PendingRequest → Bool}
    {finish : PendingRequest → List Message} (h : s.Ends q p finish)
    (hfinish : PendingRequest.EndsOnce finish) (call : Call) :
    call.completions s.posts + call.waiting s.queue.live = call.waiting q.live := by
  rw [h.posts, h.live, hfinish.flatMap, call.waiting_filter]

end CardHost
