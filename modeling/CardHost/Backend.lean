import CardHost.Card
import CardHost.CardError
import CardHost.Clock
import CardHost.Message
import CardHost.Reader.Snapshot

/-!
# Reader Backends

The boundary to readers and cards. A backend is a record of functions over a
state of its own, so everything built on top holds for any hardware at all:
whatever the readers do, they do it by answering these calls.

A call returns its answer, the next state and a note of what was called. Notes
are kept in one log together with the messages that are posted, because the
order of the two is part of what the host promises. A backend can write notes
but no messages; that follows from its type.

A wait is different from the other calls. It begins at one moment and returns
at another, and in between clients go on. `wait` therefore asks whether a wait
that began earlier returns now, and answers `none` as long as it does not.

## Main definitions

* `Reply`: Answer, next state and notes of a call.
* `Backend`: The calls.
* `World`: Hardware and log.
* `World.call`, `World.post`: The two ways to extend the log.
-/

namespace CardHost

/-- What a backend gives back from a call. -/
structure Reply (σ ε α : Type) where
  value : α
  state : σ
  notes : List ε

/-- How a wait returned. -/
inductive WaitOutcome where
  /-- Something differs; the reports are in the order of the entries. -/
  | changed (reports : List (ReaderFlags × Bytes))
  /-- The time allowed ran out. -/
  | timedOut
  /-- The wait was called off. -/
  | cancelled
  deriving DecidableEq, Repr

/-- A wait that is under way. -/
structure Poll where
  /-- Time allowed when the wait began, `none` for any. -/
  timeout : Option Duration
  /-- When the time allowed is over. -/
  ends : Instant
  /-- The present time. -/
  now : Instant
  /-- What is waited for. -/
  entries : List Snapshot

/-- Calls to readers and to cards of type `κ`, over hardware of type `σ`. -/
structure Backend (σ κ ε : Type) where
  /-- The names of the attached readers. -/
  list : σ → Reply σ ε (Except CardError (List String))
  /-- The outcome of a wait, `none` while it goes on. -/
  wait : Poll → σ → Option (Reply σ ε (Except CardError WaitOutcome))
  /-- Call off a wait; the flag tells whether one is under way. -/
  cancel : Bool → σ → Reply σ ε (Except CardError Unit)
  /-- Connect to the card in a reader. -/
  connect : String → ShareMode → σ → Reply σ ε (Except CardError κ)
  /-- The status of a card. -/
  status : κ → σ → Reply σ ε (Except CardError CardStatus × κ)
  /-- Exchange one command with a card. -/
  transmit : Bytes → κ → σ → Reply σ ε (Except CardError Bytes × κ)
  /-- Take a card for exclusive use. -/
  lock : κ → σ → Reply σ ε (Except CardError Unit × κ)
  /-- Give up exclusive use. -/
  unlock : κ → σ → Reply σ ε (Except CardError Unit × κ)
  /-- Renew a connection, treating the card as told. -/
  reconnect : Disposition → κ → σ → Reply σ ε (Except CardError Unit × κ)
  /-- Give up a connection. -/
  release : κ → σ → Reply σ ε Unit

/-- Something that became visible outside the host. -/
inductive LogEntry (ε : Type) where
  /-- A call to the backend returned. -/
  | call (note : ε)
  /-- A message was posted. -/
  | post (post : Post)
  deriving DecidableEq, Repr

/-- Hardware, and everything that happened so far, oldest first. -/
structure World (σ ε : Type) where
  hardware : σ
  log : List (LogEntry ε) := []

namespace World

variable {σ ε α : Type}

/-- Make a call. -/
def call (f : σ → Reply σ ε α) (w : World σ ε) : α × World σ ε :=
  let reply := f w.hardware
  (reply.value, ⟨reply.state, w.log ++ reply.notes.map .call⟩)

/-- Post messages. -/
def post (posts : List Post) (w : World σ ε) : World σ ε :=
  { w with log := w.log ++ posts.map .post }

/-- The messages posted so far, oldest first. -/
def posts (w : World σ ε) : List Post :=
  w.log.filterMap fun
    | .post post => some post
    | .call _ => none

/-- The calls made so far, oldest first. -/
def calls (w : World σ ε) : List ε :=
  w.log.filterMap fun
    | .call note => some note
    | .post _ => none

theorem posts_post (posts : List Post) (w : World σ ε) :
    (w.post posts).posts = w.posts ++ posts := by
  simp only [World.posts, World.post, List.filterMap_append, List.filterMap_map]
  exact congrArg _ (List.filterMap_some)

/-- What a call answers does not depend on the log. -/
theorem call_of_value {f : σ → Reply σ ε α} {w : World σ ε} {answer : α}
    (h : (f w.hardware).value = answer) : w.call f = (answer, (w.call f).2) :=
  congrArg (·, _) h

theorem posts_call (f : σ → Reply σ ε α) (w : World σ ε) : (w.call f).2.posts = w.posts := by
  simp only [World.posts, World.call, List.filterMap_append, List.filterMap_map]
  have h : (f w.hardware).notes.filterMap
      ((fun | LogEntry.post post => some post | LogEntry.call _ => none) ∘ LogEntry.call) = [] :=
    List.filterMap_eq_nil_iff.mpr fun _ _ => rfl
  rw [h, List.append_nil]

end World

end CardHost
