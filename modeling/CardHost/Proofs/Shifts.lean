import CardHost.Proofs.WaitingLine

/-!
# A Desk Under Calls From Inside a Post

What holds of a desk at every moment of a shift, whatever the receiver of its
messages makes it do in between. A moment is a number of tasks done, so these
are statements about `Shift.after`, and each is an induction on that number
with one lemma about a single task behind it.

Two shifts run side by side here, one of a desk and one of its line. They do
the same tasks and write the same log, since a task either asks the server, and
then the desk answers like its line, or does not touch the server at all. All
that is to be known about nested operations, about the order in which messages
go out, and about who sees which requests, is thereby a matter of the line.

The count of completions has to include the messages that are still to be
posted: between the first and the last message of an operation, its requests
have left the queue, and not all of their completions are out. Once no task is
left the difference is gone.

## Main definitions

* `Shift.map`: A shift with its server seen through a function.
* `Shift.next`, `Shift.after`: One task; some tasks.
* `Shift.posted`, `Shift.unposted`, `Shift.admitted`: What a shift has posted,
  has still to post, and has let wait.

## Theorems

* `drive_eq_after`: Working the stack off is doing some number of tasks.
* `next_map`, `after_map`: A shift of a desk is one of its line.
* `next_accounts`, `after_accounts`: Nothing is lost or completed twice.
* `postLast_posts`: At the end all that is left to post goes out.
* `desk_is_a_line`: All of it together.
-/

namespace CardHost

namespace Reentry

variable {δ δ' : Type}

/-- The message of an entry, if it is one. -/
def Entry.post? : Entry → Option Post
  | post p => some p
  | returned _ _ => none

/-- The message of a task, if it is one. -/
def Task.post? : Task → Option Post
  | post p => some p
  | call _ | returned _ _ => none

/-- The request that was let wait by what returned. -/
def Entry.admitted? : Entry → Option PendingRequest
  | returned operation (some answer) => operation.admitted? answer
  | returned _ none | post _ => none

/-- The request that was let wait by what has still to return. -/
def Task.admitted? : Task → Option PendingRequest
  | returned operation answer => operation.admitted? answer
  | call _ | post _ => none

namespace Shift

/-- A shift with its server seen through a function. -/
def map (f : δ → δ') (s : Shift δ) : Shift δ' :=
  { server := f s.server, script := s.script, tasks := s.tasks, log := s.log }

/-- Do the next task; without one the shift stays as it is. -/
def next (serve : Server δ) (s : Shift δ) : Shift δ := (s.step serve).getD s

/-- The shift after a number of tasks. -/
def after (serve : Server δ) : Nat → Shift δ → Shift δ
  | 0, s => s
  | n + 1, s => (after serve n s).next serve

/-- The messages that are out, oldest first. -/
def posted (s : Shift δ) : List Post := s.log.filterMap Entry.post?

/-- The messages still to be posted, the next one first. -/
def unposted (s : Shift δ) : List Post := s.tasks.filterMap Task.post?

/-- The requests that were let wait, by what returned and what has still to. -/
def admitted (s : Shift δ) : List PendingRequest :=
  s.log.filterMap Entry.admitted? ++ s.tasks.filterMap Task.admitted?

end Shift

section Running

variable {serve : Server δ}

theorem after_next (n : Nat) (s : Shift δ) :
    (s.next serve).after serve n = s.after serve (n + 1) := by
  induction n with
  | zero => rfl
  | succ n ih => exact congrArg (Shift.next serve) ih

/-- Working the stack off is doing some number of tasks, until none is left. -/
theorem drive_eq_after (s : Shift δ) :
    (∃ n, drive serve s = s.after serve n) ∧ (drive serve s).tasks = [] := by
  induction s using drive.induct serve with
  | case1 s hstep =>
      rw [drive, hstep]
      refine ⟨⟨0, rfl⟩, ?_⟩
      -- Only an empty stack has no next task.
      rcases s with ⟨server, script, tasks, log⟩
      rcases tasks with _ | ⟨_ | _ | _, tasks⟩
      · rfl
      · cases hstep
      · rcases script with _ | ⟨operations, script⟩ <;> cases hstep
      · cases hstep
  | case2 s s' hstep ih =>
      rw [drive, hstep]
      rcases ih with ⟨⟨n, hn⟩, htasks⟩
      refine ⟨⟨n + 1, ?_⟩, htasks⟩
      rw [← after_next, Shift.next, hstep]
      exact hn

end Running

/-- A task is the same task for two servers, as long as one answers like the
    other. -/
theorem next_map {serve : Server δ} {serve' : Server δ'} {f : δ → δ'} (s : Shift δ)
    (h : ∀ op, serve' (f s.server) op =
      ((serve s.server op).1, (serve s.server op).2.1, f (serve s.server op).2.2)) :
    (s.map f).next serve' = (s.next serve).map f := by
  rcases s with ⟨server, script, tasks, log⟩
  -- Only an operation asks the server; script and stack are the shift's own.
  rcases tasks with _ | ⟨operation | _ | _, tasks⟩
  · rfl
  · simp only [Shift.next, Shift.step, Shift.map, h operation, Option.getD_some]
  · rcases script with _ | ⟨operations, script⟩ <;> rfl
  · rfl

/-- A task leaves the indexes of a desk in agreement. -/
theorem next_consistent (s : Shift Desk) (h : s.server.queue.Consistent) :
    (s.next Desk.apply).server.queue.Consistent := by
  rcases s with ⟨desk, script, tasks, log⟩
  rcases tasks with _ | ⟨operation | _ | _, tasks⟩
  · exact h
  · exact Desk.apply_consistent h operation
  · rcases script with _ | ⟨operations, script⟩ <;> exact h
  · exact h

theorem after_consistent (s : Shift Desk) (h : s.server.queue.Consistent) (n : Nat) :
    (s.after Desk.apply n).server.queue.Consistent := by
  induction n with
  | zero => exact h
  | succ n ih => exact next_consistent _ ih

/-- A shift of a desk is one of its line. -/
theorem after_map (s : Shift Desk) (h : s.server.queue.Consistent) (n : Nat) :
    (s.after Desk.apply n).map Desk.line = (s.map Desk.line).after WaitingLine.apply n := by
  induction n with
  | zero => rfl
  | succ n ih =>
      rw [Shift.after, Shift.after, ← ih]
      exact (next_map _ (Desk.apply_line (after_consistent s h n))).symm

namespace Shift

/-- What was let wait was completed, is about to be, or still waits. -/
def Accounts (call : Call) (s : Shift WaitingLine) : Prop :=
  call.completions s.posted + call.completions s.unposted + call.waiting s.server.requests =
    call.waiting s.admitted

/-- Operations that have not begun have no messages, and let nothing wait. -/
theorem calls_idle (operations : List Operation) (tasks : List Task) :
    (operations.map Task.call ++ tasks).filterMap Task.post? = tasks.filterMap Task.post? ∧
      (operations.map Task.call ++ tasks).filterMap Task.admitted? =
        tasks.filterMap Task.admitted? := by
  induction operations with
  | nil => exact ⟨rfl, rfl⟩
  | cons operation rest ih => exact ih

/-- Messages that are not out are on the stack, and let nothing wait. -/
theorem posts_idle (posts : List Post) :
    (posts.map Task.post).filterMap Task.post? = posts ∧
      (posts.map Task.post).filterMap Task.admitted? = [] := by
  induction posts with
  | nil => exact ⟨rfl, rfl⟩
  | cons post rest ih => exact ⟨congrArg (post :: ·) ih.1, ih.2⟩

/-- What is logged next counts on top of the log. -/
theorem log_accounts (call : Call) (log : List Entry) (entry : Entry) :
    call.completions ((log ++ [entry]).filterMap Entry.post?) =
        call.completions (log.filterMap Entry.post?) + call.completions entry.post?.toList ∧
      call.waiting ((log ++ [entry]).filterMap Entry.admitted?) =
        call.waiting (log.filterMap Entry.admitted?) + call.waiting entry.admitted?.toList := by
  rw [List.filterMap_append, List.filterMap_append, call.completions_append, call.waiting_append,
    call.completions_filterMap_cons, call.waiting_filterMap_cons]
  exact ⟨rfl, rfl⟩

/-- A task loses no request and completes none twice. -/
theorem next_accounts (call : Call) (s : Shift WaitingLine) (h : s.Accounts call) :
    (s.next WaitingLine.apply).Accounts call := by
  rcases s with ⟨line, script, tasks, log⟩
  unfold Accounts posted unposted admitted at h ⊢
  rw [call.waiting_append] at h ⊢
  rcases tasks with _ | ⟨operation | post | ⟨operation, answer⟩, tasks⟩
  · exact h
  · -- The requests that the operation ended are now messages on the stack.
    have hop := line.apply_accounts call operation
    rcases hserved : line.apply operation with ⟨answer, posts, line'⟩
    rw [hserved] at hop
    simp only [next, step, hserved, Option.getD_some, List.filterMap_append, posts_idle posts,
      List.nil_append, call.completions_append, call.completions_filterMap_cons,
      call.waiting_filterMap_cons, Task.post?, Task.admitted?, Option.toList_none,
      call.completions_nil, call.waiting_nil] at h hop ⊢
    omega
  · -- What the receiver does in return has not begun, so only the message moves.
    have hlog := log_accounts call log (.post post)
    rcases script with _ | ⟨operations, script⟩
    · simp only [next, step, Option.getD_some, hlog, call.completions_filterMap_cons,
        call.waiting_filterMap_cons, Task.post?, Task.admitted?, Entry.post?, Entry.admitted?,
        Option.toList_none, call.waiting_nil] at h ⊢
      omega
    · simp only [next, step, Option.getD_some, hlog, calls_idle operations tasks,
        call.completions_filterMap_cons, call.waiting_filterMap_cons, Task.post?,
        Task.admitted?, Entry.post?, Entry.admitted?, Option.toList_none, call.waiting_nil] at h ⊢
      omega
  · have hlog := log_accounts call log (.returned operation (some answer))
    simp only [next, step, Option.getD_some, hlog, call.completions_filterMap_cons,
      call.waiting_filterMap_cons, Task.post?, Task.admitted?, Entry.post?, Entry.admitted?,
      Option.toList_none, call.completions_nil] at h ⊢
    omega

theorem after_accounts (call : Call) (s : Shift WaitingLine) (h : s.Accounts call) (n : Nat) :
    (s.after WaitingLine.apply n).Accounts call := by
  induction n with
  | zero => exact h
  | succ n ih => exact next_accounts call _ ih

theorem start_accounts (call : Call) (bindings : List Binding) (clock : Instant)
    (script : List (List Operation)) (operations : List Operation) :
    (start (WaitingLine.start bindings clock) script operations).Accounts call := by
  have hidle := calls_idle operations []
  rw [List.append_nil] at hidle
  simp only [Accounts, posted, unposted, admitted, start, hidle]
  rfl

/-- How a shift of a desk stands to the same shift of a line. -/
structure Follows (s : Shift Desk) (t : Shift WaitingLine) : Prop where
  /-- The two indexes have the same keys, each under its own slot. -/
  agree : s.server.queue.Agree
  /-- The earliest deadline is the least of those that wait. -/
  nearest : s.server.queue.nextDeadline =
    (s.server.queue.live.map PendingRequest.deadline).min?
  /-- Log, stack and script are the same, and the requests are those of the
      line, in order. -/
  same : s.map Desk.line = t
  /-- Whatever is asked next, the desk answers and posts like the line, and
      its requests are again those of the line before anything is posted. -/
  serves : ∀ op, t.server.apply op =
    ((s.server.apply op).1, (s.server.apply op).2.1, (s.server.apply op).2.2.line)
  /-- A duplicate is refused without a message, and not even the indexes
      change. -/
  refuses : ∀ r, (∃ x ∈ s.server.queue.live, x.key = r.key) →
    s.server.apply (.add r) = (.refused (.duplicateRequest r.key), [], s.server)
  /-- What was let wait was completed, is about to be, or still waits. -/
  accounts : ∀ call : Call, call.completions s.posted + call.completions s.unposted +
    call.waiting s.server.queue.live = call.waiting s.admitted

end Shift

/-- Whatever is still to be posted at the end of a desk goes out, in order. -/
theorem postLast_posts (script : List (List Operation)) (posts : List Post) :
    (postLast script posts).filterMap Entry.post? = posts := by
  induction posts generalizing script with
  | nil => rw [postLast]; rfl
  | cons post posts ih =>
      rcases script with _ | ⟨operations, script⟩
      · rw [postLast, List.filterMap_cons, ih]
        rfl
      · -- What the receiver asks for now is not heard, so nothing is posted for it.
        have hunheard : (operations.map fun operation => Entry.returned operation none).filterMap
            Entry.post? = [] := by
          rw [List.filterMap_map]
          exact List.filterMap_eq_nil_iff.mpr fun _ _ => rfl
        rw [postLast, List.cons_append, List.filterMap_cons, List.filterMap_append, hunheard, ih]
        rfl

/-- The end of a desk calls off every request that waits, in order. -/
theorem close_posts (s : Shift Desk) (h : s.server.queue.Consistent) :
    (close s).filterMap Entry.post? =
      s.server.queue.live.flatMap fun r => r.toWindow r.canceled := by
  rw [close, postLast_posts, (RequestQueue.cancelAll_ends h).posts, List.filter_true]

theorem after_follows (bindings : List Binding) (clock : Instant)
    (script : List (List Operation)) (operations : List Operation) (n : Nat) :
    ((Shift.start (Desk.start bindings clock) script operations).after Desk.apply n).Follows
      ((Shift.start (WaitingLine.start bindings clock) script operations).after
        WaitingLine.apply n) := by
  have hstart : (Desk.start bindings clock).queue.Consistent := RequestQueue.consistent_empty
  have hconsistent := after_consistent (Shift.start (Desk.start bindings clock) script operations)
    hstart n
  have hsame := after_map (Shift.start (Desk.start bindings clock) script operations) hstart n
  refine ⟨hconsistent.agree, hconsistent.nextDeadline_eq, hsame, ?_, ?_, ?_⟩
  · intro op
    have hserver := congrArg Shift.server hsame
    rw [Shift.map] at hserver
    exact hserver ▸ Desk.apply_line hconsistent op
  · intro r hr
    exact Desk.apply_add_pending ((hconsistent.contains_iff r.key).mpr hr)
  · intro call
    have haccounts := Shift.after_accounts call _
      (Shift.start_accounts call bindings clock script operations) n
    have hline : Shift.start (WaitingLine.start bindings clock) script operations =
        (Shift.start (Desk.start bindings clock) script operations).map Desk.line := rfl
    rw [hline, ← hsame] at haccounts
    exact haccounts

/-- A desk is a line, whatever is asked of it and whatever the receiver of its
    messages asks in between. The two go side by side through every task, and
    at the end of the desk each request that was ever let wait has been
    completed exactly once, those that were left by being called off. -/
theorem desk_is_a_line (bindings : List Binding) (clock : Instant)
    (script : List (List Operation)) (operations : List Operation) :
    let desk := Shift.start (Desk.start bindings clock) script operations
    let line := Shift.start (WaitingLine.start bindings clock) script operations
    let last := drive Desk.apply desk
    (∀ n, (desk.after Desk.apply n).Follows (line.after WaitingLine.apply n)) ∧
      (∃ n, last = desk.after Desk.apply n) ∧ last.tasks = [] ∧
      (close last).filterMap Entry.post? =
        (last.server.queue.live.flatMap fun r => r.toWindow r.canceled) ∧
      ∀ call : Call, call.completions (last.posted ++ (close last).filterMap Entry.post?) =
        call.waiting last.admitted := by
  intro desk line last
  rcases @drive_eq_after _ Desk.apply desk with ⟨⟨n, hn⟩, htasks⟩
  have hfollows := after_follows bindings clock script operations
  have hlast : last = desk.after Desk.apply n := hn
  have hconsistent : last.server.queue.Consistent := by
    rw [hlast]
    exact after_consistent desk RequestQueue.consistent_empty n
  have hposts := close_posts last hconsistent
  refine ⟨hfollows, ⟨n, hn⟩, htasks, hposts, fun call => ?_⟩
  -- With no task left nothing is unposted, and the end calls off what waits.
  have haccounts := (hfollows n).accounts call
  rw [← hlast, Shift.unposted, htasks, List.filterMap_nil, call.completions_nil] at haccounts
  rw [call.completions_append, hposts, PendingRequest.endsOnce_canceled.flatMap]
  exact haccounts

end Reentry

end CardHost
