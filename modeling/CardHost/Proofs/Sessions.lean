import CardHost.Session

/-!
# What a Session Leaves Alone

Whoever counts completions, or asks which reader a session is bound to, does
not want to know how a card is connected, reset or read. All of that is
settled here once: an operation on a session changes at most the card, the
lock and what was last seen, and posts at most events of that session.
`Discreet` says both, is kept under sequence, and holds of every operation.

A report about a reader is the exception, since it may bind the session. The
binding afterwards is a function of the binding before and the report, and
but for the binding a report is discreet as well.

## Main definitions

* `Post.Reports`: A post is an event of a session.
* `Session.Alike`: Two states of a session differ at most in card, lock and
  what was last seen of the reader.
* `Session.Discreet`: What an operation on a session may do.
* `Session.informed`: The session with the binding that a report leaves it.
* `Session.Indifferent`: A session that a report tells nothing.

## Theorems

* `withCard_discreet`: Using the card, and with it
* `lock_discreet`, `unlock_discreet`, `status_discreet`, `read_discreet`,
  `chipIo_discreet`, `chipPower_discreet`, `reset_discreet`: every operation.
* `notify_deviceList`, `notify_card`: Taking in a report.
* `notify_handle`, `notify_posts_own`: What every report leaves, and has posted.
* `informed_isBound`: A card that is inserted leaves no session unbound.
-/

namespace CardHost

/-- A post reports an event of a session that nobody asked for. -/
def Post.Reports (handle : ServiceHandle) (post : Post) : Prop :=
  (post.message.kind = .systemEvent ∨ post.message.kind = .serviceEvent) ∧
    post.message.service = handle

/-- An event is no completion. -/
theorem Post.Reports.isCompletion {handle : ServiceHandle} {post : Post}
    (h : post.Reports handle) : post.message.isCompletion = false := by
  rw [Message.isCompletion]
  rcases h.1 with hkind | hkind <;> rw [hkind] <;> rfl

namespace Session

variable {σ κ ε α : Type} {b : Backend σ κ ε}

/-- Two states of a session differ at most in the card, the lock on it, and
    what was last seen of its reader. -/
def Alike (s s' : Session κ) : Prop :=
  ∃ card observed locked, s' = { s with card, observed, locked }

theorem Alike.refl (s : Session κ) : s.Alike s := ⟨s.card, s.observed, s.locked, rfl⟩

theorem Alike.trans {s s' s'' : Session κ} (h : s.Alike s')
    (h' : s'.Alike s'') : s.Alike s'' := by
  rcases h with ⟨_, _, _, rfl⟩
  rcases h' with ⟨card, observed, locked, rfl⟩
  exact ⟨card, observed, locked, rfl⟩

/-- An operation took a session and a world to these, changed at most the card
    and posted at most events of the session. -/
structure Discreet (s : Session κ) (w : World σ ε) (s' : Session κ) (w' : World σ ε) :
    Prop where
  same : s.Alike s'
  posts : ∃ posts, w'.posts = w.posts ++ posts ∧ ∀ post ∈ posts, post.Reports s.handle

theorem Discreet.handle {s s' : Session κ} {w w' : World σ ε} (h : s.Discreet w s' w') :
    s'.handle = s.handle := by
  rcases h.same with ⟨_, _, _, rfl⟩
  rfl

theorem Discreet.binding {s s' : Session κ} {w w' : World σ ε} (h : s.Discreet w s' w') :
    s'.binding = s.binding := by
  rcases h.same with ⟨_, _, _, rfl⟩
  rfl

/-- An operation that posts nothing. -/
theorem Discreet.of_silent {s s' : Session κ} {w w' : World σ ε} (h : s.Alike s')
    (hposts : w'.posts = w.posts) : s.Discreet w s' w' :=
  ⟨h, [], by rw [hposts, List.append_nil], fun _ hpost => nomatch hpost⟩

theorem Discreet.refl (s : Session κ) (w : World σ ε) : s.Discreet w s w :=
  of_silent (Alike.refl s) rfl

theorem Discreet.trans {s s' s'' : Session κ} {w w' w'' : World σ ε}
    (h : s.Discreet w s' w') (h' : s'.Discreet w' s'' w'') : s.Discreet w s'' w'' := by
  rcases h.posts with ⟨posts, hposts, hreports⟩
  rcases h'.posts with ⟨posts', hposts', hreports'⟩
  refine ⟨h.same.trans h'.same, posts ++ posts', ?_, fun post hpost => ?_⟩
  · rw [hposts', hposts, List.append_assoc]
  · -- The first operation left the handle, so both report under the same.
    rcases List.mem_append.mp hpost with hpost | hpost
    · exact hreports post hpost
    · exact h.handle ▸ hreports' post hpost

/-- An event goes to windows, and nowhere else. -/
theorem report_discreet (s : Session κ) (w : World σ ε) {kind : MessageKind} (id : EventId)
    (payload : Payload) (hkind : kind = .systemEvent ∨ kind = .serviceEvent) :
    s.Discreet w s (s.report kind id payload w) := by
  refine ⟨Alike.refl s, _, World.posts_post _ w, fun post hpost => ?_⟩
  rw [Subscriptions.posts] at hpost
  split at hpost
  · cases hpost
  · rcases List.mem_map.mp hpost with ⟨window, -, rfl⟩
    exact ⟨hkind, rfl⟩

theorem disconnect_discreet (s : Session κ) (w : World σ ε) :
    s.Discreet w (s.disconnect b w).1 (s.disconnect b w).2 := by
  refine Discreet.of_silent ⟨none, _, false, rfl⟩ ?_
  rcases hcard : s.card with _ | card
  · rw [disconnect, hcard]
  · rw [disconnect, hcard]
    exact World.posts_call _ w

theorem connect_posts (s : Session κ) (w : World σ ε) : (s.connect b w).2.posts = w.posts := by
  rw [connect]
  split
  · rfl
  · split
    · rfl
    · exact World.posts_call _ w

/-- Using the card is discreet if the use posts nothing. -/
theorem withCard_discreet {use : κ → World σ ε → (Except CardError α × κ) × World σ ε}
    (huse : ∀ card w, (use card w).2.posts = w.posts) (s : Session κ) (w : World σ ε) :
    s.Discreet w (s.withCard b use w).2.1 (s.withCard b use w).2.2 := by
  have hconnect := connect_posts (b := b) s w
  rw [withCard]
  split
  · next hcall =>
      rw [hcall] at hconnect
      exact Discreet.of_silent (Alike.refl s) hconnect
  · next card w' hcall =>
      rw [hcall] at hconnect
      have hused := huse card w'
      split
      · next hreturn =>
          rw [hreturn] at hused
          exact Discreet.of_silent ⟨_, _, _, rfl⟩ (hused.trans hconnect)
      · next e card' w'' hreturn =>
          rw [hreturn] at hused
          have hfailed : s.Discreet w { s with card := some card' } w'' :=
            Discreet.of_silent ⟨_, _, _, rfl⟩ (hused.trans hconnect)
          -- Some errors give the card up, which is one more operation.
          by_cases hdrops : e.dropsConnection = true
          · rw [if_pos hdrops]
            exact hfailed.trans (disconnect_discreet _ _)
          · rw [if_neg hdrops]
            exact hfailed

theorem lock_discreet (s : Session κ) (w : World σ ε) :
    s.Discreet w (s.lock b w).2.1 (s.lock b w).2.2 := by
  have huse := withCard_discreet (b := b) (fun card => World.posts_call (b.lock card)) s w
  rw [lock]
  split
  · exact Discreet.refl s w
  · split
    · next hwith =>
        rw [hwith] at huse
        exact huse.trans (Discreet.of_silent ⟨_, _, _, rfl⟩ rfl)
    · next hwith =>
        rw [hwith] at huse
        exact huse

theorem unlock_discreet (s : Session κ) (w : World σ ε) :
    s.Discreet w (s.unlock b w).2.1 (s.unlock b w).2.2 := by
  have huse := withCard_discreet (b := b) (fun card => World.posts_call (b.unlock card)) s w
  rw [unlock]
  split
  · exact huse.trans (Discreet.of_silent ⟨_, _, _, rfl⟩ rfl)
  · exact Discreet.refl s w

theorem status_discreet (s : Session κ) (w : World σ ε) :
    s.Discreet w (s.status b w).2.1 (s.status b w).2.2 := by
  rw [status]
  split
  · exact Discreet.refl s w
  · split
    · exact Discreet.refl s w
    · exact withCard_discreet (fun card => World.posts_call (b.status card)) s w

theorem read_discreet (sources : DataSources) (s : Session κ) (w : World σ ε) :
    s.Discreet w (s.read b sources w).2.1 (s.read b sources w).2.2 :=
  withCard_discreet (fun card => World.posts_call (b.status card)) s w

theorem chipIo_discreet (command : Bytes) (s : Session κ) (w : World σ ε) :
    s.Discreet w (s.chipIo b command w).2.1 (s.chipIo b command w).2.2 := by
  refine withCard_discreet (fun card w => ?_) s w
  have hstatus := World.posts_call (b.status card) w
  split
  · next hcall =>
      rw [hcall] at hstatus
      exact hstatus
  · next hcall =>
      rw [hcall] at hstatus
      exact (World.posts_call _ _).trans hstatus

theorem chipPower_discreet (action : PowerAction) (s : Session κ) (w : World σ ε) :
    s.Discreet w (s.chipPower b action w).2.1 (s.chipPower b action w).2.2 := by
  refine withCard_discreet (fun card w => ?_) s w
  have hreconnect := World.posts_call (b.reconnect action.disposition card) w
  split
  · next hcall =>
      rw [hcall] at hreconnect
      exact hreconnect
  · next hcall =>
      rw [hcall] at hreconnect
      cases action
      · exact (World.posts_call _ _).trans hreconnect
      · exact (World.posts_call _ _).trans hreconnect
      · exact hreconnect

/-- A reset posts an event if it finds a card. -/
theorem reset_discreet (s : Session κ) (w : World σ ε) :
    s.Discreet w (s.reset b w).2.1 (s.reset b w).2.2 := by
  have huse := withCard_discreet (b := b)
    (fun card => World.posts_call (b.reconnect .reset card)) s w
  rw [reset]
  split
  · exact Discreet.refl s w
  · split
    · next hwith =>
        rw [hwith] at huse
        exact huse.trans (report_discreet _ _ _ _ (.inr rfl))
    · next hwith =>
        rw [hwith] at huse
        exact huse

/-- The session with the binding that a report about a card leaves it. -/
def informed (state : Snapshot) (s : Session κ) : Session κ :=
  if state.inserted then { s with binding := (s.binding.bind state.name).2 } else s

theorem informed_handle (state : Snapshot) (s : Session κ) :
    (s.informed state).handle = s.handle := by
  unfold informed
  split <;> rfl

/-- A card that is inserted leaves no session unbound. -/
theorem informed_isBound {state : Snapshot} (hinserted : state.inserted = true)
    (s : Session κ) : (s.informed state).binding.isBound = true := by
  rw [informed, if_pos hinserted]
  exact s.binding.isBound_bind state.name

/-- A report about the list of readers does not concern a session. -/
theorem notify_deviceList (state : Snapshot) (s : Session κ) (w : World σ ε) :
    s.notify b state .deviceList w = (s, w) := rfl

theorem noteAvailability_discreet (state : Snapshot) (s : Session κ) (w : World σ ε) :
    s.Discreet w (s.noteAvailability state w).1 (s.noteAvailability state w).2 := by
  rw [noteAvailability]
  split
  · exact Discreet.refl s w
  · exact (report_discreet s w _ _ (.inl rfl)).trans
      (Discreet.of_silent ⟨_, _, _, rfl⟩ rfl)

theorem notePresence_discreet (state : Snapshot) (s : Session κ) (w : World σ ε) :
    s.Discreet w (s.notePresence b state w).1 (s.notePresence b state w).2 := by
  have hnoted : ∀ (s' : Session κ) (w' : World σ ε), s.Discreet w s' w' →
      s.Discreet w { s' with observed := { s'.observed with present := state.present } } w' :=
    fun _ _ h => h.trans (Discreet.of_silent ⟨_, _, _, rfl⟩ rfl)
  rw [notePresence]
  by_cases hgone : (s.observed.present && (!state.present || state.replaced)) = true
  · rw [if_pos hgone]
    exact hnoted _ _ ((disconnect_discreet s w).trans (report_discreet _ _ _ _ (.inr rfl)))
  · rw [if_neg hgone]
    exact hnoted _ _ (Discreet.refl s w)

/-- But for the binding, taking in a report is discreet. -/
theorem notify_card (state : Snapshot) (s : Session κ) (w : World σ ε) :
    (s.informed state).Discreet w (s.notify b state .card w).1 (s.notify b state .card w).2 := by
  by_cases hbound : (s.informed state).binding.isBoundTo state.name = true
  · have hnoted := (s.informed state).noteAvailability_discreet state w
    have hnotify : s.notify b state .card w =
        ((s.informed state).noteAvailability state w).1.notePresence b state
          ((s.informed state).noteAvailability state w).2 := if_pos hbound
    rw [hnotify]
    exact hnoted.trans (notePresence_discreet state _ _)
  · -- Bound to another reader or to none, the session takes in nothing else.
    have hnotify : s.notify b state .card w = (s.informed state, w) := if_neg hbound
    rw [hnotify]
    exact Discreet.refl _ w

/-- A report leaves a session its handle. -/
theorem notify_handle (b : Backend σ κ ε) (state : Snapshot) (kind : ChangeKind) (s : Session κ)
    (w : World σ ε) : (s.notify b state kind w).1.handle = s.handle := by
  cases kind with
  | deviceList => rfl
  | card => exact (s.notify_card state w).handle.trans (s.informed_handle state)

/-- What a session posts by a report are events of its own. -/
theorem notify_posts_own (b : Backend σ κ ε) (state : Snapshot) (kind : ChangeKind)
    (s : Session κ) (w : World σ ε) :
    ∃ posts, (s.notify b state kind w).2.posts = w.posts ++ posts ∧
      ∀ post ∈ posts, post.Reports s.handle := by
  cases kind with
  | deviceList => exact ⟨[], (List.append_nil _).symm, fun _ hpost => nomatch hpost⟩
  | card => exact s.informed_handle state ▸ (s.notify_card (b := b) state w).posts

/-- A report tells a session nothing: it stays as it is, and does nothing. -/
def Indifferent (b : Backend σ κ ε) (state : Snapshot) (kind : ChangeKind) (s : Session κ) : Prop :=
  ∀ w : World σ ε, s.notify b state kind w = (s, w)

end Session

end CardHost
