import CardHost.WindowQueues
import Mathlib.Algebra.Group.Nat.Defs
import Mathlib.Data.List.Induction
import Mathlib.Data.List.Nodup

/-!
# What Arrives at a Window

A window has three lives that end one by one: it is open until it is closed, its
reading end is held until it is dropped, and messages wait in its queue until they
are read. Any of these may end before the others, windows are told apart by numbers
only, and messages for all of them come in any order.

What should arrive at a window can be told without queues. Look at the deeds that
are about this window, and forget the rest: a message is kept if it was posted
while the window was open and its reading end was held. That is an `Inbox`. What
was read from the window is in the deeds as well, and now the claim is that it is
the beginning of what was kept, with nothing left out, and that the next attempt to
read has the next message, or says why there is none.

The queues are shown to do this by one invariant, `Tells`. As long as the reading
end is held, what was kept is what was read and after it what waits in the queue;
when it is dropped the queue is emptied, and then what was read stays a beginning of
what was kept. All that is done to a window changes the queue under one number, so
the invariant is shown once for such changes, and what an act adds is one fact about
one queue. Opening a window is the only other case. There the number has to be new,
and it is as long as numbers do not run out.

## Main definitions

* `WindowAct`, `WindowDeed`: What is done with windows, and what came of it.
* `WindowQueues.run`: A run of acts, with the deeds.
* `Inbox`: What is kept for a window; `Inbox.of` has it from the deeds.
* `takenFrom`: What was read from a window.
* `Inbox.answer`: What an attempt to read should have.
* `WindowQueues.Tells`: The queues agree with the deeds.

## Theorems

* `find?_modify`, `find?_open`: The queue of a window after a change.
* `Tells.modify`, `Tells.open`: A change of one queue, and a new one.
* `act_tells`, `run_tells`: One act; a run of them.
* `drain`: What is left of a closed window.
* `queues_deliver`: All that arrives, over every run.
-/

namespace CardHost

/-- What can be done with windows. -/
inductive WindowAct where
  | openWindow
  | closeWindow (window : Window)
  | dropReader (window : Window)
  | post (post : Post)
  | receive (window : Window)

/-- Whether a window is opened. -/
def WindowAct.opens : WindowAct → Bool
  | openWindow => true
  | closeWindow _ | dropReader _ | post _ | receive _ => false

/-- What was done with windows, and what came of it. -/
inductive WindowDeed where
  | opened (window : Window)
  | closed (window : Window)
  | dropped (window : Window)
  | posted (post : Post)
  | received (window : Window) (answer : Received)
  deriving DecidableEq

namespace WindowDeed

/-- The window that it was done with. -/
def window : WindowDeed → Window
  | opened window | closed window | dropped window | received window _ => window
  | posted post => post.window

/-- The window that was opened. -/
def opened? : WindowDeed → Option Window
  | opened window => some window
  | closed _ | dropped _ | posted _ | received .. => none

/-- The message that was read. -/
def taken? : WindowDeed → Option Message
  | received _ (.message message) => some message
  | received _ .empty | received _ .disconnected | received _ .noQueue | opened _ | closed _
  | dropped _ | posted _ => none

end WindowDeed

/-- The deeds that are about a window. -/
def deedsOf (window : Window) (past : List WindowDeed) : List WindowDeed :=
  past.filter (·.window = window)

/-- The windows that were opened. -/
def openedIn (past : List WindowDeed) : List Window := past.filterMap WindowDeed.opened?

/-- What was read from a window. -/
def takenFrom (window : Window) (past : List WindowDeed) : List Message :=
  (deedsOf window past).filterMap WindowDeed.taken?

/-- What is known of a window that was opened. -/
structure Inbox where
  isOpen : Bool
  hasReader : Bool
  /-- What was posted while it was open and could be read. -/
  kept : List Message

namespace Inbox

/-- A message is posted. -/
def post (box : Inbox) (message : Message) : Inbox :=
  if box.isOpen && box.hasReader then { box with kept := box.kept ++ [message] } else box

/-- Something is done with the window. -/
def meet (box? : Option Inbox) : WindowDeed → Option Inbox
  | .opened _ => some { isOpen := true, hasReader := true, kept := [] }
  | .closed _ => box?.map fun box => { box with isOpen := false }
  | .dropped _ => box?.map fun box => { box with hasReader := false }
  | .posted post => box?.map (·.post post.message)
  | .received .. => box?

/-- What is known of a window, from the deeds that are about it. -/
def of (window : Window) (past : List WindowDeed) : Option Inbox :=
  (deedsOf window past).foldl meet none

/-- What is kept for a window; nothing is for one that was never opened. -/
def keptFor (window : Window) (past : List WindowDeed) : List Message :=
  ((of window past).map kept).getD []

/-- What an attempt to read should have, after some messages were read. -/
def answer (taken : List Message) : Option Inbox → Received
  | none => .noQueue
  | some box =>
    if box.hasReader then
      match box.kept.drop taken.length with
      | message :: _ => .message message
      | [] => if box.isOpen then .empty else .disconnected
    else .noQueue

end Inbox

section Deeds

variable {past : List WindowDeed} {deed : WindowDeed} {window : Window}

theorem deedsOf_concat_same (h : deed.window = window) :
    deedsOf window (past ++ [deed]) = deedsOf window past ++ [deed] := by
  simp [deedsOf, h]

theorem deedsOf_concat_other (h : deed.window ≠ window) :
    deedsOf window (past ++ [deed]) = deedsOf window past := by
  simp [deedsOf, h]

theorem Inbox.of_concat_same (h : deed.window = window) :
    Inbox.of window (past ++ [deed]) = Inbox.meet (Inbox.of window past) deed := by
  rw [Inbox.of, deedsOf_concat_same h, List.foldl_append]
  rfl

theorem Inbox.of_concat_other (h : deed.window ≠ window) :
    Inbox.of window (past ++ [deed]) = Inbox.of window past := by
  rw [Inbox.of, deedsOf_concat_other h, Inbox.of]

/-- What is picked from deeds, with one more of them. -/
theorem filterMap_concat {α : Type} (pick : WindowDeed → Option α) (past : List WindowDeed)
    (deed : WindowDeed) :
    (past ++ [deed]).filterMap pick = past.filterMap pick ++ (pick deed).toList := by
  rw [List.filterMap_append, List.filterMap_cons, List.filterMap_nil]
  cases pick deed <;> rfl

theorem takenFrom_concat_same (h : deed.window = window) :
    takenFrom window (past ++ [deed]) = takenFrom window past ++ deed.taken?.toList := by
  rw [takenFrom, deedsOf_concat_same h, filterMap_concat, takenFrom]

theorem takenFrom_concat_other (h : deed.window ≠ window) :
    takenFrom window (past ++ [deed]) = takenFrom window past := by
  rw [takenFrom, deedsOf_concat_other h, takenFrom]

theorem openedIn_concat (past : List WindowDeed) (deed : WindowDeed) :
    openedIn (past ++ [deed]) = openedIn past ++ deed.opened?.toList := by
  rw [openedIn, filterMap_concat, openedIn]

end Deeds

namespace WindowQueues

/-- Do something with windows. -/
def act (table : WindowQueues) : WindowAct → WindowDeed × WindowQueues
  | .openWindow => (.opened table.openWindow.1, table.openWindow.2)
  | .closeWindow window => (.closed window, (table.closeWindow window).2)
  | .dropReader window => (.dropped window, (table.dropReader window).2)
  | .post post => (.posted post, table.post post)
  | .receive window => (.received window (table.receive window).1, (table.receive window).2)

/-- A run of acts, with the deeds. -/
def run : List WindowAct → WindowQueues → List WindowDeed × WindowQueues
  | [], table => ([], table)
  | act :: acts, table =>
    let (deed, table) := table.act act
    let (deeds, table) := run acts table
    (deed :: deeds, table)

variable {table : WindowQueues} {window : Window} {past : List WindowDeed}

/-- The queue of a window after a change of one of them. -/
theorem find?_modify {change : WindowQueue → WindowQueue}
    (hchange : ∀ queue, (change queue).window = queue.window) (table : WindowQueues)
    (window other : Window) :
    (table.modify window change).find? other =
      if other = window then (table.find? other).map change else table.find? other := by
  have htest : ((fun queue : WindowQueue => queue.window == other) ∘
      fun queue => if queue.window = window then change queue else queue) =
        fun queue => queue.window == other := by
    funext queue
    rw [Function.comp_apply]
    split
    · rw [hchange]
    · rfl
  rw [find?, modify, List.find?_map, htest, ← find?]
  rcases hfound : table.find? other with _ | queue
  · rw [Option.map_none, Option.map_none, ite_self]
  · -- What is found under a number has this number.
    have hmatch := List.find?_some hfound
    have hwindow : queue.window = other := beq_iff_eq.mp hmatch
    rw [Option.map_some, Option.map_some, hwindow]
    by_cases hsame : other = window
    · rw [if_pos hsame, if_pos hsame]
    · rw [if_neg hsame, if_neg hsame]

/-- The queue that was changed. -/
theorem find?_modify_self {queue : WindowQueue} (hfound : table.find? window = some queue)
    (change : WindowQueue → WindowQueue)
    (hchange : ∀ queue, (change queue).window = queue.window) :
    (table.modify window change).find? window = some (change queue) := by
  rw [find?_modify hchange, if_pos rfl, hfound]
  rfl

theorem windows_modify {change : WindowQueue → WindowQueue}
    (hchange : ∀ queue, (change queue).window = queue.window) (table : WindowQueues)
    (window : Window) :
    (table.modify window change).queues.map WindowQueue.window =
      table.queues.map WindowQueue.window := by
  rw [modify, List.map_map]
  refine List.map_congr_left fun queue _ => ?_
  rw [Function.comp_apply]
  split
  · exact hchange queue
  · rfl

/-- The queue of a window that was just opened. -/
def fresh (window : Window) : WindowQueue :=
  { window, isOpen := true, hasReader := true, messages := [] }

/-- The queues after one more window was opened under a number that is new. -/
theorem find?_open (hnew : table.find? (table.opened + 1) = Option.none) (other : Window) :
    table.openWindow.2.find? other =
      if other = table.opened + 1 then some (fresh other) else table.find? other := by
  rw [find?, openWindow, List.find?_append, ← find?]
  by_cases hsame : other = table.opened + 1
  · rw [if_pos hsame, hsame, hnew, List.find?_singleton, if_pos (beq_self_eq_true _)]
    rfl
  · rw [if_neg hsame, List.find?_singleton,
      if_neg fun hfound => hsame (beq_iff_eq.mp hfound).symm, Option.or_none]

/-- The numbers from one on. -/
def numbers (n : Nat) : List Window := (List.range n).map fun i => UInt64.ofNat (i + 1)

theorem numbers_succ (n : Nat) : numbers (n + 1) = numbers n ++ [UInt64.ofNat (n + 1)] := by
  rw [numbers, List.range_succ, List.map_append]
  rfl

/-- Numbers are told apart as long as they do not run out. -/
theorem ofNat_inj {m n : Nat} (hm : m < 2 ^ 64) (hn : n < 2 ^ 64)
    (h : UInt64.ofNat m = UInt64.ofNat n) : m = n := by
  have hnat := congrArg UInt64.toNat h
  rw [UInt64.toNat_ofNat', UInt64.toNat_ofNat', Nat.mod_eq_of_lt hm, Nat.mod_eq_of_lt hn] at hnat
  exact hnat

theorem numbers_nodup {n : Nat} (h : n < 2 ^ 64) : (numbers n).Nodup := by
  refine List.Nodup.map_on (fun i hi j hj hsame => ?_) List.nodup_range
  rw [List.mem_range] at hi hj
  have := ofNat_inj (by omega) (by omega) hsame
  omega

/-- What is known of a window fits its queue. -/
structure Fits (box : Inbox) (taken : List Message) (queue : WindowQueue) : Prop where
  isOpen : queue.isOpen = box.isOpen
  hasReader : queue.hasReader = box.hasReader
  /-- While it can be read, nothing is lost. -/
  held : box.hasReader = true → box.kept = taken ++ queue.messages
  /-- What was read once can not be taken back. -/
  lost : box.hasReader = false → taken <+: box.kept

/-- The queues agree with the deeds. -/
structure Tells (past : List WindowDeed) (table : WindowQueues) : Prop where
  windows : table.queues.map WindowQueue.window = numbers table.opened.toNat
  opened : openedIn past = numbers table.opened.toNat
  unopened : ∀ window, table.find? window = Option.none →
    Inbox.of window past = Option.none ∧ takenFrom window past = []
  queue : ∀ window queue, table.find? window = some queue →
    ∃ box, Inbox.of window past = some box ∧ Fits box (takenFrom window past) queue

theorem none_tells : Tells [] none where
  windows := rfl
  opened := rfl
  unopened _ _ := ⟨rfl, rfl⟩
  queue _ _ h := nomatch h

/-- A change of one queue that goes with what was done to its window. -/
theorem Tells.modify (h : Tells past table) (deed : WindowDeed)
    (change : WindowQueue → WindowQueue)
    (hchange : ∀ queue, (change queue).window = queue.window)
    (hopened : deed.opened? = Option.none)
    (hnone : table.find? deed.window = Option.none →
      Inbox.meet Option.none deed = Option.none ∧ deed.taken? = Option.none)
    (hsome : ∀ box queue, table.find? deed.window = some queue →
      Fits box (takenFrom deed.window past) queue →
        ∃ box', Inbox.meet (some box) deed = some box' ∧
          Fits box' (takenFrom deed.window past ++ deed.taken?.toList) (change queue)) :
    Tells (past ++ [deed]) (table.modify deed.window change) := by
  refine ⟨(windows_modify hchange table _).trans h.windows, ?_, fun window hfree => ?_,
    fun window queue hfound => ?_⟩
  · rw [openedIn_concat, hopened]
    exact (List.append_nil _).trans h.opened
  · rw [find?_modify hchange] at hfree
    by_cases hsame : window = deed.window
    · subst hsame
      rw [if_pos rfl, Option.map_eq_none_iff] at hfree
      have hdeed := hnone hfree
      have hbefore := h.unopened _ hfree
      rw [Inbox.of_concat_same rfl, takenFrom_concat_same rfl, hbefore.1, hbefore.2, hdeed.2]
      exact ⟨hdeed.1, rfl⟩
    · rw [if_neg hsame] at hfree
      rw [Inbox.of_concat_other (Ne.symm hsame), takenFrom_concat_other (Ne.symm hsame)]
      exact h.unopened window hfree
  · rw [find?_modify hchange] at hfound
    by_cases hsame : window = deed.window
    · subst hsame
      rw [if_pos rfl] at hfound
      rcases Option.map_eq_some_iff.mp hfound with ⟨before, hbefore, rfl⟩
      rcases h.queue _ before hbefore with ⟨box, hbox, hfits⟩
      rw [Inbox.of_concat_same rfl, takenFrom_concat_same rfl, hbox]
      exact hsome box before hbefore hfits
    · rw [if_neg hsame] at hfound
      rw [Inbox.of_concat_other (Ne.symm hsame), takenFrom_concat_other (Ne.symm hsame)]
      exact h.queue window queue hfound

/-- An attempt to read that has no message. -/
theorem Tells.unread (h : Tells past table) (window : Window) {answer : Received}
    (hnone : (WindowDeed.received window answer).taken? = Option.none) :
    Tells (past ++ [.received window answer]) table := by
  have hsame : ∀ other, Inbox.of other (past ++ [.received window answer]) = Inbox.of other past ∧
      takenFrom other (past ++ [.received window answer]) = takenFrom other past := by
    intro other
    by_cases hother : (WindowDeed.received window answer).window = other
    · rw [Inbox.of_concat_same hother, takenFrom_concat_same hother, hnone]
      exact ⟨rfl, List.append_nil _⟩
    · rw [Inbox.of_concat_other hother, takenFrom_concat_other hother]
      exact ⟨rfl, rfl⟩
  refine ⟨h.windows, ?_, fun other hfree => ?_, fun other queue hfound => ?_⟩
  · rw [openedIn_concat]
    exact (List.append_nil _).trans h.opened
  · rw [(hsame other).1, (hsame other).2]
    exact h.unopened other hfree
  · rw [(hsame other).1, (hsame other).2]
    exact h.queue other queue hfound

/-- A window is opened under a number that is new. -/
theorem Tells.open (h : Tells past table) (hroom : table.opened.toNat + 1 < 2 ^ 64) :
    Tells (past ++ [.opened (table.opened + 1)]) table.openWindow.2 ∧
      table.openWindow.2.opened.toNat = table.opened.toNat + 1 := by
  have hnext : (table.opened + 1).toNat = table.opened.toNat + 1 := by
    rw [UInt64.toNat_add, UInt64.toNat_one, Nat.mod_eq_of_lt hroom]
  have hnumber : table.opened + 1 = UInt64.ofNat (table.opened.toNat + 1) := by
    rw [← hnext, UInt64.ofNat_toNat]
  have hnumbers : numbers (table.opened + 1).toNat =
      numbers table.opened.toNat ++ [table.opened + 1] := by
    rw [hnext, numbers_succ, ← hnumber]
  -- All windows so far have lower numbers.
  have hnew : table.find? (table.opened + 1) = Option.none := by
    rw [find?, List.find?_eq_none]
    intro queue hqueue hfound
    have hmem : table.opened + 1 ∈ numbers table.opened.toNat := by
      rw [← h.windows, ← beq_iff_eq.mp hfound]
      exact List.mem_map_of_mem hqueue
    rcases List.mem_map.mp hmem with ⟨i, hi, hsame⟩
    rw [List.mem_range] at hi
    rw [hnumber] at hsame
    have := ofNat_inj (by omega) hroom hsame
    omega
  refine ⟨⟨?_, ?_, fun window hfree => ?_, fun window queue hfound => ?_⟩, hnext⟩
  · rw [openWindow, List.map_append, h.windows, hnumbers]
    rfl
  · rw [openedIn_concat, h.opened]
    exact hnumbers.symm
  · rw [find?_open hnew] at hfree
    by_cases hsame : window = table.opened + 1
    · rw [if_pos hsame] at hfree
      cases hfree
    · have hother : (WindowDeed.opened (table.opened + 1)).window ≠ window := Ne.symm hsame
      rw [if_neg hsame] at hfree
      rw [Inbox.of_concat_other hother, takenFrom_concat_other hother]
      exact h.unopened window hfree
  · rw [find?_open hnew] at hfound
    by_cases hsame : window = table.opened + 1
    · subst hsame
      rw [if_pos rfl] at hfound
      cases hfound
      have hown : (WindowDeed.opened (table.opened + 1)).window = table.opened + 1 := rfl
      rw [Inbox.of_concat_same hown, takenFrom_concat_same hown, (h.unopened _ hnew).2]
      exact ⟨_, rfl, rfl, rfl, fun _ => rfl, fun hdropped => nomatch hdropped⟩
    · have hother : (WindowDeed.opened (table.opened + 1)).window ≠ window := Ne.symm hsame
      rw [if_neg hsame] at hfound
      rw [Inbox.of_concat_other hother, takenFrom_concat_other hother]
      exact h.queue window queue hfound

/-- A window is closed. -/
theorem Tells.close (h : Tells past table) (window : Window) :
    Tells (past ++ [.closed window]) (table.closeWindow window).2 := by
  refine h.modify (.closed window) (fun queue => { queue with isOpen := false }) (fun _ => rfl) rfl
    (fun _ => ⟨rfl, rfl⟩) fun box queue _ hfits => ?_
  rw [WindowDeed.taken?, Option.toList_none, List.append_nil]
  exact ⟨_, rfl, rfl, hfits.hasReader, hfits.held, hfits.lost⟩

/-- The reading end of a window is given up, and with it what waits there. -/
theorem Tells.drop (h : Tells past table) (window : Window) :
    Tells (past ++ [.dropped window]) (table.dropReader window).2 := by
  refine h.modify (.dropped window)
    (fun queue => { queue with hasReader := false, messages := [] }) (fun _ => rfl) rfl
    (fun _ => ⟨rfl, rfl⟩) fun box queue _ hfits => ?_
  rw [WindowDeed.taken?, Option.toList_none, List.append_nil]
  refine ⟨_, rfl, hfits.isOpen, rfl, (fun hheld => nomatch hheld), fun _ => ?_⟩
  -- Nothing was lost so far, or it was lost before.
  cases hreader : box.hasReader with
  | true => exact ⟨queue.messages, (hfits.held hreader).symm⟩
  | false => exact hfits.lost hreader

/-- A message is posted. -/
theorem Tells.post (h : Tells past table) (post : Post) :
    Tells (past ++ [.posted post]) (table.post post) := by
  refine h.modify (.posted post)
    (fun queue => if queue.isOpen && queue.hasReader then
      { queue with messages := queue.messages ++ [post.message] } else queue)
    (fun queue => ?_) rfl (fun _ => ⟨rfl, rfl⟩) fun box queue _ hfits => ?_
  · split <;> rfl
  · rw [WindowDeed.taken?, Option.toList_none, List.append_nil, hfits.isOpen, hfits.hasReader]
    refine ⟨box.post post.message, rfl, ?_⟩
    rw [Inbox.post]
    by_cases hkept : (box.isOpen && box.hasReader) = true
    · rw [if_pos hkept, if_pos hkept]
      rw [Bool.and_eq_true] at hkept
      refine ⟨rfl, rfl, fun hheld => ?_, fun hlost => ?_⟩
      · rw [hfits.held hheld, List.append_assoc]
      · rw [hkept.2] at hlost
        cases hlost
    · rw [if_neg hkept, if_neg hkept]
      exact hfits

/-- A window is read from. -/
theorem Tells.receive (h : Tells past table) (window : Window) :
    Tells (past ++ [.received window (table.receive window).1]) (table.receive window).2 := by
  rw [WindowQueues.receive]
  rcases hfound : table.find? window with _ | queue
  · exact h.unread window rfl
  · by_cases hreader : queue.hasReader = true
    · rcases hmessages : queue.messages with _ | ⟨message, rest⟩
      · simp only [hreader, if_true, hmessages]
        cases queue.isOpen with
        | true => exact h.unread window rfl
        | false => exact h.unread window rfl
      · simp only [hreader, if_true, hmessages]
        refine h.modify (.received window (.message message))
          (fun queue => { queue with messages := rest }) (fun _ => rfl) rfl (fun hnone => ?_) ?_
        · cases hfound.symm.trans hnone
        · intro box queue' hfound' hfits
          cases hfound.symm.trans hfound'
          refine ⟨box, rfl, hfits.isOpen, hfits.hasReader, fun hheld => ?_, fun hlost => ?_⟩
          · -- The next message moves from what waits to what was read.
            rw [hfits.held hheld, hmessages]
            exact (List.append_assoc _ [message] rest).symm
          · rw [← hfits.hasReader, hreader] at hlost
            cases hlost
    · simp only [if_neg hreader]
      exact h.unread window rfl

/-- Any act. -/
theorem act_tells (h : Tells past table) (act : WindowAct)
    (hroom : act.opens = true → table.opened.toNat + 1 < 2 ^ 64) :
    Tells (past ++ [(table.act act).1]) (table.act act).2 ∧
      (table.act act).2.opened.toNat = table.opened.toNat + if act.opens then 1 else 0 := by
  cases act with
  | openWindow => exact h.open (hroom rfl)
  | closeWindow window => exact ⟨h.close window, rfl⟩
  | dropReader window => exact ⟨h.drop window, rfl⟩
  | post post => exact ⟨h.post post, rfl⟩
  | receive window =>
      refine ⟨h.receive window, ?_⟩
      rw [act, receive]
      rcases table.find? window with _ | queue
      · rfl
      · by_cases hreader : queue.hasReader = true
        · simp only [hreader, if_true]
          split <;> rfl
        · simp only [if_neg hreader]
          rfl

/-- A run that opens no more windows than there are numbers. -/
theorem run_tells (h : Tells past table) {acts : List WindowAct}
    (hroom : table.opened.toNat + acts.countP WindowAct.opens < 2 ^ 64) :
    Tells (past ++ (table.run acts).1) (table.run acts).2 ∧
      (table.run acts).2.opened.toNat = table.opened.toNat + acts.countP WindowAct.opens := by
  induction acts generalizing past table with
  | nil => exact ⟨(List.append_nil past).symm ▸ h, rfl⟩
  | cons act acts ih =>
      rw [List.countP_cons] at hroom ⊢
      have hfirst := act_tells h act fun hopens => by rw [if_pos hopens] at hroom; omega
      have hrest := ih hfirst.1 (by rw [hfirst.2]; omega)
      rw [List.append_assoc] at hrest
      refine ⟨hrest.1, ?_⟩
      have hcount := hrest.2
      rw [hfirst.2] at hcount
      rw [run, hcount]
      omega

/-- What is known of the windows and was read from them says what an attempt to
    read will have. -/
theorem Tells.answer (h : Tells past table) (window : Window) :
    (table.receive window).1 =
      Inbox.answer (takenFrom window past) (Inbox.of window past) := by
  rw [WindowQueues.receive]
  rcases hfound : table.find? window with _ | queue
  · rw [(h.unopened window hfound).1]
    rfl
  · rcases h.queue window queue hfound with ⟨box, hbox, hfits⟩
    simp only [hbox, Inbox.answer, hfits.hasReader]
    by_cases hreader : box.hasReader = true
    · rw [if_pos hreader, if_pos hreader, hfits.held hreader, List.drop_left]
      rcases queue.messages with _ | ⟨message, rest⟩
      · simp only [hfits.isOpen]
      · rfl
    · rw [if_neg hreader, if_neg hreader]

/-- What was read from a window is the beginning of what was kept for it. -/
theorem Tells.taken (h : Tells past table) (window : Window) :
    takenFrom window past <+: Inbox.keptFor window past := by
  rw [Inbox.keptFor]
  rcases hfound : table.find? window with _ | queue
  · rw [(h.unopened window hfound).2]
    exact List.nil_prefix
  · rcases h.queue window queue hfound with ⟨box, hbox, hfits⟩
    rw [hbox]
    cases hreader : box.hasReader with
    | true => exact ⟨queue.messages, (hfits.held hreader).symm⟩
    | false => exact hfits.lost hreader

/-- No two queues are of one window. -/
theorem Tells.find?_of_mem (h : Tells past table) {queue : WindowQueue}
    (hmem : queue ∈ table.queues) : table.find? queue.window = some queue := by
  have hnodup : (table.queues.map WindowQueue.window).Nodup := by
    rw [h.windows]
    exact numbers_nodup table.opened.toNat_lt
  rcases hfound : table.find? queue.window with _ | found
  · exact absurd (beq_self_eq_true _) (List.find?_eq_none.mp hfound queue hmem)
  · have hmatch := List.find?_some hfound
    rw [List.inj_on_of_nodup_map hnodup (List.mem_of_find?_eq_some hfound) hmem
      (beq_iff_eq.mp hmatch)]

/-- A message that nobody can read changes no queue. -/
theorem Tells.post_unread (h : Tells past table) (post : Post)
    (hnobody : ∀ box, Inbox.of post.window past = some box →
      (box.isOpen && box.hasReader) = false) : table.post post = table := by
  have hsame : ∀ queue ∈ table.queues, (if queue.window = post.window then
      if queue.isOpen && queue.hasReader then
        { queue with messages := queue.messages ++ [post.message] } else queue
      else queue) = queue := by
    intro queue hmem
    by_cases hwindow : queue.window = post.window
    · rcases h.queue _ queue (hwindow ▸ h.find?_of_mem hmem) with ⟨box, hbox, hfits⟩
      have hnone := hnobody box hbox
      rw [← hfits.isOpen, ← hfits.hasReader] at hnone
      rw [if_pos hwindow, hnone, if_neg Bool.false_ne_true]
    · rw [if_neg hwindow]
  rw [WindowQueues.post, WindowQueues.modify, List.map_congr_left hsame, List.map_id']

/-- What waits in the queue of a closed window is read to the end, and then there
    is nothing more to come. -/
theorem drain {queue : WindowQueue} (hfound : table.find? window = some queue)
    (hclosed : queue.isOpen = false) (hreader : queue.hasReader = true) :
    (table.run (List.replicate (queue.messages.length + 1) (.receive window))).1 =
      queue.messages.map (fun message => .received window (.message message)) ++
        [.received window .disconnected] := by
  induction hmessages : queue.messages generalizing table queue with
  | nil =>
      simp only [List.length_nil, List.replicate, run, act, receive, hfound, hreader, if_true,
        hmessages, hclosed, Bool.false_eq_true, if_false, List.map_nil, List.nil_append]
  | cons message rest ih =>
      -- The first attempt has the first message, and leaves the others.
      have hfirst : table.receive window =
          (.message message, table.modify window fun queue => { queue with messages := rest }) := by
        simp only [receive, hfound, hreader, if_true, hmessages]
      have hleft := find?_modify_self hfound (fun queue => { queue with messages := rest })
        fun _ => rfl
      have hrest := ih hleft hclosed hreader rfl
      rw [List.length_cons, List.replicate_succ, run, act, hfirst]
      exact congrArg (WindowDeed.received window (.message message) :: ·) hrest

/-- The queues of windows neither lose, nor repeat, nor misroute a message. Whatever
    is done with any windows, in any order, as long as their numbers do not run out:
    windows are opened under numbers that are all different. What was read from a
    window is the beginning of what was posted to it while it was open and its
    reading end was held, in this order, each message once; and the next attempt to
    read has the next of these, or finds the queue empty if the window is open, or
    at an end if it was closed, or there is no reading end. A window that is closed
    is read to the end first. And a message to a window that was never opened, was
    closed, or can not be read leaves all queues as they are. -/
theorem queues_deliver (acts : List WindowAct)
    (hfew : acts.countP WindowAct.opens < 2 ^ 64) :
    let past := (none.run acts).1
    let table := (none.run acts).2
    ((openedIn past).Nodup ∧ (openedIn past).length = acts.countP WindowAct.opens) ∧
      (∀ window, takenFrom window past <+: Inbox.keptFor window past ∧
        (table.receive window).1 =
          Inbox.answer (takenFrom window past) (Inbox.of window past)) ∧
      (∀ window box, Inbox.of window past = some box → box.hasReader = true →
        let rest := box.kept.drop (takenFrom window past).length
        ((table.closeWindow window).2.run
            (List.replicate (rest.length + 1) (.receive window))).1 =
          rest.map (fun message => .received window (.message message)) ++
            [.received window .disconnected]) ∧
      ∀ post : Post, (∀ box, Inbox.of post.window past = some box →
        (box.isOpen && box.hasReader) = false) → table.post post = table := by
  intro past table
  have hroom : none.opened.toNat + acts.countP WindowAct.opens < 2 ^ 64 := by
    rw [show none.opened.toNat = 0 from rfl]
    omega
  have hrun := run_tells none_tells hroom
  have htells : Tells past table := hrun.1
  refine ⟨⟨?_, ?_⟩, fun window => ⟨htells.taken window, htells.answer window⟩,
    fun window box hbox hreader => ?_, fun post hnobody => htells.post_unread post hnobody⟩
  · rw [htells.opened]
    exact numbers_nodup table.opened.toNat_lt
  · rw [htells.opened, numbers, List.length_map, List.length_range, hrun.2]
    exact Nat.zero_add _
  · rcases hfound : table.find? window with _ | queue
    · rw [(htells.unopened window hfound).1] at hbox
      cases hbox
    · rcases htells.queue window queue hfound with ⟨box', hbox', hfits⟩
      cases hbox.symm.trans hbox'
      have hclosed := find?_modify_self hfound (fun queue => { queue with isOpen := false })
        fun _ => rfl
      have hdrained := drain hclosed rfl (hfits.hasReader.trans hreader)
      rw [hfits.held hreader, List.drop_left]
      exact hdrained

/-- Any message. -/
def greeting : Message := Message.completion .openComplete ⟨1, 1⟩ 0 .success .none

/-- One window is closed with a message in it, and the reading end of another is
    given up. -/
def twoWindows : List WindowAct :=
  [.openWindow, .openWindow, .post ⟨1, greeting⟩, .post ⟨2, greeting⟩, .closeWindow 1,
    .dropReader 2, .post ⟨1, greeting⟩]

/-- The closed window has one message left, and nothing comes to either any more. -/
theorem queues_deliver_twoWindows :
    let past := (none.run twoWindows).1
    let table := (none.run twoWindows).2
    twoWindows.countP WindowAct.opens < 2 ^ 64 ∧ openedIn past = [1, 2] ∧
      takenFrom 1 past <+: [greeting] ∧
      ((table.closeWindow 1).2.run [.receive 1, .receive 1]).1 =
        [.received 1 (.message greeting), .received 1 .disconnected] ∧
      table.post ⟨2, greeting⟩ = table := by
  intro past table
  have hdeliver := queues_deliver twoWindows (by decide)
  have hnobody : ∀ box, Inbox.of 2 past = some box → (box.isOpen && box.hasReader) = false := by
    intro box hbox
    cases hbox
    rfl
  exact ⟨by decide, by decide, (hdeliver.2.1 1).1, hdeliver.2.2.1 1 _ rfl rfl,
    hdeliver.2.2.2 ⟨2, greeting⟩ hnobody⟩

end WindowQueues

end CardHost
