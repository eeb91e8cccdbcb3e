import CardHost.Message

/-!
# Event Subscriptions

Which windows are told about which classes of events. The table is a list in
ascending order of windows, one entry per window, so that messages go out in a
fixed order and a look-up has one answer.

No class at all always stands for every class, in a subscription as well as in
its cancellation, and no window stands for every window. An entry that runs
out of classes goes away.

## Main definitions

* `Subscriptions`: The table.
* `Subscriptions.add`, `Subscriptions.remove`: Widen and narrow it.
* `Subscriptions.recipients`: The windows an event goes to.
* `Subscriptions.posts`: The messages an event causes.
* `Subscriptions.notify`: Post an event to all who are told, and count them.

## Theorems

* `notify_eq`: What is counted are the messages.
-/

namespace CardHost

/-- Windows with the event classes they subscribed to, in window order. -/
abbrev Subscriptions := List (Window × EventClass)

namespace Subscriptions

/-- The classes a window subscribed to. -/
def classes (table : Subscriptions) (window : Window) : EventClass :=
  ((table.find? (·.1 == window)).map Prod.snd).getD 0#32

/-- Merge classes into the entry of a window, at its place in the order. -/
def widen (window : Window) (classes : EventClass) : Subscriptions → Subscriptions
  | [] => [(window, classes)]
  | (other, mask) :: rest =>
    if window < other then (window, classes) :: (other, mask) :: rest
    else if window = other then (other, mask ||| classes) :: rest
    else (other, mask) :: widen window classes rest

/-- Subscribe a window to further classes. -/
def add (table : Subscriptions) (window : Window) (classes : EventClass) : Subscriptions :=
  widen window (EventClass.orAll classes) table

/-- Whether a cancellation is about the entry of `window`. -/
def concerns (target : Option Window) (window : Window) : Bool :=
  match target with
  | none => true
  | some target => target == window

/-- Cancel classes of one window, or of all of them. The flag tells whether
    any entry had one of the classes. -/
def remove (table : Subscriptions) (target : Option Window) (classes : EventClass) :
    Bool × Subscriptions :=
  let classes := EventClass.orAll classes
  (table.any fun entry => concerns target entry.1 && Bits.intersects entry.2 classes,
   table.filterMap fun entry =>
     if concerns target entry.1 then
       let mask := Bits.without entry.2 classes
       if mask = 0#32 then none else some (entry.1, mask)
     else some entry)

/-- The windows that are told about a class of events. -/
def recipients (table : Subscriptions) (eventClass : EventClass) : List Window :=
  (table.filter fun entry => Bits.contains entry.2 eventClass).map Prod.fst

/-- The messages that reporting an event causes; a completion causes none. -/
def posts (table : Subscriptions) (message : Message) : List Post :=
  match message.kind.eventClass with
  | none => []
  | some eventClass => (recipients table eventClass).map fun window => ⟨window, message⟩

/-- Post a message of a class to the window of an entry if it is subscribed,
    counting it to those that were told before. -/
def notifyEntry (message : Message) (eventClass : EventClass) (told : Nat × List Post)
    (entry : Window × EventClass) : Nat × List Post :=
  if Bits.contains entry.2 eventClass then (told.1 + 1, told.2 ++ [⟨entry.1, message⟩]) else told

/-- Post an event to every window that is told about its class, entry by entry,
    and count these windows. -/
def notify (table : Subscriptions) (message : Message) : Nat × List Post :=
  match message.kind.eventClass with
  | none => (0, [])
  | some eventClass => table.foldl (notifyEntry message eventClass) (0, [])

/-- What the entries that are left add to whatever was posted before them. -/
theorem foldl_notifyEntry (message : Message) (eventClass : EventClass) (table : Subscriptions)
    (told : Nat × List Post) :
    table.foldl (notifyEntry message eventClass) told =
      (told.1 + (recipients table eventClass).length,
        told.2 ++ (recipients table eventClass).map fun window => ⟨window, message⟩) := by
  induction table generalizing told with
  | nil => simp [recipients]
  | cons entry rest ih =>
      rw [List.foldl_cons, ih]
      by_cases hclass : Bits.contains entry.2 eventClass = true
      · simp only [notifyEntry, recipients, List.filter_cons, hclass, if_true, List.map_cons,
          List.length_cons, List.append_assoc, List.singleton_append, Nat.add_assoc, Nat.add_comm 1]
      · simp only [notifyEntry, recipients, List.filter_cons, hclass, if_false, Bool.false_eq_true]

/-- What is counted are the messages that an event causes. -/
theorem notify_eq (table : Subscriptions) (message : Message) :
    table.notify message = ((table.posts message).length, table.posts message) := by
  rw [notify, posts]
  split
  · rfl
  · rw [foldl_notifyEntry, Nat.zero_add, List.nil_append, List.length_map]

end Subscriptions

end CardHost
