import CardHost.Message

/-!
# Window Queues

Windows backed by message queues. A window lives from its opening to its
closing, and its queue has a reading end that can be given up independently.
A message is kept only if at the time of posting the window is open and the
reading end is held; what was kept can be read after the window is closed.

Window numbers count up from one and are never used again.

## Main definitions

* `WindowQueues`: The windows ever opened.
* `WindowQueues.openWindow`, `closeWindow`, `dropReader`: Their life cycle.
* `WindowQueues.post`, `WindowQueues.receive`: Writing and reading.
-/

namespace CardHost

/-- The queue of one window. -/
structure WindowQueue where
  window : Window
  /-- The window has not been closed. -/
  isOpen : Bool
  /-- The reading end is held. -/
  hasReader : Bool
  /-- Messages not read yet, oldest first. -/
  messages : List Message
  deriving DecidableEq, Repr

/-- Every window ever opened, in order of opening. -/
structure WindowQueues where
  /-- How many windows were opened. -/
  opened : UInt64
  queues : List WindowQueue
  deriving DecidableEq, Repr

/-- The answer to an attempt to read. -/
inductive Received where
  | message (message : Message)
  /-- Nothing to read for now. -/
  | empty
  /-- Nothing to read, and nothing will ever come. -/
  | disconnected
  /-- There is no reading end. -/
  | noQueue
  deriving DecidableEq, Repr

namespace WindowQueues

/-- No window was opened yet. -/
def none : WindowQueues := ⟨0, []⟩

/-- Open a window under the next number. -/
def openWindow (table : WindowQueues) : Window × WindowQueues :=
  let window := table.opened + 1
  (window,
   { opened := window
     queues := table.queues ++ [{ window, isOpen := true, hasReader := true, messages := [] }] })

/-- The queue of a window. -/
def find? (table : WindowQueues) (window : Window) : Option WindowQueue :=
  table.queues.find? (·.window == window)

/-- Whether the window is open. -/
def isWindow (table : WindowQueues) (window : Window) : Bool :=
  (table.find? window).any (·.isOpen)

/-- Change the queue of one window. -/
def modify (table : WindowQueues) (window : Window) (change : WindowQueue → WindowQueue) :
    WindowQueues :=
  { table with
    queues := table.queues.map fun queue => if queue.window = window then change queue else queue }

/-- Close a window. The flag tells whether it was open. -/
def closeWindow (table : WindowQueues) (window : Window) : Bool × WindowQueues :=
  (table.isWindow window, table.modify window fun queue => { queue with isOpen := false })

/-- Give up the reading end of a window together with what was not read. The
    flag tells whether it was held. -/
def dropReader (table : WindowQueues) (window : Window) : Bool × WindowQueues :=
  ((table.find? window).any (·.hasReader),
   table.modify window fun queue => { queue with hasReader := false, messages := [] })

/-- Post a message. It is dropped unless someone can ever read it. -/
def post (table : WindowQueues) (post : Post) : WindowQueues :=
  table.modify post.window fun queue =>
    if queue.isOpen && queue.hasReader then
      { queue with messages := queue.messages ++ [post.message] }
    else queue

/-- Read the oldest message of a window without waiting. -/
def receive (table : WindowQueues) (window : Window) : Received × WindowQueues :=
  match table.find? window with
  | .none => (.noQueue, table)
  | some queue =>
    if queue.hasReader then
      match queue.messages with
      | message :: rest =>
        (.message message, table.modify window fun queue => { queue with messages := rest })
      | [] => (if queue.isOpen then .empty else .disconnected, table)
    else (.noQueue, table)

end WindowQueues

end CardHost
