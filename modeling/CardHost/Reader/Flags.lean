import CardHost.Bits

/-!
# Reader Flags

The word in which a resource manager reports a reader. The low half holds
named state bits; the high half counts the cards that came and went. The
counter is what tells a card apart from the one that took its place between
two looks, since the state bits of both are the same.

## Main definitions

* `ReaderFlags`: The word.
* `ReaderFlags.state`, `ReaderFlags.count`: Its two halves.
* `ReaderFlags.names`: The names of the state bits that are set.
-/

namespace CardHost

/-- State word of a reader. -/
abbrev ReaderFlags := BitVec 32

namespace ReaderFlags

/-- Nothing is known about the reader yet. -/
def unaware : ReaderFlags := 0x0#32

/-- The reader is not to be watched. -/
def ignore : ReaderFlags := 0x1#32

/-- The state differs from the one the wait was given. -/
def changed : ReaderFlags := 0x2#32

/-- No reader has this name. -/
def unknown : ReaderFlags := 0x4#32

/-- The state of the reader cannot be had. -/
def unavailable : ReaderFlags := 0x8#32

/-- The reader holds no card. -/
def empty : ReaderFlags := 0x10#32

/-- The reader holds a card. -/
def present : ReaderFlags := 0x20#32

/-- The card answers to reset like a card looked for. -/
def atrMatch : ReaderFlags := 0x40#32

/-- Someone uses the card exclusively. -/
def exclusive : ReaderFlags := 0x80#32

/-- Someone uses the card. -/
def inUse : ReaderFlags := 0x100#32

/-- The card does not respond. -/
def mute : ReaderFlags := 0x200#32

/-- The card is not powered. -/
def unpowered : ReaderFlags := 0x400#32

/-- The named state bits, in their fixed order. -/
def named : List (ReaderFlags × String) :=
  [(ignore, "IGNORE"), (changed, "CHANGED"), (unknown, "UNKNOWN"), (unavailable, "UNAVAILABLE"),
   (empty, "EMPTY"), (present, "PRESENT"), (atrMatch, "ATRMATCH"), (exclusive, "EXCLUSIVE"),
   (inUse, "INUSE"), (mute, "MUTE"), (unpowered, "UNPOWERED")]

/-- The state bits, without the counter. -/
def state (flags : ReaderFlags) : ReaderFlags := flags &&& 0xFFFF#32

/-- The counter of cards that came and went. -/
def count (flags : ReaderFlags) : BitVec 16 := flags.extractLsb' 16 16

/-- A word with nothing but a counter. -/
def ofCount (count : BitVec 16) : ReaderFlags := count ++ 0#16

/-- The names of the state bits that are set. -/
def names (flags : ReaderFlags) : List String :=
  (named.filter fun bit => Bits.contains flags bit.1).map Prod.snd

end ReaderFlags

end CardHost
