/-!
# Reader Bindings

The physical reader a session works with. A session that was configured
without a reader starts unbound and takes the first reader a card shows up in.
From then on only a configured name can move it.

Every change to a binding is one of the two below, and neither ever unbinds.

## Main definitions

* `Binding`: The reader bound to, if any.
* `Binding.bind`: Take a reader unless one was taken before.
* `Binding.rebind`: Move to a configured reader.
-/

namespace CardHost

/-- A configured reader name; the empty name counts as none. -/
def configuredName (name : Option String) : Option String := name.filter (!·.isEmpty)

/-- The reader a session works with. -/
structure Binding where
  reader : Option String
  deriving DecidableEq, Repr

namespace Binding

/-- The binding a session starts with. -/
def ofConfigured (name : Option String) : Binding := ⟨configuredName name⟩

/-- Whether a reader was chosen. -/
def isBound (b : Binding) : Bool := b.reader.isSome

/-- Whether the binding is to this very reader. -/
def isBoundTo (b : Binding) (name : String) : Bool := b.reader == some name

/-- Whether a report about the reader concerns the binding: an unbound one
    takes any reader. -/
def accepts (b : Binding) (name : String) : Bool :=
  match b.reader with
  | none => true
  | some bound => bound == name

/-- Bind to a reader unless bound already. The flag tells whether the binding
    changed. -/
def bind (b : Binding) (name : String) : Bool × Binding :=
  match b.reader with
  | some _ => (false, b)
  | none => (true, ⟨some name⟩)

/-- Move to a configured reader. Without a name the binding stays. -/
def rebind (b : Binding) (name : Option String) : Binding :=
  match configuredName name with
  | some name => ⟨some name⟩
  | none => b

theorem isBound_rebind (b : Binding) (name : Option String) (h : b.isBound = true) :
    (b.rebind name).isBound = true := by
  unfold rebind
  split
  · rfl
  · exact h

theorem isBound_bind (b : Binding) (name : String) : (b.bind name).2.isBound = true := by
  unfold bind
  split
  · next h => rw [isBound, h]; rfl
  · rfl

end Binding

end CardHost
