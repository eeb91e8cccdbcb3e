import CardHost.Pcsc.Manager
import CardHost.Proofs.Operations
import CardHost.Proofs.Scenes
import Mathlib.Data.List.Induction

/-!
# The Lock Flag and the Share Mode

A session keeps a flag that says that it holds its card exclusively, and a
connection over the resource manager keeps no mode but the one it was opened
with. Whether the card is held exclusively is known to the resource manager
alone: it is so if the last call that connected or renewed the connection, and
succeeded, asked for it.

Taking the card and giving it up ask for the right mode. Renewing the connection
for another reason, to change the power of the chip or to reset it, goes back to
the mode it was opened with, and nobody tells the flag. Giving the card up clears
the flag even if the call fails, in which case nothing has changed.
`Session.slips` says when this happens, and `run_truthful` that the flag tells
the truth until then, whatever fails along the way.

## Main definitions

* `Pcsc.latest`: What the last call of a kind said.
* `Pcsc.NativeNote.connects`, `Pcsc.NativeNote.shares`: The calls that set the
  mode of a connection.
* `Session.Truthful`: The flag tells the truth.
* `Session.slips`: An operation puts the flag at odds with the mode.
* `Pcsc.Native.Honest`: A renewal that fails is not noted as one that succeeds.

## Theorems

* `use_held`: What an operation leaves of the mode.
* `ask_truthful`: An operation keeps the flag truthful unless it slips.
* `run_truthful`: So does a run.
* `Simulation.run_truthful_failedReset`, `Simulation.locked_but_shared`: Runs.
-/

namespace CardHost

namespace Pcsc

variable {ν : Type}

/-- What the last call that says anything says. -/
def latest {α : Type} (f : NativeNote → Option α) (notes : List NativeNote) : Option α :=
  notes.reverse.findSome? f

theorem latest_append {α : Type} (f : NativeNote → Option α) (notes later : List NativeNote) :
    latest f (notes ++ later) = (latest f later).or (latest f notes) := by
  rw [latest, List.reverse_append, List.findSome?_append]
  rfl

/-- The mode that a connection was opened in. -/
def NativeNote.connects : NativeNote → Option ShareMode
  | .connect _ _ mode code => if code = Code.success then some mode else none
  | _ => none

/-- The mode that a connection is in after a call, if the call has set it. -/
def NativeNote.shares (handle : Handle) : NativeNote → Option ShareMode
  | .connect _ _ mode code => if code = Code.success then some mode else none
  | .reconnect card mode _ code =>
    if card = handle ∧ code = Code.success then some mode else none
  | _ => none

/-- A renewal that fails has a code that says so. -/
def Native.Honest (native : Native ν) : Prop :=
  ∀ handle mode disposition state,
    (native.reconnect handle mode disposition state).1 ≠ .error Code.success

/-- A connection is open, was opened in its mode, and is in some mode now. -/
structure Card.Held (card : Card) (mode : ShareMode) (w : World ν NativeNote) : Prop where
  opened : latest NativeNote.connects w.calls = some card.mode
  shared : ∃ handle, card.handle = some handle ∧
    latest (NativeNote.shares handle) w.calls = some mode

variable {native : Native ν} {m : Manager} {card card' : Card} {mode : ShareMode}
  {w w' : World ν NativeNote}

theorem Card.held_congr (hcalls : w'.calls = w.calls) : card.Held mode w' ↔ card.Held mode w := by
  constructor <;> rintro ⟨hopened, hshared⟩
  · exact ⟨hcalls ▸ hopened, hcalls ▸ hshared⟩
  · exact ⟨hcalls ▸ hopened, hcalls ▸ hshared⟩

/-- Calls that set no mode. -/
theorem Card.Held.of_silent (h : card.Held mode w) {notes : List NativeNote}
    (hcalls : w'.calls = w.calls ++ notes)
    (hsilent : ∀ note ∈ notes, note.connects = none ∧ ∀ handle, note.shares handle = none) :
    card.Held mode w' := by
  have hnone : ∀ {f : NativeNote → Option ShareMode}, (∀ note ∈ notes, f note = none) →
      latest f notes = none := fun hf =>
    List.findSome?_eq_none_iff.mpr fun note hnote => hf note (List.mem_reverse.mp hnote)
  rcases h.shared with ⟨handle, hhandle, hshared⟩
  constructor
  · rw [hcalls, latest_append, hnone fun note hnote => (hsilent note hnote).1]
    exact h.opened
  · refine ⟨handle, hhandle, ?_⟩
    rw [hcalls, latest_append, hnone fun note hnote => (hsilent note hnote).2 handle]
    exact hshared

theorem Card.Held.of_eq (h : card' = card ∧ card.Held mode w) :
    card'.mode = card.mode ∧ card'.Held mode w := by
  rcases h with ⟨rfl, hheld⟩
  exact ⟨rfl, hheld⟩

theorem Card.Held.status (h : card.Held mode w) (native : Native ν) :
    (w.call (card.status native)).1.2 = card ∧ card.Held mode (w.call (card.status native)).2 := by
  have hcalls := World.calls_call (card.status native) w
  rcases h.shared with ⟨handle, hhandle, -⟩
  have hvalue : (w.call (card.status native)).1.2 = card := by
    simp only [World.call, Card.status, hhandle]
  refine ⟨hvalue, h.of_silent hcalls fun note hnote => ?_⟩
  simp only [Card.status, hhandle, noted, List.mem_singleton] at hnote
  exact hnote ▸ ⟨rfl, fun _ => rfl⟩

/-- Renewing a connection sets its mode if it succeeds. -/
theorem Card.Held.renew (honest : native.Honest) (h : card.Held mode w) (target : ShareMode)
    (disposition : Disposition) :
    let r := w.call (card.renew native target disposition)
    r.1.2.mode = card.mode ∧ r.1.2.Held (if r.1.1.isOk then target else mode) r.2 := by
  intro r
  have hvalue : r.1 = (card.renew native target disposition w.hardware).value := rfl
  have hcalls : r.2.calls = _ := World.calls_call (card.renew native target disposition) w
  have hrenewed := card.renew_renewed native target disposition w.hardware
  rcases h.shared with ⟨handle, hhandle, -⟩
  rw [hvalue]
  generalize card.renew native target disposition w.hardware = reply at hrenewed hcalls
  cases hrenewed with
  | unconnected hnone => cases hnone.symm.trans hhandle
  | @failed other code _ _ hmade =>
      -- The call left a code that says that it failed, so the mode before it stands.
      have hcode : code ≠ Code.success := fun hsuccess =>
        honest other target disposition w.hardware (hsuccess ▸ congrArg Prod.fst hmade)
      refine ⟨rfl, h.of_silent hcalls fun note hnote => ?_⟩
      rw [List.mem_singleton.mp hnote]
      exact ⟨rfl, fun _ => if_neg fun hboth => hcode hboth.2⟩
  | @done other _ _ hother =>
      refine ⟨rfl, ⟨?_, other, hother, ?_⟩⟩
      · rw [hcalls, latest_append]
        exact h.opened
      · rw [hcalls, latest_append]
        simp only [latest, List.reverse_singleton, List.findSome?_cons, NativeNote.shares, and_self,
          if_true, Option.some_or]
        rfl

/-- An answer after which a connection is kept. -/
def Kept {α : Type} (answer : Except CardError α) : Prop :=
  ∀ e, answer = .error e → e.dropsConnection = false

theorem dropsConnection_of_isLost {e : CardError} (h : Card.isLost e = true) :
    e.dropsConnection = true := by
  rcases Bool.or_eq_true _ _ ▸ h with h | h <;> rw [beq_iff_eq.mp h] <;> rfl

theorem Card.Held.transmit (h : card.Held mode w) (native : Native ν) (command : Bytes) :
    let r := w.call (card.transmit native command)
    Kept r.1.1 → r.1.2 = card ∧ card.Held mode r.2 := by
  intro r hkept
  have hvalue : r.1 = (card.transmit native command w.hardware).value := rfl
  have hcalls : r.2.calls = _ := World.calls_call (card.transmit native command) w
  have hexchanged := card.transmit_exchanged native command w.hardware
  rw [hvalue] at hkept ⊢
  generalize card.transmit native command w.hardware = reply at hexchanged hcalls hkept
  cases hexchanged with
  | unconnected | mismatched =>
      exact ⟨rfl, h.of_silent hcalls fun _ hnote => absurd hnote List.not_mem_nil⟩
  | answered | failed =>
      refine ⟨rfl, h.of_silent hcalls fun _ hnote => ?_⟩
      rw [List.mem_singleton.mp hnote]
      exact ⟨rfl, fun _ => rfl⟩
  | lost _ _ _ hlost =>
      -- An error by which the card is lost is one that drops the connection.
      cases (hkept _ rfl).symm.trans (dropsConnection_of_isLost hlost)

/-- A connection that was just opened. -/
theorem Manager.connect_held {reader : String}
    (hconnect : w.call (m.connect native reader mode) = (.ok card, w')) :
    card.mode = mode ∧ card.Held mode w' := by
  have hcalls := World.calls_call (m.connect native reader mode) w
  have hvalue : (m.connect native reader mode w.hardware).value = .ok card :=
    congrArg Prod.fst hconnect
  have hconnected := connect_connected native m reader mode w.hardware
  rw [hconnect] at hcalls
  generalize m.connect native reader mode w.hardware = reply at hconnected hcalls hvalue
  cases hconnected with
  | unpassable | refused => cases hvalue
  | @granted handle _ _ _ _ =>
      cases hvalue
      refine ⟨rfl, ⟨?_, handle, rfl, ?_⟩⟩
      · rw [hcalls, latest_append]
        rfl
      · rw [hcalls, latest_append]
        rfl

end Pcsc

open Pcsc

namespace CardUse

variable {ν : Type} {native : Native ν} {m : Manager} {card : Pcsc.Card} {mode : ShareMode}
  {w : World ν NativeNote}

theorem exchange_held (native : Native ν) (m : Manager) (h : card.Held mode w)
    (workarounds : Workarounds) (command : Bytes) :
    let r := exchange (m.backend native) workarounds command card w
    Kept r.1.1 → r.1.2 = card ∧ card.Held mode r.2 := by
  have hstatus := h.status native
  rw [exchange]
  rcases hcall : w.call ((m.backend native).status card) with ⟨⟨e | status, card'⟩, w'⟩
  · have hsame : w.call (card.status native) = ((.error e, card'), w') := hcall
    rw [hsame] at hstatus
    exact fun _ => hstatus
  · have hsame : w.call (card.status native) = ((.ok status, card'), w') := hcall
    rw [hsame] at hstatus
    rcases hstatus with ⟨rfl, hheld⟩
    intro r hkept
    refine hheld.transmit native _ fun e hfailed => hkept e ?_
    exact congrArg (Except.map _) hfailed

/-- A change of power renews the connection first. -/
theorem power_held (honest : native.Honest) (h : card.Held mode w) (action : PowerAction) :
    let r := power (m.backend native) action card w
    r.1.2.mode = card.mode ∧ r.1.2.Held
      (if (card.reconnect native action.disposition w.hardware).value.1.isOk then card.mode
        else mode) r.2 := by
  have hrenewed := h.renew honest card.mode action.disposition
  rw [power]
  rcases hcall : w.call ((m.backend native).reconnect action.disposition card) with
    ⟨⟨e | _, card'⟩, w'⟩
  · have hsame : w.call (card.renew native card.mode action.disposition) =
      ((.error e, card'), w') := hcall
    have hvalue : (card.reconnect native action.disposition w.hardware).value.1 = .error e :=
      congrArg (·.1.1) hcall
    rw [hsame] at hrenewed
    rw [hvalue]
    exact hrenewed
  · have hsame : w.call (card.renew native card.mode action.disposition) =
      ((.ok (), card'), w') := hcall
    have hvalue : (card.reconnect native action.disposition w.hardware).value.1 = .ok () :=
      congrArg (·.1.1) hcall
    rw [hsame] at hrenewed
    rw [hvalue]
    have hstatus := hrenewed.2.status native
    have hasked := Pcsc.Card.Held.of_eq hstatus
    cases action
    · exact ⟨hasked.1.trans hrenewed.1, hasked.2⟩
    · exact ⟨hasked.1.trans hrenewed.1, hasked.2⟩
    · exact hrenewed

end CardUse

namespace Session

variable {ν : Type} (native : Native ν)

/-- Whether an operation goes back to the mode that the connection was opened
    in, and says nothing of it: a change of power and a reset do so if they
    succeed, and giving the card up is not done with if it fails. -/
def Access.diverges (access : Access) (card : Pcsc.Card) (state : ν) : Bool :=
  match access with
  | .chipPower action => (card.reconnect native action.disposition state).value.1.isOk
  | .reset => (card.reconnect native .reset state).value.1.isOk
  | .unlock => !(card.unlock native state).value.1.isOk
  | _ => false

/-- The mode of a connection after it was used. -/
def Access.modeAfter (access : Access) (card : Pcsc.Card) (mode : ShareMode) (state : ν) :
    ShareMode :=
  match access with
  | .lock => if (card.lock native state).value.1.isOk then .exclusive else mode
  | .unlock => if (card.unlock native state).value.1.isOk then card.mode else mode
  | .chipPower action =>
    if (card.reconnect native action.disposition state).value.1.isOk then card.mode else mode
  | .reset => if (card.reconnect native .reset state).value.1.isOk then card.mode else mode
  | _ => mode

variable {native : Native ν} {m : Manager} {s : Session Pcsc.Card} {card : Pcsc.Card}
  {mode : ShareMode} {w : World ν NativeNote}

/-- What an operation leaves of the mode of a connection that it keeps. -/
theorem use_held (honest : native.Honest) {access : Access}
    {use : CardUse ν Pcsc.Card NativeNote Unit} (huse : access.use (m.backend native) s = some use)
    (h : card.Held mode w) (hkept : Kept (use card w).1.1) :
    (use card w).1.2.mode = card.mode ∧
      (use card w).1.2.Held (access.modeAfter native card mode w.hardware) (use card w).2 := by
  cases Access.uses_of_use huse with
  | lock => exact h.renew honest .exclusive .leave
  | unlock => exact h.renew honest card.mode .leave
  | status | read => exact Pcsc.Card.Held.of_eq (h.status native)
  | chipIo command =>
      exact Pcsc.Card.Held.of_eq (CardUse.exchange_held native m h s.settings.workarounds
        command fun e hfailed => hkept e (congrArg (Except.map _) hfailed))
  | chipPower action => exact CardUse.power_held honest h action
  | reset => exact h.renew honest card.mode .reset

/-- A connection is in one mode. -/
theorem held_unique {mode' : ShareMode} (h : card.Held mode w) (h' : card.Held mode' w) :
    mode = mode' := by
  rcases h.shared with ⟨handle, hhandle, hshared⟩
  rcases h'.shared with ⟨handle', hhandle', hshared'⟩
  cases hhandle.symm.trans hhandle'
  exact Option.some.inj (hshared.symm.trans hshared')

/-- The flag tells the truth about an open connection: it is in exclusive mode if
    the flag is set, and in the mode it was opened in if not. -/
def Truthful (s : Session Pcsc.Card) (w : World ν NativeNote) : Prop :=
  ∀ card, s.card = some card → card.Held (if s.locked then .exclusive else card.mode) w

/-- An operation on a card that is locked, and was not opened exclusively, puts
    the flag at odds with the mode, and keeps the connection. -/
def slips (native : Native ν) (m : Manager) (access : Access) (s : Session Pcsc.Card)
    (w : World ν NativeNote) : Bool :=
  s.locked && (s.ask (m.backend native) access w).1.card.isSome &&
    match s.card with
    | some card => card.mode == .shared && access.diverges native card w.hardware
    | none => false

/-- The mode follows the flag unless the operation diverges under a lock. -/
theorem modeAfter_eq_iff {access : Access} (answer : Except CardError Unit) {locked : Bool}
    {state : ν} (hlock : access = .lock → locked = false ∧
      answer.isOk = (card.lock native state).value.1.isOk)
    (hunlock : access = .unlock → answer.isOk = (card.unlock native state).value.1.isOk) :
    access.modeAfter native card (if locked then .exclusive else card.mode) state =
        (if access.lockedAfter answer locked then .exclusive else card.mode) ↔
      (locked && (card.mode == .shared && access.diverges native card state)) = false := by
  cases access with
  | lock =>
      rcases hlock rfl with ⟨rfl, hanswer⟩
      rw [Access.modeAfter, ← hanswer]
      cases answer <;> simp [Access.lockedAfter, Except.isOk, Except.toBool]
  | unlock =>
      rw [Access.modeAfter, Access.diverges, ← hunlock rfl]
      cases answer <;> cases locked <;> cases card.mode <;>
        simp [Access.lockedAfter, Except.isOk, Except.toBool]
  | status | read | chipIo =>
      cases locked <;> simp [Access.modeAfter, Access.diverges, Access.lockedAfter]
  | chipPower action =>
      rw [Access.modeAfter, Access.diverges]
      cases (card.reconnect native action.disposition state).value.1.isOk <;> cases locked <;>
        cases card.mode <;> simp [Access.lockedAfter]
  | reset =>
      rw [Access.modeAfter, Access.diverges]
      cases (card.reconnect native .reset state).value.1.isOk <;> cases locked <;>
        cases card.mode <;> simp [Access.lockedAfter]

/-- An operation that gives up early leaves nothing to diverge. -/
theorem diverges_of_idle (hanchored : s.Anchored) {access : Access}
    (hidle : access.use (m.backend native) s = none) (hlocked : s.locked = true)
    (hcard : s.card = some card) (state : ν) : access.diverges native card state = false := by
  cases access with
  | lock | status | read | chipIo => rfl
  | unlock =>
      rw [Access.use, if_pos hlocked] at hidle
      cases hidle
  | chipPower action => cases hidle
  | reset =>
      have hbound := hanchored.bound (by rw [hcard]; rfl)
      rw [Access.use, if_pos hbound] at hidle
      cases hidle

/-- The connection that a session uses, and its mode. -/
theorem connect_held (hanchored : s.Anchored) (h : s.Truthful w) {w' : World ν NativeNote}
    (hconnect : s.connect (m.backend native) w = (.ok card, w')) :
    card.Held (if s.locked then .exclusive else card.mode) w' ∧
      (s.locked = true → s.card = some card ∧ w' = w) := by
  rcases hcard : s.card with _ | other
  · -- Without a connection there is no lock, so the new one is in the mode asked for.
    have hlocked : s.locked = false := by
      refine Bool.eq_false_iff.mpr fun hlocked => ?_
      have hsome := hanchored.locked hlocked
      rw [hcard] at hsome
      cases hsome
    rw [connect, hcard] at hconnect
    simp only at hconnect
    split at hconnect
    · cases hconnect
    · rcases Manager.connect_held hconnect with ⟨hmode, hheld⟩
      rw [hlocked]
      exact ⟨hmode.symm ▸ hheld, fun hlocked => absurd hlocked Bool.false_ne_true⟩
  · rw [connect, hcard] at hconnect
    cases hconnect
    exact ⟨h _ hcard, fun _ => ⟨rfl, rfl⟩⟩

/-- After the card was used and the connection kept, the flag tells the truth
    unless the operation slipped. -/
theorem truthful_of_used (honest : native.Honest) (hanchored : s.Anchored) (h : s.Truthful w)
    {access : Access} {use : CardUse ν Pcsc.Card NativeNote Unit}
    (huse : access.use (m.backend native) s = some use) {w' w'' : World ν NativeNote}
    {card' : Pcsc.Card} {answer : Except CardError Unit}
    (hconnect : s.connect (m.backend native) w = (.ok card, w'))
    (hused : use card w' = ((answer, card'), w'')) (hkept : Kept answer) :
    card'.Held (if access.lockedAfter answer s.locked then .exclusive else card'.mode) w'' ↔
      (s.locked && (card.mode == .shared && access.diverges native card w'.hardware)) = false := by
  have hheld := use_held honest huse (connect_held hanchored h hconnect).1 (w := w')
  rw [hused] at hheld
  rcases hheld hkept with ⟨hmode, hafter⟩
  -- There is one mode, so the flag is right about it or wrong.
  rw [show card'.mode = card.mode from hmode, ← modeAfter_eq_iff answer]
  · exact ⟨fun hother => held_unique hafter hother, fun hsame => hsame ▸ hafter⟩
  · rintro rfl
    cases Access.uses_of_use huse with
    | lock hlocked => exact ⟨hlocked, congrArg (·.1.1.isOk) hused.symm⟩
  · rintro rfl
    cases Access.uses_of_use huse with
    | unlock => exact congrArg (·.1.1.isOk) hused.symm

/-- What the flag has to say about an open connection. -/
theorem truthful_iff (hcard : s.card = some card) :
    s.Truthful w ↔ card.Held (if s.locked then .exclusive else card.mode) w := by
  refine ⟨fun h => h card hcard, fun h other hother => ?_⟩
  cases hcard.symm.trans hother
  exact h

/-- Without a connection there is nothing to tell. -/
theorem truthful_of_none (hcard : s.card = none) : s.Truthful w :=
  fun _ hother => nomatch hcard.symm.trans hother

/-- An operation that was carried out, and kept the connection. -/
theorem ask_truthful_of_kept (honest : native.Honest) (hanchored : s.Anchored)
    (h : s.Truthful w) {access : Access} {use : CardUse ν Pcsc.Card NativeNote Unit}
    (huse : access.use (m.backend native) s = some use) {w' w'' : World ν NativeNote}
    {card' : Pcsc.Card} {answer : Except CardError Unit}
    (hconnect : s.connect (m.backend native) w = (.ok card, w'))
    (hused : use card w' = ((answer, card'), w'')) (hkept : Kept answer)
    (hask : s.ask (m.backend native) access w =
      ({ s with card := some card', locked := access.lockedAfter answer s.locked },
        access.reported answer { s with card := some card' } w'')) :
    (s.ask (m.backend native) access w).1.Truthful (s.ask (m.backend native) access w).2 ↔
      slips native m access s w = false := by
  rw [slips, hask, truthful_iff rfl, Pcsc.Card.held_congr (reported_calls access answer _ w''),
    truthful_of_used honest hanchored h huse hconnect hused hkept]
  cases hlocked : s.locked with
  | false => simp only [Bool.false_and]
  | true =>
      -- A locked session uses the connection that it has.
      rcases (connect_held hanchored h hconnect).2 hlocked with ⟨hcard, rfl⟩
      simp only [hcard, Option.isSome_some, Bool.true_and]

/-- An operation that left no connection. -/
theorem ask_truthful_of_none {access : Access}
    (hnone : (s.ask (m.backend native) access w).1.card = none) :
    (s.ask (m.backend native) access w).1.Truthful (s.ask (m.backend native) access w).2 ↔
      slips native m access s w = false := by
  refine iff_of_true (truthful_of_none hnone) ?_
  rw [slips, hnone, Option.isSome_none, Bool.and_false, Bool.false_and]

/-- An operation that gave up early. -/
theorem ask_truthful_of_idle (hanchored : s.Anchored) (h : s.Truthful w) {access : Access}
    (hidle : access.use (m.backend native) s = none) :
    (s.ask (m.backend native) access w).1.Truthful (s.ask (m.backend native) access w).2 ↔
      slips native m access s w = false := by
  have hask : s.ask (m.backend native) access w = (s, w) := by rw [ask_eq, hidle]
  rcases hcard : s.card with _ | card
  · exact ask_truthful_of_none ((congrArg (·.1.card) hask).trans hcard)
  · rw [slips, hask]
    refine iff_of_true h ?_
    cases hlocked : s.locked with
    | false => rfl
    | true => simp only [hcard, diverges_of_idle hanchored hidle hlocked hcard, Bool.and_false]

/-- An operation keeps the flag truthful unless it slips, and only then. -/
theorem ask_truthful (honest : native.Honest) (hanchored : s.Anchored) (h : s.Truthful w)
    (access : Access) :
    (s.ask (m.backend native) access w).1.Truthful (s.ask (m.backend native) access w).2 ↔
      slips native m access s w = false := by
  rcases huse : access.use (m.backend native) s with _ | use
  · exact ask_truthful_of_idle hanchored h huse
  · have hask := ask_eq (m.backend native) access s w
    rw [huse] at hask
    have houtcome := withCard_outcome (m.backend native) use s w
    simp only at hask
    generalize s.withCard (m.backend native) use w = r at houtcome hask
    rcases r with ⟨answer, s', w'⟩
    cases houtcome with
    | refused hcard hconnect =>
        exact ask_truthful_of_none ((congrArg (·.1.card) hask).trans hcard)
    | served hconnect hused =>
        exact ask_truthful_of_kept honest hanchored h huse hconnect hused
          (fun _ hfailed => nomatch hfailed) hask
    | failed hconnect hused hkept =>
        refine ask_truthful_of_kept honest hanchored h huse hconnect hused (fun e hfailed => ?_)
          hask
        cases hfailed
        exact hkept
    | dropped hconnect hused hdrops => exact ask_truthful_of_none (congrArg (·.1.card) hask)

/-- Apart from the operations on the card, nothing disturbs the flag. -/
theorem meet_truthful (honest : native.Honest) (hanchored : s.Anchored) (h : s.Truthful w)
    (incident : Incident ν)
    (hslips : ∀ access, incident = .done (.ask access) → slips native m access s w = false) :
    (meet (m.backend native) (s, w) incident).1.Truthful
      (meet (m.backend native) (s, w) incident).2 := by
  cases incident with
  | happened hardware =>
      intro card hcard
      have hheld := h card hcard
      exact ⟨hheld.opened, hheld.shared⟩
  | done operation =>
      cases operation with
      | reread | setTraceLevel | register | deregister => exact fun card hcard => h card hcard
      | ask access => exact (ask_truthful honest hanchored h access).mpr (hslips access rfl)
      | disconnect => exact truthful_of_none rfl
      | notify state kind =>
          cases kind with
          | deviceList => exact h
          | card =>
              rcases (notify_kept (m.backend native) state s w).2 with
                ⟨hcard, hlocked, hcalls⟩ | ⟨hnone, -⟩
              · intro card hafter
                have hheld := h card (hcard.symm.trans hafter)
                rw [← hlocked] at hheld
                exact (Pcsc.Card.held_congr hcalls).mpr hheld
              · exact truthful_of_none hnone

/-- The lock flag tells the truth as long as no operation slips, and ceases to
    with the first that does, whatever the resource manager answers. -/
theorem run_truthful (honest : native.Honest) (handle : ServiceHandle) (settings : Settings)
    (w : World ν NativeNote) (incidents : List (Incident ν)) :
    let reached := fun incidents => run (m.backend native) incidents (start handle settings, w)
    let p := reached incidents
    ((∀ before access after, incidents = before ++ .done (.ask access) :: after →
        slips native m access (reached before).1 (reached before).2 = false) →
      p.1.Truthful p.2) ∧
    (p.1.Truthful p.2 → ∀ access,
      ((p.1.ask (m.backend native) access p.2).1.Truthful
          (p.1.ask (m.backend native) access p.2).2 ↔
        slips native m access p.1 p.2 = false)) := by
  intro reached p
  have hanchored : ∀ incidents, (reached incidents).1.Anchored := fun incidents =>
    run_anchored (start_anchored handle settings) incidents
  refine ⟨fun hslips => ?_, fun h access => ask_truthful honest (hanchored incidents) h access⟩
  show (reached incidents).1.Truthful (reached incidents).2
  clear p
  induction incidents using List.reverseRecOn with
  | nil => exact truthful_of_none rfl
  | append_singleton before incident ih =>
      have hbefore := ih fun earlier access after hsplit =>
        hslips earlier access (after ++ [incident])
          (by rw [hsplit, List.append_assoc, List.cons_append])
      simp only [reached, run_concat]
      refine meet_truthful honest (hanchored before) hbefore incident fun access hask => ?_
      exact hslips before access [] (by rw [hask])

end Session

namespace Simulation

/-- A resource manager with one reader and a card in it, and a renewal that breaks
    down once a number of renewals were made. -/
def faltering (after : Nat) : Native Nat where
  establish n := (.ok 1, n)
  releaseContext _ n := n
  listReaders _ n := (.ok ["A"], n)
  statusChange _ _ _ n := some (.error (Code.ofError .timeout), n)
  cancel _ _ n := (.ok (), n)
  connect _ _ _ n := (.ok (1, some .t1), n)
  status _ n := (.ok ⟨0#32, some .t1, [0x3b, 0x8f]⟩, n)
  transmit _ _ _ _ n := (.ok [0x90, 0x00], n)
  reconnect _ _ _ n :=
    (if n = after then .error (Code.ofError .commError) else .ok (some .t1), n + 1)
  disconnect _ _ n := (.ok (), n)

theorem faltering_honest (after : Nat) : (faltering after).Honest := by
  intro handle mode disposition n
  simp only [faltering]
  split
  · exact fun h => absurd (Except.error.inj h) (by decide)
  · exact fun h => nomatch h

/-- The contexts of a manager. -/
def twoContexts : Manager := ⟨1, 2⟩

/-- A card is locked, a reset of it fails, and a command is exchanged. -/
def failedReset : List (Session.Incident Nat) :=
  [.done (.ask .lock), .done (.ask .reset), .done (.ask (.chipIo [0x00, 0xa4]))]

/-- The reset leaves the mode as it was, so the flag goes on telling the truth. -/
theorem run_truthful_failedReset :
    let p := Session.run (twoContexts.backend (faltering 1)) failedReset
      (Session.start 1 (settingsFor "A"), ⟨0, []⟩)
    p.1.locked = true ∧ p.1.card.isSome = true ∧ p.1.Truthful p.2 := by
  refine ⟨by decide, by decide, ?_⟩
  refine (Session.run_truthful (m := twoContexts) (faltering_honest 1) 1 (settingsFor "A") ⟨0, []⟩
    failedReset).1 fun before access after hsplit => ?_
  rcases before with _ | ⟨first, _ | ⟨second, _ | ⟨third, rest⟩⟩⟩
  · cases hsplit
    decide
  · cases hsplit
    decide
  · cases hsplit
    decide
  · cases rest <;> cases hsplit

/-- A change of power under a lock leaves the card shared although the flag says
    that it is held, and giving it up in vain leaves it held although the flag
    says that it is not. -/
theorem locked_but_shared :
    let powered := Session.run (twoContexts.backend (faltering 9))
      [.done (.ask .lock), .done (.ask (.chipPower .warm))]
      (Session.start 1 (settingsFor "A"), ⟨0, []⟩)
    let unlocked := Session.run (twoContexts.backend (faltering 1))
      [.done (.ask .lock), .done (.ask .unlock)] (Session.start 1 (settingsFor "A"), ⟨0, []⟩)
    (powered.1.locked = true ∧ powered.1.card.bind Pcsc.Card.handle = some 1 ∧
      latest (NativeNote.shares 1) powered.2.calls = some .shared) ∧
    unlocked.1.locked = false ∧ unlocked.1.card.bind Pcsc.Card.handle = some 1 ∧
      latest NativeNote.connects unlocked.2.calls = some .shared ∧
      latest (NativeNote.shares 1) unlocked.2.calls = some .exclusive := by
  decide

end Simulation

end CardHost
