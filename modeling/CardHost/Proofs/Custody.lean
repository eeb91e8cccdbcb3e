import CardHost.Proofs.Logs
import CardHost.Proofs.ShareModes

/-!
# How Connections End

A session has one connection at a time, and the resource manager is told of it
in one stretch: a call that opens it, calls over it, and calls that give it up.
So whatever a session asks of the resource manager can be told as a list of
such stretches, with attempts to connect in between that were refused. Only the
last connection may still be open, and it is the one that the session holds.
`run_custody` says that this is so for every run of a session, whatever the
resource manager answers.

A connection is given up once and the card is left as it is, with two
exceptions. The exchange by which the card turns out to be lost is followed by
a call that gives the connection up and resets the card; and where the card
could not be left as it is, the connection is given up a second time, with a
reset. Nothing else is done over a connection that was given up, so the next
operation that uses the card begins by opening another.

## Main definitions

* `Pcsc.NativeNote.Uses`: The calls over a connection that leave it in use.
* `Pcsc.Parting`: The ways to give a connection up.
* `Pcsc.Tenure`, `Pcsc.Spell`: A connection, and how it ended.
* `Pcsc.Custody`: The calls tell of one connection after the other.
* `Session.Tends`: The connection that is open is the one that the session holds.

## Theorems

* `Pcsc.InCustody.release`, `Pcsc.InCustody.granted`, `Pcsc.InCustody.refused`: A
  connection begins and ends.
* `CardUse.use_tended`: What a use of the card leaves of a connection.
* `ask_tends`, `perform_tends`, `meet_tends`: What can happen to a session.
* `run_custody`: Any run.
* `Simulation.run_custody_unanswering`: A run in which the card is left as it is.
* `Simulation.reset_at_parting`: Runs in which the card is reset.
-/

namespace CardHost

namespace Pcsc

/-- A call over a connection that leaves it in use. An exchange by which the card
    turns out to be lost is none. -/
inductive NativeNote.Uses (handle : Handle) : NativeNote → Prop where
  | status (code : Code) : Uses handle (.status handle code)
  | transmit (protocol : Protocol) (command : Bytes) (code : Code)
      (hkept : Card.isLost (Code.error code) = false) :
      Uses handle (.transmit handle protocol command Card.room code)
  | reconnect (mode : ShareMode) (disposition : Disposition) (code : Code) :
      Uses handle (.reconnect handle mode disposition code)

/-- How a connection is given up. -/
inductive Parting where
  /-- Once, and the card is left as it is. -/
  | left
  /-- The card could not be left as it is, so it is reset. -/
  | forced (code again : Code)
  /-- An exchange showed that the card is lost, and it is reset. -/
  | lost (protocol : Protocol) (command : Bytes) (code again : Code)

/-- The calls by which a connection is given up, with the exchange that led to
    it. -/
def Parting.notes (handle : Handle) : Parting → List NativeNote
  | left => [.disconnect handle .leave Code.success]
  | forced code again => [.disconnect handle .leave code, .disconnect handle .reset again]
  | lost protocol command code again =>
    [.transmit handle protocol command Card.room code, .disconnect handle .reset again]

/-- A connection, and what was done over it while it lasted. -/
structure Tenure where
  reader : String
  mode : ShareMode
  handle : Handle
  uses : List NativeNote

/-- The calls about a connection until it is given up. -/
def Tenure.notes (m : Manager) (t : Tenure) : List NativeNote :=
  .connect m.context t.reader t.mode Code.success :: t.uses

/-- What became of an attempt to connect. -/
inductive Spell where
  | refused (reader : String) (mode : ShareMode) (code : Code)
  | ended (tenure : Tenure) (parting : Parting)

/-- The calls of an attempt to connect, and of all that came of it. -/
def Spell.notes (m : Manager) : Spell → List NativeNote
  | refused reader mode code => [.connect m.context reader mode code]
  | ended tenure parting => tenure.notes m ++ parting.notes tenure.handle

variable {ν α β : Type}

/-- The resource manager gave the answers that led to this end. -/
def Parting.Sound (native : Native ν) (handle : Handle) : Parting → Prop
  | left => ∃ s, (native.disconnect handle .leave s).1 = .ok ()
  | forced code _ => ∃ s, (native.disconnect handle .leave s).1 = .error code
  | lost protocol command code _ => Card.isLost (Code.error code) = true ∧
      ∃ s, (native.transmit handle protocol command Card.room s).1 = .error code

/-- Every card can be left as it is, and no exchange shows that one is lost. -/
structure Native.Gentle (native : Native ν) : Prop where
  leaves : ∀ handle s, (native.disconnect handle .leave s).1 = .ok ()
  keeps : ∀ handle protocol command s code,
    (native.transmit handle protocol command Card.room s).1 = .error code →
      Card.isLost (Code.error code) = false

theorem Parting.Sound.left_of_gentle {native : Native ν} {handle : Handle} {parting : Parting}
    (h : parting.Sound native handle) (hgentle : native.Gentle) : parting = .left := by
  cases parting with
  | left => rfl
  | forced code again =>
      rcases h with ⟨s, hfailed⟩
      cases (hgentle.leaves handle s).symm.trans hfailed
  | lost protocol command code again =>
      rcases h with ⟨hlost, s, hfailed⟩
      cases (hgentle.keeps handle protocol command s code hfailed).symm.trans hlost

/-- The resource manager granted the connection, and it was used and kept. -/
structure Tenure.Sound (native : Native ν) (m : Manager) (t : Tenure) : Prop where
  granted : ∃ protocol s,
    (native.connect m.context t.reader t.mode s).1 = .ok (t.handle, protocol)
  uses : ∀ note ∈ t.uses, note.Uses t.handle

/-- The resource manager gave the answers that an attempt tells of. -/
def Spell.Sound (native : Native ν) (m : Manager) : Spell → Prop
  | refused reader mode code => ∃ s, (native.connect m.context reader mode s).1 = .error code
  | ended tenure parting => tenure.Sound native m ∧ parting.Sound native tenure.handle

/-- Calls tell of one connection after the other; the last may still be open. -/
structure Custody (native : Native ν) (m : Manager) (past : List Spell)
    (current : Option Tenure) (notes : List NativeNote) : Prop where
  told : notes = past.flatMap (Spell.notes m) ++ current.elim [] (Tenure.notes m)
  past : ∀ spell ∈ past, spell.Sound native m
  current : ∀ tenure, current = some tenure → tenure.Sound native m

namespace Custody

variable {native : Native ν} {m : Manager} {past : List Spell} {tenure : Tenure}
  {notes : List NativeNote}

theorem start (native : Native ν) (m : Manager) : Custody native m [] none [] :=
  ⟨rfl, fun _ hspell => absurd hspell List.not_mem_nil, fun _ htenure => nomatch htenure⟩

theorem refused (h : Custody native m past none notes) {spell : Spell}
    (hspell : spell.Sound native m) :
    Custody native m (past ++ [spell]) none (notes ++ spell.notes m) := by
  refine ⟨?_, fun other hother => ?_, fun _ htenure => nomatch htenure⟩
  · rw [h.told, List.flatMap_append, List.flatMap_singleton]
    simp only [Option.elim_none, List.append_nil]
  · rcases List.mem_append.mp hother with hother | hother
    · exact h.past other hother
    · exact List.mem_singleton.mp hother ▸ hspell

theorem opened (h : Custody native m past none notes) (htenure : tenure.Sound native m) :
    Custody native m past (some tenure) (notes ++ tenure.notes m) := by
  refine ⟨?_, h.past, fun other hother => Option.some.inj hother ▸ htenure⟩
  rw [h.told]
  simp only [Option.elim_none, Option.elim_some, List.append_nil]

theorem used (h : Custody native m past (some tenure) notes) {more : List NativeNote}
    (hmore : ∀ note ∈ more, note.Uses tenure.handle) :
    Custody native m past (some { tenure with uses := tenure.uses ++ more }) (notes ++ more) := by
  have htenure := h.current tenure rfl
  refine ⟨?_, h.past, fun other hother => ?_⟩
  · rw [h.told]
    simp only [Option.elim_some, Tenure.notes, List.append_assoc, List.cons_append]
  · cases hother
    refine ⟨htenure.granted, fun note hnote => ?_⟩
    exact (List.mem_append.mp hnote).elim (htenure.uses note) (hmore note)

theorem parted (h : Custody native m past (some tenure) notes) {parting : Parting}
    (hparting : parting.Sound native tenure.handle) :
    Custody native m (past ++ [.ended tenure parting]) none
      (notes ++ parting.notes tenure.handle) := by
  refine ⟨?_, fun spell hspell => ?_, fun _ htenure => nomatch htenure⟩
  · rw [h.told, List.flatMap_append, List.flatMap_singleton]
    simp only [Option.elim_none, Option.elim_some, Spell.notes, List.append_assoc,
      List.append_nil]
  · rcases List.mem_append.mp hspell with hspell | hspell
    · exact h.past spell hspell
    · exact List.mem_singleton.mp hspell ▸ ⟨h.current tenure rfl, hparting⟩

end Custody

/-- The calls so far tell of one connection after the other, and this is the
    handle of the one that is open, if one is. -/
def InCustody (native : Native ν) (m : Manager) (handle : Option Handle)
    (w : World ν NativeNote) : Prop :=
  ∃ past current, Custody native m past current w.calls ∧ current.map Tenure.handle = handle

/-- A connection is open. -/
structure Card.InHand (native : Native ν) (m : Manager) (card : Card)
    (w : World ν NativeNote) : Prop where
  custody : InCustody native m card.handle w
  isSome : card.handle.isSome = true

/-- What a use leaves of a connection: it is open still, or it was given up, and
    the use failed in a way that makes the session give it up too. -/
structure Card.Tended (native : Native ν) (m : Manager) (answer : Except CardError α)
    (card : Card) (w : World ν NativeNote) : Prop where
  custody : InCustody native m card.handle w
  isSome : Kept answer → card.handle.isSome = true

variable {native : Native ν} {m : Manager} {card card' : Card} {handle : Handle}
  {w w' : World ν NativeNote} {answer : Except CardError α}

theorem Card.InHand.tended (h : card.InHand native m w) (answer : Except CardError α) :
    card.Tended native m answer w :=
  ⟨h.custody, fun _ => h.isSome⟩

/-- What is made of the answer is of no concern. -/
theorem Card.Tended.map (h : card.Tended native m answer w) (f : α → β) :
    card.Tended native m (answer.map f) w :=
  ⟨h.custody, fun hkept => h.isSome fun e hfailed => hkept e (congrArg (Except.map f) hfailed)⟩

namespace InCustody

theorem congr {handle : Option Handle} (h : InCustody native m handle w)
    (hcalls : w'.calls = w.calls) : InCustody native m handle w' := by
  rcases h with ⟨past, current, hcustody, hhandle⟩
  exact ⟨past, current, hcalls ▸ hcustody, hhandle⟩

theorem used (h : InCustody native m (some handle) w) {more : List NativeNote}
    (hcalls : w'.calls = w.calls ++ more) (hmore : ∀ note ∈ more, note.Uses handle) :
    InCustody native m (some handle) w' := by
  rcases h with ⟨past, current, hcustody, hhandle⟩
  rcases Option.map_eq_some_iff.mp hhandle with ⟨tenure, rfl, rfl⟩
  exact ⟨past, _, hcalls ▸ hcustody.used hmore, rfl⟩

theorem parted (h : InCustody native m (some handle) w) (parting : Parting)
    (hparting : parting.Sound native handle)
    (hcalls : w'.calls = w.calls ++ parting.notes handle) : InCustody native m none w' := by
  rcases h with ⟨past, current, hcustody, hhandle⟩
  rcases Option.map_eq_some_iff.mp hhandle with ⟨tenure, rfl, rfl⟩
  exact ⟨_, none, hcalls ▸ hcustody.parted hparting, rfl⟩

/-- To release a card is to give its connection up, if that was not done. -/
theorem release (h : InCustody native m card.handle w) :
    InCustody native m none (w.call (card.release native)).2 := by
  have hcalls := World.calls_call (card.release native) w
  have hreleased := card.release_released native w.hardware
  generalize card.release native w.hardware = reply at hcalls hreleased
  cases hreleased with
  | unconnected hhandle => exact (hhandle ▸ h).congr (hcalls.trans (List.append_nil _))
  | left hhandle hmade =>
      exact (hhandle ▸ h).parted .left ⟨w.hardware, congrArg Prod.fst hmade⟩ hcalls
  | @forced _ code _ _ answer hhandle hmade =>
      -- The card that comes back is given up again when nobody has a use for it.
      exact (hhandle ▸ h).parted (.forced code (codeOf answer))
        ⟨w.hardware, congrArg Prod.fst hmade⟩ hcalls

variable {reader : String} {mode : ShareMode}

/-- A connection begins when it is granted. -/
theorem granted (h : InCustody native m none w)
    (hconnect : w.call (m.connect native reader mode) = (.ok card, w')) :
    card.InHand native m w' := by
  have hcalls := World.calls_call (m.connect native reader mode) w
  have hvalue : (m.connect native reader mode w.hardware).value = .ok card :=
    congrArg Prod.fst hconnect
  have hconnected := m.connect_connected native reader mode w.hardware
  rw [hconnect] at hcalls
  generalize m.connect native reader mode w.hardware = reply at hcalls hvalue hconnected
  cases hconnected with
  | unpassable | refused => cases hvalue
  | @granted handle protocol _ _ hmade =>
      cases hvalue
      rcases h with ⟨past, current, hcustody, hhandle⟩
      cases Option.map_eq_none_iff.mp hhandle
      have htenure : Tenure.Sound native m ⟨reader, mode, handle, []⟩ :=
        ⟨⟨protocol, w.hardware, congrArg Prod.fst hmade⟩,
          fun _ hnote => absurd hnote List.not_mem_nil⟩
      exact ⟨⟨past, _, hcalls ▸ hcustody.opened htenure, rfl⟩, rfl⟩

/-- No connection begins when none is granted. -/
theorem refused (h : InCustody native m none w) {e : CardError}
    (hconnect : w.call (m.connect native reader mode) = (.error e, w')) :
    InCustody native m none w' := by
  have hcalls := World.calls_call (m.connect native reader mode) w
  have hvalue : (m.connect native reader mode w.hardware).value = .error e :=
    congrArg Prod.fst hconnect
  have hconnected := m.connect_connected native reader mode w.hardware
  rw [hconnect] at hcalls
  generalize m.connect native reader mode w.hardware = reply at hcalls hvalue hconnected
  cases hconnected with
  | unpassable => exact h.congr (hcalls.trans (List.append_nil _))
  | @refused code _ _ hmade =>
      rcases h with ⟨past, current, hcustody, hhandle⟩
      cases Option.map_eq_none_iff.mp hhandle
      have hspell : Spell.Sound native m (.refused reader mode code) :=
        ⟨w.hardware, congrArg Prod.fst hmade⟩
      exact ⟨_, none, hcalls ▸ hcustody.refused hspell, rfl⟩
  | granted => cases hvalue

end InCustody

namespace Card.InHand

/-- Calls over an open connection. -/
theorem used (h : card.InHand native m w) (hhandle : card.handle = some handle)
    (hsame : card'.handle = some handle) {more : List NativeNote}
    (hcalls : w'.calls = w.calls ++ more) (hmore : ∀ note ∈ more, note.Uses handle) :
    card'.InHand native m w' := by
  have hcustody := h.custody
  rw [hhandle] at hcustody
  exact ⟨hsame ▸ hcustody.used hcalls hmore, hsame ▸ rfl⟩

theorem status (h : card.InHand native m w) :
    let r := w.call (card.status native)
    r.1.2.InHand native m r.2 := by
  intro r
  have hcalls : r.2.calls = _ := World.calls_call (card.status native) w
  rcases Option.isSome_iff_exists.mp h.isSome with ⟨handle, hhandle⟩
  have hvalue : r.1.2 = card := by simp only [r, World.call, Card.status, hhandle]
  simp only [Card.status, hhandle, noted] at hcalls
  refine h.used hhandle (hvalue ▸ hhandle) hcalls fun note hnote => ?_
  exact List.mem_singleton.mp hnote ▸ .status _

theorem renew (h : card.InHand native m w) (mode : ShareMode) (disposition : Disposition) :
    let r := w.call (card.renew native mode disposition)
    r.1.2.InHand native m r.2 := by
  intro r
  have hvalue : r.1 = (card.renew native mode disposition w.hardware).value := rfl
  have hcalls : r.2.calls = _ := World.calls_call (card.renew native mode disposition) w
  have hrenewed := card.renew_renewed native mode disposition w.hardware
  rw [hvalue]
  generalize card.renew native mode disposition w.hardware = reply at hcalls hrenewed
  cases hrenewed with
  | unconnected => exact ⟨h.custody.congr (hcalls.trans (List.append_nil _)), h.isSome⟩
  | failed hhandle | done hhandle =>
      refine h.used hhandle hhandle hcalls fun note hnote => ?_
      exact List.mem_singleton.mp hnote ▸ .reconnect _ _ _

/-- An exchange keeps the connection unless the card turns out to be lost. -/
theorem transmit (h : card.InHand native m w) (command : Bytes) :
    let r := w.call (card.transmit native command)
    r.1.2.Tended native m r.1.1 r.2 := by
  intro r
  have hvalue : r.1 = (card.transmit native command w.hardware).value := rfl
  have hcalls : r.2.calls = _ := World.calls_call (card.transmit native command) w
  have hexchanged := card.transmit_exchanged native command w.hardware
  rw [hvalue]
  generalize card.transmit native command w.hardware = reply at hcalls hexchanged
  cases hexchanged with
  | unconnected | mismatched =>
      exact ⟨h.custody.congr (hcalls.trans (List.append_nil _)), fun _ => h.isSome⟩
  | answered hhandle =>
      refine (h.used hhandle hhandle hcalls fun note hnote => ?_).tended _
      exact List.mem_singleton.mp hnote ▸ .transmit _ _ _ (by decide)
  | failed hhandle _ _ hkept =>
      refine (h.used hhandle hhandle hcalls fun note hnote => ?_).tended _
      exact List.mem_singleton.mp hnote ▸ .transmit _ _ _ hkept
  | @lost _ protocol code _ _ answer hhandle _ hmade hlost =>
      have hcustody := h.custody
      rw [hhandle] at hcustody
      refine ⟨hcustody.parted (.lost protocol command code (codeOf answer))
        ⟨hlost, w.hardware, congrArg Prod.fst hmade⟩ hcalls, fun hkept => ?_⟩
      -- The session gives the connection up by the same error, and finds nothing to release.
      cases (hkept _ rfl).symm.trans (dropsConnection_of_isLost hlost)

end Card.InHand

end Pcsc

open Pcsc

namespace CardUse

variable {ν : Type} {native : Native ν} {m : Manager} {card : Pcsc.Card}
  {w : World ν NativeNote}

theorem exchange_tended (h : card.InHand native m w) (workarounds : Workarounds)
    (command : Bytes) :
    let r := exchange (m.backend native) workarounds command card w
    r.1.2.Tended native m r.1.1 r.2 := by
  have hstatus := h.status
  rw [exchange]
  rcases hcall : w.call ((m.backend native).status card) with ⟨⟨e | status, card'⟩, w'⟩
  · have hsame : w.call (card.status native) = ((.error e, card'), w') := hcall
    rw [hsame] at hstatus
    exact hstatus.tended _
  · have hsame : w.call (card.status native) = ((.ok status, card'), w') := hcall
    rw [hsame] at hstatus
    exact (Card.InHand.transmit hstatus _).map _

theorem power_tended (h : card.InHand native m w) (action : PowerAction) :
    let r := power (m.backend native) action card w
    r.1.2.Tended native m r.1.1 r.2 := by
  have hrenewed := h.renew card.mode action.disposition
  rw [power]
  rcases hcall : w.call ((m.backend native).reconnect action.disposition card) with
    ⟨⟨e | _, card'⟩, w'⟩
  · have hsame : w.call (card.renew native card.mode action.disposition) =
      ((.error e, card'), w') := hcall
    rw [hsame] at hrenewed
    exact hrenewed.tended _
  · have hsame : w.call (card.renew native card.mode action.disposition) =
      ((.ok (), card'), w') := hcall
    rw [hsame] at hrenewed
    have hstatus := Card.InHand.status hrenewed
    cases action with
    | cold | warm => exact hstatus.tended _
    | off => exact hrenewed.tended _

/-- Whatever an operation does with a card, the connection is open still, or was
    given up as it should be. -/
theorem use_tended {access : Session.Access} {s : Session Pcsc.Card}
    {use : CardUse ν Pcsc.Card NativeNote Unit} (huse : access.use (m.backend native) s = some use)
    (h : card.InHand native m w) :
    (use card w).1.2.Tended native m (use card w).1.1 (use card w).2 := by
  cases Session.Access.uses_of_use huse with
  | lock => exact (h.renew .exclusive .leave).tended _
  | unlock => exact (h.renew card.mode .leave).tended _
  | status | read => exact h.status.tended _
  | chipIo command => exact (exchange_tended h s.settings.workarounds command).map _
  | chipPower action => exact (power_tended h action).map _
  | reset => exact (h.renew card.mode .reset).tended _

end CardUse

namespace Session

variable {ν : Type}

/-- The connection that is open is the one that the session holds. -/
structure Tends (native : Native ν) (m : Manager) (s : Session Pcsc.Card)
    (w : World ν NativeNote) : Prop where
  custody : InCustody native m (s.card.bind Card.handle) w
  isSome : ∀ card, s.card = some card → card.handle.isSome = true

variable {native : Native ν} {m : Manager} {s s' : Session Pcsc.Card} {card : Pcsc.Card}
  {w w' : World ν NativeNote}

namespace Tends

theorem of_none (hcard : s.card = none) (h : InCustody native m none w) : s.Tends native m w := by
  refine ⟨?_, fun card hsome => nomatch hcard.symm.trans hsome⟩
  rw [hcard]
  exact h

theorem of_some (hcard : s.card = some card) (h : card.InHand native m w) :
    s.Tends native m w := by
  refine ⟨?_, fun other hother => ?_⟩
  · rw [hcard]
    exact h.custody
  · exact Option.some.inj (hcard.symm.trans hother) ▸ h.isSome

theorem congr (h : s.Tends native m w) (hcard : s'.card = s.card) (hcalls : w'.calls = w.calls) :
    s'.Tends native m w' := by
  refine ⟨?_, fun card hsome => h.isSome card (hcard.symm.trans hsome)⟩
  rw [hcard]
  exact h.custody.congr hcalls

theorem inHand (h : s.Tends native m w) (hcard : s.card = some card) : card.InHand native m w := by
  have hcustody := h.custody
  rw [hcard] at hcustody
  exact ⟨hcustody, h.isSome card hcard⟩

theorem inCustody (h : s.Tends native m w) (hcard : s.card = none) :
    InCustody native m none w := by
  have hcustody := h.custody
  rw [hcard] at hcustody
  exact hcustody

/-- What a session has to work with is a connection in hand. -/
theorem connect (h : s.Tends native m w)
    (hconnect : s.connect (m.backend native) w = (.ok card, w')) : card.InHand native m w' := by
  rw [Session.connect] at hconnect
  split at hconnect
  · next hcard =>
      cases hconnect
      exact h.inHand hcard
  · next hcard =>
      split at hconnect
      · cases hconnect
      · exact (h.inCustody hcard).granted hconnect

theorem unconnected (h : s.Tends native m w) {e : CardError}
    (hconnect : s.connect (m.backend native) w = (.error e, w')) : s.Tends native m w' := by
  rw [Session.connect] at hconnect
  split at hconnect
  · cases hconnect
  · next hcard =>
      split at hconnect
      · cases hconnect
        exact h
      · exact of_none hcard ((h.inCustody hcard).refused hconnect)

theorem disconnect (h : s.Tends native m w) :
    (s.disconnect (m.backend native) w).1.Tends native m
      (s.disconnect (m.backend native) w).2 := by
  refine of_none rfl ?_
  rw [Session.disconnect]
  rcases hcard : s.card with _ | card
  · exact h.inCustody hcard
  · exact (h.inHand hcard).custody.release

end Tends

theorem ask_tends (h : s.Tends native m w) (access : Access) :
    (s.ask (m.backend native) access w).1.Tends native m
      (s.ask (m.backend native) access w).2 := by
  rw [ask_eq]
  rcases huse : access.use (m.backend native) s with _ | use
  · exact h
  · have houtcome := withCard_outcome (m.backend native) use s w
    simp only
    generalize s.withCard (m.backend native) use w = r at houtcome ⊢
    rcases r with ⟨answer, s', w'⟩
    -- The report of a reset and the lock flag come last, and are not about the connection.
    suffices hdone : s'.Tends native m w' from hdone.congr rfl (reported_calls access answer s' w')
    cases houtcome with
    | refused hcard hconnect => exact h.unconnected hconnect
    | @served card _ w₁ _ _ hconnect hused =>
        have htended := CardUse.use_tended huse (h.connect hconnect)
        rw [hused] at htended
        exact .of_some rfl ⟨htended.custody, htended.isSome fun _ hfailed => nomatch hfailed⟩
    | @failed card _ w₁ _ e hconnect hused hkept =>
        have htended := CardUse.use_tended huse (h.connect hconnect)
        rw [hused] at htended
        refine .of_some rfl ⟨htended.custody, htended.isSome fun other hfailed => ?_⟩
        exact Except.error.inj hfailed ▸ hkept
    | @dropped card _ w₁ _ _ hconnect hused hdrops =>
        have htended := CardUse.use_tended huse (h.connect hconnect)
        rw [hused] at htended
        exact .of_none rfl htended.custody.release

theorem notify_tends (h : s.Tends native m w) (state : Snapshot) (kind : ChangeKind) :
    (s.notify (m.backend native) state kind w).1.Tends native m
      (s.notify (m.backend native) state kind w).2 := by
  cases kind with
  | deviceList => exact h
  | card =>
      have hinformed : (s.informed state).Tends native m w := by
        rw [informed]
        split <;> exact h.congr rfl rfl
      rw [notify_card_eq]
      split
      · have hnoted : ((s.informed state).noteAvailability state w).1.Tends native m
            ((s.informed state).noteAvailability state w).2 := by
          rw [noteAvailability]
          split
          · exact hinformed
          · exact hinformed.congr rfl (World.calls_post _ w)
        rw [notePresence]
        by_cases hgone : (((s.informed state).noteAvailability state w).1.observed.present &&
            (!state.present || state.replaced)) = true
        · rw [if_pos hgone]
          exact hnoted.disconnect.congr rfl (World.calls_post _ _)
        · rw [if_neg hgone]
          exact hnoted.congr rfl rfl
      · exact hinformed

theorem perform_tends (h : s.Tends native m w) (operation : Operation) :
    (s.perform (m.backend native) operation w).1.Tends native m
      (s.perform (m.backend native) operation w).2 := by
  cases operation with
  | reread | setTraceLevel | register | deregister => exact h.congr rfl rfl
  | ask access => exact ask_tends h access
  | disconnect => exact h.disconnect
  | notify state kind => exact notify_tends h state kind

theorem meet_tends (h : s.Tends native m w) (incident : Incident ν) :
    (meet (m.backend native) (s, w) incident).1.Tends native m
      (meet (m.backend native) (s, w) incident).2 := by
  cases incident with
  | done operation => exact perform_tends h operation
  | happened hardware => exact h.congr rfl rfl

theorem run_tends {p : Session Pcsc.Card × World ν NativeNote} (h : p.1.Tends native m p.2)
    (incidents : List (Incident ν)) :
    (run (m.backend native) incidents p).1.Tends native m
      (run (m.backend native) incidents p).2 := by
  induction incidents generalizing p with
  | nil => exact h
  | cons incident rest ih => exact ih (meet_tends h incident)

/-- A session that holds no connection opens one before it uses a card. -/
theorem ask_connects {access : Access} {use : CardUse ν Pcsc.Card NativeNote Unit}
    {reader : String} (hcard : s.card = none) (huse : access.use (m.backend native) s = some use)
    (hreader : s.binding.reader = some reader) (hpassable : Manager.isPassable reader = true) :
    ∃ code rest, (s.ask (m.backend native) access w).2.calls =
      w.calls ++ .connect m.context reader s.settings.shareMode code :: rest := by
  let made := native.connect m.context reader s.settings.shareMode w.hardware
  have hconnect : (s.connect (m.backend native) w).2.calls =
      w.calls ++ [.connect m.context reader s.settings.shareMode (codeOf made.1)] := by
    have hcalls := World.calls_call (m.connect native reader s.settings.shareMode) w
    simp only [Manager.connect, hpassable, if_true, noted] at hcalls
    simp only [Session.connect, hcard, hreader]
    exact hcalls
  -- The attempt comes first, and all else is added to it.
  have hnotes : (m.backend native).Notes fun _ => True := .of_forall fun _ => trivial
  rcases (withCard_adds_connect (Q := fun _ => True) hnotes (use_adds hnotes huse) s w).calls with
    ⟨rest, hrest, -⟩
  refine ⟨codeOf made.1, rest, ?_⟩
  rw [ask_eq, huse]
  simp only [reported_calls]
  rw [hrest, hconnect, List.append_assoc, List.singleton_append]

/-- Whatever the resource manager answers, all that a session asks of it tells of
    one connection after the other, and the session holds the one that is open.
    Each was given up once and the card left as it is, unless the card was lost
    or could not be left; if neither ever happens, all were. With no connection
    open, the next operation that uses a card begins with opening one. -/
theorem run_custody (native : Native ν) (m : Manager) (handle : ServiceHandle)
    (settings : Settings) (hardware : ν) (incidents : List (Incident ν)) :
    let p := run (m.backend native) incidents (start handle settings, ⟨hardware, []⟩)
    (∃ past current, Custody native m past current p.2.calls ∧
      (p.1.card.map Card.handle = current.map fun tenure => some tenure.handle) ∧
      (native.Gentle → ∀ tenure parting, .ended tenure parting ∈ past → parting = .left)) ∧
    ∀ access use reader, p.1.card = none → access.use (m.backend native) p.1 = some use →
      p.1.binding.reader = some reader → Manager.isPassable reader = true →
        ∃ code rest, (p.1.ask (m.backend native) access p.2).2.calls =
          p.2.calls ++ .connect m.context reader p.1.settings.shareMode code :: rest := by
  intro p
  have hstart : (start handle settings : Session Pcsc.Card).Tends native m ⟨hardware, []⟩ :=
    .of_none rfl ⟨[], none, Custody.start native m, rfl⟩
  have htends : p.1.Tends native m p.2 := run_tends hstart incidents
  refine ⟨?_, fun access use reader hcard huse hreader hpassable =>
    ask_connects hcard huse hreader hpassable⟩
  rcases htends.custody with ⟨past, current, hcustody, hhandle⟩
  refine ⟨past, current, hcustody, ?_, fun hgentle tenure parting hended => ?_⟩
  · -- A card that the session holds has a handle, so the two are there or not together.
    rcases hcard : p.1.card with _ | card
    · rw [hcard] at hhandle
      cases Option.map_eq_none_iff.mp hhandle
      rfl
    · rcases Option.isSome_iff_exists.mp (htends.isSome card hcard) with ⟨handle, hopen⟩
      rw [hcard, Option.bind_some, hopen] at hhandle
      rcases Option.map_eq_some_iff.mp hhandle with ⟨tenure, rfl, rfl⟩
      rw [Option.map_some, Option.map_some, hopen]
  · exact (hcustody.past _ hended).2.left_of_gentle hgentle

end Session

namespace Simulation

/-- A resource manager whose card fails at every exchange, but stays where it is. -/
def unanswering : Native Nat :=
  { faltering 9 with transmit := fun _ _ _ _ n => (.error (Code.ofError .commError), n) }

theorem unanswering_gentle : unanswering.Gentle where
  leaves _ _ := rfl
  keeps _ _ _ _ _ hfailed := Except.error.inj hfailed ▸ by decide

/-- An exchange fails and the connection is given up. That is one connection, which was
    given up with the card left as it is, and to read the card opens another. -/
theorem run_custody_unanswering :
    let p := Session.run (twoContexts.backend unanswering)
      [.done (.ask (.chipIo [0x00, 0xa4])), .done .disconnect]
      (Session.start 1 (settingsFor "A"), ⟨0, []⟩)
    unanswering.Gentle ∧
      (p.2.calls = [.connect 1 "A" .shared Code.success, .status 1 Code.success,
        .transmit 1 .t1 [0x00, 0xa4] Card.room (Code.ofError .commError),
        .disconnect 1 .leave Code.success]) ∧
      (∃ past, past ≠ [] ∧ Custody unanswering twoContexts past none p.2.calls ∧
        ∀ tenure parting, .ended tenure parting ∈ past → parting = .left) ∧
      ∃ code rest,
        (p.1.ask (twoContexts.backend unanswering) (.read DataSources.chip) p.2).2.calls =
          p.2.calls ++ .connect 1 "A" .shared code :: rest := by
  intro p
  have hcalls : p.2.calls = [.connect 1 "A" .shared Code.success, .status 1 Code.success,
      .transmit 1 .t1 [0x00, 0xa4] Card.room (Code.ofError .commError),
      .disconnect 1 .leave Code.success] := rfl
  have hcard : p.1.card = none := rfl
  have hmode : p.1.settings.shareMode = .shared := rfl
  have hreader : p.1.binding.reader = some "A" := rfl
  rcases Session.run_custody unanswering twoContexts 1 (settingsFor "A") 0
    [.done (.ask (.chipIo [0x00, 0xa4])), .done .disconnect] with
    ⟨⟨past, current, hcustody, hheld, hleft⟩, hconnects⟩
  have hnone : current = none := Option.map_eq_none_iff.mp (hheld.symm.trans (by rw [hcard]; rfl))
  subst hnone
  have hagain := hconnects (.read DataSources.chip) _ "A" hcard rfl hreader (by decide)
  rw [hmode] at hagain
  refine ⟨unanswering_gentle, hcalls, ⟨past, ?_, hcustody, hleft unanswering_gentle⟩, hagain⟩
  rintro rfl
  cases hcalls.symm.trans hcustody.told

/-- A resource manager whose card is taken out before anything is exchanged. -/
def vanishing : Native Nat :=
  { faltering 9 with transmit := fun _ _ _ _ n => (.error (Code.ofError .removedCard), n) }

/-- A resource manager that does not let go of a connection. -/
def clinging : Native Nat :=
  { faltering 9 with disconnect := fun _ _ n => (.error (Code.ofError .commError), n) }

/-- The connection that an exchange has shown to be lost is not given up with the
    card left as it is, but with a reset. One that cannot be given up is given up
    twice, the second time with a reset. -/
theorem reset_at_parting :
    let lost := Session.run (twoContexts.backend vanishing) [.done (.ask (.chipIo [0x00, 0xa4]))]
      (Session.start 1 (settingsFor "A"), ⟨0, []⟩)
    let forced := Session.run (twoContexts.backend clinging)
      [.done (.ask .status), .done .disconnect] (Session.start 1 (settingsFor "A"), ⟨0, []⟩)
    (lost.2.calls = [.connect 1 "A" .shared Code.success, .status 1 Code.success,
        .transmit 1 .t1 [0x00, 0xa4] Card.room (Code.ofError .removedCard),
        .disconnect 1 .reset Code.success]) ∧
      forced.2.calls = [.connect 1 "A" .shared Code.success, .status 1 Code.success,
        .disconnect 1 .leave (Code.ofError .commError),
        .disconnect 1 .reset (Code.ofError .commError)] :=
  ⟨rfl, rfl⟩

end Simulation

end CardHost
