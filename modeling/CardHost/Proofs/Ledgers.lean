import CardHost.Pcsc.Manager
import CardHost.Proofs.Logs
import Mathlib.Data.List.Induction

/-!
# What Was Reported Last

All calls to a resource manager are noted, with what was passed to them and what
they were answered. So what the resource manager has said of its readers can be
read off the notes, without a watcher that hears it: when readers are listed,
nothing is known of them yet, and a report on an entry is what is known of it from
then on. A `Ledger` is kept by this rule, and two things follow from it. One is
what a wait has to be given, which is the last reports without the bit that marks
a change. The other is what changed, which is every report with that bit, next to
the report before it.

The entries of a wait take reports in as well, and `record_entries` says that they
and the ledger go on agreeing. Reports arrive there unchanged as long as they are
made of state bits that are known and a counter, for that is all that is read of
them.

## Main definitions

* `Pcsc.Ledger`: What was reported last.
* `Ledger.after`, `Ledger.baseline`: The ledger of some notes; what the next wait is
  to be given.
* `Ledger.changesIn`: The changes that were reported.
* `Ledger.Restated`: Every wait was given what had been reported last.
* `Native.Reports`: Waits report on all their entries, in bits that are known.

## Theorems

* `outcomeOf_ok`: Reports of known bits arrive unchanged.
* `after_mute`: Calls that make no entry in the ledger.
* `Restated.concat`, `Restated.append`: More calls.
* `record_entries`, `record_changes`: Reports in a wait and in the ledger.
* `wait_returned`: How a wait can return.
* `backend_aside`: Which calls list no readers and wait for none.
-/

namespace CardHost

variable {ν : Type}

namespace ReaderFlags

/-- The two halves make up the word. -/
theorem state_or_count (flags : ReaderFlags) : flags.state ||| ofCount flags.count = flags := by
  refine BitVec.eq_of_getLsbD_eq fun i hi => ?_
  rw [BitVec.getLsbD_or, state, BitVec.getLsbD_and, ofCount, BitVec.getLsbD_append, count,
    BitVec.getLsbD_extractLsb']
  by_cases hlow : i < 16
  · have hmask : (0xFFFF#32).getLsbD i = true := by
      rw [show (0xFFFF#32) = BitVec.setWidth 32 (BitVec.allOnes 16) by decide,
        BitVec.getLsbD_setWidth, BitVec.getLsbD_allOnes, decide_eq_true hi, decide_eq_true hlow]
      rfl
    rw [if_pos hlow, hmask, Bool.and_true, BitVec.getLsbD_zero, Bool.or_false]
  · have hmask : (0xFFFF#32).getLsbD i = false := by
      rw [show (0xFFFF#32) = BitVec.setWidth 32 (BitVec.allOnes 16) by decide,
        BitVec.getLsbD_setWidth, BitVec.getLsbD_allOnes, decide_eq_false hlow, Bool.and_false]
    rw [if_neg hlow, hmask, Bool.and_false, Bool.false_or, decide_eq_true (by omega),
      Bool.true_and, Nat.add_sub_cancel' (by omega)]

end ReaderFlags

namespace Snapshot

/-- An entry with what is known of it. -/
def known (s : Snapshot) : String × ReaderFlags := (s.name, s.current)

end Snapshot

namespace Pcsc

/-- A report of known bits is kept as it is. -/
theorem Manager.flagsOf_known {event : ReaderFlags} (h : event.state = event &&& reportable) :
    flagsOf event = event := by
  rw [flagsOf, ← h]
  exact event.state_or_count

/-- No failure is heard as a report. -/
theorem Manager.outcomeOf_error (e : CardError) (reports : List (ReaderFlags × Bytes)) :
    outcomeOf (.error e) ≠ .ok (.changed reports) := by
  cases e <;> exact fun h => by cases h

/-- Reports of known bits are kept as they are. -/
theorem Manager.outcomeOf_ok {reports : List (ReaderFlags × Bytes)}
    (h : ∀ report ∈ reports, report.1.state = report.1 &&& reportable) :
    outcomeOf (.ok reports) = .ok (.changed reports) := by
  have hsame : reports.map (fun report => (flagsOf report.1, report.2)) = reports.map id :=
    List.map_congr_left fun report hreport =>
      congrArg (·, report.2) (flagsOf_known (h report hreport))
  rw [outcomeOf, hsame, List.map_id]

/-- The names that an answer to a listing stands for, if it does not stand for a
    failure. -/
def Manager.named? (answer : Except Code (List String)) : Option (List String) :=
  match caused answer with
  | .ok names => some (listed names)
  | .error .noReadersAvailable => some []
  | .error _ => none

/-- A change as it is reported. -/
structure Change where
  name : String
  /-- What was known before. -/
  before : ReaderFlags
  event : ReaderFlags
  deriving DecidableEq, Repr

/-- A call that is neither a listing nor a wait. -/
def NativeNote.isAside : NativeNote → Bool
  | list .. | wait .. => false
  | establish _ | releaseContext _ | cancel .. | connect .. | status .. | transmit .. | reconnect ..
  | disconnect .. => true

/-- What a resource manager has last reported. -/
structure Ledger where
  /-- The last report on the list of readers. -/
  list : ReaderFlags
  /-- The readers as they were last listed, each with the last report since then. -/
  readers : List (String × ReaderFlags)
  deriving DecidableEq, Repr

namespace Ledger

/-- Nothing was reported yet. -/
def start : Ledger := ⟨ReaderFlags.unaware, []⟩

/-- All entries, the list of readers first. -/
def entries (l : Ledger) : List (String × ReaderFlags) := (Snapshot.listName, l.list) :: l.readers

/-- What a wait is to be given: the last reports without the mark of a change. -/
def baseline (l : Ledger) : List NativeEntry :=
  l.entries.map fun entry => ⟨entry.1, Bits.without entry.2 ReaderFlags.changed⟩

/-- Readers that are listed are not known yet. -/
def enlist (l : Ledger) (names : List String) : Ledger :=
  { l with readers := names.map fun name => (name, ReaderFlags.unaware) }

/-- Take in a report on each entry. -/
def report (l : Ledger) : List ReaderFlags → Ledger
  | [] => l
  | event :: events => ⟨event, l.readers.zipWith (fun reader event => (reader.1, event)) events⟩

/-- Take in what a call was answered; nothing but listings and reports counts. -/
def note (l : Ledger) : NativeNote → Ledger
  | .list _ answer =>
    match Manager.named? answer with
    | some names => l.enlist names
    | none => l
  | .wait _ _ _ (.ok events) => l.report events
  | _ => l

/-- The ledger of all the calls so far. -/
def after (notes : List NativeNote) : Ledger := notes.foldl note start

/-- Reports next to what was known before. -/
def compare (l : Ledger) (events : List ReaderFlags) : List Change :=
  l.entries.zipWith (fun entry event => ⟨entry.1, entry.2, event⟩) events

/-- The changes that an answer reports, in the order of the entries. -/
def changes (l : Ledger) : NativeNote → List Change
  | .wait _ _ _ (.ok events) =>
    (l.compare events).filter fun change => Bits.contains change.event ReaderFlags.changed
  | _ => []

/-- The changes that were reported in a number of calls. -/
def changesIn (l : Ledger) : List NativeNote → List Change
  | [] => []
  | note :: notes => l.changes note ++ changesIn (l.note note) notes

/-- A call that makes no entry and reports no change. -/
def Mute (note : NativeNote) : Prop := ∀ l : Ledger, l.note note = l ∧ l.changes note = []

/-- Every wait was given what had been reported last. -/
def Restated (notes : List NativeNote) : Prop :=
  ∀ before context timeout entries answer since,
    notes = before ++ .wait context timeout entries answer :: since →
      entries = (after before).baseline

variable {l : Ledger} {notes more : List NativeNote}

theorem after_append (notes more : List NativeNote) :
    after (notes ++ more) = more.foldl note (after notes) := List.foldl_append

theorem changesIn_append (l : Ledger) (notes more : List NativeNote) :
    l.changesIn (notes ++ more) = l.changesIn notes ++ (notes.foldl note l).changesIn more := by
  induction notes generalizing l with
  | nil => rfl
  | cons first notes ih =>
      rw [List.cons_append, changesIn, changesIn, ih, List.append_assoc]
      rfl

theorem foldl_mute (h : ∀ note ∈ more, Mute note) (l : Ledger) : more.foldl note l = l :=
  List.foldlRecOn (motive := (· = l)) _ _ rfl fun l' hl' note hnote =>
    ((h note hnote l').1).trans hl'

theorem changesIn_mute (h : ∀ note ∈ more, Mute note) (l : Ledger) : l.changesIn more = [] := by
  induction more with
  | nil => rfl
  | cons first more ih =>
      rcases h first List.mem_cons_self l with ⟨hnote, hchanges⟩
      rw [changesIn, hchanges, hnote, List.nil_append]
      exact ih fun note hnote => h note (List.mem_cons_of_mem _ hnote)

/-- Calls that make no entry leave the ledger as it was. -/
theorem after_mute (h : ∀ note ∈ more, Mute note) (notes : List NativeNote) :
    after (notes ++ more) = after notes ∧
      start.changesIn (notes ++ more) = start.changesIn notes := by
  refine ⟨(after_append notes more).trans (foldl_mute h _), ?_⟩
  rw [changesIn_append, changesIn_mute h, List.append_nil]

/-- One more call. -/
theorem Restated.concat (h : Restated notes) {note : NativeNote}
    (hwait : ∀ context timeout entries answer, note = .wait context timeout entries answer →
      entries = (after notes).baseline) : Restated (notes ++ [note]) := by
  intro before context timeout entries answer since hsplit
  rcases List.eq_nil_or_concat since with rfl | ⟨since, last, rfl⟩
  · rcases List.append_inj' hsplit rfl with ⟨rfl, hlast⟩
    exact hwait context timeout entries answer (List.singleton_inj.mp hlast)
  · -- The wait is one of those before.
    rw [List.concat_eq_append, ← List.cons_append, ← List.append_assoc] at hsplit
    exact h before context timeout entries answer since (List.append_inj' hsplit rfl).1

theorem mute_of_aside {note : NativeNote} (h : note.isAside = true) : Mute note := by
  cases note with
  | list | wait => cases h
  | establish | releaseContext | cancel | connect | status | transmit | reconnect | disconnect =>
      exact fun _ => ⟨rfl, rfl⟩

/-- Calls in which nothing is waited for. -/
theorem Restated.append (h : Restated notes) (haside : ∀ note ∈ more, note.isAside = true) :
    Restated (notes ++ more) := by
  induction more using List.reverseRecOn with
  | nil =>
      rw [List.append_nil]
      exact h
  | append_singleton more last ih =>
      rw [← List.append_assoc]
      refine (ih fun note hnote => haside note (List.mem_append_left _ hnote)).concat ?_
      rintro context timeout entries answer rfl
      cases haside _ (List.mem_append_right _ List.mem_cons_self)

/-- What is passed for an entry is what is known of it, without the mark. -/
theorem baseline_of_known {entries : List Snapshot} (h : entries.map Snapshot.known = l.entries) :
    entries.map Manager.entryOf = l.baseline := by
  rw [baseline, ← h, List.map_map]
  rfl

end Ledger

end Pcsc

namespace Snapshot

/-- An entry as a change. -/
def change (s : Snapshot) : Pcsc.Change := ⟨s.name, s.current, s.event⟩

/-- Reports that are taken in, next to what was known before. -/
theorem recordAll_change {entries : List Snapshot} {reports : List (ReaderFlags × Bytes)}
    (h : reports.length = entries.length) :
    (recordAll entries reports).map change =
      (entries.map known).zipWith (fun entry event => ⟨entry.1, entry.2, event⟩)
        (reports.map Prod.fst) := by
  induction entries generalizing reports with
  | nil => rw [List.length_eq_zero_iff.mp h]; rfl
  | cons s entries ih =>
      rcases reports with _ | ⟨report, reports⟩
      · cases h
      · exact congrArg (_ :: ·) (ih (Nat.succ.inj h))

end Snapshot

namespace WaitSet

open Pcsc (Ledger)

variable {set : WaitSet} {reports : List (ReaderFlags × Bytes)} {l : Ledger}

theorem entries_record (h : reports.length = set.entries.length) :
    (set.record reports).entries = Snapshot.recordAll set.entries reports := by
  rcases reports with _ | ⟨report, reports⟩
  · cases h
  · rfl

/-- With what is known in agreement, reports leave it so. -/
theorem record_entries (h : reports.length = set.entries.length)
    (hknown : set.entries.map Snapshot.known = l.entries) :
    (set.record reports).adopt.entries.map Snapshot.known =
      (l.report (reports.map Prod.fst)).entries := by
  have hchange := Snapshot.recordAll_change h
  rw [← entries_record h, hknown] at hchange
  have hadopted :=
    congrArg (List.map fun change : Pcsc.Change => (change.name, change.event)) hchange
  rw [List.map_map, List.map_zipWith] at hadopted
  rcases reports with _ | ⟨report, reports⟩
  · cases h
  · rw [show (set.record (report :: reports)).adopt.entries =
      (set.record (report :: reports)).entries.map Snapshot.adopt from rfl, List.map_map]
    exact hadopted

/-- With what is known in agreement, the changes are the same. -/
theorem record_changes (h : reports.length = set.entries.length)
    (hknown : set.entries.map Snapshot.known = l.entries) :
    (set.record reports).changes.map Snapshot.change =
      (l.compare (reports.map Prod.fst)).filter fun change =>
        Bits.contains change.event ReaderFlags.changed := by
  have hchange := Snapshot.recordAll_change h
  rw [← entries_record h, hknown] at hchange
  rw [Ledger.compare, ← hchange, List.filter_map]
  rfl

end WaitSet

namespace Pcsc

variable {native : Native ν} {m : Manager}

/-- A wait that returns with reports has one on each entry, with a counter and
    with state bits that are known. -/
def Native.Reports (native : Native ν) : Prop :=
  ∀ context expired entries s reports s',
    native.statusChange context expired entries s = some (.ok reports, s') →
      reports.length = entries.length ∧
        ∀ report ∈ reports, report.1.state = report.1 &&& Manager.reportable

/-- How a wait can return. -/
inductive Manager.Returned (native : Native ν) (m : Manager) (poll : Poll) (s : ν) :
    Reply ν NativeNote (Except CardError WaitOutcome) → Prop where
  /-- A name that cannot be passed fails it without a call. -/
  | unpassable : Returned native m poll s ⟨.error .unknownReader, s, []⟩
  | answered (answer : Except Code (List (ReaderFlags × Bytes))) (s' : ν)
      (hanswer : native.statusChange m.monitor (poll.ends ≤ poll.now)
        (poll.entries.map entryOf) s = some (answer, s')) :
      Returned native m poll s ⟨outcomeOf (caused answer), s',
        [.wait m.monitor (timeoutNumber poll.timeout) (poll.entries.map entryOf)
          (answer.map fun reports => reports.map Prod.fst)]⟩

theorem Manager.wait_returned {poll : Poll} {s : ν}
    {reply : Reply ν NativeNote (Except CardError WaitOutcome)}
    (h : m.wait native poll s = some reply) : Returned native m poll s reply := by
  rw [wait] at h
  split at h
  · rcases Option.map_eq_some_iff.mp h with ⟨⟨answer, s'⟩, hanswer, rfl⟩
    exact .answered answer s' hanswer
  · cases h
    exact .unpassable

theorem Card.renew_aside (mode : ShareMode) (disposition : Disposition) (card : Card) (s : ν) :
    ∀ note ∈ (card.renew native mode disposition s).notes, note.isAside = true := by
  have hrenewed := card.renew_renewed native mode disposition s
  generalize card.renew native mode disposition s = reply at hrenewed ⊢
  cases hrenewed with
  | unconnected => exact fun _ hnote => absurd hnote List.not_mem_nil
  | failed | done => exact fun _ hnote => List.mem_singleton.mp hnote ▸ rfl

/-- Only the watcher lists and waits. -/
theorem Manager.backend_aside (native : Native ν) (m : Manager) :
    (m.backend native).Notes fun note => note.isAside = true where
  cancel _ _ note hnote := List.mem_singleton.mp hnote ▸ rfl
  connect reader mode s := by
    show ∀ note ∈ (m.connect native reader mode s).notes, _
    have hconnected := m.connect_connected native reader mode s
    generalize m.connect native reader mode s = reply at hconnected ⊢
    cases hconnected with
    | unpassable => exact fun _ hnote => absurd hnote List.not_mem_nil
    | refused | granted => exact fun _ hnote => List.mem_singleton.mp hnote ▸ rfl
  status card s note hnote := by
    simp only [backend, Card.status] at hnote
    split at hnote
    · cases hnote
    · exact List.mem_singleton.mp hnote ▸ rfl
  transmit data card s := by
    show ∀ note ∈ (card.transmit native data s).notes, _
    have hexchanged := card.transmit_exchanged native data s
    generalize card.transmit native data s = reply at hexchanged ⊢
    cases hexchanged with
    | unconnected | mismatched => exact fun _ hnote => absurd hnote List.not_mem_nil
    | answered | failed => exact fun _ hnote => List.mem_singleton.mp hnote ▸ rfl
    | lost =>
        intro note hnote
        rcases List.mem_pair.mp hnote with rfl | rfl <;> rfl
  lock card s := Card.renew_aside _ _ card s
  unlock card s := Card.renew_aside _ _ card s
  reconnect way card s := Card.renew_aside _ _ card s
  release card s := by
    show ∀ note ∈ (card.release native s).notes, _
    have hreleased := card.release_released native s
    generalize card.release native s = reply at hreleased ⊢
    cases hreleased with
    | unconnected => exact fun _ hnote => absurd hnote List.not_mem_nil
    | left => exact fun _ hnote => List.mem_singleton.mp hnote ▸ rfl
    | forced =>
        intro note hnote
        rcases List.mem_pair.mp hnote with rfl | rfl <;> rfl

end Pcsc

end CardHost
