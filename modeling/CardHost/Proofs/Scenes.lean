import CardHost.Settings
import CardHost.Simulation.Backend
import CardHost.Watcher

/-!
# What There Is to See of Readers

Nothing has been asked of the hardware so far: a backend may answer its calls in
any way. What a watcher can know about readers depends on two promises. The
readers that are listed are those that are attached, and a wait that returns
with reports marks an entry as changed exactly when the flags under its name
differ from the baseline, apart from the mark.

A `Scene` is what there is to see, and a backend that keeps the promises shows
it. The hall of simulated readers does.

## Main definitions

* `Scene`: Names and flags of the readers, in each state of the hardware.
* `Scene.differs`, `Scene.report`: What a wait finds.
* `Scene.Shown`: A backend shows what there is to see.
* `Simulation.scene`: What there is to see in a hall.

## Theorems

* `contains_twoPow`: Asking for a single bit.
* `changed_record`, `without_record`: A report, and the baseline it becomes.
* `recordAll_map`: Reports are taken in entry by entry.
* `Simulation.scene_shown`: The hall shows what there is to see.
-/

namespace CardHost

namespace Bits

/-- Asking for a single bit. -/
theorem contains_twoPow {w : Nat} (s : BitVec w) {i : Nat} (hi : i < w) :
    contains s (BitVec.twoPow w i) = s.getLsbD i := by
  rw [Bool.eq_iff_iff, contains_iff]
  constructor
  · intro h
    refine h i ?_
    rw [BitVec.getLsbD_twoPow, decide_eq_true hi, decide_eq_true rfl, Bool.and_self]
  · intro h j hj
    rw [BitVec.getLsbD_twoPow, Bool.and_eq_true, decide_eq_true_eq, decide_eq_true_eq] at hj
    exact hj.2 ▸ h

/-- Taking a single bit out of a set it was put into. -/
theorem without_or {w : Nat} (s t : BitVec w) : without (s ||| t) t = without s t := by
  refine BitVec.eq_of_getLsbD_eq fun i hi => ?_
  simp only [without, BitVec.getLsbD_and, BitVec.getLsbD_or, BitVec.getLsbD_not, hi, decide_true,
    Bool.true_and]
  cases t.getLsbD i with
  | false => rw [Bool.or_false]
  | true => rw [Bool.not_true, Bool.and_false, Bool.and_false]

/-- Taking a bit out of a set it is not in. -/
theorem without_of_contains {w : Nat} {s : BitVec w} {i : Nat} (hi : i < w)
    (h : contains s (BitVec.twoPow w i) = false) : without s (BitVec.twoPow w i) = s := by
  rw [contains_twoPow s hi] at h
  refine BitVec.eq_of_getLsbD_eq fun j hj => ?_
  simp only [without, BitVec.getLsbD_and, BitVec.getLsbD_not, BitVec.getLsbD_twoPow, hj, hi,
    decide_true, Bool.true_and]
  by_cases hij : i = j
  · subst hij
    rw [h, Bool.false_and]
  · rw [decide_eq_false hij, Bool.not_false, Bool.and_true]

end Bits

/-- What there is to see of readers, in each state of the hardware. -/
structure Scene (σ : Type) where
  /-- The names of the attached readers, in their order. -/
  names : σ → List String
  /-- The flags under a name. -/
  flags : σ → String → ReaderFlags
  /-- The answer to reset under a name. -/
  atr : σ → String → Bytes
  /-- The list of readers does not carry the mark of a change on its own. -/
  unmarked : ∀ hardware,
    Bits.contains (flags hardware Snapshot.listName) ReaderFlags.changed = false

namespace Scene

variable {σ κ ε : Type} (scene : Scene σ) (hardware : σ)

/-- Whether an entry differs from its baseline, apart from the mark of a
    change. -/
def differs (s : Snapshot) : Bool :=
  scene.flags hardware s.name != Bits.without s.current ReaderFlags.changed

/-- What a wait reports about an entry. -/
def report (s : Snapshot) : ReaderFlags × Bytes :=
  let flags := scene.flags hardware s.name
  (if scene.differs hardware s then flags ||| ReaderFlags.changed else flags,
   scene.atr hardware s.name)

/-- A backend shows what there is to see: it lists the readers that are
    attached, and a wait that returns with reports has one for each entry. -/
structure Shown (b : Backend σ κ ε) : Prop where
  list : ∀ hardware names, (b.list hardware).value = .ok names → names = scene.names hardware
  wait : ∀ poll hardware reports,
    (b.wait poll hardware).map Reply.value = some (.ok (.changed reports)) →
      reports = poll.entries.map (scene.report hardware)

/-- An entry after its report. -/
def recorded (s : Snapshot) : Snapshot :=
  s.record (scene.report hardware s).1 (scene.report hardware s).2

variable {scene hardware} {s : Snapshot}

/-- A report marks an entry that differs. -/
theorem changed_of_differs (h : scene.differs hardware s = true) :
    (scene.recorded hardware s).changed = true := by
  rw [Snapshot.changed, recorded, report, Snapshot.record, if_pos h]
  refine (Bits.contains_iff _ _).mpr fun i hi => ?_
  rw [BitVec.getLsbD_or, hi, Bool.or_true]

/-- A report marks no other entry, unless it carries the mark on its own. -/
theorem changed_recorded
    (h : Bits.contains (scene.flags hardware s.name) ReaderFlags.changed = false) :
    (scene.recorded hardware s).changed = scene.differs hardware s := by
  cases hdiffers : scene.differs hardware s with
  | true => exact changed_of_differs hdiffers
  | false =>
      rw [Snapshot.changed, recorded, report, Snapshot.record, hdiffers]
      exact h

/-- The report becomes a baseline that the entry does not differ from. -/
theorem without_adopt
    (h : Bits.contains (scene.flags hardware s.name) ReaderFlags.changed = false) :
    Bits.without (scene.recorded hardware s).adopt.current ReaderFlags.changed =
      scene.flags hardware s.name := by
  have hsame : Bits.without (scene.flags hardware s.name) ReaderFlags.changed =
      scene.flags hardware s.name := Bits.without_of_contains (i := 1) (by decide) h
  rw [Snapshot.adopt, recorded, report, Snapshot.record]
  simp only
  split
  · rw [Bits.without_or, hsame]
  · exact hsame

end Scene

/-- Reports are taken in entry by entry. -/
theorem Snapshot.recordAll_map (entries : List Snapshot)
    (report : Snapshot → ReaderFlags × Bytes) :
    recordAll entries (entries.map report) =
      entries.map fun s => s.record (report s).1 (report s).2 := by
  induction entries with
  | nil => rfl
  | cons s rest ih => rw [List.map_cons, List.map_cons, recordAll, ih]

namespace Simulation

/-- A hall with one reader. -/
def oneReader : Hall := { readers := [⟨"A", none, 0#32, 0#16⟩] }

/-- The hall at a moment of a run in which it becomes another after some moves,
    and another still after some more. -/
def hallAt (hall hall' hall'' : Hall) (first second moment : Nat) : Hall :=
  if moment ≤ first then hall else if moment ≤ second then hall' else hall''

/-- A logical service that is configured to work with a reader. -/
def configuredTo (reader : String) : Config :=
  { logicalServices := [("L", ⟨"p"⟩)]
    serviceProviders := [("p", { readerName := some reader })] }

/-- The settings of a service that is configured so. -/
def settingsFor (reader : String) : Settings :=
  Settings.ofProvider "L" "p" (configuredTo reader)

/-- What there is to see in a hall. -/
def scene : Scene Hall where
  names := Hall.names
  flags := Hall.flags
  atr := Hall.atr
  unmarked hall := by
    rw [Hall.flags, if_pos rfl]
    refine (Bits.contains_twoPow (i := 1) _ (by decide)).trans ?_
    rw [ReaderFlags.ofCount, BitVec.getLsbD_append, if_pos (by decide)]
    rfl

/-- Away from the list of readers, there is to see what the readers show. -/
theorem flags_of_readers {hall hall' : Hall} (h : hall.readers = hall'.readers) {name : String}
    (hname : name ≠ Snapshot.listName) : hall.flags name = hall'.flags name := by
  rw [Hall.flags, Hall.flags, Hall.reader?, Hall.reader?, h, if_neg hname, if_neg hname]

/-- A call that is not made to fail leaves the script as it is. -/
theorem takeFailure_none {hall hall' : Hall} {call : CallKind}
    (h : hall.takeFailure call = (none, hall')) : hall' = hall := by
  rw [Hall.takeFailure] at h
  split at h
  · exact (congrArg Prod.snd h).symm
  · cases h

/-- Only the script of a hall changes while a wait returns. -/
theorem report_waitOutcome {hall hall' : Hall} {expired : Bool} {entries : List Snapshot}
    {outcome : ForcedWait} (h : hall.waitOutcome expired entries = some (outcome, hall')) :
    hall'.report = scene.report hall := by
  rw [Hall.waitOutcome] at h
  split at h
  · cases h
    rfl
  · split at h
    · cases h
      rfl
    · split at h
      · cases h
        rfl
      · split at h
        · cases h
          rfl
        · cases h

/-- The hall shows what there is to see. -/
theorem scene_shown : scene.Shown backend where
  list hall names h := by
    simp only [backend, noted, Hall.attempt] at h
    split at h
    · cases h
    · next hall' hnone =>
        cases takeFailure_none hnone
        cases h
        rfl
  wait poll hall reports h := by
    simp only [backend, wait] at h
    split at h
    · cases h
    · next hall' hnone =>
        cases takeFailure_none hnone
        rw [Option.map_map] at h
        rcases Option.map_eq_some_iff.mp h with ⟨⟨outcome, hall'⟩, houtcome, hvalue⟩
        cases outcome with
        | changed =>
            cases hvalue
            rw [report_waitOutcome houtcome]
        | timedOut | cancelled => cases hvalue

end Simulation

end CardHost
