import CardHost.Proofs.Unserved
import Mathlib.Data.List.Chain

/-!
# Cards Come and Go in Turn

Five questions are asked of an entry and its report, and each looks at a different part
of the two words. Asked of one report they hardly have anything to do with each other.
Asked of report after report, each adopted before the next, they tell the story of a
reader in which there is never more than one card: none comes before the last one is
gone, and none goes that did not come.

For that a report has to carry the mark of a change if anything changed. It may carry it
without a change too, and the mark that the baseline was adopted with does not matter.

A single equation has all of it: what comes in, and what was in, is what goes out, and
what is in. A card that took the place of another counts on both sides.

Where the reports come from does not matter for that. If they are what there is to see of
the hardware, the marks are as they should be, and each reader of a wait set has a story
of this kind, in whatever states the hardware is when the waits return.

## Main definitions

* `Snapshot.Marked`: A report that carries the mark of a change if there is one.
* `Snapshot.history`, `WaitSet.history`: An entry at each report, each adopted before the
  next; all entries of a wait.
* `Snapshot.TakesTurns`: In these reports insertions and removals take turns.
* `Scene.reports`, `Scene.rounds`: What is reported in some states of the hardware on an
  entry; on a wait set.

## Theorems

* `contains_diff`: Whether a card came or went can be seen from the changed bits.
* `Marked.balance`: The equation for one report.
* `history_adopts`: What is adopted is what the next report starts from.
* `balance_adopts`: The equation for any number of reports.
* `wasPresent_of_kept`: Without a report about it a card stays where it is.
* `takesTurns_of_marked`, `insertions_alternate`: Insertions and removals take turns.
* `WaitSet.history_entry`: Each entry of a wait has such a history.
* `Scene.history_marked`: The reports of every reader there is to see are marked.
* `Scene.readers_take_turns`: So it is with the readers of every wait set.
-/

namespace CardHost

namespace Snapshot

/-- A report carries the mark of a change if the state or the counter differs from the
    baseline. -/
def Marked (s : Snapshot) : Prop :=
  s.diff ≠ 0#32 ∨ s.current.count ≠ s.count → s.changed = true

instance (s : Snapshot) : Decidable s.Marked :=
  inferInstanceAs (Decidable (s.diff ≠ 0#32 ∨ s.current.count ≠ s.count → s.changed = true))

/-- The entry at each report of a wait, each adopted before the next. -/
def history (s : Snapshot) : List (ReaderFlags × Bytes) → List Snapshot
  | [] => []
  | report :: reports =>
    let s := s.record report.1 report.2
    s :: s.adopt.history reports

/-- The next report starts from this one. -/
def Adopts (s s' : Snapshot) : Prop := s'.current = s.event

variable {s s' : Snapshot}

/-- Nothing is known at first, of the report as of the baseline. -/
theorem present_unaware (name : String) : (unaware name).present = false := wasPresent_unaware name

/-- Whether there is a card is one of the bits of the state. -/
theorem contains_diff (s : Snapshot) :
    Bits.contains s.diff ReaderFlags.present = (s.wasPresent != s.present) := by
  have hbit (flags : ReaderFlags) :
      Bits.contains flags ReaderFlags.present = flags.getLsbD 5 :=
    Bits.contains_twoPow (i := 5) flags (by decide)
  rw [wasPresent, present, hbit, hbit, hbit, diff, Bits.without, ReaderFlags.state,
    ReaderFlags.state]
  simp only [BitVec.getLsbD_and, BitVec.getLsbD_xor]
  simp [ReaderFlags.changed]

theorem present_of_inserted (h : s.inserted = true) : s.present = true := by
  simp only [inserted, Bool.and_eq_true] at h
  exact h.1.2

theorem gone_of_removed (h : s.removed = true) : s.wasPresent = true ∧ s.present = false := by
  simp only [removed, Bool.and_eq_true, Bool.not_eq_true'] at h
  exact ⟨h.1.2, h.2⟩

/-- A card cannot come and be gone. -/
theorem removed_of_inserted (h : s.inserted = true) : s.removed = false := by
  rw [removed, present_of_inserted h, Bool.not_true, Bool.and_false]

/-- A card that came where one was took its place. -/
theorem replaced_of_inserted (h : s.inserted = true) (hwas : s.wasPresent = true) :
    s.replaced = true := by
  rw [inserted, hwas, Bool.not_true, Bool.false_or, Bool.and_eq_true] at h
  exact h.2

/-- If only other bits changed, no card came or went. -/
theorem unmoved_of_diff (hdiff : Bits.contains s.diff ReaderFlags.present = false)
    (hcount : s.current.count = s.count) : s.inserted = false ∧ s.removed = false := by
  have hsame : s.wasPresent = s.present :=
    bne_eq_false_iff_eq.mp ((contains_diff s).symm.trans hdiff)
  have hreplaced : s.replaced = false := by
    rw [replaced, ← count, hcount, bne_self_eq_false, Bool.and_false]
  -- Without a replacement only a card that was not there before can be inserted.
  rw [inserted, removed, hreplaced, hsame]
  cases s.present <;> simp only [Bool.not_true, Bool.not_false, Bool.or_false, Bool.and_false,
    Bool.false_and, and_self]

namespace Marked

/-- Without the mark of a change there is a card if there was one, and it is the same. -/
theorem same_of_unchanged (h : s.Marked) (hunchanged : s.changed = false) :
    s.wasPresent = s.present ∧ s.current.count = s.count := by
  have hsame : ¬(s.diff ≠ 0#32 ∨ s.current.count ≠ s.count) := fun hdiffers =>
    Bool.eq_false_iff.mp hunchanged (h hdiffers)
  rw [not_or, not_not, not_not] at hsame
  have hbit := contains_diff s
  rw [hsame.1] at hbit
  exact ⟨bne_eq_false_iff_eq.mp hbit.symm, hsame.2⟩

/-- What came in, and was in, is what went out, and is in. -/
theorem balance (h : s.Marked) :
    s.inserted.toNat + s.wasPresent.toNat =
      s.removed.toNat + s.replaced.toNat + s.present.toNat := by
  rw [inserted, removed, replaced]
  cases hchanged : s.changed with
  | false =>
      -- All three are refused for want of the mark, and there is nothing to account for.
      rw [(h.same_of_unchanged hchanged).1]
      rfl
  | true =>
      cases s.present <;> cases s.wasPresent <;> cases s.current.count != s.event.count <;> rfl

/-- A card that was in and did not go out is in. -/
theorem present_of_kept (h : s.Marked) (hwas : s.wasPresent = true) (hkept : s.removed = false) :
    s.present = true := by
  cases hchanged : s.changed with
  | false => rw [← (h.same_of_unchanged hchanged).1, hwas]
  | true =>
      rw [removed, hchanged, hwas, Bool.true_and, Bool.true_and, Bool.not_eq_false'] at hkept
      exact hkept

/-- If no card was in and none came in, none is. -/
theorem absent_of_kept (h : s.Marked) (hwas : s.wasPresent = false) (hkept : s.inserted = false) :
    s.present = false := by
  cases hchanged : s.changed with
  | false => rw [← (h.same_of_unchanged hchanged).1, hwas]
  | true =>
      rw [inserted, hchanged, hwas, Bool.not_false, Bool.true_or, Bool.true_and, Bool.and_true]
        at hkept
      exact hkept

end Marked

/-- The first report starts from the entry. -/
theorem current_of_head_history {reports : List (ReaderFlags × Bytes)}
    (h : s' ∈ (s.history reports).head?) : s'.current = s.current := by
  cases reports with
  | nil => cases h
  | cons report reports =>
      cases h
      rfl

/-- Every report but the first starts from the one before. -/
theorem history_adopts (s : Snapshot) (reports : List (ReaderFlags × Bytes)) :
    (s.history reports).IsChain Adopts := by
  induction reports generalizing s with
  | nil => exact .nil
  | cons report reports ih =>
      exact List.isChain_cons.mpr ⟨fun s' => current_of_head_history, ih _⟩

/-- What came in, and was in at first, is what went out, and is in at last. -/
theorem balance_adopts {reports : List Snapshot} (hadopts : (s :: reports).IsChain Adopts)
    (hmarked : ∀ s ∈ reports, s.Marked) :
    reports.countP inserted + s.present.toNat =
      reports.countP removed + reports.countP replaced + (reports.getLastD s).present.toNat := by
  induction reports generalizing s with
  | nil => rfl
  | cons s' reports ih =>
      rcases List.isChain_cons_cons.mp hadopts with ⟨hadopt, hrest⟩
      have hfirst := (hmarked s' List.mem_cons_self).balance
      have hothers := ih hrest fun s hs => hmarked s (List.mem_cons_of_mem _ hs)
      -- What was in for this report is what is in after the one before.
      have hwas : s'.wasPresent = s.present := congrArg (Bits.contains · ReaderFlags.present) hadopt
      have hcount (p : Snapshot → Bool) :
          (s' :: reports).countP p = reports.countP p + (p s').toNat := by
        rw [List.countP_cons]
        cases p s' <;> rfl
      rw [hwas] at hfirst
      rw [hcount, hcount, hcount, List.getLastD_cons]
      omega

/-- From one report to another a card stays as it is, in or out, if all reports between
    them leave it so. -/
theorem wasPresent_of_kept {between : List Snapshot} {isIn : Bool}
    (hadopts : (s :: (between ++ [s'])).IsChain Adopts) (hfirst : s.present = isIn)
    (hkept : ∀ s ∈ between, s.wasPresent = isIn → s.present = isIn) : s'.wasPresent = isIn := by
  induction between generalizing s with
  | nil =>
      have hadopt : Adopts s s' := List.isChain_pair.mp hadopts
      rw [wasPresent, hadopt]
      exact hfirst
  | cons t between ih =>
      rcases List.isChain_cons_cons.mp hadopts with ⟨hadopt, hrest⟩
      have hwas : t.wasPresent = isIn := by
        rw [wasPresent, hadopt]
        exact hfirst
      exact ih hrest (hkept t List.mem_cons_self hwas) fun s hs =>
        hkept s (List.mem_cons_of_mem _ hs)

/-- Between two insertions there is a removal, if the second is no replacement. -/
theorem removed_between {first second : Snapshot} {between : List Snapshot}
    (hadopts : (first :: (between ++ [second])).IsChain Adopts)
    (hmarked : ∀ s ∈ between, s.Marked) (hfirst : first.inserted = true)
    (hsecond : second.inserted = true) :
    second.replaced = true ∨ ∃ s ∈ between, s.removed = true := by
  by_cases hbetween : ∃ s ∈ between, s.removed = true
  · exact .inr hbetween
  · have hstays : ∀ s ∈ between, s.wasPresent = true → s.present = true := fun s hs hwas =>
      (hmarked s hs).present_of_kept hwas (Bool.eq_false_iff.mpr fun hout => hbetween ⟨s, hs, hout⟩)
    exact .inl (replaced_of_inserted hsecond
      (wasPresent_of_kept hadopts (present_of_inserted hfirst) hstays))

/-- Between two removals there is an insertion. -/
theorem inserted_between {first second : Snapshot} {between : List Snapshot}
    (hadopts : (first :: (between ++ [second])).IsChain Adopts)
    (hmarked : ∀ s ∈ between, s.Marked) (hfirst : first.removed = true)
    (hsecond : second.removed = true) : ∃ s ∈ between, s.inserted = true := by
  by_contra hbetween
  have hstays : ∀ s ∈ between, s.wasPresent = false → s.present = false := fun s hs hwas =>
    (hmarked s hs).absent_of_kept hwas (Bool.eq_false_iff.mpr fun hin => hbetween ⟨s, hs, hin⟩)
  have hnone := wasPresent_of_kept hadopts (gone_of_removed hfirst).2 hstays
  exact Bool.eq_false_iff.mp hnone (gone_of_removed hsecond).1

/-- In the reports on an entry insertions and removals take turns, and in the beginning
    there was no card. -/
structure TakesTurns (history : List Snapshot) : Prop where
  /-- No report is an insertion and a removal, a replacement is an insertion, and if the
      bits that changed are others, with the counter as it was, it is none of these. -/
  one : ∀ s ∈ history,
    (s.inserted = true → s.removed = false) ∧ (s.replaced = true → s.inserted = true) ∧
      (Bits.contains s.diff ReaderFlags.present = false → s.current.count = s.count →
        s.inserted = false ∧ s.removed = false)
  /-- Between two of a kind there is one of the other, or the second is a replacement. -/
  turns : ∀ before first between second after,
    history = before ++ first :: between ++ second :: after →
      (first.inserted = true → second.inserted = true →
        second.replaced = true ∨ ∃ s ∈ between, s.removed = true) ∧
      (first.removed = true → second.removed = true → ∃ s ∈ between, s.inserted = true)
  /-- There is a card whenever one more came than went. -/
  balance : ∀ sofar, sofar <+: history →
    sofar.countP inserted =
      sofar.countP removed + sofar.countP replaced + (sofar.getLast?.any present).toNat

/-- It is so in any reports that carry the mark of a change if there is one. -/
theorem takesTurns_of_marked (name : String) {reports : List (ReaderFlags × Bytes)}
    (hmarked : ∀ s ∈ (unaware name).history reports, s.Marked) :
    TakesTurns ((unaware name).history reports) where
  one s _ := ⟨removed_of_inserted, s.inserted_of_replaced, unmoved_of_diff⟩
  turns before first between second after hsplit := by
    rw [List.append_assoc, List.cons_append] at hsplit
    have hchain : (before ++ first :: (between ++ second :: after)).IsChain Adopts :=
      hsplit ▸ history_adopts (unaware name) reports
    have hadopts := (List.isChain_cons_split.mp (List.isChain_split.mp hchain).2).1
    have hbetween : ∀ s ∈ between, s.Marked := fun s hs => hmarked s <| by
      rw [hsplit]
      exact List.mem_append_right _ (List.mem_cons_of_mem _ (List.mem_append_left _ hs))
    exact ⟨removed_between hadopts hbetween, inserted_between hadopts hbetween⟩
  balance sofar hsofar := by
    -- The entry itself stands for a report before the first, which finds no card.
    have hadopts : (unaware name :: (unaware name).history reports).IsChain Adopts :=
      List.isChain_cons.mpr ⟨fun s => current_of_head_history, history_adopts _ reports⟩
    rcases hsofar with ⟨rest, hrest⟩
    rw [← hrest, ← List.cons_append] at hadopts
    have hearlier : ∀ s ∈ sofar, s ∈ (unaware name).history reports := fun s hs =>
      hrest ▸ List.mem_append_left rest hs
    have hbalance := balance_adopts hadopts.left_of_append fun s hs => hmarked s (hearlier s hs)
    have hlast : (sofar.getLastD (unaware name)).present = sofar.getLast?.any present := by
      rw [List.getLastD_eq_getLast?]
      cases sofar.getLast? with
      | none => exact present_unaware name
      | some last => rfl
    rw [hlast, present_unaware] at hbalance
    exact hbalance

/-- Insertions and removals take turns. An entry starts with nothing known about it, and
    reports come in, each adopted before the next, that carry the mark of a change if there
    is one. Then no report is an insertion and a removal, a replacement is an insertion,
    and if the bits that changed are others, with the counter as it was, it is none of
    these. Between two insertions there is a removal, or the second is a replacement;
    between two removals there is an insertion. After any of the reports there is a card if
    one more came than went, counting a replacement on both sides, and none if as many
    came as went. -/
theorem insertions_alternate (name : String) (reports : List (ReaderFlags × Bytes))
    (hmarked : ∀ s ∈ (unaware name).history reports, s.Marked) :
    let history := (unaware name).history reports
    (∀ s ∈ history,
      (s.inserted = true → s.removed = false) ∧ (s.replaced = true → s.inserted = true) ∧
        (Bits.contains s.diff ReaderFlags.present = false → s.current.count = s.count →
          s.inserted = false ∧ s.removed = false)) ∧
    (∀ before first between second after,
      history = before ++ first :: between ++ second :: after →
        (first.inserted = true → second.inserted = true →
          second.replaced = true ∨ ∃ s ∈ between, s.removed = true) ∧
        (first.removed = true → second.removed = true → ∃ s ∈ between, s.inserted = true)) ∧
    ∀ sofar, sofar <+: history →
      sofar.countP inserted =
        sofar.countP removed + sofar.countP replaced + (sofar.getLast?.any present).toNat := by
  have hturns := takesTurns_of_marked name hmarked
  exact ⟨hturns.one, hturns.turns, hturns.balance⟩

/-- A card comes, another takes its place, that one is used, it goes, and comes back. Three
    came by then and two went, so there is one. -/
theorem insertions_alternate_swap :
    let reports : List (ReaderFlags × Bytes) :=
      [(0x12#32, []), (0x10022#32, [0x3b]), (0x30022#32, [0x3b]), (0x30122#32, [0x3b]),
        (0x40012#32, []), (0x50022#32, [0x3b])]
    let history := (unaware "A").history reports
    (∀ s ∈ history, s.Marked) ∧ history.countP inserted = 3 ∧ history.countP removed = 1 ∧
      history.countP replaced = 1 ∧ history.getLast?.any present = true := by
  intro reports history
  have hmarked : ∀ s ∈ history, s.Marked := by decide
  have hinserted : history.countP inserted = 3 := by decide
  have hremoved : history.countP removed = 1 := by decide
  have hreplaced : history.countP replaced = 1 := by decide
  refine ⟨hmarked, hinserted, hremoved, hreplaced, ?_⟩
  have hbalance := (insertions_alternate "A" reports hmarked).2.2 history (List.prefix_refl _)
  rw [hinserted, hremoved, hreplaced] at hbalance
  cases hpresent : history.getLast?.any present with
  | true => rfl
  | false =>
      rw [hpresent] at hbalance
      cases hbalance

/-- Words that only the mark tells apart have the same state, but for the mark, and the
    same counter. -/
theorem same_of_without (h : Bits.without s.current ReaderFlags.changed =
    Bits.without s.event ReaderFlags.changed) : s.diff = 0#32 ∧ s.current.count = s.count := by
  constructor
  · refine BitVec.eq_of_getLsbD_eq fun i hlt => ?_
    rw [diff, Bits.without, ReaderFlags.state, ReaderFlags.state, BitVec.getLsbD_and,
      BitVec.getLsbD_xor, BitVec.getLsbD_and, BitVec.getLsbD_and, BitVec.getLsbD_not,
      BitVec.getLsbD_zero]
    by_cases hmark : i = 1
    · have hset : ReaderFlags.changed.getLsbD i = true := hmark ▸ by decide
      rw [hset, Bool.not_true, Bool.and_false, Bool.and_false]
    · have hbit : s.current.getLsbD i = s.event.getLsbD i := by
        rw [← ReaderFlags.getLsbD_without_changed s.current hlt hmark, h,
          ReaderFlags.getLsbD_without_changed s.event hlt hmark]
      rw [hbit, Bool.xor_self, Bool.false_and]
  · rw [count, ← ReaderFlags.count_without_changed, h, ReaderFlags.count_without_changed]

theorem getElem?_recordAll {entries : List Snapshot} {reports : List (ReaderFlags × Bytes)}
    {report : ReaderFlags × Bytes} {i : Nat} (hentry : entries[i]? = some s)
    (hreport : reports[i]? = some report) :
    (recordAll entries reports)[i]? = some (s.record report.1 report.2) := by
  induction entries generalizing reports i with
  | nil => cases hentry
  | cons first entries ih =>
      cases reports with
      | nil => cases hreport
      | cons _ reports =>
          cases i with
          | zero =>
              cases hentry
              cases hreport
              rfl
          | succ i => exact ih hentry hreport

end Snapshot

namespace WaitSet

/-- The entries of a wait in one round after the other, each adopted before the next. -/
def history (set : WaitSet) : List (List (ReaderFlags × Bytes)) → List WaitSet
  | [] => []
  | reports :: rounds =>
    let set := set.record reports
    set :: set.adopt.history rounds

/-- One of the entries has the history of the reports on it, whatever the others have. -/
theorem history_entry {set : WaitSet} {rounds : List (List (ReaderFlags × Bytes))}
    {reports : List (ReaderFlags × Bytes)} {s : Snapshot} {i : Nat}
    (hentry : set.entries[i]? = some s) (hreports : rounds.map (·[i]?) = reports.map some) :
    (set.history rounds).map (·.entries[i]?) = (s.history reports).map some := by
  induction rounds generalizing set reports s with
  | nil =>
      cases reports with
      | nil => rfl
      | cons _ _ => cases hreports
  | cons round rounds ih =>
      cases reports with
      | nil => cases hreports
      | cons report reports =>
          rw [List.map_cons, List.map_cons, List.cons.injEq] at hreports
          have hrecorded : (set.record round).entries[i]? = some (s.record report.1 report.2) := by
            cases round with
            | nil => cases hreports.1
            | cons _ _ => exact Snapshot.getElem?_recordAll hentry hreports.1
          have hadopted : (set.record round).adopt.entries[i]? =
              some (s.record report.1 report.2).adopt := by
            show ((set.record round).entries.map Snapshot.adopt)[i]? = _
            rw [List.getElem?_map, hrecorded]
            rfl
          exact congrArg₂ List.cons hrecorded (ih hadopted hreports.2)

end WaitSet

namespace Scene

variable {σ : Type} (scene : Scene σ)

/-- The reports on an entry in some states of the hardware, each adopted before the next. -/
def reports (scene : Scene σ) (s : Snapshot) : List σ → List (ReaderFlags × Bytes)
  | [] => []
  | hardware :: rest =>
    scene.report hardware s :: reports scene (scene.recorded hardware s).adopt rest

/-- The reports on a wait set in some states of the hardware, each adopted before the
    next. -/
def rounds (scene : Scene σ) (set : WaitSet) : List σ → List (List (ReaderFlags × Bytes))
  | [] => []
  | hardware :: rest =>
    let reports := set.entries.map (scene.report hardware)
    reports :: rounds scene (set.record reports).adopt rest

/-- The report on a reader that there is to see is marked. -/
theorem recorded_marked (hardware : σ) (s : Snapshot) : (scene.recorded hardware s).Marked := by
  intro hmoved
  cases hdiffers : scene.differs hardware s with
  | true => exact changed_of_differs hdiffers
  | false =>
      have hsame :
          (scene.recorded hardware s).event = Bits.without s.current ReaderFlags.changed := by
        rw [recorded, report, hdiffers]
        exact bne_eq_false_iff_eq.mp hdiffers
      have hwords : Bits.without (scene.recorded hardware s).current ReaderFlags.changed =
          Bits.without (scene.recorded hardware s).event ReaderFlags.changed := by
        rw [hsame, Bits.without, Bits.without, Bits.without, BitVec.and_assoc, BitVec.and_self]
        rfl
      rcases Snapshot.same_of_without hwords with ⟨hdiff, hcount⟩
      rcases hmoved with hmoved | hmoved
      · exact absurd hdiff hmoved
      · exact absurd hcount hmoved

/-- So are all reports on it, whatever becomes of the hardware. -/
theorem history_marked (s : Snapshot) (states : List σ) :
    ∀ s' ∈ s.history (scene.reports s states), s'.Marked := by
  induction states generalizing s with
  | nil => exact fun s' hs' => nomatch hs'
  | cons hardware rest ih =>
      intro s' hs'
      rcases List.mem_cons.mp hs' with rfl | hrest
      · exact scene.recorded_marked hardware s
      · exact ih _ s' hrest

/-- In a wait set an entry is reported on as if there were no others. -/
theorem rounds_entry {set : WaitSet} {s : Snapshot} {i : Nat} (hentry : set.entries[i]? = some s)
    (states : List σ) :
    (scene.rounds set states).map (·[i]?) = (scene.reports s states).map some := by
  induction states generalizing set s with
  | nil => rfl
  | cons hardware rest ih =>
      have hreport : (set.entries.map (scene.report hardware))[i]? =
          some (scene.report hardware s) := by
        rw [List.getElem?_map, hentry]
        rfl
      have hadopted : (set.record (set.entries.map (scene.report hardware))).adopt.entries[i]? =
          some (scene.recorded hardware s).adopt := by
        rw [WaitSet.record_scene]
        show ((set.entries.map (scene.recorded hardware)).map Snapshot.adopt)[i]? = _
        rw [List.getElem?_map, List.getElem?_map, hentry]
        rfl
      exact congrArg₂ List.cons hreport (ih hadopted)

/-- The readers of a list that are waited on, in whatever states the hardware is when the
    waits return, are each reported on in turns. -/
theorem readers_take_turns (list : Snapshot) {names : List String} {name : String} {i : Nat}
    (hname : names[i]? = some name) (states : List σ) :
    let set := WaitSet.ofNames list names
    ∃ history : List Snapshot, Snapshot.TakesTurns history ∧
      (set.history (scene.rounds set states)).map (·.readers[i]?) = history.map some := by
  intro set
  have hentry : set.entries[i + 1]? = some (Snapshot.unaware name) := by
    show (names.map Snapshot.unaware)[i]? = _
    rw [List.getElem?_map, hname]
    rfl
  exact ⟨_, Snapshot.takesTurns_of_marked name (scene.history_marked _ states),
    WaitSet.history_entry hentry (scene.rounds_entry hentry states)⟩

end Scene

end CardHost
