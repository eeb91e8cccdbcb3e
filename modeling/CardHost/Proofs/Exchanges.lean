import CardHost.Proofs.Operations
import CardHost.Proofs.Scenes

/-!
# What Is Sent to a Chip

A command for a chip is a header of four bytes, and after it perhaps a length, as many
bytes of data, and the length of the answer expected. Whether the last byte of a command
is data or the length expected can only be told by counting. A session that is to make
up for readers that pass that length on over the byte protocol has to count right: one
byte more or less and the card gets another command than it was sent.

`CutsLe` is the one shape that is cut. It has the bytes by name, and no arithmetic but
that there are as many bytes of data as their length says. `Sent` adds when it is cut,
by the settings of the session and the protocol agreed with the card. What the session
computes with lengths and positions is shown to be that. What is left of a command that
was cut has the shape of one with data and nothing expected, which is never cut, and
that is why a second cut does nothing.

The computation looks at a byte and takes a part, and both might be out of range.
`stripLe?` is the same with every access checked, and no check ever fails.

## Main definitions

* `CutsLe`: A command with data and a length expected, and the same without the latter.
* `Uncut`: The other shapes of a command.
* `stripLe?`: The cut with all accesses checked.
* `Session.Sent`: What is sent for a command.
* `ReportedAs`: The set in which a protocol is reported.
* `Session.Exchanged`: How an exchange with a card can go.

## Theorems

* `stripLe_spec`: What is cut, and what is not.
* `stripLe_stripLe`: A second cut does nothing.
* `stripLe?_eq`: No access is out of range.
* `corrected_eq_iff`: What a session computes is what is to be sent.
* `chipIo_exact`: An exchange over any card.
-/

namespace CardHost

/-- A command with a header, a length, as many bytes of data, and the length of the
    answer expected; and the same command without the last. -/
inductive CutsLe : Bytes → Bytes → Prop where
  | cut (cla ins p1 p2 : UInt8) {length : UInt8} {data : Bytes} (expected : UInt8)
      (hlength : length ≠ 0) (hdata : data.length = length.toNat) :
      CutsLe (cla :: ins :: p1 :: p2 :: length :: (data ++ [expected]))
        (cla :: ins :: p1 :: p2 :: length :: data)

/-- The shapes that are not to be cut. -/
inductive Uncut : Bytes → Prop where
  /-- A header and nothing else. -/
  | header (cla ins p1 p2 : UInt8) : Uncut [cla, ins, p1, p2]
  /-- A header and a length expected. -/
  | expecting (cla ins p1 p2 expected : UInt8) : Uncut [cla, ins, p1, p2, expected]
  /-- A header, a length and as many bytes of data. -/
  | sending (cla ins p1 p2 : UInt8) {length : UInt8} {data : Bytes}
      (hdata : data.length = length.toNat) : Uncut (cla :: ins :: p1 :: p2 :: length :: data)
  /-- The extended form, where the fifth byte is zero and lengths come after it. -/
  | extended (cla ins p1 p2 : UInt8) (rest : Bytes) : Uncut (cla :: ins :: p1 :: p2 :: 0 :: rest)

variable {command sent : Bytes}

/-- What is left has data and expects nothing. -/
theorem CutsLe.uncut (h : CutsLe command sent) : Uncut sent := by
  cases h with
  | cut cla ins p1 p2 expected hlength hdata => exact .sending cla ins p1 p2 hdata

theorem CutsLe.length_eq (h : CutsLe command sent) : command.length = sent.length + 1 := by
  cases h with
  | cut => simp only [List.length_cons, List.length_append, List.length_nil]

/-- None of the other shapes is the one that is cut. -/
theorem Uncut.not_cutsLe (h : Uncut command) : ¬ CutsLe command sent := by
  intro hcut
  generalize hcommand : command = command' at hcut
  cases hcut with
  | @cut cla ins p1 p2 length data expected hlength hdata =>
      have hlong : command.length = 5 + (length.toNat + 1) := by
        rw [hcommand]
        simp only [List.length_cons, List.length_append, List.length_nil, hdata]
        omega
      cases h with
      | header | expecting => simp only [List.length_cons, List.length_nil] at hlong; omega
      | sending cla ins p1 p2 hdata' =>
          simp only [List.cons.injEq] at hcommand
          simp only [List.length_cons, hdata', hcommand.2.2.2.2.1] at hlong
          omega
      | extended cla ins p1 p2 rest =>
          simp only [List.cons.injEq] at hcommand
          exact hlength hcommand.2.2.2.2.1.symm

/-- A command of the shape is cut. -/
theorem CutsLe.stripLe_eq (h : CutsLe command sent) : stripLe command = sent := by
  have hlong := h.length_eq
  cases h with
  | @cut cla ins p1 p2 length data expected hlength hdata =>
      have hsent : (cla :: ins :: p1 :: p2 :: length :: data).length = 5 + length.toNat := by
        simp only [List.length_cons, hdata]
        omega
      have hpos : 0 < length.toNat :=
        Nat.pos_of_ne_zero fun hzero => hlength (UInt8.toNat_inj.mp hzero)
      rw [hsent] at hlong
      have htake : (cla :: ins :: p1 :: p2 :: length :: data ++ [expected]).take
          (5 + length.toNat) = cla :: ins :: p1 :: p2 :: length :: data := List.take_left' hsent
      exact (if_pos ⟨hpos, hlong⟩).trans htake

/-- A command that is long enough for its length and one byte more is of the shape. -/
theorem cutsLe_of_length {command : Bytes} (hpos : 0 < (command.getD 4 0).toNat)
    (hlong : command.length = 5 + (command.getD 4 0).toNat + 1) :
    ∃ sent, CutsLe command sent := by
  rcases command with _ | ⟨cla, _ | ⟨ins, _ | ⟨p1, _ | ⟨p2, _ | ⟨length, rest⟩⟩⟩⟩⟩
  iterate 5 exact absurd hpos (Nat.lt_irrefl 0)
  simp only [List.getD_cons_succ, List.getD_cons_zero, List.length_cons] at hpos hlong
  -- The byte that is one too many is the last.
  have hrest : rest ≠ [] := List.ne_nil_of_length_pos (by omega)
  have hlength : length ≠ 0 := fun hzero => absurd hpos (by rw [hzero]; exact Nat.lt_irrefl 0)
  rw [← List.dropLast_concat_getLast hrest]
  refine ⟨_, .cut cla ins p1 p2 _ hlength ?_⟩
  rw [List.length_dropLast]
  omega

/-- What is cut is a command of the shape, and no other. -/
theorem stripLe_spec (command : Bytes) :
    CutsLe command (stripLe command) ∨
      stripLe command = command ∧ ∀ sent, ¬ CutsLe command sent := by
  by_cases hshape : 0 < (command.getD 4 0).toNat ∧
      command.length = 5 + (command.getD 4 0).toNat + 1
  · rcases cutsLe_of_length hshape.1 hshape.2 with ⟨sent, hcut⟩
    exact .inl (hcut.stripLe_eq.symm ▸ hcut)
  · have hsame : stripLe command = command := if_neg hshape
    refine .inr ⟨hsame, fun sent hcut => ?_⟩
    have hshort := hcut.length_eq
    rw [← hcut.stripLe_eq, hsame] at hshort
    omega

theorem Uncut.stripLe_eq (h : Uncut command) : stripLe command = command :=
  (stripLe_spec command).elim (fun hcut => absurd hcut h.not_cutsLe) fun hsame => hsame.1

/-- A second cut does nothing. -/
theorem stripLe_stripLe (command : Bytes) : stripLe (stripLe command) = stripLe command := by
  rcases stripLe_spec command with hcut | ⟨hsame, -⟩
  · exact hcut.uncut.stripLe_eq
  · rw [hsame, hsame]

/-- The header, the length and the data are all there. -/
theorem take_stripLe (command : Bytes) :
    (stripLe command).take (5 + (command.getD 4 0).toNat) =
      command.take (5 + (command.getD 4 0).toNat) := by
  rw [stripLe]
  split
  · exact List.take_take.trans (by rw [Nat.min_self])
  · rfl

/-- The first so many bytes, if there are as many. -/
def upTo? (n : Nat) (command : Bytes) : Option Bytes :=
  if n ≤ command.length then some (command.take n) else none

/-- The cut with every access checked. -/
def stripLe? (command : Bytes) : Option Bytes :=
  if 5 < command.length then do
    let length := (← command[4]?).toNat
    if 0 < length ∧ command.length = 5 + length + 1 then upTo? (5 + length) command
    else some command
  else some command

/-- No access is out of range. -/
theorem stripLe?_eq (command : Bytes) : stripLe? command = some (stripLe command) := by
  rw [stripLe?, stripLe]
  split
  · next hlong =>
      have hfifth : command[4]? = some (command.getD 4 0) := by
        rw [List.getD_eq_getElem?_getD, List.getElem?_eq_getElem (by omega), Option.getD_some]
      rw [hfifth]
      show (if _ ∧ _ then _ else _) = _
      split
      · next hshape => exact if_pos (by omega)
      · rfl
  · next hshort => rw [if_neg (by omega)]

/-- The set in which a protocol is reported: the byte protocol has the first bit and the
    block protocol the second, and a raw exchange is made under neither. -/
inductive ReportedAs : Option Protocol → BitVec 16 → Prop where
  | t0 : ReportedAs (some .t0) 0x1#16
  | t1 : ReportedAs (some .t1) 0x2#16
  | raw : ReportedAs (some .raw) 0x0#16
  | unknown : ReportedAs none 0x0#16

theorem reportedAs_ofProtocol (protocol : Option Protocol) :
    ReportedAs protocol (ChipProtocols.ofProtocol protocol) := by
  rcases protocol with _ | _ | _ | _
  · exact .unknown
  · exact .t0
  · exact .t1
  · exact .raw

namespace Session

variable {workarounds : Workarounds} {protocol : Option Protocol}

/-- What is sent for a command, by the settings and the protocol. -/
inductive Sent (workarounds : Workarounds) (protocol : Option Protocol) (command : Bytes) :
    Bytes → Prop where
  | cut {sent : Bytes} (hon : workarounds.correctChipIo = true) (hprotocol : protocol = some .t0)
      (hcut : CutsLe command sent) : Sent workarounds protocol command sent
  | whole (hnot : ¬ (workarounds.correctChipIo = true ∧ protocol = some .t0 ∧
      ∃ sent, CutsLe command sent)) : Sent workarounds protocol command command

theorem corrected_sent (workarounds : Workarounds) (protocol : Option Protocol)
    (command : Bytes) :
    Sent workarounds protocol command (corrected workarounds protocol command) := by
  rw [corrected]
  split
  · next hcuts =>
      rw [Bool.and_eq_true, beq_iff_eq] at hcuts
      rcases stripLe_spec command with hcut | ⟨hsame, hnone⟩
      · exact .cut hcuts.1 hcuts.2 hcut
      · rw [hsame]
        exact .whole fun hcut => hcut.2.2.elim hnone
  · next hcuts =>
      rw [Bool.and_eq_true, beq_iff_eq] at hcuts
      exact .whole fun hcut => hcuts ⟨hcut.1, hcut.2.1⟩

/-- What a session computes is what is to be sent. -/
theorem corrected_eq_iff :
    corrected workarounds protocol command = sent ↔ Sent workarounds protocol command sent := by
  have hcorrected := corrected_sent workarounds protocol command
  constructor
  · intro heq
    exact heq ▸ hcorrected
  · intro hsent
    generalize corrected workarounds protocol command = sent' at hcorrected
    -- Either both are cut, and in the same place, or neither is.
    cases hsent with
    | cut hon hprotocol hcut =>
        cases hcorrected with
        | cut _ _ hcut' => exact hcut'.stripLe_eq.symm.trans hcut.stripLe_eq
        | whole hnot => exact absurd ⟨hon, hprotocol, _, hcut⟩ hnot
    | whole hnot =>
        cases hcorrected with
        | cut hon hprotocol hcut => exact absurd ⟨hon, hprotocol, _, hcut⟩ hnot
        | whole => rfl

/-- What is sent is a command of another shape, or it was not to be cut. -/
theorem corrected_corrected (workarounds : Workarounds) (protocol : Option Protocol)
    (command : Bytes) :
    corrected workarounds protocol (corrected workarounds protocol command) =
      corrected workarounds protocol command := by
  simp only [corrected]
  split
  · exact stripLe_stripLe command
  · rfl

theorem corrected_of_uncut (h : Uncut command) :
    corrected workarounds protocol command = command := by
  rw [corrected, h.stripLe_eq, ite_self]

theorem take_corrected (workarounds : Workarounds) (protocol : Option Protocol)
    (command : Bytes) :
    (corrected workarounds protocol command).take (5 + (command.getD 4 0).toNat) =
      command.take (5 + (command.getD 4 0).toNat) := by
  rw [corrected]
  split
  · exact take_stripLe command
  · rfl

variable {σ κ ε : Type}

/-- How the exchange of a command with a card can go. -/
inductive Exchanged (b : Backend σ κ ε) (workarounds : Workarounds) (command : Bytes) (card : κ)
    (w : World σ ε) : (Except CardError ChipIo × κ) × World σ ε → Prop where
  /-- The protocol cannot be had, and nothing is sent. -/
  | unsent {e : CardError} {card' : κ} {w' : World σ ε}
      (hstatus : w.call (b.status card) = ((.error e, card'), w')) :
      Exchanged b workarounds command card w ((.error e, card'), w')
  /-- The command is sent, and fails. -/
  | failed {status : CardStatus} {card' card'' : κ} {w' w'' : World σ ε} {sent : Bytes}
      {e : CardError} (hstatus : w.call (b.status card) = ((.ok status, card'), w'))
      (hsent : Sent workarounds status.protocol command sent)
      (htransmit : w'.call (b.transmit sent card') = ((.error e, card''), w'')) :
      Exchanged b workarounds command card w ((.error e, card''), w'')
  /-- The command is sent, and the card answers. The protocol that is reported is the
      one that the command was made to fit. -/
  | answered {status : CardStatus} {card' card'' : κ} {w' w'' : World σ ε} {sent data : Bytes}
      {protocols : BitVec 16} (hstatus : w.call (b.status card) = ((.ok status, card'), w'))
      (hsent : Sent workarounds status.protocol command sent)
      (htransmit : w'.call (b.transmit sent card') = ((.ok data, card''), w''))
      (hprotocols : ReportedAs status.protocol protocols) :
      Exchanged b workarounds command card w ((.ok ⟨protocols, data⟩, card''), w'')

theorem exchange_exchanged (b : Backend σ κ ε) (workarounds : Workarounds) (command : Bytes)
    (card : κ) (w : World σ ε) : Exchanged b workarounds command card w
      (CardUse.exchange b workarounds command card w) := by
  rw [CardUse.exchange]
  rcases hstatus : w.call (b.status card) with ⟨⟨e | status, card'⟩, w'⟩
  · exact .unsent hstatus
  · have hsent := corrected_sent workarounds status.protocol command
    simp only
    rcases htransmit : w'.call (b.transmit _ card') with ⟨⟨e | data, card''⟩, w''⟩
    · exact .failed hstatus hsent htransmit
    · exact .answered hstatus hsent htransmit (reportedAs_ofProtocol status.protocol)

/-- The exchange of a command, over any card, on any session. The session connects if
    it has to, and then one exchange is made: the status is asked for, and `Sent` says
    what is sent once the protocol is known. Its protocol and the answer of the card are
    what is reported. No access to the bytes of a command is out of range. What is sent
    is the command itself for all shapes but the one that is cut, has the header, the
    length and the data of the command in any case, and would be sent as it is. -/
theorem chipIo_exact (b : Backend σ κ ε) (command : Bytes) (s : Session κ) (w : World σ ε) :
    (∃ use : CardUse σ κ ε ChipIo,
      (∀ card w, Exchanged b s.settings.workarounds command card w (use card w)) ∧
        let (answer, s', w') := s.chipIo b command w
        Outcome b use s w answer s' w') ∧
      stripLe? command = some (stripLe command) ∧
      stripLe (stripLe command) = stripLe command ∧
      ∀ workarounds protocol,
        let sent := corrected workarounds protocol command
        (∀ sent', Sent workarounds protocol command sent' ↔ sent' = sent) ∧
          (Uncut command → sent = command) ∧
          sent.take (5 + (command.getD 4 0).toNat) = command.take (5 + (command.getD 4 0).toNat) ∧
          corrected workarounds protocol sent = sent := by
  refine ⟨⟨CardUse.exchange b s.settings.workarounds command, ?_, ?_⟩, stripLe?_eq command,
    stripLe_stripLe command, fun workarounds protocol => ⟨fun sent' => ?_, corrected_of_uncut,
      take_corrected workarounds protocol command,
      corrected_corrected workarounds protocol command⟩⟩
  · exact exchange_exchanged b s.settings.workarounds command
  · exact withCard_outcome b (CardUse.exchange b s.settings.workarounds command) s w
  · rw [← corrected_eq_iff, eq_comm]

end Session

namespace Simulation

/-- A file is selected, and nothing expected. -/
def selecting : Bytes := [0x00, 0xa4, 0x04, 0x00, 0x02, 0x3f, 0x00]

/-- It is sent as it is, with all of its data, and with a length expected it is sent
    without. -/
theorem chipIo_exact_selecting :
    let workarounds : Workarounds := { correctChipIo := true }
    Uncut selecting ∧ Session.corrected workarounds (some .t0) selecting = selecting ∧
      Session.corrected workarounds (some .t0) (selecting ++ [0x00]) = selecting := by
  intro workarounds
  have huncut : Uncut selecting := .sending 0x00 0xa4 0x04 0x00 rfl
  have hcut : CutsLe (selecting ++ [0x00]) selecting :=
    .cut 0x00 0xa4 0x04 0x00 0x00 (by decide) rfl
  have hexact := fun command => (Session.chipIo_exact backend command
    (Session.start 1 (settingsFor "A")) { hardware := {} }).2.2.2 workarounds (some .t0)
  exact ⟨huncut, (hexact selecting).2.1 huncut,
    (((hexact (selecting ++ [0x00])).1 selecting).mp (.cut rfl rfl hcut)).symm⟩

end Simulation

end CardHost
