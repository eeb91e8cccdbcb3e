import CardHost.Provider

/-!
# Commands as Numbers and Bytes

A client may name a command by its number and hand over a buffer, which is then read.
The numbers of the class appear in several places: where a number is looked up, where a
command is built from it, and where the number is told again in the completion. And a
buffer may be too short, or too long, or hold a word that means nothing.

`Stands` is the table of the class on one page, as a client has it: each number, what
has to be in the buffer, and the command. A word is two bytes, the low one first, and
whatever comes after it does not matter. `Malformed` has the buffers without a command,
and there are only two numbers that have such. Reading is exact if it follows the table,
and refuses just what is malformed. Everything else is in the table: that the number is
told again, and that a command that was read is written down in a form from which it is
read again.

To execute what was read is to execute the command.

## Main definitions

* `littleEndian`: The word in two bytes.
* `Command.Stands`: A number and a buffer stand for a command.
* `Command.Malformed`: They stand for none.

## Theorems

* `ofNumber?_eq_none_iff`: The numbers outside of the class.
* `decode_eq_ok_iff`, `decode_eq_error_iff`: What is read, and what is refused.
* `Stands.code_eq`, `Stands.decode_data`: A command that was read is written down again.
* `executeRaw_exact`: A raw command is the command it stands for.
-/

namespace CardHost

/-- The word in two bytes, the low one first. -/
def littleEndian (low high : UInt8) : BitVec 16 := BitVec.ofNat 16 (low.toNat + 256 * high.toNat)

theorem wordOf?_cons (low high : UInt8) (rest : Bytes) :
    wordOf? (low :: high :: rest) = some (littleEndian low high) := by
  refine congrArg some (BitVec.eq_of_toNat_eq ?_)
  have hlow := low.toNat_lt
  have hhigh := high.toNat_lt
  rw [BitVec.toNat_append, littleEndian, BitVec.toNat_ofNat, Nat.mod_eq_of_lt (by omega),
    ← Nat.shiftLeft_add_eq_or_of_lt low.toBitVec.isLt, Nat.shiftLeft_eq]
  show high.toNat * 2 ^ 8 + low.toNat = low.toNat + 256 * high.toNat
  omega

theorem wordOf?_of_short {data : Bytes} (h : data.length < 2) : wordOf? data = none := by
  match data with
  | [] | [_] => rfl
  | _ :: _ :: _ => exact absurd h (by simp only [List.length_cons]; omega)

/-- Every number from the first of the class to the last names a command. -/
theorem CommandCode.exists_number {code : UInt32} (hfirst : 201 ≤ code) (hlast : code ≤ 212) :
    ∃ command ∈ all, command.number = code := by
  have hnamed : ∀ n ∈ List.range' 201 12, ∃ command ∈ all, command.number.toNat = n := by decide
  rw [UInt32.le_iff_toNat_le] at hfirst hlast
  rcases hnamed code.toNat (List.mem_range'_1.mpr ⟨hfirst, Nat.lt_succ_of_le hlast⟩) with
    ⟨command, hmem, hnumber⟩
  exact ⟨command, hmem, UInt32.toNat_inj.mp hnumber⟩

/-- The numbers below and above name none. -/
theorem CommandCode.ofNumber?_eq_none_iff {code : UInt32} :
    ofNumber? code = none ↔ code < 201 ∨ 212 < code := by
  rw [ofNumber?, List.find?_eq_none]
  constructor
  · intro hnone
    refine Decidable.byContradiction fun hinside => ?_
    rw [not_or, UInt32.not_lt, UInt32.not_lt] at hinside
    rcases exists_number hinside.1 hinside.2 with ⟨command, hmem, hnumber⟩
    exact hnone command hmem (beq_iff_eq.mpr hnumber)
  · intro houtside command _ hmatch
    have heq : command.number = code := beq_iff_eq.mp hmatch
    subst heq
    cases command <;> revert houtside <;> decide

/-- The words that name no action. -/
theorem PowerAction.ofWord?_eq_none_iff {word : BitVec 16} :
    ofWord? word = none ↔ word ∉ [0x2#16, 0x4#16, 0x8#16] := by
  have hwords : all.map PowerAction.word = [0x2#16, 0x4#16, 0x8#16] := rfl
  rw [ofWord?, List.find?_eq_none, ← hwords, List.mem_map]
  constructor
  · rintro hnone ⟨action, hmem, haction⟩
    exact hnone action hmem (beq_iff_eq.mpr haction)
  · intro hnone action hmem hmatch
    exact hnone ⟨action, hmem, beq_iff_eq.mp hmatch⟩

namespace Command

/-- A number and a buffer stand for a command. -/
inductive Stands : UInt32 → Bytes → Command → Prop where
  | readTrack (data : Bytes) : Stands 201 data (.unsupported .readTrack)
  | writeTrack (data : Bytes) : Stands 202 data (.unsupported .writeTrack)
  | ejectCard (data : Bytes) : Stands 203 data .ejectCard
  | retainCard (data : Bytes) : Stands 204 data (.unsupported .retainCard)
  | resetCount (data : Bytes) : Stands 205 data (.unsupported .resetCount)
  | setKey (data : Bytes) : Stands 206 data (.unsupported .setKey)
  /-- Of the word only the four bits count that are sources. -/
  | readRawData (low high : UInt8) (rest : Bytes) :
      Stands 207 (low :: high :: rest) (.readRawData (littleEndian low high &&& 0xf#16))
  | writeRawData (data : Bytes) : Stands 208 data (.unsupported .writeRawData)
  | chipIo (data : Bytes) : Stands 209 data (.chipIo data)
  | reset (data : Bytes) : Stands 210 data .reset
  | cold {low high : UInt8} (rest : Bytes) (hword : littleEndian low high = 0x2#16) :
      Stands 211 (low :: high :: rest) (.chipPower .cold)
  | warm {low high : UInt8} (rest : Bytes) (hword : littleEndian low high = 0x4#16) :
      Stands 211 (low :: high :: rest) (.chipPower .warm)
  | off {low high : UInt8} (rest : Bytes) (hword : littleEndian low high = 0x8#16) :
      Stands 211 (low :: high :: rest) (.chipPower .off)
  | parseData (data : Bytes) : Stands 212 data (.unsupported .parseData)
  | unknown {code : UInt32} (houtside : code < 201 ∨ 212 < code) (data : Bytes) :
      Stands code data (.unknown code)

/-- A number and a buffer stand for no command. -/
inductive Malformed : UInt32 → Bytes → Prop where
  /-- There is no word for the sources to read. -/
  | sources {data : Bytes} (hshort : data.length < 2) : Malformed 207 data
  /-- There is no word for what to do with the power. -/
  | power {data : Bytes} (hshort : data.length < 2) : Malformed 211 data
  /-- There is a word, but it says nothing about the power. -/
  | action {low high : UInt8} (rest : Bytes)
      (hword : littleEndian low high ∉ [0x2#16, 0x4#16, 0x8#16]) :
      Malformed 211 (low :: high :: rest)

variable {code : UInt32} {data : Bytes} {command : Command} {e : HostError}

theorem decode_unknown (houtside : code < 201 ∨ 212 < code) (data : Bytes) :
    decode code data = .ok (.unknown code) := by
  rw [decode, CommandCode.ofNumber?_eq_none_iff.mpr houtside]

theorem decode_readRawData (data : Bytes) :
    decode 207 data = match wordOf? data with
      | some word => .ok (.readRawData (word &&& 0xf#16))
      | none => .error (.malformedCommand 207) := rfl

theorem decode_chipPower (data : Bytes) :
    decode 211 data = match (wordOf? data).bind PowerAction.ofWord? with
      | some action => .ok (.chipPower action)
      | none => .error (.malformedCommand 211) := rfl

/-- What stands for a command is read as that command. -/
theorem Stands.decode_eq (h : Stands code data command) : decode code data = .ok command := by
  cases h with
  | readTrack | writeTrack | ejectCard | retainCard | resetCount | setKey | writeRawData | chipIo
  | reset | parseData => rfl
  | readRawData low high rest => rw [decode_readRawData, wordOf?_cons]
  | cold rest hword | warm rest hword | off rest hword =>
      rw [decode_chipPower, wordOf?_cons, hword]
      rfl
  | unknown houtside => exact decode_unknown houtside data

/-- What is malformed is refused. -/
theorem Malformed.decode_eq (h : Malformed code data) :
    decode code data = .error (.malformedCommand code) := by
  cases h with
  | sources hshort => rw [decode_readRawData, wordOf?_of_short hshort]
  | power hshort =>
      rw [decode_chipPower, wordOf?_of_short hshort]
      rfl
  | action rest hword =>
      rw [decode_chipPower, wordOf?_cons, Option.bind_some,
        PowerAction.ofWord?_eq_none_iff.mpr hword]

/-- There is nothing else. -/
theorem stands_or_malformed (code : UInt32) (data : Bytes) :
    (∃ command, Stands code data command) ∨ Malformed code data := by
  rcases hcode : CommandCode.ofNumber? code with _ | name
  · exact .inl ⟨_, .unknown (CommandCode.ofNumber?_eq_none_iff.mp hcode) data⟩
  · obtain rfl := CommandCode.number_of_ofNumber? hcode
    cases name with
    | readTrack => exact .inl ⟨_, .readTrack data⟩
    | writeTrack => exact .inl ⟨_, .writeTrack data⟩
    | ejectCard => exact .inl ⟨_, .ejectCard data⟩
    | retainCard => exact .inl ⟨_, .retainCard data⟩
    | resetCount => exact .inl ⟨_, .resetCount data⟩
    | setKey => exact .inl ⟨_, .setKey data⟩
    | writeRawData => exact .inl ⟨_, .writeRawData data⟩
    | chipIo => exact .inl ⟨_, .chipIo data⟩
    | reset => exact .inl ⟨_, .reset data⟩
    | parseData => exact .inl ⟨_, .parseData data⟩
    | readRawData =>
        match data with
        | [] => exact .inr (.sources Nat.zero_lt_two)
        | [_] => exact .inr (.sources Nat.one_lt_two)
        | low :: high :: rest => exact .inl ⟨_, .readRawData low high rest⟩
    | chipPower =>
        match data with
        | [] => exact .inr (.power Nat.zero_lt_two)
        | [_] => exact .inr (.power Nat.one_lt_two)
        | low :: high :: rest =>
            by_cases hword : littleEndian low high ∈ [0x2#16, 0x4#16, 0x8#16]
            · simp only [List.mem_cons, List.not_mem_nil, or_false] at hword
              rcases hword with hword | hword | hword
              · exact .inl ⟨_, .cold rest hword⟩
              · exact .inl ⟨_, .warm rest hword⟩
              · exact .inl ⟨_, .off rest hword⟩
            · exact .inr (.action rest hword)

/-- What is read is what a number and a buffer stand for. -/
theorem decode_eq_ok_iff : decode code data = .ok command ↔ Stands code data command := by
  constructor
  · intro hdecode
    rcases stands_or_malformed code data with ⟨command', hstands⟩ | hmalformed
    · rw [hstands.decode_eq] at hdecode
      cases hdecode
      exact hstands
    · rw [hmalformed.decode_eq] at hdecode
      cases hdecode
  · exact Stands.decode_eq

/-- What is refused is what is malformed. -/
theorem decode_eq_error_iff :
    decode code data = .error e ↔ Malformed code data ∧ e = .malformedCommand code := by
  constructor
  · intro hdecode
    rcases stands_or_malformed code data with ⟨command', hstands⟩ | hmalformed
    · rw [hstands.decode_eq] at hdecode
      cases hdecode
    · rw [hmalformed.decode_eq] at hdecode
      cases hdecode
      exact ⟨hmalformed, rfl⟩
  · rintro ⟨hmalformed, rfl⟩
    exact hmalformed.decode_eq

/-- The number that is told again is the number that was given. -/
theorem Stands.code_eq (h : Stands code data command) : command.code = code := by
  cases h <;> rfl

theorem wordOf?_bytesOf_eq (word : BitVec 16) : wordOf? (bytesOf word) = some word := by
  rw [← List.append_nil (bytesOf word), wordOf?_bytesOf]

/-- A command that was read is read again from what is written down of it. -/
theorem Stands.decode_data (h : Stands code data command) :
    decode command.code command.data = .ok command := by
  cases h with
  | readTrack | writeTrack | ejectCard | retainCard | resetCount | setKey | writeRawData | chipIo
  | reset | parseData | cold | warm | off => rfl
  | readRawData low high rest =>
      -- The bits that are no sources were dropped already.
      show decode 207 (bytesOf (littleEndian low high &&& 0xf#16)) = _
      rw [decode_readRawData, wordOf?_bytesOf_eq]
      simp only [BitVec.and_assoc, BitVec.and_self]
  | unknown houtside => exact decode_unknown houtside []

end Command

namespace Provider

variable {σ κ ε : Type} {b : Backend σ κ ε} {p : Provider σ κ ε}

variable {code : UInt32} {data : Bytes}

/-- To execute what was read is to execute the command. -/
theorem executeRaw_of_ok {command : Command} (hdecode : Command.decode code data = .ok command)
    (call : Call) (now : Instant) (timeout : Option Duration) :
    p.executeRaw b call now timeout code data = p.execute b call now timeout command := by
  rw [executeRaw]
  rcases hopen : p.hub.session? call.service with _ | session
  · rw [execute, hopen]
  · rw [hdecode]

/-- What is refused changes nothing. -/
theorem executeRaw_of_error {e : HostError} (hdecode : Command.decode code data = .error e)
    (call : Call) (now : Instant) (timeout : Option Duration) :
    p.executeRaw b call now timeout code data =
      (if (p.hub.session? call.service).isSome then e.result else .invalidHService, p) := by
  rw [executeRaw]
  rcases p.hub.session? call.service with _ | session
  · rfl
  · rw [hdecode]
    rfl

/-- A raw command is the command it stands for, whatever the number and the bytes. It
    is read as a command exactly if the table has it as that command, and is refused
    exactly if it is malformed. What was read tells its number again, and is read again
    from the number and the buffer that it is written down in. To execute the raw
    command is to execute what was read: the same answer, the same messages, the same
    state of everything. And what is refused changes nothing. -/
theorem executeRaw_exact (b : Backend σ κ ε) (call : Call) (now : Instant)
    (timeout : Option Duration) (code : UInt32) (data : Bytes) (p : Provider σ κ ε) :
    (∀ command, Command.decode code data = .ok command ↔ Command.Stands code data command) ∧
      ((∃ e, Command.decode code data = .error e) ↔ Command.Malformed code data) ∧
      match Command.decode code data with
      | .ok command => command.code = code ∧
          Command.decode command.code command.data = .ok command ∧
          p.executeRaw b call now timeout code data = p.execute b call now timeout command
      | .error e => e = .malformedCommand code ∧
          p.executeRaw b call now timeout code data =
            (if (p.hub.session? call.service).isSome then .invalidData else .invalidHService,
              p) := by
  refine ⟨fun command => Command.decode_eq_ok_iff, ?_, ?_⟩
  · simp only [Command.decode_eq_error_iff, exists_and_left, exists_eq, and_true]
  · rcases hdecode : Command.decode code data with e | command
    · obtain rfl := (Command.decode_eq_error_iff.mp hdecode).2
      exact ⟨rfl, executeRaw_of_error hdecode call now timeout⟩
    · have hstands := Command.decode_eq_ok_iff.mp hdecode
      exact ⟨hstands.code_eq, hstands.decode_data, executeRaw_of_ok hdecode call now timeout⟩

end Provider

end CardHost
