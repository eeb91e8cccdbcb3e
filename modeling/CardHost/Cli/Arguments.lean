import CardHost.Decimal.Digits

/-!
# Arguments of the Command Line

What the words after the name of the program ask for. Options come in a long
form and perhaps in a short one, of which several can be joined. The value of
an option follows it as an argument of its own or in the same one. A value of
its own never begins with a dash; an argument of two dashes makes everything
behind it plain words. No option is given twice.

The options of the program stand before the name of the command, those of the
command behind it.

## Main definitions

* `Flag`: An option.
* `split`: Arguments as options and words.
* `Task`, `Request`, `Invocation`: What can be asked for.
* `Invocation.parse`: What arguments ask for.
-/

namespace CardHost

namespace Cli

/-- An option. -/
structure Flag where
  name : String
  /-- The letter of its short form. -/
  letter : Option Char := none
  /-- It takes a value. -/
  valued : Bool := true
  deriving DecidableEq, Repr

/-- An option as it was given; without a value the text is empty. -/
abbrev Given := String × String

/-- What an argument is. -/
inductive Piece where
  /-- Options, and perhaps one more that takes the next argument as its
      value. -/
  | options (given : List Given) (next : Option String)
  | word
  /-- The end of all options. -/
  | terminator
  deriving DecidableEq, Repr

/-- An option in its long form, without the dashes. -/
def longOption (flags : List Flag) (body : List Char) : Option Piece := do
  let name := String.ofList (body.takeWhile (· != '='))
  let flag ← flags.find? (·.name == name)
  match body.dropWhile (· != '=') with
  | [] => if flag.valued then some (.options [] (some name)) else some (.options [(name, "")] none)
  | _ :: value => if flag.valued then some (.options [(name, String.ofList value)] none) else none

/-- Options in their short form, without the dash. -/
def shortOptions (flags : List Flag) : List Char → Option Piece
  | [] => some (.options [] none)
  | letter :: rest => do
    let flag ← flags.find? (·.letter == some letter)
    if flag.valued then
      match rest with
      | [] => return .options [] (some flag.name)
      | '=' :: value | value => return .options [(flag.name, String.ofList value)] none
    else
      match ← shortOptions flags rest with
      | .options given next => return .options ((flag.name, "") :: given) next
      | other => return other

/-- What an argument is; `none` for an option that does not exist. -/
def classify (flags : List Flag) (argument : String) : Option Piece :=
  match argument.toList with
  | ['-', '-'] => some .terminator
  | '-' :: '-' :: body => longOption flags body
  | ['-'] => some .word
  | '-' :: body => shortOptions flags body
  | _ => some .word

/-- Arguments taken apart. -/
structure Parts where
  given : List Given
  words : List String
  deriving DecidableEq, Repr

/-- Options and words, with an option that waits for its value. With `stop` the
    first word ends the options, and everything from there on is words. -/
def split (flags : List Flag) (stop : Bool) : Option String → List String → Option Parts
  | none, [] => some ⟨[], []⟩
  | some _, [] => none
  | waiting, argument :: rest =>
    match classify flags argument, waiting with
    | some .word, some name => do
      let parts ← split flags stop none rest
      return { parts with given := (name, argument) :: parts.given }
    | some .word, none =>
      if stop then some ⟨[], argument :: rest⟩
      else do
        let parts ← split flags stop none rest
        return { parts with words := argument :: parts.words }
    | some (.options given next), none => do
      let parts ← split flags stop next rest
      return { parts with given := given ++ parts.given }
    | some .terminator, none => if stop then none else some ⟨[], rest⟩
    | _, _ => none

/-- Options and words, if no option is given twice. -/
def partsOf (flags : List Flag) (stop : Bool) (arguments : List String) : Option Parts := do
  let parts ← split flags stop none arguments
  if (parts.given.map Prod.fst).Nodup then some parts else none

/-- The value that was given for an option. -/
def Parts.value? (parts : Parts) (name : String) : Option String := parts.given.lookup name

/-- A number below a limit, perhaps with a plus. -/
def below? (limit : Nat) (text : List Char) : Option Nat := do
  let digits := match text with
    | '+' :: rest => rest
    | _ => text
  let value ← Decimal.natural? digits
  if value < limit then some value else none

/-- A word of 32 bits. Zero may have a minus. -/
def word32? (text : String) : Option UInt32 :=
  match text.toList with
  | '-' :: rest => do if (← Decimal.natural? rest) = 0 then some 0 else none
  | digits => (below? UInt32.size digits).map UInt32.ofNat

/-- A word of 64 bits. -/
def word64? (text : String) : Option UInt64 :=
  (below? UInt64.size text.toList).map UInt64.ofNat

/-- What to do with a logical service. -/
inductive Task where
  /-- Show the status of the device. -/
  | status
  /-- Wait for a card, so many milliseconds; zero for any time. -/
  | waitCard (timeout : UInt32)
  /-- Show events for so many seconds. -/
  | watch (seconds : UInt64)
  deriving DecidableEq, Repr

/-- What is asked for. -/
inductive Request where
  /-- List the readers. -/
  | list
  /-- Do something with a logical service. -/
  | session (logicalName : String) (task : Task)
  deriving DecidableEq, Repr

/-- What the whole command line asks for. -/
structure Invocation where
  /-- The configuration file. -/
  config : String
  verbose : Bool
  request : Request
  deriving DecidableEq, Repr

namespace Invocation

/-- The configuration file if none is named. -/
def defaultConfig : String := "xfs-bridge.toml"

/-- The options of the program. -/
def flags : List Flag :=
  [{ name := "config", letter := some 'c' },
   { name := "verbose", letter := some 'v', valued := false }]

/-- What a command and the arguments behind it ask for. -/
def request? (command : String) (arguments : List String) : Option Request := do
  match command with
  | "list" =>
    match ← partsOf [] false arguments with
    | ⟨_, []⟩ => some .list
    | _ => none
  | "status" =>
    match ← partsOf [] false arguments with
    | ⟨_, [name]⟩ => some (.session name .status)
    | _ => none
  | "wait-card" =>
    let parts ← partsOf [{ name := "timeout-ms" }] false arguments
    let timeout ← word32? ((parts.value? "timeout-ms").getD "30000")
    match parts.words with
    | [name] => some (.session name (.waitCard timeout))
    | _ => none
  | "watch" =>
    let parts ← partsOf [{ name := "seconds" }] false arguments
    let seconds ← word64? ((parts.value? "seconds").getD "60")
    match parts.words with
    | [name] => some (.session name (.watch seconds))
    | _ => none
  | _ => none

/-- What arguments ask for, `none` if they make no sense. -/
def parse (arguments : List String) : Option Invocation := do
  let parts ← partsOf flags true arguments
  let config := (parts.value? "config").getD defaultConfig
  match parts.words with
  | [] => none
  | command :: rest =>
    let request ← request? command rest
    if config.isEmpty then none
    else some { config, verbose := (parts.value? "verbose").isSome, request }

end Invocation

end Cli

end CardHost
