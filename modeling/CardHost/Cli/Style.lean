/-!
# Styled Text

Text that stands out on a terminal. A style is switched on before the text and
off behind it. A text that switches styles off in its middle would lose its own
style there, so it is switched on again.

## Main definitions

* `Style`: The styles in use.
* `Style.apply`: A text in a style.
* `Style.isWanted`: Whether text should stand out at all.

## Theorems

* `apply_plain`: Where there are no styles a text stays as it is.
-/

namespace CardHost

namespace Cli

/-- How a text stands out. -/
inductive Style where
  /-- Something went well: bold green. -/
  | success
  /-- Something to look at: bold yellow. -/
  | warning
  /-- Something failed: bold red. -/
  | failure
  /-- The head of a list: bold, underlined. -/
  | title
  /-- The name of a value: bold. -/
  | key
  deriving DecidableEq, Repr

namespace Style

/-- The attributes of a style, as a terminal numbers them. -/
def attributes : Style → String
  | success => "1;32"
  | warning => "1;33"
  | failure => "1;31"
  | title => "1;4"
  | key => "1"

/-- Switch a style on. -/
def on (style : Style) : String := "\x1b[" ++ style.attributes ++ "m"

/-- Switch every style off. -/
def off : String := "\x1b[0m"

/-- A text in a style; as it is where there are no styles. -/
def apply (styled : Bool) (style : Style) (text : String) : String :=
  if styled then style.on ++ text.replace off (off ++ style.on) ++ off else text

theorem apply_plain (style : Style) (text : String) : apply false style text = text := rfl

/-- Whether text should stand out: on a terminal it does, and the environment
    can ask for it anywhere or turn it down. -/
def isWanted (environment : List (String × String)) (terminal : Bool) : Bool :=
  let asked := fun name => (environment.lookup name).map (· != "0")
  asked "CLICOLOR_FORCE" == some true ||
    (asked "NO_COLOR").isNone && (asked "CLICOLOR").getD true && terminal

end Style

end Cli

end CardHost
