/-!
# Terminal colours

Diagnostics on a terminal are coloured with ANSI escape sequences: `ESC [ code m` before
the text and `ESC [ 0 m` after it, where the code names the colour and is preceded by
`1;` for bold.  An unknown colour name gives the code `0`, the terminal's default.

## Main definitions

* `Ansi.colourCode` — the code of a colour name.
* `Ansi.colourise` — text wrapped in a colour.
-/

namespace LuaListing

namespace Ansi

/-- The escape character. -/
def esc : Char := Char.ofNat 27

/-- The code of a colour name; `0` for a name that is not one of the seven. -/
def colourCode : String → String
  | "black" => "30"
  | "red" => "31"
  | "green" => "32"
  | "yellow" => "33"
  | "blue" => "34"
  | "magenta" => "35"
  | "cyan" => "36"
  | _ => "0"

/-- The text wrapped in the escapes that show it in a colour, optionally bold. -/
def colourise (text colour : String) (bold : Bool := false) : String :=
  String.singleton esc ++ "[" ++ (if bold then "1;" else "") ++ colourCode colour ++ "m" ++
    text ++ String.singleton esc ++ "[0m"

end Ansi

end LuaListing
