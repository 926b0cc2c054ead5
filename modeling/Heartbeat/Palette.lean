/-!
# Colours

Each instance writes its name in colours of its own, so that the lines of several instances can be
told apart. A `Palette` is a pair of terminal colours or none; `Palette.ofIndex` cycles through six
pairs and `Palette.paint` sets the colours, writes the text and resets them.
-/

set_option autoImplicit false
set_option relaxedAutoImplicit false

namespace Heartbeat

/-- The terminal colours in use. -/
inductive Colour
  | white
  | black
  | darkBlue
  | darkGreen
  | darkYellow
  | darkMagenta
  | darkCyan
  | darkRed
deriving DecidableEq

/-- The number of a colour in the palette of 256 colours. -/
def Colour.code : Colour → Nat
  | .white => 15
  | .black => 0
  | .darkBlue => 4
  | .darkGreen => 2
  | .darkYellow => 3
  | .darkMagenta => 5
  | .darkCyan => 6
  | .darkRed => 1

/-- The colours of an instance, or no colours. -/
inductive Palette
  | plain
  | coloured (foreground background : Colour)
deriving DecidableEq

namespace Palette

/-- The pairs that the indexes cycle through. -/
def pairs : Vector Palette 6 :=
  #v[.coloured .white .darkBlue, .coloured .black .darkGreen, .coloured .black .darkYellow,
    .coloured .white .darkMagenta, .coloured .black .darkCyan, .coloured .white .darkRed]

/-- The colours of the instance with an index. The first index is one; zero counts as one. -/
def ofIndex (index : UInt32) : Palette :=
  pairs.get ⟨(index.toNat - 1) % 6, Nat.mod_lt _ (by decide)⟩

/-- Whether a palette has colours. -/
def isEnabled : Palette → Bool
  | .plain => false
  | .coloured _ _ => true

/-- The control sequence of a terminal with the given parameters. -/
def control (parameters : String) : String :=
  "\x1b[" ++ parameters ++ "m"

/-- A text in the colours of a palette. -/
def paint (palette : Palette) (text : String) : String :=
  match palette with
  | .plain => text
  | .coloured foreground background =>
    control ("48;5;" ++ toString background.code) ++ control ("38;5;" ++ toString foreground.code)
      ++ text ++ control "49" ++ control "39"

end Palette

end Heartbeat
