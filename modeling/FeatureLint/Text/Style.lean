namespace FeatureLint.Text

inductive Color where
  | red
  | green
  | yellow
  | blue
  | cyan
  deriving DecidableEq, Repr

def Color.code : Color → String
  | .red => "31"
  | .green => "32"
  | .yellow => "33"
  | .blue => "34"
  | .cyan => "36"

structure Style where
  bold : Bool := false
  dimmed : Bool := false
  color : Option Color := none
  deriving DecidableEq, Repr

def Style.codes (s : Style) : List String :=
  (if s.bold then ["1"] else []) ++ (if s.dimmed then ["2"] else [])
    ++ s.color.toList.map Color.code

/-- Shows a text in a style, if there are colours at all. -/
def paint (colors : Bool) (s : Style) (text : String) : String :=
  if colors then "\x1b[" ++ String.intercalate ";" s.codes ++ "m" ++ text ++ "\x1b[0m" else text

def colored (colors : Bool) (c : Color) (text : String) : String :=
  paint colors { color := some c } text

/-- A text with blanks in front of it, `width` characters in all unless it is longer. -/
def padLeft (width : Nat) (text : String) : String :=
  String.ofList (List.replicate (width - text.length) ' ') ++ text

def warning (colors : Bool) : String :=
  paint colors { bold := true, color := some .yellow } "warning:"

end FeatureLint.Text
