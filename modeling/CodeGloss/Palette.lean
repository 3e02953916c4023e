import CodeGloss.Scoring
import CodeGloss.Text.Basic

/-! # Colours

Text for a terminal can be painted: an escape sequence switches a style on in front of it, and
another one switches all styles off behind it.  Where the text itself switches styles off, the style
is switched on again.  A plain palette leaves every text as it is.
-/

namespace CodeGloss

/-- Whether texts are painted. -/
inductive Palette
  | plain
  | colored
  deriving DecidableEq, Repr

/-- The styles that texts are painted in. -/
inductive Style
  | heading
  | information
  | warning
  | failure
  | success
  | low
  | medium
  | high
  deriving DecidableEq, Repr

/-- The parameters that switch a style on. -/
def Style.parameters : Style → Text
  | heading => "1;35".toList
  | information => "1;34".toList
  | warning => "1;33".toList
  | failure => "1;31".toList
  | success => "1;32".toList
  | low => "32".toList
  | medium => "33".toList
  | high => "31".toList

/-- The sequence that switches a style on. -/
def Style.opening (s : Style) : Text :=
  "\x1b[".toList ++ s.parameters ++ ['m']

/-- The sequence that switches all styles off. -/
def resetSequence : Text :=
  "\x1b[0m".toList

/-- The text with `opening` behind every sequence in it that switches all styles off. -/
def reopen (opening : Text) : Text → Text
  | [] => []
  | '\x1b' :: '[' :: '0' :: 'm' :: rest => resetSequence ++ opening ++ reopen opening rest
  | c :: rest => c :: reopen opening rest

/-- The text in a style. -/
def Palette.paint : Palette → Style → Text → Text
  | plain, _, t => t
  | colored, style, t => style.opening ++ reopen style.opening t ++ resetSequence

/-- The style that a tier is shown in. -/
def Tier.style : Tier → Style
  | low => .low
  | medium => .medium
  | high => .high

/-- The name of a tier, painted. -/
def Palette.tierName (p : Palette) (t : Tier) : Text :=
  p.paint t.style t.name

/-- A heading between dashes. -/
def Palette.heading (p : Palette) (title : Text) : Text :=
  p.paint Style.heading ("--- ".toList ++ title ++ " ---".toList)

end CodeGloss
