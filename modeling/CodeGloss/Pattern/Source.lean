import CodeGloss.Pattern.Basic

/-! # The written form of patterns

A sequence of pieces is written in the usual notation of regular expressions, without a mark for the
case of letters.
-/

namespace CodeGloss
namespace Pattern

/-- The characters that stand for themselves only behind a backslash. -/
def metaCharacters : Text :=
  "\\.+*?()|[]\x7b\x7d^$".toList

/-- The written form of a kind. -/
def Kind.source : Kind → Text
  | .letter c => if metaCharacters.contains c then ['\\', c] else [c]
  | .blank => "\\s".toList
  | .word => "\\w".toList
  | .inLine => ".".toList

/-- The written form of a piece. -/
def Piece.source : Piece → Text
  | .one k => k.source
  | .any k => k.source ++ "*".toList
  | .some k => k.source ++ "+".toList
  | .edge => "\\b".toList

/-- The written form of a sequence of pieces. -/
def source (pieces : List Piece) : Text :=
  pieces.flatMap Piece.source

end Pattern
end CodeGloss
