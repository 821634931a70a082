/-
# Divert.Text.Case — texts without regard to letter case.

Names that may be written in any letter case are made of ASCII letters.  No character outside ASCII has
a lower case among the letters that occur in them, so mapping the ASCII letters alone decides every
comparison as the full case map would.
-/

namespace Divert.Text

/-- A text with its ASCII capitals made small. -/
def lower (s : String) : String := String.ofList (s.toList.map Char.toLower)

example : lower "WaRn É" = "warn É" := by decide

end Divert.Text
