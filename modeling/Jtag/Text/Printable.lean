import Jtag.Text.Attaching
import Jtag.Text.Hidden

/-!
Which characters can be shown by themselves.
-/

namespace Jtag.Text

/-- A character can be shown by itself unless it shows nothing, or attaches to the one before it. -/
def isVisible (c : Char) : Bool :=
  !CodeRange.anyContains hiddenRanges c && !CodeRange.anyContains attachingRanges c

end Jtag.Text
