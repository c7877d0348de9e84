import WebSocket.Text.Cut

/-!
# Lines

A text is a sequence of lines, each of which ends with a line feed.  A carriage return right before
the line feed belongs to the end, and the last line may lack its end.

## Main definitions

* `Text.dropReturn` — a line without the carriage return at its end.
* `Text.lines` — the lines of a text.
-/

namespace WebSocket

namespace Text

/-- A line without the carriage return at its end, if there is one. -/
def dropReturn (line : List Char) : List Char :=
  if line.getLast? = some '\r' then line.dropLast else line

/-- The lines of a text, without their ends.  A carriage return that no line feed follows stays. -/
def lines (text : List Char) : List (List Char) :=
  let parts := splitOn ['\n'] text
  parts.dropLast.map dropReturn ++ (parts.getLast?.filter fun last => !last.isEmpty).toList

end Text

end WebSocket
