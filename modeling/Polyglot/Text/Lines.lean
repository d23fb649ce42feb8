/-!
# Lines and excerpts

The pieces between line feeds, and the beginning of a text, counted in characters, with and without
a mark for the cut.
-/

namespace Polyglot.Text

/-! ## Lines -/

/-- One carriage return dropped from the end, if there is one. -/
def dropReturn (cs : List Char) : List Char :=
  match cs.getLast? with
  | some '\r' => cs.dropLast
  | _ => cs

/-- The lines that are ended by a line feed, and what follows the last of those. -/
def terminatedLines (cs : List Char) : List (List Char) × List Char :=
  let pieces := cs.splitOn '\n'
  (pieces.dropLast, pieces.getLastD [])

/-- The lines of a text. Line feeds end them, a carriage return before the line feed belongs to
the line's end, and an empty piece after the last line feed is no line. -/
def lines (cs : List Char) : List (List Char) :=
  let (ended, last) := terminatedLines cs
  ended.map dropReturn ++ if last.isEmpty then [] else [last]

/-! ## Excerpts -/

/-- The first `limit` characters. -/
def truncate (s : String) (limit : Nat) : String :=
  String.ofList (s.toList.take limit)

/-- The first `limit` characters, and an ellipsis where that is shorter than the text. -/
def preview (s : String) (limit : Nat) : String :=
  let kept := truncate s limit
  if kept.utf8ByteSize < s.utf8ByteSize then kept ++ "…" else kept

end Polyglot.Text
