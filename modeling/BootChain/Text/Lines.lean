namespace BootChain.Text

/-- A line without the carriage return that may stand before its line feed. -/
def dropReturn (line : List Char) : List Char :=
  if line.getLast? = some '\r' then line.dropLast else line

/-- Splits at line feeds. Every piece but the last was ended by one, and a last piece that is
    empty is no line. -/
def pieces (chars : List Char) : List (List Char) :=
  chars.splitBy fun c _ => c != '\n'

/-- The lines of a text: each ends at a line feed, which is dropped together with one carriage
    return before it; a last line need not end so and then keeps a final carriage return. -/
def lines (text : String) : List String :=
  (pieces text.toList).map fun piece =>
    String.ofList (if piece.getLast? = some '\n' then dropReturn piece.dropLast else piece)

end BootChain.Text
