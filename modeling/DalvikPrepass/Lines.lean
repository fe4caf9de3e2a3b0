/-!
# Lines

A text is a list of lines, each ended by a line feed.  A carriage return before
the line feed belongs to the end of the line, and the last line may lack its end.
-/

namespace DalvikPrepass

/-- The lines of a text from a line on whose first characters are `line`, last one
first. -/
def linesFrom (line : List Char) : List Char → List String
  | [] => if line.isEmpty then [] else [String.ofList line.reverse]
  | '\n' :: rest =>
      let ended := match line with
        | '\r' :: line => line
        | line => line
      String.ofList ended.reverse :: linesFrom [] rest
  | char :: rest => linesFrom (char :: line) rest

/-- The lines of a text without their ends. -/
def linesOf (text : String) : List String :=
  linesFrom [] text.toList

end DalvikPrepass
