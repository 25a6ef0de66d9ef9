/-!
Splitting a text into lines, at every Unicode line end or at newlines alone.
-/
namespace ServiceTrust.Text

/-- Characters that end a line by themselves. -/
def isLineEnd (c : Char) : Bool :=
  let n := c.toNat
  (10 ≤ n && n ≤ 13) || (28 ≤ n && n ≤ 30) || n == 0x85 || n == 0x2028 || n == 0x2029

/-- The lines of `cs`, where `line` holds the characters of the current one, last first. A
carriage return and the newline after it end one line; a last line without an end counts only if
it is not empty. -/
def linesFrom (line : List Char) : List Char → List (List Char)
  | [] => if line.isEmpty then [] else [line.reverse]
  | '\r' :: '\n' :: cs => line.reverse :: linesFrom [] cs
  | c :: cs =>
    if isLineEnd c then line.reverse :: linesFrom [] cs else linesFrom (c :: line) cs

def lines (s : String) : List String := (linesFrom [] s.toList).map .ofList

/-- Carriage returns, alone or before a newline, read as newlines. -/
def plainNewlines : List Char → List Char
  | [] => []
  | '\r' :: '\n' :: cs => '\n' :: plainNewlines cs
  | c :: cs => (if c = '\r' then '\n' else c) :: plainNewlines cs

end ServiceTrust.Text
