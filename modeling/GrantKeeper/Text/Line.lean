/-!
# Lines

A text file may end its lines by a carriage return, a line feed, or both; read
as text, every end is a line feed.  More characters than these begin a new line
for a reader.
-/

namespace GrantKeeper.Text

/-- The text with a line feed for every carriage return, and for every pair of
both. -/
def withLineFeeds : List Char → List Char
  | [] => []
  | ['\r'] => ['\n']
  | '\r' :: '\n' :: rest => '\n' :: withLineFeeds rest
  | '\r' :: c :: rest => '\n' :: withLineFeeds (c :: rest)
  | c :: rest => c :: withLineFeeds rest

/-- The characters that end a line. -/
def lineEnds : List Char :=
  ['\n', '\r', '\x0b', '\x0c', '\x1c', '\x1d', '\x1e', '\u0085',
    '\u2028', '\u2029']

/-- The last line of a text, without the end of the text's last line. -/
def lastLine (text : List Char) : List Char :=
  let rest := match text.reverse with
    | '\n' :: '\r' :: rest => rest
    | c :: rest => if lineEnds.contains c then rest else c :: rest
    | [] => []
  (rest.takeWhile fun c => !lineEnds.contains c).reverse

end GrantKeeper.Text
