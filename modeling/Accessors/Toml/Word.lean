/-!
# Words

What is written without quotes is a word: it runs up to a character that ends it. Spaces and tabs
end a word too unless it goes on behind them, as a date does with a time. `Word.take` takes a word
off the front of a text.
-/

namespace Accessors.Toml.Word

/-- Whether a character separates words on a line. -/
def isSpace (c : Char) : Bool :=
  c == ' ' || c == '\t'

/-- The characters, other than spaces and tabs, that end a word. Quotes are not among them. -/
def ends : List Char :=
  ['\r', '\n', '=', ',', '[', ']', '\x7b', '\x7d', '#']

/-- Whether a character may stand in a word. -/
def isInner (c : Char) : Bool :=
  !isSpace c && !ends.contains c

/-- Whether a word goes on behind spaces with this character. -/
def continues (c : Char) : Bool :=
  isInner c && c != '.' && c != '"' && c != '\''

/-- Takes a word off the front of a text. -/
def take (cs : List Char) : List Char × List Char :=
  match _h : cs.dropWhile isInner with
  | [] => (cs.takeWhile isInner, [])
  | c :: rest =>
    if isSpace c && (rest.dropWhile isSpace).head?.any continues then
      let (more, rest') := take (rest.dropWhile isSpace)
      (cs.takeWhile isInner ++ c :: rest.takeWhile isSpace ++ more, rest')
    else
      (cs.takeWhile isInner, c :: rest)
termination_by cs.length
decreasing_by
  have := (List.dropWhile_sublist isSpace (l := rest)).length_le
  have := (List.dropWhile_sublist isInner (l := cs)).length_le
  simp_all
  omega

end Accessors.Toml.Word
