import ServiceControl.Text.Utf16
/-!
# Windows command lines

A command line is a row of words with a blank between them.  A word is put in quotes when it is empty or holds a blank or
a quote; then a quote, and the backslashes just before it or before the end, get a backslash each.
-/
namespace ServiceControl.Windows

/-- A character for which a word needs quotes. -/
def needsQuotes (c : Char) : Bool := c = ' ' || c = '\t' || c = '\n' || c = '\x0b' || c = '"'

def backslashes (n : Nat) : List Char := List.replicate n '\\'

/-- The inside of a quoted word and the quote at its end, after some backslashes. -/
def quoteRest : Nat → List Char → List Char
  | n, [] => backslashes (2 * n) ++ ['"']
  | n, c :: cs =>
    if c = '\\' then quoteRest (n + 1) cs
    else if c = '"' then backslashes (2 * n + 1) ++ '"' :: quoteRest 0 cs
    else backslashes n ++ c :: quoteRest 0 cs

/-- A word as it stands on a command line. -/
def quoteWord (word : List Char) : List Char :=
  if word.isEmpty || word.any needsQuotes then '"' :: quoteRest 0 word else word

/-- A word without any of these characters stands as it is. -/
theorem quoteWord_plain {word : List Char} (hn : word ≠ []) (h : word.any needsQuotes = false) :
    quoteWord word = word := by
  have : word.isEmpty = false := by simpa using hn
  simp [quoteWord, this, h]

end ServiceControl.Windows
