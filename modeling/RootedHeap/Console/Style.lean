/-!
# Coloured text

Text is coloured for a terminal by escape codes before and after it, and is so on every output.
-/

namespace RootedHeap.Console

/-- The escape code that selects a rendition. -/
def escapeCode (n : Nat) : String := "\x1b[" ++ toString n ++ "m"

/-- A text between two escape codes. -/
def between (start stop : Nat) (s : String) : String := escapeCode start ++ s ++ escapeCode stop

/-- A text in a colour, given by its escape code. -/
def coloured (colour : Nat) (s : String) : String := between colour 39 s

/-- A text in bold. -/
def bold (s : String) : String := between 1 0 s

/-- A text in italics. -/
def italic (s : String) : String := between 3 0 s

/-- A faint text. -/
def dimmed (s : String) : String := between 2 0 s

/-- A red text. -/
def red : String → String := coloured 31

/-- A yellow text. -/
def yellow : String → String := coloured 33

/-- A cyan text. -/
def cyan : String → String := coloured 36

/-- A grey text. -/
def grey : String → String := coloured 90

/-- A bright cyan text. -/
def brightCyan : String → String := coloured 96

/-- A bright white text. -/
def brightWhite : String → String := coloured 97

end RootedHeap.Console
