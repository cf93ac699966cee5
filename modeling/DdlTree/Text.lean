import DdlTree.Text.Printable

/-! # Text

The forms of text that names, literals and reports are written in: text between marks, escaped text,
bare words, and text without the blanks around it.
-/

namespace DdlTree.Text

/-! ## Delimited text

A text between two marks, every mark inside it written twice. Delimited identifiers and string
literals are both written this way.
-/

/-- Write every occurrence of `mark` twice and everything else once. -/
def double (mark : Char) : List Char → List Char
  | [] => []
  | c :: rest => if c = mark then mark :: mark :: double mark rest else c :: double mark rest

/-- Put `text` between two marks, doubling the marks that it contains. -/
def delimited (mark : Char) (text : String) : String :=
  String.ofList (mark :: (double mark text.toList ++ [mark]))

/-! ## Escaped text

A text in double quotes, on one line, that shows every character it holds: characters that do not
print on their own are written by their code point.
-/

/-- The lower-case hexadecimal digits of a number, without padding. -/
def hexDigits (n : Nat) : List Char :=
  Nat.toDigits 16 n

/-- How one character is written inside an escaped text. -/
def escapedChar (c : Char) : List Char :=
  if c = '"' then ['\\', '"']
  else if c = '\\' then ['\\', '\\']
  else if c = '\n' then ['\\', 'n']
  else if c = '\r' then ['\\', 'r']
  else if c = '\t' then ['\\', 't']
  else if c = '\x00' then ['\\', '0']
  else if isPrintable c then [c]
  else ['\\', 'u', '\x7b'] ++ hexDigits c.toNat ++ ['\x7d']

/-- The text in double quotes, its characters escaped. -/
def escaped (text : String) : String :=
  String.ofList ('"' :: (text.toList.flatMap escapedChar ++ ['"']))

/-! ## Bare words

An ASCII letter or underscore, then ASCII letters, digits and underscores. A bare word needs no
marks around it.
-/

/-- Whether a character can open a bare word. -/
def opensBareWord (c : Char) : Bool :=
  c.isAlpha || c == '_'

/-- Whether a character can stand inside a bare word. -/
def inBareWord (c : Char) : Bool :=
  c.isAlphanum || c == '_'

def isBareWord (text : String) : Bool :=
  match text.toList with
  | [] => false
  | first :: rest => opensBareWord first && rest.all inBareWord

/-- What opens a bare word can also stand inside one. -/
theorem inBareWord_of_opensBareWord {c : Char} (h : opensBareWord c) : inBareWord c := by
  simp only [opensBareWord, inBareWord, Char.isAlphanum, Bool.or_eq_true] at h ⊢
  exact h.imp Or.inl id

/-! ## Blanks

The characters with the Unicode property `White_Space`, and the text that remains once they are
taken off both ends. Control separators, zero-width spaces and the byte order mark are not blank.
-/

/-- Code points with the property `White_Space`. -/
def blankCodePoints : List Nat :=
  [0x09, 0x0A, 0x0B, 0x0C, 0x0D, 0x20, 0x85, 0xA0, 0x1680,
   0x2000, 0x2001, 0x2002, 0x2003, 0x2004, 0x2005, 0x2006, 0x2007, 0x2008, 0x2009, 0x200A,
   0x2028, 0x2029, 0x202F, 0x205F, 0x3000]

/-- Whether a character is blank. -/
def isBlank (c : Char) : Bool :=
  blankCodePoints.contains c.toNat

/-- Take the blank characters off both ends. -/
def trim (text : String) : String :=
  String.ofList (((text.toList.dropWhile isBlank).reverse.dropWhile isBlank).reverse)

end DdlTree.Text
