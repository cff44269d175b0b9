/-
  Texts: the methods of `String` that the adapters use.

  Letters are lowered in ASCII, the alphabet of every text they are compared with; upper case is
  that of Unicode.
-/
namespace Js

/-- White space, as `trim` removes it. -/
def isSpace (c : Char) : Bool :=
  let n := c.toNat
  (9 ≤ n && n ≤ 13) || (8192 ≤ n && n ≤ 8202) ||
    [32, 160, 5760, 8232, 8233, 8239, 8287, 12288, 65279].contains n

/-- Characters without the white space around them. -/
def trimList (cs : List Char) : List Char :=
  ((cs.dropWhile isSpace).reverse.dropWhile isSpace).reverse

/-- A text without the white space around it. -/
def trim (s : String) : String := String.ofList (trimList s.toList)

/-- Some part of the text is the needle. -/
def includesList (needle : List Char) : List Char → Bool
  | [] => needle.isEmpty
  | c :: cs => needle.isPrefixOf (c :: cs) || includesList needle cs

/-- The text includes the needle. -/
def includes (s needle : String) : Bool := includesList needle.toList s.toList

/-- The text starts with the other. -/
def startsWith (s start : String) : Bool := start.toList.isPrefixOf s.toList

/-- The text without the start, if it has it. -/
def stripPrefix (s start : String) : String :=
  if startsWith s start then String.ofList (s.toList.drop start.length) else s

/-- The first match of a pattern in a text, at this or a later position. -/
def firstMatch (matchAt : List Char → Option (List Char)) : List Char → Option (List Char)
  | [] => none
  | c :: cs => (matchAt (c :: cs)).or (firstMatch matchAt cs)

/-- A character of a word (`\w`). -/
def isWordChar (c : Char) : Bool := c.isAlphanum || c = '_'

/-- The number that a text starts with (`^(\d+)\b`). -/
def leadingNumber (s : String) : Option String :=
  let digits := s.toList.takeWhile Char.isDigit
  let rest := s.toList.dropWhile Char.isDigit
  if digits.isEmpty || (rest.head?.any isWordChar) then none else some (String.ofList digits)

/-! ### Upper case -/

/-- The characters whose upper case is not one UTF-16 unit outside ASCII, from the first to the
    last of each row, with their upper case; a dot is a unit outside ASCII. -/
def upperTable : List (Nat × Nat × String) :=
  [(0xDF, 0xDF, "SS"), (0x131, 0x131, "I"), (0x149, 0x149, ".N"), (0x17F, 0x17F, "S"),
    (0x1F0, 0x1F0, "J."), (0x390, 0x390, "..."), (0x3B0, 0x3B0, "..."), (0x587, 0x587, ".."),
    (0x1E96, 0x1E96, "H."), (0x1E97, 0x1E97, "T."), (0x1E98, 0x1E98, "W."),
    (0x1E99, 0x1E99, "Y."), (0x1E9A, 0x1E9A, "A."), (0x1F50, 0x1F50, ".."),
    (0x1F52, 0x1F52, "..."), (0x1F54, 0x1F54, "..."), (0x1F56, 0x1F56, "..."),
    (0x1F80, 0x1FAF, ".."), (0x1FB2, 0x1FB4, ".."), (0x1FB6, 0x1FB6, ".."),
    (0x1FB7, 0x1FB7, "..."), (0x1FBC, 0x1FBC, ".."), (0x1FC2, 0x1FC4, ".."),
    (0x1FC6, 0x1FC6, ".."), (0x1FC7, 0x1FC7, "..."), (0x1FCC, 0x1FCC, ".."),
    (0x1FD2, 0x1FD3, "..."), (0x1FD6, 0x1FD6, ".."), (0x1FD7, 0x1FD7, "..."),
    (0x1FE2, 0x1FE3, "..."), (0x1FE4, 0x1FE4, ".."), (0x1FE6, 0x1FE6, ".."),
    (0x1FE7, 0x1FE7, "..."), (0x1FF2, 0x1FF4, ".."), (0x1FF6, 0x1FF6, ".."),
    (0x1FF7, 0x1FF7, "..."), (0x1FFC, 0x1FFC, ".."), (0xFB00, 0xFB00, "FF"),
    (0xFB01, 0xFB01, "FI"), (0xFB02, 0xFB02, "FL"), (0xFB03, 0xFB03, "FFI"),
    (0xFB04, 0xFB04, "FFL"), (0xFB05, 0xFB06, "ST"), (0xFB13, 0xFB17, ".."),
    (0x10000, 0x10FFFF, "..")]

/-- The UTF-16 units of a character in upper case; those outside ASCII are not told apart. -/
def upperUnits (c : Char) : List (Option Char) :=
  if c.toNat < 128 then [some c.toUpper]
  else
    match upperTable.find? fun row => row.1 ≤ c.toNat && c.toNat ≤ row.2.1 with
    | some row => row.2.2.toList.map fun u => if u = '.' then none else some u
    | none => [none]

/-- The UTF-16 units of a text in upper case (`toUpperCase`). -/
def toUpperCase (s : String) : List (Option Char) := s.toList.flatMap upperUnits

end Js
