/-!
# Splitting text at a character

A text with `n` separators has `n + 1` parts, any of which may be empty.
-/

namespace ObjectQuery.Text

/-- The parts of a list of characters between separators. -/
def splitChars (sep : Char) : List Char → List (List Char)
  | [] => [[]]
  | c :: cs =>
    if c = sep then [] :: splitChars sep cs
    else
      match splitChars sep cs with
      | part :: parts => (c :: part) :: parts
      | [] => [[c]]

/-- The parts of a text between separators. -/
def split (sep : Char) (text : String) : List String :=
  (splitChars sep text.toList).map String.ofList

/-- What stands before and after the first separator, if there is one. -/
def cut? (sep : Char) (text : String) : Option (String × String) :=
  let cs := text.toList
  match cs.dropWhile (· ≠ sep) with
  | [] => none
  | _ :: rest => some (String.ofList (cs.takeWhile (· ≠ sep)), String.ofList rest)

/-- What stands before the first separator, and what stands after it, if there is one. -/
def head (sep : Char) (text : String) : String × Option String :=
  match cut? sep text with
  | some (first, rest) => (first, some rest)
  | none => (text, none)

/-- Whether a text opens with another. -/
def opensWith (text opening : String) : Bool :=
  opening.toList.isPrefixOf text.toList

/-- Whether a text ends with another. -/
def closesWith (text closing : String) : Bool :=
  closing.toList.isSuffixOf text.toList

/-- Whether a character is white space of the standard. -/
def isBlank (c : Char) : Bool :=
  let n := c.toNat
  (9 ≤ n && n ≤ 13) || n == 32 || n == 0x85 || n == 0xa0 || n == 0x1680 ||
    (0x2000 ≤ n && n ≤ 0x200a) || n == 0x2028 || n == 0x2029 || n == 0x202f || n == 0x205f ||
    n == 0x3000

/-- A text without the white space around it. -/
def trim (text : String) : String :=
  String.ofList (((text.toList.dropWhile isBlank).reverse.dropWhile isBlank).reverse)

end ObjectQuery.Text
