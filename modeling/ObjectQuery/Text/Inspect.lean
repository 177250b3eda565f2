import ObjectQuery.Json.Printer
import ObjectQuery.Text.Hidden

/-!
# Inspection text

Error texts and the command line show values in a form that names the kind of each part:
`String("x")`, `Array [Number(1), Null]`, `Some([0.5, 1.0])`. Strings stand in double quotes;
a quote, a backslash and whatever a reader could not see are escaped.
-/

namespace ObjectQuery.Text

/-- Lower-case hexadecimal digits. -/
def hexDigits (n : Nat) : List Char := Nat.toDigits 16 n

/-- Whether a character is written by its code point. -/
def isHidden (c : Char) : Bool :=
  c.toNat < 32 || c.toNat == 127 || (127 < c.toNat && hiddenRanges.contains c.toNat)

/-- How one character stands inside inspection quotes. -/
def inspectChar (c : Char) : List Char :=
  match c with
  | '"' => ['\\', '"']
  | '\\' => ['\\', '\\']
  | '\n' => ['\\', 'n']
  | '\r' => ['\\', 'r']
  | '\t' => ['\\', 't']
  | '\x00' => ['\\', '0']
  | c => if isHidden c then '\\' :: 'u' :: '\x7b' :: hexDigits c.toNat ++ ['\x7d'] else [c]

/-- A string in inspection quotes. -/
def inspect (s : String) : String :=
  String.ofList ('"' :: s.toList.flatMap inspectChar ++ ['"'])

/-- A list of texts in brackets. -/
def inspectList (items : List String) : String :=
  "[" ++ ", ".intercalate items ++ "]"

/-- A list of named texts in braces, the names quoted. -/
def inspectEntries (entries : List (String × String)) : String :=
  "\x7b" ++ ", ".intercalate (entries.map (fun e => inspect e.1 ++ ": " ++ e.2)) ++ "\x7d"

/-- An optional text. -/
def inspectOption : Option String → String
  | none => "None"
  | some s => "Some(" ++ s ++ ")"

/-- A double; infinities and not-a-number have words. -/
def inspectFloat (x : Float) : String :=
  if x.isNaN then "NaN"
  else if x.isInf then (if x < 0.0 then "-inf" else "inf")
  else Numeral.renderFloat .inspect x

end ObjectQuery.Text

namespace ObjectQuery

namespace Json

mutual

/-- The inspection text of a value. -/
def inspect : Json → String
  | .null => "Null"
  | .bool b => "Bool(" ++ (if b then "true" else "false") ++ ")"
  | .num n => "Number(" ++ n.render ++ ")"
  | .str s => "String(" ++ Text.inspect s ++ ")"
  | .arr items => "Array " ++ Text.inspectList (inspectItems items)
  | .obj members => "Object " ++ Text.inspectEntries (inspectMembers members)

def inspectItems : List Json → List String
  | [] => []
  | x :: xs => inspect x :: inspectItems xs

def inspectMembers : List (String × Json) → List (String × String)
  | [] => []
  | (k, v) :: ms => (k, inspect v) :: inspectMembers ms

end

end Json

end ObjectQuery
