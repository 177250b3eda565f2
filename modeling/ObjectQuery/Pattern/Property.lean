import ObjectQuery.Character.Age
import ObjectQuery.Character.Break

/-!
# Properties of characters in patterns

A pattern names a set of characters by a trait, a general category or a script, or by a property
and one of its values. Names are compared in their normal form.
-/

namespace ObjectQuery.Pattern

open Character

/-- A property as a pattern names it. -/
inductive Property where
  /-- A trait, a general category or a script. -/
  | plain (name : List Char)
  /-- A property that has values, and one of them. -/
  | valued (name value : List Char)
deriving Inhabited

namespace Property

/-- Whether a name opens with `is`, which counts for nothing. -/
def opensWithIs : List Char → Bool
  | first :: second :: _ => first.toLower == 'i' && second.toLower == 's'
  | _ => false

/-- Whether a character of a name counts. -/
def isSignificant (c : Char) : Bool := c.toNat < 128 && c != ' ' && c != '_' && c != '-'

/--
The normal form of a name: small letters, without `is` in front, without blanks, underscores and
hyphens, and without what is not ASCII. The name `isc` stays as it is, since it does not mean `c`.
-/
def normalName (name : List Char) : String :=
  let cut := opensWithIs name
  let cs := ((if cut then name.drop 2 else name).filter isSignificant).map Char.toLower
  if cut && cs == ['c'] then "isc" else String.ofList cs

/-- The characters with a value of a general category, of a script and so forth. -/
def ofValue? (name value : String) : Option CharSet :=
  match name with
  | "gc" | "generalcategory" => CharSet.named? Category.named value
  | "sc" | "script" => Script.named? value
  | "scx" | "scriptextensions" => Script.extended? value
  | "age" => Age.named? value
  | "gcb" | "graphemeclusterbreak" => CharSet.named? Grapheme.named value
  | "sb" | "sentencebreak" => CharSet.named? Sentence.named value
  | "wb" | "wordbreak" => CharSet.named? Word.named value
  | _ => none

/-- The characters of a trait, a general category or a script; the first that has the name wins. -/
def ofName? (name : String) : Option CharSet :=
  ((CharSet.named? Trait.named name).or (CharSet.named? Category.named name)).or
    (Script.named? name)

/-- The characters that a property denotes, if there is such a property. -/
def set? : Property → Option CharSet
  | plain name => ofName? (normalName name)
  | valued name value => ofValue? (normalName name) (normalName value)

end Property

end ObjectQuery.Pattern
