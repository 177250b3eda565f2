/-!
# Quoted tokens and patterns

Identifiers stand between double quotes and string constants between single quotes; a quote inside
is written twice and nothing else is escaped. A reader that meets a quote not followed by another
has reached the end of the token.

In a like pattern a percent sign stands for any text, an underscore for any character, and a backslash
takes the meaning from the character after it.
-/

namespace ObjectQuery.Sql.Quoted

/-- The characters of a token with each quote doubled. -/
def double (q : Char) : List Char → List Char
  | [] => []
  | c :: cs => if c = q then q :: q :: double q cs else c :: double q cs

/-- A token: a quote, the doubled characters, a quote. -/
def encode (q : Char) (text : String) : String :=
  String.ofList (q :: double q text.toList ++ [q])

/-- An identifier. -/
def ident (name : String) : String := encode '"' name

/-- A string constant. -/
def string (text : String) : String := encode '\'' text

end ObjectQuery.Sql.Quoted

namespace ObjectQuery.Sql.Like

/-- How a character is written that stands for itself. -/
def escapeChar (c : Char) : List Char :=
  if c = '\\' ∨ c = '%' ∨ c = '_' then ['\\', c] else [c]

/-- The pattern of a text that stands for itself. -/
def escape (text : String) : String :=
  String.ofList (text.toList.flatMap escapeChar)

/-- The pattern of the texts that open with one. -/
def opening (text : String) : String := escape text ++ "%"

/-- The pattern of the texts that end with one. -/
def ending (text : String) : String := "%" ++ escape text

end ObjectQuery.Sql.Like
