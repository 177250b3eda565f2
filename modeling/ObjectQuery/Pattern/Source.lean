import ObjectQuery.Pattern.Automaton
import ObjectQuery.Pattern.Meaning
import ObjectQuery.Pattern.Reader

/-!
# The source of a pattern

A source denotes a pattern if it is well formed and means something under the flags it begins with.
It is accepted only if, besides, the pattern's automata are not too large.
-/

namespace ObjectQuery.Pattern

/-- The pattern that a source denotes, whatever its size. -/
def read? (source : String) (ignoreCase : Bool) : Option Pattern :=
  match Tree.ofText? source with
  | some t => (t.meaning? (.initial ignoreCase)).map Prod.fst
  | none => none

/-- The pattern of a source that is accepted. -/
def ofText? (source : String) (ignoreCase : Bool) : Option Pattern :=
  (read? source ignoreCase).filter fits

/--
Whether a pattern's source matches a text; a source that is no pattern matches nothing. The size is
not looked at again, since a filter is read only if its sources are accepted.
-/
def sourceMatches (source : String) (ignoreCase : Bool) (text : String) : Bool :=
  (read? source ignoreCase).any (isMatch · text)

end ObjectQuery.Pattern
