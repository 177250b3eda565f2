import ObjectQuery.Text.Split

/-!
# Callers and access lists

An access list grants tokens: `*` for everyone, a user's id, or `role:` with a role's name. A caller
holds the tokens of its user and roles; a master caller is granted everything. An object is named to
the store by a token of its own, its class and id with a dollar sign between.
-/

namespace ObjectQuery

/-- The tokens that are granted. -/
abbrev Acl := List String

/-- Whether an access list grants one of the tokens; `*` grants everyone. -/
def Acl.allows (acl : Acl) (tokens : List String) : Bool :=
  acl.any (fun entry => entry == "*" || tokens.any (· == entry))

/-- The effective permissions of a caller. -/
structure Auth where
  master : Bool
  user : Option String
  roles : List String
deriving DecidableEq, Inhabited

namespace Auth

/-- A caller without user and roles. -/
def anonymous : Auth := ⟨false, none, []⟩

/-- Everyone's token, the user's, then one for each role. -/
def tokens (auth : Auth) : List String :=
  "*" :: auth.user.toList ++ auth.roles.map ("role:" ++ ·)

/-- Whether the caller is granted an access list. -/
def allows (auth : Auth) (acl : Acl) : Bool :=
  auth.master || acl.allows auth.tokens

end Auth

/-- The token that names an object of a class. -/
def objectToken (className id : String) : String := className ++ "$" ++ id

/-- The class and id a token names. -/
def splitToken? (token : String) : Option (String × String) := Text.cut? '$' token

end ObjectQuery
