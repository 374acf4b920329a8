import CodeMaster.Core.Text

/-!
# `CodeMaster.Web.ForwardAuthMiddleware`: the user of a request

A proxy in front of the server signs the users in and names them in the headers of their requests.
The middleware makes the user of a request from these headers. The endpoints for commands write the
user's name into the audit log. Nothing else reads the user.

A header has lines. Its text is the lines, joined with commas. `StringValues` leaves the empty lines
out of the join, so that a header whose lines are all empty is a blank header.
-/

set_option autoImplicit false

namespace CodeMaster.Web

open CodeMaster.Core

/-- The lines of a header, under the name that is looked up. -/
abbrev HeaderDictionary := String → Option (List String)

/-- What a claim is about. -/
inductive ClaimType where
  | name
  | preferredUsername
  | email
  | role
  deriving DecidableEq, Repr

/-- A claim about a user. -/
structure Claim where
  type : ClaimType
  value : String
  deriving DecidableEq, Repr

/-- A user, as the server sees one. Without an authentication type the user is not signed in. -/
structure ClaimsIdentity where
  claims : List Claim := []
  authenticationType : Option String := none
  deriving DecidableEq, Repr

/-- `Identity.Name`: the first claim of a name. -/
def ClaimsIdentity.name (identity : ClaimsIdentity) : Option String :=
  (identity.claims.find? fun claim => claim.type = .name).map Claim.value

namespace ForwardAuthMiddleware

/-- `StringValues.ToString`: the text of the lines. -/
def textOf : List String → Option String
  | [] => none
  | lines => some (",".intercalate (lines.filter fun line => line ≠ ""))

/-- A header that is there and not blank. -/
def header (headers : HeaderDictionary) (name : String) : Option String :=
  ((headers name).bind textOf).filter fun text => !isNullOrWhiteSpace (some text)

/-- `Split(',', RemoveEmptyEntries | TrimEntries)`. -/
def splitGroups (text : String) : List String :=
  ((text.toList.splitOn ',').map fun part => trim isWhiteSpace (String.ofList part)).filter
    fun group => group ≠ ""

/-- The user that the rest of the pipeline sees. -/
def invokeAsync (headers : HeaderDictionary) (user : ClaimsIdentity) : ClaimsIdentity :=
  match header headers "Remote-User" with
  | none => user
  | some remoteUser =>
    -- Nothing checks that the proxy has sent the header.
    let emails := (header headers "Remote-Email").toList
    let groups := ((header headers "Remote-Groups").map splitGroups).getD []
    { claims := [⟨.name, remoteUser⟩, ⟨.preferredUsername, remoteUser⟩]
        ++ emails.map (Claim.mk .email) ++ groups.map (Claim.mk .role)
      authenticationType := some "ForwardAuth" }

end ForwardAuthMiddleware

end CodeMaster.Web
