import CodeMaster.Data.Repositories

/-!
# `CodeMaster.Engine.AccessPolicyEvaluator`: the keypad's decision

`evaluateAsync` looks for the user whose credential accepts the entered PIN, selects the
candidate policies of that user at the door, and grants access under the first one that is
active. A one-time policy is written back with one use less.

`matchCredential` and `decideAccess` are the two halves of the source's `EvaluateAsync`. The
second one is pure: it gets the two policy lists and returns the result with the policy to
write back.
-/

set_option autoImplicit false

namespace CodeMaster.Engine

open CodeMaster.Core Data Relational

namespace AccessPolicyEvaluator

section
variable [Host]

/-- `ComputeSha256Hex`. -/
def computeSha256Hex (input : String) : String := Host.sha256Hex input

/-- The delimiters between a salt and a hash. -/
def isDelimiter (c : Char) : Bool := c = ':' ∨ c = '$'

/-- `VerifyPinHash`, which takes a stored value for a PIN in plain text, for its hash, or for a salt
with a hash. -/
def verifyPinHash (pin storedHash : String) : Bool :=
  if isNullOrEmpty (some pin) || isNullOrEmpty (some storedHash) then false
  -- The stored value itself is taken for a PIN in plain text.
  else if equalsOrdinalIgnoreCase pin storedHash then true
  else if equalsOrdinalIgnoreCase (computeSha256Hex pin) storedHash then true
  else
    match storedHash.toList.findIdx? isDelimiter with
    | none => false
    | some delimiterIndex =>
      if 0 < delimiterIndex ∧ delimiterIndex < storedHash.toList.length - 1 then
        let part1 := String.ofList (storedHash.toList.take delimiterIndex)
        let part2 := String.ofList (storedHash.toList.drop (delimiterIndex + 1))
        -- The salt is before or after the delimiter, and before or after the PIN.
        if equalsOrdinalIgnoreCase (computeSha256Hex (part1 ++ pin)) part2 then true
        else if equalsOrdinalIgnoreCase (computeSha256Hex (pin ++ part1)) part2 then true
        else if equalsOrdinalIgnoreCase (computeSha256Hex (part2 ++ pin)) part1 then true
        else if equalsOrdinalIgnoreCase (computeSha256Hex (pin ++ part2)) part1 then true
        else false
      else false

/-- `HashPinWithSalt`: the salt, a colon, and the hash of both. -/
def hashPinWithSalt (pin salt : String) : String := salt ++ ":" ++ computeSha256Hex (salt ++ pin)

/-- `VerifyPin`: the hash of the credential is tried first, and then its value. -/
def verifyPin (pin : String) (credential : Credential) : Bool :=
  if isNullOrEmpty (some pin) then false
  else if !isNullOrEmpty (some credential.hashedValue)
      && verifyPinHash pin credential.hashedValue then true
  else if !isNullOrEmpty credential.encryptedValue
      && credential.encryptedValue = some pin then true
  else false

/-- The loops over users and credentials: the first user with a credential that accepts the
PIN, and that credential. -/
def matchCredential (db : Db) (pin : String) : Option (User × Credential) :=
  (UserRepository.getAllAsync db).findSome? fun user =>
    ((CredentialRepository.getByUserIdAsync db user.id).find? fun cred =>
      verifyPin pin cred).map fun cred => (user, cred)

end

/-- The four branches that select the candidate policies. `none` is the denial of the last
branch. -/
def candidatePolicies (userPolicies doorPolicies : List AccessPolicy) :
    Option (List AccessPolicy) :=
  if doorPolicies.length > 0 ∧ userPolicies.length > 0 then
    let intersection := userPolicies.filter fun up => doorPolicies.any fun dp => dp.id = up.id
    -- Without a shared policy the user's own decide, whatever door they are assigned at.
    if intersection.length > 0 then some intersection else some userPolicies
  else if userPolicies.length > 0 then some userPolicies
  else if doorPolicies.length > 0 then some doorPolicies
  else none

/-- `Math.Max(0, (RemainingUses ?? 1) - 1)`. -/
def spendUse (p : AccessPolicy) : AccessPolicy :=
  { p with remainingUses := some (max 0 (p.remainingUses.getD 1 - 1)) }

/-- The decision on the two policy lists: the result, and the policy to write back. -/
def decideAccess (user : User) (userPolicies doorPolicies : List AccessPolicy)
    (checkTime : DateTime) : AccessEvaluationResult × Option AccessPolicy :=
  match candidatePolicies userPolicies doorPolicies with
  | none =>
    ({ isValid := false, user := some user
       reason := some "No access policy found for user at this access point" }, none)
  | some candidates =>
    match candidates.find? fun p => p.isEnabled && p.isActiveAt checkTime with
    | none =>
      ({ isValid := false, user := some user, policy := candidates.head?
         reason := some "Access policy schedule inactive or expired" }, none)
    | some activePolicy =>
      -- The result reports the policy after the use is taken off.
      if activePolicy.scheduleType = .oneTime then
        ({ isValid := true, user := some user, policy := some (spendUse activePolicy) },
          some (spendUse activePolicy))
      else ({ isValid := true, user := some user, policy := some activePolicy }, none)

/-- The write at the end of `EvaluateAsync`. -/
def writeBack (policy : Option AccessPolicy) (db : Db) : Db :=
  match policy with
  | none => db
  | some policy => AccessPolicyRepository.updateAsync policy db

variable [Host]

/-- `EvaluateAsync`: the first user with the PIN, and then the policies of this user at the door. A
grant under a policy of the kind `OneTime` takes a use from it. -/
def evaluateAsync (keypadEvent : KeypadEventDto) (accessPoint : AccessPoint)
    (evaluationTimeUtc : Option DateTime) (db : Db) : AccessEvaluationResult × Db :=
  if isNullOrWhiteSpace keypadEvent.pin then
    ({ isValid := false, reason := some "PIN was not provided" }, db)
  else
    match matchCredential db (keypadEvent.pin.getD "") with
    | none => ({ isValid := false, reason := some "Invalid PIN or credential not found" }, db)
    | some (matchedUser, _) =>
      if matchedUser.isActive then
        let (result, policy) := decideAccess matchedUser
          (AccessPolicyRepository.getByUserIdAsync db matchedUser.id)
          (AccessPolicyRepository.getByAccessPointIdAsync db accessPoint.id)
          (evaluationTimeUtc.getD keypadEvent.timestamp)
        (result, writeBack policy db)
      else
        ({ isValid := false, user := some matchedUser, reason := some "User is inactive" }, db)

end AccessPolicyEvaluator

end CodeMaster.Engine
