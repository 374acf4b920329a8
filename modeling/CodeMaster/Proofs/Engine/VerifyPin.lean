import CodeMaster.Proofs.Engine.Evaluate

/-!
# `CodeMaster.Proofs.Engine.VerifyPin`: which strings a stored PIN accepts

A credential that was created for a PIN holds the PIN and its hash. The hash is 64 hex digits,
so it has no delimiter and the salted comparisons of `verifyPinHash` never run. What is left
are the comparison with the PIN, the comparison of the two hashes, and the comparison of the
entered string with the stored hash itself.

The credentials are those that the requests build, with the PIN as the value and the digest of the
host as the hash. Nothing is known of the digest but its shape, so that the results have the
collisions of the digest in them.
-/

set_option autoImplicit false

namespace CodeMaster.Proofs.Engine.VerifyPin

open CodeMaster.Core Data CodeMaster.Engine AccessPolicyEvaluator Evaluate

section
variable [Host]

/-- The two values of a credential that was created for the PIN `p`. -/
structure StoresPin (p : String) (c : Credential) : Prop where
  encryptedValue : c.encryptedValue = some p
  hashedValue : c.hashedValue = Host.sha256Hex p

/-- A hash has no delimiter. -/
theorem sha256Hex_ne_delimiter (s : String) :
    ∀ c ∈ (Host.sha256Hex s).toList, isDelimiter c = false := by
  intro c hc
  have hdigit := Host.sha256Hex_digits s c hc
  rw [isDelimiter, decide_eq_false_iff_not]
  rintro (rfl | rfl) <;> exact absurd hdigit (by decide)

/-- Against an unsalted hash two comparisons are left. -/
theorem verifyPinHash_sha256Hex {q : String} (hq : q ≠ "") (p : String) :
    verifyPinHash q (Host.sha256Hex p)
      = (equalsOrdinalIgnoreCase q (Host.sha256Hex p)
        || equalsOrdinalIgnoreCase (Host.sha256Hex q) (Host.sha256Hex p)) := by
  -- Without a delimiter the salted comparisons are not reached.
  have hfind : (Host.sha256Hex p).toList.findIdx? isDelimiter = none :=
    List.findIdx?_eq_none_iff.mpr (sha256Hex_ne_delimiter p)
  unfold verifyPinHash
  rw [hfind, isNullOrEmpty_some, isNullOrEmpty_some, decide_eq_false hq,
    decide_eq_false (sha256Hex_ne_empty p)]
  cases equalsOrdinalIgnoreCase q (Host.sha256Hex p) <;>
    cases h : equalsOrdinalIgnoreCase (Host.sha256Hex q) (Host.sha256Hex p) <;>
      simp [computeSha256Hex, h]

/-- Two hashes are equal up to case only when they are equal. -/
theorem equalsOrdinalIgnoreCase_sha256Hex_iff (q p : String) :
    equalsOrdinalIgnoreCase (Host.sha256Hex q) (Host.sha256Hex p) = true
      ↔ Host.sha256Hex q = Host.sha256Hex p :=
  equalsOrdinalIgnoreCase_hex_iff (Host.sha256Hex_digits q) (Host.sha256Hex_digits p)

/-- What a credential for `p` accepts, before anything is assumed about the hash. -/
theorem verifyPin_eq_true_iff {p q : String} {c : Credential} (hc : StoresPin p c) (hq : q ≠ "") :
    verifyPin q c = true
      ↔ equalsOrdinalIgnoreCase q (Host.sha256Hex p) = true
          ∨ Host.sha256Hex q = Host.sha256Hex p ∨ q = p := by
  unfold verifyPin
  rw [hc.hashedValue, hc.encryptedValue, isNullOrEmpty_some, isNullOrEmpty_some,
    decide_eq_false hq, decide_eq_false (sha256Hex_ne_empty p), verifyPinHash_sha256Hex hq,
    ← equalsOrdinalIgnoreCase_sha256Hex_iff]
  cases equalsOrdinalIgnoreCase q (Host.sha256Hex p) <;>
    cases equalsOrdinalIgnoreCase (Host.sha256Hex q) (Host.sha256Hex p) <;> simp
  constructor
  · rintro ⟨-, rfl⟩
    rfl
  · rintro rfl
    exact ⟨hq, rfl⟩

/-- No credential accepts the empty string. -/
theorem verifyPin_empty (c : Credential) : verifyPin "" c = false := rfl

/-- A credential for `p` accepts `p`. -/
theorem verifyPin_self {p : String} {c : Credential} (hc : StoresPin p c) (hp : p ≠ "") :
    verifyPin p c = true :=
  (verifyPin_eq_true_iff hc hp).mpr (Or.inr (Or.inl rfl))

/-- The empty string is no hash, in any case. -/
theorem equalsOrdinalIgnoreCase_empty_sha256Hex (p : String) :
    equalsOrdinalIgnoreCase "" (Host.sha256Hex p) = false := by
  rw [equalsOrdinalIgnoreCase, decide_eq_false_iff_not]
  intro h
  have hlength := congrArg List.length h
  rw [List.length_map, List.length_map, Host.sha256Hex_length] at hlength
  exact absurd hlength (by decide)

/-- A credential for the PIN `p` accepts `p`, the stored hash in any case, and nothing else.
SHA-256 is assumed not to collide on the two strings. -/
theorem verifyPin_storesPin_iff (p q : String) (c : Credential)
    (hp : isNullOrWhiteSpace (some p) = false) (hc : StoresPin p c)
    (hfree : Host.sha256Hex q = Host.sha256Hex p → q = p) :
    verifyPin q c = true ↔ q = p ∨ equalsOrdinalIgnoreCase q c.hashedValue = true := by
  have hp' : p ≠ "" := ne_empty_of_not_isNullOrWhiteSpace hp
  rw [hc.hashedValue]
  by_cases hq : q = ""
  · -- The empty string is neither the PIN nor a hash.
    subst hq
    rw [verifyPin_empty, equalsOrdinalIgnoreCase_empty_sha256Hex]
    simp [hp'.symm]
  · rw [verifyPin_eq_true_iff hc hq]
    constructor
    · rintro (h | h | h)
      · exact Or.inr h
      · exact Or.inl (hfree h)
      · exact Or.inl h
    · rintro (h | h)
      · exact Or.inr (Or.inr h)
      · exact Or.inl h

end

section
/-- The host of the samples. -/
local instance : Host := Host.sample

/-- Another PIN opens for the credential of the sample only when it is the stored hash. -/
theorem verifyPin_storesPin_5678 :
    verifyPin "5678" guestPin = true
      ↔ "5678" = "1234" ∨ equalsOrdinalIgnoreCase "5678" guestPin.hashedValue = true :=
  verifyPin_storesPin_iff "1234" "5678" guestPin (by decide) ⟨rfl, by decide⟩ (by decide)

/-- The credential of the PIN 1234 also accepts the hash that it stores. -/
theorem verifyPin_accepts_stored_hash :
    ¬ ∀ (p q : String) (c : Credential), isNullOrWhiteSpace (some p) = false → StoresPin p c →
      (Host.sha256Hex q = Host.sha256Hex p → q = p) → (verifyPin q c = true ↔ q = p) := by
  intro h
  have hhash := (h "1234" guestPin.hashedValue guestPin (by decide)
    ⟨rfl, by decide⟩ (by decide)).mp (by decide)
  exact absurd hhash (by decide)

end

end CodeMaster.Proofs.Engine.VerifyPin
