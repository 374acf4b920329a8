import CodeMaster.Proofs.Engine.VerifyPin

/-!
# `CodeMaster.Proofs.Engine.SaltedHashes`: does a PIN verify against its salted hash?

The stored text is the salt, a colon and the hash. `verifyPinHash` takes the text apart at the
first delimiter of either kind, and looks at the two parts only if neither is empty. So it finds
the salt that was stored exactly if the salt is not empty and has no delimiter of its own. With
another salt a PIN verifies only by coincidence, which `Coincides` spells out.

Two equivalences are proved for every PIN that is not empty and every salt. With one hash function,
the PIN verifies if and only if the salt is found again or the PIN and the salt coincide in one of
three ways. With the hash function left open, it verifies for all of them if and only if the salt is
found again: there is a function without the coincidence.

The hash is the host's. Nothing is assumed of it but that it is a text of hexadecimal digits, so
that it has no delimiter.
-/

set_option autoImplicit false

namespace CodeMaster.Proofs.Engine.SaltedHashes

open CodeMaster.Core CodeMaster.Engine AccessPolicyEvaluator Evaluate
open VerifyPin (sha256Hex_ne_delimiter)

/-- The first match of a list that is given around it. -/
theorem findIdx?_append_cons {α : Type} {p : α → Bool} {before : List α} {a : α}
    (hbefore : ∀ x ∈ before, p x = false) (ha : p a = true) (rest : List α) :
    (before ++ a :: rest).findIdx? p = some before.length := by
  induction before with
  | nil => simp [List.findIdx?_cons, ha]
  | cons x before ih =>
    have hx : p x = false := hbefore x List.mem_cons_self
    have hrest := ih fun y hy => hbefore y (List.mem_cons_of_mem x hy)
    rw [List.cons_append, List.findIdx?_cons, hx, hrest]
    rfl

section
variable [Host]

/-! ### Texts of different lengths -/

/-- Texts that are equal but for the case have one length. -/
theorem length_of_equalsOrdinalIgnoreCase {a b : String}
    (h : equalsOrdinalIgnoreCase a b = true) : a.toList.length = b.toList.length := by
  rw [equalsOrdinalIgnoreCase, decide_eq_true_eq] at h
  have hlength := congrArg List.length h
  rwa [List.length_map, List.length_map] at hlength

/-- A hash is no text of another length. -/
theorem sha256Hex_ne_of_length {text : String} (h : text.toList.length ≠ 64) (input : String) :
    equalsOrdinalIgnoreCase (computeSha256Hex input) text = false := by
  cases heq : equalsOrdinalIgnoreCase (computeSha256Hex input) text with
  | false => rfl
  | true =>
    have hlength := length_of_equalsOrdinalIgnoreCase heq
    rw [computeSha256Hex, Host.sha256Hex_length] at hlength
    exact absurd hlength.symm h

/-! ### A stored text around its first delimiter -/

/-- The comparisons that are left for a stored text with its first delimiter after `part1`. -/
theorem verifyPinHash_split_iff {pin storedHash part1 part2 : String} {delimiter : Char}
    (hpin : pin ≠ "") (hpart1 : ∀ c ∈ part1.toList, isDelimiter c = false)
    (hdelimiter : isDelimiter delimiter = true)
    (hstored : storedHash.toList = part1.toList ++ delimiter :: part2.toList) :
    verifyPinHash pin storedHash = true
      ↔ equalsOrdinalIgnoreCase pin storedHash = true
        ∨ equalsOrdinalIgnoreCase (computeSha256Hex pin) storedHash = true
        ∨ (part1 ≠ "" ∧ part2 ≠ ""
          ∧ (equalsOrdinalIgnoreCase (computeSha256Hex (part1 ++ pin)) part2 = true
            ∨ equalsOrdinalIgnoreCase (computeSha256Hex (pin ++ part1)) part2 = true
            ∨ equalsOrdinalIgnoreCase (computeSha256Hex (part2 ++ pin)) part1 = true
            ∨ equalsOrdinalIgnoreCase (computeSha256Hex (pin ++ part2)) part1 = true)) := by
  have hne : storedHash ≠ "" := by
    rintro rfl
    simp at hstored
  have hfind : storedHash.toList.findIdx? isDelimiter = some part1.toList.length := by
    rw [hstored]
    exact findIdx?_append_cons hpart1 hdelimiter part2.toList
  have htake : String.ofList (storedHash.toList.take part1.toList.length) = part1 := by
    rw [hstored, List.take_left, String.ofList_toList]
  have hdrop : String.ofList (storedHash.toList.drop (part1.toList.length + 1)) = part2 := by
    rw [hstored, List.drop_append, List.drop_eq_nil_of_le (by omega)]
    simp
  -- The bounds on the index in the source say that neither part is empty.
  have hbounds : (0 < part1.toList.length ∧ part1.toList.length < storedHash.toList.length - 1)
      ↔ part1 ≠ "" ∧ part2 ≠ "" := by
    have hlength : storedHash.toList.length
        = part1.toList.length + (part2.toList.length + 1) := by
      rw [hstored, List.length_append, List.length_cons]
    have hpos : ∀ s : String, 0 < s.toList.length ↔ s ≠ "" := by
      intro s
      rw [List.length_pos_iff, ne_eq, ne_eq, String.toList_eq_nil_iff]
    rw [← hpos, ← hpos]
    omega
  unfold verifyPinHash
  rw [isNullOrEmpty_some, isNullOrEmpty_some, decide_eq_false hpin, decide_eq_false hne, hfind]
  simp only [htake, hdrop, hbounds, Bool.or_self, Bool.false_eq_true, if_false, Bool.if_true_left,
    Bool.or_eq_true, decide_eq_true_eq]
  refine or_congr_right (or_congr_right ?_)
  -- With an empty part the source compares no parts.
  by_cases hparts : part1 ≠ "" ∧ part2 ≠ ""
  · simp [hparts]
  · rw [if_neg hparts]
    exact iff_of_false Bool.false_ne_true fun h => hparts ⟨h.1, h.2.1⟩

/-! ### The text that is stored for a salt -/

/-- The salt is not empty, and it has no delimiter. -/
structure Clean (salt : String) : Prop where
  nonempty : salt ≠ ""
  noDelimiter : ∀ c ∈ salt.toList, isDelimiter c = false

/-- The part of the stored text before its first delimiter. The salt is followed by one. -/
def part1 (salt : String) : String :=
  String.ofList (salt.toList.takeWhile fun c => !isDelimiter c)

/-- The part of the stored text behind its first delimiter. -/
def part2 (pin salt : String) : String :=
  String.ofList ((hashPinWithSalt pin salt).toList.drop ((part1 salt).toList.length + 1))

/-- What makes a PIN verify with a salt that is not found again: the PIN is the stored text, or the
first part is a hash of the second one and the PIN. -/
def Coincides (pin salt : String) : Prop :=
  equalsOrdinalIgnoreCase pin (hashPinWithSalt pin salt) = true
    ∨ equalsOrdinalIgnoreCase (computeSha256Hex (part2 pin salt ++ pin)) (part1 salt) = true
    ∨ equalsOrdinalIgnoreCase (computeSha256Hex (pin ++ part2 pin salt)) (part1 salt) = true

/-- The characters of a salted hash. -/
theorem toList_hashPinWithSalt (pin salt : String) :
    (hashPinWithSalt pin salt).toList
      = salt.toList ++ ':' :: (computeSha256Hex (salt ++ pin)).toList := by
  simp [hashPinWithSalt]

omit [Host] in
/-- The part before the first delimiter has none. -/
theorem part1_noDelimiter (salt : String) : ∀ c ∈ (part1 salt).toList, isDelimiter c = false := by
  intro c hc
  rw [part1, String.toList_ofList] at hc
  simpa using List.mem_takeWhile_imp hc

omit [Host] in
/-- The part before the first delimiter is the salt when the salt has no delimiter. -/
theorem part1_eq_iff (salt : String) :
    part1 salt = salt ↔ ∀ c ∈ salt.toList, isDelimiter c = false := by
  rw [part1, ← String.toList_inj, String.toList_ofList, List.takeWhile_eq_self_iff]
  simp

/-- The two parts are around a delimiter, which the salt or the encoder has put there. -/
theorem exists_split (pin salt : String) :
    ∃ delimiter, isDelimiter delimiter = true
      ∧ (hashPinWithSalt pin salt).toList
        = (part1 salt).toList ++ delimiter :: (part2 pin salt).toList := by
  have hdrop : ∀ {delimiter : Char} {rest : List Char},
      (hashPinWithSalt pin salt).toList = (part1 salt).toList ++ delimiter :: rest →
        (part2 pin salt).toList = rest := by
    intro delimiter rest h
    rw [part2, String.toList_ofList, h, List.drop_append, List.drop_eq_nil_of_le (by omega)]
    simp
  have happend := @List.takeWhile_append_dropWhile _ (fun c => !isDelimiter c) salt.toList
  -- The first delimiter is the colon that was put in, or one that the salt brings along.
  cases hrest : salt.toList.dropWhile fun c => !isDelimiter c with
  | nil =>
    have hstored : (hashPinWithSalt pin salt).toList
        = (part1 salt).toList ++ ':' :: (computeSha256Hex (salt ++ pin)).toList := by
      rw [hrest, List.append_nil] at happend
      rw [toList_hashPinWithSalt, part1, String.toList_ofList, happend]
    refine ⟨':', by decide, ?_⟩
    rw [hdrop hstored]
    exact hstored
  | cons delimiter rest =>
    have hstored : (hashPinWithSalt pin salt).toList
        = (part1 salt).toList
          ++ delimiter :: (rest ++ ':' :: (computeSha256Hex (salt ++ pin)).toList) := by
      rw [hrest] at happend
      rw [toList_hashPinWithSalt, part1, String.toList_ofList, ← List.cons_append,
        ← List.append_assoc, happend]
    have hdelimiter := List.head?_dropWhile_not (fun c => !isDelimiter c) salt.toList
    rw [hrest] at hdelimiter
    refine ⟨delimiter, by simpa using hdelimiter, ?_⟩
    rw [hdrop hstored]
    exact hstored

/-- The second part is longer than a hash if the salt has a delimiter, and else it is the hash. -/
theorem length_part2 (pin salt : String) :
    salt.toList.length + 64 = (part1 salt).toList.length + (part2 pin salt).toList.length := by
  obtain ⟨delimiter, -, hstored⟩ := exists_split pin salt
  have hlength := congrArg List.length hstored
  rw [toList_hashPinWithSalt, List.length_append, List.length_cons, List.length_append,
    List.length_cons, computeSha256Hex, Host.sha256Hex_length] at hlength
  omega

/-- The part after the delimiter is the hash when the salt has no delimiter. -/
theorem part2_eq_of_noDelimiter (pin : String) {salt : String}
    (h : ∀ c ∈ salt.toList, isDelimiter c = false) :
    part2 pin salt = computeSha256Hex (salt ++ pin) := by
  rw [part2, (part1_eq_iff salt).mpr h, toList_hashPinWithSalt, List.drop_append,
    List.drop_eq_nil_of_le (by omega)]
  simp

omit [Host] in
/-- A salt with a delimiter is cut off. -/
theorem length_part1_lt {salt : String} (h : ¬∀ c ∈ salt.toList, isDelimiter c = false) :
    (part1 salt).toList.length < salt.toList.length := by
  have hlist : (part1 salt).toList = salt.toList.takeWhile fun c => !isDelimiter c := by
    rw [part1, String.toList_ofList]
  have hle : (part1 salt).toList <+: salt.toList := hlist ▸ List.takeWhile_prefix _
  refine Nat.lt_of_le_of_ne hle.length_le fun heq => h ((part1_eq_iff salt).mp ?_)
  exact String.toList_inj.mp (hle.eq_of_length heq)

/-! ### When a PIN verifies -/

/-- A hash is not the empty text. -/
theorem ne_empty_of_sha256Hex {text input : String}
    (h : equalsOrdinalIgnoreCase (computeSha256Hex input) text = true) : text ≠ "" := by
  rintro rfl
  rw [sha256Hex_ne_of_length (by simp)] at h
  cases h

/-- The part after the delimiter is not empty, because a hash comes last. -/
theorem part2_ne_empty (pin salt : String) : part2 pin salt ≠ "" := by
  intro hempty
  have hlength := length_part2 pin salt
  have hle : (part1 salt).toList.length ≤ salt.toList.length := by
    rw [part1, String.toList_ofList]
    exact (List.takeWhile_prefix _).length_le
  rw [hempty, String.toList_empty, List.length_nil] at hlength
  omega

/-- The stored text is longer than a hash. -/
theorem sha256Hex_ne_stored (pin salt input : String) :
    equalsOrdinalIgnoreCase (computeSha256Hex input) (hashPinWithSalt pin salt) = false := by
  refine sha256Hex_ne_of_length ?_ input
  rw [toList_hashPinWithSalt, List.length_append, List.length_cons, computeSha256Hex,
    Host.sha256Hex_length]
  omega

/-- With a salt that is found again, the first of the four comparisons is of a hash with itself. -/
theorem verifies_of_clean {pin salt : String} (hpin : pin ≠ "") (hclean : Clean salt) :
    verifyPinHash pin (hashPinWithSalt pin salt) = true := by
  obtain ⟨delimiter, hdelimiter, hstored⟩ := exists_split pin salt
  refine (verifyPinHash_split_iff hpin (part1_noDelimiter salt) hdelimiter hstored).mpr ?_
  have hpart1 := (part1_eq_iff salt).mpr hclean.noDelimiter
  have hself : equalsOrdinalIgnoreCase (computeSha256Hex (part1 salt ++ pin)) (part2 pin salt)
      = true := by
    rw [hpart1, part2_eq_of_noDelimiter pin hclean.noDelimiter]
    exact equalsOrdinalIgnoreCase_self _
  have hne : part1 salt ≠ "" := by
    rw [hpart1]
    exact hclean.nonempty
  exact Or.inr (Or.inr ⟨hne, part2_ne_empty pin salt, Or.inl hself⟩)

/-- With another salt, the second part is no hash, or the first one is empty. -/
theorem verifies_iff_of_not_clean {pin salt : String} (hpin : pin ≠ "") (hclean : ¬Clean salt) :
    verifyPinHash pin (hashPinWithSalt pin salt) = true ↔ Coincides pin salt := by
  obtain ⟨delimiter, hdelimiter, hstored⟩ := exists_split pin salt
  rw [verifyPinHash_split_iff hpin (part1_noDelimiter salt) hdelimiter hstored,
    sha256Hex_ne_stored]
  -- A delimiter in the salt makes the second part longer than any hash.
  have hlong : part1 salt ≠ "" → ∀ input,
      equalsOrdinalIgnoreCase (computeSha256Hex input) (part2 pin salt) = false := by
    intro hne
    have hfree : ¬∀ c ∈ salt.toList, isDelimiter c = false := by
      intro hfree
      rw [(part1_eq_iff salt).mpr hfree] at hne
      exact hclean ⟨hne, hfree⟩
    have hshort := length_part1_lt hfree
    have hlength := length_part2 pin salt
    exact sha256Hex_ne_of_length (by omega)
  constructor
  · rintro (hstored | hplain | ⟨hne, -, h1 | h1b | h2⟩)
    · exact Or.inl hstored
    · cases hplain
    · rw [hlong hne] at h1
      cases h1
    · rw [hlong hne] at h1b
      cases h1b
    · exact Or.inr h2
  · rintro (hstored | h2 | h2b)
    · exact Or.inl hstored
    · exact Or.inr (Or.inr
        ⟨ne_empty_of_sha256Hex h2, part2_ne_empty pin salt, Or.inr (Or.inr (Or.inl h2))⟩)
    · exact Or.inr (Or.inr
        ⟨ne_empty_of_sha256Hex h2b, part2_ne_empty pin salt, Or.inr (Or.inr (Or.inr h2b))⟩)

/-! ### Hashes that rule out a coincidence -/

/-- The last character of a text, up to case. -/
def lastUpper (text : String) : Option Char := (text.toList.map Host.toUpperInvariant).getLast?

/-- Texts that are equal but for the case have the same last character, but for the case. -/
theorem lastUpper_eq_of_equalsOrdinalIgnoreCase {a b : String}
    (h : equalsOrdinalIgnoreCase a b = true) : lastUpper a = lastUpper b := by
  rw [equalsOrdinalIgnoreCase, decide_eq_true_eq] at h
  unfold lastUpper
  rw [h]

end

/-- A host whose hashes are all one digit repeated. -/
@[reducible] def constantHost (digit : Char) (hdigit : isLowerHexDigit digit = true) : Host :=
  { Host.sample with
    sha256Hex := fun _ => String.ofList (List.replicate 64 digit)
    sha256Hex_length := by simp
    sha256Hex_digits := by
      intro _ c hc
      rw [String.toList_ofList] at hc
      rwa [List.eq_of_mem_replicate hc] }

/-- Under such a host, a coincidence shows the digit at the end of the PIN or of the first part. -/
theorem lastUpper_of_coincides {digit : Char} (hdigit : isLowerHexDigit digit = true)
    {pin salt : String} (h : @Coincides (constantHost digit hdigit) pin salt) :
    (pin.toList.map Char.toUpper).getLast? = some digit.toUpper
      ∨ ((part1 salt).toList.map Char.toUpper).getLast? = some digit.toUpper := by
  let _ := constantHost digit hdigit
  have hash_last : ∀ input, lastUpper (computeSha256Hex input) = some digit.toUpper := by
    intro input
    show ((String.ofList (List.replicate 64 digit)).toList.map Char.toUpper).getLast? = _
    simp
  have stored_last : lastUpper (hashPinWithSalt pin salt) = some digit.toUpper := by
    have happend := hash_last (salt ++ pin)
    unfold lastUpper at happend ⊢
    rw [toList_hashPinWithSalt, List.map_append, List.map_cons, List.getLast?_append,
      List.getLast?_cons, happend]
    rfl
  rcases h with h | h | h
  · exact Or.inl ((lastUpper_eq_of_equalsOrdinalIgnoreCase h).trans stored_last)
  · exact Or.inr ((lastUpper_eq_of_equalsOrdinalIgnoreCase h).symm.trans (hash_last _))
  · exact Or.inr ((lastUpper_eq_of_equalsOrdinalIgnoreCase h).symm.trans (hash_last _))

/-- Two last characters show two digits at most. -/
theorem not_three_last {α : Type} {a b : Option α} {x y z : α} (hxy : x ≠ y) (hxz : x ≠ z)
    (hyz : y ≠ z) (hx : a = some x ∨ b = some x) (hy : a = some y ∨ b = some y) :
    ¬(a = some z ∨ b = some z) := by
  grind

/-- The PIN verifies exactly if the salt is found again, or by a coincidence of the hashes. Whatever
the hash function is, it verifies exactly if the salt is found again. -/
theorem salted_hash_verifies_iff (pin salt : String) (hpin : pin ≠ "") :
    (∀ [Host], verifyPinHash pin (hashPinWithSalt pin salt) = true
        ↔ Clean salt ∨ Coincides pin salt)
    ∧ ((∀ [Host], verifyPinHash pin (hashPinWithSalt pin salt) = true) ↔ Clean salt) := by
  constructor
  · intro _
    by_cases hclean : Clean salt
    · exact iff_of_true (verifies_of_clean hpin hclean) (Or.inl hclean)
    · exact (verifies_iff_of_not_clean hpin hclean).trans (or_iff_right hclean).symm
  · refine ⟨fun h => ?_, fun hclean => verifies_of_clean hpin hclean⟩
    by_contra hclean
    have hlast : ∀ digit, isLowerHexDigit digit = true →
        (pin.toList.map Char.toUpper).getLast? = some digit.toUpper
          ∨ ((part1 salt).toList.map Char.toUpper).getLast? = some digit.toUpper := by
      intro digit hdigit
      let _ := constantHost digit hdigit
      exact lastUpper_of_coincides hdigit ((verifies_iff_of_not_clean hpin hclean).mp h)
    exact not_three_last (by decide) (by decide) (by decide) (hlast '0' (by decide))
      (hlast '1' (by decide)) (hlast '2' (by decide))

section
/-- The host of the samples. -/
local instance : Host := Host.sample

/-- The PIN `1234` with the salt `salt`. -/
theorem salted_hash_verifies_1234 :
    (∀ [Host], verifyPinHash "1234" (hashPinWithSalt "1234" "salt") = true
        ↔ Clean "salt" ∨ Coincides "1234" "salt")
    ∧ ((∀ [Host], verifyPinHash "1234" (hashPinWithSalt "1234" "salt") = true) ↔ Clean "salt") :=
  salted_hash_verifies_iff "1234" "salt" (by decide)

/-- Without a salt, and with a salt that has a delimiter, a PIN does not verify. -/
theorem unsalted_pin_rejected :
    ¬∀ pin salt : String, pin ≠ "" →
      verifyPinHash pin (hashPinWithSalt pin salt) = true := by
  intro h
  have hempty := h "1234" "" (by decide)
  exact absurd hempty (by decide)

end

end CodeMaster.Proofs.Engine.SaltedHashes
