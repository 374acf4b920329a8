import CodeMaster.Core.Text
import CodeMaster.Core.Time

/-!
# `CodeMaster.Core.Host`: what the code takes from its host

`Host` is the part of .NET, of its packages and of the server that the code calls and that
the repository does not contain. Each field states the documented behavior that the code
relies on, and nothing else is known about it:

* `sha256Hex` is `Convert.ToHexString(SHA256.HashData(UTF8(s))).ToLowerInvariant()`, some
  function to 64 lower-case hex digits.
* `toUpperInvariant` is the case map of `StringComparison.OrdinalIgnoreCase`. On ASCII it is
  the ASCII case map.
* `newGuid` is `Guid.NewGuid().ToString()`. It gets the ids in use and returns another one.
* `scanOrder` is the order in which SQLite returns rows when `ORDER BY` leaves it open.
* `readDateTime` is what Dapper and `Microsoft.Data.Sqlite` hand back for the round-trip
  (`"O"`) text of a `DateTime`.
* `tryParseDateTime` is `DateTime.TryParse`, and `utcOffset` the server's offset from UTC in
  ticks.
-/

set_option autoImplicit false

namespace CodeMaster.Core

/-- `0` to `9` and `a` to `f`. -/
def isLowerHexDigit (c : Char) : Bool :=
  (0x30 ≤ c.toNat ∧ c.toNat ≤ 0x39) ∨ (0x61 ≤ c.toNat ∧ c.toNat ≤ 0x66)

/-- The host's own functions, with what the code relies on. -/
class Host where
  sha256Hex : String → String
  sha256Hex_length : ∀ s, (sha256Hex s).toList.length = 64
  sha256Hex_digits : ∀ s, ∀ c ∈ (sha256Hex s).toList, isLowerHexDigit c = true
  toUpperInvariant : Char → Char
  toUpperInvariant_ascii : ∀ c, c.toNat < 0x80 → toUpperInvariant c = c.toUpper
  newGuid : List String → String
  newGuid_fresh : ∀ used, newGuid used ∉ used
  newGuid_not_blank : ∀ used, isNullOrWhiteSpace (some (newGuid used)) = false
  scanOrder : {α : Type} → List α → List α
  scanOrder_perm : ∀ {α : Type} (rows : List α), (scanOrder rows).Perm rows
  readDateTime : DateTime → DateTime
  tryParseDateTime : String → Option DateTime
  utcOffset : Int

/-- The ASCII case map is injective on the lower-case hex digits. -/
theorem toUpper_inj_of_isLowerHexDigit {c d : Char} (hc : isLowerHexDigit c = true)
    (hd : isLowerHexDigit d = true) (h : c.toUpper = d.toUpper) : c = d := by
  have hsmall : ∀ m n : Fin 0x67, isLowerHexDigit (Char.ofNat m) = true →
      isLowerHexDigit (Char.ofNat n) = true →
      (Char.ofNat m).toUpper = (Char.ofNat n).toUpper → m = n := by decide +kernel
  have hbound : ∀ {c : Char}, isLowerHexDigit c = true → c.toNat < 0x67 := by
    intro c hc
    simp only [isLowerHexDigit, decide_eq_true_eq] at hc
    omega
  have hcd := hsmall ⟨c.toNat, hbound hc⟩ ⟨d.toNat, hbound hd⟩
  simp only [Char.ofNat_toNat, Fin.mk.injEq] at hcd
  exact Char.toNat_inj.mp (hcd hc hd h)

section
variable [Host]

/-- `string.Equals(a, b, StringComparison.OrdinalIgnoreCase)`. -/
def equalsOrdinalIgnoreCase (a b : String) : Bool :=
  a.toList.map Host.toUpperInvariant = b.toList.map Host.toUpperInvariant

/-- `s.StartsWith(start, StringComparison.OrdinalIgnoreCase)`. -/
def startsWithOrdinalIgnoreCase (s start : String) : Bool :=
  equalsOrdinalIgnoreCase (String.ofList (s.toList.take start.toList.length)) start

/-- `s.Contains(value, StringComparison.OrdinalIgnoreCase)`. -/
def containsOrdinalIgnoreCase (s value : String) : Bool :=
  (List.range (s.toList.length + 1)).any fun i =>
    startsWithOrdinalIgnoreCase (String.ofList (s.toList.drop i)) value

/-- `DateTime.ToUniversalTime`: a value of unspecified kind is taken as local time. -/
def DateTime.toUniversalTime (t : DateTime) : DateTime :=
  match t.kind with
  | .utc => t
  | .localTime | .unspecified => { ticks := t.ticks - Host.utcOffset, kind := .utc }

/-- A scan finds the rows of the table. -/
@[simp] theorem mem_scanOrder {α : Type} {rows : List α} {r : α} :
    r ∈ Host.scanOrder rows ↔ r ∈ rows :=
  (Host.scanOrder_perm rows).mem_iff

/-- A digest is not empty. -/
theorem sha256Hex_ne_empty (s : String) : Host.sha256Hex s ≠ "" := by
  intro h
  have := Host.sha256Hex_length s
  rw [h] at this
  exact absurd this (by decide)

/-- A text is equal to itself. -/
@[simp] theorem equalsOrdinalIgnoreCase_self (a : String) :
    equalsOrdinalIgnoreCase a a = true := by
  simp [equalsOrdinalIgnoreCase]

/-- The upper case of the start is the start of the upper case. -/
theorem startsWithOrdinalIgnoreCase_iff {s start : String} :
    startsWithOrdinalIgnoreCase s start = true
      ↔ start.toList.map Host.toUpperInvariant <+: s.toList.map Host.toUpperInvariant := by
  rw [startsWithOrdinalIgnoreCase, equalsOrdinalIgnoreCase, decide_eq_true_eq, String.toList_ofList,
    List.prefix_iff_eq_take, List.length_map, List.map_take, eq_comm]

/-- The case map is injective on the lower-case hex digits. -/
theorem map_toUpperInvariant_inj :
    ∀ {cs ds : List Char}, (∀ c ∈ cs, isLowerHexDigit c = true) →
      (∀ d ∈ ds, isLowerHexDigit d = true) →
      cs.map Host.toUpperInvariant = ds.map Host.toUpperInvariant → cs = ds := by
  have hascii : ∀ {c : Char}, isLowerHexDigit c = true →
      Host.toUpperInvariant c = c.toUpper := by
    intro c hc
    refine Host.toUpperInvariant_ascii c ?_
    simp only [isLowerHexDigit, decide_eq_true_eq] at hc
    omega
  intro cs
  induction cs with
  | nil =>
    intro ds _ _ h
    exact (List.map_eq_nil_iff.mp h.symm).symm
  | cons c cs ih =>
    intro ds hcs hds h
    cases ds with
    | nil => cases h
    | cons d ds =>
      rw [List.map_cons, List.map_cons, List.cons.injEq] at h
      have hc := hcs c List.mem_cons_self
      have hd := hds d List.mem_cons_self
      rw [hascii hc, hascii hd] at h
      rw [toUpper_inj_of_isLowerHexDigit hc hd h.1,
        ih (fun x hx => hcs x (List.mem_cons_of_mem _ hx))
          (fun x hx => hds x (List.mem_cons_of_mem _ hx)) h.2]

/-- On strings of lower-case hex digits, `OrdinalIgnoreCase` is equality. -/
theorem equalsOrdinalIgnoreCase_hex_iff {a b : String}
    (ha : ∀ c ∈ a.toList, isLowerHexDigit c = true)
    (hb : ∀ c ∈ b.toList, isLowerHexDigit c = true) :
    equalsOrdinalIgnoreCase a b = true ↔ a = b := by
  rw [equalsOrdinalIgnoreCase, decide_eq_true_eq, ← String.toList_inj]
  exact ⟨map_toUpperInvariant_inj ha hb, fun h => by rw [h]⟩

end

/-! ### A host for runs on fixed inputs -/

namespace Host

/-- The SHA-256 digests of the inputs that the runs use. -/
def sampleDigests : List (String × String) :=
  [("1234", "03ac674216f3e15c761ee1a5e255f067953623c8b388b4459e13f978d7c846f4"),
    ("5678", "f8638b979b2f4f793ddb6dbd197e0ee25a7a6ea32b0ae22f5e3c5d119d839e75")]

/-- The digest of `s`, or 64 zeros where the table has none. -/
def sampleDigest (s : String) : String :=
  (sampleDigests.lookup s).getD (String.ofList (List.replicate 64 '0'))

/-- 64 hex digits. -/
def isDigest (s : String) : Bool := s.toList.length = 64 && s.toList.all isLowerHexDigit

/-- The sample digest is a digest. -/
theorem sampleDigest_isDigest (s : String) : isDigest (sampleDigest s) = true := by
  have htable : (String.ofList (List.replicate 64 '0') :: sampleDigests.map Prod.snd).all
      isDigest = true := by decide +kernel
  refine List.all_eq_true.mp htable _ ?_
  unfold sampleDigest
  cases h : sampleDigests.lookup s with
  | none => exact List.mem_cons_self
  | some d =>
    obtain ⟨_, _, hd, -⟩ := List.lookup_eq_some_iff.mp h
    refine List.mem_cons_of_mem _ (List.mem_map.mpr ⟨(s, d), ?_, rfl⟩)
    rw [hd]
    simp

/-- The sample digest has 64 characters. -/
theorem sampleDigest_length (s : String) : (sampleDigest s).toList.length = 64 :=
  of_decide_eq_true (Bool.and_eq_true_iff.mp (sampleDigest_isDigest s)).1

/-- The sample digest has hexadecimal digits. -/
theorem sampleDigest_digits (s : String) :
    ∀ c ∈ (sampleDigest s).toList, isLowerHexDigit c = true :=
  List.all_eq_true.mp (Bool.and_eq_true_iff.mp (sampleDigest_isDigest s)).2

/-- An id that is longer than every id in use. -/
def sampleGuid (used : List String) : String :=
  String.ofList (List.replicate ((used.map String.toList).flatten.length + 1) 'g')

/-- The sample id is new. -/
theorem sampleGuid_fresh (used : List String) : sampleGuid used ∉ used := by
  intro h
  have hle : (sampleGuid used).toList.length ≤ (used.map String.toList).flatten.length :=
    (List.sublist_flatten_of_mem (List.mem_map.mpr ⟨_, h, rfl⟩)).length_le
  rw [sampleGuid, String.toList_ofList, List.length_replicate] at hle
  exact Nat.not_succ_le_self _ hle

/-- A server in UTC whose tables are read in the order of insertion. -/
@[reducible] def sample : Host where
  sha256Hex := sampleDigest
  sha256Hex_length := sampleDigest_length
  sha256Hex_digits := sampleDigest_digits
  toUpperInvariant := Char.toUpper
  toUpperInvariant_ascii _ _ := rfl
  newGuid := sampleGuid
  newGuid_fresh := sampleGuid_fresh
  newGuid_not_blank used := by
    simp [isNullOrWhiteSpace, sampleGuid, List.replicate_succ, isWhiteSpace]
  scanOrder rows := rows
  scanOrder_perm rows := List.Perm.refl rows
  readDateTime t := t
  tryParseDateTime s :=
    if s = "2026-01-01T00:00:00Z" then some { ticks := 639028224000000000 }
    else if s = "2026-01-02T00:00:00Z" then some { ticks := 639029088000000000 }
    else none
  utcOffset := 0

end Host

end CodeMaster.Core
