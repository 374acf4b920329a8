import CodeMaster.Data.AuditLogRepository

/-!
# `CodeMaster.Web.AccessLogsController`: the pages of the audit log

`getLogs` fetches the newest entries, filters them, and skips to the page. The numbers are `int`s,
whose products wrap around.

`enumTryParse` is `Enum.TryParse` with `ignoreCase`: a list of names, or a number, which need not
be the number of a name.
-/

set_option autoImplicit false

namespace CodeMaster.Web

open CodeMaster.Core Data AuditLogRepository

/-- The names of the methods, as a request gives them. -/
def accessMethodNames : List String :=
  ["RingKeypad", "BuiltInKeypad", "ZWaveKeypad", "Manual", "RF", "AutoLock"]

/-- The names of the events, as a request gives them. -/
def accessEventTypeNames : List String := ["Unlocked", "Locked", "Denied", "Jammed", "AutoLocked"]

/-- The number of the enumeration value. -/
def accessMethodValue : AccessMethod → Int
  | .ringKeypad => 0
  | .builtInKeypad => 1
  | .zWaveKeypad => 2
  | .manual => 3
  | .rf => 4
  | .autoLock => 5

/-- The number of the enumeration value. -/
def accessEventTypeValue : AccessEventType → Int
  | .unlocked => 0
  | .locked => 1
  | .denied => 2
  | .jammed => 3
  | .autoLocked => 4

/-- The value of an `int` expression, which wraps around. -/
def toInt32 (n : Int) : Int := (BitVec.ofInt 32 n).toInt

/-- Decimal digits, at least one. -/
def digitsValue (digits : List Char) : Option Nat :=
  if digits.isEmpty ∨ digits.any (fun c => !c.isDigit) then none
  else some (digits.foldl (fun value c => 10 * value + (c.toNat - '0'.toNat)) 0)

/-- A number with an optional sign, if it is an `int`. -/
def enumNumber (text : List Char) : Option Int := do
  let value : Int ← match text with
    | '-' :: digits => (digitsValue digits).map fun n => -(n : Int)
    | '+' :: digits => (digitsValue digits).map Int.ofNat
    | digits => (digitsValue digits).map Int.ofNat
  if -2147483648 ≤ value ∧ value ≤ 2147483647 then some value else none

section
variable [Host]

/-- Names that are separated by commas: their numbers, bit by bit. -/
def enumNames (names : List String) (text : List Char) : Option Int := do
  let values ← (text.splitOn ',').mapM fun piece =>
    names.findIdx? (equalsOrdinalIgnoreCase (trim isWhiteSpace (String.ofList piece)))
  return Int.ofNat (values.foldl Nat.lor 0)

/-- `Enum.TryParse(value, ignoreCase: true, out _)`. -/
def enumTryParse (names : List String) (value : String) : Option Int :=
  let text := (trim isWhiteSpace value).toList
  match text with
  | [] => none
  | c :: _ => if c.isDigit || c = '-' || c = '+' then enumNumber text else enumNames names text

/-- The value that a filter asks for. A blank or unknown text is no filter. -/
def enumFilter (names : List String) (text : Option String) : Option Int :=
  if isNullOrWhiteSpace text then none else text.bind (enumTryParse names)

namespace AccessLogsController

/-- The three `Where` clauses. -/
def matchesFilters (userId method eventType : Option String) (log : AccessLog) : Bool :=
  (isNullOrWhiteSpace userId
      || (log.userId.any fun id => userId.any fun userId => equalsOrdinalIgnoreCase id userId))
    && ((enumFilter accessMethodNames method).all fun value => accessMethodValue log.method = value)
    && (enumFilter accessEventTypeNames eventType).all
      fun value => accessEventTypeValue log.eventType = value

/-- `Math.Clamp(limit, 1, 500)`. -/
def clampLimit (limit : BitVec 32) : Int := max 1 (min limit.toInt 500)

/-- `GetLogs`: one page of the entries. The filters by method and event come after the page is
read. -/
def getLogs (doorId userId method eventType : Option String) (limit page : BitVec 32)
    (accessLogs : AccessLogs) : List AccessLog :=
  let limit := clampLimit limit
  let page := max 1 page.toInt
  let rawLogs :=
    if isNullOrWhiteSpace doorId then getAllRecentLogsAsync (toInt32 (limit * page)) accessLogs
    else getRecentLogsAsync (doorId.getD "") (toInt32 (limit * page)) accessLogs
  -- The filters see the fetched entries only.
  let query := rawLogs.filter (matchesFilters userId method eventType)
  let skip := toInt32 ((page - 1) * limit)
  (query.drop skip.toNat).take limit.toNat

end AccessLogsController

end

end CodeMaster.Web
