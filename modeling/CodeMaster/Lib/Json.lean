/-!
# `CodeMaster.Lib.Json`: JSON texts

`write` is the shortest text of a value. `read` takes a text character by character: a `Reader` is
in a string, in a number, in a literal or between two of them, and its stack holds the arrays and
objects that are not yet closed. So it needs no bound on the length or the depth of the text.

The round trip is `read_stringify`: what has been written is read back, for any value whose numbers
are texts of JSON numbers.

A number is its text, and an object is the list of its members, so that nothing is rounded and no
member is lost. A string is a sequence of Unicode scalar values: a surrogate that is escaped without
its other half is an error.
-/

set_option autoImplicit false

/-- A JSON value. A number is its text, and the members of an object keep their order. -/
inductive Json where
  | null
  | bool (value : Bool)
  | number (text : String)
  | string (value : String)
  | array (items : List Json)
  | object (members : List (String × Json))

namespace Json

/-! ### Writing -/

/-- A digit of an escape, in lower case. -/
def hexDigit (n : Nat) : Char :=
  if n < 10 then Char.ofNat (0x30 + n) else Char.ofNat (0x57 + n)

/-- The escapes that have a letter of their own. -/
def shortEscape (c : Char) : Option Char :=
  if c = '"' then some '"'
  else if c = '\\' then some '\\'
  else if c = '\x08' then some 'b'
  else if c = '\x0c' then some 'f'
  else if c = '\n' then some 'n'
  else if c = '\r' then some 'r'
  else if c = '\t' then some 't'
  else none

/-- A character in a string: a short escape, a long one for another control character, or itself. -/
def escape (c : Char) : List Char :=
  match shortEscape c with
  | some letter => ['\\', letter]
  | none =>
    if c.toNat < 0x20 then ['\\', 'u', '0', '0', hexDigit (c.toNat / 16), hexDigit (c.toNat % 16)]
    else [c]

/-- A string in quotes. -/
def writeString (s : String) : List Char := '"' :: (s.toList.flatMap escape ++ ['"'])

/-- All members but the first one have a comma before them. -/
def comma (isFirst : Bool) : List Char := if isFirst then [] else [',']

mutual

/-- The characters of the text of a value. -/
def write : Json → List Char
  | .null => ['n', 'u', 'l', 'l']
  | .bool true => ['t', 'r', 'u', 'e']
  | .bool false => ['f', 'a', 'l', 's', 'e']
  | .number text => text.toList
  | .string value => writeString value
  | .array items => '[' :: (writeItems true items ++ [']'])
  | .object members => '{' :: (writeMembers true members ++ ['}'])

/-- The items of an array, with commas between them. -/
def writeItems (isFirst : Bool) : List Json → List Char
  | [] => []
  | item :: items => comma isFirst ++ (write item ++ writeItems false items)

/-- The members of an object, with commas between them. -/
def writeMembers (isFirst : Bool) : List (String × Json) → List Char
  | [] => []
  | (key, value) :: members =>
    comma isFirst ++ (writeString key ++ ':' :: (write value ++ writeMembers false members))

end

/-- The text of a value. -/
def stringify (v : Json) : String := String.ofList v.write

/-! ### Numbers -/

/-- What has been read of a number. -/
inductive NumberPhase where
  | sign
  | zero
  | integer
  | point
  | fraction
  | exponent
  | exponentSign
  | power
  deriving DecidableEq, Repr

namespace NumberPhase

/-- The phase after the first character of a number. -/
def first (c : Char) : Option NumberPhase :=
  if c = '-' then some .sign
  else if c = '0' then some .zero
  else if c.isDigit then some .integer
  else none

/-- What can follow the digits before the point. -/
def afterInteger (c : Char) : Option NumberPhase :=
  if c = '.' then some .point
  else if c = 'e' ∨ c = 'E' then some .exponent
  else none

/-- The phase after one more character of a number. -/
def next (c : Char) : NumberPhase → Option NumberPhase
  | .sign => if c = '0' then some .zero else if c.isDigit then some .integer else none
  | .zero => afterInteger c
  | .integer => if c.isDigit then some .integer else afterInteger c
  | .point => if c.isDigit then some .fraction else none
  | .fraction =>
    if c.isDigit then some .fraction else if c = 'e' ∨ c = 'E' then some .exponent else none
  | .exponent =>
    if c = '+' ∨ c = '-' then some .exponentSign else if c.isDigit then some .power else none
  | .exponentSign | .power => if c.isDigit then some .power else none

/-- The number can end here. -/
def isEnd : NumberPhase → Bool
  | .zero | .integer | .fraction | .power => true
  | _ => false

end NumberPhase

/-- A text of a JSON number. -/
def isNumber (text : String) : Bool :=
  match text.toList with
  | [] => false
  | c :: cs =>
    ((NumberPhase.first c).bind fun phase => cs.foldlM (fun phase c => phase.next c) phase).any
      NumberPhase.isEnd

/-! ### Strings -/

/-- The value of a hexadecimal digit, in either case. -/
def hexValue (c : Char) : Option Nat :=
  if c.isDigit then some (c.toNat - 0x30)
  else if 'a' ≤ c ∧ c ≤ 'f' then some (c.toNat - 0x57)
  else if 'A' ≤ c ∧ c ≤ 'F' then some (c.toNat - 0x37)
  else none

/-- The character of an escape that is one letter. -/
def unescape (letter : Char) : Option Char :=
  if letter = '"' then some '"'
  else if letter = '\\' then some '\\'
  else if letter = '/' then some '/'
  else if letter = 'b' then some '\x08'
  else if letter = 'f' then some '\x0c'
  else if letter = 'n' then some '\n'
  else if letter = 'r' then some '\r'
  else if letter = 't' then some '\t'
  else none

/-- What has been read of an escape. `code` is the value of the first `count` digits of a code unit,
and `high` the first half of a surrogate pair. -/
inductive Escape where
  | none
  | backslash
  | unit (high : Option Nat) (code count : Nat)
  | high (high : Nat)
  | highBackslash (high : Nat)
  deriving DecidableEq, Repr

/-- The first half of a surrogate pair. -/
def isHighSurrogate (code : Nat) : Bool := 0xD800 ≤ code && code < 0xDC00

/-- The second half of a surrogate pair. -/
def isLowSurrogate (code : Nat) : Bool := 0xDC00 ≤ code && code < 0xE000

/-- A code unit has been read. -/
def endUnit (chars : List Char) (high : Option Nat) (code : Nat) :
    Option (List Char × Escape) :=
  match high with
  | none =>
    if isHighSurrogate code then some (chars, .high code)
    else if isLowSurrogate code then none
    else some (chars ++ [Char.ofNat code], .none)
  | some high =>
    if isLowSurrogate code then
      some (chars ++ [Char.ofNat (0x10000 + (high - 0xD800) * 0x400 + (code - 0xDC00))], .none)
    else none

/-- A character inside of a string that does not end it. -/
def stepString (chars : List Char) (escape : Escape) (c : Char) : Option (List Char × Escape) :=
  match escape with
  | .none =>
    if c = '\\' then some (chars, .backslash)
    else if c.toNat < 0x20 then none
    else some (chars ++ [c], .none)
  | .backslash =>
    if c = 'u' then some (chars, .unit none 0 0)
    else (unescape c).map fun d => (chars ++ [d], .none)
  | .unit high code count =>
    match hexValue c with
    | none => none
    | some digit =>
      if count < 3 then some (chars, .unit high (16 * code + digit) (count + 1))
      else endUnit chars high (16 * code + digit)
  | .high high => if c = '\\' then some (chars, .highBackslash high) else none
  | .highBackslash high => if c = 'u' then some (chars, .unit (some high) 0 0) else none

/-! ### Reading -/

/-- An array or an object that is not closed. -/
inductive Frame where
  | array (items : List Json)
  | object (members : List (String × Json))
  | member (members : List (String × Json)) (key : String)

/-- What the reader has read last, or is reading. -/
inductive Phase where
  | value
  | firstItem
  | firstKey
  | key
  | colon
  | afterItem
  | afterMember
  | finished (value : Json)
  | string (chars : List Char) (escape : Escape)
  | number (chars : List Char) (phase : NumberPhase)
  | literal (rest : List Char) (value : Json)

/-- Where a reader is: the arrays and objects that are open, and what comes next. -/
structure Reader where
  stack : List Frame := []
  phase : Phase := .value

namespace Reader

/-- A value has been read. In an object without a key, it is the key. -/
def complete (v : Json) : List Frame → Option Reader
  | [] => some { phase := .finished v }
  | .array items :: stack => some { stack := .array (items ++ [v]) :: stack, phase := .afterItem }
  | .member members key :: stack =>
    some { stack := .object (members ++ [(key, v)]) :: stack, phase := .afterMember }
  | .object members :: stack =>
    match v with
    | .string key => some { stack := .member members key :: stack, phase := .colon }
    | _ => none

/-- The first character of a value. -/
def startValue (stack : List Frame) (c : Char) : Option Reader :=
  if c = '"' then some { stack, phase := .string [] .none }
  else if c = '[' then some { stack := .array [] :: stack, phase := .firstItem }
  else if c = '{' then some { stack := .object [] :: stack, phase := .firstKey }
  else if c = 'n' then some { stack, phase := .literal ['u', 'l', 'l'] .null }
  else if c = 't' then some { stack, phase := .literal ['r', 'u', 'e'] (.bool true) }
  else if c = 'f' then some { stack, phase := .literal ['a', 'l', 's', 'e'] (.bool false) }
  else (NumberPhase.first c).map fun phase => { stack, phase := .number [c] phase }

/-- The blanks between tokens. -/
def isWhite (c : Char) : Bool := c = ' ' || c = '\t' || c = '\n' || c = '\r'

/-- A character outside of strings, numbers and literals. -/
def between (r : Reader) (c : Char) : Option Reader :=
  if isWhite c then some r
  else
    match r.phase, r.stack with
    | .value, stack => startValue stack c
    | .firstItem, .array items :: stack =>
      if c = ']' then complete (.array items) stack else startValue r.stack c
    | .firstKey, .object members :: stack =>
      if c = '}' then complete (.object members) stack
      else if c = '"' then some { r with phase := .string [] .none }
      else none
    | .key, _ => if c = '"' then some { r with phase := .string [] .none } else none
    | .colon, _ => if c = ':' then some { r with phase := .value } else none
    | .afterItem, .array items :: stack =>
      if c = ',' then some { r with phase := .value }
      else if c = ']' then complete (.array items) stack
      else none
    | .afterMember, .object members :: stack =>
      if c = ',' then some { r with phase := .key }
      else if c = '}' then complete (.object members) stack
      else none
    | _, _ => none

/-- One character. -/
def step (r : Reader) (c : Char) : Option Reader :=
  match r.phase with
  | .string chars escape =>
    if escape = .none ∧ c = '"' then complete (.string (String.ofList chars)) r.stack
    else (stepString chars escape c).map fun x => { r with phase := .string x.1 x.2 }
  | .number chars phase =>
    match phase.next c with
    | some phase => some { r with phase := .number (chars ++ [c]) phase }
    | none =>
      -- The character is the first one after the number.
      if phase.isEnd then
        (complete (.number (String.ofList chars)) r.stack).bind fun r => r.between c
      else none
  | .literal [d] v => if c = d then complete v r.stack else none
  | .literal (d :: rest) v => if c = d then some { r with phase := .literal rest v } else none
  | _ => r.between c

/-- All characters of a text, one after the other. -/
def run (r : Reader) (cs : List Char) : Option Reader := cs.foldlM step r

/-- The value, when the text ends here. -/
def result (r : Reader) : Option Json :=
  match r.phase, r.stack with
  | .finished v, [] => some v
  | .number chars phase, [] => if phase.isEnd then some (.number (String.ofList chars)) else none
  | _, _ => none

end Reader

/-- The value of a text, if it is a JSON text. -/
def read (text : String) : Option Json := (Reader.run {} text.toList).bind Reader.result

/-! ### The round trip -/

mutual

/-- The numbers of the value are texts of JSON numbers. -/
def isLegal : Json → Bool
  | .number text => isNumber text
  | .array items => areLegal items
  | .object members => areLegalMembers members
  | _ => true

/-- Every item is legal. -/
def areLegal : List Json → Bool
  | [] => true
  | item :: items => isLegal item && areLegal items

/-- Every member is legal. -/
def areLegalMembers : List (String × Json) → Bool
  | [] => true
  | (_, value) :: members => isLegal value && areLegalMembers members

end

namespace Reader

/-- A reader reads nothing. -/
theorem run_nil (r : Reader) : run r [] = some r := rfl

/-- A reader reads one character, and then the rest. -/
theorem run_cons (r : Reader) (c : Char) (cs : List Char) :
    run r (c :: cs) = (r.step c).bind fun r => run r cs := rfl

/-- A reader reads a text in two parts. -/
theorem run_append (r : Reader) (cs ds : List Char) :
    run r (cs ++ ds) = (run r cs).bind fun r => run r ds :=
  List.foldlM_append

/-! #### Strings -/

/-- A digit that was written is read back. -/
theorem hexValue_hexDigit {n : Nat} (h : n < 16) : hexValue (hexDigit n) = some n := by
  have hall : ∀ n < 16, hexValue (hexDigit n) = some n := by decide
  exact hall n h

/-- A character with a short escape is the one that the letter stands for. -/
theorem unescape_of_shortEscape {c letter : Char} (h : shortEscape c = some letter) :
    unescape letter = some c ∧ letter ≠ 'u' := by
  unfold shortEscape at h
  repeat' split at h
  any_goals (cases h; subst_vars; decide)
  cases h

variable {stack : List Frame}

/-- A reader in a string. -/
def inString (stack : List Frame) (chars : List Char) (escape : Escape) : Reader :=
  { stack, phase := .string chars escape }

/-- A character inside of a string, other than the quote that ends it. -/
theorem step_inString {chars : List Char} {escape : Escape} {c : Char}
    (h : ¬ (escape = .none ∧ c = '"')) :
    (inString stack chars escape).step c
      = (stepString chars escape c).map fun x => inString stack x.1 x.2 := by
  show (if escape = .none ∧ c = '"' then _ else _) = _
  rw [if_neg h]
  rfl

/-- A digit of a long escape, before the last one. -/
theorem step_unit {chars : List Char} {code count n : Nat} {d : Char}
    (hd : hexValue d = some n) (hcount : count < 3) :
    (inString stack chars (.unit none code count)).step d
      = some (inString stack chars (.unit none (16 * code + n) (count + 1))) := by
  rw [step_inString (by simp)]
  simp only [stepString, hd, if_pos hcount, Option.map_some]

/-- The escape of a control character. -/
theorem run_control (chars : List Char) {c : Char} (h : c.toNat < 0x20) :
    run (inString stack chars .none)
        ['\\', 'u', '0', '0', hexDigit (c.toNat / 16), hexDigit (c.toNat % 16)]
      = some (inString stack (chars ++ [c]) .none) := by
  have hhigh : hexValue (hexDigit (c.toNat / 16)) = some (c.toNat / 16) :=
    hexValue_hexDigit (by omega)
  have hlow : hexValue (hexDigit (c.toNat % 16)) = some (c.toNat % 16) :=
    hexValue_hexDigit (by omega)
  have hcode : 16 * (16 * (16 * (16 * 0 + 0) + 0) + c.toNat / 16) + c.toNat % 16 = c.toNat := by
    omega
  have hback : (inString stack chars .none).step '\\' = some (inString stack chars .backslash) :=
    rfl
  have hu : (inString stack chars .backslash).step 'u'
      = some (inString stack chars (.unit none 0 0)) := rfl
  have hlast : (inString stack chars
        (.unit none (16 * (16 * (16 * 0 + 0) + 0) + c.toNat / 16) 3)).step (hexDigit (c.toNat % 16))
      = some (inString stack (chars ++ [c]) .none) := by
    rw [step_inString (by simp)]
    have hsurrogate : isHighSurrogate c.toNat = false ∧ isLowSurrogate c.toNat = false := by
      constructor <;> simp [isHighSurrogate, isLowSurrogate] <;> omega
    simp only [stepString, hlow, hcode, endUnit, hsurrogate.1, hsurrogate.2, Char.ofNat_toNat,
      Nat.lt_irrefl, if_false, Bool.false_eq_true, Option.map_some]
  simp only [run_cons, hback, hu, step_unit (n := 0) (d := '0') rfl (by omega : 0 < 3),
    step_unit (n := 0) (d := '0') rfl (by omega : 0 + 1 < 3),
    step_unit hhigh (by omega : 0 + 1 + 1 < 3), hlast, Option.bind_some, run_nil]

/-- What has been escaped is read back. -/
theorem run_escape (chars : List Char) (c : Char) :
    run (inString stack chars .none) (escape c) = some (inString stack (chars ++ [c]) .none) := by
  unfold escape
  cases hshort : shortEscape c with
  | some letter =>
    obtain ⟨hletter, hu⟩ := unescape_of_shortEscape hshort
    have hback : (inString stack chars .none).step '\\'
        = some (inString stack chars .backslash) := rfl
    have hend : (inString stack chars .backslash).step letter
        = some (inString stack (chars ++ [c]) .none) := by
      rw [step_inString (by simp)]
      simp only [stepString, if_neg hu, hletter, Option.map_some]
    simp only [run_cons, hback, hend, Option.bind_some, run_nil]
  | none =>
    have hplain : c ≠ '"' ∧ c ≠ '\\' := by
      constructor <;> rintro rfl <;> simp [shortEscape] at hshort
    dsimp only
    split
    · rename_i hcontrol
      exact run_control chars hcontrol
    · rename_i hcontrol
      rw [run_cons, step_inString (by simp [hplain.1])]
      simp only [stepString, if_neg hplain.2, if_neg hcontrol, Option.map_some, Option.bind_some,
        run_nil]

/-- The characters of a string are read back. The induction is on the characters. -/
theorem run_chars (chars s : List Char) :
    run (inString stack chars .none) (s.flatMap escape)
      = some (inString stack (chars ++ s) .none) := by
  induction s generalizing chars with
  | nil => simp [run_nil]
  | cons c s ih =>
    rw [List.flatMap_cons, run_append, run_escape, Option.bind_some, ih, List.append_assoc,
      List.singleton_append]

/-- A string is read, as a value or as a key, where its first character opens one. -/
theorem run_writeString {r : Reader} (hopen : r.step '"' = some (inString r.stack [] .none))
    (s : String) : run r (writeString s) = complete (.string s) r.stack := by
  have hclose : (inString r.stack s.toList .none).step '"' = complete (.string s) r.stack := by
    show complete (.string (String.ofList s.toList)) r.stack = _
    rw [String.ofList_toList]
  rw [writeString, run_cons, hopen, Option.bind_some, run_append, run_chars, Option.bind_some,
    List.nil_append, run_cons, hclose]
  cases complete (.string s) r.stack <;> rfl

/-! #### Values -/

/-- A value can start here. -/
structure Starts (r : Reader) : Prop where
  phase : r.phase = .value
    ∨ (r.phase = .firstItem ∧ ∃ items stack, r.stack = .array items :: stack)
  -- The keys of an object are no values.
  stack : ∀ members stack, r.stack ≠ .object members :: stack

/-- A reader that expects a value starts one at every character but a blank and the end of an
array. -/
theorem Starts.step {r : Reader} (h : Starts r) {c : Char} (hwhite : isWhite c = false)
    (hclose : c ≠ ']') : r.step c = startValue r.stack c := by
  obtain ⟨stack, phase⟩ := r
  obtain ⟨hphase | ⟨hphase, items, stack', hstack⟩, -⟩ := h
  · dsimp only at hphase
    subst hphase
    show (if isWhite c = true then _ else startValue stack c) = _
    rw [hwhite]
    rfl
  · dsimp only at hphase hstack
    subst hphase hstack
    show (if isWhite c = true then _ else if c = ']' then _ else startValue _ c) = _
    rw [hwhite, if_neg hclose]
    rfl

/-- The value has been read, or it is a number that may end here. -/
def Completes (r : Reader) (v : Json) (stack : List Frame) : Prop :=
  complete v stack = some r
    ∨ ∃ chars phase, r = { stack, phase := .number chars phase } ∧ phase.isEnd = true
        ∧ v = .number (String.ofList chars)

/-- The characters that can follow a value. -/
def isDelimiter (c : Char) : Bool := c = ',' || c = ']' || c = '}'

/-- A delimiter does not continue a number. -/
theorem next_of_isDelimiter {c : Char} (h : isDelimiter c = true) (phase : NumberPhase) :
    phase.next c = none := by
  unfold isDelimiter at h
  simp only [Bool.or_eq_true, decide_eq_true_eq] at h
  obtain (rfl | rfl) | rfl := h <;> cases phase <;> rfl

/-- After a complete value, the next character is between values. -/
theorem step_of_complete {r : Reader} {v : Json} {stack : List Frame}
    (h : complete v stack = some r) (c : Char) : r.step c = r.between c := by
  cases stack with
  | nil =>
    cases h
    rfl
  | cons frame stack =>
    cases frame with
    | array | member =>
      cases h
      rfl
    | object members =>
      cases v with
      | string key =>
        cases h
        rfl
      | _ => cases h

/-- A delimiter is read as if the value had been read before it. -/
theorem Completes.step {r r' : Reader} {v : Json} {stack : List Frame} (h : Completes r' v stack)
    (hr : complete v stack = some r) {c : Char} (hc : isDelimiter c = true) :
    r'.step c = r.step c := by
  obtain hr' | ⟨chars, phase, rfl, hend, rfl⟩ := h
  · rw [hr] at hr'
    cases hr'
    rfl
  · show (match phase.next c with
      | some phase => _
      | none => if phase.isEnd = true then
          (complete (.number (String.ofList chars)) stack).bind fun r => r.between c
        else none) = _
    rw [next_of_isDelimiter hc, if_pos hend, hr, Option.bind_some, step_of_complete hr]

/-- A reader that completes a value at a delimiter goes on with this delimiter. -/
theorem Completes.run {r r' : Reader} {v : Json} {stack : List Frame} (h : Completes r' v stack)
    (hr : complete v stack = some r) {c : Char} (hc : isDelimiter c = true) (cs : List Char) :
    run r' (c :: cs) = run r (c :: cs) := by
  rw [run_cons, run_cons, h.step hr hc]

/-- Where a value can start it can be completed. -/
theorem Starts.complete {r : Reader} (h : Starts r) (v : Json) :
    ∃ r', complete v r.stack = some r' := by
  cases hstack : r.stack with
  | nil => exact ⟨_, rfl⟩
  | cons frame stack =>
    cases frame with
    | array | member => exact ⟨_, rfl⟩
    | object members => exact absurd hstack (h.stack members stack)

/-- The text of a literal is read back. -/
theorem run_literal {stack : List Frame} {v : Json} {c : Char} {cs : List Char} :
    run { stack, phase := .literal (c :: cs) v } (c :: cs) = Reader.complete v stack := by
  induction cs generalizing c with
  | nil =>
    have hstep : ({ stack, phase := .literal [c] v } : Reader).step c
        = Reader.complete v stack := by
      show (if c = c then Reader.complete v stack else none) = _
      rw [if_pos rfl]
    rw [run_cons, hstep]
    cases Reader.complete v stack <;> rfl
  | cons d cs ih =>
    have hstep : ({ stack, phase := .literal (c :: d :: cs) v } : Reader).step c
        = some { stack, phase := .literal (d :: cs) v } := by
      show (if c = c then some _ else none) = _
      rw [if_pos rfl]
    rw [run_cons, hstep, Option.bind_some, ih]

/-- A literal is read where its first character starts it. -/
theorem Starts.literal {r : Reader} (h : Starts r) {v : Json} {c d : Char} {cs : List Char}
    (hstep : r.step c = some { stack := r.stack, phase := .literal (d :: cs) v }) :
    ∃ r', run r (c :: d :: cs) = some r' ∧ Completes r' v r.stack := by
  obtain ⟨r', hr'⟩ := h.complete v
  rw [run_cons, hstep, Option.bind_some, run_literal]
  exact ⟨r', hr', Or.inl hr'⟩

/-- The characters of a number after the first one. -/
theorem run_numberRest {stack : List Frame} {cs : List Char} (chars : List Char)
    {phase last : NumberPhase} (h : cs.foldlM (fun phase c => phase.next c) phase = some last) :
    run { stack, phase := .number chars phase } cs
      = some { stack, phase := .number (chars ++ cs) last } := by
  induction cs generalizing chars phase with
  | nil =>
    cases h
    rw [List.append_nil, run_nil]
  | cons c cs ih =>
    cases hnext : phase.next c with
    | none => simp [hnext] at h
    | some phase' =>
      rw [List.foldlM_cons, hnext] at h
      have hstep : ({ stack, phase := .number chars phase } : Reader).step c
          = some { stack, phase := .number (chars ++ [c]) phase' } := by
        show (match phase.next c with
          | some phase => _
          | none => _) = _
        rw [hnext]
      rw [run_cons, hstep, Option.bind_some, ih _ h, List.append_assoc, List.singleton_append]

/-- The first character of a number starts no other value. -/
theorem startValue_of_first {stack : List Frame} {c : Char} {phase : NumberPhase}
    (h : NumberPhase.first c = some phase) :
    isWhite c = false ∧ c ≠ ']'
      ∧ startValue stack c = some { stack, phase := .number [c] phase } := by
  let starters : List Char := ['"', '[', '{', 'n', 't', 'f', ' ', '\t', '\n', '\r', ']']
  have hall : (starters.all fun d => (NumberPhase.first d).isNone) = true := by decide
  have hnone : ∀ d ∈ starters, NumberPhase.first d = none := fun d hd =>
    Option.isNone_iff_eq_none.mp (List.all_eq_true.mp hall d hd)
  have hother : ∀ d ∈ ['"', '[', '{', 'n', 't', 'f', ' ', '\t', '\n', '\r', ']'], c ≠ d := by
    rintro d hd rfl
    rw [hnone c hd] at h
    cases h
  simp only [List.mem_cons, forall_eq_or_imp, List.not_mem_nil, false_implies, implies_true,
    and_true] at hother
  obtain ⟨h1, h2, h3, h4, h5, h6, h7, h8, h9, h10, h11⟩ := hother
  refine ⟨?_, h11, ?_⟩
  · simp [isWhite, h7, h8, h9, h10]
  · simp only [startValue, if_neg h1, if_neg h2, if_neg h3, if_neg h4, if_neg h5, if_neg h6, h,
      Option.map_some]

/-- A number is read to its end. -/
theorem Starts.number {r : Reader} (h : Starts r) {text : String} (htext : isNumber text = true) :
    ∃ r', run r text.toList = some r' ∧ Completes r' (.number text) r.stack := by
  unfold isNumber at htext
  split at htext
  · cases htext
  · rename_i c cs hchars
    obtain ⟨last, hlast, hend⟩ := (Option.any_eq_true _ _).mp htext
    obtain ⟨phase, hfirst, hrest⟩ := Option.bind_eq_some_iff.mp hlast
    obtain ⟨hwhite, hclose, hstart⟩ := @startValue_of_first r.stack c phase hfirst
    refine ⟨{ stack := r.stack, phase := .number (c :: cs) last }, ?_,
      Or.inr ⟨c :: cs, last, rfl, hend, ?_⟩⟩
    · rw [hchars, run_cons, h.step hwhite hclose, hstart, Option.bind_some,
        run_numberRest [c] hrest, List.singleton_append]
    · rw [← hchars, String.ofList_toList]

/-- After a value comes a delimiter, and the value goes to the stack. -/
theorem run_value {r r1 : Reader} {v : Json} {stack : List Frame} {text rest : List Char}
    (hv : ∃ r', run r text = some r' ∧ Completes r' v stack)
    (hr1 : Reader.complete v stack = some r1)
    (hrest : ∃ c cs, rest = c :: cs ∧ isDelimiter c = true) :
    run r (text ++ rest) = run r1 rest := by
  obtain ⟨r', hr', hcompletes⟩ := hv
  obtain ⟨c, cs, rfl, hc⟩ := hrest
  rw [run_append, hr', Option.bind_some, hcompletes.run hr1 hc]

/-- The text after the first item of an array starts with a delimiter. -/
theorem writeItems_delimiter (items : List Json) :
    ∃ c cs, writeItems false items ++ [']'] = c :: cs ∧ isDelimiter c = true := by
  cases items with
  | nil => exact ⟨']', [], rfl, rfl⟩
  | cons item items => exact ⟨',', _, rfl, rfl⟩

/-- The text after the first member of an object starts with a delimiter. -/
theorem writeMembers_delimiter (members : List (String × Json)) :
    ∃ c cs, writeMembers false members ++ ['}'] = c :: cs ∧ isDelimiter c = true := by
  cases members with
  | nil => exact ⟨'}', [], rfl, rfl⟩
  | cons member members => exact ⟨',', _, rfl, rfl⟩

/-- A reader reads one character. -/
theorem run_singleton (r : Reader) (c : Char) : run r [c] = r.step c := by
  rw [run_cons]
  cases r.step c <;> rfl

mutual

/-- A legal value is read where a value can start. -/
theorem run_write : ∀ (v : Json) {r : Reader}, isLegal v = true → Starts r →
    ∃ r', run r (write v) = some r' ∧ Completes r' v r.stack
  | .null, _, _, h => h.literal (h.step (by decide) (by decide))
  | .bool true, _, _, h => h.literal (h.step (by decide) (by decide))
  | .bool false, _, _, h => h.literal (h.step (by decide) (by decide))
  | .number _, _, hlegal, h => h.number hlegal
  | .string value, r, _, h => by
    obtain ⟨r', hr'⟩ := h.complete (.string value)
    refine ⟨r', ?_, Or.inl hr'⟩
    rw [write, run_writeString (h.step (by decide) (by decide)), hr']
  | .array items, r, hlegal, h => by
    obtain ⟨r', hr'⟩ := h.complete (.array items)
    have hopen : r.step '[' = some { stack := .array [] :: r.stack, phase := .firstItem } :=
      h.step (by decide) (by decide)
    refine ⟨r', ?_, Or.inl hr'⟩
    rw [write, run_cons, hopen, Option.bind_some]
    exact (run_writeItems items true [] hlegal).trans hr'
  | .object members, r, hlegal, h => by
    obtain ⟨r', hr'⟩ := h.complete (.object members)
    have hopen : r.step '{' = some { stack := .object [] :: r.stack, phase := .firstKey } :=
      h.step (by decide) (by decide)
    refine ⟨r', ?_, Or.inl hr'⟩
    rw [write, run_cons, hopen, Option.bind_some]
    exact (run_writeMembers members true [] hlegal).trans hr'

/-- The items of an array that is open, and its end. -/
theorem run_writeItems : ∀ (items : List Json) (isFirst : Bool) (done : List Json)
    {stack : List Frame}, areLegal items = true →
    run { stack := .array done :: stack, phase := if isFirst then .firstItem else .afterItem }
        (writeItems isFirst items ++ [']'])
      = Reader.complete (.array (done ++ items)) stack
  | [], isFirst, done, stack, _ => by
    rw [writeItems, List.nil_append, List.append_nil, run_singleton]
    cases isFirst <;> rfl
  | item :: items, isFirst, done, stack, hlegal => by
    obtain ⟨hitem, hitems⟩ := Bool.and_eq_true_iff.mp hlegal
    -- The comma leads to a place where a value can start.
    have hstart : ∃ r, Starts r ∧ r.stack = .array done :: stack ∧
        run { stack := .array done :: stack, phase := if isFirst then .firstItem else .afterItem }
          (comma isFirst) = some r := by
      cases isFirst with
      | true =>
        exact ⟨{ stack := .array done :: stack, phase := .firstItem },
          ⟨Or.inr ⟨rfl, done, stack, rfl⟩, by simp⟩, rfl, rfl⟩
      | false =>
        exact ⟨{ stack := .array done :: stack, phase := .value },
          ⟨Or.inl rfl, by simp⟩, rfl, rfl⟩
    obtain ⟨r, hr, hstack, hcomma⟩ := hstart
    have hvalue := run_write item hitem hr
    rw [hstack] at hvalue
    have hrest := run_value hvalue rfl (writeItems_delimiter items)
    rw [writeItems, List.append_assoc, List.append_assoc, run_append, hcomma, Option.bind_some,
      hrest]
    have hmore := @run_writeItems items false (done ++ [item]) stack hitems
    rw [List.append_assoc, List.singleton_append] at hmore
    exact hmore

/-- The members of an object that is open, and its end. -/
theorem run_writeMembers : ∀ (members : List (String × Json)) (isFirst : Bool)
    (done : List (String × Json)) {stack : List Frame}, areLegalMembers members = true →
    run { stack := .object done :: stack, phase := if isFirst then .firstKey else .afterMember }
        (writeMembers isFirst members ++ ['}'])
      = Reader.complete (.object (done ++ members)) stack
  | [], isFirst, done, stack, _ => by
    rw [writeMembers, List.nil_append, List.append_nil, run_singleton]
    cases isFirst <;> rfl
  | (key, value) :: members, isFirst, done, stack, hlegal => by
    obtain ⟨hvalueLegal, hmembers⟩ := Bool.and_eq_true_iff.mp hlegal
    -- The comma leads to a place where a key can start, and the colon to one for a value.
    have hstart : ∃ r, r.stack = .object done :: stack
        ∧ r.step '"' = some (inString r.stack [] .none) ∧
        run { stack := .object done :: stack, phase := if isFirst then .firstKey else .afterMember }
          (comma isFirst) = some r := by
      cases isFirst with
      | true => exact ⟨{ stack := .object done :: stack, phase := .firstKey }, rfl, rfl, rfl⟩
      | false => exact ⟨{ stack := .object done :: stack, phase := .key }, rfl, rfl, rfl⟩
    obtain ⟨r, hstack, hopen, hcomma⟩ := hstart
    have hkey := run_writeString hopen key
    rw [hstack] at hkey
    have hcolon : ({ stack := .member done key :: stack, phase := .colon } : Reader).step ':'
        = some { stack := .member done key :: stack, phase := .value } := rfl
    have hvalue := @run_write value { stack := .member done key :: stack, phase := .value }
      hvalueLegal ⟨Or.inl rfl, by simp⟩
    have hrest := run_value hvalue rfl (writeMembers_delimiter members)
    rw [writeMembers, List.append_assoc, List.append_assoc, run_append, hcomma, Option.bind_some,
      run_append, hkey, Reader.complete, Option.bind_some, List.cons_append, run_cons, hcolon,
      Option.bind_some, List.append_assoc, hrest]
    have hmore := @run_writeMembers members false (done ++ [(key, value)]) stack hmembers
    rw [List.append_assoc, List.singleton_append] at hmore
    exact hmore

end

end Reader

/-- **The round trip**: what has been written is read back. -/
theorem read_stringify {v : Json} (h : isLegal v = true) : read (stringify v) = some v := by
  have hstart : Reader.Starts {} := ⟨Or.inl rfl, by simp⟩
  obtain ⟨r, hrun, hcompletes⟩ := Reader.run_write v h hstart
  rw [read, stringify, String.toList_ofList, hrun, Option.bind_some]
  obtain hr | ⟨chars, phase, rfl, hend, rfl⟩ := hcompletes
  · cases hr
    rfl
  · show (if phase.isEnd = true then _ else none) = _
    rw [if_pos hend]

end Json
