import Mathlib.Logic.Function.Basic

/-!
# `CodeMaster.Lib.ObjectRecord`: objects of JavaScript that are used as records

A program often keeps a map from texts to values as a plain object. Such an object is not quite a
map, because a text can be the name of a member that every object inherits from `Object.prototype`.
Three operations treat these names in three ways.

* Reading a name without an own property finds the inherited member (`get`). The member is a
  function or an object, which counts as true.
* A computed key in an object literal, and a spread, make an own property of any name
  (`withProperty`, `spread`).
* An assignment makes an own property of any name but `__proto__`, which has an inherited setter
  (`set`). The setter takes `null` for a new prototype, so that the object inherits nothing from
  then on, and ignores a number or a text.

The values of the records here are no objects. What a record is asked in a condition is in
`Property`, and the simp set reads the own properties after an operation.
-/

set_option autoImplicit false

universe u

/-- An object with own properties of type `α`. The order of the properties is left out. -/
structure ObjectRecord (α : Type u) where
  /-- The value of the own property, if there is one. -/
  own : String → Option α := fun _ => none
  /-- The prototype is `Object.prototype`, and not `null`. -/
  inherits : Bool := true

namespace ObjectRecord

/-- What reading a name finds. -/
inductive Property (α : Type u) where
  | own (value : α)
  /-- A member of `Object.prototype`. -/
  | inherited
  /-- `undefined`. -/
  | missing
  deriving DecidableEq, Repr

/-- The names of the members of `Object.prototype`. -/
def inheritedNames : List String :=
  ["__defineGetter__", "__defineSetter__", "__lookupGetter__", "__lookupSetter__", "__proto__",
    "constructor", "hasOwnProperty", "isPrototypeOf", "propertyIsEnumerable", "toLocaleString",
    "toString", "valueOf"]

section
variable {α : Type u}

/-- `record[name]`. -/
def get (record : ObjectRecord α) (name : String) : Property α :=
  match record.own name with
  | some value => .own value
  | none => if record.inherits ∧ name ∈ inheritedNames then .inherited else .missing

/-- The literal with the properties of `record` and the computed key `name`. -/
def withProperty (record : ObjectRecord α) (name : String) (value : α) : ObjectRecord α where
  own := Function.update record.own name (some value)

/-- The literal with the properties of `record` and then those of `other`. -/
def spread (record other : ObjectRecord α) : ObjectRecord α where
  own name := (other.own name).or (record.own name)

/-- Every own property is changed by an assignment to it. -/
def mapOwn (f : α → α) (record : ObjectRecord α) : ObjectRecord α :=
  { record with own := fun name => (record.own name).map f }

variable (record : ObjectRecord α) (name : String) (value : α)

/-- An object literal inherits from `Object.prototype`. -/
@[simp] theorem inherits_withProperty : (record.withProperty name value).inherits = true := rfl

/-- The computed key is an own property. -/
@[simp] theorem own_withProperty_self :
    (record.withProperty name value).own name = some value := by
  simp [withProperty]

/-- The other properties are those of the record. -/
theorem own_withProperty_of_ne {name' : String} (h : name' ≠ name) :
    (record.withProperty name value).own name' = record.own name' := by
  simp [withProperty, h]

variable {record name value}

/-- An own property hides the inherited member. -/
theorem get_of_own (h : record.own name = some value) : record.get name = .own value := by
  simp only [get, h]

/-- Without an own property, an inherited name is found in the prototype. -/
theorem get_of_inherited (h : record.own name = none) (hinherits : record.inherits = true)
    (hname : name ∈ inheritedNames) : record.get name = .inherited := by
  simp only [get, h, hinherits, hname, and_self, if_true]

/-- A name that is not inherited is like the key of a map. -/
theorem get_of_not_mem (h : record.own name = none) (hname : name ∉ inheritedNames) :
    record.get name = .missing := by
  simp only [get, h, hname, and_false, if_false]

end

section
variable {β : Type u}

/-- `record[name] = value`, for a value that is `null` or no object. -/
def set (record : ObjectRecord (Option β)) (name : String) (value : Option β) :
    ObjectRecord (Option β) :=
  if name = "__proto__" ∧ record.inherits ∧ record.own name = none then
    -- The inherited setter.
    match value with
    | none => { record with inherits := false }
    | some _ => record
  else { record with own := Function.update record.own name (some value) }

end

end ObjectRecord
