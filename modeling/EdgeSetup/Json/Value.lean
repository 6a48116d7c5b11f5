import EdgeSetup.Binary64.Basic

/-!
# JSON values

A value as a program holds it: numbers are whole or binary64, and an object lists its members in
key order without repeats, which `Members.insert` keeps.
-/

namespace EdgeSetup.Json

/-- A JSON number: whole when it was written so and fits, else binary64. -/
inductive Number where
  | int (value : Int)
  | float (value : Binary64)
  deriving DecidableEq, Repr, Inhabited

/-- The binary64 reading of a number. -/
def Number.toBinary64 : Number → Binary64
  | .int i => .ofInt i
  | .float x => x

/-- A JSON value. -/
inductive Value where
  | null
  | bool (value : Bool)
  | number (value : Number)
  | string (value : String)
  | array (items : List Value)
  | object (members : List (String × Value))
  deriving Repr, Inhabited

/-! ## Members of an object -/

namespace Members

variable {α : Type}

/-- The value of the first member with the key. -/
def get? (members : List (String × α)) (key : String) : Option α :=
  members.lookup key

/-- Sets the value of a key: in place when the key is there, else before the first larger key. -/
def insert (key : String) (value : α) : List (String × α) → List (String × α)
  | [] => [(key, value)]
  | (k, v) :: rest =>
    if k = key then (key, value) :: rest
    else if key < k then (key, value) :: (k, v) :: rest
    else (k, v) :: insert key value rest

/-- Drops every member with the key. -/
def erase (key : String) (members : List (String × α)) : List (String × α) :=
  members.filter (fun member => member.1 != key)

/-- The members in key order; of equal keys the last one counts. -/
def ofList (members : List (String × α)) : List (String × α) :=
  members.foldl (fun acc member => insert member.1 member.2 acc) []

@[simp] theorem get?_insert_self (key : String) (value : α) (members : List (String × α)) :
    get? (insert key value members) key = some value := by
  induction members with
  | nil => simp [get?, insert]
  | cons member rest ih =>
    obtain ⟨k, v⟩ := member
    by_cases hk : k = key
    · simp [get?, insert, hk]
    · by_cases hlt : key < k
      · simp [get?, insert, hk, hlt]
      · have hne : (key == k) = false := by simpa using Ne.symm hk
        simpa [get?, insert, hk, hlt, List.lookup_cons, hne] using ih

theorem get?_insert_of_ne {key other : String} (h : other ≠ key) (value : α)
    (members : List (String × α)) :
    get? (insert key value members) other = get? members other := by
  have hkey : (other == key) = false := by simpa using h
  induction members with
  | nil => simp [get?, insert, List.lookup_cons, hkey]
  | cons member rest ih =>
    obtain ⟨k, v⟩ := member
    by_cases hk : k = key
    · subst hk
      simp [get?, insert, List.lookup_cons, hkey]
    · by_cases hlt : key < k
      · simp [get?, insert, hk, hlt, List.lookup_cons, hkey]
      · simp only [get?, insert, hk, hlt, if_false, List.lookup_cons]
        split
        · rfl
        · exact ih

end Members

/-! ## Parts of a value -/

namespace Value

/-- A value from members in any order. -/
def ofMembers (members : List (String × Value)) : Value := object (Members.ofList members)

/-- A whole number as a value. -/
def ofNat (n : Nat) : Value := number (.int n)

/-- The value of a key; only objects have one. -/
def get? : Value → String → Option Value
  | object members, key => Members.get? members key
  | _, _ => none

/-- The text of a string value. -/
def string? : Value → Option String
  | string s => some s
  | _ => none

/-- The items of an array value. -/
def items? : Value → Option (List Value)
  | array items => some items
  | _ => none

/-- The members of an object value. -/
def members? : Value → Option (List (String × Value))
  | object members => some members
  | _ => none

/-- Whether the value is an array. -/
def isArray : Value → Bool
  | array _ => true
  | _ => false

end Value

end EdgeSetup.Json
