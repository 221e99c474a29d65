/-!
# Values

A value is a tree of plain data, as configuration files and reports hold it. Numbers are decimal:
`number m e` stands for `m` divided by the `e`-th power of ten, and only `number m 0` is written
as an integer.
-/

namespace StateMachine

/-- A tree of plain data. -/
inductive Value where
  | null
  | bool (b : Bool)
  | number (mantissa : Int) (exponent : Nat)
  | text (s : String)
  | list (items : List Value)
  | record (members : List (String × Value))
deriving Inhabited

namespace Value

/-- The text a value is. -/
def text? : Value → Option String
  | text s => some s
  | _ => none

/-- The items of a list. -/
def items? : Value → Option (List Value)
  | list items => some items
  | _ => none

/-- The byte an integer is. -/
def byte? : Value → Option UInt8
  | number m 0 => if 0 ≤ m ∧ m < 256 then some (UInt8.ofNat m.toNat) else none
  | _ => none

/-- The name of a variant: a text, or a record whose only member has that name and is null. -/
def variant? : Value → Option String
  | text s => some s
  | record [(name, null)] => some name
  | _ => none

/-- The fields of a structure, by name in a record or by position in a list. Members of other
names are ignored. A list must be as long as the names; if `partly` holds, it may be shorter, and
the fields it does not reach are missing. -/
def fields? (names : List String) (partly : Bool) : Value → Option (List (Option Value))
  | record members => some (names.map fun name => members.lookup name)
  | list items =>
    if items.length = names.length ∨ (partly = true ∧ items.length < names.length) then
      some (items.map some ++ List.replicate (names.length - items.length) none)
    else none
  | _ => none

end Value

end StateMachine
