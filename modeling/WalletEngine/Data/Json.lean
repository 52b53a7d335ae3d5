import Mathlib.Algebra.Group.Nat.Defs
import Mathlib.Data.List.Basic

/-! # JSON values

The abstract syntax of JSON documents with the two ways a program reads them:
by name from an untyped value, and through a typed record. Objects keep repeated
members, which the two ways treat differently: a lookup takes the last one, a
typed record rejects the document. -/

namespace WalletEngine

/-- A number as a reader stores it: an unsigned or negative machine integer, or
the spelling of any other literal. -/
inductive JsonNumber where
  | posInt (value : Nat) (machine : value < 2 ^ 64)
  | negInt (magnitude : Nat) (machine : magnitude ≤ 2 ^ 63)
  | float (literal : String)
  deriving DecidableEq

inductive Json where
  | null
  | bool (value : Bool)
  | num (value : JsonNumber)
  | str (value : String)
  | arr (items : List Json)
  | obj (members : List (String × Json))

namespace Json

def isNull : Json → Bool
  | .null => true
  | _ => false

def asStr : Json → Option String
  | .str value => some value
  | _ => none

def asArray : Json → Option (List Json)
  | .arr items => some items
  | _ => none

def asU64 : Json → Option Nat
  | .num (.posInt value _) => some value
  | _ => none

def asI64 : Json → Option Int
  | .num (.posInt value _) => if value < 2 ^ 63 then some value else none
  | .num (.negInt magnitude _) => some (-magnitude)
  | _ => none

/-- The last member with a given name. -/
def lookup (members : List (String × Json)) (name : String) : Option Json :=
  (members.reverse.find? (·.1 == name)).map (·.2)

/-- The member of an object; other values have none. -/
def get (value : Json) (name : String) : Option Json :=
  match value with
  | .obj members => lookup members name
  | _ => none

section Lookup

variable {members : List (String × Json)} {name : String}

theorem lookup_eq_none_iff : lookup members name = none ↔ ∀ value, (name, value) ∉ members := by
  simp only [lookup, Option.map_eq_none_iff, List.find?_eq_none, List.mem_reverse, beq_iff_eq]
  constructor
  · intro absent value member
    exact absent _ member rfl
  · rintro absent ⟨stored, value⟩ member rfl
    exact absent value member

end Lookup

/-- What an index in a JSON pointer leads to: the element of an array, or the member of an
object that is named so. -/
def item (value : Json) (index : Nat) : Option Json :=
  match value with
  | .arr items => items[index]?
  | .obj members => lookup members (toString index)
  | _ => none

section Typed

/-- The fields of a typed record: read by name from an object without repeated
known members, or by position from an array that is not too long. -/
def structFields (names : List String) : Json → Except String (String → Option Json)
  | .obj members =>
    if names.any fun name => 1 < members.countP (·.1 == name) then .error "duplicate field"
    else .ok (lookup members)
  | .arr items =>
    if names.length < items.length then .error "trailing characters"
    else .ok fun name => (names.zip items).lookup name
  | _ => .error "invalid type"

theorem structFields_obj {names : List String} {members : List (String × Json)}
    {field : String → Option Json} (read : structFields names (.obj members) = .ok field) :
    field = lookup members := by
  simp only [structFields] at read
  split at read
  · cases read
  · exact (Except.ok.inj read).symm

/-- The fields of a typed record read from an untyped value, which has kept the
last of repeated members. -/
def valueFields (names : List String) : Json → Except String (String → Option Json)
  | .obj members => .ok (lookup members)
  | value => value.structFields names

def required (field : Option Json) : Except String Json :=
  match field with
  | some value => .ok value
  | none => .error "missing field"

def string : Json → Except String String
  | .str value => .ok value
  | _ => .error "invalid type"

def boolean : Json → Except String Bool
  | .bool value => .ok value
  | _ => .error "invalid type"

def unsigned : Json → Except String Nat
  | .num (.posInt value _) => .ok value
  | _ => .error "invalid type"

def array {α : Type} (element : Json → Except String α) : Json → Except String (List α)
  | .arr items => items.mapM element
  | _ => .error "invalid type"

/-- An optional value: absent and `null` both read as none. -/
def optional {α : Type} (read : Json → Except String α) :
    Option Json → Except String (Option α)
  | none => .ok none
  | some .null => .ok none
  | some value => (read value).map some

/-- A field with a default: only an absent field takes it. -/
def withDefault {α : Type} (default : α) (read : Json → Except String α) :
    Option Json → Except String α
  | none => .ok default
  | some value => read value

end Typed

end Json

section Integers

/-- Parse the decimal digits of an unsigned integer below `bound`; one leading
plus sign is allowed. -/
def parseUnsigned (bound : Nat) (text : String) : Option Nat :=
  let digits := match text.toList with
    | '+' :: rest => rest
    | chars => chars
  if digits.isEmpty || !digits.all (fun c => '0' ≤ c && c ≤ '9') then none
  else
    let value := digits.foldl (fun value c => 10 * value + (c.toNat - '0'.toNat)) 0
    if value < bound then some value else none

theorem parseUnsigned_lt {bound value : Nat} {text : String}
    (parsed : parseUnsigned bound text = some value) : value < bound := by
  simp only [parseUnsigned, Option.ite_none_left_eq_some, Option.ite_none_right_eq_some] at parsed
  obtain ⟨_, small, same⟩ := parsed
  exact Option.some.inj same ▸ small

def hexDigit (c : Char) : Option Nat :=
  if '0' ≤ c && c ≤ '9' then some (c.toNat - '0'.toNat)
  else if 'a' ≤ c && c ≤ 'f' then some (c.toNat - 'a'.toNat + 10)
  else if 'A' ≤ c && c ≤ 'F' then some (c.toNat - 'A'.toNat + 10)
  else none

/-- Parse hexadecimal digits below `bound`; one leading plus sign is allowed. -/
def parseHex (bound : Nat) (chars : List Char) : Option Nat :=
  let digits := match chars with
    | '+' :: rest => rest
    | chars => chars
  if digits.isEmpty then none
  else
    (digits.mapM hexDigit).bind fun values =>
      let value := values.foldl (fun value digit => 16 * value + digit) 0
      if value < bound then some value else none

/-- Parse an unbounded unsigned integer. One leading plus sign is allowed, and
underscores may separate digits after the first. -/
def parseBigUint (text : String) : Option Nat :=
  let chars := match text.toList with
    | '+' :: '+' :: rest => '+' :: '+' :: rest
    | '+' :: rest => rest
    | chars => chars
  if chars.isEmpty || chars.head? == some '_' then none
  else
    let digits := chars.filter (· != '_')
    if digits.all (fun c => '0' ≤ c && c ≤ '9') then
      some (digits.foldl (fun value c => 10 * value + (c.toNat - '0'.toNat)) 0)
    else none

end Integers

end WalletEngine
