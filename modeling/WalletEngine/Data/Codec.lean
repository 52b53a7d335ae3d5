import Mathlib.Data.List.Nodup
import WalletEngine.Data.Except
import WalletEngine.Data.Json

/-! # Typed documents

A codec writes the values of a type as JSON and reads them back, and carries the proof
that it does. Numbers that are no machine integers may be spelt differently after a document
has been printed and parsed again, so the law says what reading such a document gives.
Records are assembled from their fields. -/

namespace WalletEngine

namespace Json

/-- Induction on a document, with the hypothesis for every element and every member. -/
@[elab_as_elim] theorem inductionOn {motive : Json → Prop} (json : Json) (null : motive .null)
    (bool : ∀ value, motive (.bool value)) (num : ∀ value, motive (.num value))
    (str : ∀ value, motive (.str value))
    (arr : ∀ items, (∀ item ∈ items, motive item) → motive (.arr items))
    (obj : ∀ members, (∀ member ∈ members, motive member.2) → motive (.obj members)) :
    motive json :=
  @Json.rec motive (fun items => ∀ item ∈ items, motive item)
    (fun members => ∀ member ∈ members, motive member.2) (fun member => motive member.2)
    null bool num str arr obj (fun _ listed => nomatch listed)
    (fun _ _ first rest => List.forall_mem_cons.mpr ⟨first, rest⟩) (fun _ listed => nomatch listed)
    (fun _ _ first rest => List.forall_mem_cons.mpr ⟨first, rest⟩) (fun _ _ value => value) json

mutual

/-- Respell every number that is no machine integer. -/
def mapFloats (change : String → String) : Json → Json
  | .num (.float literal) => .num (.float (change literal))
  | .arr items => .arr (mapFloatsItems change items)
  | .obj members => .obj (mapFloatsMembers change members)
  | value => value

def mapFloatsItems (change : String → String) : List Json → List Json
  | [] => []
  | item :: items => mapFloats change item :: mapFloatsItems change items

def mapFloatsMembers (change : String → String) : List (String × Json) → List (String × Json)
  | [] => []
  | (name, value) :: members => (name, mapFloats change value) :: mapFloatsMembers change members

end

mutual

/-- How many arrays and objects are open at the innermost value. -/
def depth : Json → Nat
  | .arr items => depthItems items + 1
  | .obj members => depthMembers members + 1
  | _ => 0

def depthItems : List Json → Nat
  | [] => 0
  | item :: items => max (depth item) (depthItems items)

def depthMembers : List (String × Json) → Nat
  | [] => 0
  | (_, value) :: members => max (depth value) (depthMembers members)

end

section MapFloats

variable (change : String → String)

theorem mapFloatsItems_eq (items : List Json) :
    mapFloatsItems change items = items.map (mapFloats change) := by
  induction items with
  | nil => rw [mapFloatsItems, List.map_nil]
  | cons item items ih => rw [mapFloatsItems, ih, List.map_cons]

theorem mapFloatsMembers_eq (members : List (String × Json)) :
    mapFloatsMembers change members =
      members.map fun member => (member.1, member.2.mapFloats change) := by
  induction members with
  | nil => rw [mapFloatsMembers, List.map_nil]
  | cons member members ih => rw [mapFloatsMembers, ih, List.map_cons]

@[simp] theorem mapFloats_null : mapFloats change .null = .null := by
  rw [mapFloats] <;> simp

@[simp] theorem mapFloats_bool (value : Bool) : mapFloats change (.bool value) = .bool value := by
  rw [mapFloats] <;> simp

@[simp] theorem mapFloats_str (text : String) : mapFloats change (.str text) = .str text := by
  rw [mapFloats] <;> simp

@[simp] theorem mapFloats_posInt (value : Nat) (machine : value < 2 ^ 64) :
    mapFloats change (.num (.posInt value machine)) = .num (.posInt value machine) := by
  rw [mapFloats] <;> simp

@[simp] theorem mapFloats_arr (items : List Json) :
    mapFloats change (.arr items) = .arr (items.map (mapFloats change)) := by
  rw [mapFloats, mapFloatsItems_eq]

@[simp] theorem mapFloats_obj (members : List (String × Json)) :
    mapFloats change (.obj members) =
      .obj (members.map fun member => (member.1, member.2.mapFloats change)) := by
  rw [mapFloats, mapFloatsMembers_eq]

theorem isNull_mapFloats (value : Json) : (mapFloats change value).isNull = value.isNull := by
  cases value with
  | num number => cases number <;> simp [mapFloats, isNull]
  | _ => simp [isNull]

theorem mapFloats_eq_self (json : Json) : mapFloats id json = json := by
  induction json using inductionOn with
  | num number => cases number <;> simp [mapFloats]
  | arr items ih => rw [mapFloats_arr, List.map_congr_left ih, List.map_id']
  | obj members ih =>
    rw [mapFloats_obj, List.map_congr_left fun member listed =>
      congrArg (Prod.mk member.1) (ih member listed), List.map_id']
  | _ => simp

end MapFloats

section Depth

variable {items : List Json} {bound : Nat} {members : List (String × Json)}

theorem depthItems_le (small : ∀ item ∈ items, item.depth ≤ bound) : depthItems items ≤ bound := by
  induction items with
  | nil => exact Nat.zero_le _
  | cons item items ih =>
    rw [depthItems]
    exact Nat.max_le.mpr ⟨small item List.mem_cons_self,
      ih fun other member => small other (List.mem_cons_of_mem _ member)⟩

theorem depthMembers_le (small : ∀ member ∈ members, member.2.depth ≤ bound) :
    depthMembers members ≤ bound := by
  induction members with
  | nil => exact Nat.zero_le _
  | cons member members ih =>
    rw [depthMembers]
    exact Nat.max_le.mpr ⟨small member List.mem_cons_self,
      ih fun other later => small other (List.mem_cons_of_mem _ later)⟩

theorem depth_arr_le (small : ∀ item ∈ items, item.depth ≤ bound) :
    (Json.arr items).depth ≤ bound + 1 := by
  rw [depth]
  exact Nat.succ_le_succ (depthItems_le small)

theorem depth_obj_le (small : ∀ member ∈ members, member.2.depth ≤ bound) :
    (Json.obj members).depth ≤ bound + 1 := by
  rw [depth]
  exact Nat.succ_le_succ (depthMembers_le small)

end Depth

section Members

variable {members others : List (String × Json)} {name : String}

theorem lookup_append :
    lookup (members ++ others) name = (lookup others name).or (lookup members name) := by
  simp only [lookup, List.reverse_append, List.find?_append]
  cases List.find? (·.1 == name) others.reverse <;> rfl

theorem lookup_eq_none_of_names {names : List String} (named : ∀ member ∈ members, member.1 ∈ names)
    (other : name ∉ names) : lookup members name = none :=
  lookup_eq_none_iff.mpr fun _ member => other (named _ member)

theorem lookup_map (change : Json → Json) :
    lookup (members.map fun member => (member.1, change member.2)) name =
      (lookup members name).map change := by
  simp only [lookup, ← List.map_reverse, List.find?_map, Option.map_map]
  rfl

@[simp] theorem lookup_singleton (value : Json) :
    lookup [(name, value)] name = some value := by
  simp [lookup]

/-- Every member of an object is one of the named fields. -/
def knownFields (names : List String) : Json → Except String Unit
  | .obj members =>
    if members.all fun member => names.contains member.1 then .ok () else .error "unknown field"
  | _ => .ok ()

/-- Of members with one name the last stays. -/
def keepLast {α : Type} : List (String × α) → List (String × α)
  | [] => []
  | member :: rest =>
    if rest.any (·.1 == member.1) then keepLast rest else member :: keepLast rest

theorem keepLast_of_nodup {α : Type} {members : List (String × α)}
    (distinct : (members.map (·.1)).Nodup) : keepLast members = members := by
  induction members with
  | nil => rfl
  | cons member rest ih =>
    obtain ⟨fresh, distinct⟩ := List.nodup_cons.mp distinct
    rw [keepLast, if_neg, ih distinct]
    intro repeated
    obtain ⟨other, listed, same⟩ := List.any_eq_true.mp repeated
    exact fresh (List.mem_map.mpr ⟨other, listed, eq_of_beq same⟩)

theorem keepLast_map {α β : Type} (change : α → β) (members : List (String × α)) :
    keepLast (members.map fun member => (member.1, change member.2)) =
      (keepLast members).map fun member => (member.1, change member.2) := by
  induction members with
  | nil => rfl
  | cons member rest ih =>
    rw [List.map_cons, keepLast, keepLast, ih, List.any_map]
    by_cases repeated : rest.any (·.1 == member.1) = true
    · rw [if_pos repeated]
      exact if_pos repeated
    · rw [if_neg repeated, List.map_cons]
      exact if_neg repeated

theorem mem_of_mem_keepLast {α : Type} {members : List (String × α)} {member : String × α}
    (kept : member ∈ keepLast members) : member ∈ members := by
  induction members with
  | nil => exact kept
  | cons first rest ih =>
    rw [keepLast] at kept
    split at kept
    · exact List.mem_cons_of_mem _ (ih kept)
    · rcases List.mem_cons.mp kept with rfl | later
      · exact List.mem_cons_self
      · exact List.mem_cons_of_mem _ (ih later)

theorem nodup_keepLast {α : Type} (members : List (String × α)) :
    ((keepLast members).map (·.1)).Nodup := by
  induction members with
  | nil => exact List.nodup_nil
  | cons first rest ih =>
    rw [keepLast]
    split
    · exact ih
    · next single =>
        refine List.nodup_cons.mpr ⟨?_, ih⟩
        intro repeated
        obtain ⟨other, kept, same⟩ := List.mem_map.mp repeated
        exact single (List.any_eq_true.mpr ⟨other, mem_of_mem_keepLast kept, beq_iff_eq.mpr same⟩)

mutual

/-- The value that stays in memory of a document: of repeated members the last. -/
def settle : Json → Json
  | .arr items => .arr (settleItems items)
  | .obj members => .obj (keepLast (settleMembers members))
  | value => value

def settleItems : List Json → List Json
  | [] => []
  | item :: items => settle item :: settleItems items

def settleMembers : List (String × Json) → List (String × Json)
  | [] => []
  | (name, value) :: members => (name, settle value) :: settleMembers members

end

@[simp] theorem settle_str (text : String) : settle (.str text) = .str text := by
  rw [settle] <;> simp

theorem settleItems_eq (items : List Json) : settleItems items = items.map settle := by
  induction items with
  | nil => rw [settleItems, List.map_nil]
  | cons item items ih => rw [settleItems, ih, List.map_cons]

theorem settleMembers_eq (members : List (String × Json)) :
    settleMembers members = members.map fun member => (member.1, settle member.2) := by
  induction members with
  | nil => rw [settleMembers, List.map_nil]
  | cons member members ih => rw [settleMembers, ih, List.map_cons]

theorem settle_settle (json : Json) : settle (settle json) = settle json := by
  induction json using inductionOn with
  | arr items ih =>
    rw [settle, settle, settleItems_eq, settleItems_eq, List.map_map]
    exact congrArg Json.arr (List.map_congr_left ih)
  | obj members ih =>
    rw [settle, settle, settleMembers_eq, settleMembers_eq, ← keepLast_map, List.map_map]
    have same : members.map ((fun member : String × Json => (member.1, settle member.2)) ∘
        fun member => (member.1, settle member.2)) =
        members.map fun member => (member.1, settle member.2) :=
      List.map_congr_left fun member listed => congrArg (Prod.mk member.1) (ih member listed)
    rw [same, keepLast_of_nodup (nodup_keepLast _)]
  | _ => simp [settle]

theorem settle_mapFloats (change : String → String) (json : Json) :
    settle (json.mapFloats change) = (settle json).mapFloats change := by
  induction json using inductionOn with
  | arr items ih =>
    rw [mapFloats_arr, settle, settle, settleItems_eq, settleItems_eq, mapFloats_arr,
      List.map_map, List.map_map]
    exact congrArg Json.arr (List.map_congr_left ih)
  | obj members ih =>
    rw [mapFloats_obj, settle, settle, settleMembers_eq, settleMembers_eq, mapFloats_obj,
      ← keepLast_map, List.map_map, List.map_map]
    exact congrArg (Json.obj ∘ keepLast) (List.map_congr_left fun member listed =>
      congrArg (Prod.mk member.1) (ih member listed))
  | num number => cases number <;> simp [settle, mapFloats]
  | _ => simp [settle]

theorem settle_obj_iff {members : List (String × Json)} :
    settle (.obj members) = .obj members ↔
      (members.map (·.1)).Nodup ∧ ∀ member ∈ members, settle member.2 = member.2 := by
  have names : ((members.map fun member => (member.1, settle member.2)).map (·.1)) =
      members.map (·.1) := by
    rw [List.map_map]
    rfl
  rw [settle, Json.obj.injEq, settleMembers_eq]
  constructor
  · intro settled
    have distinct : (members.map (·.1)).Nodup := settled ▸ nodup_keepLast _
    rw [keepLast_of_nodup (names.symm ▸ distinct)] at settled
    refine ⟨distinct, fun member listed => ?_⟩
    have same := List.map_inj_left.mp (settled.trans (List.map_id members).symm) member listed
    exact congrArg Prod.snd same
  · rintro ⟨distinct, values⟩
    rw [keepLast_of_nodup (names.symm ▸ distinct)]
    refine (List.map_congr_left fun member listed => ?_).trans (List.map_id members)
    rw [values member listed]
    rfl

theorem settle_filter {members : List (String × Json)} (settled : settle (.obj members) = .obj members)
    (keep : String × Json → Bool) :
    settle (.obj (members.filter keep)) = .obj (members.filter keep) := by
  obtain ⟨distinct, values⟩ := settle_obj_iff.mp settled
  refine settle_obj_iff.mpr ⟨distinct.sublist (List.filter_sublist.map _), fun member listed => ?_⟩
  exact values member (List.mem_of_mem_filter listed)

/-- The name of a variant without contents: a text, or an object with one `null` member. -/
def unitVariant : Json → Except String String
  | .str name => .ok name
  | .obj [(name, .null)] => .ok name
  | _ => .error "invalid type"

/-- The variant named by a member, with the remaining members; an array names it first. -/
def taggedValue (tag : String) : Json → Except String (String × Json)
  | .obj members =>
    match lookup members tag with
    | some (.str name) => .ok (name, .obj (members.filter (·.1 != tag)))
    | some _ => .error "invalid type"
    | none => .error "missing field"
  | .arr (.str name :: rest) => .ok (name, .arr rest)
  | _ => .error "invalid type"

/-- The same of a document that may not repeat the tag. -/
def taggedText (tag : String) (json : Json) : Except String (String × Json) :=
  match json with
  | .obj members =>
    if 1 < members.countP (·.1 == tag) then .error "duplicate field" else taggedValue tag json
  | _ => taggedValue tag json

end Members

end Json

/-- A typed reading of JSON documents and the writing that it inverts. -/
structure Codec (α : Type) where
  encode : α → Json
  decode : Json → Except String α
  /-- What the respelling of floating-point numbers does to a value. -/
  refloat : (String → String) → α → α
  decode_encode : ∀ change value,
    decode ((encode value).mapFloats change) = .ok (refloat change value)

/-- The wire form of a type, which is never `null`. -/
class Wire (α : Type) where
  codec : Codec α
  present : ∀ value, (codec.encode value).isNull = false

/-- The wire form holds no numbers that could be spelt differently. -/
class Floatless (α : Type) [Wire α] : Prop where
  refloat_eq : ∀ change, (Wire.codec : Codec α).refloat change = id

attribute [simp] Floatless.refloat_eq

/-- Some members of an object, read together. -/
structure Fields (α : Type) where
  names : List String
  encode : α → List (String × Json)
  decode : (String → Option Json) → Except String α
  refloat : (String → String) → α → α
  named : ∀ value, ∀ member ∈ encode value, member.1 ∈ names
  distinct : ∀ value, ((encode value).map (·.1)).Nodup
  decode_encode : ∀ {change value field},
    (∀ name ∈ names, field name = (Json.lookup (encode value) name).map (Json.mapFloats change)) →
      decode field = .ok (refloat change value)

namespace Codec

variable {α β : Type}

def string : Codec String where
  encode := .str
  decode := Json.string
  refloat _ := id
  decode_encode change text := by rw [Json.mapFloats_str]; rfl

def boolean : Codec Bool where
  encode := .bool
  decode := Json.boolean
  refloat _ := id
  decode_encode change value := by rw [Json.mapFloats_bool]; rfl

/-- The values of another type, checked when they are read. -/
def refine (codec : Codec α) (read : α → Except String β) (write : β → α)
    (refloat : (String → String) → β → β)
    (read_write : ∀ change value,
      read (codec.refloat change (write value)) = .ok (refloat change value)) : Codec β where
  encode value := codec.encode (write value)
  decode json := codec.decode json >>= read
  refloat := refloat
  decode_encode change value := by
    rw [codec.decode_encode]
    exact read_write change value

/-- A text with a parser. -/
def text (parse : String → Option α) (print : α → String)
    (parse_print : ∀ value, parse (print value) = some value) : Codec α :=
  string.refine (fun text => (parse text).elim (.error "invalid value") .ok) print (fun _ => id)
    fun _ value => by
      change (parse (print value)).elim _ _ = _
      rw [parse_print]
      rfl

theorem str_of_decode_text {parse : String → Option α} {print : α → String}
    {parse_print : ∀ value, parse (print value) = some value} {json : Json} {value : α}
    (read : (text parse print parse_print).decode json = .ok value) :
    ∃ source, json = .str source ∧ parse source = some value := by
  obtain ⟨source, written, parsed⟩ := except_bind_eq_ok.mp read
  refine ⟨source, ?_, option_elim_eq_ok parsed⟩
  cases json with
  | str found => rw [Except.ok.inj written]
  | _ => cases written

/-- Variants without contents, by name. -/
def variants (all : List α) (name : α → String)
    (complete : ∀ value, all.find? (fun other => name other == name value) = some value) :
    Codec α where
  encode value := .str (name value)
  decode json := do
    let named ← json.unitVariant
    (all.find? fun value => name value == named).elim (.error "unknown variant") .ok
  refloat _ := id
  decode_encode change value := by
    rw [Json.mapFloats_str]
    change (all.find? _).elim _ _ = _
    rw [complete]
    rfl

/-- A list of values. -/
def array (codec : Codec α) : Codec (List α) where
  encode values := .arr (values.map codec.encode)
  decode := Json.array codec.decode
  refloat change := List.map (codec.refloat change)
  decode_encode change values := by
    rw [Json.mapFloats_arr, List.map_map]
    exact except_mapM_map_eq_ok fun value _ => codec.decode_encode change value

end Codec

instance : Wire String := ⟨.string, fun _ => rfl⟩

instance : Floatless String := ⟨fun _ => rfl⟩

instance : Wire Bool := ⟨.boolean, fun _ => rfl⟩

instance : Floatless Bool := ⟨fun _ => rfl⟩

instance {α : Type} [Wire α] : Wire (List α) := ⟨Wire.codec.array, fun _ => rfl⟩

instance {α : Type} [Wire α] [Floatless α] : Floatless (List α) where
  refloat_eq change := by
    change List.map ((Wire.codec : Codec α).refloat change) = id
    rw [Floatless.refloat_eq, List.map_id_fun]

namespace Fields

variable {α β : Type}

/-- A member that is always present. -/
def required (name : String) (codec : Codec α) : Fields α where
  names := [name]
  encode value := [(name, codec.encode value)]
  decode field := Json.required (field name) >>= codec.decode
  refloat := codec.refloat
  named value member listed := by
    rw [List.mem_singleton.mp listed]
    exact List.mem_singleton_self name
  distinct value := by simp
  decode_encode {change value field} agrees := by
    rw [agrees name (List.mem_singleton_self name), Json.lookup_singleton]
    exact codec.decode_encode change value

/-- A member that may be absent but not `null`. -/
def optional (name : String) (codec : Codec α) : Fields (Option α) where
  names := [name]
  encode value := value.toList.map fun present => (name, codec.encode present)
  decode field := Json.withDefault none (fun json => (codec.decode json).map some) (field name)
  refloat change := Option.map (codec.refloat change)
  named value member listed := by
    obtain ⟨_, _, rfl⟩ := List.mem_map.mp listed
    exact List.mem_singleton_self name
  distinct value := by cases value <;> simp
  decode_encode {change value field} agrees := by
    rw [agrees name (List.mem_singleton_self name)]
    cases value with
    | none => rfl
    | some present =>
      have read := codec.decode_encode change present
      simp only [Option.toList_some, List.map_cons, List.map_nil, Json.lookup_singleton,
        Option.map_some, Json.withDefault, read]
      rfl

/-- A required member of a type with a wire form. -/
def member [Wire α] (name : String) : Fields α :=
  required name Wire.codec

/-- An optional member of a type with a wire form. -/
def maybe [Wire α] (name : String) : Fields (Option α) :=
  optional name Wire.codec

/-- A member that is `null` when there is no value; it may also be absent. -/
def nullable [Wire α] (name : String) : Fields (Option α) where
  names := [name]
  encode value := [(name, value.elim .null Wire.codec.encode)]
  decode field := Json.optional Wire.codec.decode (field name)
  refloat change := Option.map (Wire.codec.refloat change)
  named value member listed := by
    rw [List.mem_singleton.mp listed]
    exact List.mem_singleton_self name
  distinct value := by simp
  decode_encode {change value field} agrees := by
    rw [agrees name (List.mem_singleton_self name), Json.lookup_singleton]
    cases value with
    | none => simp [Json.optional]
    | some value =>
      have read := Wire.codec.decode_encode change value
      have shown := (Json.isNull_mapFloats change (Wire.codec.encode value)).trans
        (Wire.present value)
      rw [Option.map_some, Option.elim_some]
      unfold Json.optional
      split
      · next absent => cases absent
      · next absent =>
          rw [Option.some.inj absent] at shown
          cases shown
      · next json found =>
          rw [← Option.some.inj found, read]
          rfl

/-- Two groups of members. -/
def both (first : Fields α) (second : Fields β) (apart : ∀ name ∈ first.names, name ∉ second.names) :
    Fields (α × β) where
  names := first.names ++ second.names
  encode value := first.encode value.1 ++ second.encode value.2
  decode field := first.decode field >>= fun left => (second.decode field).map (Prod.mk left)
  refloat change := Prod.map (first.refloat change) (second.refloat change)
  named value member listed := by
    rcases List.mem_append.mp listed with left | right
    · exact List.mem_append_left _ (first.named _ member left)
    · exact List.mem_append_right _ (second.named _ member right)
  distinct value := by
    rw [List.map_append]
    refine List.nodup_append.mpr ⟨first.distinct _, second.distinct _, ?_⟩
    intro name left other right same
    obtain ⟨member, listed, rfl⟩ := List.mem_map.mp left
    obtain ⟨twin, found, rfl⟩ := List.mem_map.mp right
    exact apart _ (first.named _ member listed) (same ▸ second.named _ twin found)
  decode_encode {change value field} agrees := by
    have left : first.decode field = .ok (first.refloat change value.1) := by
      refine first.decode_encode fun name listed => ?_
      rw [agrees name (List.mem_append_left _ listed), Json.lookup_append,
        Json.lookup_eq_none_of_names (second.named value.2) (apart name listed), Option.none_or]
    have right : second.decode field = .ok (second.refloat change value.2) := by
      refine second.decode_encode fun name listed => ?_
      rw [agrees name (List.mem_append_right _ listed), Json.lookup_append,
        Json.lookup_eq_none_of_names (first.named value.1) fun other => apart name other listed,
        Option.or_none]
    rw [left]
    change (second.decode field).map _ = _
    rw [right]
    rfl

/-- The fields of a record type. -/
def record (fields : Fields α) (make : α → β) (parts : β → α)
    (refloat : (String → String) → β → β)
    (make_parts : ∀ change value, make (fields.refloat change (parts value)) = refloat change value) :
    Fields β where
  names := fields.names
  encode value := fields.encode (parts value)
  decode field := (fields.decode field).map make
  refloat := refloat
  named value := fields.named (parts value)
  distinct value := fields.distinct (parts value)
  decode_encode {change value field} agrees := by
    rw [fields.decode_encode agrees, ← make_parts]
    rfl

/-- Read the fields of an untyped value that has no others. -/
def fromValue (fields : Fields α) (json : Json) : Except String α := do
  let field ← json.valueFields fields.names
  json.knownFields fields.names
  fields.decode field

/-- An object of these members and no others. -/
def read (fields : Fields α) (json : Json) : Except String α := do
  let field ← json.structFields fields.names
  json.knownFields fields.names
  fields.decode field

section Refloat

variable (change : String → String) (name : String)

@[simp] theorem refloat_member [Wire α] [Floatless α] :
    (member name : Fields α).refloat change = id :=
  Floatless.refloat_eq change

@[simp] theorem refloat_maybe [Wire α] [Floatless α] :
    (maybe name : Fields (Option α)).refloat change = id := by
  change Option.map ((Wire.codec : Codec α).refloat change) = id
  rw [Floatless.refloat_eq, Option.map_id]

@[simp] theorem refloat_nullable [Wire α] :
    (nullable name : Fields (Option α)).refloat change =
      Option.map ((Wire.codec : Codec α).refloat change) :=
  rfl

@[simp] theorem refloat_both (first : Fields α) (second : Fields β)
    (apart : ∀ name ∈ first.names, name ∉ second.names) :
    (first.both second apart).refloat change =
      Prod.map (first.refloat change) (second.refloat change) :=
  rfl

end Refloat

section Written

variable (fields : Fields α) (change : String → String) (value : α)

theorem knownFields_encode :
    ((Json.obj (fields.encode value)).mapFloats change).knownFields fields.names = .ok () := by
  rw [Json.mapFloats_obj, Json.knownFields, if_pos]
  rw [List.all_eq_true]
  intro member listed
  obtain ⟨original, found, rfl⟩ := List.mem_map.mp listed
  exact List.contains_iff_mem.mpr (fields.named value original found)

theorem decode_lookup :
    fields.decode (Json.lookup ((fields.encode value).map fun member =>
      (member.1, member.2.mapFloats change))) = .ok (fields.refloat change value) :=
  fields.decode_encode fun _ _ => Json.lookup_map (Json.mapFloats change)

theorem get_encode (name : String) :
    ((Json.obj (fields.encode value)).mapFloats change).get name =
      (Json.lookup (fields.encode value) name).map (Json.mapFloats change) := by
  rw [Json.mapFloats_obj]
  exact Json.lookup_map (Json.mapFloats change)

theorem structFields_encode :
    ((Json.obj (fields.encode value)).mapFloats change).structFields fields.names =
      .ok (Json.lookup ((fields.encode value).map fun member =>
        (member.1, member.2.mapFloats change))) := by
  rw [Json.mapFloats_obj, Json.structFields, if_neg]
  rw [List.any_eq_true]
  rintro ⟨name, _, repeated⟩
  have once := List.nodup_iff_count_le_one.mp (fields.distinct value) name
  rw [List.count, List.countP_map] at once
  rw [decide_eq_true_eq, List.countP_map] at repeated
  exact absurd once (Nat.not_le.mpr repeated)

theorem read_encode :
    fields.read ((Json.obj (fields.encode value)).mapFloats change) =
      .ok (fields.refloat change value) := by
  rw [read, structFields_encode]
  change (Json.knownFields _ _ >>= _) = _
  rw [knownFields_encode]
  exact fields.decode_lookup change value

theorem fromValue_encode :
    fields.fromValue ((Json.obj (fields.encode value)).mapFloats change) =
      .ok (fields.refloat change value) := by
  rw [fromValue]
  change (Json.valueFields _ _ >>= fun field => Json.knownFields _ _ >>= fun _ => _) = _
  rw [knownFields_encode, Json.mapFloats_obj]
  exact fields.decode_lookup change value

end Written

section Inversion

variable {fields : Fields α} {field : String → Option Json}

theorem decode_of_required {name : String} {codec : Codec α} {value : α}
    (read : (required name codec).decode field = .ok value) :
    ∃ json, field name = some json ∧ codec.decode json = .ok value := by
  obtain ⟨json, present, read⟩ := except_bind_eq_ok.mp read
  refine ⟨json, ?_, read⟩
  unfold Json.required at present
  split at present
  · next found => rw [found, Except.ok.inj present]
  · cases present

end Inversion

/-- A record as an object of exactly its fields. -/
def object (fields : Fields α) : Codec α where
  encode value := .obj (fields.encode value)
  decode := fields.read
  refloat := fields.refloat
  decode_encode := fields.read_encode

/-- The same read from an untyped value. -/
def value (fields : Fields α) : Codec α where
  encode value := .obj (fields.encode value)
  decode := fields.fromValue
  refloat := fields.refloat
  decode_encode := fields.fromValue_encode

/-- A variant whose name is a member beside its fields. -/
def tagged (fields : Fields α) (tag name : String) (value : α) : Json :=
  .obj ((tag, .str name) :: fields.encode value)

theorem taggedValue_tagged (fields : Fields α) {tag name : String} (other : tag ∉ fields.names)
    (change : String → String) (value : α) :
    ((fields.tagged tag name value).mapFloats change).taggedValue tag =
      .ok (name, (Json.obj (fields.encode value)).mapFloats change) := by
  let rest := (fields.encode value).map fun member => (member.1, member.2.mapFloats change)
  have absent : Json.lookup rest tag = none := by
    rw [Json.lookup_map, Json.lookup_eq_none_of_names (fields.named value) other]
    rfl
  have found : Json.lookup ((tag, .str name) :: rest) tag = some (.str name) := by
    rw [← List.singleton_append, Json.lookup_append, absent, Json.lookup_singleton]
    rfl
  have kept : rest.filter (·.1 != tag) = rest := by
    refine List.filter_eq_self.mpr fun member listed => bne_iff_ne.mpr ?_
    obtain ⟨original, present, rfl⟩ := List.mem_map.mp listed
    rintro rfl
    exact other (fields.named value original present)
  rw [tagged, Json.mapFloats_obj, List.map_cons, Json.mapFloats_str, Json.mapFloats_obj]
  change Json.taggedValue tag (.obj ((tag, .str name) :: rest)) = .ok (name, .obj rest)
  simp only [Json.taggedValue, found]
  rw [List.filter_cons_of_neg (by simp), kept]

/-- Read some members of an object and leave the others to the record inside it. -/
def flattened (fields : Fields α) : Json → Except String (α × Json)
  | .obj members => do
      let field ← (Json.obj members).structFields fields.names
      let value ← fields.decode field
      return (value, .obj (members.filter fun member => !fields.names.contains member.1))
  | _ => .error "invalid type"

theorem flattened_encode (fields : Fields α) {others : List (String × Json)}
    (apart : ∀ member ∈ others, member.1 ∉ fields.names) (change : String → String) (value : α) :
    fields.flattened ((Json.obj (fields.encode value ++ others)).mapFloats change) =
      .ok (fields.refloat change value, (Json.obj others).mapFloats change) := by
  let written := (fields.encode value).map fun member => (member.1, member.2.mapFloats change)
  let rest := others.map fun member => (member.1, member.2.mapFloats change)
  have away : ∀ member ∈ rest, member.1 ∉ fields.names := by
    intro member listed
    obtain ⟨original, present, rfl⟩ := List.mem_map.mp listed
    exact apart original present
  have single : (Json.obj (written ++ rest)).structFields fields.names =
      .ok (Json.lookup (written ++ rest)) := by
    have alone := fields.structFields_encode change value
    rw [Json.mapFloats_obj, Json.structFields] at alone
    rw [Json.structFields, if_neg]
    intro repeated
    obtain ⟨name, known, twice⟩ := List.any_eq_true.mp repeated
    have none : rest.countP (·.1 == name) = 0 :=
      List.countP_eq_zero.mpr fun member listed same =>
        away member listed (eq_of_beq same ▸ known)
    rw [List.countP_append, none, Nat.add_zero] at twice
    rw [if_pos (List.any_eq_true.mpr ⟨name, known, twice⟩)] at alone
    cases alone
  have decoded : fields.decode (Json.lookup (written ++ rest)) =
      .ok (fields.refloat change value) := by
    refine fields.decode_encode fun name known => ?_
    rw [Json.lookup_append, Json.lookup_eq_none_iff.mpr fun stored listed =>
      away _ listed known, Option.none_or, Json.lookup_map]
  have kept : (written ++ rest).filter (fun member => !fields.names.contains member.1) = rest := by
    rw [List.filter_append, List.filter_eq_nil_iff.mpr, List.filter_eq_self.mpr, List.nil_append]
    · intro member listed
      simpa using away member listed
    · intro member listed
      obtain ⟨original, present, rfl⟩ := List.mem_map.mp listed
      simpa using fields.named value original present
  rw [Json.mapFloats_obj, Json.mapFloats_obj, List.map_append, flattened]
  change (Json.structFields fields.names (.obj (written ++ rest)) >>= _) = _
  rw [single]
  change (fields.decode _ >>= _) = _
  rw [decoded]
  exact congrArg (fun members => Except.ok (_, Json.obj members)) kept

@[simp] theorem refloat_object (fields : Fields α) (change : String → String) :
    fields.object.refloat change = fields.refloat change :=
  rfl

@[simp] theorem refloat_value (fields : Fields α) (change : String → String) :
    fields.value.refloat change = fields.refloat change :=
  rfl

/-- The members are nested no deeper than a bound. -/
def Shallow (fields : Fields α) (bound : Nat) : Prop :=
  ∀ value, ∀ member ∈ fields.encode value, member.2.depth ≤ bound

section Shallow

variable {bound : Nat}
variable {fields : Fields α}

theorem shallow_required {name : String} {codec : Codec α}
    (small : ∀ value, (codec.encode value).depth ≤ bound) : (required name codec).Shallow bound := by
  intro value member listed
  rw [List.mem_singleton.mp listed]
  exact small value

theorem shallow_optional {name : String} {codec : Codec α}
    (small : ∀ value, (codec.encode value).depth ≤ bound) : (optional name codec).Shallow bound := by
  intro value member listed
  obtain ⟨present, -, rfl⟩ := List.mem_map.mp listed
  exact small present

theorem shallow_both {first : Fields α} {second : Fields β}
    {apart : ∀ name ∈ first.names, name ∉ second.names} (left : first.Shallow bound)
    (right : second.Shallow bound) : (first.both second apart).Shallow bound := by
  intro value member listed
  rcases List.mem_append.mp listed with former | latter
  · exact left value.1 member former
  · exact right value.2 member latter

theorem shallow_record {make : α → β} {parts : β → α} {refloat : (String → String) → β → β}
    {make_parts : ∀ change value, make (fields.refloat change (parts value)) = refloat change value}
    (shallow : fields.Shallow bound) :
    (fields.record make parts refloat make_parts).Shallow bound :=
  fun value => shallow (parts value)

theorem Shallow.depth_obj (shallow : fields.Shallow bound) (value : α) :
    (Json.obj (fields.encode value)).depth ≤ bound + 1 :=
  Json.depth_obj_le (shallow value)

theorem Shallow.depth_tagged (shallow : fields.Shallow bound) (tag name : String) (value : α) :
    (fields.tagged tag name value).depth ≤ bound + 1 := by
  refine Json.depth_obj_le fun member listed => ?_
  rcases List.mem_cons.mp listed with rfl | field
  · exact Nat.zero_le bound
  · exact shallow value member field

end Shallow

end Fields

end WalletEngine
