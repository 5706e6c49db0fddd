import BlueLagoon.Contracts

/-!
# JSON codecs

A codec carries the proof that what it encodes is decoded to the same value. Fields of an object
are found by their key, wherever they stand, so that an object decodes to the same value when a
store has reordered its fields.
-/

namespace BlueLagoon

/-- An encoding as JSON that can be read back; `null` is left to absent values. -/
structure Codec (α : Type) where
  encode : α → Json
  decode : Json → Option α
  decode_encode : ∀ a, decode (encode a) = some a
  encode_ne_null : ∀ a, encode a ≠ .null

namespace Codec

attribute [simp] decode_encode

variable {α : Type}

def string : Codec String where
  encode := .str
  decode
    | .str value => some value
    | _ => none
  decode_encode := fun _ => rfl
  encode_ne_null := by rintro _ ⟨⟩

def uuid : Codec Uuid where
  encode := .uuid
  decode
    | .uuid value => some value
    | _ => none
  decode_encode := fun _ => rfl
  encode_ne_null := by rintro _ ⟨⟩

/-- A time is written with all of its digits. -/
def time : Codec DateTime where
  encode := .time
  decode
    | .time value => some value
    | _ => none
  decode_encode := fun _ => rfl
  encode_ne_null := by rintro _ ⟨⟩

def bool : Codec Bool where
  encode := .bool
  decode
    | .bool value => some value
    | _ => none
  decode_encode := fun _ => rfl
  encode_ne_null := by rintro _ ⟨⟩

/-- An unsigned integer. -/
def nat : Codec Nat where
  encode n := .int n
  decode
    | .int (.ofNat n) => some n
    | _ => none
  decode_encode := fun _ => rfl
  encode_ne_null := by rintro _ ⟨⟩

/-- The elements of an array, one after the other. -/
def decodeItems (c : Codec α) : List Json → Option (List α)
  | [] => some []
  | item :: items => (c.decode item).bind fun a => (decodeItems c items).map (a :: ·)

theorem decodeItems_map (c : Codec α) (items : List α) :
    decodeItems c (items.map c.encode) = some items := by
  induction items with
  | nil => rfl
  | cons a items ih => simp [decodeItems, ih]

def list (c : Codec α) : Codec (List α) where
  encode items := .arr (items.map c.encode)
  decode
    | .arr items => decodeItems c items
    | _ => none
  decode_encode := decodeItems_map c
  encode_ne_null := by rintro _ ⟨⟩

/-- An enumeration, by the names of its members. -/
def enumeration (name : α → String) (members : List α)
    (h : ∀ a, members.find? (fun member => name member = name a) = some a) : Codec α where
  encode a := .str (name a)
  decode
    | .str value => members.find? fun member => name member = value
    | _ => none
  decode_encode := h
  encode_ne_null := by rintro _ ⟨⟩

/-! ## Fields -/

/-- What an `Option` field holds: it may be missing or `null`. -/
def decodeOption (c : Codec α) : Option Json → Option (Option α)
  | none | some .null => some none
  | some value => (c.decode value).map some

/-- A field that has to be there. -/
def field (c : Codec α) (key : String) (json : Json) : Option α := (json.get key).bind c.decode

/-- A field that takes a default when it is missing. -/
def fieldOr (c : Codec α) (key : String) (default : α) (json : Json) : Option α :=
  match json.get key with
  | none => some default
  | some value => c.decode value

/-- An `Option` field. -/
def optionalField (c : Codec α) (key : String) (json : Json) : Option (Option α) :=
  c.decodeOption (json.get key)

variable {c : Codec α}

@[simp] theorem decodeOption_ofOption (value : Option α) :
    c.decodeOption (some (Json.ofOption c.encode value)) = some value := by
  cases value with
  | none => rfl
  | some a =>
    have hvalue : Json.ofOption c.encode (some a) = c.encode a := rfl
    rw [hvalue]
    unfold decodeOption
    split
    · next hmissing => cases hmissing
    · next heq => exact absurd (Option.some.inj heq) (c.encode_ne_null a)
    · next value _ heq =>
      obtain rfl := Option.some.inj heq
      simp

end Codec

/-- The first field with a key is the one that counts. -/
@[simp] theorem Json.get_cons {key key' : String} {value : Json} {fields : List (String × Json)} :
    (Json.obj ((key', value) :: fields)).get key =
      if key' = key then some value else (Json.obj fields).get key := by
  by_cases h : key' = key
  · simp [Json.get, h]
  · simp [Json.get, h]

end BlueLagoon
