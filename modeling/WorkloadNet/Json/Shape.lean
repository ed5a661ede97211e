import WorkloadNet.Json.Decode

/-!
# Shapes of JSON values

A `Shape` says which values stand for something of a kind. Shapes are data; a shape may refer to others by
name, also to itself, and a `Schema` says what the names mean. A value has a shape when `Shape.admits`
says so within a number of steps; `Schema.admits` gives it enough of them.

A record is written as an object or as an array of its fields in order. In an object each field stands at
most once and other members are skipped; an optional field may be missing there. A defaulted field may be
missing in both forms.
-/

namespace WorkloadNet.Json

/-- What a value can be. References are of type `ρ`. -/
inductive Shape (ρ : Type) where
  /-- Anything. -/
  | any
  /-- A text. -/
  | text
  /-- One of these texts. -/
  | literal (texts : List String)
  /-- A truth value. -/
  | truth
  /-- A plain integer from `least` to `most`. -/
  | int (least most : Int)
  /-- A choice without data, by its name. -/
  | word (names : List String)
  /-- `null`, or something. -/
  | optional (shape : Shape ρ)
  /-- Something that a record need not have. -/
  | defaulted (shape : Shape ρ)
  /-- An array of such items. -/
  | list (shape : Shape ρ)
  /-- An array of items of these shapes, in order. -/
  | tuple (shapes : List (Shape ρ))
  /-- A record with these fields. -/
  | record (fields : List (String × Shape ρ))
  /-- A choice with data: an object with one member, under the name of the choice. -/
  | choice (kinds : List (String × Shape ρ))
  /-- One of several shapes. -/
  | either (shapes : List (Shape ρ))
  /-- What a name means. -/
  | ref (name : ρ)

namespace Shape

variable {ρ : Type}

/-- A plain natural number of at most `most`. -/
def nat (most : Nat) : Shape ρ := int 0 most

/-- Whether a record written as an array may leave the field out. -/
def isDefaulted : Shape ρ → Bool
  | defaulted _ => true
  | _ => false

/-- Whether a record written as an object may leave the field out. -/
def mayLack : Shape ρ → Bool
  | optional _ => true
  | shape => shape.isDefaulted

/-- Whether a value has a shape, as far as can be told in `steps` steps. Going into a value and looking
into a shape take a step each. -/
def admits (meaning : ρ → Shape ρ) : (steps : Nat) → Shape ρ → Json → Bool
  | 0, _, _ => false
  | steps + 1, shape, value =>
    match shape with
    | any => true
    | text => value.text?.isSome
    | literal texts => value.text?.any fun content => texts.contains content
    | truth => match value with
      | .bool _ => true
      | _ => false
    | int least most => (value.int? least most).isSome
    | word names => value.choice?.any fun name => names.contains name
    | optional shape => match value with
      | .null => true
      | value => admits meaning steps shape value
    | defaulted shape => admits meaning steps shape value
    | list shape => match value with
      | .array items => items.all fun item => admits meaning steps shape item
      | _ => false
    | tuple shapes => match value with
      | .array items => items.length = shapes.length &&
        (shapes.zip items).all fun (shape, item) => admits meaning steps shape item
      | _ => false
    | record fields => match value with
      | .array items => items.length ≤ fields.length &&
        (fields.zip items).all (fun ((_, shape), item) => admits meaning steps shape item) &&
        (fields.drop items.length).all fun (_, shape) => shape.isDefaulted
      | .object members => fields.all fun (name, shape) =>
        match members.filter fun (given, _) => given = some name with
        | [] => shape.mayLack
        | [(_, item)] => admits meaning steps shape item
        | _ => false
      | _ => false
    | choice kinds => match value.single? with
      | some (name, data) => (kinds.lookup name).any fun shape => admits meaning steps shape data
      | none => false
    | either shapes => shapes.any fun shape => admits meaning steps shape value
    | ref name => admits meaning steps (meaning name) value

end Shape

/-- What names of shapes mean. -/
structure Schema (ρ : Type) where
  /-- The shape that a name means. -/
  meaning : ρ → Shape ρ
  /-- How many steps are enough from one level of nesting of a value to the next. -/
  stride : Nat

/-- Whether a value has a shape. -/
def Schema.admits {ρ : Type} (schema : Schema ρ) (shape : Shape ρ) (value : Json) : Bool :=
  shape.admits schema.meaning (schema.stride * (value.depth + 2)) value

end WorkloadNet.Json
