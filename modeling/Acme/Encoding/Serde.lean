import Acme.Encoding.Json

/-! Reading structures from JSON values as derived deserializers do. -/

namespace Serde

/-- What a deserializer says when it finds a value of another kind. -/
def invalidType (describe : Json → String) (value : Json) (expected : String) : String :=
  "invalid type: " ++ describe value ++ ", expected " ++ expected

/-- Read a Boolean. -/
def readBool (describe : Json → String) : Json → Except String Bool
  | .bool value => .ok value
  | value => .error (invalidType describe value "a boolean")

/-- Read a string. -/
def readString (describe : Json → String) : Json → Except String String
  | .str text => .ok text
  | value => .error (invalidType describe value "a string")

/-- A sequence of decimal digits as a number. -/
def digits (chars : List Char) : Option Nat :=
  if chars ≠ [] ∧ chars.all Char.isDigit then some (Nat.ofDigitChars 10 chars 0) else none

/-- The integer of a literal without fraction and exponent; a negative zero is no integer. -/
def integer (literal : String) : Option Int :=
  match literal.toList with
  | '-' :: rest => (digits rest).bind fun value => if value = 0 then none else some (-value)
  | chars => (digits chars).map Int.ofNat

/-- Read a signed integer of 64 bits. -/
def readI64 (describe : Json → String) : Json → Except String Int
  | .num literal =>
    match integer literal with
    | some value =>
      if Int64.minValue.toInt ≤ value ∧ value ≤ Int64.maxValue.toInt then .ok value
      else if 0 ≤ value ∧ value.toNat < UInt64.size then
        .error ("invalid value: integer `" ++ literal ++ "`, expected i64")
      -- A literal that no integer type holds is read as a float.
      else .error (invalidType describe (.num literal) "i64")
    | none => .error (invalidType describe (.num literal) "i64")
  | value => .error (invalidType describe value "i64")

/-- Read a sequence, whose first element that cannot be read decides. -/
def readVec {α : Type} (describe : Json → String) (read : Json → Except String α) :
    Json → Except String (List α)
  | .arr items => items.mapM read
  | value => .error (invalidType describe value "a sequence")

/-- Read an optional value, which may be null. -/
def readOption {α : Type} (read : Json → Except String α) : Json → Except String (Option α)
  | .null => .ok none
  | value => (read value).map some

/-- A field of a structure: whether it has a default, and how its value is checked. -/
structure Field where
  name : String
  defaults : Bool
  check : Json → Except String Unit

/-- A field whose value is read. -/
def Field.of {α : Type} (name : String) (defaults : Bool) (read : Json → Except String α) : Field :=
  { name, defaults, check := fun value => (read value).map fun _ => () }

/-- Check members in their order: a field may be there once, and unknown members are skipped. -/
def accept (fields : List Field) : List String → List (String × Json) → Except String Unit
  | _, [] => .ok ()
  | seen, (name, value) :: rest =>
    match fields.find? fun field => field.name = name with
    | none => accept fields seen rest
    | some field =>
      if name ∈ seen then .error ("duplicate field `" ++ name ++ "`")
      else do
        field.check value
        accept fields (name :: seen) rest

/-- How many elements a structure has, in words. -/
def elements (count : Nat) : String :=
  toString count ++ if count = 1 then " element" else " elements"

/-- The members of a structure: those of an object, or the items of a sequence in field order. -/
def members (describe : Json → String) (name : String) (fields : List Field) :
    Json → Except String (List (String × Json))
  | .obj given => do
    accept fields [] given
    .ok given
  | .arr items => do
    let named := (fields.map Field.name).zip items
    accept fields [] named
    match (fields.drop items.length).findIdx? fun field => !field.defaults with
    | some place => .error ("invalid length " ++ toString (items.length + place) ++
        ", expected struct " ++ name ++ " with " ++ elements fields.length)
    | none =>
      if fields.length < items.length then .error "trailing characters"
      else .ok named
  | value => .error (invalidType describe value ("struct " ++ name))

/-- The value of a field that must be there. -/
def required {α : Type} (name : String) (read : Json → Except String α)
    (given : List (String × Json)) : Except String α :=
  match given.lookup name with
  | some value => read value
  | none => .error ("missing field `" ++ name ++ "`")

/-- The value of a field, or a default when it is missing. -/
def defaulted {α : Type} (name : String) (default : α) (read : Json → Except String α)
    (given : List (String × Json)) : Except String α :=
  match given.lookup name with
  | some value => read value
  | none => .ok default

/-- The names of the fields among some members, in the order of the members. -/
def known (fields : List Field) (given : List (String × Json)) : List String :=
  (given.map Prod.fst).filter fun name => (fields.find? fun field => field.name = name).isSome

variable {fields : List Field} {seen : List String} {given : List (String × Json)}

@[simp] theorem known_nil : known fields [] = [] := rfl

/-- A member that is no field is skipped. -/
theorem known_skip {name : String} {value : Json} {rest : List (String × Json)}
    (unknown : fields.find? (fun field => field.name = name) = none) :
    known fields ((name, value) :: rest) = known fields rest := by
  simp [known, unknown]

/-- A member that is a field counts. -/
theorem known_field {name : String} {value : Json} {rest : List (String × Json)} {field : Field}
    (found : fields.find? (fun field => field.name = name) = some field) :
    known fields ((name, value) :: rest) = name :: known fields rest := by
  simp [known, found]

/-- Members are accepted exactly when no field comes twice and each value passes its check. -/
theorem accept_eq_ok :
    accept fields seen given = .ok () ↔ (known fields given).Nodup ∧
      (∀ name ∈ known fields given, name ∉ seen) ∧
      ∀ member ∈ given, ∀ field, fields.find? (fun field => field.name = member.1) = some field →
        field.check member.2 = .ok () := by
  -- By induction on the members; each field that is met joins those that were seen.
  induction given generalizing seen with
  | nil => simp [accept]
  | cons member rest ih =>
    obtain ⟨name, value⟩ := member
    unfold accept
    cases found : fields.find? (fun field => field.name = name) with
    -- An unknown member is skipped.
    | none => simp [known_skip found, ih, found]
    | some field =>
      simp only [known_field found, List.nodup_cons, List.forall_mem_cons, found, Option.some.injEq]
      -- A field that was seen before is refused, whatever its value.
      by_cases again : name ∈ seen
      · simp [again]
      · rw [if_neg again]
        cases checked : field.check value with
        -- Its value is not as the field wants it.
        | error message => simp [bind, Except.bind, checked]
        | ok passed =>
          simp only [bind, Except.bind, ih, List.mem_cons, not_or, forall_eq', checked, again,
            not_false_eq_true, true_and]
          constructor
          · -- What is new to the rest is not among the earlier ones, nor this one.
            rintro ⟨distinct, fresh, checks⟩
            exact ⟨⟨fun repeated => (fresh name repeated).1 rfl, distinct⟩,
              fun other member => (fresh other member).2, checks⟩
          · rintro ⟨⟨single, distinct⟩, fresh, checks⟩
            exact ⟨distinct, fun other member => ⟨fun same => single (same ▸ member),
              fresh other member⟩, checks⟩

/-- The first value that fails its check decides, whatever follows it. -/
theorem accept_error {before after : List (String × Json)} {name message : String} {value : Json}
    {field : Field} (accepted : accept fields seen before = .ok ())
    (fresh : name ∉ seen) (first : name ∉ known fields before)
    (found : fields.find? (fun field => field.name = name) = some field)
    (failed : field.check value = .error message) :
    accept fields seen (before ++ (name, value) :: after) = .error message := by
  -- By induction on what stands before it, all of which is accepted.
  induction before generalizing seen with
  | nil => simp [accept, found, fresh, failed, bind, Except.bind]
  | cons member rest ih =>
    obtain ⟨other, content⟩ := member
    rw [List.cons_append]
    unfold accept at accepted ⊢
    cases known : fields.find? (fun field => field.name = other) with
    -- An unknown member changes nothing.
    | none =>
      simp only [known] at accepted ⊢
      exact ih accepted fresh (by rwa [known_skip known] at first)
    | some earlier =>
      rw [known_field known, List.mem_cons, not_or] at first
      simp only [known] at accepted ⊢
      -- A repeated field would not have been accepted.
      by_cases again : other ∈ seen
      · simp [again] at accepted
      · rw [if_neg again] at accepted ⊢
        cases checked : earlier.check content with
        -- It was accepted, so its value passes.
        | error reason => simp [checked, bind, Except.bind] at accepted
        | ok passed =>
          simp only [checked, bind, Except.bind] at accepted ⊢
          exact ih accepted (by simp [first.1, fresh]) first.2

@[simp] theorem known_append {before after : List (String × Json)} :
    known fields (before ++ after) = known fields before ++ known fields after := by
  simp [known]

/-- A member that is a field is among the known names. -/
theorem mem_known {name : String} {value : Json} {field : Field} (member : (name, value) ∈ given)
    (found : fields.find? (fun field => field.name = name) = some field) :
    name ∈ known fields given :=
  List.mem_filter.mpr ⟨List.mem_map_of_mem member, by simp [found]⟩

/-- A field that comes once is found under its name. -/
theorem lookup_of_mem {name : String} {value : Json} {field : Field}
    (distinct : (known fields given).Nodup) (member : (name, value) ∈ given)
    (found : fields.find? (fun field => field.name = name) = some field) :
    given.lookup name = some value := by
  -- By induction on the members, the first of which may have the name.
  induction given with
  | nil => cases member
  | cons first rest ih =>
    obtain ⟨other, content⟩ := first
    by_cases same : name = other
    · subst same
      rw [known_field found, List.nodup_cons] at distinct
      -- A second member of the name would be a second known one.
      rcases List.mem_cons.mp member with here | later
      · rw [List.lookup_cons_self, (Prod.mk.inj here).2]
      · exact absurd (mem_known later found) distinct.1
    · rcases List.mem_cons.mp member with here | later
      · exact absurd (Prod.mk.inj here).1 same
      · -- The rest has no more known names than the whole.
        have fewer : (known fields rest).Nodup :=
          distinct.sublist (((List.sublist_cons_self _ _).map Prod.fst).filter _)
        rw [List.lookup_cons, beq_false_of_ne same]
        exact ih fewer later

/-- When one field alone fails its check, its message is the outcome, wherever it stands. -/
theorem accept_single_error {name message : String} {value : Json} {field : Field}
    (distinct : (known fields given).Nodup) (member : (name, value) ∈ given)
    (found : fields.find? (fun field => field.name = name) = some field)
    (failed : field.check value = .error message)
    (others : ∀ other ∈ given, other.1 ≠ name → ∀ field,
      fields.find? (fun field => field.name = other.1) = some field →
        field.check other.2 = .ok ()) :
    accept fields [] given = .error message := by
  obtain ⟨before, after, rfl⟩ := List.append_of_mem member
  rw [known_append, known_field found, List.nodup_append] at distinct
  obtain ⟨early, _, apart⟩ := distinct
  -- What stands before it has other names, so all of that is accepted.
  have first : name ∉ known fields before := fun repeated => apart name repeated name (.head _) rfl
  refine accept_error (accept_eq_ok.mpr ⟨early, by simp, ?_⟩) (by simp) first found failed
  intro other earlier field located
  refine others other (List.mem_append_left _ earlier) (fun same => first ?_) field located
  rw [← same]
  exact mem_known earlier located

end Serde
