import Acme.Dns.Cloudflare

/-! Which zone a static map gives for a record name. -/

namespace Acme.Cloudflare

open Interaction

/-- A name is in a zone when it is the zone's name or ends in it behind a dot. -/
def InZone (name zone : String) : Prop :=
  Split.IsTail '.' zone.toList name.toList

/-- The number of labels of a name. -/
def labelCount (name : String) : Nat :=
  (labels name).length

/-- A name is in the zone of its last two labels. -/
theorem inZone_apex (name : String) : InZone name (apexFromRecordName name) := by
  -- The apex is what remains when labels are dropped from the front.
  unfold apexFromRecordName InZone
  split
  · exact Or.inl rfl
  · rename_i more
    rw [String.toList_ofList]
    exact Split.isTail_drop (by unfold labels at more ⊢; omega)

/-- The apex keeps at most two labels. -/
theorem labelCount_apex (name : String) :
    labelCount (apexFromRecordName name) = min 2 (labelCount name) := by
  unfold apexFromRecordName
  split
  · -- A name with at most two labels is its own apex.
    rename_i few
    exact (Nat.min_eq_right few).symm
  · rename_i more
    have fewer : (labels name).length - 2 < (name.toList.splitOn '.').length := by
      unfold labels at more ⊢
      omega
    -- Splitting the joined labels again gives the last two of them.
    have parts := Split.splitOn_drop fewer
    unfold labelCount
    unfold labels at more parts ⊢
    rw [String.toList_ofList, parts, List.length_drop]
    omega

/-- Zones of one name with the same number of labels are one zone. -/
theorem InZone.unique {name zone other : String} (here : InZone name zone)
    (there : InZone name other) (same : labelCount zone = labelCount other) : zone = other :=
  String.toList_inj.mp (Split.IsTail.unique here there same)

/-- A key of the map whose zone the name is in, with its identifier. -/
structure Covers (zones : List (String × String)) (name key id : String) : Prop where
  /-- The map has the key. -/
  mapped : zones.lookup key = some id
  /-- The name is in the zone. -/
  inside : InZone name key

/-- The longest such key. -/
structure LongestZone (zones : List (String × String)) (name key id : String) : Prop where
  /-- The name is in its zone. -/
  covers : Covers zones name key id
  /-- No other one is longer. -/
  longest : ∀ other otherId, Covers zones name other otherId → other.length ≤ key.length

/-- What a lookup in a static map should answer. -/
inductive ZoneAnswer (zones : List (String × String)) (name : String) :
    Except CloudflareError String → Prop where
  /-- The zone with the longest key. -/
  | found {key id : String} (longest : LongestZone zones name key id) :
      ZoneAnswer zones name (.ok id)
  /-- No zone, when no key covers the name. -/
  | missing (none : ∀ key id, ¬ Covers zones name key id) (zone : String) :
      ZoneAnswer zones name (.error (.noZone zone))

/-- A name that is covered at all is covered by a longest key. -/
theorem exists_longest {zones : List (String × String)} {name key id : String}
    (covers : Covers zones name key id) : ∃ longest other, LongestZone zones name longest other := by
  -- Among the keys that cover the name, take one of the greatest length; names are no shorter.
  have bound : ∀ other otherId, Covers zones name other otherId →
      other.length ≤ name.length := by
    intro other otherId covering
    have short := covering.inside.suffix.length_le
    rwa [String.length_toList, String.length_toList] at short
  by_contra none
  -- Otherwise there would be keys of any length, by induction on the length.
  have longer : ∀ steps, ∃ other otherId, Covers zones name other otherId ∧
      steps ≤ other.length := by
    intro steps
    induction steps with
    | zero => exact ⟨key, id, covers, Nat.zero_le _⟩
    | succ steps ih =>
      obtain ⟨other, otherId, covering, long⟩ := ih
      by_contra short
      apply none
      refine ⟨other, otherId, covering, ?_⟩
      intro next nextId following
      by_contra further
      exact short ⟨next, nextId, following, by omega⟩
  obtain ⟨other, otherId, covering, long⟩ := longer (name.length + 1)
  -- One of them would be longer than the name itself.
  have short := bound other otherId covering
  omega

/-- The longest key has one identifier. -/
theorem LongestZone.id_unique {zones : List (String × String)} {name key id other otherId : String}
    (here : LongestZone zones name key id) (there : LongestZone zones name other otherId) :
    key = other ∧ id = otherId := by
  have long := here.longest other otherId there.covers
  have short := there.longest key id here.covers
  -- Two tails of one name with the same length are the same.
  have same : key = other := by
    apply String.toList_inj.mp
    have left : key.toList <:+ name.toList := here.covers.inside.suffix
    have right : other.toList <:+ name.toList := there.covers.inside.suffix
    have equal : key.toList.length = other.toList.length := by
      rw [String.length_toList, String.length_toList]
      omega
    exact (List.suffix_of_suffix_length_le left right (Nat.le_of_eq equal)).eq_of_length equal
  subst same
  -- One key has one identifier in the map.
  have ids := here.covers.mapped
  rw [there.covers.mapped] at ids
  cases ids
  exact ⟨rfl, rfl⟩

/-- What a static map answers: the entry of the last two labels. -/
def staticZone (zones : List (String × String)) (name : String) : Except CloudflareError String :=
  match zones.lookup (apexFromRecordName name) with
  | some id => .ok id
  | none => .error (.noZone (apexFromRecordName name))

/-- A lookup in a static map calls nothing. -/
theorem ends_static {wire : Wire} {provider : CloudflareProvider}
    {zones : List (String × String)} (static : provider.lookup = .static zones) {name : String}
    {trace : Trace calls} {outcome : Except CloudflareError String} :
    (resolveZoneId wire provider name).Ends trace outcome ↔
      trace = [] ∧ outcome = staticZone zones name := by
  -- The map is consulted without a call.
  unfold resolveZoneId
  rw [static]
  exact Fallible.ends_ofExcept

/-- The answer is the right one exactly when the last two labels are mapped as the longest key. -/
theorem zoneAnswer_iff {zones : List (String × String)} {name : String} :
    ZoneAnswer zones name (staticZone zones name) ↔
      ∀ key id, LongestZone zones name key id →
        zones.lookup (apexFromRecordName name) = some id := by
  constructor
  · -- An identifier is right for the longest key only, and to report none there must be no key.
    intro answer key id longest
    unfold staticZone at answer
    cases mapped : zones.lookup (apexFromRecordName name) with
    | some found =>
      rw [mapped] at answer
      cases answer with
      | found other => rw [(longest.id_unique other).2]
    | none =>
      rw [mapped] at answer
      cases answer with
      | missing none => exact absurd longest.covers (none key id)
  · -- The apex is in the map whenever there is a longest key.
    intro same
    unfold staticZone
    cases mapped : zones.lookup (apexFromRecordName name) with
    | some found =>
      -- The apex covers the name, so there is a longest key.
      obtain ⟨key, id, longest⟩ := exists_longest ⟨mapped, inZone_apex name⟩
      have ids := same key id longest
      rw [mapped] at ids
      cases ids
      exact .found longest
    | none =>
      refine .missing ?_ _
      intro key id covers
      obtain ⟨longest, other, covering⟩ := exists_longest covers
      -- The apex would be in the map, and it is not.
      have ids := same longest other covering
      rw [mapped] at ids
      cases ids

/-- A static lookup gives the right answer exactly when the part of the name with two labels, or
the whole name when it has fewer, is mapped like the longest key that covers the name. -/
theorem static_zone_exact_iff (wire : Wire) (token apiBase : String)
    (zones : List (String × String)) (name : String) :
    ∃ answer,
      (∀ trace outcome,
        (resolveZoneId wire ⟨token, .static zones, apiBase⟩ name).Ends trace outcome ↔
          trace = [] ∧ outcome = answer) ∧
      (ZoneAnswer zones name answer ↔
        ∀ key id, LongestZone zones name key id →
          ∃ zone, InZone name zone ∧ labelCount zone = min 2 (labelCount name) ∧
            zones.lookup zone = some id) := by
  refine ⟨staticZone zones name, fun trace outcome => ends_static rfl, ?_⟩
  rw [zoneAnswer_iff]
  constructor
  · -- The apex is the zone that is asked for.
    intro same key id longest
    exact ⟨apexFromRecordName name, inZone_apex name, labelCount_apex name,
      same key id longest⟩
  · intro same key id longest
    obtain ⟨zone, inside, count, mapped⟩ := same key id longest
    -- Only the apex has that many labels.
    have apex := inside.unique (inZone_apex name) (count.trans (labelCount_apex name).symm)
    rw [← apex]
    exact mapped

/-- Deserializers that understand nothing; a static lookup needs none. -/
def silentWire : Wire where
  zones _ := .error "expected value at line 1 column 1"
  record _ := .error "expected value at line 1 column 1"

/-- A zone of three labels in the map is not found. -/
theorem long_zone_missed :
    (resolveZoneId silentWire ⟨"token", .static [("example.co.uk", "zone-1")], "https://api"⟩
        "_acme-challenge.example.co.uk").Ends [] (.error (.noZone "co.uk")) ∧
      ¬ ZoneAnswer [("example.co.uk", "zone-1")] "_acme-challenge.example.co.uk"
        (.error (.noZone "co.uk")) := by
  -- The name is cut down to its last two labels, and the key has three.
  constructor
  · rw [ends_static rfl]
    refine ⟨rfl, ?_⟩
    decide +kernel
  · intro answer
    cases answer with
    | missing none =>
      refine none "example.co.uk" "zone-1" ⟨by decide, Or.inr ⟨"_acme-challenge".toList, ?_⟩⟩
      decide +kernel

end Acme.Cloudflare
