import Mathlib

/-!
# Derived serialisation

The data model between a derived serialiser and a derived deserialiser: a tree
of JSON values.  A structure becomes an object with one member per field, an
enumeration becomes a tag, an absent option becomes `null`.  Reading is by field
name, so the order of the members does not matter and unknown members are
ignored.

Printing and parsing the text form belong to the serialisation library, a `TextLayer`:
it reads back what it printed, down to a nesting limit, and refuses what is nested
deeper.

## Main results

* `field_eq_ok`, `optField_eq_ok` — reading a member back that was written there.
* `RoundTrips.list`, `RoundTrips.option` — round trips of parts.
* `Faithful.list` — a reader with checks of its own never returns another value.
* `TextLayer.reload_of_shallow`, `reload_of_deep` — what the nesting limit decides.
-/

namespace FrankenTerm.Verified.Serde

/-- A JSON value.  A number is an unsigned integer, a negative integer `-(n + 1)`, or a
float, of which only the text matters here. -/
inductive Json where
  | null
  | bool (b : Bool)
  | num (n : Nat)
  | negNum (n : Nat)
  | float (text : String)
  | str (s : String)
  | arr (items : List Json)
  | obj (members : List (String × Json))

/-- The first member of that name. -/
def Json.get? : Json → String → Option Json
  | .obj members, name => members.lookup name
  | _, _ => none

mutual

/-- How deep arrays and objects are nested. -/
def Json.depth : Json → Nat
  | .arr items => Json.depthItems items + 1
  | .obj members => Json.depthMembers members + 1
  | _ => 0

def Json.depthItems : List Json → Nat
  | [] => 0
  | item :: rest => max item.depth (Json.depthItems rest)

def Json.depthMembers : List (String × Json) → Nat
  | [] => 0
  | (_, item) :: rest => max item.depth (Json.depthMembers rest)

end

mutual

/-- All numbers are integers. -/
def Json.integral : Json → Bool
  | .float _ => false
  | .arr items => Json.integralItems items
  | .obj members => Json.integralMembers members
  | _ => true

def Json.integralItems : List Json → Bool
  | [] => true
  | item :: rest => item.integral && Json.integralItems rest

def Json.integralMembers : List (String × Json) → Bool
  | [] => true
  | (_, item) :: rest => item.integral && Json.integralMembers rest

end

theorem Json.integralItems_eq_all (items : List Json) :
    Json.integralItems items = items.all Json.integral := by
  induction items with
  | nil => rfl
  | cons item rest ih => rw [Json.integralItems, ih, List.all_cons]

/-- The string, when the value is one. -/
def Json.asStr? : Json → Option String
  | .str s => some s
  | _ => none

/-- The number, when the value is an unsigned integer of 64 bits. -/
def Json.asU64? : Json → Option UInt64
  | .num n => if n < 2 ^ 64 then some (UInt64.ofNat n) else none
  | _ => none

variable {name : String} {j : Json}

private theorem sizeOf_lookup_lt {members : List (String × Json)} {v : Json}
    (h : members.lookup name = some v) : sizeOf v < sizeOf members := by
  induction members with
  | nil => simp at h
  | cons m _ ih =>
    rw [List.lookup_cons] at h
    split at h
    · cases h
      cases m
      simp only [List.cons.sizeOf_spec, Prod.mk.sizeOf_spec]
      omega
    · have hLt := ih h
      simp only [List.cons.sizeOf_spec]
      omega

/-- A member is smaller than its object, so a reader may recurse into it. -/
theorem Json.sizeOf_get?_lt {v : Json} (h : j.get? name = some v) : sizeOf v < sizeOf j := by
  cases j with
  | obj =>
    have hLt := sizeOf_lookup_lt h
    simp only [Json.obj.sizeOf_spec]
    omega
  | _ => cases h

/-- An enumeration of unit variants, written as the variant's tag. -/
def tagged {α : Type} (all : List α) (tag : α → String) : Json → Except String α
  | .str s =>
    match all.find? (fun a => tag a = s) with
    | some a => .ok a
    | none => .error s!"unknown variant {s}"
  | _ => .error "invalid type: expected a variant"

/-- A type with its serialiser and its deserialiser. -/
class Codec (α : Type) where
  /-- The tree written for a value. -/
  serialize : α → Json
  /-- The value read from a tree, or the text of the error. -/
  deserialize : Json → Except String α

export Codec (serialize deserialize)

variable {α : Type} [Codec α]

/-- Reading what was written gives the same value back. -/
def RoundTrips (a : α) : Prop := deserialize (serialize a) = Except.ok a

/-- What was written is read back unchanged, or reading refuses it. -/
def Faithful (a : α) : Prop :=
  RoundTrips a ∨ ∃ err, deserialize (α := α) (serialize a) = Except.error err

instance : Codec String where
  serialize := .str
  deserialize
    | .str s => .ok s
    | _ => .error "invalid type: expected a string"

instance : Codec Nat where
  serialize := .num
  deserialize
    | .num n => .ok n
    | _ => .error "invalid type: expected u64"

instance : Codec UInt64 where
  serialize n := .num n.toNat
  deserialize j :=
    match j.asU64? with
    | some n => .ok n
    | none => .error "invalid type: expected u64"

instance : Codec Int64 where
  serialize i :=
    match i.toInt with
    | .ofNat n => .num n
    | .negSucc n => .negNum n
  deserialize
    | .num n =>
      if n < 2 ^ 63 then .ok (Int64.ofInt n) else .error "invalid value: expected i64"
    | .negNum n =>
      if n < 2 ^ 63 then .ok (Int64.ofInt (.negSucc n)) else .error "invalid value: expected i64"
    | _ => .error "invalid type: expected i64"

instance : Codec Bool where
  serialize := .bool
  deserialize
    | .bool b => .ok b
    | _ => .error "invalid type: expected a boolean"

instance : Codec (Option α) where
  serialize
    | none => .null
    | some a => serialize a
  deserialize
    | .null => .ok none
    | j => some <$> deserialize j

instance : Codec (List α) where
  serialize as := .arr (as.map serialize)
  deserialize
    | .arr items => items.mapM deserialize
    | _ => .error "invalid type: expected a sequence"

/-- Read a required field of a structure. -/
def field (name : String) (j : Json) : Except String α :=
  match j.get? name with
  | some v => deserialize v
  | none => .error s!"missing field {name}"

/-- Read a field that stands for `none` when it is absent. -/
def optField (name : String) (j : Json) : Except String (Option α) :=
  match j.get? name with
  | some v => deserialize v
  | none => .ok none

theorem roundTrips_string (s : String) : RoundTrips s := rfl

theorem roundTrips_nat (n : Nat) : RoundTrips n := rfl

theorem Json.asU64?_num (n : UInt64) : (Json.num n.toNat).asU64? = some n := by
  show (if n.toNat < 2 ^ 64 then some (UInt64.ofNat n.toNat) else none) = some n
  rw [if_pos n.toNat_lt, UInt64.ofNat_toNat]

theorem asU64?_of_deserialize {n : UInt64} (h : deserialize j = Except.ok n) :
    j.asU64? = some n := by
  have hRead : (match j.asU64? with
    | some n => Except.ok n
    | none => .error "invalid type: expected u64") = Except.ok n := h
  cases hNum : j.asU64? with
  | none =>
    rw [hNum] at hRead
    cases hRead
  | some =>
    rw [hNum] at hRead
    cases hRead
    rfl

theorem eq_str_of_asStr? {j : Option Json} {s : String} (h : j.bind Json.asStr? = some s) :
    j = some (.str s) := by
  rcases Option.bind_eq_some_iff.mp h with ⟨v, rfl, hStr⟩
  cases v with
  | str t => exact congrArg (fun t => some (Json.str t)) (Option.some.inj hStr)
  | _ => cases hStr

theorem roundTrips_uint64 (n : UInt64) : RoundTrips n := by
  show (match (Json.num n.toNat).asU64? with
    | some n => Except.ok n
    | none => .error "invalid type: expected u64") = .ok n
  rw [Json.asU64?_num]

theorem roundTrips_int64 (i : Int64) : RoundTrips i := by
  have hLow := i.le_toInt
  have hHigh := i.toInt_lt
  have hBack := i.ofInt_toInt
  show deserialize (match i.toInt with
    | .ofNat n => Json.num n
    | .negSucc n => .negNum n) = Except.ok i
  cases hi : i.toInt with
  | ofNat n =>
    rw [hi] at hHigh hBack
    show (if n < 2 ^ 63 then Except.ok (Int64.ofInt n) else _) = _
    rw [if_pos (by simp only [Int.ofNat_eq_natCast] at hHigh; omega)]
    exact congrArg Except.ok hBack
  | negSucc n =>
    rw [hi] at hLow hBack
    show (if n < 2 ^ 63 then Except.ok (Int64.ofInt (.negSucc n)) else _) = _
    rw [if_pos (by omega), hBack]

/-- An option round-trips when its value does and is not itself written as `null`. -/
theorem RoundTrips.option {a : Option α} (hValue : ∀ v ∈ a, RoundTrips v)
    (hNull : ∀ v : α, v ∈ a → serialize v ≠ Json.null) : RoundTrips a := by
  cases a with
  | none => rfl
  | some v =>
    have hv : deserialize (serialize v) = Except.ok v := hValue v rfl
    have hn := hNull v rfl
    show deserialize (α := Option α) (serialize v) = _
    generalize hj : serialize v = j at hv hn
    cases j with
    | null => exact absurd rfl hn
    | _ => exact congrArg (some <$> ·) hv

theorem roundTrips_optString (a : Option String) : RoundTrips a :=
  RoundTrips.option (fun v _ => roundTrips_string v) (fun _ _ => nofun)

private theorem deserialize_cons (a : α) (as : List α) :
    deserialize (α := List α) (serialize (a :: as)) =
      (do
        let first ← deserialize (serialize a)
        let rest ← deserialize (serialize as)
        return first :: rest) :=
  List.mapM_cons

/-- A list round-trips when its elements do. -/
theorem RoundTrips.list {as : List α} (h : ∀ a ∈ as, RoundTrips a) : RoundTrips as := by
  induction as with
  | nil => rfl
  | cons a as ih =>
    have hHead : deserialize (serialize a) = Except.ok a := h a (by simp)
    have hTail : deserialize (serialize as) = Except.ok as :=
      ih fun b hb => h b (by simp [hb])
    unfold RoundTrips
    rw [deserialize_cons, hHead, hTail]
    rfl

/-- A list is read back unchanged or refused when each element is. -/
theorem Faithful.list {as : List α} (h : ∀ a ∈ as, Faithful a) : Faithful as := by
  induction as with
  | nil => exact .inl rfl
  | cons a as ih =>
    unfold Faithful RoundTrips
    rw [deserialize_cons]
    rcases h a (by simp) with hHead | ⟨err, hHead⟩
    · have hRead : deserialize (serialize a) = Except.ok a := hHead
      rcases ih fun b hb => h b (by simp [hb]) with hTail | ⟨err, hTail⟩
      · have hRest : deserialize (serialize as) = Except.ok as := hTail
        rw [hRead, hRest]
        exact .inl rfl
      · rw [hRead, hTail]
        exact .inr ⟨err, rfl⟩
    · rw [hHead]
      exact .inr ⟨err, rfl⟩

theorem roundTrips_strings (as : List String) : RoundTrips as :=
  RoundTrips.list fun a _ => roundTrips_string a

/-- Reading a field back that was written there. -/
theorem field_eq_ok {a : α} (hGet : j.get? name = some (serialize a)) (h : RoundTrips a) :
    field name j = Except.ok a := by
  unfold field
  rw [hGet]
  exact h

/-- Reading a field whose value is refused. -/
theorem field_eq_error {a : α} {err : String} (hGet : j.get? name = some (serialize a))
    (h : deserialize (α := α) (serialize a) = .error err) :
    field (α := α) name j = Except.error err := by
  unfold field
  rw [hGet]
  exact h

/-- Reading an optional field back that was written there. -/
theorem optField_eq_ok {a : Option α} (hGet : j.get? name = some (serialize a)) (h : RoundTrips a) :
    optField name j = Except.ok a := by
  unfold optField
  rw [hGet]
  exact h

/-! ## The text form -/

/-- What a serialisation library does with texts: it prints trees, and reads back what it printed
down to a nesting `limit`.  Of floats nothing is said. -/
structure TextLayer where
  Text : Type
  print : Json → Text
  read : Text → Except String Json
  limit : Nat
  read_print : ∀ j, j.integral → j.depth ≤ limit → read (print j) = .ok j
  read_deep : ∀ j, limit < j.depth → ∃ err, read (print j) = .error err

namespace TextLayer

variable (text : TextLayer) {a : α}

/-- The value that is read from the text written for a value. -/
def reload (a : α) : Except String α := do
  let j ← text.read (text.print (serialize a))
  deserialize j

theorem reload_of_shallow (hIntegral : (serialize a).integral)
    (hShallow : (serialize a).depth ≤ text.limit) :
    text.reload a = deserialize (serialize a) := by
  rw [reload, text.read_print _ hIntegral hShallow]
  rfl

theorem reload_of_deep (hDeep : text.limit < (serialize a).depth) :
    ∃ err, text.reload a = .error err := by
  rcases text.read_deep _ hDeep with ⟨err, hErr⟩
  refine ⟨err, ?_⟩
  rw [reload, hErr]
  rfl

/-- No other value is read than the one that was written. -/
theorem reload_of_faithful (hIntegral : (serialize a).integral) (h : Faithful a) :
    text.reload a = .ok a ∨ ∃ err, text.reload a = .error err := by
  by_cases hShallow : (serialize a).depth ≤ text.limit
  · rw [text.reload_of_shallow hIntegral hShallow]
    exact h
  · exact .inr (text.reload_of_deep (by omega))

/-- Texts that are trees. -/
def ofTrees (limit : Nat) : TextLayer where
  Text := Json
  print j := j
  read j := if j.depth ≤ limit then .ok j else .error "recursion limit exceeded"
  limit := limit
  read_print _ _ hShallow := if_pos hShallow
  read_deep _ hDeep := ⟨_, if_neg (by omega)⟩

end TextLayer

end FrankenTerm.Verified.Serde
