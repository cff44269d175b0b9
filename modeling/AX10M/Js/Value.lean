/-
  Values of the language, and `JSON.stringify`.

  Before it is printed, a value may have properties and items that are `undefined`, and numbers
  that are not finite.  `toJson` is what `JSON.stringify` prints of it; `parse_jsonStringify`: a
  text that is parsed is that again, up to the order of keys.
-/
import AX10M.Js.Keys
import AX10M.Js.Number
import AX10M.Js.Parse

namespace Js

/-- A value of the language; `infinity` is of either sign. -/
inductive Value where
  | undefined
  | null
  | bool (b : Bool)
  | num (x : Number ℚ)
  | str (s : String)
  | arr (xs : List Value)
  | obj (props : List (String × Value))

/-- The properties of an object, in the order in which they were inserted. -/
abbrev Props := List (String × Value)

/-- `value === undefined`. -/
def Value.isUndefined : Value → Bool
  | .undefined => true
  | _ => false

/-- The value counts as true. -/
def Value.isTruthy : Value → Bool
  | .undefined | .null | .bool false | .num .nan => false
  | .num (.fin x) => x ≠ 0
  | .str s => s ≠ ""
  | _ => true

instance : Inhabited Json := ⟨.null⟩

/-! ## Properties -/

section

variable {α β γ : Type}

/-- `Array.prototype.sort` on the keys of properties. -/
def sortByKey (props : List (String × α)) : List (String × α) :=
  props.insertionSort fun p q => utf16 p.1 ≤ utf16 q.1

/-- The properties that have a value. -/
def present (f : α → Option β) (props : List (String × α)) : List (String × β) :=
  props.filterMap fun p => (f p.2).map fun b => (p.1, b)

theorem sortByKey_map (f : α → β) (props : List (String × α)) :
    sortByKey (props.map (Prod.map id f)) = (sortByKey props).map (Prod.map id f) :=
  (List.map_insertionSort (fun p q : String × α => utf16 p.1 ≤ utf16 q.1)
    (fun p q : String × β => utf16 p.1 ≤ utf16 q.1) (Prod.map id f) props
    fun _ _ _ _ => Iff.rfl).symm

theorem sortByKey_filter (q : String × α → Bool) (props : List (String × α)) :
    sortByKey (props.filter q) = (sortByKey props).filter q := by
  have : Std.Total fun p q : String × α => utf16 p.1 ≤ utf16 q.1 :=
    ⟨fun p q => le_total (utf16 p.1) (utf16 q.1)⟩
  have : IsTrans (String × α) fun p q => utf16 p.1 ≤ utf16 q.1 :=
    ⟨fun p _ r h h' => show utf16 p.1 ≤ utf16 r.1 from le_trans h h'⟩
  exact (filter_insertionSort _ q props).symm

theorem present_cons (f : α → Option β) (k : String) (a : α) (props : List (String × α)) :
    present f ((k, a) :: props) = ((f a).map fun b => (k, b)).toList ++ present f props := by
  rw [present, List.filterMap_cons]
  cases hf : f a <;> simp [present]

theorem present_filter (f : α → Option β) (q : String → Bool) (props : List (String × α)) :
    present f (props.filter fun p => q p.1) = (present f props).filter fun p => q p.1 := by
  induction props with
  | nil => rfl
  | cons p props ih =>
    obtain ⟨k, a⟩ := p
    rw [present_cons, List.filter_append, ← ih]
    cases hf : f a <;> cases hq : q k <;> simp [hf, hq, present_cons]

/-- Dropping what has no value, and reading the others, one after the other. -/
theorem present_eq [Inhabited β] (f : α → Option β) (props : List (String × α)) :
    present f props =
      (props.filter fun p => (f p.2).isSome).map (Prod.map id fun a => (f a).getD default) := by
  induction props with
  | nil => rfl
  | cons p props ih =>
    obtain ⟨k, a⟩ := p
    rw [present_cons, ih]
    cases hf : f a <;> simp [hf]

theorem present_sortByKey [Inhabited β] (f : α → Option β) (props : List (String × α)) :
    present f (sortByKey props) = sortByKey (present f props) := by
  rw [present_eq, present_eq, sortByKey_map, sortByKey_filter]

theorem present_keys_sublist (f : α → Option β) (props : List (String × α)) :
    ((present f props).map Prod.fst).Sublist (props.map Prod.fst) := by
  induction props with
  | nil => exact .slnil
  | cons p props ih =>
    obtain ⟨k, a⟩ := p
    rw [present_cons]
    cases hf : f a with
    | none => exact ih.cons k
    | some b => exact ih.cons_cons k

end

/-! ## What is printed -/

mutual

/-- What `JSON.stringify` prints of a value; nothing of `undefined`. -/
def Value.toJson : Value → Option Json
  | .undefined => none
  | .null => some .null
  | .bool b => some (.bool b)
  | .num (.fin x) => some (.num x)
  | .num _ => some .null
  | .str s => some (.str s)
  | .arr xs => some (.arr (itemsToJson xs))
  | .obj props => some (.obj (propsToJson props))

/-- `null` stands for an item that is `undefined`. -/
def itemsToJson : List Value → List Json
  | [] => []
  | x :: xs => x.toJson.getD .null :: itemsToJson xs

/-- A property that is `undefined` is left out. -/
def propsToJson : List (String × Value) → List (String × Json)
  | [] => []
  | (k, v) :: props =>
    match v.toJson with
    | some j => (k, j) :: propsToJson props
    | none => propsToJson props

end

/-- `JSON.stringify`: array indices come first. -/
def jsonStringify (v : Value) : Option String :=
  v.toJson.map fun j => String.ofList (stringify (rebuild ownOrder j))

mutual

/-- What has been parsed. -/
def ofJson : Json → Value
  | .null => .null
  | .bool b => .bool b
  | .num x => .num (.fin x)
  | .str s => .str s
  | .arr xs => .arr (itemsOfJson xs)
  | .obj fields => .obj (propsOfJson fields)

def itemsOfJson : List Json → List Value
  | [] => []
  | x :: xs => ofJson x :: itemsOfJson xs

def propsOfJson : List (String × Json) → List (String × Value)
  | [] => []
  | (k, v) :: fields => (k, ofJson v) :: propsOfJson fields

end

theorem propsToJson_eq (props : Props) : propsToJson props = present Value.toJson props := by
  induction props with
  | nil => rfl
  | cons p props ih =>
    obtain ⟨k, v⟩ := p
    rw [propsToJson, ih, present_cons]
    cases hv : v.toJson <;> simp

theorem propsOfJson_eq (fields : Record) :
    propsOfJson fields = fields.map (Prod.map id ofJson) := by
  induction fields with
  | nil => rfl
  | cons p fields ih =>
    obtain ⟨k, v⟩ := p
    rw [propsOfJson, ih, List.map_cons]
    rfl

mutual

theorem toJson_ofJson : ∀ j, (ofJson j).toJson = some j
  | .null | .bool _ | .num _ | .str _ => by rw [ofJson, Value.toJson]
  | .arr xs => by rw [ofJson, Value.toJson, itemsToJson_itemsOfJson xs]
  | .obj fields => by rw [ofJson, Value.toJson, propsToJson_propsOfJson fields]

theorem itemsToJson_itemsOfJson : ∀ xs, itemsToJson (itemsOfJson xs) = xs
  | [] => rfl
  | x :: xs => by
    rw [itemsOfJson, itemsToJson, toJson_ofJson x, itemsToJson_itemsOfJson xs, Option.getD_some]

theorem propsToJson_propsOfJson : ∀ fields, propsToJson (propsOfJson fields) = fields
  | [] => rfl
  | (k, v) :: fields => by
    rw [propsOfJson, propsToJson, toJson_ofJson v, propsToJson_propsOfJson fields]

end

/-! ## Values that a text determines -/

mutual

/-- No key twice, finite decimals, and nothing `undefined` but the properties that are optional. -/
def Value.Regular (optional : Bool) : Value → Prop
  | .num x => ∀ q, x = .fin q → IsDecimal q
  | .arr xs => RegularItems optional xs
  | .obj props => (props.map Prod.fst).Nodup ∧ RegularProps optional props
  | _ => True

def RegularItems (optional : Bool) : List Value → Prop
  | [] => True
  | x :: xs => x ≠ .undefined ∧ x.Regular optional ∧ RegularItems optional xs

def RegularProps (optional : Bool) : List (String × Value) → Prop
  | [] => True
  | (_, v) :: props => (v = .undefined → optional) ∧ v.Regular optional ∧
    RegularProps optional props

end

section

variable {optional : Bool}

@[simp] theorem regular_undefined : Value.undefined.Regular optional := by simp [Value.Regular]

@[simp] theorem regular_bool (b : Bool) : (Value.bool b).Regular optional := by
  simp [Value.Regular]

@[simp] theorem regular_str (s : String) : (Value.str s).Regular optional := by
  simp [Value.Regular]

theorem regularItems_iff {xs : List Value} :
    RegularItems optional xs ↔ ∀ x ∈ xs, x ≠ .undefined ∧ x.Regular optional := by
  induction xs with
  | nil => simp [RegularItems]
  | cons x xs ih => rw [RegularItems, ih, List.forall_mem_cons, and_assoc]

theorem regularProps_iff {props : Props} :
    RegularProps optional props ↔
      ∀ p ∈ props, (p.2 = .undefined → optional) ∧ p.2.Regular optional := by
  induction props with
  | nil => simp [RegularProps]
  | cons p props ih =>
    obtain ⟨k, v⟩ := p
    rw [RegularProps, ih, List.forall_mem_cons, and_assoc]

theorem regularProps_append {props props' : Props} :
    RegularProps optional (props ++ props') ↔
      RegularProps optional props ∧ RegularProps optional props' := by
  rw [regularProps_iff, regularProps_iff, regularProps_iff, List.forall_mem_append]

mutual

theorem regular_ofJson : ∀ j, JsonValued j → (ofJson j).Regular optional
  | .null, _ | .bool _, _ | .str _, _ => by
    simp only [ofJson, Value.Regular]
  | .num x, h => by
    have hx := h.decimal
    rw [AllDecimal] at hx
    rw [ofJson, Value.Regular]
    rintro q ⟨⟩
    exact hx
  | .arr xs, ⟨hd, hn⟩ => by
    rw [DistinctKeys] at hd
    rw [AllDecimal] at hn
    rw [ofJson, Value.Regular]
    exact regularItems_ofJson xs hd hn
  | .obj fields, ⟨hd, hn⟩ => by
    rw [DistinctKeys] at hd
    rw [AllDecimal] at hn
    rw [ofJson, Value.Regular]
    refine ⟨?_, regularProps_ofJson fields hd.2 hn⟩
    rw [propsOfJson_eq, List.map_map]
    exact hd.1

theorem regularItems_ofJson : ∀ xs, DistinctKeysItems xs → AllDecimalItems xs →
    RegularItems optional (itemsOfJson xs)
  | [], _, _ => trivial
  | x :: xs, hd, hn => by
    rw [DistinctKeysItems] at hd
    rw [AllDecimalItems] at hn
    rw [itemsOfJson, RegularItems]
    refine ⟨?_, regular_ofJson x ⟨hd.1, hn.1⟩, regularItems_ofJson xs hd.2 hn.2⟩
    cases x <;> simp [ofJson]

theorem regularProps_ofJson : ∀ fields, DistinctKeysFields fields → AllDecimalFields fields →
    RegularProps optional (propsOfJson fields)
  | [], _, _ => trivial
  | (k, v) :: fields, hd, hn => by
    rw [DistinctKeysFields] at hd
    rw [AllDecimalFields] at hn
    rw [propsOfJson, RegularProps]
    refine ⟨?_, regular_ofJson v ⟨hd.1, hn.1⟩, regularProps_ofJson fields hd.2 hn.2⟩
    cases v <;> simp [ofJson]

end

mutual

theorem jsonValued_toJson : ∀ (v : Value) (j : Json), v.Regular optional → v.toJson = some j →
    DistinctKeys j ∧ AllDecimal j
  | .undefined, _, _, hj => by
    rw [Value.toJson] at hj
    cases hj
  | .null, _, _, hj | .bool _, _, _, hj | .str _, _, _, hj => by
    rw [Value.toJson] at hj
    cases hj
    simp only [DistinctKeys, AllDecimal, and_self]
  | .num (.fin q), _, hv, hj => by
    rw [Value.Regular] at hv
    rw [Value.toJson] at hj
    cases hj
    simp only [DistinctKeys, AllDecimal, true_and]
    exact hv q rfl
  | .num .infinity, _, _, hj | .num .nan, _, _, hj => by
    simp only [Value.toJson, Option.some.injEq] at hj
    subst hj
    simp only [DistinctKeys, AllDecimal, and_self]
  | .arr xs, _, hv, hj => by
    rw [Value.Regular] at hv
    rw [Value.toJson] at hj
    cases hj
    rw [DistinctKeys, AllDecimal]
    exact jsonValued_itemsToJson xs hv
  | .obj props, _, hv, hj => by
    rw [Value.Regular] at hv
    rw [Value.toJson] at hj
    cases hj
    obtain ⟨hd, hn⟩ := jsonValued_propsToJson props hv.2
    rw [DistinctKeys, AllDecimal]
    refine ⟨⟨?_, hd⟩, hn⟩
    rw [propsToJson_eq]
    exact hv.1.sublist (present_keys_sublist _ _)

theorem jsonValued_itemsToJson : ∀ xs : List Value, RegularItems optional xs →
    DistinctKeysItems (itemsToJson xs) ∧ AllDecimalItems (itemsToJson xs)
  | [], _ => ⟨trivial, trivial⟩
  | x :: xs, h => by
    rw [RegularItems] at h
    obtain ⟨hne, hx, hxs⟩ := h
    obtain ⟨hd, hn⟩ := jsonValued_itemsToJson xs hxs
    rw [itemsToJson, DistinctKeysItems, AllDecimalItems]
    cases hj : x.toJson with
    | none => exact ⟨⟨by simp [DistinctKeys], hd⟩, by simp [AllDecimal], hn⟩
    | some j =>
      obtain ⟨hdj, hnj⟩ := jsonValued_toJson x j hx hj
      exact ⟨⟨hdj, hd⟩, hnj, hn⟩

theorem jsonValued_propsToJson : ∀ props : List (String × Value), RegularProps optional props →
    DistinctKeysFields (propsToJson props) ∧ AllDecimalFields (propsToJson props)
  | [], _ => ⟨trivial, trivial⟩
  | (k, v) :: props, h => by
    rw [RegularProps] at h
    obtain ⟨-, hv, hprops⟩ := h
    obtain ⟨hd, hn⟩ := jsonValued_propsToJson props hprops
    rw [propsToJson]
    cases hj : v.toJson with
    | none => exact ⟨hd, hn⟩
    | some j =>
      obtain ⟨hdj, hnj⟩ := jsonValued_toJson v j hv hj
      simp only [DistinctKeysFields, AllDecimalFields]
      exact ⟨⟨hdj, hd⟩, hnj, hn⟩

end

/-- What is printed of a regular value has no key twice, and finite decimals. -/
theorem Value.Regular.jsonValued {v : Value} {j : Json} (h : v.Regular optional)
    (hj : v.toJson = some j) : JsonValued j := by
  obtain ⟨hd, hn⟩ := jsonValued_toJson v j h hj
  exact ⟨hd, hn⟩

/-- A text that is parsed is what was printed, up to the order of keys. -/
theorem parse_jsonStringify {v : Value} {j : Json} (h : v.Regular optional)
    (hj : v.toJson = some j) :
    ∃ text, jsonStringify v = some text ∧ parse text = some (rebuild ownOrder j) := by
  refine ⟨String.ofList (stringify (rebuild ownOrder j)), ?_, parse_stringify ?_⟩
  · rw [jsonStringify, hj, Option.map_some]
  · exact allDecimal_rebuild (fun fields => (ownOrder_perm fields).subset) j
      (h.jsonValued hj).decimal

end

end Js
