/-
  The canonical texts that are hashed and signed: `stableStringify` of the reconciliation export
  (`@ax10m/attribution`, `reconciliation.ts`), of the uplift statement (`billing/billing.ts`), and
  of the acceptance (`@ax10m/billing`, `canonical-json.ts`).

  The first copies objects key by key, and loses `__proto__` properties; the other two print the
  keys in their order, the last one without those that are `undefined`.  `CanonicalText`: the texts
  are equal for documents that are the same, and no others.
-/
import AX10M.Attribution.Chain
import AX10M.Js.Value

namespace AX10M

open Js

/-! ## The export -/

namespace Reconciliation

mutual

/-- A copy in which the keys of objects are inserted in their order; assigning to `__proto__` makes
    no property. -/
def sortKeys : Value → Value
  | .arr xs => .arr (sortItems xs)
  | .obj props => .obj ((sortByKey (sortProps props)).filter fun p => p.1 ≠ "__proto__")
  | .undefined => .undefined
  | .null => .null
  | .bool b => .bool b
  | .num x => .num x
  | .str s => .str s

def sortItems : List Value → List Value
  | [] => []
  | x :: xs => sortKeys x :: sortItems xs

def sortProps : List (String × Value) → List (String × Value)
  | [] => []
  | (k, v) :: props => (k, sortKeys v) :: sortProps props

end

def stableStringify (v : Value) : Option String := jsonStringify (sortKeys v)

/-- What copying does to the properties of an object. -/
def copied (fields : Record) : Record :=
  (fields.insertionSort KeyLe).filter fun p => p.1 ≠ "__proto__"

theorem onKeys_copied : OnKeys copied := by
  intro φ fields
  have hsort : OnKeys fun fields => fields.insertionSort KeyLe :=
    onKeys_insertionSort fun _ _ _ => Iff.rfl
  have hfilter : OnKeys fun fields => fields.filter fun p => decide (p.1 ≠ "__proto__") :=
    onKeys_filter fun k => decide (k ≠ "__proto__")
  have h₁ := hsort φ fields
  have h₂ := hfilter φ (fields.insertionSort KeyLe)
  simp only at h₁ h₂
  rw [copied, copied, h₁, h₂]

mutual

/-- Copying before printing is copying what is printed. -/
theorem toJson_sortKeys : ∀ v, (sortKeys v).toJson = v.toJson.map (rebuild copied)
  | .undefined | .null | .bool _ | .num (.fin _) | .num .infinity | .num .nan | .str _ => by
    simp [sortKeys, Value.toJson, rebuild]
  | .arr xs => by
    rw [sortKeys, Value.toJson, Value.toJson, Option.map_some, rebuild, itemsToJson_sortItems xs]
  | .obj props => by
    have hfilter := present_filter Value.toJson (fun k => decide (k ≠ "__proto__"))
      (sortByKey (sortProps props))
    rw [sortKeys, Value.toJson, Value.toJson, Option.map_some, rebuild, propsToJson_eq, hfilter,
      present_sortByKey, ← propsToJson_eq, propsToJson_sortProps props]
    rfl

theorem itemsToJson_sortItems :
    ∀ xs, itemsToJson (sortItems xs) = rebuildItems copied (itemsToJson xs)
  | [] => rfl
  | x :: xs => by
    rw [sortItems, itemsToJson, itemsToJson, rebuildItems, toJson_sortKeys x,
      itemsToJson_sortItems xs]
    cases x.toJson <;> simp [rebuild]

theorem propsToJson_sortProps :
    ∀ props, propsToJson (sortProps props) = rebuildFields copied (propsToJson props)
  | [] => rfl
  | (k, v) :: props => by
    rw [sortProps, propsToJson, propsToJson, toJson_sortKeys v, propsToJson_sortProps props]
    cases v.toJson <;> simp [rebuildFields]

end

/-- The text is that of the ledger's canonical copy. -/
theorem stableStringify_eq (v : Value) :
    stableStringify v = v.toJson.map fun j => String.ofList (stringify (AX10M.sortKeys j)) := by
  rw [stableStringify, jsonStringify, toJson_sortKeys, Option.map_map]
  congr 1
  ext1 j
  show String.ofList (stringify (rebuild ownOrder (rebuild copied j))) = _
  rw [rebuild_rebuild onKeys_copied]
  rfl

end Reconciliation

/-! ## The statement and the acceptance -/

mutual

/-- The text of a value with the keys of objects in their order; properties that are `undefined`
    may be omitted. -/
def printSorted (omitted : Bool) : Value → Option (List Char)
  | .arr xs => some ('[' :: ([','].intercalate (printItems omitted xs) ++ [']']))
  | .obj props =>
    let texts := (sortByKey (printProps omitted props)).map fun p => quote p.1 ++ ':' :: p.2
    some ('{' :: ([','].intercalate texts ++ ['}']))
  | .undefined => none
  | .null => some (stringify .null)
  | .bool b => some (stringify (.bool b))
  | .num (.fin x) => some (stringify (.num x))
  | .num _ => some (stringify .null)
  | .str s => some (stringify (.str s))

/-- `join` prints nothing for an item that is `undefined`. -/
def printItems (omitted : Bool) : List Value → List (List Char)
  | [] => []
  | x :: xs => (printSorted omitted x).getD [] :: printItems omitted xs

/-- A template prints `undefined`. -/
def printProps (omitted : Bool) : List (String × Value) → List (String × List Char)
  | [] => []
  | (k, v) :: props =>
    if omitted ∧ v.isUndefined then printProps omitted props
    else (k, (printSorted omitted v).getD "undefined".toList) :: printProps omitted props

end

/-- `stableStringify` of `billing.ts`. -/
def Billing.stableStringify (v : Value) : Option String := (printSorted false v).map String.ofList

/-- `stableStringify` of `canonical-json.ts`. -/
def CanonicalJson.stableStringify (v : Value) : Option String :=
  (printSorted true v).map String.ofList

/-- The text of what is printed, with the keys of objects in their order. -/
def sortedText (j : Json) : List Char :=
  stringify (rebuild (fun fields => fields.insertionSort KeyLe) j)

theorem moreItems_eq (x : List Char) (xs : List Json) :
    x ++ moreItems xs = [','].intercalate (x :: xs.map stringify) ++ [']'] := by
  induction xs generalizing x with
  | nil => rw [moreItems, List.map_nil, List.intercalate_singleton]
  | cons y ys ih =>
    rw [moreItems, ih, List.map_cons, List.intercalate_cons_cons]
    simp

theorem stringify_arr (xs : List Json) :
    stringify (.arr xs) = '[' :: ([','].intercalate (xs.map stringify) ++ [']']) := by
  cases xs with
  | nil => rw [stringify]; rfl
  | cons x xs => rw [stringify, moreItems_eq, List.map_cons]

/-- The text of a property. -/
def fieldText (p : String × Json) : List Char := quote p.1 ++ ':' :: stringify p.2

theorem moreFields_eq (x : List Char) (fields : Record) :
    x ++ moreFields fields = [','].intercalate (x :: fields.map fieldText) ++ ['}'] := by
  induction fields generalizing x with
  | nil => rw [moreFields, List.map_nil, List.intercalate_singleton]
  | cons p fields ih =>
    obtain ⟨k, v⟩ := p
    have htail := ih (fieldText (k, v))
    rw [fieldText, List.append_assoc, List.cons_append] at htail
    rw [moreFields, htail, List.map_cons, List.intercalate_cons_cons]
    simp [fieldText]

theorem stringify_obj (fields : Record) :
    stringify (.obj fields) = '{' :: ([','].intercalate (fields.map fieldText) ++ ['}']) := by
  cases fields with
  | nil => rw [stringify]; rfl
  | cons p fields =>
    obtain ⟨k, v⟩ := p
    have htail := moreFields_eq (fieldText (k, v)) fields
    rw [fieldText, List.append_assoc, List.cons_append] at htail
    rw [stringify, htail, List.map_cons]
    rfl

theorem sortedText_arr (xs : List Json) :
    sortedText (.arr xs) = '[' :: ([','].intercalate (xs.map sortedText) ++ [']']) := by
  rw [sortedText, rebuild_arr, stringify_arr, List.map_map]
  rfl

theorem sortedText_obj (fields : Record) :
    sortedText (.obj fields) = '{' :: ([','].intercalate
      ((sortByKey (fields.map (Prod.map id sortedText))).map fun p => quote p.1 ++ ':' :: p.2) ++
        ['}']) := by
  have hsort : OnKeys fun fields => fields.insertionSort KeyLe :=
    onKeys_insertionSort fun _ _ _ => Iff.rfl
  have hcomm := hsort (rebuild fun fields => fields.insertionSort KeyLe) fields
  simp only at hcomm
  rw [sortedText, rebuild_obj, hcomm, stringify_obj, mapValues, List.map_map, sortByKey_map,
    List.map_map]
  rfl

section

variable {omitted : Bool}

theorem toJson_isSome {v : Value} (h : v ≠ .undefined) : ∃ j, v.toJson = some j := by
  cases v with
  | undefined => exact absurd rfl h
  | num x => cases x <;> exact ⟨_, rfl⟩
  | _ => exact ⟨_, rfl⟩

mutual

/-- The text of a regular value is that of what `JSON.stringify` prints of it. -/
theorem printSorted_eq : ∀ v : Value, v.Regular omitted →
    printSorted omitted v = v.toJson.map sortedText
  | .undefined, _ | .null, _ | .bool _, _ | .num (.fin _), _ | .num .infinity, _ | .num .nan, _
  | .str _, _ => by simp [printSorted, Value.toJson, sortedText, rebuild]
  | .arr xs, h => by
    rw [Value.Regular] at h
    rw [printSorted, Value.toJson, Option.map_some, sortedText_arr, printItems_eq xs h]
  | .obj props, h => by
    rw [Value.Regular] at h
    rw [printSorted, Value.toJson, Option.map_some, sortedText_obj, printProps_eq props h.2]

theorem printItems_eq : ∀ xs : List Value, RegularItems omitted xs →
    printItems omitted xs = (itemsToJson xs).map sortedText
  | [], _ => rfl
  | x :: xs, h => by
    rw [RegularItems] at h
    obtain ⟨hne, hx, hxs⟩ := h
    obtain ⟨j, hj⟩ := toJson_isSome hne
    rw [printItems, itemsToJson, printSorted_eq x hx, printItems_eq xs hxs, hj, List.map_cons,
      Option.map_some, Option.getD_some, Option.getD_some]

theorem printProps_eq : ∀ props : List (String × Value), RegularProps omitted props →
    printProps omitted props = (propsToJson props).map (Prod.map id sortedText)
  | [], _ => rfl
  | (k, v) :: props, h => by
    rw [RegularProps] at h
    obtain ⟨hundefined, hv, hprops⟩ := h
    rw [printProps, propsToJson, printProps_eq props hprops]
    by_cases hne : v = .undefined
    · rw [hne, if_pos ⟨hundefined hne, rfl⟩]
      rfl
    · obtain ⟨j, hj⟩ := toJson_isSome hne
      have hdefined : v.isUndefined = false := by
        cases v <;> first | rfl | exact absurd rfl hne
      rw [if_neg (by simp [hdefined]), printSorted_eq v hv, hj]
      rfl

end

end

/-! ## Texts of documents -/

/-- Texts with sorted keys are equal for the same values, and no others. -/
theorem sortedText_eq_iff {j k : Json} (hj : JsonValued j) (hk : JsonValued k) :
    sortedText j = sortedText k ↔ SameJson j k := by
  have hsort : OnKeys fun fields => fields.insertionSort KeyLe :=
    onKeys_insertionSort fun _ _ _ => Iff.rfl
  have hdecimal : ∀ {v}, JsonValued v →
      AllDecimal (rebuild (fun fields => fields.insertionSort KeyLe) v) := fun hv =>
    allDecimal_rebuild (fun fields => (List.perm_insertionSort _ _).subset) _ hv.decimal
  -- sorting what has been sorted and enumerated sorts it again
  have hagain : ∀ {v}, JsonValued v → rebuild (fun fields => fields.insertionSort KeyLe) v =
      rebuild (fun fields => fields.insertionSort KeyLe) (normal v) := by
    intro v hv
    rw [normal, rebuild_rebuild onKeys_sortFields]
    refine rebuild_congr (fun fields hd => ?_) v hv.distinct
    exact insertionSort_keyLe_congr (sortFields_perm fields).symm hd
  constructor
  · intro h
    have heq := stringify_injective (hdecimal hj) (hdecimal hk) h
    have hnormal := congrArg (rebuild ownOrder) heq
    rw [rebuild_rebuild hsort, rebuild_rebuild hsort] at hnormal
    exact hnormal
  · intro h
    rw [sortedText, sortedText, hagain hj, hagain hk, h]

/-- Regular values have a text; it is the same if what is printed of them is related, and only
    then. -/
structure CanonicalText (text : Value → Option String) (optional : Bool)
    (R : Json → Json → Prop) : Prop where
  defined : ∀ {v : Value} {j : Json}, v.Regular optional → v.toJson = some j →
    ∃ t, text v = some t
  eq_iff : ∀ {v w : Value} {j k : Json}, v.Regular optional → w.Regular optional →
    v.toJson = some j → w.toJson = some k → (text v = text w ↔ R j k)

/-- The text with the keys of objects in their order is that of a document. -/
theorem canonicalText_printSorted (omitted : Bool) :
    CanonicalText (fun v => (printSorted omitted v).map String.ofList) omitted SameJson where
  defined {v j} hv hj := by
    refine ⟨String.ofList (sortedText j), ?_⟩
    rw [printSorted_eq v hv, hj, Option.map_some, Option.map_some]
  eq_iff {v w j k} hv hw hj hk := by
    show (printSorted omitted v).map String.ofList = (printSorted omitted w).map String.ofList ↔ _
    rw [printSorted_eq v hv, printSorted_eq w hw, hj, hk, Option.map_some, Option.map_some,
      Option.map_some, Option.map_some, Option.some.injEq, String.ofList_inj]
    exact sortedText_eq_iff (hv.jsonValued hj) (hw.jsonValued hk)

/-- The text of a copy is that of a document, `__proto__` properties apart. -/
theorem Reconciliation.canonicalText :
    CanonicalText stableStringify true fun j k => SameJson (dropProto j) (dropProto k) where
  defined {v j} _ hj := by
    refine ⟨String.ofList (stringify (AX10M.sortKeys j)), ?_⟩
    rw [stableStringify_eq, hj, Option.map_some]
  eq_iff {v w j k} hv hw hj hk := by
    rw [stableStringify_eq, stableStringify_eq, hj, hk, Option.map_some, Option.map_some,
      Option.some.injEq, String.ofList_inj, ← sortKeys_eq_iff]
    constructor
    · intro h
      exact stringify_injective (allDecimal_sortKeys (hv.jsonValued hj).decimal)
        (allDecimal_sortKeys (hw.jsonValued hk).decimal) h
    · intro h
      rw [h]

end AX10M
