/-
  The keys of JSON objects: their order, and values that are equal up to it.

  `rebuild f` applies `f` to the properties of every object in a value.  `SameJson`: with the keys
  of every object put in one order, the values are equal; it does not depend on the order that the
  properties are in (`sameJson_obj_iff`).
-/
import AX10M.Js.Stringify
import Mathlib.Data.List.Lex
import Mathlib.Data.List.Sort

namespace Js

/-! ## The order of keys -/

/-- The UTF-16 code units of a character. -/
def units (c : Char) : List ℕ :=
  if c.toNat < 65536 then [c.toNat]
  else [55296 + (c.toNat - 65536) / 1024, 56320 + (c.toNat - 65536) % 1024]

/-- The UTF-16 code units of a text. -/
def utf16 (s : String) : List ℕ := s.toList.flatMap units

/-- Code units determine the character that they start with. -/
theorem units_unambiguous {c d : Char} {us vs : List ℕ} (h : units c ++ us = units d ++ vs) :
    c = d ∧ us = vs := by
  have hval : ∀ e : Char, e.toNat < 55296 ∨ 57343 < e.toNat ∧ e.toNat < 1114112 := fun e => e.valid
  have hc := hval c
  have hd := hval d
  have hchar : c.toNat = d.toNat → c = d := fun heq => by
    rw [← Char.ofNat_toNat c, heq, Char.ofNat_toNat]
  unfold units at h
  split_ifs at h with h₁ h₂ h₃
  · obtain ⟨h, hr⟩ := List.cons.inj h
    exact ⟨hchar h, hr⟩
  · obtain ⟨h, -⟩ := List.cons.inj h
    omega
  · obtain ⟨h, -⟩ := List.cons.inj h
    omega
  · obtain ⟨hhigh, h⟩ := List.cons.inj h
    obtain ⟨hlow, hr⟩ := List.cons.inj h
    exact ⟨hchar (by omega), hr⟩

theorem utf16_injective {s t : String} (h : utf16 s = utf16 t) : s = t := by
  have hlists : ∀ cs ds : List Char, cs.flatMap units = ds.flatMap units → cs = ds := by
    have hne : ∀ c : Char, units c ≠ [] := by
      intro c
      unfold units
      split_ifs <;> simp
    intro cs
    induction cs with
    | nil =>
      rintro (_ | ⟨d, ds⟩) h
      · rfl
      · simp [hne] at h
    | cons c cs ih =>
      rintro (_ | ⟨d, ds⟩) h
      · simp [hne] at h
      · obtain ⟨rfl, hr⟩ := units_unambiguous h
        rw [ih ds hr]
  exact String.toList_inj.1 (hlists _ _ h)

/-- The order of `Array.prototype.sort` on keys. -/
def KeyLe (p q : String × Json) : Prop := utf16 p.1 ≤ utf16 q.1

instance : DecidableRel KeyLe := fun p q => inferInstanceAs (Decidable (utf16 p.1 ≤ utf16 q.1))

instance : Std.Total KeyLe := ⟨fun p q => le_total (utf16 p.1) (utf16 q.1)⟩

instance : IsTrans (String × Json) KeyLe :=
  ⟨fun p _ r h h' => show utf16 p.1 ≤ utf16 r.1 from le_trans h h'⟩

/-- The array index that a key is, which is its canonical decimal text. -/
def arrayIndex (k : String) : Option ℕ :=
  let n := digitsValue k.toList
  if k.toList = Nat.toDigits 10 n ∧ n < 2 ^ 32 - 1 then some n else none

/-- Array indices come in their own order. -/
def IndexLe (p q : String × Json) : Prop := (arrayIndex p.1).getD 0 ≤ (arrayIndex q.1).getD 0

instance : DecidableRel IndexLe := fun p q =>
  inferInstanceAs (Decidable ((arrayIndex p.1).getD 0 ≤ (arrayIndex q.1).getD 0))

instance : Std.Total IndexLe :=
  ⟨fun p q => le_total ((arrayIndex p.1).getD 0) ((arrayIndex q.1).getD 0)⟩

instance : IsTrans (String × Json) IndexLe :=
  ⟨fun p _ r h h' => show (arrayIndex p.1).getD 0 ≤ (arrayIndex r.1).getD 0 from le_trans h h'⟩

/-- The properties of an object in the order in which they are enumerated: array indices first, the
    others as they were inserted. -/
def ownOrder (fields : Record) : Record :=
  (fields.filter fun p => (arrayIndex p.1).isSome).insertionSort IndexLe ++
    fields.filter fun p => (arrayIndex p.1).isNone

/-- Properties inserted in the order of their keys, as they are enumerated. -/
def sortFields (fields : Record) : Record := ownOrder (fields.insertionSort KeyLe)

/-- Dropping items and sorting the others may be done in either order. -/
theorem filter_insertionSort {α : Type*} (r : α → α → Prop) [DecidableRel r] [Std.Total r]
    [IsTrans α r] (p : α → Bool) (l : List α) :
    (l.insertionSort r).filter p = (l.filter p).insertionSort r := by
  have hinsert : ∀ (a : α) (l : List α), l.Pairwise r → (l.orderedInsert r a).filter p =
      if p a then (l.filter p).orderedInsert r a else l.filter p := by
    intro a l hl
    induction l with
    | nil => by_cases ha : p a <;> simp [ha]
    | cons b l ih =>
      obtain ⟨hb, hl⟩ := List.pairwise_cons.1 hl
      rw [List.orderedInsert_cons]
      by_cases hab : r a b
      · rw [if_pos hab]
        by_cases ha : p a
        · rw [List.filter_cons_of_pos ha, if_pos ha]
          -- `a` stays before everything that is left of `b :: l`
          cases hrest : (b :: l).filter p with
          | nil => rfl
          | cons c rest =>
            have hc : c ∈ b :: l := (List.mem_filter.1 (hrest ▸ List.mem_cons_self ..)).1
            have hac : r a c := by
              rcases List.mem_cons.1 hc with rfl | hc
              · exact hab
              · exact IsTrans.trans a b c hab (hb c hc)
            rw [List.orderedInsert_cons, if_pos hac]
        · rw [List.filter_cons_of_neg ha, if_neg ha]
      · rw [if_neg hab]
        by_cases hpb : p b
        · rw [List.filter_cons_of_pos hpb, List.filter_cons_of_pos hpb, ih hl]
          by_cases ha : p a <;> simp [ha, hab]
        · rw [List.filter_cons_of_neg hpb, List.filter_cons_of_neg hpb, ih hl]
  induction l with
  | nil => rfl
  | cons a l ih =>
    rw [List.insertionSort_cons, hinsert a _ (List.pairwise_insertionSort r l), ih]
    by_cases ha : p a <;> simp [ha]

/-- Dropping properties and enumerating the others may be done in either order. -/
theorem filter_ownOrder (p : String × Json → Bool) (fields : Record) :
    (ownOrder fields).filter p = ownOrder (fields.filter p) := by
  have hcomm : ∀ (q : String × Json → Bool) (l : Record),
      (l.filter q).filter p = (l.filter p).filter q := by
    intro q l
    rw [List.filter_filter, List.filter_filter]
    exact List.filter_congr fun a _ => Bool.and_comm _ _
  rw [ownOrder, ownOrder, List.filter_append, filter_insertionSort, hcomm, hcomm]

theorem filter_sortFields (p : String × Json → Bool) (fields : Record) :
    (sortFields fields).filter p = sortFields (fields.filter p) := by
  rw [sortFields, sortFields, filter_ownOrder, filter_insertionSort]

theorem ownOrder_perm (fields : Record) : (ownOrder fields).Perm fields := by
  have hsplit := List.filter_append_perm (fun p : String × Json => (arrayIndex p.1).isSome) fields
  have hnone : (fun p : String × Json => !(arrayIndex p.1).isSome) =
      fun p => (arrayIndex p.1).isNone := by
    ext p
    simp
  rw [hnone] at hsplit
  exact ((List.perm_insertionSort _ _).append_right _).trans hsplit

theorem sortFields_perm (fields : Record) : (sortFields fields).Perm fields :=
  (ownOrder_perm _).trans (List.perm_insertionSort _ _)

/-- Properties with distinct keys are sorted to an order that does not depend on theirs. -/
theorem insertionSort_keyLe_congr {fields fields' : Record} (h : fields.Perm fields')
    (hd : (fields.map Prod.fst).Nodup) :
    fields.insertionSort KeyLe = fields'.insertionSort KeyLe := by
  have hperm : (fields.insertionSort KeyLe).Perm (fields'.insertionSort KeyLe) :=
    ((List.perm_insertionSort _ _).trans h).trans (List.perm_insertionSort _ _).symm
  refine hperm.eq_of_pairwise (fun p q hp hq hpq hqp => ?_)
    (List.pairwise_insertionSort _ _) (List.pairwise_insertionSort _ _)
  have hkey : p.1 = q.1 := utf16_injective (le_antisymm hpq hqp)
  have hp' : p ∈ fields := (List.mem_insertionSort _).1 hp
  have hq' : q ∈ fields := h.mem_iff.2 ((List.mem_insertionSort _).1 hq)
  exact List.inj_on_of_nodup_map hd hp' hq' hkey

/-- Properties with distinct keys are enumerated in an order that does not depend on theirs. -/
theorem sortFields_congr {fields fields' : Record} (h : fields.Perm fields')
    (hd : (fields.map Prod.fst).Nodup) : sortFields fields = sortFields fields' := by
  rw [sortFields, sortFields, insertionSort_keyLe_congr h hd]

/-! ## The objects in a value -/

mutual

/-- The value with `f` applied to the properties of every object, the innermost first. -/
def rebuild (f : Record → Record) : Json → Json
  | .arr xs => .arr (rebuildItems f xs)
  | .obj fields => .obj (f (rebuildFields f fields))
  | .null => .null
  | .bool b => .bool b
  | .num x => .num x
  | .str s => .str s

def rebuildItems (f : Record → Record) : List Json → List Json
  | [] => []
  | x :: xs => rebuild f x :: rebuildItems f xs

def rebuildFields (f : Record → Record) : List (String × Json) → List (String × Json)
  | [] => []
  | (k, v) :: fields => (k, rebuild f v) :: rebuildFields f fields

end

/-- Properties with `φ` applied to their values. -/
def mapValues (φ : Json → Json) (fields : Record) : Record := fields.map (Prod.map id φ)

theorem rebuildItems_eq (f : Record → Record) (xs : List Json) :
    rebuildItems f xs = xs.map (rebuild f) := by
  induction xs with
  | nil => rfl
  | cons x xs ih => rw [rebuildItems, ih, List.map_cons]

theorem rebuildFields_eq (f : Record → Record) (fields : Record) :
    rebuildFields f fields = mapValues (rebuild f) fields := by
  induction fields with
  | nil => rfl
  | cons p fields ih =>
    obtain ⟨k, v⟩ := p
    rw [rebuildFields, ih, mapValues, mapValues, List.map_cons]
    rfl

theorem rebuild_arr (f : Record → Record) (xs : List Json) :
    rebuild f (.arr xs) = .arr (xs.map (rebuild f)) := by
  rw [rebuild, rebuildItems_eq]

theorem rebuild_obj (f : Record → Record) (fields : Record) :
    rebuild f (.obj fields) = .obj (f (mapValues (rebuild f) fields)) := by
  rw [rebuild, rebuildFields_eq]

theorem mapValues_keys (φ : Json → Json) (fields : Record) :
    (mapValues φ fields).map Prod.fst = fields.map Prod.fst := by
  rw [mapValues, List.map_map]
  exact List.map_congr_left fun _ _ => rfl

/-- What is done to the properties depends on their keys only. -/
def OnKeys (g : Record → Record) : Prop := ∀ φ fields, g (mapValues φ fields) = mapValues φ (g fields)

theorem onKeys_filter (p : String → Bool) : OnKeys fun fields => fields.filter fun f => p f.1 := by
  intro φ fields
  induction fields with
  | nil => rfl
  | cons f fields ih => by_cases hp : p f.1 <;> simp_all [mapValues]

theorem onKeys_insertionSort {r : String × Json → String × Json → Prop} [DecidableRel r]
    (h : ∀ φ p q, r p q ↔ r (Prod.map id φ p) (Prod.map id φ q)) :
    OnKeys fun fields => fields.insertionSort r := by
  intro φ fields
  exact (List.map_insertionSort _ _ _ _ fun p _ q _ => h φ p q).symm

theorem onKeys_ownOrder : OnKeys ownOrder := by
  intro φ fields
  have hindex : OnKeys fun fields => fields.filter fun p => (arrayIndex p.1).isSome :=
    onKeys_filter fun k => (arrayIndex k).isSome
  have hother : OnKeys fun fields => fields.filter fun p => (arrayIndex p.1).isNone :=
    onKeys_filter fun k => (arrayIndex k).isNone
  have hsort : OnKeys fun fields => fields.insertionSort IndexLe :=
    onKeys_insertionSort fun _ _ _ => Iff.rfl
  have h₁ := hindex φ fields
  have h₂ := hother φ fields
  have h₃ := hsort φ (fields.filter fun p => (arrayIndex p.1).isSome)
  simp only at h₁ h₂ h₃
  rw [ownOrder, ownOrder, h₁, h₂, h₃, mapValues, mapValues, mapValues, List.map_append]

theorem onKeys_sortFields : OnKeys sortFields := by
  intro φ fields
  have hsort : OnKeys fun fields => fields.insertionSort KeyLe :=
    onKeys_insertionSort fun _ _ _ => Iff.rfl
  have h := hsort φ fields
  simp only at h
  rw [sortFields, sortFields, h, onKeys_ownOrder]

mutual

/-- One pass over the objects after another. -/
theorem rebuild_rebuild {f g : Record → Record} (hg : OnKeys g) :
    ∀ v, rebuild f (rebuild g v) = rebuild (f ∘ g) v
  | .arr xs => by
    rw [rebuild, rebuild, rebuild, rebuildItems_rebuild hg xs]
  | .obj fields => by
    rw [rebuild, rebuild, rebuild, rebuildFields_eq f, ← hg, ← rebuildFields_eq f,
      rebuildFields_rebuild hg fields]
    rfl
  | .null | .bool _ | .num _ | .str _ => by rw [rebuild, rebuild, rebuild]

theorem rebuildItems_rebuild {f g : Record → Record} (hg : OnKeys g) :
    ∀ xs, rebuildItems f (rebuildItems g xs) = rebuildItems (f ∘ g) xs
  | [] => rfl
  | x :: xs => by
    rw [rebuildItems, rebuildItems, rebuildItems, rebuild_rebuild hg x, rebuildItems_rebuild hg xs]

theorem rebuildFields_rebuild {f g : Record → Record} (hg : OnKeys g) :
    ∀ fields, rebuildFields f (rebuildFields g fields) = rebuildFields (f ∘ g) fields
  | [] => rfl
  | (k, v) :: fields => by
    rw [rebuildFields, rebuildFields, rebuildFields, rebuild_rebuild hg v,
      rebuildFields_rebuild hg fields]

end

/-! ## Values up to the order of keys -/

mutual

/-- No object in the value has a key twice. -/
def DistinctKeys : Json → Prop
  | .arr xs => DistinctKeysItems xs
  | .obj fields => (fields.map Prod.fst).Nodup ∧ DistinctKeysFields fields
  | _ => True

def DistinctKeysItems : List Json → Prop
  | [] => True
  | x :: xs => DistinctKeys x ∧ DistinctKeysItems xs

def DistinctKeysFields : List (String × Json) → Prop
  | [] => True
  | (_, v) :: fields => DistinctKeys v ∧ DistinctKeysFields fields

end

/-- The values that JSON texts have: no key twice, and finite decimals. -/
structure JsonValued (v : Json) : Prop where
  distinct : DistinctKeys v
  decimal : AllDecimal v

mutual

theorem rebuild_congr {f g : Record → Record}
    (h : ∀ fields : Record, (fields.map Prod.fst).Nodup → f fields = g fields) :
    ∀ v, DistinctKeys v → rebuild f v = rebuild g v
  | .arr xs, hv => by
    rw [DistinctKeys] at hv
    rw [rebuild, rebuild, rebuildItems_congr h xs hv]
  | .obj fields, hv => by
    rw [DistinctKeys] at hv
    rw [rebuild, rebuild, rebuildFields_congr h fields hv.2, h]
    rw [rebuildFields_eq, mapValues_keys]
    exact hv.1
  | .null, _ | .bool _, _ | .num _, _ | .str _, _ => by rw [rebuild, rebuild]

theorem rebuildItems_congr {f g : Record → Record}
    (h : ∀ fields : Record, (fields.map Prod.fst).Nodup → f fields = g fields) :
    ∀ xs, DistinctKeysItems xs → rebuildItems f xs = rebuildItems g xs
  | [], _ => rfl
  | x :: xs, hxs => by
    rw [DistinctKeysItems] at hxs
    rw [rebuildItems, rebuildItems, rebuild_congr h x hxs.1, rebuildItems_congr h xs hxs.2]

theorem rebuildFields_congr {f g : Record → Record}
    (h : ∀ fields : Record, (fields.map Prod.fst).Nodup → f fields = g fields) :
    ∀ fields, DistinctKeysFields fields → rebuildFields f fields = rebuildFields g fields
  | [], _ => rfl
  | (k, v) :: fields, hf => by
    rw [DistinctKeysFields] at hf
    rw [rebuildFields, rebuildFields, rebuild_congr h v hf.1, rebuildFields_congr h fields hf.2]

end

theorem distinctKeysFields_iff {fields : Record} :
    DistinctKeysFields fields ↔ ∀ p ∈ fields, DistinctKeys p.2 := by
  induction fields with
  | nil => simp [DistinctKeysFields]
  | cons p fields ih =>
    obtain ⟨k, v⟩ := p
    rw [DistinctKeysFields, ih, List.forall_mem_cons]

theorem allDecimalFields_iff {fields : Record} :
    AllDecimalFields fields ↔ ∀ p ∈ fields, AllDecimal p.2 := by
  induction fields with
  | nil => simp [AllDecimalFields]
  | cons p fields ih =>
    obtain ⟨k, v⟩ := p
    rw [AllDecimalFields, ih, List.forall_mem_cons]

mutual

/-- Dropping and moving properties keeps the numbers finite decimals. -/
theorem allDecimal_rebuild {f : Record → Record} (hf : ∀ fields, f fields ⊆ fields) :
    ∀ v, AllDecimal v → AllDecimal (rebuild f v)
  | .arr xs, hv => by
    rw [AllDecimal] at hv
    rw [rebuild, AllDecimal]
    exact allDecimal_rebuildItems hf xs hv
  | .obj fields, hv => by
    rw [AllDecimal] at hv
    rw [rebuild, AllDecimal, allDecimalFields_iff]
    intro p hp
    exact allDecimalFields_iff.1 (allDecimal_rebuildFields hf fields hv) p (hf _ hp)
  | .null, _ | .bool _, _ | .num _, hv | .str _, _ => by
    rw [rebuild]
    assumption

theorem allDecimal_rebuildItems {f : Record → Record} (hf : ∀ fields, f fields ⊆ fields) :
    ∀ xs, AllDecimalItems xs → AllDecimalItems (rebuildItems f xs)
  | [], h => h
  | x :: xs, h => by
    rw [AllDecimalItems] at h
    rw [rebuildItems, AllDecimalItems]
    exact ⟨allDecimal_rebuild hf x h.1, allDecimal_rebuildItems hf xs h.2⟩

theorem allDecimal_rebuildFields {f : Record → Record} (hf : ∀ fields, f fields ⊆ fields) :
    ∀ fields, AllDecimalFields fields → AllDecimalFields (rebuildFields f fields)
  | [], h => h
  | (k, v) :: fields, h => by
    rw [AllDecimalFields] at h
    rw [rebuildFields, AllDecimalFields]
    exact ⟨allDecimal_rebuild hf v h.1, allDecimal_rebuildFields hf fields h.2⟩

end

mutual

/-- Moving properties keeps the keys distinct. -/
theorem distinctKeys_rebuild {f : Record → Record} (hf : ∀ fields, (f fields).Perm fields) :
    ∀ v, DistinctKeys v → DistinctKeys (rebuild f v)
  | .arr xs, hv => by
    rw [DistinctKeys] at hv
    rw [rebuild, DistinctKeys]
    exact distinctKeys_rebuildItems hf xs hv
  | .obj fields, hv => by
    rw [DistinctKeys] at hv
    rw [rebuild, DistinctKeys, distinctKeysFields_iff]
    refine ⟨?_, fun p hp => ?_⟩
    · rw [((hf _).map Prod.fst).nodup_iff, rebuildFields_eq, mapValues_keys]
      exact hv.1
    · exact distinctKeysFields_iff.1 (distinctKeys_rebuildFields hf fields hv.2) p
        ((hf _).subset hp)
  | .null, _ | .bool _, _ | .num _, _ | .str _, _ => by
    rw [rebuild, DistinctKeys]
    all_goals simp

theorem distinctKeys_rebuildItems {f : Record → Record} (hf : ∀ fields, (f fields).Perm fields) :
    ∀ xs, DistinctKeysItems xs → DistinctKeysItems (rebuildItems f xs)
  | [], h => h
  | x :: xs, h => by
    rw [DistinctKeysItems] at h
    rw [rebuildItems, DistinctKeysItems]
    exact ⟨distinctKeys_rebuild hf x h.1, distinctKeys_rebuildItems hf xs h.2⟩

theorem distinctKeys_rebuildFields {f : Record → Record} (hf : ∀ fields, (f fields).Perm fields) :
    ∀ fields, DistinctKeysFields fields → DistinctKeysFields (rebuildFields f fields)
  | [], h => h
  | (k, v) :: fields, h => by
    rw [DistinctKeysFields] at h
    rw [rebuildFields, DistinctKeysFields]
    exact ⟨distinctKeys_rebuild hf v h.1, distinctKeys_rebuildFields hf fields h.2⟩

end

/-- What holds of a value holds of it with its properties moved. -/
theorem JsonValued.rebuild {f : Record → Record} (hf : ∀ fields, (f fields).Perm fields) {v : Json}
    (h : JsonValued v) : JsonValued (rebuild f v) where
  distinct := distinctKeys_rebuild hf v h.distinct
  decimal := allDecimal_rebuild (fun fields => (hf fields).subset) v h.decimal

/-- The value with the keys of every object in one order. -/
def normal (v : Json) : Json := rebuild sortFields v

/-- The values are equal up to the order of keys. -/
def SameJson (v w : Json) : Prop := normal v = normal w

@[refl] theorem SameJson.refl (v : Json) : SameJson v v := rfl

theorem SameJson.symm {v w : Json} (h : SameJson v w) : SameJson w v := Eq.symm h

section

variable {fields fields' : Record}

/-- Objects that are the same have the same properties, in some order. -/
theorem SameJson.perm (h : SameJson (.obj fields) (.obj fields')) :
    (mapValues normal fields).Perm (mapValues normal fields') := by
  rw [SameJson, normal, normal, rebuild_obj, rebuild_obj, Json.obj.injEq] at h
  exact ((sortFields_perm _).symm.trans (.of_eq h)).trans (sortFields_perm _)

theorem SameJson.length_eq (h : SameJson (.obj fields) (.obj fields')) :
    fields.length = fields'.length := by
  have hlength := h.perm.length_eq
  rwa [mapValues, mapValues, List.length_map, List.length_map] at hlength

/-- A text in one document is a text in the other. -/
theorem SameJson.mem_str (h : SameJson (.obj fields) (.obj fields')) {key s : String}
    (hmem : (key, .str s) ∈ fields) : (key, .str s) ∈ fields' := by
  have hnormal : (key, Json.str s) ∈ mapValues normal fields :=
    List.mem_map.2 ⟨_, hmem, by rw [Prod.map_apply, normal, rebuild, id]⟩
  obtain ⟨⟨key', v⟩, hv, heq⟩ := List.mem_map.1 (h.perm.subset hnormal)
  rw [Prod.map_apply, Prod.mk.injEq, id] at heq
  obtain ⟨rfl, hstr⟩ := heq
  cases v <;> simp [normal, rebuild] at hstr
  rwa [hstr] at hv

end

/-- Objects are the same when their properties match, in some order. -/
theorem sameJson_obj_iff {fields fields' : Record} (hd : (fields.map Prod.fst).Nodup) :
    SameJson (.obj fields) (.obj fields') ↔
      ∃ matching, List.Forall₂ (fun p q => p.1 = q.1 ∧ SameJson p.2 q.2) fields matching ∧
        matching.Perm fields' := by
  constructor
  · intro h
    have hperm := h.perm
    have hmap : List.Forall₂ (fun p q => p = Prod.map id normal q) (mapValues normal fields')
        fields' :=
      List.forall₂_map_left_iff.2 (List.forall₂_same.2 fun _ _ => rfl)
    obtain ⟨matching, hf, hp⟩ := List.perm_comp_forall₂ hperm hmap
    refine ⟨matching, ?_, hp⟩
    refine (List.forall₂_map_left_iff.1 hf).imp fun p q hpq => ?_
    obtain ⟨hkey, hvalue⟩ := Prod.ext_iff.1 hpq
    exact ⟨hkey, hvalue⟩
  · rintro ⟨matching, hf, hp⟩
    have heq : mapValues normal fields = mapValues normal matching := by
      refine List.forall₂_eq_eq_eq ▸ List.forall₂_map_left_iff.2 (List.forall₂_map_right_iff.2 ?_)
      exact hf.imp fun p q hpq => Prod.ext hpq.1 hpq.2
    rw [SameJson, normal, normal, rebuild_obj, rebuild_obj, Json.obj.injEq]
    show sortFields (mapValues normal fields) = _
    rw [heq]
    refine sortFields_congr (hp.map _) ?_
    rw [← heq, mapValues_keys]
    exact hd

end Js
