/-
  The text of a JSON value (`JSON.stringify` without white space).

  An object's properties are printed in their order.  `stringify_unambiguous`: the text of a value
  whose numbers are finite decimals determines it, whatever follows.
-/
import AX10M.Js.Json
import AX10M.Js.Numeral
import Mathlib.Tactic.IntervalCases

namespace Js

/-! ## Strings -/

/-- A character inside quotes; control characters and the two that have a meaning are escaped. -/
def escape (c : Char) : List Char :=
  if c = '"' then ['\\', '"']
  else if c = '\\' then ['\\', '\\']
  else if c = '\n' then ['\\', 'n']
  else if c = '\r' then ['\\', 'r']
  else if c = '\t' then ['\\', 't']
  else if c.toNat = 8 then ['\\', 'b']
  else if c.toNat = 12 then ['\\', 'f']
  else if c.toNat < 32 then
    ['\\', 'u', '0', '0', Nat.digitChar (c.toNat / 16), Nat.digitChar (c.toNat % 16)]
  else [c]

/-- The characters inside quotes, and the quote that ends them. -/
def quoted (cs : List Char) : List Char := cs.flatMap escape ++ ['"']

/-- A text in quotes. -/
def quote (s : String) : List Char := '"' :: quoted s.toList

/-- The first character of escaped text, and what follows it. -/
def unescape : List Char → Option (Char × List Char)
  | '\\' :: 'u' :: '0' :: '0' :: a :: b :: rest =>
    (['0', '1', '2', '3', '4', '5', '6', '7', '8', '9', 'a', 'b', 'c', 'd', 'e', 'f'].findIdx?
      (· = b)).map fun low => (Char.ofNat (digitsValue [a] * 16 + low), rest)
  | '\\' :: 'n' :: rest => some ('\n', rest)
  | '\\' :: 'r' :: rest => some ('\r', rest)
  | '\\' :: 't' :: rest => some ('\t', rest)
  | '\\' :: 'b' :: rest => some (Char.ofNat 8, rest)
  | '\\' :: 'f' :: rest => some (Char.ofNat 12, rest)
  | '\\' :: c :: rest => some (c, rest)
  | '"' :: _ => none
  | c :: rest => some (c, rest)
  | [] => none

theorem unescape_escape (c : Char) (rest : List Char) :
    unescape (escape c ++ rest) = some (c, rest) := by
  unfold escape
  split_ifs with h₁ h₂ h₃ h₄ h₅ h₆ h₇ h₈
  · rw [h₁]
    rfl
  · rw [h₂]
    rfl
  · rw [h₃]
    rfl
  · rw [h₄]
    rfl
  · rw [h₅]
    rfl
  · rw [← Char.ofNat_toNat c, h₆]
    rfl
  · rw [← Char.ofNat_toNat c, h₇]
    rfl
  · have hcode : ∀ n < 32, unescape (['\\', 'u', '0', '0', Nat.digitChar (n / 16),
        Nat.digitChar (n % 16)] ++ rest) = some (Char.ofNat n, rest) := by
      intro n hn
      interval_cases n <;> rfl
    rw [hcode _ h₈, Char.ofNat_toNat]
  · rw [List.singleton_append]
    unfold unescape
    split <;> simp_all

/-- Quoted text determines the characters. -/
theorem quoted_unambiguous {cs cs' rest rest' : List Char}
    (h : quoted cs ++ rest = quoted cs' ++ rest') : cs = cs' ∧ rest = rest' := by
  have hnil : ∀ r, unescape (quoted [] ++ r) = none := fun _ => rfl
  have hcons : ∀ c l r, unescape (quoted (c :: l) ++ r) = some (c, quoted l ++ r) := by
    intro c l r
    have := unescape_escape c (quoted l ++ r)
    simpa [quoted] using this
  induction cs generalizing cs' with
  | nil =>
    cases cs' with
    | nil => exact ⟨rfl, List.append_cancel_left h⟩
    | cons c' cs' =>
      have := congrArg unescape h
      rw [hnil, hcons] at this
      cases this
  | cons c cs ih =>
    cases cs' with
    | nil =>
      have := congrArg unescape h
      rw [hnil, hcons] at this
      cases this
    | cons c' cs' =>
      have hc := congrArg unescape h
      rw [hcons, hcons, Option.some.injEq, Prod.mk.injEq] at hc
      obtain ⟨rfl, hrest⟩ := hc
      obtain ⟨rfl, hr⟩ := ih hrest
      exact ⟨rfl, hr⟩

theorem quote_unambiguous {s s' : String} {rest rest' : List Char}
    (h : quote s ++ rest = quote s' ++ rest') : s = s' ∧ rest = rest' := by
  rw [quote, quote, List.cons_append, List.cons_append, List.cons.injEq] at h
  obtain ⟨hs, hr⟩ := quoted_unambiguous h.2
  exact ⟨String.toList_inj.1 hs, hr⟩

/-! ## Values -/

mutual

/-- The text of a value. -/
def stringify : Json → List Char
  | .null => ['n', 'u', 'l', 'l']
  | .bool true => ['t', 'r', 'u', 'e']
  | .bool false => ['f', 'a', 'l', 's', 'e']
  | .num x => numberText x
  | .str s => quote s
  | .arr [] => ['[', ']']
  | .arr (x :: xs) => '[' :: (stringify x ++ moreItems xs)
  | .obj [] => ['{', '}']
  | .obj ((k, v) :: fields) => '{' :: (quote k ++ ':' :: (stringify v ++ moreFields fields))

/-- The other items of an array, and its end. -/
def moreItems : List Json → List Char
  | [] => [']']
  | x :: xs => ',' :: (stringify x ++ moreItems xs)

/-- The other properties of an object, and its end. -/
def moreFields : List (String × Json) → List Char
  | [] => ['}']
  | (k, v) :: fields => ',' :: (quote k ++ ':' :: (stringify v ++ moreFields fields))

end

mutual

/-- All numbers of a value are finite decimals. -/
def AllDecimal : Json → Prop
  | .num x => IsDecimal x
  | .arr xs => AllDecimalItems xs
  | .obj fields => AllDecimalFields fields
  | _ => True

def AllDecimalItems : List Json → Prop
  | [] => True
  | x :: xs => AllDecimal x ∧ AllDecimalItems xs

def AllDecimalFields : List (String × Json) → Prop
  | [] => True
  | (_, v) :: fields => AllDecimal v ∧ AllDecimalFields fields

end

/-! ## Unambiguity -/

/-- The kind of a value that starts with a character. -/
def leadKind (c : Char) : ℕ :=
  if c = 'n' then 0
  else if c = 't' ∨ c = 'f' then 1
  else if c = '-' ∨ c.isDigit then 2
  else if c = '"' then 3
  else if c = '[' then 4
  else if c = '{' then 5
  else 6

/-- The kind of a value. -/
def Json.kind : Json → ℕ
  | .null => 0
  | .bool _ => 1
  | .num _ => 2
  | .str _ => 3
  | .arr _ => 4
  | .obj _ => 5

theorem numberText_lead (x : ℚ) : ∃ c cs, numberText x = c :: cs ∧ (c = '-' ∨ c.isDigit) := by
  unfold numberText
  by_cases h0 : x = 0
  · exact ⟨'0', [], if_pos h0, .inr rfl⟩
  · rw [if_neg h0]
    by_cases hneg : x < 0
    · refine ⟨'-', (numeral (significand x).1 (significand x).2).text, ?_, .inl rfl⟩
      simp [hneg]
    · have hne : (significand x).1 ≠ [] := toDigits_ne_nil _
      have hwf := numeral_wf hne (fun c hc => isDigit_toDigits hc) (significand x).2
      obtain ⟨d, ds, hw⟩ := List.exists_cons_of_ne_nil hwf.nonempty
      refine ⟨d, ds ++ (numeral (significand x).1 (significand x).2).fractionText ++
        (numeral (significand x).1 (significand x).2).exponentText, ?_,
        .inr (hwf.whole d (by simp [hw]))⟩
      simp [hneg, Numeral.text, hw]

/-- A text starts with a character of its value's kind. -/
theorem stringify_lead (v : Json) : ∃ c cs, stringify v = c :: cs ∧ leadKind c = v.kind := by
  cases v with
  | null => exact ⟨_, _, by rw [stringify], rfl⟩
  | bool b => cases b <;> exact ⟨_, _, by rw [stringify], rfl⟩
  | num x =>
    obtain ⟨c, cs, hc, hd⟩ := numberText_lead x
    refine ⟨c, cs, by rw [stringify, hc], ?_⟩
    have hn : c ≠ 'n' ∧ c ≠ 't' ∧ c ≠ 'f' := by
      rcases hd with rfl | hd
      · decide
      · refine ⟨?_, ?_, ?_⟩ <;> rintro rfl <;> exact absurd hd (by decide)
    simp [leadKind, hn, hd, Json.kind]
  | str s => exact ⟨_, _, by rw [stringify, quote], rfl⟩
  | arr xs => cases xs <;> exact ⟨_, _, by rw [stringify], rfl⟩
  | obj fields =>
    cases fields with
    | nil => exact ⟨_, _, by rw [stringify], rfl⟩
    | cons f fields => exact ⟨_, _, by rw [stringify], rfl⟩

/-- Values with one text before anything are of one kind. -/
theorem kind_eq {v w : Json} {rest rest' : List Char}
    (h : stringify v ++ rest = stringify w ++ rest') : v.kind = w.kind := by
  obtain ⟨c, cs, hv, hcv⟩ := stringify_lead v
  obtain ⟨d, ds, hw, hdw⟩ := stringify_lead w
  rw [hv, hw, List.cons_append, List.cons_append, List.cons.injEq] at h
  rw [← hcv, ← hdw, h.1]

/-- A value does not start with a character that ends one. -/
theorem stringify_ne {v : Json} {c : Char} {rest rest' : List Char} (hc : leadKind c = 6) :
    stringify v ++ rest ≠ c :: rest' := by
  intro h
  obtain ⟨d, ds, hv, hd⟩ := stringify_lead v
  rw [hv, List.cons_append, List.cons.injEq] at h
  obtain ⟨rfl, -⟩ := h
  rw [hc] at hd
  cases v <;> simp [Json.kind] at hd

theorem ends_cons {c : Char} {rest : List Char} (h : leadKind c = 6) (hp : c ≠ '.') (he : c ≠ 'e')
    (hE : c ≠ 'E') : Ends (c :: rest) := by
  intro d hd
  obtain rfl : c = d := Option.some.inj hd
  refine ⟨fun hdig => ?_, hp, he, hE⟩
  simp [leadKind, hdig] at h
  split_ifs at h <;> omega

theorem ends_moreItems (xs : List Json) (rest : List Char) : Ends (moreItems xs ++ rest) := by
  cases xs <;> exact ends_cons (by decide) (by decide) (by decide) (by decide)

theorem ends_moreFields (fields : List (String × Json)) (rest : List Char) :
    Ends (moreFields fields ++ rest) := by
  cases fields <;> exact ends_cons (by decide) (by decide) (by decide) (by decide)

mutual

/-- The text of a value determines it, whatever follows. -/
theorem stringify_unambiguous : ∀ (v w : Json) (rest rest' : List Char), AllDecimal v →
    AllDecimal w → Ends rest → Ends rest' → stringify v ++ rest = stringify w ++ rest' →
    v = w ∧ rest = rest'
  | .null, w, rest, rest', _, _, _, _, h => by
    have hk := kind_eq h
    cases w <;> simp [Json.kind] at hk
    exact ⟨rfl, List.append_cancel_left h⟩
  | .bool b, w, rest, rest', _, _, _, _, h => by
    have hk := kind_eq h
    cases w with
    | bool b' => cases b <;> cases b' <;> simp [stringify] at h <;> exact ⟨rfl, h⟩
    | _ => simp [Json.kind] at hk
  | .num x, w, rest, rest', hv, hw, hr, hr', h => by
    have hk := kind_eq h
    cases w with
    | num y =>
      rw [AllDecimal] at hv hw
      have hx := decimalPrefix_numberText hv hr
      have hy := decimalPrefix_numberText hw hr'
      rw [stringify, stringify] at h
      rw [h, hy, Option.some.injEq, Prod.mk.injEq] at hx
      exact ⟨by rw [hx.1], hx.2.symm⟩
    | _ => simp [Json.kind] at hk
  | .str s, w, rest, rest', _, _, _, _, h => by
    have hk := kind_eq h
    cases w with
    | str s' =>
      rw [stringify, stringify] at h
      obtain ⟨rfl, hr⟩ := quote_unambiguous h
      exact ⟨rfl, hr⟩
    | _ => simp [Json.kind] at hk
  | .arr [], w, rest, rest', _, _, _, _, h => by
    have hk := kind_eq h
    cases w with
    | arr ys =>
      cases ys with
      | nil => exact ⟨rfl, List.append_cancel_left h⟩
      | cons y ys =>
        simp only [stringify, List.cons_append, List.nil_append, List.append_assoc,
          List.cons.injEq, true_and] at h
        exact absurd h.symm (stringify_ne (by decide))
    | _ => simp [Json.kind] at hk
  | .arr (x :: xs), w, rest, rest', hv, hw, _, _, h => by
    have hk := kind_eq h
    cases w with
    | arr ys =>
      cases ys with
      | nil =>
        simp only [stringify, List.cons_append, List.nil_append, List.append_assoc,
          List.cons.injEq, true_and] at h
        exact absurd h (stringify_ne (by decide))
      | cons y ys =>
        simp only [AllDecimal, AllDecimalItems] at hv hw
        simp only [stringify, List.cons_append, List.append_assoc, List.cons.injEq,
          true_and] at h
        obtain ⟨rfl, hmore⟩ := stringify_unambiguous x y _ _ hv.1 hw.1 (ends_moreItems _ _)
          (ends_moreItems _ _) h
        obtain ⟨rfl, hr⟩ := moreItems_unambiguous xs ys rest rest' hv.2 hw.2 hmore
        exact ⟨rfl, hr⟩
    | _ => simp [Json.kind] at hk
  | .obj [], w, rest, rest', _, _, _, _, h => by
    have hk := kind_eq h
    cases w with
    | obj fields' =>
      cases fields' with
      | nil => exact ⟨rfl, List.append_cancel_left h⟩
      | cons f fields' => simp [stringify, quote] at h
    | _ => simp [Json.kind] at hk
  | .obj ((k, v) :: fields), w, rest, rest', hv, hw, _, _, h => by
    have hk := kind_eq h
    cases w with
    | obj fields' =>
      cases fields' with
      | nil => simp [stringify, quote] at h
      | cons f fields' =>
        obtain ⟨k', v'⟩ := f
        simp only [AllDecimal, AllDecimalFields] at hv hw
        simp only [stringify, List.cons_append, List.append_assoc, List.cons.injEq,
          true_and] at h
        obtain ⟨rfl, hvalue⟩ := quote_unambiguous h
        obtain ⟨rfl, hmore⟩ := stringify_unambiguous v v' _ _ hv.1 hw.1 (ends_moreFields _ _)
          (ends_moreFields _ _) (List.cons.inj hvalue).2
        obtain ⟨rfl, hr⟩ := moreFields_unambiguous fields fields' rest rest' hv.2 hw.2 hmore
        exact ⟨rfl, hr⟩
    | _ => simp [Json.kind] at hk

theorem moreItems_unambiguous : ∀ (xs ys : List Json) (rest rest' : List Char),
    AllDecimalItems xs → AllDecimalItems ys → moreItems xs ++ rest = moreItems ys ++ rest' →
    xs = ys ∧ rest = rest'
  | [], [], rest, rest', _, _, h => ⟨rfl, List.append_cancel_left h⟩
  | [], _ :: _, rest, rest', _, _, h => by simp [moreItems] at h
  | _ :: _, [], rest, rest', _, _, h => by simp [moreItems] at h
  | x :: xs, y :: ys, rest, rest', hx, hy, h => by
    simp only [AllDecimalItems] at hx hy
    simp only [moreItems, List.cons_append, List.append_assoc, List.cons.injEq, true_and] at h
    obtain ⟨rfl, hmore⟩ := stringify_unambiguous x y _ _ hx.1 hy.1 (ends_moreItems _ _)
      (ends_moreItems _ _) h
    obtain ⟨rfl, hr⟩ := moreItems_unambiguous xs ys rest rest' hx.2 hy.2 hmore
    exact ⟨rfl, hr⟩

theorem moreFields_unambiguous : ∀ (fs gs : List (String × Json)) (rest rest' : List Char),
    AllDecimalFields fs → AllDecimalFields gs → moreFields fs ++ rest = moreFields gs ++ rest' →
    fs = gs ∧ rest = rest'
  | [], [], rest, rest', _, _, h => ⟨rfl, List.append_cancel_left h⟩
  | [], _ :: _, rest, rest', _, _, h => by simp [moreFields] at h
  | _ :: _, [], rest, rest', _, _, h => by simp [moreFields] at h
  | (k, v) :: fs, (k', v') :: gs, rest, rest', hf, hg, h => by
    simp only [AllDecimalFields] at hf hg
    simp only [moreFields, List.cons_append, List.append_assoc, List.cons.injEq, true_and] at h
    obtain ⟨rfl, hvalue⟩ := quote_unambiguous h
    obtain ⟨rfl, hmore⟩ := stringify_unambiguous v v' _ _ hf.1 hg.1 (ends_moreFields _ _)
      (ends_moreFields _ _) (List.cons.inj hvalue).2
    obtain ⟨rfl, hr⟩ := moreFields_unambiguous fs gs rest rest' hf.2 hg.2 hmore
    exact ⟨rfl, hr⟩

end

/-- Values with one text are equal. -/
theorem stringify_injective {v w : Json} (hv : AllDecimal v) (hw : AllDecimal w)
    (h : stringify v = stringify w) : v = w :=
  (stringify_unambiguous v w [] [] hv hw ends_nil ends_nil (by rw [h])).1

end Js
