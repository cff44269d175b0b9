/-
  Runs of digits that a space or a dash may separate: the patterns for card numbers.

  Each digit after the first may have one separator before it, so where a run is read from is all
  that there is to choose: `moreDigits n` is what is left behind `n` more digits.
-/
import AX10M.Js.Text
import Mathlib.Data.List.Basic
import Mathlib.Logic.Basic

namespace Js

/-- A separator of the digits of a card number (`[ -]`). -/
def isSeparator (c : Char) : Bool := c = ' ' || c = '-'

/-- Behind one more digit (`[ -]?\d`). -/
def nextDigit : List Char → Option (List Char)
  | [] => none
  | c :: cs =>
    if c.isDigit then some cs
    else if isSeparator c then
      match cs with
      | d :: rest => if d.isDigit then some rest else none
      | [] => none
    else none

/-- Behind some more digits. -/
def moreDigits : Nat → List Char → Option (List Char)
  | 0, cs => some cs
  | n + 1, cs => (nextDigit cs).bind (moreDigits n)

/-- A run of 13 digits or more from here (`(?:\d[ -]?){13,19}`; the longest match has no more than
    19, and 13 are enough for one). -/
def panFrom : List Char → Bool
  | [] => false
  | d :: cs => d.isDigit && (moreDigits 12 cs).isSome

/-- A run of 13 digits or more somewhere. -/
def panSomewhere : List Char → Bool
  | [] => false
  | c :: cs => panFrom (c :: cs) || panSomewhere cs

/-- The text goes on with no character of a word, after one (`\b`). -/
def wordEnds (cs : List Char) : Bool := !cs.head?.any isWordChar

/-- A run of 13 to 19 digits from here that stands as a word (`\b\d(?:[ -]?\d){12,18}\b`), behind
    the character `before`. -/
def panWordFrom (before : Option Char) : List Char → Bool
  | [] => false
  | d :: cs => d.isDigit && !before.any isWordChar &&
      (List.range' 12 7).any fun n => (moreDigits n cs).any wordEnds

/-- A run of 13 to 19 digits somewhere that stands as a word, behind the character `before`. -/
def panWordSomewhere (before : Option Char) : List Char → Bool
  | [] => false
  | c :: cs => panWordFrom before (c :: cs) || panWordSomewhere (some c) cs

/-! ### Runs do not reach over a gap -/

/-- The text stops a run before it, and a word. -/
structure Stops (cs : List Char) : Prop where
  digit : nextDigit cs = none
  word : wordEnds cs = true

theorem Stops.head {cs : List Char} (h : Stops cs) : ∀ c ∈ cs.head?, c.isDigit = false := by
  cases cs with
  | nil =>
    intro c hc
    cases hc
  | cons c cs =>
    rintro c' hc'
    obtain rfl := Option.some.inj hc'
    by_contra hd
    have := h.digit
    rw [Bool.not_eq_false] at hd
    simp [nextDigit, hd] at this

theorem nextDigit_append {tail : List Char} (h : Stops tail) (cs : List Char) :
    nextDigit (cs ++ tail) = (nextDigit cs).map (· ++ tail) := by
  cases cs with
  | nil => exact h.digit
  | cons c cs =>
    by_cases hd : c.isDigit
    · simp [nextDigit, hd]
    · by_cases hs : isSeparator c
      · cases cs with
        | nil =>
          cases tail with
          | nil => simp [nextDigit, hd]
          | cons t tail => simp [nextDigit, hd, h.head t rfl]
        | cons d rest => by_cases hdd : d.isDigit <;> simp [nextDigit, hd, hs, hdd]
      · simp [nextDigit, hd, hs]

theorem moreDigits_append {tail : List Char} (h : Stops tail) (n : Nat) (cs : List Char) :
    moreDigits n (cs ++ tail) = (moreDigits n cs).map (· ++ tail) := by
  induction n generalizing cs with
  | zero => rfl
  | succ n ih =>
    rw [moreDigits, moreDigits, nextDigit_append h]
    cases nextDigit cs with
    | none => rfl
    | some rest => exact ih rest

theorem panWordFrom_append {tail : List Char} (h : Stops tail) (b : Option Char) {cs : List Char}
    (hne : cs ≠ []) : panWordFrom b (cs ++ tail) = panWordFrom b cs := by
  cases cs with
  | nil => exact absurd rfl hne
  | cons d cs =>
    have hends : ∀ n, (moreDigits n (cs ++ tail)).any wordEnds = (moreDigits n cs).any wordEnds := by
      intro n
      rw [moreDigits_append h]
      cases moreDigits n cs with
      | none => rfl
      | some rest =>
        cases rest with
        | nil => exact h.word
        | cons c rest => rfl
    simp only [List.cons_append, panWordFrom, hends]

/-- What stands before a text matters only as far as it is of a word. -/
theorem panWordSomewhere_before {b : Option Char} (h : b.any isWordChar = false) (cs : List Char) :
    panWordSomewhere b cs = panWordSomewhere none cs := by
  cases cs with
  | nil => rfl
  | cons c cs => simp [panWordSomewhere, panWordFrom, h]

theorem getLast?_cons_or (c : Char) (cs : List Char) (b : Option Char) :
    (c :: cs).getLast?.or b = cs.getLast?.or (some c) := by
  cases cs with
  | nil => rfl
  | cons c' cs =>
    rw [List.getLast?_cons_cons]
    cases h : (c' :: cs).getLast? with
    | none => simp at h
    | some l => rfl

/-- A text without digits is passed over. -/
theorem panWordSomewhere_plain {plain : List Char} (h : ∀ c ∈ plain, c.isDigit = false)
    (b : Option Char) (rest : List Char) :
    panWordSomewhere b (plain ++ rest) = panWordSomewhere (plain.getLast?.or b) rest := by
  induction plain generalizing b with
  | nil => rfl
  | cons c plain ih =>
    have hc : c.isDigit = false := h c List.mem_cons_self
    rw [List.cons_append, panWordSomewhere, ih fun c' hc' => h c' (List.mem_cons_of_mem _ hc'),
      getLast?_cons_or]
    simp [panWordFrom, hc]

theorem panWordSomewhere_append {tail : List Char} (h : Stops tail) (b : Option Char)
    (cs : List Char) :
    panWordSomewhere b (cs ++ tail) =
      (panWordSomewhere b cs || panWordSomewhere (cs.getLast?.or b) tail) := by
  induction cs generalizing b with
  | nil => rfl
  | cons c cs ih =>
    rw [List.cons_append, panWordSomewhere, panWordSomewhere, ih, ← List.cons_append,
      panWordFrom_append h b (List.cons_ne_nil c cs), Bool.or_assoc, getLast?_cons_or]

/-- What is between two texts: it has no digit, and separates them. -/
structure Gap (cs : List Char) : Prop where
  plain : ∀ c ∈ cs, c.isDigit = false
  stops : ∀ rest, Stops (cs ++ rest)
  last : cs.getLast?.any isWordChar = false
  nonempty : cs ≠ []

/-- The text is a gap. -/
def isGap : List Char → Bool
  | [] => false
  | c :: cs => (c :: cs).all (fun c => !c.isDigit) && !isWordChar c &&
      !(c :: cs).getLast?.any isWordChar && (!isSeparator c || !cs.isEmpty)

theorem gap_of_isGap {cs : List Char} (h : isGap cs = true) : Gap cs := by
  cases cs with
  | nil => cases h
  | cons c cs =>
    simp only [isGap, Bool.and_eq_true, Bool.not_eq_true', Bool.or_eq_true, List.all_eq_true] at h
    obtain ⟨⟨⟨hplain, hc⟩, hlast⟩, hsep⟩ := h
    refine ⟨hplain, fun rest => ⟨?_, ?_⟩, hlast, List.cons_ne_nil c cs⟩
    · have hd := hplain c List.mem_cons_self
      rcases hsep with hsep | hcs
      · simp [nextDigit, hd, hsep]
      · cases cs with
        | nil => cases hcs
        | cons d cs =>
          have hdd := hplain d (List.mem_cons_of_mem _ List.mem_cons_self)
          by_cases hs : isSeparator c <;> simp [nextDigit, hd, hs, hdd]
    · simp [wordEnds, hc]

/-- A text without digits between two gaps makes one gap of them. -/
theorem isGap_around {gap plain gap' : List Char} (h : isGap gap = true)
    (hplain : (plain.all fun c => !c.isDigit) = true) (h' : isGap gap' = true) :
    isGap (gap ++ (plain ++ gap')) = true := by
  cases gap with
  | nil => cases h
  | cons c cs =>
    cases gap' with
    | nil => cases h'
    | cons c' cs' =>
      simp only [isGap, Bool.and_eq_true] at h h'
      obtain ⟨⟨⟨hcs, hc⟩, -⟩, -⟩ := h
      obtain ⟨⟨⟨hcs', -⟩, hlast⟩, -⟩ := h'
      have hall : ((c :: cs ++ (plain ++ c' :: cs')).all fun c => !c.isDigit) = true := by
        rw [List.all_append, List.all_append, hcs, hplain, hcs']
        rfl
      have hend : (c :: cs ++ (plain ++ c' :: cs')).getLast? = (c' :: cs').getLast? := by
        rw [← List.append_assoc, List.getLast?_append_of_ne_nil _ (List.cons_ne_nil c' cs')]
      have hsome : (cs ++ (plain ++ c' :: cs')).isEmpty = false := by simp
      rw [List.cons_append] at hall hend
      simp only [List.cons_append, isGap, hall, hc, hend, hlast, hsome]
      simp

/-- A run is in the text before a gap, or in the one behind it. -/
theorem panWordSomewhere_gap {gap : List Char} (h : Gap gap) (cs rest : List Char) :
    panWordSomewhere none (cs ++ (gap ++ rest)) =
      (panWordSomewhere none cs || panWordSomewhere none rest) := by
  rw [panWordSomewhere_append (h.stops rest), panWordSomewhere_plain h.plain]
  congr 1
  refine panWordSomewhere_before ?_ rest
  cases hl : gap.getLast? with
  | none => exact absurd (List.getLast?_eq_none_iff.1 hl) h.nonempty
  | some c =>
    have := h.last
    rw [hl] at this
    exact this

/-! ### Texts without runs -/

theorem length_nextDigit {cs rest : List Char} (h : nextDigit cs = some rest) :
    rest.length < cs.length := by
  cases cs with
  | nil => cases h
  | cons c cs =>
    by_cases hd : c.isDigit
    · simp only [nextDigit, hd, if_true, Option.some.injEq] at h
      simp [h]
    · cases cs with
      | nil => simp [nextDigit, hd] at h
      | cons d cs =>
        simp only [nextDigit, hd, Bool.false_eq_true, if_false, Option.ite_none_right_eq_some,
          Option.some.injEq] at h
        rw [← h.2.2]
        simp only [List.length_cons]
        omega

theorem length_moreDigits {n : Nat} {cs rest : List Char} (h : moreDigits n cs = some rest) :
    rest.length + n ≤ cs.length := by
  induction n generalizing cs with
  | zero =>
    obtain rfl := Option.some.inj h
    simp
  | succ n ih =>
    rw [moreDigits] at h
    obtain ⟨mid, hmid, hrest⟩ := Option.bind_eq_some_iff.1 h
    have := length_nextDigit hmid
    have := ih hrest
    omega

/-- What a run of digits that is a word consists of. -/
theorem panWordFrom_eq_true {b : Option Char} {cs : List Char} (h : panWordFrom b cs = true) :
    ∃ d rest n after, cs = d :: rest ∧ d.isDigit = true ∧ b.any isWordChar = false ∧ 12 ≤ n ∧
      n ≤ 18 ∧ moreDigits n rest = some after ∧ wordEnds after = true := by
  cases cs with
  | nil => cases h
  | cons d rest =>
    simp only [panWordFrom, Bool.and_eq_true, Bool.not_eq_true', List.any_eq_true] at h
    obtain ⟨⟨hd, hb⟩, n, hn, hends⟩ := h
    obtain ⟨after, hafter, hword⟩ := (Option.any_eq_true _ _).1 hends
    rw [List.mem_range'_1] at hn
    exact ⟨d, rest, n, after, rfl, hd, hb, hn.1, by omega, hafter, hword⟩

/-- A short text has no run. -/
theorem panWordSomewhere_short {cs : List Char} (h : cs.length ≤ 12) (b : Option Char) :
    panWordSomewhere b cs = false := by
  induction cs generalizing b with
  | nil => rfl
  | cons c cs ih =>
    rw [panWordSomewhere, ih (by simp only [List.length_cons] at h; omega), Bool.or_false]
    by_contra hpan
    rw [Bool.not_eq_false] at hpan
    obtain ⟨d, rest, n, after, heq, -, -, hn, -, hmore, -⟩ := panWordFrom_eq_true hpan
    obtain ⟨rfl, rfl⟩ := List.cons.inj heq
    have := length_moreDigits hmore
    simp only [List.length_cons] at h
    omega

theorem moreDigits_add (m n : Nat) (cs : List Char) :
    moreDigits (m + n) cs = (moreDigits m cs).bind (moreDigits n) := by
  induction m generalizing cs with
  | zero => simp [moreDigits]
  | succ m ih =>
    rw [Nat.succ_add, moreDigits, moreDigits, Option.bind_assoc]
    exact Option.bind_congr fun rest _ => ih rest

/-- A run that is a word is a run. -/
theorem panSomewhere_of_word {b : Option Char} {cs : List Char}
    (h : panWordSomewhere b cs = true) : panSomewhere cs = true := by
  induction cs generalizing b with
  | nil => cases h
  | cons c cs ih =>
    rw [panWordSomewhere, Bool.or_eq_true] at h
    rw [panSomewhere, Bool.or_eq_true]
    rcases h with h | h
    · obtain ⟨d, rest, n, after, heq, hd, -, hn, -, hmore, -⟩ := panWordFrom_eq_true h
      obtain ⟨rfl, rfl⟩ := List.cons.inj heq
      rw [← Nat.add_sub_cancel' hn, moreDigits_add] at hmore
      obtain ⟨mid, hmid, -⟩ := Option.bind_eq_some_iff.1 hmore
      left
      rw [panFrom, hd, hmid]
      rfl
    · exact .inr (ih h)

theorem isSeparator_of_isWordChar {c : Char} (h : isWordChar c = true) : isSeparator c = false := by
  by_contra hs
  rw [Bool.not_eq_false, isSeparator, Bool.or_eq_true] at hs
  rcases hs with hs | hs <;> rw [of_decide_eq_true hs] at h <;> cases h

/-- In a word, each digit of a run follows the one before it. -/
theorem moreDigits_word {cs : List Char} (hword : ∀ c ∈ cs, isWordChar c = true) {n : Nat}
    {after : List Char} (h : moreDigits n cs = some after) : after = cs.drop n := by
  induction n generalizing cs with
  | zero => exact (Option.some.inj h).symm
  | succ n ih =>
    rw [moreDigits] at h
    obtain ⟨mid, hmid, hafter⟩ := Option.bind_eq_some_iff.1 h
    cases cs with
    | nil => cases hmid
    | cons c cs =>
      have hs := isSeparator_of_isWordChar (hword c List.mem_cons_self)
      simp only [nextDigit, hs, Bool.false_eq_true, if_false, Option.ite_none_right_eq_some,
        Option.some.injEq] at hmid
      obtain ⟨-, rfl⟩ := hmid
      exact ih (fun c' hc' => hword c' (List.mem_cons_of_mem _ hc')) hafter

/-- No run starts inside a word. -/
theorem panWordSomewhere_inside {cs : List Char} (hword : ∀ c ∈ cs, isWordChar c = true)
    {b : Option Char} (hb : b.any isWordChar = true) : panWordSomewhere b cs = false := by
  induction cs generalizing b with
  | nil => rfl
  | cons c cs ih =>
    have hc : (some c).any isWordChar = true := hword c List.mem_cons_self
    rw [panWordSomewhere, ih (fun c' hc' => hword c' (List.mem_cons_of_mem _ hc')) hc, panWordFrom]
    simp [hb]

/-- A word that is longer than a card number has no run. -/
theorem panWordSomewhere_word {cs : List Char} (hword : ∀ c ∈ cs, isWordChar c = true)
    (hlong : 19 < cs.length) : panWordSomewhere none cs = false := by
  cases cs with
  | nil => rfl
  | cons c cs =>
    have hcs : ∀ c' ∈ cs, isWordChar c' = true := fun c' hc' => hword c' (List.mem_cons_of_mem _ hc')
    have hc : (some c).any isWordChar = true := hword c List.mem_cons_self
    rw [panWordSomewhere, panWordSomewhere_inside hcs hc, Bool.or_false]
    by_contra hpan
    rw [Bool.not_eq_false] at hpan
    obtain ⟨d, rest, n, after, heq, -, -, -, hn, hmore, hends⟩ := panWordFrom_eq_true hpan
    obtain ⟨rfl, rfl⟩ := List.cons.inj heq
    obtain rfl := moreDigits_word hcs hmore
    -- the run ends before the word does
    cases hdrop : cs.drop n with
    | nil =>
      rw [List.drop_eq_nil_iff] at hdrop
      simp only [List.length_cons] at hlong
      omega
    | cons e after =>
      have he : e ∈ cs := List.mem_of_mem_drop (hdrop ▸ List.mem_cons_self)
      rw [hdrop] at hends
      simp [wordEnds, hcs e he] at hends

end Js
