/-
  What the patterns for card numbers find.

  A run is a digit and more of them, each behind a space or a dash at most.  The scan without word
  boundaries finds every run of 13 digits or more, wherever it stands (`panSomewhere_iff`); the one
  with them finds the runs of 13 to 19 digits that no character of a word touches
  (`panWordSomewhere_iff`).
-/
import AX10M.Js.DigitRuns
import Mathlib.Data.Nat.Notation

namespace Js

/-- More digits, each behind a separator at most. -/
inductive MoreDigits : ℕ → List Char → Prop
  | nil : MoreDigits 0 []
  | digit {n : ℕ} {d : Char} {cs : List Char} : d.isDigit = true → MoreDigits n cs →
      MoreDigits (n + 1) (d :: cs)
  | apart {n : ℕ} {c d : Char} {cs : List Char} : isSeparator c = true → d.isDigit = true →
      MoreDigits n cs → MoreDigits (n + 1) (c :: d :: cs)

/-- A run of a number of digits. -/
inductive IsRun : ℕ → List Char → Prop
  | mk {n : ℕ} {d : Char} {cs : List Char} : d.isDigit = true → MoreDigits n cs →
      IsRun (n + 1) (d :: cs)

/-- A run of so many digits or more is somewhere in the text. -/
def HasRun (n : ℕ) (s : String) : Prop :=
  ∃ before run after m, s.toList = before ++ (run ++ after) ∧ n ≤ m ∧ IsRun m run

theorem moreDigits_iff (n : ℕ) (cs after : List Char) :
    moreDigits n cs = some after ↔ ∃ run, cs = run ++ after ∧ MoreDigits n run := by
  induction n generalizing cs with
  | zero =>
    constructor
    · intro h
      exact ⟨[], Option.some.inj h, .nil⟩
    · rintro ⟨run, rfl, hrun⟩
      cases hrun
      rfl
  | succ n ih =>
    rw [moreDigits]
    constructor
    · intro h
      obtain ⟨rest, hrest, hmore⟩ := Option.bind_eq_some_iff.1 h
      obtain ⟨run, rfl, hrun⟩ := (ih rest).1 hmore
      cases cs with
      | nil => cases hrest
      | cons c cs =>
        by_cases hd : c.isDigit
        · simp only [nextDigit, hd, if_true, Option.some.injEq] at hrest
          subst hrest
          exact ⟨c :: run, rfl, .digit hd hrun⟩
        · by_cases hs : isSeparator c
          · cases cs with
            | nil => simp [nextDigit, hd] at hrest
            | cons d cs =>
              by_cases hdd : d.isDigit
              · simp only [nextDigit, hd, hs, hdd, if_true, Bool.false_eq_true, if_false,
                  Option.some.injEq] at hrest
                subst hrest
                exact ⟨c :: d :: run, rfl, .apart hs hdd hrun⟩
              · simp [nextDigit, hd, hdd] at hrest
          · simp [nextDigit, hd, hs] at hrest
    · rintro ⟨run, rfl, hrun⟩
      cases hrun with
      | @digit _ d cs hd hcs =>
        have hnext : nextDigit (d :: cs ++ after) = some (cs ++ after) := by simp [nextDigit, hd]
        rw [hnext]
        exact (ih _).2 ⟨cs, rfl, hcs⟩
      | @apart _ c d cs hs hd hcs =>
        have hc : c.isDigit = false := by
          rw [isSeparator, Bool.or_eq_true] at hs
          rcases hs with hs | hs <;> rw [of_decide_eq_true hs] <;> rfl
        have hnext : nextDigit (c :: d :: cs ++ after) = some (cs ++ after) := by
          simp [nextDigit, hc, hs, hd]
        rw [hnext]
        exact (ih _).2 ⟨cs, rfl, hcs⟩

/-! ## The scan without word boundaries -/

theorem panFrom_iff (cs : List Char) :
    panFrom cs = true ↔ ∃ run after m, cs = run ++ after ∧ 13 ≤ m ∧ IsRun m run := by
  constructor
  · intro h
    cases cs with
    | nil => cases h
    | cons d cs =>
      rw [panFrom, Bool.and_eq_true] at h
      obtain ⟨hd, hmore⟩ := h
      obtain ⟨after, hafter⟩ := Option.isSome_iff_exists.1 hmore
      obtain ⟨run, rfl, hrun⟩ := (moreDigits_iff 12 cs after).1 hafter
      exact ⟨d :: run, after, 13, rfl, Nat.le_refl 13, .mk hd hrun⟩
  · rintro ⟨run, after, m, rfl, hm, hrun⟩
    cases hrun with
    | @mk n d cs hd hcs =>
      have hmore := (moreDigits_iff n (cs ++ after) after).2 ⟨cs, rfl, hcs⟩
      rw [show n = 12 + (n - 12) by omega, moreDigits_add] at hmore
      obtain ⟨rest, hrest, -⟩ := Option.bind_eq_some_iff.1 hmore
      rw [List.cons_append, panFrom, hd, hrest]
      rfl

/-- The scan finds every run of 13 digits or more. -/
theorem panSomewhere_iff (s : String) : panSomewhere s.toList = true ↔ HasRun 13 s := by
  have hlist : ∀ cs : List Char, panSomewhere cs = true ↔
      ∃ before run after m, cs = before ++ (run ++ after) ∧ 13 ≤ m ∧ IsRun m run := by
    intro cs
    induction cs with
    | nil =>
      constructor
      · intro h
        cases h
      · rintro ⟨before, run, after, m, hcs, -, hrun⟩
        cases hrun with
        | mk hd hmore => simp at hcs
    | cons c cs ih =>
      rw [panSomewhere, Bool.or_eq_true, panFrom_iff, ih]
      constructor
      · rintro (⟨run, after, m, hcs, hm, hrun⟩ | ⟨before, run, after, m, rfl, hm, hrun⟩)
        · exact ⟨[], run, after, m, hcs, hm, hrun⟩
        · exact ⟨c :: before, run, after, m, rfl, hm, hrun⟩
      · rintro ⟨before, run, after, m, hcs, hm, hrun⟩
        cases before with
        | nil => exact .inl ⟨run, after, m, hcs, hm, hrun⟩
        | cons b before =>
          obtain ⟨rfl, rfl⟩ := List.cons.inj hcs
          exact .inr ⟨before, run, after, m, rfl, hm, hrun⟩
  exact hlist s.toList

/-! ## The scan with word boundaries -/

/-- A run of 13 to 19 digits that no character of a word touches. -/
def HasWordRun (s : String) : Prop :=
  ∃ before run after m, s.toList = before ++ (run ++ after) ∧ 13 ≤ m ∧ m ≤ 19 ∧ IsRun m run ∧
    before.getLast?.any isWordChar = false ∧ after.head?.any isWordChar = false

theorem panWordFrom_iff (b : Option Char) (cs : List Char) :
    panWordFrom b cs = true ↔ ∃ run after m, cs = run ++ after ∧ 13 ≤ m ∧ m ≤ 19 ∧ IsRun m run ∧
      b.any isWordChar = false ∧ after.head?.any isWordChar = false := by
  constructor
  · intro h
    obtain ⟨d, rest, n, after, rfl, hd, hb, hlow, hhigh, hmore, hends⟩ := panWordFrom_eq_true h
    obtain ⟨run, rfl, hrun⟩ := (moreDigits_iff n rest after).1 hmore
    rw [wordEnds, Bool.not_eq_true'] at hends
    exact ⟨d :: run, after, n + 1, rfl, by omega, by omega, .mk hd hrun, hb, hends⟩
  · rintro ⟨run, after, m, rfl, hlow, hhigh, hrun, hb, hends⟩
    cases hrun with
    | @mk n d cs hd hcs =>
      have hmore := (moreDigits_iff n (cs ++ after) after).2 ⟨cs, rfl, hcs⟩
      have hmem : n ∈ List.range' 12 7 := by
        rw [List.mem_range'_1]
        omega
      simp only [List.cons_append, panWordFrom, Bool.and_eq_true, Bool.not_eq_true',
        List.any_eq_true]
      refine ⟨⟨hd, hb⟩, n, hmem, ?_⟩
      rw [hmore, Option.any_some, wordEnds, hends]
      rfl

/-- The scan finds the runs of 13 to 19 digits that stand as words. -/
theorem panWordSomewhere_iff (s : String) :
    panWordSomewhere none s.toList = true ↔ HasWordRun s := by
  have hlist : ∀ (cs : List Char) (b : Option Char), panWordSomewhere b cs = true ↔
      ∃ before run after m, cs = before ++ (run ++ after) ∧ 13 ≤ m ∧ m ≤ 19 ∧ IsRun m run ∧
        (before.getLast?.or b).any isWordChar = false ∧ after.head?.any isWordChar = false := by
    intro cs
    induction cs with
    | nil =>
      intro b
      constructor
      · intro h
        cases h
      · rintro ⟨before, run, after, m, hcs, -, -, hrun, -⟩
        cases hrun with
        | mk hd hmore => simp at hcs
    | cons c cs ih =>
      intro b
      rw [panWordSomewhere, Bool.or_eq_true, panWordFrom_iff, ih]
      constructor
      · rintro (⟨run, after, m, hcs, hlow, hhigh, hrun, hb, hends⟩ |
          ⟨before, run, after, m, rfl, hlow, hhigh, hrun, hb, hends⟩)
        · exact ⟨[], run, after, m, hcs, hlow, hhigh, hrun, hb, hends⟩
        · rw [← getLast?_cons_or c before b] at hb
          exact ⟨c :: before, run, after, m, rfl, hlow, hhigh, hrun, hb, hends⟩
      · rintro ⟨before, run, after, m, hcs, hlow, hhigh, hrun, hb, hends⟩
        cases before with
        | nil => exact .inl ⟨run, after, m, hcs, hlow, hhigh, hrun, hb, hends⟩
        | cons b' before =>
          obtain ⟨rfl, rfl⟩ := List.cons.inj hcs
          rw [getLast?_cons_or c before b] at hb
          exact .inr ⟨before, run, after, m, rfl, hlow, hhigh, hrun, hb, hends⟩
  have hs := hlist s.toList none
  simp only [Option.or_none] at hs
  exact hs

end Js
