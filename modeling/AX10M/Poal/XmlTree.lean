/-
  What the patterns read of a tree of elements (`adapters/braintree/xml.ts`).

  The patterns read the first element of a name that is opened in the document, whatever its depth
  and the case of its letters (`xmlInner_first`), and nothing where no element of the name is in
  the tree (`xmlInner_absent`).
-/
import AX10M.Markup.Tree
import AX10M.Poal.Xml

namespace AX10M

open Js Markup

/-! ## Names -/

/-- The names that stand for themselves in a pattern. -/
def IsPlain (name : String) : Prop :=
  name.toList ≠ [] ∧ ∀ c ∈ name.toList, c.isAlphanum = true ∨ c ∈ ['-', '_', ':']

/-- The names are one, in upper or lower case. -/
def sameName (name : String) (chars : List Char) : Bool :=
  name.toList.map Char.toLower = chars.map Char.toLower

/-- What may follow the name in a tag. -/
def EndsName (rest : List Char) : Prop := ∃ e cs, rest = e :: cs ∧ (e = ' ' ∨ e = '>' ∨ e = '/')

/-- Only letters have a lower case. -/
theorem toLower_eq_iff {c d : Char} (hd : d.toNat < 65) : c.toLower = d ↔ c = d := by
  by_cases h : c.val ≥ 'A'.val ∧ c.val ≤ 'Z'.val
  · have hge : 65 ≤ c.toNat := UInt32.le_iff_toNat_le.1 h.1
    have hle : c.toNat ≤ 90 := UInt32.le_iff_toNat_le.1 h.2
    have hlower : c.toLower.toNat = c.toNat + 32 := by
      refine (congrArg Char.toNat (dif_pos h)).trans ?_
      show (c.val + 32).toNat = c.val.toNat + 32
      rw [UInt32.toNat_add]
      exact Nat.mod_eq_of_lt (Nat.lt_of_le_of_lt (Nat.add_le_add_right hle 32) (by decide))
    constructor
    · intro heq
      rw [heq] at hlower
      omega
    · rintro rfl
      omega
  · have hsame : c.toLower = c := dif_neg h
    rw [hsame]

/-- A character of a name that is none of a tag. -/
theorem IsPlain.toLower_ne {name : String} (h : IsPlain name) {c d : Char}
    (hc : c ∈ name.toList) (hd : d = ' ' ∨ d = '>' ∨ d = '/' ∨ d = '<') :
    c.toLower ≠ d.toLower := by
  intro heq
  have hlower : d.toLower = d ∧ d.toNat < 65 := by rcases hd with rfl | rfl | rfl | rfl <;> decide
  rw [hlower.1, toLower_eq_iff hlower.2] at heq
  subst heq
  rcases h.2 c hc with hc | hc
  · rcases hd with rfl | rfl | rfl | rfl <;> cases hc
  · rcases hd with rfl | rfl | rfl | rfl <;> simp at hc

theorem dropCaseless_append (ps qs cs : List Char) :
    dropCaseless (ps ++ qs) cs = (dropCaseless ps cs).bind (dropCaseless qs) := by
  induction ps generalizing cs with
  | nil => rfl
  | cons p ps ih =>
    cases cs with
    | nil => rfl
    | cons c cs =>
      rw [List.cons_append, dropCaseless, dropCaseless]
      split
      · exact ih cs
      · rfl

/-- A name in a tag is read no further than it goes. -/
theorem dropCaseless_name {name : String} (hname : IsPlain name) {rest : List Char}
    (hrest : EndsName rest) (chars : List Char) :
    dropCaseless name.toList (chars ++ rest) =
      (dropCaseless name.toList chars).map (· ++ rest) := by
  obtain ⟨e, cs, rfl, he⟩ := hrest
  have hne : ∀ c ∈ name.toList, c.toLower ≠ e.toLower := by
    intro c hc
    exact hname.toLower_ne hc (by rcases he with rfl | rfl | rfl <;> simp)
  generalize name.toList = ps at hne
  induction ps generalizing chars with
  | nil => rfl
  | cons p ps ih =>
    cases chars with
    | nil =>
      rw [List.nil_append, dropCaseless, dropCaseless, if_neg (hne p (List.mem_cons_self ..))]
      rfl
    | cons c chars =>
      rw [List.cons_append, dropCaseless, dropCaseless]
      split
      · exact ih chars fun c hc => hne c (List.mem_cons_of_mem p hc)
      · rfl

/-- What is left of a text after a start is the end of the text. -/
theorem dropCaseless_suffix {ps cs rest : List Char} (h : dropCaseless ps cs = some rest) :
    rest <:+ cs := by
  induction ps generalizing cs with
  | nil =>
    obtain rfl := Option.some.inj h
    exact List.suffix_refl cs
  | cons p ps ih =>
    cases cs with
    | nil => cases h
    | cons c cs =>
      rw [dropCaseless] at h
      split at h
      · exact (ih h).trans (List.suffix_cons c cs)
      · cases h

theorem dropCaseless_eq_nil_iff (ps cs : List Char) :
    dropCaseless ps cs = some [] ↔ ps.map Char.toLower = cs.map Char.toLower := by
  induction ps generalizing cs with
  | nil => cases cs <;> simp [dropCaseless]
  | cons p ps ih =>
    cases cs with
    | nil => simp [dropCaseless]
    | cons c cs =>
      rw [dropCaseless, List.map_cons, List.map_cons, List.cons.injEq]
      split
      · next heq => rw [ih cs, and_iff_right heq]
      · next hne => simp [hne]

/-- The names are one, or the pattern stops before the name in the tag ends. -/
theorem dropCaseless_name_cases (name : String) (chars : List Char) :
    sameName name chars = true ∧ dropCaseless name.toList chars = some [] ∨
      sameName name chars = false ∧ (dropCaseless name.toList chars = none ∨
        ∃ c ∈ chars, ∃ cs, dropCaseless name.toList chars = some (c :: cs)) := by
  have hiff : sameName name chars = true ↔ dropCaseless name.toList chars = some [] := by
    rw [dropCaseless_eq_nil_iff, sameName, decide_eq_true_eq]
  cases hdrop : dropCaseless name.toList chars with
  | none =>
    rw [hdrop] at hiff
    exact .inr ⟨Bool.eq_false_iff.2 fun h => (nomatch hiff.1 h), .inl rfl⟩
  | some rest =>
    cases rest with
    | nil => exact .inl ⟨hiff.2 hdrop, rfl⟩
    | cons c cs =>
      rw [hdrop] at hiff
      refine .inr ⟨Bool.eq_false_iff.2 fun h => (nomatch hiff.1 h), .inr ⟨c, ?_, cs, rfl⟩⟩
      exact (dropCaseless_suffix hdrop).subset (List.mem_cons_self ..)

/-! ## Tags -/

/-- A pattern takes a tag that opens its name, and no other. -/
theorem elementAt_tag {name : String} (hname : IsPlain name) (n : Name) {rest : List Char}
    (hrest : EndsName rest) :
    elementAt name ('<' :: (n.chars ++ rest)) =
      if sameName name n.chars then (afterAttributes rest).bind (upTo (closingTag name))
      else none := by
  have hdrop : elementAt name ('<' :: (n.chars ++ rest)) =
      ((dropCaseless name.toList n.chars).map (· ++ rest)).bind fun cs =>
        (afterAttributes cs).bind (upTo (closingTag name)) := by
    rw [← dropCaseless_name hname hrest]
    rfl
  rw [hdrop]
  rcases dropCaseless_name_cases name n.chars with ⟨hsame, h⟩ | ⟨hsame, h | ⟨c, hc, cs, h⟩⟩
  · rw [h, if_pos hsame]
    rfl
  · rw [h, hsame]
    rfl
  · rw [h, hsame]
    have hvalid := isNameChar_iff.1 (n.valid c hc)
    show (afterAttributes (c :: (cs ++ rest))).bind _ = none
    rw [afterAttributes, hvalid.1]
    · rfl
    · exact hvalid.2.2.1

theorem elementAt_of_ne {name : String} {c : Char} (hc : c ≠ '<') (cs : List Char) :
    elementAt name (c :: cs) = none := by
  have hne : ('<').toLower ≠ c.toLower := by
    intro h
    exact hc ((toLower_eq_iff (by decide)).1 h.symm)
  rw [elementAt, dropCaseless, if_neg hne]
  rfl

theorem elementAt_closing {name : String} (hname : IsPlain name) (cs : List Char) :
    elementAt name ('<' :: '/' :: cs) = none := by
  obtain ⟨hne, -⟩ := id hname
  rw [elementAt, dropCaseless, if_pos rfl]
  cases hlist : name.toList with
  | nil => exact absurd hlist hne
  | cons p ps =>
    have hp : p.toLower ≠ ('/').toLower :=
      hname.toLower_ne (hlist ▸ List.mem_cons_self ..) (.inr (.inr (.inl rfl)))
    rw [dropCaseless, if_neg hp]
    rfl

/-- No element opens in a text without tags. -/
theorem firstMatch_text {name : String} {cs : List Char} (hcs : '<' ∉ cs) (rest : List Char) :
    firstMatch (elementAt name) (cs ++ rest) = firstMatch (elementAt name) rest := by
  induction cs with
  | nil => rfl
  | cons c cs ih =>
    obtain ⟨hc, hcs⟩ := List.ne_and_not_mem_of_not_mem_cons hcs
    rw [List.cons_append, firstMatch, elementAt_of_ne (Ne.symm hc), Option.none_or, ih hcs]

/-- What follows a `<` in a tag has none in it. -/
theorem firstMatch_skip {name : String} {cs rest : List Char}
    (hnone : elementAt name ('<' :: (cs ++ rest)) = none) (hcs : '<' ∉ cs) :
    firstMatch (elementAt name) ('<' :: (cs ++ rest)) = firstMatch (elementAt name) rest := by
  rw [firstMatch, hnone, Option.none_or, firstMatch_text hcs]

/-- The closing tag of a name does not begin here. -/
theorem upTo_cons {close : List Char} {c : Char} {cs : List Char}
    (h : dropCaseless close (c :: cs) = none) :
    upTo close (c :: cs) = (upTo close cs).map (c :: ·) := by
  rw [upTo, h]
  rfl

theorem upTo_text {name : String} {cs : List Char} (hcs : '<' ∉ cs) (rest : List Char) :
    upTo (closingTag name) (cs ++ rest) =
      (upTo (closingTag name) rest).map (cs ++ ·) := by
  induction cs with
  | nil => simp
  | cons c cs ih =>
    obtain ⟨hc, hcs⟩ := List.ne_and_not_mem_of_not_mem_cons hcs
    have hne : ('<').toLower ≠ c.toLower := by
      intro h
      exact hc ((toLower_eq_iff (by decide)).1 h.symm).symm
    have hnone : dropCaseless (closingTag name) (c :: (cs ++ rest)) = none := by
      show dropCaseless ('<' :: '/' :: (name.toList ++ ['>'])) _ = none
      rw [dropCaseless, if_neg hne]
    rw [List.cons_append, upTo_cons hnone, ih hcs, Option.map_map]
    rfl

/-- A tag that opens a name is none that closes one. -/
theorem upTo_tag {name : String} (n : Name) {cs : List Char} (hcs : '<' ∉ cs) (rest : List Char) :
    upTo (closingTag name) ('<' :: (n.chars ++ cs ++ rest)) =
      (upTo (closingTag name) rest).map ('<' :: (n.chars ++ cs) ++ ·) := by
  have hnone : dropCaseless (closingTag name) ('<' :: (n.chars ++ cs ++ rest)) = none := by
    show dropCaseless ('<' :: '/' :: (name.toList ++ ['>'])) _ = none
    rw [dropCaseless, if_pos rfl]
    cases hchars : n.chars with
    | nil => exact absurd hchars n.nonempty
    | cons c chars =>
      have hc := isNameChar_iff.1 (n.valid c (hchars ▸ List.mem_cons_self ..))
      have hne : ('/').toLower ≠ c.toLower := by
        intro h
        exact hc.2.2.2.1 ((toLower_eq_iff (by decide)).1 h.symm)
      exact if_neg hne
  have hlt : '<' ∉ n.chars ++ cs := by
    intro h
    exact (List.mem_append.1 h).elim n.lt_not_mem hcs
  rw [upTo_cons hnone, upTo_text hlt, Option.map_map]
  rfl

/-- A tag that closes a name is taken by the pattern of the name, and by no other. -/
theorem upTo_closing {name : String} (hname : IsPlain name) (n : Name) (rest : List Char) :
    upTo (closingTag name) ('<' :: '/' :: (n.chars ++ '>' :: rest)) =
      if sameName name n.chars then some []
      else (upTo (closingTag name) rest).map ('<' :: '/' :: (n.chars ++ ['>']) ++ ·) := by
  have hends : EndsName ('>' :: rest) := ⟨'>', rest, rfl, .inr (.inl rfl)⟩
  have hdrop : dropCaseless (closingTag name) ('<' :: '/' :: (n.chars ++ '>' :: rest)) =
      ((dropCaseless name.toList n.chars).map (· ++ '>' :: rest)).bind (dropCaseless ['>']) := by
    rw [← dropCaseless_name hname hends, ← dropCaseless_append]
    rfl
  rcases dropCaseless_name_cases name n.chars with ⟨hsame, h⟩ | ⟨hsame, h⟩
  · rw [if_pos hsame, upTo, hdrop, h]
    rfl
  · have hnone :
        dropCaseless (closingTag name) ('<' :: '/' :: (n.chars ++ '>' :: rest)) = none := by
      rw [hdrop]
      rcases h with h | ⟨c, hc, cs, h⟩
      · rw [h]
        rfl
      · have hvalid := isNameChar_iff.1 (n.valid c hc)
        have hne : ('>').toLower ≠ c.toLower := by
          intro heq
          exact hvalid.2.2.1 ((toLower_eq_iff (by decide)).1 heq.symm)
        rw [h]
        exact if_neg hne
    have hlt : '<' ∉ '/' :: (n.chars ++ ['>']) := by
      simpa using n.lt_not_mem
    have htext := @upTo_text name _ hlt rest
    rw [hsame, upTo_cons hnone]
    rw [List.cons_append, List.append_assoc] at htext
    rw [if_neg Bool.false_ne_true, show '/' :: (n.chars ++ '>' :: rest) =
      '/' :: (n.chars ++ (['>'] ++ rest)) from rfl, htext, Option.map_map]
    rfl

/-! ## Trees -/

/-- The pattern of a name takes the node for the start of an element: a tag that closes itself is
    taken for one too, unless its name is all that it has. -/
def opens (name : String) : Node → Bool
  | .text _ => false
  | .element n _ _ => sameName name n.chars
  | .selfClosing n attributes => sameName name n.chars && !attributes.isEmpty

/-- An element of the name that does not close itself. -/
def isElementOf (name : String) : Node → Bool
  | .element n _ _ => sameName name n.chars
  | _ => false

theorem endsName_attributes (attributes : List Attribute) {e : Char} (he : e = '>' ∨ e = '/')
    (cs : List Char) : EndsName (writtenAttributes attributes ++ e :: cs) := by
  rcases writtenAttributes_head attributes with ⟨h, -⟩ | ⟨-, ds, h⟩
  · rw [h]
    exact ⟨e, cs, rfl, .inr he⟩
  · rw [h]
    exact ⟨' ', ds ++ e :: cs, rfl, .inl rfl⟩

theorem afterAttributes_written {attributes : List Attribute}
    (h : '>' ∉ writtenAttributes attributes) (cs : List Char) :
    afterAttributes (writtenAttributes attributes ++ '>' :: cs) = some cs := by
  rcases writtenAttributes_head attributes with ⟨hnil, -⟩ | ⟨-, ds, hcons⟩
  · rw [hnil]
    rfl
  · have hall : ∀ d ∈ writtenAttributes attributes, (decide (d ≠ '>')) = true := by
      intro d hd
      exact decide_eq_true (fun heq => h (heq ▸ hd))
    have hdrop : (writtenAttributes attributes ++ '>' :: cs).dropWhile (· ≠ '>') = '>' :: cs := by
      rw [List.dropWhile_append_of_pos hall]
      rfl
    rw [hcons, List.cons_append] at hdrop ⊢
    show ((' ' :: (ds ++ '>' :: cs)).dropWhile (· ≠ '>')).tail? = some cs
    rw [hdrop]
    rfl

/-- The opening tag of an element, with what is after it. -/
theorem written_element (n : Name) (attributes : List Attribute) (children : List Node)
    (rest : List Char) :
    (Node.element n attributes children).written ++ rest =
      '<' :: ((n.chars ++ (writtenAttributes attributes ++ ['>'])) ++
        (writtenAll children ++ '<' :: '/' :: (n.chars ++ '>' :: rest))) := by
  simp [Node.written]

theorem written_selfClosing (n : Name) (attributes : List Attribute) (rest : List Char) :
    (Node.selfClosing n attributes).written ++ rest =
      '<' :: ((n.chars ++ (writtenAttributes attributes ++ ['/', '>'])) ++ rest) := by
  simp [Node.written]

theorem lt_not_mem_tag (n : Name) (attributes : List Attribute) {ends : List Char}
    (hends : '<' ∉ ends) : '<' ∉ n.chars ++ (writtenAttributes attributes ++ ends) := by
  intro h
  rcases List.mem_append.1 h with h | h
  · exact n.lt_not_mem h
  · exact (List.mem_append.1 h).elim (lt_not_mem_attributes attributes) hends

/-- A node that does not open the name is no start of a match. -/
theorem elementAt_other {name : String} (hname : IsPlain name) {n : Name}
    (hsame : sameName name n.chars = false) {rest : List Char} (hrest : EndsName rest) :
    elementAt name ('<' :: (n.chars ++ rest)) = none := by
  rw [elementAt_tag hname n hrest, hsame]
  rfl

theorem firstMatch_opening {name : String} (hname : IsPlain name) {n : Name}
    (attributes : List Attribute) (hsame : sameName name n.chars = false) (rest : List Char) :
    firstMatch (elementAt name)
        ('<' :: ((n.chars ++ (writtenAttributes attributes ++ ['>'])) ++ rest)) =
      firstMatch (elementAt name) rest := by
  refine firstMatch_skip ?_ (lt_not_mem_tag n attributes (by simp))
  have hends := endsName_attributes attributes (.inl rfl) rest
  simpa using elementAt_other hname hsame hends

theorem firstMatch_selfClosing {name : String} (hname : IsPlain name) {n : Name}
    {attributes : List Attribute} (hopens : opens name (.selfClosing n attributes) = false)
    (rest : List Char) :
    firstMatch (elementAt name)
        ('<' :: ((n.chars ++ (writtenAttributes attributes ++ ['/', '>'])) ++ rest)) =
      firstMatch (elementAt name) rest := by
  refine firstMatch_skip ?_ (lt_not_mem_tag n attributes (by simp))
  have hends := endsName_attributes attributes (.inr rfl) ('>' :: rest)
  have hnone : elementAt name
      ('<' :: (n.chars ++ (writtenAttributes attributes ++ '/' :: '>' :: rest))) = none := by
    cases hsame : sameName name n.chars with
    | false => exact elementAt_other hname hsame hends
    | true =>
      rw [opens, hsame, Bool.true_and, Bool.not_eq_false', List.isEmpty_iff] at hopens
      rw [elementAt_tag hname n hends, hopens, if_pos hsame]
      rfl
  simpa using hnone

theorem firstMatch_closing {name : String} (hname : IsPlain name) (n : Name) (rest : List Char) :
    firstMatch (elementAt name) ('<' :: '/' :: (n.chars ++ '>' :: rest)) =
      firstMatch (elementAt name) rest := by
  have hlt : '<' ∉ '/' :: (n.chars ++ ['>']) := by
    simpa using n.lt_not_mem
  have hnone : elementAt name ('<' :: ('/' :: (n.chars ++ ['>']) ++ rest)) = none :=
    elementAt_closing hname _
  have h := firstMatch_skip hnone hlt
  simpa using h

-- Nodes that do not open the name are passed over, at every depth.
mutual
theorem firstMatch_node {name : String} (hname : IsPlain name) : ∀ (node : Node) (rest : List Char),
    (∀ d ∈ node.descendants, opens name d = false) →
      firstMatch (elementAt name) (node.written ++ rest) = firstMatch (elementAt name) rest
  | .text pieces, rest, _ => firstMatch_text (lt_not_mem_written pieces) rest
  | .element n attributes children, rest, h => by
    rw [written_element, firstMatch_opening hname attributes (h _ (List.mem_cons_self ..)),
      firstMatch_nodes hname children _ fun d hd => h d (List.mem_cons_of_mem _ hd),
      firstMatch_closing hname]
  | .selfClosing n attributes, rest, h => by
    rw [written_selfClosing, firstMatch_selfClosing hname (h _ (List.mem_cons_self ..))]
theorem firstMatch_nodes {name : String} (hname : IsPlain name) :
    ∀ (nodes : List Node) (rest : List Char), (∀ d ∈ descendantsAll nodes, opens name d = false) →
      firstMatch (elementAt name) (writtenAll nodes ++ rest) = firstMatch (elementAt name) rest
  | [], rest, _ => rfl
  | node :: nodes, rest, h => by
    rw [writtenAll, List.append_assoc,
      firstMatch_node hname node _ fun d hd => h d (List.mem_append_left _ hd),
      firstMatch_nodes hname nodes _ fun d hd => h d (List.mem_append_right _ hd)]
end

-- The search comes to the first node that opens the name.
mutual
theorem firstMatch_first_node {name : String} (hname : IsPlain name) {first : Node} :
    ∀ (node : Node) (rest : List Char), node.descendants.find? (opens name) = some first →
      ∃ after, firstMatch (elementAt name) (node.written ++ rest) =
        firstMatch (elementAt name) (first.written ++ after)
  | .text pieces, rest, h => by cases h
  | .element n attributes children, rest, h => by
    rw [Node.descendants, List.find?_cons] at h
    split at h
    · obtain rfl := Option.some.inj h
      exact ⟨rest, rfl⟩
    · next hsame =>
      rw [written_element, firstMatch_opening hname attributes hsame]
      exact firstMatch_first_nodes hname children _ h
  | .selfClosing n attributes, rest, h => by
    rw [Node.descendants, List.find?_cons] at h
    split at h
    · obtain rfl := Option.some.inj h
      exact ⟨rest, rfl⟩
    · cases h
theorem firstMatch_first_nodes {name : String} (hname : IsPlain name) {first : Node} :
    ∀ (nodes : List Node) (rest : List Char),
      (descendantsAll nodes).find? (opens name) = some first →
        ∃ after, firstMatch (elementAt name) (writtenAll nodes ++ rest) =
          firstMatch (elementAt name) (first.written ++ after)
  | [], rest, h => by cases h
  | node :: nodes, rest, h => by
    rw [writtenAll, List.append_assoc]
    rw [descendantsAll, List.find?_append] at h
    cases hnode : node.descendants.find? (opens name) with
    | some d =>
      rw [hnode, Option.some_or] at h
      obtain rfl := Option.some.inj h
      exact firstMatch_first_node hname node _ hnode
    | none =>
      rw [hnode, Option.none_or] at h
      have hpass : ∀ d ∈ node.descendants, opens name d = false := by
        intro d hd
        exact Bool.eq_false_iff.2 (List.find?_eq_none.1 hnode d hd)
      rw [firstMatch_node hname node _ hpass]
      exact firstMatch_first_nodes hname nodes _ h
end

-- What has no element of the name in it has no tag that closes the name.
mutual
theorem upTo_node {name : String} (hname : IsPlain name) : ∀ (node : Node) (rest : List Char),
    (∀ d ∈ node.descendants, isElementOf name d = false) →
      upTo (closingTag name) (node.written ++ rest) =
        (upTo (closingTag name) rest).map (node.written ++ ·)
  | .text pieces, rest, _ => upTo_text (lt_not_mem_written pieces) rest
  | .element n attributes children, rest, h => by
    have hsame : sameName name n.chars = false := h _ (List.mem_cons_self ..)
    have hclosing := upTo_closing hname n rest
    rw [hsame, if_neg Bool.false_ne_true] at hclosing
    rw [written_element, upTo_tag n (by simpa using lt_not_mem_attributes attributes),
      upTo_nodes hname children _ fun d hd => h d (List.mem_cons_of_mem _ hd), hclosing,
      Option.map_map, Option.map_map]
    congr 1
    funext cs
    simp [Node.written]
  | .selfClosing n attributes, rest, h => by
    rw [written_selfClosing, upTo_tag n (by simpa using lt_not_mem_attributes attributes)]
    simp [Node.written]
theorem upTo_nodes {name : String} (hname : IsPlain name) :
    ∀ (nodes : List Node) (rest : List Char),
      (∀ d ∈ descendantsAll nodes, isElementOf name d = false) →
        upTo (closingTag name) (writtenAll nodes ++ rest) =
          (upTo (closingTag name) rest).map (writtenAll nodes ++ ·)
  | [], rest, _ => by simp [writtenAll]
  | node :: nodes, rest, h => by
    rw [writtenAll, List.append_assoc,
      upTo_node hname node _ fun d hd => h d (List.mem_append_left _ hd),
      upTo_nodes hname nodes _ fun d hd => h d (List.mem_append_right _ hd), Option.map_map]
    congr 1
    funext cs
    simp
end

/-- The pattern reads the first element that opens the name, to the tag that closes it. -/
theorem xmlInner_first {name : String} (hname : IsPlain name) {nodes : List Node} {n : Name}
    {attributes : List Attribute} {children : List Node}
    (hfirst : (descendantsAll nodes).find? (opens name) = some (.element n attributes children))
    (hattributes : '>' ∉ writtenAttributes attributes)
    (hchildren : ∀ d ∈ descendantsAll children, isElementOf name d = false) :
    xmlInner (writtenAll nodes) name = some (writtenAll children) := by
  obtain ⟨after, hafter⟩ := firstMatch_first_nodes hname nodes [] hfirst
  have hopens := List.find?_some hfirst
  have hsame : sameName name n.chars = true := hopens
  have hclosing := upTo_closing hname n after
  rw [if_pos hsame] at hclosing
  have hmatch : elementAt name ((Node.element n attributes children).written ++ after) =
      some (writtenAll children) := by
    have hends := endsName_attributes attributes (.inl rfl)
      (writtenAll children ++ '<' :: '/' :: (n.chars ++ '>' :: after))
    have htag := elementAt_tag hname n hends
    rw [if_pos hsame, afterAttributes_written hattributes, Option.bind_some,
      upTo_nodes hname children _ hchildren, hclosing, Option.map_some, List.append_nil] at htag
    rw [written_element]
    simpa using htag
  rw [xmlInner, ← List.append_nil (writtenAll nodes), hafter]
  rw [written_element] at hmatch ⊢
  rw [firstMatch, hmatch, Option.some_or]

theorem upTo_isSome_append {close cs : List Char} (h : (upTo close cs).isSome = true)
    (before : List Char) : (upTo close (before ++ cs)).isSome = true := by
  induction before with
  | nil => exact h
  | cons c before ih =>
    rw [List.cons_append, upTo]
    split
    · rfl
    · rw [Option.isSome_map]
      exact ih

theorem suffix_of_tail {cs rest : List Char} (h : cs.tail? = some rest) : rest <:+ cs := by
  cases cs with
  | nil => cases h
  | cons c cs =>
    obtain rfl := Option.some.inj h
    exact List.suffix_cons c cs

theorem afterAttributes_suffix {cs rest : List Char} (h : afterAttributes cs = some rest) :
    rest <:+ cs := by
  fun_cases afterAttributes cs with
  | case1 => cases h
  | case2 cs =>
    obtain rfl := Option.some.inj h
    exact List.suffix_cons '>' cs
  | case3 c cs hne hspace =>
    rw [afterAttributes.eq_3 c cs hne, if_pos hspace] at h
    exact (suffix_of_tail h).trans ((List.dropWhile_suffix _).trans (List.suffix_cons c cs))
  | case4 c cs hne hspace =>
    rw [afterAttributes.eq_3 c cs hne, if_neg hspace] at h
    cases h

/-- A match has a tag in it that closes the name. -/
theorem upTo_of_elementAt {name : String} {cs inner : List Char}
    (h : elementAt name cs = some inner) : (upTo (closingTag name) cs).isSome = true := by
  rw [elementAt] at h
  obtain ⟨ds, hds, hds'⟩ := Option.bind_eq_some_iff.1 h
  obtain ⟨es, hes, hes'⟩ := Option.bind_eq_some_iff.1 hds'
  obtain ⟨before, rfl⟩ := (afterAttributes_suffix hes).trans (dropCaseless_suffix hds)
  exact upTo_isSome_append (Option.isSome_iff_exists.2 ⟨inner, hes'⟩) before

/-- Without an element of the name, tags that close themselves match nothing. -/
theorem xmlInner_absent {name : String} (hname : IsPlain name) {nodes : List Node}
    (h : ∀ d ∈ descendantsAll nodes, isElementOf name d = false) :
    xmlInner (writtenAll nodes) name = none := by
  have hnone : ∀ cs : List Char, (upTo (closingTag name) cs).isSome = false →
      firstMatch (elementAt name) cs = none := by
    intro cs hcs
    induction cs with
    | nil => rfl
    | cons c cs ih =>
      have htail : (upTo (closingTag name) cs).isSome = false := by
        refine Bool.eq_false_iff.2 fun htail => ?_
        exact absurd (upTo_isSome_append htail [c]) (Bool.eq_false_iff.1 hcs)
      rw [firstMatch, ih htail, Option.or_none]
      cases helement : elementAt name (c :: cs) with
      | none => rfl
      | some inner => exact absurd (upTo_of_elementAt helement) (Bool.eq_false_iff.1 hcs)
  have hclosing := upTo_nodes hname nodes [] h
  rw [List.append_nil] at hclosing
  exact hnone _ (by rw [hclosing]; rfl)

end AX10M
