/-
  The fields of a tree of elements (`adapters/braintree/xml.ts`).

  Decoding the entities of a text gives its characters (`decodeEntities_written`), and undoes what
  escaping does to a text, up to trimming (`decodeXml_escapeXml_eq`).  A field is the decoded text
  of the first element of its name in the document (`xmlLeaf_tree`).
-/
import AX10M.Poal.XmlTree

namespace AX10M

open Js Markup

/-! ## Entities -/

/-- A piece with its entity spelled in a given way. -/
def spelled (spell : Entity → List Char) : Piece → List Char
  | .raw c _ => [c]
  | .entity e => spell e

/-- The spelling of the entities when some of them are decoded. -/
def decodedBy (done : List Entity) (e : Entity) : List Char :=
  if e ∈ done then [e.char] else e.written

theorem replaceFrom_ne {part new : List Char} {c : Char} (hc : c ≠ '&') (cs : List Char) :
    replaceFrom ('&' :: part) new 0 (c :: cs) = c :: replaceFrom ('&' :: part) new 0 cs := by
  rw [replaceFrom, List.isPrefixOf, beq_false_of_ne (Ne.symm hc), Bool.false_and]
  rfl

/-- A replacement of what begins with `&` changes how the entities are spelled, one by one. -/
theorem replaceFrom_spelled {part new : List Char} {spell spell' : Entity → List Char}
    (h : ∀ e cs, replaceFrom ('&' :: part) new 0 (spell e ++ cs) =
      spell' e ++ replaceFrom ('&' :: part) new 0 cs) (pieces : List Piece) :
    replaceFrom ('&' :: part) new 0 (pieces.flatMap (spelled spell)) =
      pieces.flatMap (spelled spell') := by
  induction pieces with
  | nil => rfl
  | cons p pieces ih =>
    rw [List.flatMap_cons, List.flatMap_cons, ← ih]
    cases p with
    | raw c hc => exact replaceFrom_ne hc.2 _
    | entity e => exact h e _

/-- A decoded entity is left as it is, as long as `&` is not decoded yet. -/
theorem replaceFrom_decoded {part new : List Char} {done : List Entity} (hdone : .amp ∉ done)
    {e : Entity} (he : e ∈ done) (cs : List Char) :
    replaceFrom ('&' :: part) new 0 (decodedBy done e ++ cs) =
      [e.char] ++ replaceFrom ('&' :: part) new 0 cs := by
  have hchar : e.char ≠ '&' := by
    cases e with
    | amp => exact absurd he hdone
    | _ => decide
  rw [decodedBy, if_pos he]
  exact replaceFrom_ne hchar cs

/-- Decoding one entity leaves the others. -/
theorem replaceFrom_entity {done : List Entity} (hdone : .amp ∉ done) (d : Entity)
    (pieces : List Piece) :
    replaceFrom d.written [d.char] 0 (pieces.flatMap (spelled (decodedBy done))) =
      pieces.flatMap (spelled (decodedBy (d :: done))) := by
  obtain ⟨part, hpart⟩ : ∃ part, d.written = '&' :: part := by
    cases d <;> exact ⟨_, rfl⟩
  have hwritten : ∀ (e : Entity) (cs : List Char),
      replaceFrom d.written [d.char] 0 (e.written ++ cs) =
        (if e = d then [e.char] else e.written) ++ replaceFrom d.written [d.char] 0 cs := by
    intro e cs
    cases d <;> cases e <;> rfl
  rw [hpart] at hwritten ⊢
  refine replaceFrom_spelled ?_ pieces
  intro e cs
  by_cases he : e ∈ done
  · rw [replaceFrom_decoded hdone he, decodedBy, if_pos (List.mem_cons_of_mem d he)]
  · rw [decodedBy, if_neg he, hwritten, decodedBy]
    simp [he]

/-- No apostrophe is written by its number. -/
theorem replaceFrom_number {done : List Entity} (hdone : .amp ∉ done) (pieces : List Piece) :
    replaceFrom ['&', '#', '3', '9', ';'] ['\''] 0 (pieces.flatMap (spelled (decodedBy done))) =
      pieces.flatMap (spelled (decodedBy done)) := by
  refine replaceFrom_spelled ?_ pieces
  intro e cs
  by_cases he : e ∈ done
  · rw [replaceFrom_decoded hdone he, decodedBy, if_pos he]
  · rw [decodedBy, if_neg he]
    cases e <;> rfl

/-- Decoding the text of pieces gives their characters. -/
theorem decodeEntities_written (pieces : List Piece) :
    decodeEntities (written pieces) = pieces.map Piece.char := by
  have hnone : written pieces = pieces.flatMap (spelled (decodedBy [])) := by
    have hspelled : Piece.written = spelled (decodedBy []) := by
      funext p
      cases p <;> rfl
    rw [written, hspelled]
  have hall : spelled (decodedBy [.amp, .apos, .quot, .gt, .lt]) = fun p => [p.char] := by
    funext p
    cases p with
    | raw c hc => rfl
    | entity e => cases e <;> rfl
  show replaceFrom Entity.amp.written ['&'] 0 (replaceFrom Entity.apos.written ['\''] 0
    (replaceFrom ['&', '#', '3', '9', ';'] ['\''] 0 (replaceFrom Entity.quot.written ['"'] 0
      (replaceFrom Entity.gt.written ['>'] 0
        (replaceFrom Entity.lt.written ['<'] 0 (written pieces)))))) = _
  have hlt := @replaceFrom_entity [] (by decide) .lt pieces
  have hgt := @replaceFrom_entity [.lt] (by decide) .gt pieces
  have hquot := @replaceFrom_entity [.gt, .lt] (by decide) .quot pieces
  have happos := @replaceFrom_entity [.quot, .gt, .lt] (by decide) .apos pieces
  have hamp := @replaceFrom_entity [.apos, .quot, .gt, .lt] (by decide) .amp pieces
  simp only [Entity.char] at hlt hgt hquot happos hamp
  rw [hnone, hlt, hgt, hquot, replaceFrom_number (by decide), happos, hamp, hall]
  exact List.map_eq_flatMap.symm

/-! ## Escaping -/

/-- A text with its entities decoded, trimmed. -/
def decodeXml (s : String) : String := String.ofList (trimList (decodeEntities s.toList))

/-- A text escaped for an XML document. -/
def escapeXml (v : String) : String :=
  String.ofList (replaceFrom ['>'] "&gt;".toList 0
    (replaceFrom ['<'] "&lt;".toList 0 (replaceFrom ['&'] "&amp;".toList 0 v.toList)))

/-- The piece that a character is escaped to. -/
def pieceOf (c : Char) : Piece :=
  if hamp : c = '&' then .entity .amp
  else if hlt : c = '<' then .entity .lt
  else if c = '>' then .entity .gt
  else .raw c ⟨hlt, hamp⟩

theorem replaceFrom_singleton (c : Char) (new cs : List Char) :
    replaceFrom [c] new 0 cs = cs.flatMap fun d => if d = c then new else [d] := by
  induction cs with
  | nil => rfl
  | cons d cs ih =>
    rw [replaceFrom, List.flatMap_cons, ← ih, List.isPrefixOf, List.isPrefixOf, Bool.and_true]
    by_cases hd : d = c
    · rw [if_pos hd, if_pos (by rw [hd]; exact beq_self_eq_true c)]
      rfl
    · rw [if_neg hd, if_neg (by simpa using Ne.symm hd)]
      rfl

theorem escapeXml_toList (s : String) : (escapeXml s).toList = written (s.toList.map pieceOf) := by
  rw [escapeXml, String.toList_ofList, replaceFrom_singleton, replaceFrom_singleton,
    replaceFrom_singleton, List.flatMap_assoc, List.flatMap_assoc, written, List.flatMap_map]
  congr 1
  funext c
  by_cases hamp : c = '&'
  · subst hamp
    rfl
  by_cases hlt : c = '<'
  · subst hlt
    rfl
  by_cases hgt : c = '>'
  · subst hgt
    rfl
  simp [pieceOf, Piece.written, hamp, hlt, hgt]

/-- Decoding undoes escaping, up to trimming. -/
theorem decodeXml_escapeXml_eq (s : String) : decodeXml (escapeXml s) = trim s := by
  have hchar : Piece.char ∘ pieceOf = id := by
    funext c
    show (pieceOf c).char = c
    fun_cases pieceOf c with
    | case1 h => exact h.symm
    | case2 hamp h => exact h.symm
    | case3 hamp hlt h => exact h.symm
    | case4 => rfl
  rw [decodeXml, escapeXml_toList, decodeEntities_written, List.map_map, hchar, List.map_id, trim]

/-! ## Leaves -/

/-- The decoded text of a leaf, trimmed. -/
def leafText (pieces : List Piece) : String := String.ofList (trimList (pieces.map Piece.char))

theorem xmlLeaf_of_inner {xml : List Char} {name : String} {pieces : List Piece}
    (h : xmlInner xml name = some (written pieces)) :
    xmlLeaf xml name = some (leafText pieces) := by
  rw [xmlLeaf, h, Option.map_some, decodeEntities_written, leafText]

theorem isElementOf_leaf {name : String} {nodes : List Node} {pieces : List Piece}
    (h : leafPieces nodes = some pieces) :
    ∀ d ∈ descendantsAll nodes, isElementOf name d = false := by
  intro d hd
  obtain ⟨text, rfl⟩ := descendantsAll_leaf h d hd
  rfl

/-- A direct child is the first element of its name when none is opened before it. -/
theorem find?_direct {name : String} {before : List Node} {n : Name} {attributes : List Attribute}
    {children : List Node} (after : List Node) (hsame : sameName name n.chars = true)
    (hbefore : ∀ d ∈ descendantsAll before, opens name d = false) :
    (descendantsAll (before ++ .element n attributes children :: after)).find? (opens name) =
      some (.element n attributes children) := by
  have hnone : (descendantsAll before).find? (opens name) = none := by
    refine List.find?_eq_none.2 fun d hd => ?_
    rw [hbefore d hd]
    exact Bool.false_ne_true
  rw [descendantsAll_append, List.find?_append, hnone, Option.none_or, descendantsAll,
    Node.descendants, List.cons_append]
  exact List.find?_cons_of_pos hsame

/-- **What the fields of a document are read from.**  In every tree, as it is written, `xmlInner`
    reads the content of the first element that opens the name, at whatever depth, and `xmlLeaf` the
    decoded text of it, trimmed; of a direct child when nothing of the name is opened before it.  It
    reads nothing when the tree has no element of the name but such as close themselves.  Decoding
    undoes escaping, up to trimming. -/
theorem xmlLeaf_tree {name : String} (hname : IsPlain name) :
    (∀ (nodes : List Node) (n : Name) (attributes : List Attribute) (children : List Node),
      (descendantsAll nodes).find? (opens name) = some (.element n attributes children) →
      '>' ∉ writtenAttributes attributes →
        ((∀ d ∈ descendantsAll children, isElementOf name d = false) →
          xmlInner (writtenAll nodes) name = some (writtenAll children)) ∧
        ∀ pieces, leafPieces children = some pieces →
          xmlLeaf (writtenAll nodes) name = some (leafText pieces)) ∧
    (∀ (before : List Node) (n : Name) (attributes : List Attribute) (children after : List Node)
        (pieces : List Piece), sameName name n.chars = true →
      (∀ d ∈ descendantsAll before, opens name d = false) →
      '>' ∉ writtenAttributes attributes → leafPieces children = some pieces →
        xmlLeaf (writtenAll (before ++ .element n attributes children :: after)) name =
          some (leafText pieces)) ∧
    (∀ nodes : List Node, (∀ d ∈ descendantsAll nodes, isElementOf name d = false) →
      xmlLeaf (writtenAll nodes) name = none) ∧
    ∀ s : String, decodeXml (escapeXml s) = trim s := by
  have hleaf : ∀ (nodes : List Node) (n : Name) (attributes : List Attribute)
      (children : List Node),
      (descendantsAll nodes).find? (opens name) = some (.element n attributes children) →
      '>' ∉ writtenAttributes attributes → ∀ pieces, leafPieces children = some pieces →
        xmlLeaf (writtenAll nodes) name = some (leafText pieces) := by
    intro nodes n attributes children hfirst hattributes pieces hpieces
    have hinner := xmlInner_first hname hfirst hattributes (isElementOf_leaf hpieces)
    rw [writtenAll_leaf hpieces] at hinner
    exact xmlLeaf_of_inner hinner
  refine ⟨?_, ?_, ?_, decodeXml_escapeXml_eq⟩
  · intro nodes n attributes children hfirst hattributes
    exact ⟨xmlInner_first hname hfirst hattributes,
      hleaf nodes n attributes children hfirst hattributes⟩
  · intro before n attributes children after pieces hsame hbefore hattributes hpieces
    exact hleaf _ n attributes children (find?_direct after hsame hbefore) hattributes pieces
      hpieces
  · intro nodes hnodes
    rw [xmlLeaf, xmlInner_absent hname hnodes]
    rfl

/-- The name `id`. -/
def idName : Name := ⟨['i', 'd'], by decide, List.all_eq_true.1 rfl⟩

/-- A customer with an id of its own, before the id. -/
def nestedIds : List Node :=
  [.element ⟨['c'], by decide, List.all_eq_true.1 rfl⟩ []
      [.element idName [] [.text [.raw '1' (by decide)]]],
    .element idName [] [.text [.raw '2' (by decide), .entity .amp]]]

/-- The id that is nested deeper is opened first; without the customer, the id itself is, and after
    it nothing is left. -/
theorem xmlLeaf_tree_ids :
    xmlLeaf (writtenAll nestedIds) "id" = some (leafText [.raw '1' (by decide)]) ∧
      xmlLeaf (writtenAll (nestedIds.drop 1)) "id" =
        some (leafText [.raw '2' (by decide), .entity .amp]) ∧
      xmlLeaf (writtenAll []) "id" = none :=
  have halphanum : "id".toList.all Char.isAlphanum = true := rfl
  have hplain : IsPlain "id" := ⟨by decide, fun c hc => .inl (List.all_eq_true.1 halphanum c hc)⟩
  ⟨((xmlLeaf_tree hplain).1 nestedIds idName [] _ rfl (by decide)).2 _ rfl,
    (xmlLeaf_tree hplain).2.1 [] idName [] _ [] _ (by decide) (by simp [descendantsAll])
      (by decide) rfl,
    (xmlLeaf_tree hplain).2.2.1 [] (by simp [descendantsAll])⟩

/-- A direct child is not read where one of the name is nested in an element before it. -/
theorem xmlLeaf_direct_fails :
    ¬ ∀ (nodes : List Node) (n : Name) (children : List Node) (pieces : List Piece),
      nodes.filter (isElementOf "id") = [.element n [] children] →
      leafPieces children = some pieces →
        xmlLeaf (writtenAll nodes) "id" = some (leafText pieces) := by
  intro h
  have hread := h nestedIds idName _ _ rfl rfl
  exact absurd hread (by decide)

end AX10M
