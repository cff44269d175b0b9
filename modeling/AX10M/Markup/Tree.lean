/-
  Trees of elements, and how they are written.

  A text is written character by character, each by itself or as a predefined entity; an element
  is written with its attributes, and one without content may close itself.  Only tags have a `<`
  (`lt_not_mem_written`, `lt_not_mem_attributes`).
-/
import AX10M.Js.Text
import Mathlib.Data.List.Basic

namespace Markup

open Js

/-! ## Texts -/

/-- The predefined entities. -/
inductive Entity where
  | lt | gt | quot | apos | amp
  deriving DecidableEq

/-- The character of an entity. -/
def Entity.char : Entity → Char
  | lt => '<' | gt => '>' | quot => '"' | apos => '\'' | amp => '&'

/-- An entity as it is written. -/
def Entity.written : Entity → List Char
  | lt => ['&', 'l', 't', ';'] | gt => ['&', 'g', 't', ';']
  | quot => ['&', 'q', 'u', 'o', 't', ';'] | apos => ['&', 'a', 'p', 'o', 's', ';']
  | amp => ['&', 'a', 'm', 'p', ';']

/-- A character of a text: by itself, unless it begins a tag or an entity, or as an entity. -/
inductive Piece where
  | raw (c : Char) (h : c ≠ '<' ∧ c ≠ '&')
  | entity (e : Entity)

def Piece.char : Piece → Char
  | raw c _ => c
  | entity e => e.char

def Piece.written : Piece → List Char
  | raw c _ => [c]
  | entity e => e.written

/-- A text as it is written. -/
def written (pieces : List Piece) : List Char := pieces.flatMap Piece.written

theorem lt_not_mem_written (pieces : List Piece) : '<' ∉ written pieces := by
  intro h
  obtain ⟨p, -, hp⟩ := List.mem_flatMap.1 h
  cases p with
  | raw c hc => exact hc.1 (List.mem_singleton.1 hp).symm
  | entity e => cases e <;> simp [Piece.written, Entity.written] at hp

/-! ## Elements -/

/-- A character of a name. -/
def isNameChar (c : Char) : Bool :=
  !isSpace c && !(['<', '>', '/', '=', '&', '"', '\''].contains c)

structure Name where
  chars : List Char
  nonempty : chars ≠ []
  valid : ∀ c ∈ chars, isNameChar c = true

/-- An attribute; its value has no quote in it that is not an entity. -/
structure Attribute where
  name : Name
  value : List Piece
  quoted : '"' ∉ written value

def Attribute.written (a : Attribute) : List Char :=
  ' ' :: (a.name.chars ++ '=' :: '"' :: (Markup.written a.value ++ ['"']))

/-- The attributes of a tag as they are written. -/
def writtenAttributes (attributes : List Attribute) : List Char :=
  attributes.flatMap Attribute.written

inductive Node where
  | text (pieces : List Piece)
  | element (name : Name) (attributes : List Attribute) (children : List Node)
  | selfClosing (name : Name) (attributes : List Attribute)

mutual
/-- A node as it is written. -/
def Node.written : Node → List Char
  | .text pieces => Markup.written pieces
  | .element name attributes children =>
    '<' :: (name.chars ++ (writtenAttributes attributes ++ '>' :: (writtenAll children ++
      '<' :: '/' :: (name.chars ++ ['>']))))
  | .selfClosing name attributes =>
    '<' :: (name.chars ++ (writtenAttributes attributes ++ ['/', '>']))
def writtenAll : List Node → List Char
  | [] => []
  | node :: nodes => node.written ++ writtenAll nodes
end

mutual
/-- A node and everything in it, in the order of the document. -/
def Node.descendants : Node → List Node
  | .text pieces => [.text pieces]
  | .element name attributes children =>
    .element name attributes children :: descendantsAll children
  | .selfClosing name attributes => [.selfClosing name attributes]
def descendantsAll : List Node → List Node
  | [] => []
  | node :: nodes => node.descendants ++ descendantsAll nodes
end

theorem descendantsAll_append (nodes others : List Node) :
    descendantsAll (nodes ++ others) = descendantsAll nodes ++ descendantsAll others := by
  induction nodes with
  | nil => rfl
  | cons node nodes ih =>
    rw [List.cons_append, descendantsAll, descendantsAll, ih, List.append_assoc]

/-- The pieces of an element that has only text in it. -/
def leafPieces : List Node → Option (List Piece)
  | [] => some []
  | .text pieces :: nodes => (leafPieces nodes).map (pieces ++ ·)
  | _ :: _ => none

theorem writtenAll_leaf {nodes : List Node} {pieces : List Piece}
    (h : leafPieces nodes = some pieces) : writtenAll nodes = written pieces := by
  induction nodes generalizing pieces with
  | nil =>
    obtain rfl := Option.some.inj h
    rw [writtenAll, written, List.flatMap_nil]
  | cons node nodes ih =>
    cases node with
    | text first =>
      rw [leafPieces] at h
      obtain ⟨rest, hrest, rfl⟩ := Option.map_eq_some_iff.1 h
      rw [writtenAll, Node.written, ih hrest, written, written, written, List.flatMap_append]
    | element name attributes children => cases h
    | selfClosing name attributes => cases h

theorem descendantsAll_leaf {nodes : List Node} {pieces : List Piece}
    (h : leafPieces nodes = some pieces) : ∀ d ∈ descendantsAll nodes, ∃ text, d = .text text := by
  induction nodes generalizing pieces with
  | nil =>
    intro d hd
    cases hd
  | cons node nodes ih =>
    cases node with
    | text first =>
      rw [leafPieces] at h
      obtain ⟨rest, hrest, -⟩ := Option.map_eq_some_iff.1 h
      intro d hd
      rw [descendantsAll, Node.descendants, List.singleton_append] at hd
      rcases List.mem_cons.1 hd with rfl | hd
      · exact ⟨first, rfl⟩
      · exact ih hrest d hd
    | element name attributes children => cases h
    | selfClosing name attributes => cases h

theorem isNameChar_iff {c : Char} : isNameChar c = true ↔ isSpace c = false ∧ c ≠ '<' ∧ c ≠ '>' ∧
    c ≠ '/' ∧ c ≠ '=' ∧ c ≠ '&' ∧ c ≠ '"' ∧ c ≠ '\'' := by
  simp [isNameChar]

theorem Name.lt_not_mem (name : Name) : '<' ∉ name.chars := by
  intro h
  exact (isNameChar_iff.1 (name.valid _ h)).2.1 rfl

theorem lt_not_mem_attributes (attributes : List Attribute) :
    '<' ∉ writtenAttributes attributes := by
  intro h
  obtain ⟨a, -, ha⟩ := List.mem_flatMap.1 h
  simp only [Attribute.written, List.mem_cons, List.mem_append, List.not_mem_nil, or_false,
    Char.reduceEq, false_or] at ha
  rcases ha with ha | ha
  · exact a.name.lt_not_mem ha
  · exact lt_not_mem_written a.value ha

/-- The attributes of a tag are none, or begin with a blank. -/
theorem writtenAttributes_head (attributes : List Attribute) :
    writtenAttributes attributes = [] ∧ attributes = [] ∨
      attributes ≠ [] ∧ ∃ cs, writtenAttributes attributes = ' ' :: cs := by
  cases attributes with
  | nil => exact .inl ⟨rfl, rfl⟩
  | cons a attributes =>
    refine .inr ⟨List.cons_ne_nil a attributes, ?_⟩
    rw [writtenAttributes, List.flatMap_cons, Attribute.written]
    exact ⟨_, rfl⟩

end Markup
