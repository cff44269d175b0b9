/-
  The fields of an XML text, as the adapters extract them: not by a parser, but by the first match
  of a pattern with the name of the field (`xml.ts`).
-/
import AX10M.Js.Text
import Mathlib.Data.Nat.Notation

namespace AX10M

open Js

/-- What a text is after a start, in upper or lower case. -/
def dropCaseless : List Char → List Char → Option (List Char)
  | [], cs => some cs
  | _ :: _, [] => none
  | p :: ps, c :: cs => if p.toLower = c.toLower then dropCaseless ps cs else none

/-- The text before the first closing tag. -/
def upTo (close : List Char) : List Char → Option (List Char)
  | [] => none
  | c :: cs =>
    if (dropCaseless close (c :: cs)).isSome then some [] else (upTo close cs).map (c :: ·)

/-- What follows the rest of an opening tag, after its name: at once, or after its attributes. -/
def afterAttributes : List Char → Option (List Char)
  | [] => none
  | '>' :: cs => some cs
  | c :: cs => if isSpace c then (cs.dropWhile (· ≠ '>')).tail? else none

/-- The closing tag of a name. -/
def closingTag (name : String) : List Char := "</".toList ++ name.toList ++ ['>']

/-- The content of an element at the start of a text. -/
def elementAt (name : String) (cs : List Char) : Option (List Char) := do
  let cs ← dropCaseless ('<' :: name.toList) cs
  upTo (closingTag name) (← afterAttributes cs)

/-- The content of the first element of a name. -/
def xmlInner (xml : List Char) (name : String) : Option (List Char) :=
  firstMatch (elementAt name) xml

/-- A text with a part replaced wherever it stands; the number says how many characters of the
    part are still to be skipped. -/
def replaceFrom (part new : List Char) : ℕ → List Char → List Char
  | _, [] => []
  | n + 1, _ :: cs => replaceFrom part new n cs
  | 0, c :: cs =>
    if part.isPrefixOf (c :: cs) then new ++ replaceFrom part new (part.length - 1) cs
    else c :: replaceFrom part new 0 cs

/-- The predefined entities, in the order they are decoded. -/
def xmlEntities : List (String × Char) :=
  [("&lt;", '<'), ("&gt;", '>'), ("&quot;", '"'), ("&#39;", '\''), ("&apos;", '\''), ("&amp;", '&')]

/-- A text with its entities decoded. -/
def decodeEntities (cs : List Char) : List Char :=
  xmlEntities.foldl (fun cs entity => replaceFrom entity.1.toList [entity.2] 0 cs) cs

/-- The text of the first element of a name. -/
def xmlLeaf (xml : List Char) (name : String) : Option String :=
  (xmlInner xml name).map fun cs => String.ofList (trimList (decodeEntities cs))

/-- An element may have attributes; the first one counts. -/
example : xmlLeaf "<a><Id type=\"n\"> x &amp; y </id><id>z</id></a>".toList "id" =
    some "x & y" := by
  rfl

end AX10M
