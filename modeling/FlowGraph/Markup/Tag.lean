import FlowGraph.Markup.Name
import FlowGraph.Markup.Node
import FlowGraph.Markup.Reference

/-!
# `FlowGraph.Markup.Tag`: start tags and the namespaces of names

A start tag is read attribute by attribute. Attributes that declare namespaces are checked
and kept apart as they come; the prefixes of the others, and of the element itself, are
looked up when the tag ends, because a declaration may follow its use. A `Scope` lists the
declarations that hold at a place, nearest first.
-/

set_option autoImplicit false

namespace FlowGraph.Markup

/-- The declarations that hold at a place, nearest first: a prefix, or none for the default
namespace, with the namespace that it stands for. -/
abbrev Scope : Type := List (Option String × String)

/-- The namespace that the prefix `xml` stands for everywhere. -/
def xmlSpace : String := "http://www.w3.org/XML/1998/namespace"

/-- The namespace of declarations, which nothing may be bound to. -/
def xmlnsSpace : String := "http://www.w3.org/2000/xmlns/"

/-- An attribute as it is written. -/
structure RawAttribute where
  name : QName
  /-- The characters between the quotes. -/
  raw : List Char
  /-- How much text is left where the name begins. -/
  left : Nat
  /-- How much text is left where the value ends. -/
  valueLeft : Nat

/-- An attribute whose references are resolved and whose prefix is still to be looked up. -/
structure PrefixedAttribute where
  name : QName
  value : String
  /-- How much text is left where the name begins. -/
  left : Nat

/-- A start tag as far as it has been read. -/
structure Tag where
  name : QName
  /-- How much text is left where the name begins. -/
  left : Nat
  /-- The declarations of this tag, in order. -/
  declared : Scope
  /-- The other attributes, in order. -/
  attributes : List PrefixedAttribute

/-- An element whose start tag has been read and whose end tag has not. -/
structure OpenElement where
  /-- The name as the end tag has to repeat it. -/
  tag : QName
  space : Option String
  attributes : List Attribute
  /-- The declarations that hold inside the element. -/
  scope : Scope
  /-- The content read so far, last node first. -/
  content : List Node

namespace OpenElement

/-- The element, with the content read so far. -/
def node (o : OpenElement) : Node := .element o.space o.tag.name o.attributes o.content.reverse

/-- The element with one more node of content. -/
def push (o : OpenElement) (n : Node) : OpenElement := { o with content := n :: o.content }

end OpenElement

namespace Scan

/-- A quotation mark of either kind. -/
def quotation : Scan Char := do
  let c ← peek
  if c == '"' || c == '\'' then
    skip 1
    return c
  else fail (.expectedKind "a quote" c)

/-- An attribute. Its value goes up to the quotation mark that began it and may hold no
opening bracket. -/
def assignment : Scan RawAttribute := do
  let start ← left
  let name ← qualifiedName
  spaces
  char '='
  spaces
  let quote ← quotation
  let raw ← before (fun s => s.head?.any (fun c => c == quote || c == '<'))
  let valueLeft ← left
  char quote
  return ⟨name, raw, start, valueLeft⟩

end Scan

namespace Tag

/-- The rules for binding `pfx` to `uri`: the two reserved namespaces stay with their
prefixes, and the prefix `xml` stays with its namespace. -/
def checkBinding (pfx : Option String) (uri : String) : Option Fault :=
  if uri = xmlnsSpace then some .xmlnsUriDeclared
  else if pfx = some "xml" then
    if uri = xmlSpace then none else some .xmlPrefixRebound
  else if uri = xmlSpace then some .xmlUriRebound
  else none

/-- The tag with one more attribute. A declaration is checked and joins the scope; the
default namespace may be declared again, a prefix may not. The prefix `xml` is bound without
a declaration, so declaring it changes nothing and may be repeated. -/
def add (t : Tag) (a : RawAttribute) : Except Stop Tag := do
  let value := String.ofList (← resolve .value a.valueLeft a.raw)
  let declare (pfx : Option String) : Except Stop Tag :=
    match checkBinding pfx value with
    | some fault => .error ⟨fault, a.left⟩
    | none =>
        if pfx = some "xml" then .ok t
        else .ok { t with declared := t.declared ++ [(pfx, value)] }
  if a.name.pfx = "xmlns" then
    let t' ← declare (some a.name.name)
    if t.declared.any (fun d => d.1 == some a.name.name) then
      throw ⟨.duplicateNamespace a.name.name, a.left⟩
    return t'
  else if a.name.name = "xmlns" then declare none
  else return { t with attributes := t.attributes ++ [⟨a.name, value, a.left⟩] }

/-- The namespace that a prefix stands for. No prefix stands for the default namespace, if
there is one. -/
def lookUp (scope : Scope) (pfx : String) (left : Nat) : Except Stop (Option String) :=
  if pfx = "" then .ok ((scope.find? (fun d => d.1 == none)).map Prod.snd)
  else
    match scope.find? (fun d => d.1 == some pfx) with
    | some (_, uri) => .ok (some uri)
    | none => .error ⟨.unknownNamespace pfx, left⟩

/-- The namespace of an attribute: without a prefix it has none, not even the default one,
and the prefix `xml` needs no declaration. -/
def attributeSpace (scope : Scope) (a : PrefixedAttribute) : Except Stop (Option String) :=
  if a.name.pfx = "xml" then .ok (some xmlSpace)
  else if a.name.pfx = "" then .ok none
  else lookUp scope a.name.pfx a.left

/-- The attributes with their namespaces. No two may agree in namespace and local name. -/
def expand (scope : Scope) (done : List Attribute) :
    List PrefixedAttribute → Except Stop (List Attribute)
  | [] => .ok done
  | a :: as => do
      let space ← attributeSpace scope a
      if done.any (fun d => d.space == space && d.name == a.name.name) then
        throw ⟨.duplicateAttribute a.name.name, a.left⟩
      expand scope (done ++ [⟨space, a.name.name, a.value⟩]) as

/-- The element that a finished tag opens, inside an element with the given scope. -/
def opened (t : Tag) (outer : Scope) : Except Stop OpenElement := do
  let scope := t.declared ++ outer
  let attributes ← expand scope [] t.attributes
  let space ← lookUp scope t.name.pfx t.left
  return ⟨t.name, space, attributes, scope, []⟩

/-- How a start tag ends. -/
inductive Ending where
  /-- The element has content. -/
  | content
  /-- The element is empty. -/
  | empty
  /-- The text ends inside the tag. -/
  | cutOff

/-- The attributes of a tag up to its end. Each needs white space before it. -/
def finish (t : Tag) (s : List Char) : Except Stop ((Tag × Ending) × Rest s) :=
  match s with
  | [] => .ok ((t, .cutOff), ⟨[], Nat.le_refl _⟩)
  | c :: s' =>
      match hr : (c :: s').dropWhile isSpace with
      | [] => .error ⟨.endOfText, 0⟩
      | '/' :: r =>
          match Scan.char '>' r with
          | .error stop => .error stop
          | .ok (_, ⟨r', h⟩) => .ok ((t, .empty), ⟨r', by
              have := Scan.length_dropWhile_le isSpace (c :: s')
              rw [hr, List.length_cons] at this
              omega⟩)
      | '>' :: r => .ok ((t, .content), ⟨r, by
          have := Scan.length_dropWhile_le isSpace (c :: s')
          rw [hr, List.length_cons] at this
          omega⟩)
      | d :: r =>
          if hc : isSpace c = true then
            match Scan.assignment (d :: r) with
            | .error stop => .error stop
            | .ok (a, ⟨r', h⟩) =>
                match t.add a with
                | .error stop => .error stop
                | .ok t' =>
                    have hlt : r'.length < (c :: s').length := by
                      have := Scan.length_dropWhile_le isSpace s'
                      rw [List.dropWhile_cons_of_pos hc] at hr
                      rw [hr] at this
                      simp only [List.length_cons] at *
                      omega
                    match finish t' r' with
                    | .error stop => .error stop
                    | .ok (result, ⟨r'', h'⟩) =>
                        .ok (result, ⟨r'', Nat.le_trans h' (Nat.le_of_lt hlt)⟩)
          else .error ⟨.expectedKind "a whitespace" d, r.length + 1⟩
termination_by s.length
decreasing_by exact hlt

/-- A start tag after its opening bracket. -/
def read (s : List Char) : Except Stop ((Tag × Ending) × Rest s) :=
  match Scan.qualifiedName s with
  | .error stop => .error stop
  | .ok (name, ⟨r, h⟩) =>
      if name.pfx = "xmlns" then .error ⟨.xmlnsPrefixUsed, s.length⟩
      else
        match finish ⟨name, s.length, [], []⟩ r with
        | .error stop => .error stop
        | .ok (result, ⟨r', h'⟩) => .ok (result, ⟨r', Nat.le_trans h' h⟩)

end Tag

end FlowGraph.Markup
