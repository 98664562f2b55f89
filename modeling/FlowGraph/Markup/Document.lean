import FlowGraph.Markup.Tag

/-!
# `FlowGraph.Markup.Document`: reading a document

`Document.read` takes a text to its node tree in one pass, and the first fault wins.
Elements are read with the open ones on a stack; every round of the loop takes at least one
character, so it ends by the length of the text.
-/

set_option autoImplicit false

namespace FlowGraph.Markup

namespace Scan

/-- Whether a text begins with another. -/
def startsWith (lead : String) (s : List Char) : Bool := lead.toList.isPrefixOf s

/-- Whether a text holds another. -/
def holds (part : String) : List Char → Bool
  | [] => part.isEmpty
  | c :: cs => startsWith part (c :: cs) || holds part cs

/-- A comment after its opening mark, which began where `start` was left. -/
def comment (start : Nat) : Scan Node := do
  let cs ← through "-->"
  if holds "--" cs || cs.getLast? == some '-' then failAt start .commentHyphens
  else return .comment (String.ofList cs)

/-- A processing instruction after its opening mark, which began where `start` was left. A
declaration of the document is none. -/
def instruction (start : Nat) : Scan Node := do
  if startsWith "xml " (← rest) then failAt start .declarationInside
  else
    let target ← plainName
    spaces
    let cs ← through "?>"
    return .instruction (String.ofList target)
      (if cs.isEmpty then none else some (String.ofList cs))

/-- A character data section after its opening mark. -/
def sectionText : Scan Node := do
  return .text (String.ofList (← through "]]>"))

/-- Text up to the next tag, of which the first character has been taken. -/
def plainText (first : Char) : Scan Node := do
  if isXmlChar first then
    let raw := first :: (← before (fun s => s.head? == some '<'))
    if holds "]]>" raw then fail .sectionEndInText
    else
      match resolve .content (← left) raw with
      | .ok cs => return .text (String.ofList cs)
      | .error stop => failAt stop.left stop.fault
  else failAt ((← left) + 1) (.nonXmlChar first)

/-- An end tag after its opening mark. -/
def endTag : Scan QName := do
  let name ← qualifiedName
  spaces
  char '>'
  return name

/-- White space before the next part of a declaration, unless the declaration or the text
ends. -/
def gap : Scan Unit := do
  match ← rest with
  | c :: cs =>
      if isSpace c then spaces
      else if startsWith "?>" (c :: cs) then return ()
      else fail (.expectedKind "a whitespace" c)
  | [] => return ()

/-- The declaration at the beginning of a document, after its first five characters. The
values in it are not looked at. -/
def declaration : Scan Unit := do
  gap
  if startsWith "version" (← rest) then
    let _ ← assignment
  else text "version"
  gap
  if startsWith "encoding" (← rest) then
    let _ ← assignment
    gap
  if startsWith "standalone" (← rest) then
    let _ ← assignment
  spaces
  text "?>"

end Scan

namespace Document

/-- The comments and processing instructions at the front, with the white space around
them. -/
def readMisc (s : List Char) : Except Stop (List Node × List Char) :=
  match _hs : s.dropWhile isSpace with
  | '<' :: '!' :: '-' :: '-' :: r =>
      match Scan.comment (r.length + 4) r with
      | .error stop => .error stop
      | .ok (n, ⟨r', _⟩) =>
          (readMisc r').map (fun m => (n :: m.1, m.2))
  | '<' :: '?' :: r =>
      match Scan.instruction (r.length + 2) r with
      | .error stop => .error stop
      | .ok (n, ⟨r', _⟩) =>
          (readMisc r').map (fun m => (n :: m.1, m.2))
  | r => .ok ([], r)
termination_by s.length
decreasing_by
  all_goals
    have hle := Scan.length_dropWhile_le isSpace s
    rw [_hs] at hle
    simp only [List.length_cons] at hle
    omega

/-- The content of the open element `top` and of all below it, up to the end tag of the
last. Answers that last element and what is left. -/
def readContent (top : OpenElement) (below : List OpenElement) (s : List Char) :
    Except Stop (OpenElement × List Char) :=
  match s with
  | [] => .error ⟨.unclosedRoot, 0⟩
  | '<' :: '!' :: '-' :: '-' :: r =>
      match Scan.comment (r.length + 4) r with
      | .error stop => .error stop
      | .ok (n, ⟨r', _⟩) => readContent (top.push n) below r'
  | '<' :: '!' :: '[' :: 'C' :: 'D' :: 'A' :: 'T' :: 'A' :: '[' :: r =>
      match Scan.sectionText r with
      | .error stop => .error stop
      | .ok (n, ⟨r', _⟩) => readContent (top.push n) below r'
  | '<' :: '!' :: r => .error ⟨.unknownToken, r.length + 2⟩
  | '<' :: '?' :: r =>
      match Scan.instruction (r.length + 2) r with
      | .error stop => .error stop
      | .ok (n, ⟨r', _⟩) => readContent (top.push n) below r'
  | '<' :: '/' :: r =>
      match Scan.endTag r with
      | .error stop => .error stop
      | .ok (name, ⟨r', _⟩) =>
          if name = top.tag then
            match below with
            | [] => .ok (top, r')
            | parent :: below => readContent (parent.push top.node) below r'
          else .error ⟨.mismatchedTag top.tag.text name.text, r.length + 2⟩
  | ['<'] => .error ⟨.unknownToken, 1⟩
  | '<' :: r =>
      match Tag.read r with
      | .error stop => .error stop
      | .ok ((_, .cutOff), _) => .error ⟨.unclosedRoot, 0⟩
      | .ok ((t, .content), ⟨r', _⟩) =>
          match t.opened top.scope with
          | .error stop => .error stop
          | .ok inner => readContent inner (top :: below) r'
      | .ok ((t, .empty), ⟨r', _⟩) =>
          match t.opened top.scope with
          | .error stop => .error stop
          | .ok inner => readContent (top.push inner.node) below r'
  | c :: r =>
      match Scan.plainText c r with
      | .error stop => .error stop
      | .ok (n, ⟨r', _⟩) => readContent (top.push n) below r'
termination_by s.length

/-- The text after the mark that tells the order of its bytes, if it begins with one. -/
def afterByteOrderMark : List Char → List Char
  | '\uFEFF' :: s => s
  | s => s

/-- The document that a text holds, or the first fault and how much text is left there. -/
def scan (s : List Char) : Except Stop Document := do
  let s := afterByteOrderMark s
  let s ←
    if Scan.startsWith "<?xml " s then (Scan.declaration (s.drop 5)).map (fun x => x.2.val)
    else pure s
  let (prolog, s) ← readMisc s
  if Scan.startsWith "<!DOCTYPE" s then throw ⟨.doctype, s.length⟩
  match s with
  | '<' :: s =>
      let ((tag, ending), ⟨s, _⟩) ← Tag.read s
      let (root, s) ←
        match ending with
        | .cutOff => throw ⟨.noRoot, 0⟩
        | .empty => pure (← tag.opened [], s)
        | .content => readContent (← tag.opened []) [] s
      let (epilog, s) ← readMisc s
      if s.isEmpty then
        return ⟨prolog, root.space, root.tag.name, root.attributes, root.content.reverse, epilog⟩
      else throw ⟨.unknownToken, s.length⟩
  | [] => throw ⟨.noRoot, 0⟩
  | s => throw ⟨.unknownToken, s.length⟩

/-- The document that a text holds. -/
def read (text : String) : Except Error Document :=
  match scan text.toList with
  | .ok d => .ok d
  | .error stop => .error ⟨stop.fault, Position.ofLeft text.toList stop.left⟩

end Document

/-- The tree of elements of the document that a text holds. -/
def readElement (text : String) : Except Error Element :=
  (Document.read text).map Document.toElement

end FlowGraph.Markup
