import FlowGraph.Markup.Scan

/-!
# `FlowGraph.Markup.Name`: qualified and plain names

A qualified name is a local name with a prefix and a colon before it, or without. The
empty prefix is the same as none.
-/

set_option autoImplicit false

namespace FlowGraph.Markup

/-- A name as it is written: prefix and local part. -/
structure QName where
  pfx : String
  name : String
deriving DecidableEq

/-- The name as it is written, without a colon if there is no prefix. -/
def QName.text (q : QName) : String := if q.pfx = "" then q.name else q.pfx ++ ":" ++ q.name

namespace Scan

/-- A qualified name. One colon may part it; a prefix that is there and the local part must
each begin with a name start character. -/
def qualifiedName : Scan QName := do
  let start ← left
  let cs ← takeWhile (fun c => isNameChar c || c == ':')
  if (cs.filter (· == ':')).length > 1 then failAt start .invalidName
  else
    let before := cs.takeWhile (· != ':')
    let after := cs.dropWhile (· != ':')
    let (pfx, name) := match after with
      | [] => ([], before)
      | _ :: name => (before, name)
    if pfx.head?.all isNameStart && name.head?.any isNameStart then
      return ⟨String.ofList pfx, String.ofList name⟩
    else failAt start .invalidName

/-- A plain name, in which colons may stand anywhere. -/
def plainName : Scan (List Char) := do
  let start ← left
  let cs ← takeWhile (fun c => isNameChar c || c == ':')
  match cs with
  | c :: _ => if isNameStart c || c == ':' then return cs else failAt start .invalidName
  | [] => failAt start .invalidName

end Scan

end FlowGraph.Markup
