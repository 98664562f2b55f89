import FlowGraph.CompileError
import FlowGraph.Json.Tree
import FlowGraph.Table
import FlowGraph.Text.Quoted

/-!
# `FlowGraph.Json.Decode`: typed values from JSON texts

A `Decoder` takes a tree to a value of some type, or refuses it. Decoders walk the tree in
document order and stop at the first thing amiss, so of two faults the earlier one is told:
a place that does not fit (`Mismatch`), or the break in a text that is not JSON.

Records may be written as objects, in which unknown members are skipped, or as arrays of
their fields in order, where those at the end may be left out if they have defaults.
-/

set_option autoImplicit false

namespace FlowGraph.Json

/-- Why a JSON text does not fit the type that is read. -/
inductive Mismatch where
  /-- A value of one type stands where another is expected. -/
  | invalidType (found expected : String)
  /-- A value of the right type is out of range. -/
  | invalidValue (found expected : String)
  /-- An array of fields that ends too early. -/
  | invalidLength (length : Nat) (expected : String)
  /-- A name outside of a closed vocabulary. -/
  | unknownVariant (found : String) (known : List String)
  | duplicateField (name : String)
  | missingField (name : String)
deriving DecidableEq

namespace Mismatch

/-- A name as messages show it. -/
def ticked (s : String) : String := "`" ++ s ++ "`"

/-- The names that a vocabulary offers. -/
def offer : List String → String
  | [a] => ticked a
  | [a, b] => ticked a ++ " or " ++ ticked b
  | names => "one of " ++ ", ".intercalate (names.map ticked)

/-- The sentence shown to the user. -/
def message : Mismatch → String
  | invalidType found expected => s!"invalid type: {found}, expected {expected}"
  | invalidValue found expected => s!"invalid value: {found}, expected {expected}"
  | invalidLength length expected => s!"invalid length {length}, expected {expected}"
  | unknownVariant found known =>
      "unknown variant " ++ ticked found ++ ", expected " ++ offer known
  | duplicateField name => "duplicate field " ++ ticked name
  | missingField name => "missing field " ++ ticked name

end Mismatch

/-- Why a text is refused. -/
inductive ReadError where
  /-- The text is no JSON, or a number or string in it has no value. -/
  | malformed
  /-- The text does not fit the type that is read. -/
  | mismatch (m : Mismatch)
  /-- What the text says breaks a rule of workflows. -/
  | invalid (e : CompileError)

/-- A reader of trees. -/
abbrev Decoder (α : Type) : Type := Tree → Except ReadError α

namespace Tree

/-- What stands in a place, as messages put it. -/
def describe? : Tree → Option String
  | broken => none
  | null => some "null"
  | boolean b => some ("boolean " ++ Mismatch.ticked (toString b))
  | number n =>
      n.value?.map fun
        | .natural k => "integer " ++ Mismatch.ticked (toString k)
        | .negative k => "integer " ++ Mismatch.ticked ("-" ++ toString k)
        | .float x => "floating point " ++ Mismatch.ticked (floatText x)
  | text s => s.map (fun s => "string " ++ Text.quoted s)
  | array .. => some "sequence"
  | object .. => some "map"

/-- The refusal of a value that is not of the expected type. -/
def unexpected (t : Tree) (expected : String) : ReadError :=
  match t.describe? with
  | some found => .mismatch (.invalidType found expected)
  | none => .malformed

end Tree

namespace Decoder

variable {α : Type}

/-- A text. -/
def text : Decoder String
  | .text (some s) => .ok s
  | t => .error (t.unexpected "a string")

/-- A value that may be null. -/
def optional (d : Decoder α) : Decoder (Option α)
  | .null => .ok none
  | t => (d t).map some

/-- A number of 32 bits. -/
def uint32 : Decoder UInt32
  | .number n =>
      match n.value? with
      | some (.natural k) =>
          if k < UInt32.size then .ok (UInt32.ofNat k)
          else .error (.mismatch (.invalidValue ("integer " ++ Mismatch.ticked (toString k)) "u32"))
      | some (.negative k) =>
          .error (.mismatch
            (.invalidValue ("integer " ++ Mismatch.ticked ("-" ++ toString k)) "u32"))
      | _ => .error ((Tree.number n).unexpected "u32")
  | t => .error (t.unexpected "u32")

/-- The value that a name stands for in a closed vocabulary. -/
def ofName (names : List (String × α)) (s : String) : Except ReadError α :=
  match names.find? (fun p => p.1 == s) with
  | some (_, a) => .ok a
  | none => .error (.mismatch (.unknownVariant s (names.map Prod.fst)))

/-- A value of a closed vocabulary: its name, or an object whose only member has that name
and no content. -/
def variant (names : List (String × α)) : Decoder α
  | .text (some s) => ofName names s
  | .object ((.text (some s), content) :: others) complete => do
      let a ← ofName names s
      match content with
      | .null => if others.isEmpty && complete then .ok a else .error .malformed
      | t => .error (t.unexpected "unit")
  | _ => .error .malformed

/-- A list. -/
def list (d : Decoder α) : Decoder (List α)
  | .array items complete => do
      let as ← items.mapM d
      if complete then .ok as else .error .malformed
  | t => .error (t.unexpected "a sequence")

/-- A table. A repeated key keeps its first place and its last value. -/
def table {κ : Type} [DecidableEq κ] (key : String → Except ReadError κ) (d : Decoder α) :
    Decoder (Table κ α)
  | .object members complete => do
      let entries ← members.mapM fun (k, v) =>
        match k with
        | .text (some s) => do
            let k ← key s
            return (k, ← d v)
        | _ => .error .malformed
      if complete then .ok (.ofList entries) else .error .malformed
  | t => .error (t.unexpected "a map")

end Decoder

/-! ### Records -/

/-- How a record is read. `ρ` holds what is known of it while its members are read. -/
structure RecordType (ρ α : Type) where
  /-- What the record is called. -/
  name : String
  /-- The names of the fields in order. -/
  fields : List String
  /-- The record of which nothing is known. -/
  start : ρ
  /-- Takes up the value of a field. -/
  put : ρ → String → Tree → Except ReadError ρ
  /-- The finished record, or the first field that it lacks. -/
  finish : ρ → Except String α

namespace RecordType

variable {ρ α : Type}

/-- Takes up the members of an object. `seen` lists the fields that have been met. -/
def putMembers (R : RecordType ρ α) (seen : List String) (r : ρ) :
    List (Tree × Tree) → Except ReadError ρ
  | [] => .ok r
  | (.text (some key), value) :: ms =>
      if key ∈ R.fields then
        if key ∈ seen then .error (.mismatch (.duplicateField key))
        else do putMembers R (key :: seen) (← R.put r key value) ms
      else if value.isComplete then putMembers R seen r ms
      else .error .malformed
  | _ :: _ => .error .malformed

/-- Takes up the items of an array as the values of fields in order, and tells whether there
were no more items than fields. -/
def putItems (R : RecordType ρ α) (r : ρ) : List String → List Tree → Except ReadError (ρ × Bool)
  | _, [] => .ok (r, true)
  | [], _ :: _ => .ok (r, false)
  | field :: fields, t :: ts => do putItems R (← R.put r field t) fields ts

/-- The reader of a record. -/
def decoder (R : RecordType ρ α) : Decoder α
  | .object members complete => do
      let r ← R.putMembers [] R.start members
      if complete then
        match R.finish r with
        | .ok a => .ok a
        | .error field => .error (.mismatch (.missingField field))
      else .error .malformed
  | .array items complete => do
      let (r, all) ← R.putItems R.start R.fields items
      if items.length < R.fields.length && !complete then .error .malformed
      else
        match R.finish r with
        | .error _ =>
            .error (.mismatch (.invalidLength items.length
              s!"struct {R.name} with {R.fields.length} elements"))
        | .ok a => if all && complete then .ok a else .error .malformed
  | t => .error (t.unexpected s!"struct {R.name}")

end RecordType

/-- The value that a text holds. Behind it nothing but white space may follow. -/
def readText {α : Type} (d : Decoder α) (s : String) : Except ReadError α := do
  let (t, rest) := Tree.read s.toList
  let a ← d t
  if (skipSpaces rest).isEmpty then .ok a else .error .malformed

end FlowGraph.Json
