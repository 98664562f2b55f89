import FlowGraph.Proofs.Json.Records
import FlowGraph.Proofs.Markup.Attributes
import FlowGraph.Replica

/-!
# `FlowGraph.Proofs.Replica.RoundTrip`: attributes from an element to a text and back

The attributes of an element are kept three times: in the element, in the connection that is made
of it, and in the JSON text of the replicas that connections belong to. The first two agree by
`FlowGraph.Proofs.Markup.Attributes`. Here the text is read back (`listOfJson_render`): an object
that is read keeps the last value of a repeated key in its first place, but no key is written
twice, so each table comes back in its order. `attributes_survive` puts all three together.
-/

set_option autoImplicit false

namespace FlowGraph

open Json Json.Tree

/-- A stored connection reads back, with its attributes in order. -/
theorem Connection.decoder_toData (c : Connection) :
    Connection.decoder (ofData c.toData) = .ok c := by
  have htable : Decoder.table Except.ok Decoder.text
      (ofData (.mapping (c.attributes.entries.map (fun e => (id e.1, Data.text e.2)))))
      = .ok c.attributes :=
    table_ofData c.attributes (fun _ => rfl) (fun _ => rfl)
  exact congrArg (Except.map Connection.mk) htable

namespace Replica

/-- A stored replica reads back. -/
theorem decoder_toData (r : Replica) : recordType.decoder (ofData r.toData) = .ok r := by
  have hrole : TakesUp recordType ["role"] [("role", .text r.role)] {} { role := some r.role } :=
    TakesUp.single rfl
  have hdatabase : TakesUp recordType ["database"] [("database", r.database.toData)]
      { role := some r.role } ⟨some r.role, some r.database⟩ :=
    TakesUp.of_read (fun c => (⟨some r.role, some c⟩ : Draft)) r.database.decoder_toData rfl
  exact decoder_ofData (by decide) (hrole.append hdatabase) rfl

/-- Replicas are read back from their text, however it is set out. -/
theorem listOfJson_render (l : Layout) (rs : List Replica) :
    listOfJson (render l (.sequence (rs.map toData))) = .ok rs := by
  have hlist : Decoder.list recordType.decoder (ofData (.sequence (rs.map toData))) = .ok rs :=
    list_ofData (fun r _ => r.decoder_toData)
  rw [listOfJson, readText, read_render]
  show (Decoder.list recordType.decoder (ofData (.sequence (rs.map toData))) >>= _) = _
  rw [hlist]
  rfl

/-- Attributes are the same wherever they are kept. In an element that has been built, by hand or
from a document, the names are distinct and stand in the order in which they were first set, each
with the value last set for it, and the children stand in the order in which they were pushed. Its
connection lists the same pairs in the same order, and each attribute reads as on the element. And
the replicas with such connections are read back from their text as they were. -/
theorem attributes_survive :
    (∀ (e : Element) settings children, e.Built settings children →
      e.attributes.keys.Nodup ∧
      e.attributes.keys = (settings.map Prod.fst).eraseDups ∧
      (∀ name, e.attribute? name = lastSet settings name) ∧
      e.attributes.entries = settings.foldl (fun pairs s => setFirst pairs s.1 s.2) [] ∧
      e.children = children ∧
      (Connection.ofElement e).attributes = .ofList e.attributes.entries ∧
      (Connection.ofElement e).attributes.entries = e.attributes.entries ∧
      ∀ name, (Connection.ofElement e).attribute? name = e.attribute? name) ∧
    (∀ text root, Markup.readElement text = .ok root →
      ∃ d, Markup.Document.read text = .ok d ∧ d.root.element? = some root) ∧
    (∀ (n : Markup.Node) e, n.element? = some e →
      e.Built n.settings (n.content.filterMap Markup.Node.element?)) ∧
    ∀ rs : List Replica, listOfJson (listToJson rs) = .ok rs := by
  refine ⟨?_, ?_, ?_, fun rs => listOfJson_render .compact rs⟩
  · intro e settings children h
    exact ⟨e.attributes.nodup_keys, h.keys_eq, h.attribute?_eq, h.entries_eq, h.children_eq,
      Connection.attributes_ofElement e, rfl, fun name => Connection.attribute?_ofElement e name⟩
  · exact fun text root h => Markup.exists_document_of_readElement h
  · exact fun n e h => Markup.Node.built_of_element? h

/-- A section for a database whose server is set before and after its port. -/
def movedServer : Element :=
  ((((Element.leaf "database").setAttribute "server" "a").setAttribute "port" "1").pushChild
    (.leaf "note")).setAttribute "server" "\"b\x00"

/-- The server keeps its first place and has its last value, and a list with the section is read
back. -/
theorem attributes_survive_movedServer :
    movedServer.Built [("server", "a"), ("port", "1"), ("server", "\"b\x00")] [.leaf "note"] ∧
      movedServer.attributes.keys = ["server", "port"] ∧
      movedServer.attribute? "server" = some "\"b\x00" ∧
      listOfJson (listToJson [⟨" Slave", .ofElement movedServer⟩])
        = .ok [⟨" Slave", .ofElement movedServer⟩] := by
  have hbuilt : movedServer.Built [("server", "a"), ("port", "1"), ("server", "\"b\x00")]
      [.leaf "note"] :=
    (((Element.Built.leaf "database").setAttribute "server" "a").setAttribute "port" "1"
      |>.pushChild (.leaf "note")).setAttribute "server" "\"b\x00"
  obtain ⟨hall, -, -, hread⟩ := attributes_survive
  obtain ⟨-, hkeys, hvalue, -⟩ := hall movedServer _ _ hbuilt
  exact ⟨hbuilt, hkeys.trans (by decide), hvalue "server", hread _⟩

end Replica

end FlowGraph
