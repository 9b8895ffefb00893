import FleetTelemetry.Yaml.Event
import FleetTelemetry.Yaml.Node

/-!
# Reading YAML documents

The events of a stream are put together into one node per document. Open collections wait on a
stack; a finished node goes into the collection below it (into a mapping as its pending key, or
with the pending key as an entry), or becomes the document's node when none is open. A node with
an anchor is remembered by its number once it is finished, and an alias stands for a copy of it;
an alias to a node not yet finished (one that holds the alias) is the bad value.
-/

namespace FleetTelemetry.Yaml

inductive Frame where
  | seq (anchor : Nat) (items : Array Node)
  /-- A mapping, with its pending key (the bad value when there is none). -/
  | map (anchor : Nat) (entries : Array (Node × Node)) (key : Node)

structure Composer where
  documents : Array Node := #[]
  frames : List Frame := []
  root : Option Node := none
  anchored : List (Nat × Node) := []

def Composer.attach (c : Composer) (node : Node) (anchor : Nat) : Composer :=
  let c := if anchor > 0 then { c with anchored := (anchor, node) :: c.anchored } else c
  match c.frames with
  | [] => { c with root := some node }
  | .seq a items :: rest => { c with frames := .seq a (items.push node) :: rest }
  | .map a entries key :: rest =>
    if key == .bad then { c with frames := .map a entries node :: rest }
    else { c with frames := .map a (insertEntry key node entries) .bad :: rest }

def Composer.take (c : Composer) : Event → Composer
  | .documentEnd => { c with documents := c.documents.push (c.root.getD .bad), root := none }
  | .sequenceStart a _ => { c with frames := .seq a #[] :: c.frames }
  | .sequenceEnd =>
    match c.frames with
    | .seq a items :: rest => { c with frames := rest }.attach (.seq items.toList) a
    | _ => c
  | .mappingStart a _ => { c with frames := .map a #[] .bad :: c.frames }
  | .mappingEnd =>
    match c.frames with
    | .map a entries _ :: rest => { c with frames := rest }.attach (.map entries.toList) a
    | _ => c
  | .scalar text style a tag =>
    c.attach (Node.ofScalar text (style != .plain) (tag.map (·.handle)) (tag.map (·.suffix))) a
  | .alias id => c.attach ((c.anchored.lookup id).getD .bad) 0
  | _ => c

/-- Reads events until the end of the stream; anchor names are forgotten at each document. -/
def compose : Nat → EventReader → Composer → Except Fault (List Node)
  | 0, _, c => .ok c.documents.toList
  | fuel + 1, r, c =>
    match nextEvent.run r with
    | .error e => .error e
    | .ok ((.streamEnd, _), _) => .ok c.documents.toList
    | .ok ((.documentStart, _), r) => compose fuel { r with anchors := [] } c
    | .ok ((ev, _), r) => compose fuel r (c.take ev)

def read (text : String) : Except Fault (List Node) :=
  let lexer := Lexer.ofString text
  compose (16 * (lexer.input.size + 8)) { lexer } {}

end FleetTelemetry.Yaml
