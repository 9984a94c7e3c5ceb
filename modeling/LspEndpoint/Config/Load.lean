import LspEndpoint.Config.Basic
import LspEndpoint.File.Open
import LspEndpoint.Text.Lines
import LspEndpoint.Yaml.Value

/-!
Settings from a file. An empty file leaves every setting at its default.
-/
namespace LspEndpoint.Config

/-- The entries under some keys, each value as it is seen from outside. -/
def entriesOf (g : Datum.Graph) (keys : List String) (entries : List (Datum.Ref × Datum.Ref)) :
    Section :=
  keys.filterMap fun (key : String) =>
    (Datum.Graph.lookup? (Text.ofString key) entries).map fun v => (.text (Text.ofString key), g.unfold v)

/-- The sections of a map with the settings in them, whatever else it holds. -/
def sectionsOf (g : Datum.Graph) (entries : List (Datum.Ref × Datum.Ref)) : Section :=
  sections.filterMap fun (name, keys) =>
    (Datum.Graph.lookup? (Text.ofString name) entries).map fun v =>
      (.text (Text.ofString name), match g.entries? v with
        | some entries => .map (entriesOf g keys entries)
        | none => g.unfold v)

def ofGraph (e : Environment) (g : Datum.Graph) : Setting Config :=
  match g.entries? g.root, g.root with
  | some entries, _ => ofMapping e (sectionsOf g entries)
  | none, .scalar .null _ => .ok default
  | none, _ => .error .notMapping

/-- The settings that a text holds. -/
def ofText (e : Environment) (t : Text) : Setting Config :=
  match Yaml.read t.unifyLines with
  | .ok g => ofGraph e g
  | .error .malformed => .error .unparsable
  | .error f => .error (.unread f)

/-- The settings in the file at a path. -/
def load (e : Environment) (files : File.System) (path : Text) : Setting Config :=
  let path := File.normal path
  if (File.pathError? path).isSome then .error (.missingFile path)
  else
    match files.find path.octets with
    | .error r => .error (if r.isAbsence then .missingFile path else .unopened (.refused r path))
    | .ok entry =>
      match File.System.contents entry with
      | .ok t => ofText e t.bytes.decode
      | .error r => .error (.unopened (.refused r path))

theorem ofText_empty (e : Environment) : ofText e [] = .ok default := by
  rfl

end LspEndpoint.Config
