import Sheltering.Setting
import Sheltering.Text.Split
import Sheltering.Yaml.Node
import Sheltering.Yaml.Plain

/-!
# Settings from a YAML text

* `Setting.ofScalar?`: a scalar as a setting. A tag of the YAML core names its type.
* `Setting.underTag`: a tag of one program only is a name for a value, so it becomes a table.
* `Setting.ofNode?`: a node as a setting. Aliases are followed, up to a limit.
* `Settings.ofYaml?`: the table of a text. A text without content gives no settings.
-/

namespace Sheltering

open Yaml

namespace Setting

/-! ## Tags -/

/-- A value under a name with points: a table for each part of the name up to the first empty one,
each within the one before. -/
def underName (name : String) (value : Setting) : Setting :=
  ((Text.splitAt '.' name.toList).takeWhile (!·.isEmpty)).foldr
    (fun part value => .table [(String.ofList part, value)]) value

/-- A value under its tag. -/
def underTag (tag : Option Tag) (value : Setting) : Setting :=
  match tag.bind Tag.localName? with
  | some name => underName name value
  | none => value

/-! ## Scalars -/

/-- A plain scalar as a setting. -/
def ofPlain (s : String) : Setting :=
  match Plain.ofText s with
  | .null => .null
  | .bool b => .bool b
  | .int n => .int n
  | .real => .real
  | .text => .text s

/-- A scalar whose tag says nothing of its type. -/
def ofUntyped (plain : Bool) (s : String) : Setting := if plain then ofPlain s else .text s

/-- A scalar with a tag that is known to every program. -/
def ofTyped? (tag : Option String) (s : String) : Option Setting :=
  match tag with
  | some "tag:yaml.org,2002:bool" => (Plain.truth? s).map .bool
  | some "tag:yaml.org,2002:int" => (Plain.int? s.toList).map .int
  | some "tag:yaml.org,2002:float" => if Plain.isReal s.toList then some .real else none
  | some "tag:yaml.org,2002:null" => if Plain.isNull s then some .null else none
  | _ => some (.text s)

/-- A scalar as a setting. -/
def ofScalar? (tag : Option Tag) (plain : Bool) (s : String) : Option Setting :=
  if tag.all Tag.isLocal then some (underTag tag (ofUntyped plain s))
  else ofTyped? (tag.bind Tag.text?) s

/-! ## Tables -/

/-- The key of a table that stands for the value under it. -/
def valueKey : String := "___figment_value_value"

/-- The key of a table for the number of the source of its value. -/
def sourceKey : String := "___figment_value_id"

/-- The table of some entries, or the value that it stands for. -/
def ofEntries? (entries : List (String × Setting)) : Option Setting :=
  if entries.all fun (key, value) => key ≠ sourceKey || value.word64?.isSome then
    let table := Settings.ofList (entries.filter fun e => e.1 ≠ sourceKey)
    some ((table.lookup valueKey).getD (.table table))
  else none

/-! ## Nodes -/

/-- A reader of nodes, which counts the aliases that it follows. -/
abbrev NodeVisit := StateT Nat Option

/-- How many aliases are followed at most, for each event of a document. -/
def aliasesPerEvent : Nat := 100

/-- The node itself, or the one that it is an alias of. -/
def followed (d : Document) : Node → NodeVisit Node
  | .reference anchor => fun count =>
    if count < aliasesPerEvent * d.root.eventCount then
      (d.target? anchor).map fun target => (target, count + 1)
    else none
  | node => pure node

/-- A key is a scalar, and its text counts as it is. -/
def keyOf (d : Document) (node : Node) : NodeVisit String := do
  match ← followed d node with
  | .scalar _ _ s => pure s
  | _ => failure

/-- A node that is no alias as a setting, with collections nested at most to a depth. -/
def ofNode? (d : Document) : (depth : Nat) → Node → NodeVisit Setting
  | _, .scalar tag plain s => fun count => (ofScalar? tag plain s).map fun value => (value, count)
  | depth + 1, .sequence tag items => do
    let items ← items.mapM fun item => do ofNode? d depth (← followed d item)
    pure (underTag tag (.list items))
  | depth + 1, .mapping tag entries => do
    let entries ← entries.mapM fun (k, v) => do
      pure (← keyOf d k, ← ofNode? d depth (← followed d v))
    match ofEntries? entries with
    | some value => pure (underTag tag value)
    | none => failure
  | _, _ => failure

end Setting

namespace Settings

/-- How deep the collections of a text may be nested. -/
def depthLimit : Nat := 128

/-- The entries of a mapping that is the root of a document. -/
def ofRoot? (d : Document) (entries : List (Node × Node)) : Setting.NodeVisit Settings := do
  let entries ← entries.mapM fun (k, v) => do
    pure (← Setting.keyOf d k, ← Setting.ofNode? d (depthLimit - 1) (← Setting.followed d v))
  pure (ofList entries)

/-- The table of a document, whatever tag it has. -/
def ofDocument? (d : Document) : Option Settings :=
  match d.root with
  | .scalar _ true "" => some []
  | .mapping _ entries => ((ofRoot? d entries).run 0).map (·.1)
  | _ => none

/-- The table of a YAML text. -/
def ofYaml? (text : String) : Option Settings := (Document.ofText? text).bind ofDocument?

end Settings

end Sheltering
