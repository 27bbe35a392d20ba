import ShapeCoords.Options.Reading
import ShapeCoords.Text.Blank

/-!
The arguments of the command line. They split from left to right into items: a flag alone, a flag
with the value behind it, or the path of the page. The last item of a kind counts, but there is at
most one path. Every other list of arguments is refused.
-/

namespace ShapeCoords.CommandLine

/-- What draws the diagrams of a page before its shapes are listed. -/
inductive Drawing where
  | headless
  | program
  /-- The page holds its drawings already. -/
  | off
  deriving DecidableEq, Repr, Inhabited

def Drawing.names : List (String × Drawing) :=
  [("merman", .headless), ("headless", .headless), ("mmdc", .program), ("none", .off)]

def Drawing.description : Drawing → String
  | .headless => "Merman"
  | .program => "Mmdc"
  | .off => "None"

/-- The choice of a name, in any case and with white space around it. -/
def Drawing.ofName (name : String) : Option Drawing :=
  let name := (Text.trim name.toList).map Text.lowerAscii
  (names.find? fun n => n.1.toList == name).map Prod.snd

inductive Item where
  | drawing (d : Drawing)
  | program (path : String)
  | config (path : String)
  | circleCenter (c : CircleCenter)
  | identityFallback
  | adjustedBottomRight
  | skipMalformed
  | strictMarkup
  | page (path : String)
  deriving DecidableEq, Repr

namespace Item

def ofValue? : String → Option (String → Option Item)
  | "--renderer" => some fun value => (Drawing.ofName value).map .drawing
  | "--mmdc" => some fun value => some (.program value)
  | "--config" => some fun value => some (.config value)
  | "--circle-center" => some fun value =>
    (CircleCenter.variants.find? fun v => v.1 == value).map fun v => .circleCenter v.2
  | _ => none

/-- The item of an argument alone. What starts with a hyphen is no path, except the hyphen. -/
def ofWord : String → Option Item
  | "--identity-fallback" => some .identityFallback
  | "--adjusted-bottom-right" => some .adjustedBottomRight
  | "--skip-malformed" => some .skipMalformed
  | "--strict-markup" => some .strictMarkup
  | word => if word.toList.head? = some '-' ∧ word ≠ "-" then none else some (.page word)

/-- The items behind `--`: at most one more argument, a path. -/
def behindMarker : List String → Option (List Item)
  | [] => some []
  | [path] => some [.page path]
  | _ => none

def split : List String → Option (List Item)
  | [] => some []
  | word :: rest =>
    if word = "--" then behindMarker rest
    else
      match ofValue? word with
      | some read =>
        match rest with
        | [] => none
        | value :: rest => return (← read value) :: (← split rest)
      | none => return (← ofWord word) :: (← split rest)

end Item

structure Arguments where
  page : Option String := none
  drawing : Drawing := .headless
  program : Option String := none
  config : Option String := none
  overrides : Options.Partial := {}
  deriving DecidableEq, Repr, Inhabited

namespace Arguments

/-- Takes an item in. A second path is refused. -/
def add (a : Arguments) : Item → Option Arguments
  | .drawing d => some { a with drawing := d }
  | .program path => some { a with program := some path, drawing := .program }
  | .config path => some { a with config := some path }
  | .circleCenter c => some { a with overrides := { a.overrides with circleCenter := some c } }
  | .identityFallback =>
    some { a with overrides := { a.overrides with missingTransform := some .identity } }
  | .adjustedBottomRight =>
    some { a with overrides := { a.overrides with bottomRightY := some .adjusted } }
  | .skipMalformed => some { a with overrides := { a.overrides with malformed := some .skip } }
  | .strictMarkup => some { a with overrides := { a.overrides with strictMarkup := some true } }
  | .page path => if a.page.isSome then none else some { a with page := some path }

def ofItems (items : List Item) : Option Arguments :=
  items.foldlM add {}

def parse (words : List String) : Option Arguments :=
  (Item.split words).bind ofItems

end Arguments

def usage : String :=
  "mermaid-coords\n\n" ++
  "USAGE:\n" ++
  "mermaid-coords [--renderer merman|mmdc|none] [--mmdc <path>] [--config <file>] " ++
  "[--identity-fallback] [--adjusted-bottom-right] [--skip-malformed] " ++
  "[--circle-center radii|center] [--strict-markup] [<path>|-]\n\n" ++
  "NOTES:\n" ++
  "- <path> defaults to ./index.html; '-' reads from stdin.\n" ++
  "- Mermaid blocks (pre.mermaid, div.mermaid, code.language-mermaid) are rendered to inline " ++
  "SVG first;\n" ++
  "--renderer none expects the input to already contain rendered SVG.\n" ++
  "- --config accepts JSON, or YAML for .yaml/.yml files; flags override it.\n" ++
  "- Set RUST_LOG (e.g. RUST_LOG=mermaid_coords=debug) to see skipped shapes.\n"

end ShapeCoords.CommandLine
