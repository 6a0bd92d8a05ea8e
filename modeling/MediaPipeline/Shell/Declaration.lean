import MediaPipeline.Shell.Bindings
import MediaPipeline.Shell.Quoting

/-!
Variables as the extended dialect declares them.
-/

namespace MediaPipeline.Shell.Binding

def attributes (b : Binding) : Octets :=
  let kind := match b.value with
    | some (.items _) => ['a']
    | some (.table _) => ['A']
    | _ => []
  let letters := match b.letters with
    | some .lower => ['l']
    | some .toggle => ['c']
    | some .upper => ['u']
    | none => []
  kind ++ (if b.integer then ['i'] else []) ++ (if b.reference then ['n'] else []) ++
    (if b.readonly then ['r'] else []) ++ (if b.traced then ['t'] else []) ++
    (if b.exported then ['x'] else []) ++ letters

/-- In double quotes, or in those with escapes where control characters are in it. -/
def quotedValue (t : Octets) : Octets :=
  if !Quoting.isShowable t then Quoting.ansi t
  else '"' :: (t.flatMap fun c => if "\"\\$\x60".toList.contains c then ['\\', c] else [c]) ++ ['"']

/-- The key of an element, in quotes where it is not a plain word. -/
def shownKey (key : Octets) : Octets :=
  if Quoting.isShowable key && key.all fun c => !"\"\\$\x60 []".toList.contains c
  then key else quotedValue key

def quotedElements : Value → Octets
  | .items es =>
    let own := es.map fun (n, t) => '[' :: Octets.ofNat n ++ "]=".toList ++ quotedValue t
    '(' :: (own.intersperse [' ']).flatten ++ [')']
  | .table es =>
    '(' :: (es.flatMap fun (key, t) =>
      '[' :: shownKey key ++ "]=".toList ++ quotedValue t ++ [' ']) ++ [')']
  | .text t => quotedValue t

def shown (name : Octets) (b : Binding) : Octets :=
  match b.value, b.hollow with
  | some v, false => name ++ '=' :: quotedElements v
  | _, _ => name

def declaration (name : Octets) (b : Binding) : Octets :=
  let letters := if b.attributes.isEmpty then ['-'] else b.attributes
  "declare -".toList ++ letters ++ ' ' :: shown name b

end MediaPipeline.Shell.Binding
