import SceneScript.Registry.Directive
/-!
# Registry — namespaces

Directives live in namespaces, and namespaces are addressed by dotted paths
below a root. Empty segments of a path do not count, so two spellings with
the same segments address the same namespace. A registry is the list of its
namespaces, each under its segments, the root under none; creating one
creates those above it, and nothing is ever taken away.
-/

namespace SceneScript

/-- The segments of a dotted path, the empty ones included. -/
def dotted : List Char → List (List Char)
  | [] => [[]]
  | c :: cs =>
    if c = '.' then [] :: dotted cs
    else
      match dotted cs with
      | [] => [[c]]
      | segment :: rest => (c :: segment) :: rest

/-- The segments of a dotted path that are not empty. -/
def segments (path : String) : List String :=
  ((dotted path.toList).filter (· ≠ [])).map String.ofList

/-- The directives of a namespace, in the order they were added. -/
structure Namespace (σ : Type) where
  elements : List (ElementDirective σ) := []
  attributes : List (AttributeDirective σ) := []

namespace Namespace

variable {σ : Type}

/-- The first element directive of a name, in any case of ASCII letters. -/
def element? (ns : Namespace σ) (name : String) : Option (ElementDirective σ) :=
  ns.elements.find? fun directive => Text.alike directive.name name

/-- The first attribute directive of a name, in any case of ASCII letters. -/
def attribute? (ns : Namespace σ) (name : String) : Option (AttributeDirective σ) :=
  ns.attributes.find? fun directive => Text.alike directive.name name

/-- The namespace with more directives at the end. -/
def extend (ns : Namespace σ) (elements : List (ElementDirective σ))
    (attributes : List (AttributeDirective σ)) : Namespace σ :=
  ⟨ns.elements ++ elements, ns.attributes ++ attributes⟩

end Namespace

/-- A tree of namespaces below a named root. -/
structure Registry (σ : Type) where
  root : String
  /-- Every namespace under its segments. -/
  nodes : List (List String × Namespace σ) := [([], {})]

namespace Registry

variable {σ : Type}

/-- The namespace under some segments. -/
def node? (registry : Registry σ) (path : List String) : Option (Namespace σ) :=
  (registry.nodes.find? (·.1 == path)).map (·.2)

/-- The namespace at a dotted path. -/
def find? (registry : Registry σ) (path : String) : Option (Namespace σ) :=
  registry.node? (segments path)

/-- The registry with a namespace under some segments, if it had none. -/
def ensure (registry : Registry σ) (path : List String) : Registry σ :=
  if (registry.node? path).isSome then registry
  else { registry with nodes := registry.nodes ++ [(path, {})] }

/-- The registry with every namespace on the way from one down to another. -/
def ensureFrom (registry : Registry σ) (done : List String) : List String → Registry σ
  | [] => registry
  | segment :: rest => (registry.ensure (done ++ [segment])).ensureFrom (done ++ [segment]) rest

/-- The registry with the namespace at a dotted path, and those above it. -/
def create (registry : Registry σ) (path : String) : Registry σ :=
  registry.ensureFrom [] (segments path)

/-- The registry with a namespace edited. -/
def edit (registry : Registry σ) (path : List String) (f : Namespace σ → Namespace σ) :
    Registry σ :=
  { registry with
    nodes := registry.nodes.map fun (key, ns) => if key = path then (key, f ns) else (key, ns) }

/-- The registry with more directives at a dotted path, which is created. -/
def add (registry : Registry σ) (path : String) (elements : List (ElementDirective σ))
    (attributes : List (AttributeDirective σ)) : Registry σ :=
  (registry.create path).edit (segments path) (·.extend elements attributes)

/-- The full name of the namespace under some segments. -/
def fullName (registry : Registry σ) (path : List String) : String :=
  String.intercalate "." (registry.root :: path)

/-- Whether a full name, which starts with that of the root, names a
namespace of the registry. What stands before the first dot is taken for the
name of the root. -/
def isCreated (registry : Registry σ) (name : String) : Bool :=
  match name.toList.span (· ≠ '.') with
  | (head, '.' :: rest) =>
    String.ofList head == registry.root && (registry.find? (String.ofList rest)).isSome
  | _ => name == registry.root

/-- The names of the namespaces right below one, in ascending order. -/
def childNames (registry : Registry σ) (path : List String) : List String :=
  (registry.nodes.filterMap fun (key, _) =>
    if key.dropLast = path ∧ key ≠ [] then key.getLast? else none).mergeSort fun a b => !(b < a)

/-- A namespace as dumps show it. -/
def dumped (registry : Registry σ) (path : List String) (ns : Namespace σ) : String :=
  "Namespace \x7b full_name: " ++ Text.quoted (registry.fullName path) ++
    ", elements: " ++ Text.quotedList (ns.elements.map (·.name)) ++
    ", attributes: " ++ Text.quotedList (ns.attributes.map (·.name)) ++
    ", children: " ++ Text.quotedList (registry.childNames path) ++ " \x7d"

end Registry

end SceneScript
