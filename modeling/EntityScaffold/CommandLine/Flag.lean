/-
Flags of the command line. A flag has names, a word for its value if it takes one, and a line of
help. Beside the flags there is one operand, the name of the entity.
-/

namespace EntityScaffold.CommandLine

inductive Flag where
  | help
  | bundlePath
  | bundleNameSpace
  | bundleName
  | metadata
  | format
  | routePrefix
  | withWrite
  | directory
  | skeletonDirectory
  | config
  deriving DecidableEq, Repr

namespace Flag

def all : List Flag :=
  [help, bundlePath, bundleNameSpace, bundleName, metadata, format, routePrefix, withWrite,
    directory, skeletonDirectory, config]

/-- The names of a flag, a short one first. -/
def names : Flag → List String
  | .help => ["-h", "--help"]
  | .bundlePath => ["--bundle-path"]
  | .bundleNameSpace => ["--bundle-namespace"]
  | .bundleName => ["--bundle-name"]
  | .metadata => ["--metadata"]
  | .format => ["--format"]
  | .routePrefix => ["--route-prefix"]
  | .withWrite => ["--with-write"]
  | .directory => ["--dir"]
  | .skeletonDirectory => ["--skeleton-dir"]
  | .config => ["--config"]

/-- How a flag is called in messages. -/
def title (flag : Flag) : String := "/".intercalate flag.names

/-- The word for the value of a flag that takes one. -/
def valueWord? : Flag → Option String
  | .help | .withWrite => none
  | .bundlePath => some "BUNDLE_PATH"
  | .bundleNameSpace => some "BUNDLE_NAMESPACE"
  | .bundleName => some "BUNDLE_NAME"
  | .metadata => some "METADATA"
  | .format => some "FORMAT"
  | .routePrefix => some "ROUTE_PREFIX"
  | .directory => some "CONTROLLER_DIR"
  | .skeletonDirectory => some "SKELETON_DIR"
  | .config => some "CONFIG"

def isRequired : Flag → Bool
  | .bundlePath | .bundleNameSpace | .metadata => true
  | _ => false

def helpLine : Flag → String
  | .help => "show this help message and exit"
  | .bundlePath => "Root directory of the target bundle"
  | .bundleNameSpace => "Bundle namespace, e.g. Acme.BlogBundle"
  | .bundleName => "Bundle display name (default: namespace without separators)"
  | .metadata => "YAML or JSON file describing the entity fields"
  | .format => "Routing format: yaml, xml, php or annotation (default: yaml)"
  | .routePrefix => "Route prefix (default: the entity name as a path, e.g. blog/post)"
  | .withWrite => "Also generate the new, edit and delete actions"
  | .directory => "Controller sub-directory (default: Controller)"
  | .skeletonDirectory => "Directory with custom .j2 skeletons"
  | .config => "JSON configuration file (default: environment)"

def table : List (String × Flag) := all.flatMap fun flag => flag.names.map fun name => (name, flag)

def ofName? (name : String) : Option Flag := table.lookup name

end Flag

def operandName : String := "entity"

def operandHelp : String := "Dotted entity name, e.g. Blog.Post"

end EntityScaffold.CommandLine
