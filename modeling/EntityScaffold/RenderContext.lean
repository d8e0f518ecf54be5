import EntityScaffold.Ordered
import EntityScaffold.Skeleton.Datum
import EntityScaffold.Validation

/-
What the packaged skeletons are filled with: one record for each kind of skeleton. A record can be
built by the program or checked from loosely typed members; either way it binds its members to
names.
-/

namespace EntityScaffold

namespace Skeleton.Datum

def ofActions (actions : List Action) : Datum :=
  .list (actions.map fun action => .string action.text)

def ofTexts (entries : List (String × CodeText)) : Datum :=
  .table (entries.map fun entry => (CodeText.ofString entry.1, .text entry.2))

end Skeleton.Datum

/-- The entries of a mapping as skeletons see them: the octets of surrogates in a name are replaced,
and names that differ in surrogates only are one name. -/
def seenEntries (entries : List (CodeText × CodeText)) : List (String × CodeText) :=
  Ordered.ofList (entries.map fun (name, text) => (name.octetsReplaced, text))

open Skeleton (Datum)

structure ControllerContext where
  actions : List Action
  routePrefix : CodeText
  routeNamePrefix : CodeText
  bundle : CodeText
  nameSpace : CodeText
  entity : CodeText
  entityClass : CodeText
  entityNameSpace : CodeText
  controllerNameSpace : CodeText
  format : RoutingFormat
  deriving DecidableEq, Repr

namespace ControllerContext

def check (members : List (Value × Value)) : Checked ControllerContext :=
  mk <$> Check.required "actions" (Check.list Check.action) members
    <*> Check.required "route_prefix" Check.codeText members
    <*> Check.required "route_name_prefix" Check.codeText members
    <*> Check.required "bundle" Check.codeText members
    <*> Check.required "namespace" Check.codeText members
    <*> Check.required "entity" Check.codeText members
    <*> Check.required "entity_class" Check.codeText members
    <*> Check.required "entity_namespace" Check.codeText members
    <*> Check.required "controller_namespace" Check.codeText members
    <*> Check.required "format" Check.routingFormat members

def bindings (context : ControllerContext) : Bindings := [
  ("actions", Datum.ofActions context.actions),
  ("route_prefix", .text context.routePrefix),
  ("route_name_prefix", .text context.routeNamePrefix),
  ("bundle", .text context.bundle),
  ("namespace", .text context.nameSpace),
  ("entity", .text context.entity),
  ("entity_class", .text context.entityClass),
  ("entity_namespace", .text context.entityNameSpace),
  ("controller_namespace", .text context.controllerNameSpace),
  ("format", .string context.format.text)]

end ControllerContext

structure FunctionalTestContext where
  actions : List Action
  fields : List (CodeText × CodeText)
  routePrefix : CodeText
  routeNamePrefix : CodeText
  nameSpace : CodeText
  entity : CodeText
  entityClass : CodeText
  entityNameSpace : CodeText
  controllerNameSpace : CodeText
  deriving DecidableEq, Repr

namespace FunctionalTestContext

def check (members : List (Value × Value)) : Checked FunctionalTestContext :=
  mk <$> Check.required "actions" (Check.list Check.action) members
    <*> Check.required "fields" (Check.mapping Check.codeText) members
    <*> Check.required "route_prefix" Check.codeText members
    <*> Check.required "route_name_prefix" Check.codeText members
    <*> Check.required "namespace" Check.codeText members
    <*> Check.required "entity" Check.codeText members
    <*> Check.required "entity_class" Check.codeText members
    <*> Check.required "entity_namespace" Check.codeText members
    <*> Check.required "controller_namespace" Check.codeText members

def bindings (context : FunctionalTestContext) : Bindings := [
  ("actions", Datum.ofActions context.actions),
  ("fields", Datum.ofTexts (seenEntries context.fields)),
  ("route_prefix", .text context.routePrefix),
  ("route_name_prefix", .text context.routeNamePrefix),
  ("namespace", .text context.nameSpace),
  ("entity", .text context.entity),
  ("entity_class", .text context.entityClass),
  ("entity_namespace", .text context.entityNameSpace),
  ("controller_namespace", .text context.controllerNameSpace)]

end FunctionalTestContext

structure IndexViewContext where
  entity : CodeText
  fields : List (CodeText × CodeText)
  actions : List Action
  rowLinks : List Action
  routePrefix : CodeText
  routeNamePrefix : CodeText
  deriving DecidableEq, Repr

namespace IndexViewContext

def check (members : List (Value × Value)) : Checked IndexViewContext :=
  mk <$> Check.required "entity" Check.codeText members
    <*> Check.required "fields" (Check.mapping Check.codeText) members
    <*> Check.required "actions" (Check.list Check.action) members
    <*> Check.required "record_actions" (Check.list Check.action) members
    <*> Check.required "route_prefix" Check.codeText members
    <*> Check.required "route_name_prefix" Check.codeText members

def bindings (context : IndexViewContext) : Bindings := [
  ("entity", .text context.entity),
  ("fields", Datum.ofTexts (seenEntries context.fields)),
  ("actions", Datum.ofActions context.actions),
  ("record_actions", Datum.ofActions context.rowLinks),
  ("route_prefix", .text context.routePrefix),
  ("route_name_prefix", .text context.routeNamePrefix)]

end IndexViewContext

structure ShowViewContext where
  entity : CodeText
  fields : List (CodeText × CodeText)
  actions : List Action
  routePrefix : CodeText
  routeNamePrefix : CodeText
  deriving DecidableEq, Repr

namespace ShowViewContext

def check (members : List (Value × Value)) : Checked ShowViewContext :=
  mk <$> Check.required "entity" Check.codeText members
    <*> Check.required "fields" (Check.mapping Check.codeText) members
    <*> Check.required "actions" (Check.list Check.action) members
    <*> Check.required "route_prefix" Check.codeText members
    <*> Check.required "route_name_prefix" Check.codeText members

def bindings (context : ShowViewContext) : Bindings := [
  ("entity", .text context.entity),
  ("fields", Datum.ofTexts (seenEntries context.fields)),
  ("actions", Datum.ofActions context.actions),
  ("route_prefix", .text context.routePrefix),
  ("route_name_prefix", .text context.routeNamePrefix)]

end ShowViewContext

/-- The data of the form and of the two views that include it. -/
structure FormViewContext where
  entity : CodeText
  fields : List (CodeText × CodeText)
  actions : List Action
  routePrefix : CodeText
  routeNamePrefix : CodeText
  bundle : CodeText
  formDir : CodeText
  deriving DecidableEq, Repr

namespace FormViewContext

def check (members : List (Value × Value)) : Checked FormViewContext :=
  mk <$> Check.required "entity" Check.codeText members
    <*> Check.required "fields" (Check.mapping Check.codeText) members
    <*> Check.required "actions" (Check.list Check.action) members
    <*> Check.required "route_prefix" Check.codeText members
    <*> Check.required "route_name_prefix" Check.codeText members
    <*> Check.required "bundle" Check.codeText members
    <*> Check.required "form_dir" Check.codeText members

def bindings (context : FormViewContext) : Bindings := [
  ("entity", .text context.entity),
  ("fields", Datum.ofTexts (seenEntries context.fields)),
  ("actions", Datum.ofActions context.actions),
  ("route_prefix", .text context.routePrefix),
  ("route_name_prefix", .text context.routeNamePrefix),
  ("bundle", .text context.bundle),
  ("form_dir", .text context.formDir)]

end FormViewContext

structure RoutingContext where
  actions : List Action
  routePrefix : CodeText
  routeNamePrefix : CodeText
  bundle : CodeText
  entity : CodeText
  entityClass : CodeText
  controllerNameSpace : CodeText
  deriving DecidableEq, Repr

namespace RoutingContext

def check (members : List (Value × Value)) : Checked RoutingContext :=
  mk <$> Check.required "actions" (Check.list Check.action) members
    <*> Check.required "route_prefix" Check.codeText members
    <*> Check.required "route_name_prefix" Check.codeText members
    <*> Check.required "bundle" Check.codeText members
    <*> Check.required "entity" Check.codeText members
    <*> Check.required "entity_class" Check.codeText members
    <*> Check.required "controller_namespace" Check.codeText members

def bindings (context : RoutingContext) : Bindings := [
  ("actions", Datum.ofActions context.actions),
  ("route_prefix", .text context.routePrefix),
  ("route_name_prefix", .text context.routeNamePrefix),
  ("bundle", .text context.bundle),
  ("entity", .text context.entity),
  ("entity_class", .text context.entityClass),
  ("controller_namespace", .text context.controllerNameSpace)]

end RoutingContext

inductive ContextKind where
  | controller
  | functionalTest
  | indexView
  | showView
  | formView
  | routing
  deriving DecidableEq, Repr

namespace ContextKind

/-- The name under which a kind is known in reports. -/
def title : ContextKind → String
  | .controller => "ControllerContext"
  | .functionalTest => "FunctionalTestContext"
  | .indexView => "IndexViewContext"
  | .showView => "ShowViewContext"
  | .formView => "FormViewContext"
  | .routing => "RoutingContext"

def ofTitle? (title : String) : Option ContextKind :=
  [controller, functionalTest, indexView, showView, formView, routing].find? (·.title == title)

/-- The bindings of a context of some kind, from loosely typed members. -/
def check (kind : ContextKind) (members : List (Value × Value)) :
    Except ValidationError Bindings :=
  let bindings : Checked Bindings := match kind with
    | .controller => (ControllerContext.check members).map ControllerContext.bindings
    | .functionalTest => (FunctionalTestContext.check members).map FunctionalTestContext.bindings
    | .indexView => (IndexViewContext.check members).map IndexViewContext.bindings
    | .showView => (ShowViewContext.check members).map ShowViewContext.bindings
    | .formView => (FormViewContext.check members).map FormViewContext.bindings
    | .routing => (RoutingContext.check members).map RoutingContext.bindings
  bindings.toExcept kind.title

end ContextKind

end EntityScaffold
