import EntityScaffold.Skeleton.Packaged.Phrases

/-
The skeletons of the routing file, one for each format that has a file. Each declares one route for
an action, with its name, its path, its methods and the controller that answers it.
-/

namespace EntityScaffold.Skeleton.Packaged

/-- Routes as entries of a YAML mapping. -/
def yamlRouting : Skeleton := [
  each "action" (.name "actions") [
    .emit (routeTo (.name "action")),
    .text ":\n",
    .text "    path:     ",
    .emit (.routePath (.name "route_prefix") (.name "action")),
    .text "\n",
    .text "    defaults: \x7b _controller: '",
    .emit (.name "bundle"),
    .text ":",
    .emit (entityWith '/'),
    .text ":",
    .emit (.name "action"),
    .text "' \x7d\n",
    .branch (.oneOf (.name "action") ["new", "edit"])
      [
        lines ["    methods:  [GET, POST]"]]
      [
        .branch (.equals (.name "action") "delete")
          [
            lines ["    methods:  [POST, DELETE]"]]
          [
            lines ["    methods:  [GET]"]]],
    when (.negated .isLast) [
      lines [""]]]]

/-- Routes as XML elements. -/
def xmlRouting : Skeleton := [
  lines [
    "<?xml version=\"1.0\" encoding=\"UTF-8\" ?>",
    "",
    "<routes xmlns=\"http://symfony.com/schema/routing\"",
    "    xmlns:xsi=\"http://www.w3.org/2001/XMLSchema-instance\"",
    "    xsi:schemaLocation=\"http://symfony.com/schema/routing http://symfony.com/schema/routing/routing-1.0.xsd\">",
    ""],
  each "action" (.name "actions") [
    .branch (.oneOf (.name "action") ["new", "edit"])
      [
        .assign "methods" (.text "GET|POST")]
      [
        .branch (.equals (.name "action") "delete")
          [
            .assign "methods" (.text "POST|DELETE")]
          [
            .assign "methods" (.text "GET")]],
    .text "    <route id=\"",
    .emit (routeTo (.name "action")),
    .text "\" path=\"",
    .emit (.routePath (.name "route_prefix") (.name "action")),
    .text "\" methods=\"",
    .emit (.name "methods"),
    .text "\">\n",
    .text "        <default key=\"_controller\">",
    .emit (.name "bundle"),
    .text ":",
    .emit (entityWith '/'),
    .text ":",
    .emit (.name "action"),
    .text "</default>\n",
    lines [
      "    </route>",
      ""]],
  lines ["</routes>"]]

/-- Routes as statements that fill a collection. -/
def phpRouting : Skeleton := [
  lines [
    "<?php",
    "",
    "use Symfony\\Component\\Routing\\RouteCollection;",
    "use Symfony\\Component\\Routing\\Route;",
    "",
    "$collection = new RouteCollection();",
    ""],
  each "action" (.name "actions") [
    .branch (.oneOf (.name "action") ["new", "edit"])
      [
        .assign "methods" (.text "'GET', 'POST'")]
      [
        .branch (.equals (.name "action") "delete")
          [
            .assign "methods" (.text "'POST', 'DELETE'")]
          [
            .assign "methods" (.text "'GET'")]],
    .text "$collection->add('",
    .emit (routeTo (.name "action")),
    .text "', new Route('",
    .emit (.routePath (.name "route_prefix") (.name "action")),
    .text "', array(\n",
    .text "    '_controller' => '",
    .emit (.name "bundle"),
    .text ":",
    .emit (entityWith '/'),
    .text ":",
    .emit (.name "action"),
    .text "',\n",
    .text "), array(), array(), '', array(), array(",
    .emit (.name "methods"),
    .text ")));\n",
    lines [""]],
  lines ["return $collection;"]]

end EntityScaffold.Skeleton.Packaged
