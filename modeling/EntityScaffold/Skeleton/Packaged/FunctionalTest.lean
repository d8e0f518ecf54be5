import EntityScaffold.Skeleton.Packaged.Phrases

/-
The skeleton of the functional test. With write actions it walks through all of them, and otherwise
it asks for the index page.
-/

namespace EntityScaffold.Skeleton.Packaged

def functionalTest : Skeleton := [
  .assign "field_prefix" (.joined [
    .filtered .lower (.filtered (.replace '.' '_')
      (.joined [.name "namespace", .text "_", .name "entity"])),
    .text "type"]),
  lines [
    "<?php",
    ""],
  .text "namespace ",
  .emit (.nameSpace [.name "namespace", .text "Tests", .name "controller_namespace",
    .name "entity_namespace"]),
  .text ";\n",
  lines [
    "",
    "use Symfony\\Bundle\\FrameworkBundle\\Test\\WebTestCase;",
    ""],
  .text "class ",
  .emit (.name "entity_class"),
  .text "ControllerTest extends WebTestCase\n",
  lines [
    "\x7b",
    "    /*"],
  .branch (hasAction "new")
    [
      lines [
        "    public function testCompleteScenario()",
        "    \x7b",
        "        // Create a new client to browse the application",
        "        $client = static::createClient();",
        "",
        "        // Create a new entry in the database"],
      .text "        $crawler = $client->request('GET', '",
      .emit (.routePath (.name "route_prefix") (.text "index")),
      .text "');\n",
      .text "        $this->assertEquals(200, $client->getResponse()->getStatusCode(), \"Unexpected HTTP status code for GET ",
      .emit (.routePath (.name "route_prefix") (.text "index")),
      .text "\");\n",
      lines [
        "        $crawler = $client->click($crawler->selectLink('Create a new entry')->link());",
        "",
        "        // Fill in the form and submit it",
        "        $form = $crawler->selectButton('Create')->form(array("],
      each "field" (.name "fields") [
        .text "            // '",
        .emit (.name "field_prefix"),
        .text "[",
        .emit (.name "field"),
        .text "]'  => 'Test',\n"],
      lines [
        "        ));",
        "",
        "        $client->submit($form);",
        "        $crawler = $client->followRedirect();",
        "",
        "        // Check data in the show view",
        "        $this->assertGreaterThan(0, $crawler->filter('td:contains(\"Test\")')->count(), 'Missing element td:contains(\"Test\")');"],
      when (hasAction "edit") [
        lines [
          "",
          "        // Edit the entity",
          "        $crawler = $client->click($crawler->selectLink('Edit')->link());",
          "",
          "        $form = $crawler->selectButton('Edit')->form(array("],
        .text "            // '",
        .emit (.name "field_prefix"),
        .text "[field_name]'  => 'Foo',\n",
        lines [
          "        ));",
          "",
          "        $client->submit($form);",
          "        $crawler = $client->followRedirect();",
          "",
          "        // Check the element contains an attribute with value equals \"Foo\"",
          "        $this->assertGreaterThan(0, $crawler->filter('[value=\"Foo\"]')->count(), 'Missing element [value=\"Foo\"]');"]],
      when (hasAction "delete") [
        lines [
          "",
          "        // Delete the entity",
          "        $client->submit($crawler->selectButton('Delete')->form());",
          "        $crawler = $client->followRedirect();",
          "",
          "        // Check the entity has been deleted on the list",
          "        $this->assertNotRegExp('/Foo/', $client->getResponse()->getContent());"]],
      lines ["    \x7d"]]
    [
      lines [
        "    public function testIndex()",
        "    \x7b",
        "        $client = static::createClient();",
        ""],
      .text "        $crawler = $client->request('GET', '",
      .emit (.routePath (.name "route_prefix") (.text "index")),
      .text "');\n",
      .text "        $this->assertEquals(200, $client->getResponse()->getStatusCode(), \"Unexpected HTTP status code for GET ",
      .emit (.routePath (.name "route_prefix") (.text "index")),
      .text "\");\n",
      lines ["    \x7d"]],
  lines [
    "    */",
    "\x7d"]]

end EntityScaffold.Skeleton.Packaged
