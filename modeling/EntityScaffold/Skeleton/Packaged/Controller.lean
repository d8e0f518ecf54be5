import EntityScaffold.Skeleton.Packaged.Phrases

/-
The controller skeleton and the skeletons of its actions. The controller includes one skeleton for
each action; they share the names that the controller assigns. Routes are declared as annotations
only when the format asks for that.
-/

namespace EntityScaffold.Skeleton.Packaged

/-- The class file around the actions. -/
def controller : Skeleton := [
  .assign "entity_ref" (.joined [.name "bundle", .text ":", entityWith '\\']),
  .assign "view_ref" (.joined [.name "bundle", .text ":", entityWith '/']),
  .assign "annotated" (.equals (.name "format") "annotation"),
  .assign "class_route" (.routeBase (.name "route_prefix")),
  lines [
    "<?php",
    ""],
  .text "namespace ",
  .emit (.nameSpace [.name "namespace", .name "controller_namespace", .name "entity_namespace"]),
  .text ";\n",
  lines [
    "",
    "use Symfony\\Bundle\\FrameworkBundle\\Controller\\Controller;",
    "use Symfony\\Component\\HttpFoundation\\Request;"],
  when (.name "annotated") [
    lines [
      "use Sensio\\Bundle\\FrameworkExtraBundle\\Configuration\\Method;",
      "use Sensio\\Bundle\\FrameworkExtraBundle\\Configuration\\Route;",
      "use Sensio\\Bundle\\FrameworkExtraBundle\\Configuration\\Template;"]],
  .text "use ",
  .emit (.nameSpace [.name "namespace", .text "Entity", .name "entity"]),
  .text ";\n",
  when (.either (hasAction "new") (hasAction "edit")) [
    .text "use ",
    .emit (.nameSpace [.name "namespace", .text "Form",
        .joined [.name "entity", .text "Type"]]),
    .text ";\n"],
  lines [
    "",
    "/**"],
  .text " * ",
  .emit (.name "entity_class"),
  .text " controller.\n",
  when (.name "annotated") [
    lines [" *"],
    .text " * @Route(\"",
    .emit (.name "class_route"),
    .text "\")\n"],
  lines [" */"],
  .text "class ",
  .emit (.name "entity_class"),
  .text "Controller extends Controller\n",
  lines ["\x7b"],
  each "action" (.name "actions") [
    .include (.joined [.text "actions/", .name "action"]),
    when (.negated .isLast) [
      lines [""]]],
  lines ["\x7d"]]

def indexAction : Skeleton := [
  lines ["    /**"],
  .text "     * Lists all ",
  .emit (.name "entity_class"),
  .text " entities.\n",
  when (.name "annotated") [
    lines ["     *"],
    .text "     * @Route(\"/\", name=\"",
    .emit (routeTo (.text "index")),
    .text "\")\n",
    lines [
      "     * @Method(\"GET\")",
      "     * @Template()"]],
  lines [
    "     */",
    "    public function indexAction()",
    "    \x7b",
    "        $em = $this->getDoctrine()->getManager();",
    ""],
  .text "        $entities = $em->getRepository('",
  .emit (.name "entity_ref"),
  .text "')->findAll();\n",
  lines [""],
  .branch (.name "annotated")
    [
      lines [
        "        return array(",
        "            'entities' => $entities,",
        "        );"]]
    [
      .text "        return $this->render('",
      .emit (.name "view_ref"),
      .text ":index.html.twig', array(\n",
      lines [
        "            'entities' => $entities,",
        "        ));"]],
  lines ["    \x7d"]]

def showAction : Skeleton := [
  lines ["    /**"],
  .text "     * Finds and displays a ",
  .emit (.name "entity_class"),
  .text " entity.\n",
  when (.name "annotated") [
    lines ["     *"],
    .text "     * @Route(\"/\x7bid\x7d/show\", name=\"",
    .emit (routeTo (.text "show")),
    .text "\")\n",
    lines [
      "     * @Method(\"GET\")",
      "     * @Template()"]],
  lines [
    "     */",
    "    public function showAction($id)",
    "    \x7b",
    "        $em = $this->getDoctrine()->getManager();",
    ""],
  .text "        $entity = $em->getRepository('",
  .emit (.name "entity_ref"),
  .text "')->find($id);\n",
  lines [
    "",
    "        if (!$entity) \x7b"],
  .text "            throw $this->createNotFoundException('Unable to find ",
  .emit (.name "entity_class"),
  .text " entity.');\n",
  lines ["        \x7d"],
  when (hasAction "delete") [
    lines [
      "",
      "        $deleteForm = $this->createDeleteForm($id);"]],
  lines [""],
  .branch (.name "annotated")
    [
      lines [
        "        return array(",
        "            'entity'      => $entity,"],
      when (hasAction "delete") [
        lines ["            'delete_form' => $deleteForm->createView(),"]],
      lines ["        );"]]
    [
      .text "        return $this->render('",
      .emit (.name "view_ref"),
      .text ":show.html.twig', array(\n",
      lines ["            'entity'      => $entity,"],
      when (hasAction "delete") [
        lines ["            'delete_form' => $deleteForm->createView(),"]],
      lines ["        ));"]],
  lines ["    \x7d"]]

def newAction : Skeleton := [
  lines ["    /**"],
  .text "     * Displays a form to create a new ",
  .emit (.name "entity_class"),
  .text " entity and handles its submission.\n",
  when (.name "annotated") [
    lines ["     *"],
    .text "     * @Route(\"/new\", name=\"",
    .emit (routeTo (.text "new")),
    .text "\")\n",
    lines [
      "     * @Method(\x7b\"GET\", \"POST\"\x7d)",
      "     * @Template()"]],
  lines [
    "     */",
    "    public function newAction(Request $request)",
    "    \x7b"],
  .text "        $entity = new ",
  .emit (.name "entity_class"),
  .text "();\n",
  .text "        $form   = $this->createForm(new ",
  .emit (.name "entity_class"),
  .text "Type(), $entity);\n",
  lines [
    "        $form->handleRequest($request);",
    "",
    "        if ($form->isSubmitted() && $form->isValid()) \x7b",
    "            $em = $this->getDoctrine()->getManager();",
    "            $em->persist($entity);",
    "            $em->flush();",
    ""],
  .branch (hasAction "show")
    [
      .text "            return $this->redirect($this->generateUrl('",
      .emit (routeTo (.text "show")),
      .text "', array('id' => $entity->getId())));\n"]
    [
      .text "            return $this->redirect($this->generateUrl('",
      .emit (routeTo (.text "index")),
      .text "'));\n"],
  lines [
    "        \x7d",
    ""],
  .branch (.name "annotated")
    [
      lines [
        "        return array(",
        "            'entity' => $entity,",
        "            'form'   => $form->createView(),",
        "        );"]]
    [
      .text "        return $this->render('",
      .emit (.name "view_ref"),
      .text ":new.html.twig', array(\n",
      lines [
        "            'entity' => $entity,",
        "            'form'   => $form->createView(),",
        "        ));"]],
  lines ["    \x7d"]]

def editAction : Skeleton := [
  lines ["    /**"],
  .text "     * Displays a form to edit an existing ",
  .emit (.name "entity_class"),
  .text " entity and handles its submission.\n",
  when (.name "annotated") [
    lines ["     *"],
    .text "     * @Route(\"/\x7bid\x7d/edit\", name=\"",
    .emit (routeTo (.text "edit")),
    .text "\")\n",
    lines [
      "     * @Method(\x7b\"GET\", \"POST\"\x7d)",
      "     * @Template()"]],
  lines [
    "     */",
    "    public function editAction(Request $request, $id)",
    "    \x7b",
    "        $em = $this->getDoctrine()->getManager();",
    ""],
  .text "        $entity = $em->getRepository('",
  .emit (.name "entity_ref"),
  .text "')->find($id);\n",
  lines [
    "",
    "        if (!$entity) \x7b"],
  .text "            throw $this->createNotFoundException('Unable to find ",
  .emit (.name "entity_class"),
  .text " entity.');\n",
  lines [
    "        \x7d",
    ""],
  .text "        $editForm   = $this->createForm(new ",
  .emit (.name "entity_class"),
  .text "Type(), $entity);\n",
  lines [
    "        $deleteForm = $this->createDeleteForm($id);",
    "        $editForm->handleRequest($request);",
    "",
    "        if ($editForm->isSubmitted() && $editForm->isValid()) \x7b",
    "            $em->flush();",
    ""],
  .text "            return $this->redirect($this->generateUrl('",
  .emit (routeTo (.text "edit")),
  .text "', array('id' => $id)));\n",
  lines [
    "        \x7d",
    ""],
  .branch (.name "annotated")
    [
      lines [
        "        return array(",
        "            'entity'      => $entity,",
        "            'edit_form'   => $editForm->createView(),",
        "            'delete_form' => $deleteForm->createView(),",
        "        );"]]
    [
      .text "        return $this->render('",
      .emit (.name "view_ref"),
      .text ":edit.html.twig', array(\n",
      lines [
        "            'entity'      => $entity,",
        "            'edit_form'   => $editForm->createView(),",
        "            'delete_form' => $deleteForm->createView(),",
        "        ));"]],
  lines ["    \x7d"]]

def deleteAction : Skeleton := [
  lines ["    /**"],
  .text "     * Deletes a ",
  .emit (.name "entity_class"),
  .text " entity.\n",
  when (.name "annotated") [
    lines ["     *"],
    .text "     * @Route(\"/\x7bid\x7d/delete\", name=\"",
    .emit (routeTo (.text "delete")),
    .text "\")\n",
    lines ["     * @Method(\x7b\"POST\", \"DELETE\"\x7d)"]],
  lines [
    "     */",
    "    public function deleteAction(Request $request, $id)",
    "    \x7b",
    "        $form = $this->createDeleteForm($id);",
    "        $form->handleRequest($request);",
    "",
    "        if ($form->isSubmitted() && $form->isValid()) \x7b",
    "            $em = $this->getDoctrine()->getManager();"],
  .text "            $entity = $em->getRepository('",
  .emit (.name "entity_ref"),
  .text "')->find($id);\n",
  lines [
    "",
    "            if (!$entity) \x7b"],
  .text "                throw $this->createNotFoundException('Unable to find ",
  .emit (.name "entity_class"),
  .text " entity.');\n",
  lines [
    "            \x7d",
    "",
    "            $em->remove($entity);",
    "            $em->flush();",
    "        \x7d",
    ""],
  .text "        return $this->redirect($this->generateUrl('",
  .emit (routeTo (.text "index")),
  .text "'));\n",
  lines [
    "    \x7d",
    "",
    "    private function createDeleteForm($id)",
    "    \x7b",
    "        return $this->createFormBuilder(array('id' => $id))",
    "            ->add('id', 'hidden')",
    "            ->getForm()",
    "        ;",
    "    \x7d"]]

end EntityScaffold.Skeleton.Packaged
