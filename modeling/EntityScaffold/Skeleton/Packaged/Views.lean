import EntityScaffold.Skeleton.Packaged.Phrases

/-
The skeletons of the five views. A view shows the fields in their order; a field of a date type is
printed through a date filter. The new and the edit view include the form.
-/

namespace EntityScaffold.Skeleton.Packaged

/-- The heading of each field. -/
def headings : Piece := each "field" (.name "fields") [
  .text "            <th>",
  .emit (.filtered .humanize (.name "field")),
  .text "</th>\n"]

/-- The value of each field; the first one leads to the page of the record. -/
def cells : Piece := .eachEntry "field" "type" (.name "fields") [
  .branch isMoment
    [
      .assign "value" (.joined [.text "entity.", .name "field", .text " is not null ? entity.",
        .name "field", .text dateFilter])]
    [
      .assign "value" (.joined [.text "entity.", .name "field"])],
  .branch (.both .isFirst (.contains (.name "record_actions") "show"))
    [
      .text "            <td><a href=\"",
      .emit (rowLinkTo (.text "show")),
      .text "\">",
      .emit (printed (.name "value")),
      .text "</a></td>\n"]
    [
      .text "            <td>",
      .emit (printed (.name "value")),
      .text "</td>\n"]]

/-- A link for each action on a row. -/
def rowLinks : Piece := each "action" (.name "record_actions") [
  lines ["                    <li>"],
  .text "                        <a href=\"",
  .emit (rowLinkTo (.name "action")),
  .text "\">",
  .emit (.name "action"),
  .text "</a>\n",
  lines ["                    </li>"]]

/-- The table of all records, with links for the actions on a row. -/
def indexView : Skeleton := [
  .emit (tag "extends '::base.html.twig'"),
  .text "\n",
  lines [""],
  .emit (tag "block body"),
  .text "\n",
  .text "<h1>",
  .emit (entityWith ' '),
  .text " list</h1>\n",
  lines [
    "",
    "<table class=\"records_list\">",
    "    <thead>",
    "        <tr>"],
  headings,
  when (.name "record_actions") [
    lines ["            <th>Actions</th>"]],
  lines [
    "        </tr>",
    "    </thead>",
    "    <tbody>"],
  .text "    ",
  .emit (tag "for entity in entities"),
  .text "\n",
  lines ["        <tr>"],
  cells,
  when (.name "record_actions") [
    lines [
      "            <td>",
      "                <ul>"],
    rowLinks,
    lines [
      "                </ul>",
      "            </td>"]],
  lines ["        </tr>"],
  .text "    ",
  .emit (tag "endfor"),
  .text "\n",
  lines [
    "    </tbody>",
    "</table>"],
  when (hasAction "new") [
    lines [
      "",
      "<ul>",
      "    <li>"],
    .text "        <a href=\"",
    .emit (linkTo (.text "new")),
    .text "\">\n",
    lines [
      "            Create a new entry",
      "        </a>",
      "    </li>",
      "</ul>"]],
  .emit (tag "endblock"),
  .text "\n"]

/-- The heading and the value of each field. -/
def rows : Piece := .eachEntry "field" "type" (.name "fields") [
  .branch isMoment
    [
      .assign "value" (.joined [.text "entity.", .name "field", .text dateFilter])]
    [
      .assign "value" (.joined [.text "entity.", .name "field"])],
  lines ["        <tr>"],
  .text "            <th>",
  .emit (.filtered .humanize (.name "field")),
  .text "</th>\n",
  .text "            <td>",
  .emit (printed (.name "value")),
  .text "</td>\n",
  lines ["        </tr>"]]

/-- The table of the fields of one record. -/
def showView : Skeleton := [
  .emit (tag "extends '::base.html.twig'"),
  .text "\n",
  lines [""],
  .emit (tag "block body"),
  .text "\n",
  .text "<h1>",
  .emit (entityWith ' '),
  .text "</h1>\n",
  lines [
    "",
    "<table class=\"record_properties\">",
    "    <tbody>"],
  rows,
  lines [
    "    </tbody>",
    "</table>",
    "",
    "<ul class=\"record_actions\">",
    "    <li>"],
  .text "        <a href=\"",
  .emit (linkTo (.text "index")),
  .text "\">\n",
  lines [
    "            Back to the list",
    "        </a>",
    "    </li>"],
  when (hasAction "edit") [
    lines ["    <li>"],
    .text "        <a href=\"",
    .emit (rowLinkTo (.text "edit")),
    .text "\">\n",
    lines [
      "            Edit",
      "        </a>",
      "    </li>"]],
  when (hasAction "delete") [
    lines ["    <li>"],
    .text "        <form action=\"",
    .emit (rowLinkTo (.text "delete")),
    .text "\" method=\"post\">\n",
    .text "            ",
    .emit (printed (.text "form_widget(delete_form)")),
    .text "\n",
    lines [
      "            <button type=\"submit\">Delete</button>",
      "        </form>",
      "    </li>"]],
  lines ["</ul>"],
  .emit (tag "endblock"),
  .text "\n"]

/-- The page around the form of a new record. -/
def newView : Skeleton := [
  .emit (tag "extends '::base.html.twig'"),
  .text "\n",
  lines [""],
  .emit (tag "block body"),
  .text "\n",
  .text "<h1>",
  .emit (entityWith ' '),
  .text " creation</h1>\n",
  lines [""],
  .text "<form action=\"",
  .emit (linkTo (.text "new")),
  .text "\" method=\"post\" ",
  .emit (printed (.text "form_enctype(form)")),
  .text ">\n",
  .text "    ",
  .emit (formIncludedWith "form"),
  .text "\n",
  lines [
    "    <p>",
    "        <button type=\"submit\">Create</button>",
    "    </p>",
    "</form>",
    "",
    "<ul class=\"record_actions\">",
    "    <li>"],
  .text "        <a href=\"",
  .emit (linkTo (.text "index")),
  .text "\">\n",
  lines [
    "            Back to the list",
    "        </a>",
    "    </li>",
    "</ul>"],
  .emit (tag "endblock"),
  .text "\n"]

/-- The page around the form of an existing record. -/
def editView : Skeleton := [
  .emit (tag "extends '::base.html.twig'"),
  .text "\n",
  lines [""],
  .emit (tag "block body"),
  .text "\n",
  .text "<h1>",
  .emit (entityWith ' '),
  .text " edit</h1>\n",
  lines [""],
  .text "<form action=\"",
  .emit (rowLinkTo (.text "edit")),
  .text "\" method=\"post\" ",
  .emit (printed (.text "form_enctype(edit_form)")),
  .text ">\n",
  .text "    ",
  .emit (formIncludedWith "edit_form"),
  .text "\n",
  lines [
    "    <p>",
    "        <button type=\"submit\">Edit</button>",
    "    </p>",
    "</form>",
    "",
    "<ul class=\"record_actions\">",
    "    <li>"],
  .text "        <a href=\"",
  .emit (linkTo (.text "index")),
  .text "\">\n",
  lines [
    "            Back to the list",
    "        </a>",
    "    </li>"],
  when (hasAction "delete") [
    lines ["    <li>"],
    .text "        <form action=\"",
    .emit (rowLinkTo (.text "delete")),
    .text "\" method=\"post\">\n",
    .text "            ",
    .emit (printed (.text "form_widget(delete_form)")),
    .text "\n",
    lines [
      "            <button type=\"submit\">Delete</button>",
      "        </form>",
      "    </li>"]],
  lines ["</ul>"],
  .emit (tag "endblock"),
  .text "\n"]

/-- The row of each field but the identifier. -/
def inputs : Piece := each "field" (.name "fields") [
  when (.negated (.equals (.name "field") "id")) [
    .emit (printed (.joined [.text "form_row(form.", .name "field", .text ")"])),
    .text "\n"]]

/-- The rows of the form, one for each field but the identifier. -/
def formView : Skeleton := [
  .emit (printed (.text "form_errors(form)")),
  .text "\n",
  inputs,
  .emit (printed (.text "form_rest(form)")),
  .text "\n"]

end EntityScaffold.Skeleton.Packaged
