import ApiPages.Template.Parts

/-!
# The pages

One page for each kind of article, and the document that a standalone page
is wrapped in. `all` lists every template by its name.
-/

namespace ApiPages.Template

/-- The page of a class or interface. -/
def classPage : Template where
  name := "class"
  nodes := [
    .text "<article class=\"docs-reference docs-reference-",
    .value ⟨1, 47⟩ ["entryType"] .escaped,
    .text "\">\n",
    header.node,
    .text "<section class=\"docs-reference-api\">\n  <pre class=\"docs-code\"><code>",
    .value ⟨4, 32⟩ ["body", "declaration"] .asIs,
    .text "</code></pre>\n  ",
    .given ⟨5, 3⟩ ["body", "selector"] [
      .text "<div class=\"docs-reference-selector\"><span>Selector</span> <code>",
      .value ⟨5, 89⟩ ["body", "selector"] .escaped,
      .text "</code></div>"] [],
    .text "\n  ",
    .given ⟨6, 3⟩ ["body", "exportAs"] [
      .text "<div class=\"docs-reference-export-as\"><span>Exported as</span>",
      .each ⟨6, 86⟩ ["body", "exportAs"] [
        .text " <code>",
        .value ⟨6, 116⟩ [] .escaped,
        .text "</code>"],
      .text "</div>"] [],
    .text "\n  ",
    .given ⟨7, 3⟩ ["body", "pipeName"] [
      .text "<div class=\"docs-reference-pipe-name\"><span>Pipe name</span> <code>",
      .value ⟨7, 91⟩ ["body", "pipeName"] .escaped,
      .text "</code></div>"] [],
    .text "\n  ",
    .given ⟨8, 3⟩ ["body", "isStandalone"] [
      .text "<span class=\"docs-reference-standalone\">standalone</span>"] [],
    .text "\n</section>\n",
    description.node,
    .given ⟨11, 1⟩ ["body", "members"] [
      .text "<section class=\"docs-reference-members\">\n  <h2>API</h2>\n",
      .each ⟨13, 1⟩ ["body", "members"] [
        member.node],
      .text "\n</section>\n"] [],
    usageNotes.node,
    footer.node,
    .text "</article>\n"]

/-- The page of a function. -/
def functionPage : Template where
  name := "function"
  nodes := [
    .text "<article class=\"docs-reference docs-reference-function\">\n",
    header.node,
    description.node,
    .text "<section class=\"docs-reference-signatures",
    .given ⟨4, 42⟩ ["body", "isOverloaded"] [
      .text " docs-reference-overloaded"] [],
    .text "\">\n",
    .each ⟨5, 1⟩ ["body", "overloads"] [
      signature.node],
    .text "\n</section>\n",
    usageNotes.node,
    footer.node,
    .text "</article>\n"]

/-- The page of an initializer API. -/
def initializerApiPage : Template where
  name := "initializer_api"
  nodes := [
    .text "<article class=\"docs-reference docs-reference-initializer-api\">\n",
    header.node,
    description.node,
    .text "<section class=\"docs-reference-signatures\" id=\"",
    .value ⟨4, 48⟩ ["body", "call", "anchor"] .escaped,
    .text "\">\n  <h2>",
    .value ⟨5, 7⟩ ["body", "call", "name"] .escaped,
    .text "</h2>\n",
    .each ⟨6, 1⟩ ["body", "call", "overloads"] [
      signature.node],
    .text "\n</section>\n",
    .each ⟨8, 1⟩ ["body", "subFunctions"] [
      .text "<section class=\"docs-reference-signatures\" id=\"",
      .value ⟨8, 75⟩ ["anchor"] .escaped,
      .text "\">\n  <h2>",
      .value ⟨9, 7⟩ ["name"] .escaped,
      .text "</h2>\n",
      .each ⟨10, 1⟩ ["overloads"] [
        signature.node],
      .text "\n</section>\n"],
    usageNotes.node,
    footer.node,
    .text "</article>\n"]

/-- The page of a constant. -/
def constantPage : Template where
  name := "constant"
  nodes := [
    .text "<article class=\"docs-reference docs-reference-constant\">\n",
    header.node,
    .text "<section class=\"docs-reference-api\">\n  <pre class=\"docs-code\"><code>",
    .value ⟨4, 32⟩ ["body", "code"] .asIs,
    .text "</code></pre>\n</section>\n",
    description.node,
    usageNotes.node,
    footer.node,
    .text "</article>\n"]

/-- The page of a type alias. -/
def typeAliasPage : Template where
  name := "type_alias"
  nodes := [
    .text "<article class=\"docs-reference docs-reference-type-alias\">\n",
    header.node,
    .text "<section class=\"docs-reference-api\">\n  <pre class=\"docs-code\"><code>",
    .value ⟨4, 32⟩ ["body", "code"] .asIs,
    .text "</code></pre>\n</section>\n",
    description.node,
    usageNotes.node,
    footer.node,
    .text "</article>\n"]

/-- The page of an enum. -/
def enumPage : Template where
  name := "enum"
  nodes := [
    .text "<article class=\"docs-reference docs-reference-enum\">\n",
    header.node,
    description.node,
    .given ⟨4, 1⟩ ["body", "members"] [
      .text "<section class=\"docs-reference-members\">\n  <h2>Members</h2>\n",
      .each ⟨6, 1⟩ ["body", "members"] [
        member.node],
      .text "\n</section>\n"] [],
    usageNotes.node,
    footer.node,
    .text "</article>\n"]

/-- The page of a decorator. -/
def decoratorPage : Template where
  name := "decorator"
  nodes := [
    .text "<article class=\"docs-reference docs-reference-decorator\">\n",
    header.node,
    .text "<div class=\"docs-reference-placement\">",
    .value ⟨3, 39⟩ ["body", "placement"] .escaped,
    .text "</div>\n",
    description.node,
    .given ⟨5, 1⟩ ["body", "members"] [
      .text "<section class=\"docs-reference-members\">\n  <h2>Options</h2>\n",
      .each ⟨7, 1⟩ ["body", "members"] [
        member.node],
      .text "\n</section>\n"] [],
    usageNotes.node,
    footer.node,
    .text "</article>\n"]

/-- The page of a block or element. -/
def blockPage : Template where
  name := "block"
  nodes := [
    .text "<article class=\"docs-reference docs-reference-",
    .value ⟨1, 47⟩ ["entryType"] .escaped,
    .text "\">\n",
    header.node,
    description.node,
    usageNotes.node,
    footer.node,
    .text "</article>\n"]

/-- The page of a root command. -/
def commandPage : Template where
  name := "cli_command"
  nodes := [
    .text "<article class=\"docs-reference docs-reference-cli\">\n",
    header.node,
    commandBody.node,
    .given ⟨4, 1⟩ ["body", "subcommands"] [
      .text "<section class=\"docs-cli-subcommands\">\n  <h2>Subcommands</h2>\n  <ul>\n    ",
      .each ⟨7, 5⟩ ["body", "subcommands"] [
        .text "<li>",
        .given ⟨7, 35⟩ ["href"] [
          .text "<a href=\"",
          .value ⟨7, 56⟩ ["href"] .escaped,
          .text "\">",
          .value ⟨7, 66⟩ ["name"] .escaped,
          .text "</a>"] [
          .text "<code>",
          .value ⟨7, 92⟩ ["name"] .escaped,
          .text "</code>"],
        .given ⟨7, 114⟩ ["htmlDescription"] [
          .text " ",
          .value ⟨7, 138⟩ ["htmlDescription"] .asIs] [],
        .text "</li>\n"],
      .text "  </ul>\n</section>\n"] [],
    footer.node,
    .text "</article>\n"]

/-- The page of a subcommand. -/
def subcommandPage : Template where
  name := "cli_subcommand"
  nodes := [
    .text "<article class=\"docs-reference docs-reference-cli docs-reference-cli-subcommand\">\n",
    .given ⟨2, 1⟩ ["body", "parent"] [
      .text "<nav class=\"docs-breadcrumb\"><a href=\"",
      .value ⟨2, 58⟩ ["body", "parent", "href"] .escaped,
      .text "\">",
      .value ⟨2, 80⟩ ["body", "parent", "name"] .escaped,
      .text "</a> / <span>",
      .value ⟨2, 113⟩ ["name"] .escaped,
      .text "</span></nav>\n"] [],
    header.node,
    commandBody.node,
    .given ⟨6, 1⟩ ["body", "subcommands"] [
      .text "<section class=\"docs-cli-subcommands\">\n  <h2>Subcommands</h2>\n  <ul>\n    ",
      .each ⟨9, 5⟩ ["body", "subcommands"] [
        .text "<li><code>",
        .value ⟨9, 41⟩ ["name"] .escaped,
        .text "</code>",
        .given ⟨9, 56⟩ ["htmlDescription"] [
          .text " ",
          .value ⟨9, 80⟩ ["htmlDescription"] .asIs] [],
        .text "</li>\n"],
      .text "  </ul>\n</section>\n"] [],
    footer.node,
    .text "</article>\n"]

/-- A complete document around an article. -/
def documentPage : Template where
  name := "page"
  nodes := [
    .text "<!DOCTYPE html>\n<html lang=\"en\">\n<head>\n    <meta charset=\"UTF-8\">\n",
    .text "    <meta name=\"viewport\" content=\"width=device-width, initial-scale=1.0\">\n",
    .text "    <title>",
    .value ⟨6, 12⟩ ["title"] .escaped,
    .text "</title>\n",
    .given ⟨7, 1⟩ ["stylesheet"] [
      .text "    <link rel=\"stylesheet\" href=\"",
      .value ⟨7, 52⟩ ["stylesheet"] .escaped,
      .text "\">\n"] [],
    .text "</head>\n<body>\n",
    .value ⟨10, 1⟩ ["body"] .asIs,
    .text "\n<footer>\n    <p>Generated by ",
    .value ⟨12, 21⟩ ["generator"] .escaped,
    .text "</p>\n</footer>\n</body>\n</html>\n"]

/-- Every template, parts first. -/
def all : List Template := [
  header,
  description,
  usageNotes,
  footer,
  parameter,
  signature,
  member,
  commandOption,
  commandBody,
  classPage,
  functionPage,
  initializerApiPage,
  constantPage,
  typeAliasPage,
  enumPage,
  decoratorPage,
  blockPage,
  commandPage,
  subcommandPage,
  documentPage]

/-- The template of a name. -/
def find? (name : String) : Option Template := all.find? (·.name == name)

end ApiPages.Template
