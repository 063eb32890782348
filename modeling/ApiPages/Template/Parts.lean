import ApiPages.Template.Basic

/-!
# The parts that pages are made of

Each part is inserted where a page or another part names it, and is rendered
with the value that is current there. Positions are those of the tags in the
part as it is written.
-/

namespace ApiPages.Template

/-- The header of an article: category, name, badges, module and source. -/
def header : Template where
  name := "header"
  nodes := [
    .text "<header class=\"docs-reference-header\">\n  <span class=\"docs-reference-category\">",
    .value ⟨2, 41⟩ ["category"] .escaped,
    .text "</span>\n  <div class=\"docs-reference-title\">\n    <h1>",
    .value ⟨4, 9⟩ ["name"] .escaped,
    .text "</h1>\n    ",
    .given ⟨5, 5⟩ ["isDeprecated"] [
      .text "<span class=\"docs-deprecated-label\">Deprecated</span>"] [],
    .text "\n    ",
    .each ⟨6, 5⟩ ["badges"] [
      .text "<span class=\"docs-reference-badge\">",
      .value ⟨6, 56⟩ [] .escaped,
      .text "</span>"],
    .text "\n  </div>\n  ",
    .given ⟨8, 3⟩ ["moduleName"] [
      .text "<div class=\"docs-reference-module\"><code>",
      .value ⟨8, 62⟩ ["moduleName"] .escaped,
      .text "</code></div>"] [],
    .text "\n  ",
    .given ⟨9, 3⟩ ["source"] [
      .text "<div class=\"docs-reference-source\">",
      .value ⟨9, 52⟩ ["source", "filePath"] .escaped,
      .text ":",
      .value ⟨9, 72⟩ ["source", "startLine"] .escaped,
      .text "</div>"] [],
    .text "\n</header>\n",
    .given ⟨11, 1⟩ ["deprecationMessage"] [
      .text "<div class=\"docs-deprecation-message\">",
      .value ⟨11, 65⟩ ["deprecationMessage"] .asIs,
      .text "</div>\n"] []]

/-- The description, when there is one. -/
def description : Template where
  name := "description"
  nodes := [
    .given ⟨1, 1⟩ ["htmlDescription"] [
      .text "<section class=\"docs-reference-description\">\n",
      .value ⟨2, 1⟩ ["htmlDescription"] .asIs,
      .text "</section>\n"] []]

/-- The usage notes, when there are any. -/
def usageNotes : Template where
  name := "usage_notes"
  nodes := [
    .given ⟨1, 1⟩ ["htmlUsageNotes"] [
      .text "<section class=\"docs-usage-notes\">\n  <h2>Usage notes</h2>\n",
      .value ⟨3, 1⟩ ["htmlUsageNotes"] .asIs,
      .text "</section>\n"] []]

/-- References and examples, when there are any. -/
def footer : Template where
  name := "footer"
  nodes := [
    .given ⟨1, 1⟩ ["seeAlso"] [
      .text "<section class=\"docs-see-also\">\n  <h2>See also</h2>\n  <ul>\n    ",
      .each ⟨4, 5⟩ ["seeAlso"] [
        .text "<li>",
        .value ⟨4, 26⟩ [] .asIs,
        .text "</li>\n"],
      .text "  </ul>\n</section>\n"] [],
    .given ⟨9, 1⟩ ["examples"] [
      .text "<section class=\"docs-examples\">\n  <h2>Examples</h2>\n",
      .each ⟨11, 1⟩ ["examples"] [
        .value ⟨11, 19⟩ [] .asIs],
      .text "</section>\n"] []]

/-- One parameter of a signature. -/
def parameter : Template where
  name := "param"
  nodes := [
    .text "<div class=\"docs-param\">\n  <span class=\"docs-param-keyword\">@param</span>\n",
    .text "  <span class=\"docs-param-name\">",
    .given ⟨3, 33⟩ ["isRestParam"] [
      .text "..."] [],
    .value ⟨3, 62⟩ ["name"] .escaped,
    .given ⟨3, 70⟩ ["isOptional"] [
      .text "?"] [],
    .text "</span>\n  <code>",
    .value ⟨4, 9⟩ ["typeHtml"] .asIs,
    .text "</code>\n  ",
    .given ⟨5, 3⟩ ["htmlDescription"] [
      .text "<div class=\"docs-param-description\">",
      .value ⟨5, 62⟩ ["htmlDescription"] .asIs,
      .text "</div>"] [],
    .text "\n</div>\n"]

/-- One signature with its parameters and what it returns. -/
def signature : Template where
  name := "signature"
  nodes := [
    .text "<div class=\"docs-reference-signature",
    .given ⟨1, 37⟩ ["isDeprecated"] [
      .text " docs-reference-card-item-deprecated"] [],
    .text "\">\n  <pre class=\"docs-code\"><code>",
    .value ⟨2, 32⟩ ["code"] .asIs,
    .text "</code></pre>\n  ",
    .given ⟨3, 3⟩ ["isDeprecated"] [
      .text "<div class=\"docs-deprecated\"><span class=\"docs-deprecated-label\">Deprecated</span>",
      .given ⟨3, 105⟩ ["deprecationMessage"] [
        .text " <span>",
        .value ⟨3, 138⟩ ["deprecationMessage"] .asIs,
        .text "</span>"] [],
      .text "</div>"] [],
    .text "\n",
    .value ⟨4, 1⟩ ["htmlDescription"] .asIs,
    .text "\n",
    .each ⟨5, 1⟩ ["params"] [
      parameter.node],
    .text "\n  <div class=\"docs-return-type\">\n",
    .text "    <span class=\"docs-param-keyword\">@returns</span>\n    <code>",
    .value ⟨8, 11⟩ ["returnType"] .asIs,
    .text "</code>\n    ",
    .given ⟨9, 5⟩ ["returnsDescription"] [
      .text "<span>",
      .value ⟨9, 37⟩ ["returnsDescription"] .asIs,
      .text "</span>"] [],
    .text "\n  </div>\n",
    usageNotes.node,
    .text "</div>\n"]

/-- One member, or the overloads of a method. -/
def member : Template where
  name := "member"
  nodes := [
    .text "<div class=\"docs-reference-member",
    .given ⟨1, 34⟩ ["isDeprecated"] [
      .text " docs-reference-card-item-deprecated"] [],
    .text "\" id=\"",
    .value ⟨1, 103⟩ ["anchor"] .escaped,
    .text "\">\n  <div class=\"docs-reference-member-header\">\n    <h3>",
    .value ⟨3, 9⟩ ["name"] .escaped,
    .text "</h3>\n    <span class=\"docs-member-type\">",
    .value ⟨4, 36⟩ ["memberType"] .escaped,
    .text "</span>\n    ",
    .each ⟨5, 5⟩ ["tags"] [
      .text "<span class=\"docs-member-tag\">",
      .value ⟨5, 49⟩ [] .escaped,
      .text "</span>"],
    .text "\n    ",
    .given ⟨6, 5⟩ ["alias"] [
      .text "<span class=\"docs-member-alias\">alias: <code>",
      .value ⟨6, 63⟩ ["alias"] .escaped,
      .text "</code></span>"] [],
    .text "\n  </div>\n  ",
    .given ⟨8, 3⟩ ["typeHtml"] [
      .text "<code class=\"docs-member-type-value\">",
      .value ⟨8, 56⟩ ["typeHtml"] .asIs,
      .text "</code>"] [],
    .text "\n  ",
    .given ⟨9, 3⟩ ["value"] [
      .text "<code class=\"docs-member-value\">= ",
      .value ⟨9, 50⟩ ["value"] .escaped,
      .text "</code>"] [],
    .text "\n  ",
    .given ⟨10, 3⟩ ["deprecationMessage"] [
      .text "<div class=\"docs-deprecation-message\">",
      .value ⟨10, 67⟩ ["deprecationMessage"] .asIs,
      .text "</div>"] [],
    .text "\n",
    .value ⟨11, 1⟩ ["htmlDescription"] .asIs,
    .text "\n",
    .each ⟨12, 1⟩ ["overloads"] [
      signature.node],
    .text "\n</div>\n"]

/-- One option or argument of a command. -/
def commandOption : Template where
  name := "cli_option"
  nodes := [
    .text "<div class=\"docs-cli-option",
    .given ⟨1, 28⟩ ["isDeprecated"] [
      .text " docs-reference-card-item-deprecated"] [],
    .text "\" id=\"",
    .value ⟨1, 97⟩ ["name"] .escaped,
    .text "\">\n  <code class=\"docs-cli-option-name\">",
    .value ⟨2, 38⟩ ["displayName"] .escaped,
    .text "</code>\n  ",
    .each ⟨3, 3⟩ ["aliases"] [
      .text "<code class=\"docs-cli-option-alias\">",
      .value ⟨3, 56⟩ [] .escaped,
      .text "</code>"],
    .text "\n  ",
    .given ⟨4, 3⟩ ["type"] [
      .text "<span class=\"docs-cli-option-type\">",
      .value ⟨4, 50⟩ ["type"] .escaped,
      .text "</span>"] [],
    .text "\n  ",
    .given ⟨5, 3⟩ ["htmlDescription"] [
      .text "<div class=\"docs-cli-option-description\">",
      .value ⟨5, 67⟩ ["htmlDescription"] .asIs,
      .text "</div>"] [],
    .text "\n  ",
    .given ⟨6, 3⟩ ["default"] [
      .text "<div class=\"docs-cli-option-default\">Default: <code>",
      .value ⟨6, 70⟩ ["default"] .escaped,
      .text "</code></div>"] [],
    .text "\n  ",
    .given ⟨7, 3⟩ ["allowedValues"] [
      .text "<div class=\"docs-cli-option-values\">Allowed values: ",
      .each ⟨7, 76⟩ ["allowedValues"] [
        .text "<code>",
        .value ⟨7, 105⟩ [] .escaped,
        .text "</code>",
        .unlessLast [
          .text ", "]],
      .text "</div>"] [],
    .text "\n  ",
    .given ⟨8, 3⟩ ["deprecationMessage"] [
      .text "<div class=\"docs-deprecation-message\">",
      .value ⟨8, 67⟩ ["deprecationMessage"] .asIs,
      .text "</div>"] [],
    .text "\n</div>\n"]

/-- What the pages of commands and subcommands share. -/
def commandBody : Template where
  name := "cli_body"
  nodes := [
    .text "<div class=\"docs-reference-label\" data-type=\"command\">",
    .value ⟨1, 55⟩ ["body", "label"] .escaped,
    .text "</div>\n<pre class=\"docs-code\"><code>",
    .value ⟨2, 30⟩ ["body", "command"] .escaped,
    .text "</code></pre>\n",
    .given ⟨3, 1⟩ ["body", "aliases"] [
      .text "<div class=\"docs-cli-aliases\"><span>Aliases</span>",
      .each ⟨3, 71⟩ ["body", "aliases"] [
        .text " <code>",
        .value ⟨3, 100⟩ [] .escaped,
        .text "</code>"],
      .text "</div>\n"] [],
    description.node,
    .given ⟨6, 1⟩ ["body", "arguments"] [
      .text "<section class=\"docs-cli-arguments\">\n  <h2>Arguments</h2>\n",
      .each ⟨8, 1⟩ ["body", "arguments"] [
        commandOption.node],
      .text "\n</section>\n"] [],
    .given ⟨11, 1⟩ ["body", "options"] [
      .text "<section class=\"docs-cli-options\">\n  <h2>Options</h2>\n",
      .each ⟨13, 1⟩ ["body", "options"] [
        commandOption.node],
      .text "\n</section>\n"] []]

end ApiPages.Template
