import ApiPages.Text.Alphanumeric
import ApiPages.Text.Blank
import ApiPages.Text.Bytes

/-!
# Languages of code

A fence names the language of its code. The grammars of the highlighter
are known by their names and by the endings of files; for a language
without a grammar another one may stand in (`retarget`), and then only the
name of the language changes in what the fence says.
-/

namespace ApiPages.Markdown

/-- A grammar of the highlighter. -/
structure Grammar where
  name : String
  /-- What all of its code is. -/
  scope : String
  /-- The endings of the files that it is for. -/
  endings : List (List Char)

namespace Grammar

/-- A grammar with its endings between blanks. -/
def row (name scope endings : String) : Grammar := ⟨name, scope, Text.words endings.toList⟩

/-- The grammar of text that is in no language. -/
def plainText : Grammar := row "Plain Text" "text.plain" "txt"

/-- The grammars that are known. -/
def all : List Grammar := [
  plainText,
  row "ASP" "source.asp" "asa",
  row "HTML (ASP)" "text.html.asp" "asp",
  row "ActionScript" "source.actionscript.2" "as",
  row "AppleScript" "source.applescript" "applescript",
  row "Batch File" "source.dosbatch" "bat cmd",
  row "NAnt Build File" "source.nant-build" "build",
  row "C#" "source.cs" "cs csx",
  row "C++" "source.c++" "cpp cc cp cxx c++ hh hpp hxx h++ inl ipp",
  row "C" "source.c" "c h",
  row "CSS" "source.css" "css css.erb css.liquid",
  row "Clojure" "source.clojure" "clj cljc cljs edn",
  row "D" "source.d" "d di",
  row "Diff" "source.diff" "diff patch",
  row "Erlang" "source.erlang" "erl hrl emakefile escript",
  row "HTML (Erlang)" "text.html.erlang.yaws" "yaws",
  row "Git Attributes" "text.git.attributes" "attributes gitattributes .gitattributes",
  row "Git Commit" "text.git.commit" "COMMIT_EDITMSG MERGE_MSG TAG_EDITMSG",
  row "Git Config" "text.git.config" "gitconfig .gitconfig .gitmodules",
  row "Git Ignore" "text.git.ignore" "exclude gitignore .gitignore",
  row "Git Link" "text.git.link" ".git",
  row "Git Log" "text.git.log" "gitlog",
  row "Git Mailmap" "text.git.mailmap" ".mailmap mailmap",
  row "Git Rebase Todo" "text.git.rebase" "git-rebase-todo",
  row "Go" "source.go" "go",
  row "Graphviz (DOT)" "source.dot" "dot gv",
  row "Groovy" "source.groovy" "groovy gvy gradle Jenkinsfile",
  row "HTML" "text.html.basic" "html htm shtml xhtml inc tmpl tpl",
  row "Haskell" "source.haskell" "hs",
  row "Literate Haskell" "text.tex.latex.haskell" "lhs",
  row "JSON" "source.json" ("json sublime-settings sublime-menu sublime-keymap " ++
    "sublime-mousemap sublime-theme sublime-build sublime-project sublime-completions " ++
    "sublime-commands sublime-macro sublime-color-scheme"),
  row "Java Server Page (JSP)" "text.html.jsp" "jsp",
  row "Java" "source.java" "java bsh",
  row "JavaDoc" "text.html.javadoc" "",
  row "Java Properties" "source.java-props" "properties",
  row "JavaScript" "source.js" "js htc",
  row "BibTeX" "text.bibtex" "bib",
  row "LaTeX Log" "text.log.latex" "",
  row "LaTeX" "text.tex.latex" "tex ltx",
  row "TeX" "text.tex" "sty cls",
  row "Lisp" "source.lisp" "lisp cl clisp l mud el scm ss lsp fasl",
  row "Lua" "source.lua" "lua",
  row "Make Output" "source.build_output" "",
  row "Makefile" "source.makefile" "make GNUmakefile makefile OCamlMakefile mak mk",
  row "Markdown" "text.html.markdown" "md mdown markdown markdn",
  row "MultiMarkdown" "text.html.markdown.multimarkdown" "",
  row "MATLAB" "source.matlab" "matlab",
  row "OCaml" "source.ocaml" "ml mli",
  row "OCamllex" "source.ocamllex" "mll",
  row "OCamlyacc" "source.ocamlyacc" "mly",
  row "camlp4" "source.camlp4.ocaml" "",
  row "Objective-C++" "source.objc++" "mm",
  row "Objective-C" "source.objc" "m",
  row "PHP Source" "source.php" "",
  row "PHP" "embedding.php" "php php3 php4 php5 php7 phps phpt phtml",
  row "Pascal" "source.pascal" "pas p dpr",
  row "Perl" "source.perl" "pl pm pod t",
  row "Python" "source.python" ("py py3 pyw pyi pyx pyx.in pxd pxd.in pxi pxi.in rpy cpy " ++
    "SConstruct SConscript gyp gypi Snakefile wscript"),
  row "R Console" "source.r-console" "",
  row "R" "source.r" "r s Rprofile",
  row "Rd (R Documentation)" "text.tex.latex.rd" "rd",
  row "HTML (Rails)" "text.html.ruby" "rails rhtml erb html.erb",
  row "JavaScript (Rails)" "source.js.rails" "js.erb",
  row "Ruby Haml" "text.haml" "haml sass",
  row "Ruby on Rails" "source.ruby.rails" "rxml builder",
  row "SQL (Rails)" "source.sql.ruby" "erbsql sql.erb",
  row "Regular Expression" "source.regexp" "re",
  row "reStructuredText" "text.restructuredtext" "rst rest",
  row "Ruby" "source.ruby" ("rb Appfile Appraisals Berksfile Brewfile capfile cgi Cheffile " ++
    "config.ru Deliverfile Fastfile fcgi Gemfile gemspec Guardfile irbrc jbuilder podspec " ++
    "prawn rabl rake Rakefile Rantfile rbx rjs ruby.rail Scanfile simplecov Snapfile thor " ++
    "Thorfile Vagrantfile"),
  row "Cargo Build Results" "source.build_output" "",
  row "Rust" "source.rust" "rs",
  row "SQL" "source.sql" "sql ddl dml",
  row "Scala" "source.scala" "scala sbt",
  row "Bourne Again Shell (bash)" "source.shell.bash" ("sh bash zsh fish .bash_aliases " ++
    ".bash_completions .bash_functions .bash_login .bash_logout .bash_profile " ++
    ".bash_variables .bashrc .profile .textmate_init"),
  row "HTML (Tcl)" "text.html.tcl" "adp",
  row "Tcl" "source.tcl" "tcl",
  row "Textile" "text.html.textile" "textile",
  row "XML" "text.xml" "xml xsd xslt tld dtml rss opml svg",
  row "YAML" "source.yaml" "yaml yml sublime-syntax"]

/-- The grammar of a language, which is an ending or a name, whatever the
case. -/
def find? (language : List Char) : Option Grammar :=
  (all.find? fun g => g.endings.any (Text.eqIgnoringAsciiCase · language)).or
    (all.find? fun g => Text.eqIgnoringAsciiCase g.name.toList language)

end Grammar

/-- Whether there is a grammar for a language. -/
def hasGrammar (language : String) : Bool := (Grammar.find? language.toList).isSome

/-- Languages, each with the one whose grammar stands in for it. -/
abbrev StandIns := List (List Char × List Char)

/-- The languages that other grammars may stand in for. -/
def candidates : StandIns :=
  [("typescript", "js"), ("ts", "js"), ("tsx", "js"), ("mts", "js"), ("angular-ts", "js"),
    ("angular-html", "html")].map fun (language, other) => (language.toList, other.toList)

/-- The languages that need another grammar and find one. -/
def standIns : StandIns :=
  candidates.filter fun (language, other) =>
    (Grammar.find? language).isNone && (Grammar.find? other).isSome

/-- The language that stands in for a fence's own, which is the first word of
what it says, and the byte at which its own ends. Nothing when the fence names
none that needs that. -/
def standIn? (table : StandIns) (info : List Char) : Option (List Char × Nat) := do
  let language ← (Text.words info).head?
  let (_, other) ← table.find? fun (wanted, _) => Text.eqIgnoringAsciiCase wanted language
  let start ← Text.byteIndex? language info
  return (other, start + Text.byteLength language)

/-- What a fence says, with another language in the place of its own; nothing
when none stands in. -/
def retarget (table : StandIns) (info : List Char) :
    Except Text.BadCut (Option (List Char)) :=
  match standIn? table info with
  | none => .ok none
  | some (other, stop) => (Text.fromByte stop info).map fun rest => some (other ++ rest)

end ApiPages.Markdown
