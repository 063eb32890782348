import ApiPages.Proofs.Link.Spelling

/-!
# What references turn into

Only a reference is rewritten. A text is copied as long as no reference begins
in it, and none begins where there is no `opening`; so a text is cut at its
first one (`resolveChars_copy`). What a reference turns into hangs on its
target, its shown label, whether it is a plain one, and on the link that its
site has for the target.
-/

namespace ApiPages.Link

open Text (trimWhile)

/-- What all words of references begin with. -/
def opening : List Char := "\x7b@link".toList

section

variable {cs before rest : List Char} {r : Reference} {site : Site}

end

/-! ## The Markdown of a reference -/

/-- The symbol of a reference. -/
def Reference.symbol (r : Reference) : String :=
  String.ofList (r.target.takeWhile fun c => c != '.' && c != '#')

namespace Reference

variable {site : Site} {page : String}

end Reference

/-! ## Texts -/

end ApiPages.Link
