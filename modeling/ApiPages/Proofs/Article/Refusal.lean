import ApiPages.Article.Html
import ApiPages.Proofs.Article.Nameless

/-!
# How an entry fails

Nothing can go wrong before an article is rendered but that its entry is
refused, and rendering adds only the faults of templates. None of these ends a
run, and none is a failure to write.
-/

namespace ApiPages

/-- A failure that says what is wrong with an entry. -/
def Failure.IsRefusal : Failure → Prop
  | unsupported .. | malformed .. => True
  | _ => False

namespace Article

/-! ## Articles -/

namespace Context

variable (ctx : Context)

/-- An entry without an article is refused. -/
theorem article_failsWith (place : Place) (moduleName : String) (e : Entry) :
    FailsWith Failure.IsRefusal (ctx.article place moduleName e) := by
  refine (ctx.article_failsExactly place moduleName e).failsWith.mono fun f h => ?_
  cases h with
  | unknown | malformed | nameless => trivial

/-- Only entries that can have a page have an article. -/
theorem isRenderable_of_article {place : Place} {moduleName : String} {e : Entry} {a : Article}
    (h : ctx.article place moduleName e = .ok a) : e.isRenderable = true := by
  cases e with
  | unknown name tag raw => cases h
  | malformed name tag reason => cases h
  | _ => rfl

end Context

/-! ## Pages -/

theorem renderTemplate_failsWith (t : Template) (data : Json) :
    FailsWith (fun f => ∃ reason, f = .template reason) (renderTemplate t data) := by
  unfold renderTemplate
  cases t.render data with
  | ok html => exact .ok html
  | error fault => exact .error ⟨fault.message, rfl⟩

/-- An article that cannot be rendered meets a fault of a template. -/
theorem render_failsWith (style : PageStyle) (a : Article) :
    FailsWith (fun f => ∃ reason, f = .template reason) (a.render style) := by
  refine .bind (renderTemplate_failsWith _ _) fun fragment => ?_
  split
  · exact renderTemplate_failsWith _ _
  · exact .ok fragment

end Article

end ApiPages
