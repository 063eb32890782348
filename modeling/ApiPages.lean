import ApiPages.Main
import ApiPages.Sample
import ApiPages.Proofs.Article.CommandLinks
import ApiPages.Proofs.Article.CodeLines
import ApiPages.Proofs.Article.Deprecations
import ApiPages.Proofs.Article.FlatFunctions
import ApiPages.Proofs.Article.SymbolLinks
import ApiPages.Proofs.Collection.Parent
import ApiPages.Proofs.Page.Plan
import ApiPages.Proofs.Run.Accounting
import ApiPages.Proofs.Run.Below
import ApiPages.Proofs.Run.Kept
import ApiPages.Proofs.Run.Links
import ApiPages.Proofs.Collection.Append
import ApiPages.Proofs.Run.Inputs
import ApiPages.Proofs.Template.Shape
import ApiPages.Proofs.Text.Markup
import ApiPages.Proofs.Template.Fits
import ApiPages.Proofs.Article.Outline
import ApiPages.Proofs.Article.Rendering
import ApiPages.Proofs.Article.Listing
import ApiPages.Proofs.Article.MemberLinks
import ApiPages.Proofs.Article.Others
import ApiPages.Proofs.Entry.Change
import ApiPages.Proofs.Entry.Identity
import ApiPages.Proofs.Entry.RoundTrip
import ApiPages.Proofs.Article.Overloads
import ApiPages.Proofs.Link.Anchor
import ApiPages.Proofs.Link.First
import ApiPages.Proofs.Link.Later
import ApiPages.Proofs.Run.Without
import ApiPages.Proofs.Run.Success
import ApiPages.Proofs.Page.Claim
import ApiPages.Proofs.Link.Embedding
import ApiPages.Proofs.Link.Rewriting
import ApiPages.Proofs.Article.SubcommandList
import ApiPages.Proofs.Article.CommandOptions
import ApiPages.Proofs.Run.OneFile
import ApiPages.Proofs.Run.CommandLine
import ApiPages.Proofs.Run.Parameters
import ApiPages.Proofs.Link.Slug
import ApiPages.Proofs.Markdown.Alternation
import ApiPages.Proofs.Markdown.Paragraph
import ApiPages.Proofs.Markdown.StandIns
