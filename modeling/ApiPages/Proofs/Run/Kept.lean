import ApiPages.Markdown.Standard
import ApiPages.Proofs.Files.Directories
import ApiPages.Proofs.Run.Accounting

/-!
# What a run leaves of its pages

The plan keeps page names apart as texts, while a tree keeps files apart by
their places, and two names can lead to one place. `Holds` is what every
step of a run preserves: each path that was written reads the HTML of some
entry whose path leads to the same place. So a page is kept exactly when all
that was written to its place is the same. Nothing makes that so: the last
section is a run on two input documents that loses a page.
-/

namespace ApiPages.Run

open Files (Disk Tree Place placeOf)

/-! ## One entry -/

/-- A write changes the tree as it should, or leaves it as it was. -/
theorem writeTo_tree_cases (path : String) (html : Html) (t : Tree) :
    (∃ t', t.write path html = .ok t' ∧ writeTo Disk.ofTree path html t = (.ok path, t'))
    ∨ ∃ reason, writeTo Disk.ofTree path html t = (.error (.write path reason), t) := by
  rw [writeTo, bind_run]
  cases hwrite : t.write path html with
  | ok t' =>
    have hstep : Disk.ofTree.write path html t = (.ok (), t') := by
      simp only [Disk.ofTree, Files.keep, hwrite]
    rw [hstep]
    exact Or.inl ⟨t', rfl, rfl⟩
  | error e =>
    have hstep : Disk.ofTree.write path html t = (.error e, t) := by
      simp only [Disk.ofTree, Files.keep, hwrite]
    rw [hstep]
    exact Or.inr ⟨_, rfl⟩

/-- A page is written after the parents of its path were made. -/
theorem writePage_eq (out page : String) (html : Html) (t : Tree) :
    writePage Disk.ofTree out page html t =
      match Files.parents (Files.join out page) with
      | [] => writeTo Disk.ofTree (Files.join out page) html t
      | parent :: around =>
        match Disk.ofTree.makeFirst (parent :: around) t with
        | (.error e, t₁) => (.error (.write parent e.message), t₁)
        | (.ok (), t₁) => writeTo Disk.ofTree (Files.join out page) html t₁ := by
  dsimp only [writePage]
  cases hparents : Files.parents (Files.join out page) with
  | nil => rfl
  | cons parent around =>
    dsimp only [List.head?_cons]
    rw [Disk.makeDirectories, Files.parents_of_eq_cons hparents, bind_run]
    rcases Disk.ofTree.makeFirst (parent :: around) t with ⟨outcome, t₁⟩
    cases outcome <;> rfl

/-- Directories are made for a page, at the places of its path's parents, and
then it may be written. -/
theorem writePage_tree_cases (out page : String) (html : Html) (t : Tree) :
    let places := (Files.parents (Files.join out page)).map (placeOf t.current)
    (∃ t₁ t', t.AddsOnly places t₁ ∧ t₁.write (Files.join out page) html = .ok t'
      ∧ writePage Disk.ofTree out page html t = (.ok (Files.join out page), t'))
    ∨ ∃ path reason t', t.AddsOnly places t'
      ∧ writePage Disk.ofTree out page html t = (.error (.write path reason), t') := by
  have hadds := Files.addsOnly_makeFirst (Files.parents (Files.join out page)) t
  rw [writePage_eq]
  dsimp only
  generalize Files.parents (Files.join out page) = paths at hadds ⊢
  cases paths with
  | nil =>
    rcases writeTo_tree_cases (Files.join out page) html t with ⟨t', hok, hrun⟩ | ⟨reason, hrun⟩
    · exact Or.inl ⟨t, t', .refl _ t, hok, hrun⟩
    · exact Or.inr ⟨_, reason, t, .refl _ t, hrun⟩
  | cons parent around =>
    dsimp only
    generalize Disk.ofTree.makeFirst (parent :: around) t = made at hadds ⊢
    obtain ⟨outcome, t₁⟩ := made
    cases outcome with
    | error e => exact Or.inr ⟨parent, e.message, t₁, hadds, rfl⟩
    | ok u =>
      rcases writeTo_tree_cases (Files.join out page) html t₁
        with ⟨t', hok, hrun⟩ | ⟨reason, hrun⟩
      · exact Or.inl ⟨t₁, t', hadds, hok, hrun⟩
      · exact Or.inr ⟨_, reason, t₁, hadds, hrun⟩

/-- All that publishing an entry does to a tree: directories are made, and
its page may be written after them. -/
theorem publish_tree_cases (ctx : Article.Context) (style : PageStyle) (out : String)
    (item : Item) (t : Tree) :
    (∃ page html t₁ t', draft ctx style item = .ok (page, html) ∧ t.Keeps t₁
      ∧ t₁.write (Files.join out page) html = .ok t'
      ∧ publish Disk.ofTree out ctx style item t = (.ok (Files.join out page), t'))
    ∨ ∃ f t', t.Keeps t' ∧ publish Disk.ofTree out ctx style item t = (.error f, t') := by
  unfold publish
  cases hdraft : draft ctx style item with
  | error f => exact Or.inr ⟨f, t, .refl t, rfl⟩
  | ok both =>
    obtain ⟨page, html⟩ := both
    rcases writePage_tree_cases out page html t
      with ⟨t₁, t', hadds, hok, hrun⟩ | ⟨path, reason, t', hadds, hrun⟩
    · exact Or.inl ⟨page, html, t₁, t', rfl, hadds.keeps, hok, hrun⟩
    · exact Or.inr ⟨.write path reason, t', hadds.keeps, hrun⟩

/-! ## All entries -/

/-- Whether some HTML is the draft of one of some entries, for a path. -/
def IsDrafted (ctx : Article.Context) (style : PageStyle) (out : String) (items : List Item)
    (path : String) (html : Html) : Prop :=
  ∃ item ∈ items, ∃ page, path = Files.join out page ∧ draft ctx style item = .ok (page, html)

/-- Whether every path that was written reads what is the draft for a
written path to the same place. -/
def Holds (drafted : String → Html → Prop) (t : Tree) (written : List String) : Prop :=
  ∀ p ∈ written, ∃ q ∈ written, ∃ html, drafted q html
    ∧ placeOf t.current q = placeOf t.current p ∧ t.read p = .ok html

namespace Holds

variable {drafted : String → Html → Prop} {t t' : Tree} {written : List String}

/-- Nothing is lost while nothing is replaced. -/
theorem of_keeps (h : Holds drafted t written) (hkeeps : t.Keeps t') :
    Holds drafted t' written := by
  intro p hp
  obtain ⟨q, hq, html, hdrafted, hplace, hread⟩ := h p hp
  exact ⟨q, hq, html, hdrafted, by rw [hkeeps.current, hplace], Tree.read_of_keeps hkeeps hread⟩

/-- A page that is written takes the place of those that led there. -/
theorem of_write (h : Holds drafted t written) {path : String} {html : Html}
    (hwrite : t.write path html = .ok t') (hpath : drafted path html) :
    Holds drafted t' (written ++ [path]) := by
  have hcurrent : t'.current = t.current := (Tree.grows_of_write hwrite).current
  have hlast : path ∈ written ++ [path] := by simp
  intro p hp
  rcases List.mem_append.mp hp with hp | hp
  · obtain ⟨q, hq, held, hdrafted, hplace, hread⟩ := h p hp
    have hnow := Tree.read_of_write hwrite hread
    by_cases hsame : placeOf t.current p = placeOf t.current path
    · rw [if_pos hsame] at hnow
      exact ⟨path, hlast, html, hpath, by rw [hcurrent, hsame], hnow⟩
    · rw [if_neg hsame] at hnow
      exact ⟨q, List.mem_append_left _ hq, held, hdrafted, by rw [hcurrent, hplace], hnow⟩
  · obtain rfl := List.mem_singleton.mp hp
    exact ⟨p, hlast, html, hpath, rfl, Tree.read_of_write_self hwrite⟩

end Holds

/-- Publishing entries one by one keeps `Holds`, and the working
directory. -/
theorem publishEach_holds {ctx : Article.Context} {style : PageStyle} {all : List Item} :
    ∀ {more : List Item} {r r' : Report} {t t' : Tree}, (∀ item ∈ more, item ∈ all) →
      publishEach Disk.ofTree ctx style r more t = (.ok r', t') →
      Holds (IsDrafted ctx style r.out all) t r.written →
      Holds (IsDrafted ctx style r.out all) t' r'.written ∧ t'.current = t.current
  | [], r, r', t, t', _, hrun, h => by
    cases hrun
    exact ⟨h, rfl⟩
  | item :: more, r, r', t, t', hall, hrun, h => by
    have hmore : ∀ item ∈ more, item ∈ all := fun x hx => hall x (List.mem_cons_of_mem _ hx)
    rw [publishEach, bind_run] at hrun
    rcases publish_tree_cases ctx style r.out item t with
      ⟨page, html, t₁, t₂, hdraft, hkeeps, hwrite, hstep⟩ | ⟨f, t₂, hkeeps, hstep⟩
    · rw [hstep] at hrun
      have hdrafted : IsDrafted ctx style r.out all (Files.join r.out page) html :=
        ⟨item, hall item List.mem_cons_self, page, rfl, hdraft⟩
      obtain ⟨hend, hcurrent⟩ :=
        publishEach_holds (r := r.wrote (Files.join r.out page)) hmore hrun
          ((h.of_keeps hkeeps).of_write hwrite hdrafted)
      refine ⟨hend, hcurrent.trans ?_⟩
      rw [(Tree.grows_of_write hwrite).current, hkeeps.current]
    · rw [hstep] at hrun
      dsimp only at hrun
      split at hrun
      · obtain ⟨hend, hcurrent⟩ :=
          publishEach_holds (r := r.failed item f) hmore hrun (h.of_keeps hkeeps)
        exact ⟨hend, hcurrent.trans hkeeps.current⟩
      · cases hrun

variable {markdown : Markdown.Engine} {style : PageStyle} {out : String} {cs : List Collection}
  {t t' : Tree} {r : Report}

/-- After a run, `Holds` is true of all that it wrote. -/
theorem holds_of_publishAll
    (h : publishAll Disk.ofTree markdown style out cs t = (.ok r, t')) :
    Holds (IsDrafted (Article.Context.ofRun markdown cs) style out (items cs)) t' r.written
      ∧ t'.current = t.current := by
  have hmade := Files.addsOnly_makeDirectories out t
  unfold publishAll prepare at h
  simp only [bind_run] at h
  generalize Disk.ofTree.makeDirectories out t = made at h hmade
  obtain ⟨outcome, t₁⟩ := made
  cases outcome with
  | error e => cases h
  | ok u =>
    have hnone : Holds (IsDrafted (Article.Context.ofRun markdown cs) style out (items cs)) t₁ [] :=
      fun p hp => by cases hp
    obtain ⟨hend, hcurrent⟩ :=
      publishEach_holds (r := ⟨out, [], []⟩) (fun item hitem => hitem) h hnone
    exact ⟨hend, hcurrent.trans hmade.current⟩

/-! ## Pages kept and lost -/

/-- A run leaves at every path that it wrote the page of the entry whose path
it is, exactly when entries whose paths were written and lead to one place
have the same HTML. -/
theorem publishAll_keeps_iff (markdown : Markdown.Engine) (style : PageStyle) (out : String)
    (cs : List Collection) (t : Tree) :
    let ctx := Article.Context.ofRun markdown cs
    (∀ r t', publishAll Disk.ofTree markdown style out cs t = (.ok r, t') →
      ∀ item ∈ items cs, ∀ page html, draft ctx style item = .ok (page, html) →
        Files.join out page ∈ r.written → t'.read (Files.join out page) = .ok html)
    ↔ ∀ r t', publishAll Disk.ofTree markdown style out cs t = (.ok r, t') →
      ∀ a ∈ items cs, ∀ b ∈ items cs, ∀ p q x y,
        draft ctx style a = .ok (p, x) → draft ctx style b = .ok (q, y) →
        Files.join out p ∈ r.written → Files.join out q ∈ r.written →
        placeOf t.current (Files.join out p) = placeOf t.current (Files.join out q) → x = y := by
  intro ctx
  constructor
  · intro hkept r t' hrun a ha b hb p q x y hp hq hpWritten hqWritten hplace
    obtain ⟨-, hcurrent⟩ := holds_of_publishAll hrun
    exact Tree.read_eq_of_placeOf_eq (hkept r t' hrun a ha p x hp hpWritten)
      (hkept r t' hrun b hb q y hq hqWritten) (by rw [hcurrent, hplace])
  · intro hsame r t' hrun item hitem page html hdraft hwritten
    obtain ⟨hholds, hcurrent⟩ := holds_of_publishAll hrun
    obtain ⟨_, hqWritten, held, ⟨other, hother, q, rfl, hq⟩, hplace, hread⟩ :=
      hholds _ hwritten
    rw [hcurrent] at hplace
    rw [hread, hsame r t' hrun item hitem other hother page q html held hdraft hq hwritten
      hqWritten hplace.symm]

/-- A working directory with two inputs, the commands `a` and `./a`. -/
def sharedInput : Tree :=
  ⟨[(["w"], .directory),
    (["w", "a.json"], .file (some "\x7b\"name\": \"a\", \"command\": \"a\"\x7d")),
    (["w", "b.json"], .file (some "\x7b\"name\": \"./a\", \"command\": \"a\"\x7d"))], ["w"]⟩

/-- Commands named `a` and `./a` have two pages and one file. -/
theorem exists_page_replaced :
    ∃ cs t r t', readAll Disk.ofTree ["a.json", "b.json"] sharedInput = (.ok cs, t)
      ∧ publishAll Disk.ofTree true .fragment "out" cs t = (.ok r, t')
      ∧ ∃ item ∈ items cs, ∃ page html,
        draft (Article.Context.ofRun true cs) .fragment item = .ok (page, html)
        ∧ Files.join "out" page ∈ r.written ∧ t'.read (Files.join "out" page) ≠ .ok html := by
  have hruns : (match readAll Disk.ofTree ["a.json", "b.json"] sharedInput with
    | (.ok cs, t) =>
      match publishAll Disk.ofTree true .fragment "out" cs t with
      | (.ok r, t') => (items cs).any fun item =>
        match draft (Article.Context.ofRun true cs) .fragment item with
        | .ok (page, html) => decide (Files.join "out" page ∈ r.written
            ∧ t'.read (Files.join "out" page) ≠ .ok html)
        | .error _ => false
      | _ => false
    | _ => false) = true := by decide +kernel
  split at hruns
  · next cs t hread =>
    split at hruns
    · next r t' hrun =>
      obtain ⟨item, hitem, hlost⟩ := List.any_eq_true.mp hruns
      split at hlost
      · next page html hdraft =>
        exact ⟨cs, t, r, t', hread, hrun, item, hitem, page, html, hdraft, of_decide_eq_true hlost⟩
      · cases hlost
    · cases hruns
  · cases hruns

end ApiPages.Run
