import ApiPages.Link.Index
import ApiPages.Proofs.Files.Place
import ApiPages.Proofs.Link.Percent

/-!
# Following links

A link takes its steps out of the directories that its page lies in, and
then the path of another page. `LinksTo` says how many steps a link takes
and which page it names; `follow?` says where it leads from the page that it
stands on. The two agree when the steps are as many as the directories, and
these are what their names say (`follow?_link`).
-/

namespace ApiPages

namespace Text

/-- A list has one piece more than separators. -/
theorem length_splitOn {α : Type} [DecidableEq α] (sep : α) (cs : List α) :
    (splitOn sep cs).length = cs.count sep + 1 := by
  induction cs with
  | nil => rfl
  | cons c cs ih =>
    obtain ⟨piece, more, hpieces⟩ := List.exists_cons_of_ne_nil (splitOn_ne_nil sep cs)
    rw [hpieces, List.length_cons] at ih
    by_cases hc : c = sep
    · simp [splitOn, hc, hpieces, ih]
    · simp [splitOn, hc, hpieces, ih]

end Text

namespace Files

/-- The directories that a path names on its way. -/
def directories (path : String) : List String := (segments path).dropLast

/-- As many steps back as there are names lead back to the start. -/
theorem resolve_back {names : List String} (h : ∀ name ∈ names, isName name = true)
    (place : Place) : resolve place (names ++ List.replicate names.length "..") = place := by
  induction names generalizing place with
  | nil => rfl
  | cons name names ih =>
    have hback (place : Place) : enter place ".." = place.dropLast := by
      simp [enter, isIdle]
    rw [List.length_cons, List.replicate_succ', List.cons_append, ← List.append_assoc, resolve_cons,
      resolve_append, ih fun n hn => h n (List.mem_cons_of_mem _ hn),
      enter_of_isName (h name List.mem_cons_self), resolve_cons, resolve_nil, hback,
      List.dropLast_concat]

end Files

namespace Page

/-- A page is as deep as there are directories around it. -/
theorem length_directories (page : String) : (Files.directories page).length = depth page := by
  rw [Files.directories, List.length_dropLast, Files.segments, List.length_map, Text.length_splitOn,
    Nat.add_sub_cancel, depth]

end Page

namespace Link

/-! ## Steps -/

/-- From one level deeper it takes one step more. -/
theorem steps_succ (d : Nat) : steps (d + 1) = "../" ++ steps d := by
  rw [steps, List.replicate_succ, String.join_cons]
  rfl

/-- Steps go before the segments of what follows them. -/
theorem splitOn_steps (d : Nat) (cs : List Char) :
    Text.splitOn '/' ((steps d).toList ++ cs)
      = List.replicate d "..".toList ++ Text.splitOn '/' cs := by
  induction d with
  | zero => rfl
  | succ d ih =>
    have hstep : (steps (d + 1)).toList ++ cs = "..".toList ++ '/' :: ((steps d).toList ++ cs) := by
      rw [steps_succ, String.toList_append, List.append_assoc]
      rfl
    rw [hstep, Text.splitOn_append_cons, ih, List.replicate_succ]
    rfl

/-- What follows the steps, when it takes no more of them, says how many
there are. -/
theorem steps_inj {d d' : Nat} {path path' : String}
    (hpath : ¬ "../".toList <+: path.toList) (hpath' : ¬ "../".toList <+: path'.toList)
    (h : steps d ++ path = steps d' ++ path') : d = d' ∧ path = path' := by
  -- One more step on one side alone would begin the other side's path.
  have hstep : ∀ (k : Nat) (more : String), "../".toList <+: (steps (k + 1) ++ more).toList := by
    intro k more
    rw [steps_succ, String.append_assoc, String.toList_append]
    exact List.prefix_append _ _
  induction d generalizing d' with
  | zero =>
    cases d' with
    | zero => exact ⟨rfl, by simpa [steps] using h⟩
    | succ d' => exact absurd (h ▸ hstep d' path') (by simpa [steps] using hpath)
  | succ d ih =>
    cases d' with
    | zero => exact absurd (h ▸ hstep d path) (by simpa [steps] using hpath')
    | succ d' =>
      rw [steps_succ, steps_succ, String.append_assoc, String.append_assoc] at h
      obtain ⟨rfl, hsame⟩ := ih (String.append_right_inj _ |>.mp h)
      exact ⟨rfl, hsame⟩

/-! ## Links -/

/-- A link without the anchor on the page that it leads to. -/
def withoutAnchor (href : String) : String := String.ofList (href.toList.takeWhile (· != '#'))

/-- Whether a text ends a link: there is none, or it is an anchor. -/
def IsAnchor (tail : String) : Prop := tail = "" ∨ ∃ name, tail = "#" ++ name

/-- Whether a link takes exactly a number of steps and then names a page. -/
def LinksTo (href : String) (d : Nat) (page : String) : Prop :=
  ∃ path, withoutAnchor href = steps d ++ path ∧ ¬ "../".toList <+: path.toList
    ∧ decodePath? path = some page

/-- The place that a link leads to from the page it stands on, given the
place that pages are relative to. -/
def follow? (base : Files.Place) (page href : String) : Option Files.Place :=
  (decodePath? (withoutAnchor href)).map fun path =>
    Files.resolve base (Files.directories page ++ Files.segments path)

/-- The characters of steps and an encoded path. -/
theorem mem_link {d : Nat} {page : String} {c : Char}
    (h : c ∈ (steps d ++ encodePath page).toList) : isUnreserved c = true ∨ c = '%' ∨ c = '/' := by
  rw [String.toList_append, List.mem_append] at h
  rcases h with h | h
  · rw [steps, String.toList_join] at h
    obtain ⟨step, hstep, hc⟩ := List.mem_flatMap.mp h
    obtain rfl := List.eq_of_mem_replicate hstep
    have hc : c = '.' ∨ c = '/' := by simpa using hc
    rcases hc with rfl | rfl
    · exact Or.inl (by decide)
    · exact Or.inr (Or.inr rfl)
  · exact mem_encodePath h

/-- Neither steps nor encoded paths hold what begins an anchor. -/
theorem withoutAnchor_link (d : Nat) (page : String) {tail : String} (h : IsAnchor tail) :
    withoutAnchor (steps d ++ encodePath page ++ tail) = steps d ++ encodePath page := by
  have hplain : ∀ c ∈ (steps d ++ encodePath page).toList, (c != '#') = true := by
    rintro c hc
    rw [bne_iff_ne]
    rintro rfl
    rcases mem_link hc with h | h | h
    · revert h
      decide
    · simp at h
    · simp at h
  have htail : tail.toList.takeWhile (· != '#') = [] := by
    rcases h with rfl | ⟨name, rfl⟩
    · rfl
    · rw [String.toList_append]
      rfl
  rw [withoutAnchor, String.toList_append, List.takeWhile_append_of_pos hplain, htail,
    List.append_nil, String.ofList_toList]

/-- The path of a link is its steps and the page. -/
theorem decodePath?_steps (d : Nat) (page : String) :
    decodePath? (steps d ++ encodePath page) = some (steps d ++ page) := by
  have hsteps : (List.replicate d "..".toList).map (fun piece => piece.flatMap percentChar)
      = List.replicate d "..".toList := by
    rw [List.map_replicate]
    rfl
  have hpieces : Text.splitOn '/' (steps d ++ encodePath page).toList
      = (Text.splitOn '/' (steps d ++ page).toList).map fun piece => piece.flatMap percentChar := by
    rw [String.toList_append, splitOn_steps, splitOn_encodePath, String.toList_append,
      splitOn_steps, List.map_append, hsteps]
  rw [decodePath?, hpieces, mapM_decodeSegment?, Option.map_some, Text.joinWith_splitOn,
    String.ofList_toList]

/-- A page that lies below the output directory is not encoded as a step. -/
theorem not_prefix_encodePath {page : String}
    (h : (Text.splitOn '/' page.toList).head? ≠ some "..".toList) :
    ¬ "../".toList <+: (encodePath page).toList := by
  rintro ⟨more, hmore⟩
  have hpieces := splitOn_encodePath page
  have hfirst :
      Text.splitOn '/' (encodePath page).toList = "..".toList :: Text.splitOn '/' more := by
    rw [← hmore]
    exact Text.splitOn_append_cons '/' "..".toList more
  rw [hfirst] at hpieces
  obtain ⟨piece, rest, hown⟩ := List.exists_cons_of_ne_nil (Text.splitOn_ne_nil '/' page.toList)
  rw [hown, List.map_cons] at hpieces
  -- Only the two dots are encoded as two dots.
  have hdecode : decodeSegment? "..".toList = some "..".toList := decodeSegment?_flatMap "..".toList
  rw [(List.cons.inj hpieces).1, decodeSegment?_flatMap] at hdecode
  exact h (by rw [hown, List.head?_cons, hdecode, ← (List.cons.inj hpieces).1])

/-- A link takes as many steps as it is made with, and no other number. -/
theorem linksTo_iff {d d' : Nat} {page tail : String} (htail : IsAnchor tail)
    (hpage : (Text.splitOn '/' page.toList).head? ≠ some "..".toList) :
    LinksTo (steps d ++ encodePath page ++ tail) d' page ↔ d = d' := by
  constructor
  · rintro ⟨path, hpath, hdown, -⟩
    rw [withoutAnchor_link d page htail] at hpath
    exact (steps_inj (not_prefix_encodePath hpage) hdown hpath).1
  · rintro rfl
    exact ⟨encodePath page, withoutAnchor_link d page htail, not_prefix_encodePath hpage,
      decodePath?_encodePath page⟩

/-- A link with as many steps as its page has directories leads to the page
that it names, if these directories are what their names say. -/
theorem follow?_link (base : Files.Place) {page : String} (target : String) {tail : String}
    (htail : IsAnchor tail)
    (hnames : ∀ name ∈ Files.directories page, Files.isName name = true) :
    follow? base page (steps (Page.depth page) ++ encodePath target ++ tail)
      = some (Files.resolve base (Files.segments target)) := by
  have hsegments : Files.segments (steps (Page.depth page) ++ target)
      = List.replicate (Files.directories page).length ".." ++ Files.segments target := by
    rw [Files.segments, String.toList_append, splitOn_steps, List.map_append, List.map_replicate,
      Page.length_directories]
    rfl
  rw [follow?, withoutAnchor_link _ _ htail, decodePath?_steps, Option.map_some, hsegments,
    ← List.append_assoc, Files.resolve_append, Files.resolve_back hnames]

/-- A link without steps goes on from its page's directories. -/
theorem follow?_encodePath (base : Files.Place) (page target : String) :
    follow? base page (encodePath target)
      = some (Files.resolve base (Files.directories page ++ Files.segments target)) := by
  have hplain := withoutAnchor_link 0 target (Or.inl rfl)
  have hnone : steps 0 = "" := rfl
  rw [hnone, String.empty_append, String.append_empty] at hplain
  rw [follow?, hplain, decodePath?_encodePath, Option.map_some]

end Link

end ApiPages
