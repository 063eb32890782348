import ApiPages.Run.CommandLine

/-!
# The grammar of a command line

A command line is a sequence of groups: a flag alone, a flag with the argument
behind it, or a file. What an argument means depends on the group it is in, as
the argument behind `--stylesheet` may look like anything. The parser takes one
group after another (`parseFrom_arguments`), and what it stops at is no start of
a group. So it reads exactly the sequences of groups (`parse_reads_groups`), and
the order of the groups matters only among stylesheets.
-/

namespace ApiPages.Request

/-! ## Groups -/

/-- Arguments that belong together. -/
inductive Group where
  | standalone
  /-- A stylesheet may be any text, also one that looks like a flag. -/
  | stylesheet (value : String)
  | file (argument : String) (isFile : isFlag argument = false)
  deriving DecidableEq

namespace Group

/-- The arguments of a group. -/
def arguments : Group → List String
  | standalone => ["--standalone"]
  | stylesheet value => ["--stylesheet", value]
  | file argument _ => [argument]

/-- The file that a group names. -/
def file? : Group → Option String
  | file argument _ => some argument
  | _ => none

/-- The stylesheet that a group names. -/
def stylesheet? : Group → Option String
  | stylesheet value => some value
  | _ => none

end Group

/-- The command line that some groups make up. -/
def spell (groups : List Group) : List String := groups.flatMap Group.arguments

/-- The files that some groups name. -/
def files (groups : List Group) : List String := groups.filterMap Group.file?

/-- The stylesheets that some groups name. -/
def stylesheets (groups : List Group) : List String := groups.filterMap Group.stylesheet?

/-- An argument that asks for help. -/
def IsHelp (argument : String) : Prop := argument = "--help" ∨ argument = "-h"

/-- Whether groups make up a request: they name one file, which it has, and of
the stylesheets it has the last one. -/
structure MadeOf (r : Request) (groups : List Group) : Prop where
  file : files groups = [r.file]
  standalone : r.standalone = true ↔ .standalone ∈ groups
  stylesheet : r.stylesheet = (stylesheets groups).getLast?

/-! ## Drafts -/

/-- What is named first gives way to what is named later. -/
theorem getLast?_or_some {α : Type} (xs : List α) (x : α) (before : Option α) :
    xs.getLast?.or (some x) = (x :: xs).getLast?.or before := by
  rw [List.getLast?_cons]
  cases xs.getLast? with
  | none => rfl
  | some last => rfl

namespace Draft

/-- A draft with what one more group says. -/
def add (d : Draft) : Group → Draft
  | .standalone => { d with standalone := true }
  | .stylesheet value => { d with stylesheet := some value }
  | .file argument _ => { d with file := some argument }

/-- A draft with what some more groups say. -/
def addAll (d : Draft) (groups : List Group) : Draft := groups.foldl add d

/-- The last file that is given counts. -/
theorem file_addAll (d : Draft) (groups : List Group) :
    (d.addAll groups).file = (files groups).getLast?.or d.file := by
  induction groups generalizing d with
  | nil => rfl
  | cons g groups ih =>
    refine (ih (d.add g)).trans ?_
    cases g with
    | standalone => rfl
    | stylesheet value => rfl
    | file argument isFile => exact getLast?_or_some (files groups) argument d.file

/-- So does the last stylesheet. -/
theorem stylesheet_addAll (d : Draft) (groups : List Group) :
    (d.addAll groups).stylesheet = (stylesheets groups).getLast?.or d.stylesheet := by
  induction groups generalizing d with
  | nil => rfl
  | cons g groups ih =>
    refine (ih (d.add g)).trans ?_
    cases g with
    | standalone => rfl
    | stylesheet value => exact getLast?_or_some (stylesheets groups) value d.stylesheet
    | file argument isFile => rfl

/-- A flag counts when it is given once or more. -/
theorem standalone_addAll (d : Draft) (groups : List Group) :
    (d.addAll groups).standalone = true ↔ d.standalone = true ∨ .standalone ∈ groups := by
  induction groups generalizing d with
  | nil => simp [addAll]
  | cons g groups ih =>
    refine (ih (d.add g)).trans ?_
    cases g with
    | standalone => simp [add]
    | stylesheet value => simp [add]
    | file argument isFile => simp [add]

end Draft

/-- The draft of nothing. -/
abbrev nothing : Draft := ⟨none, false, none⟩

/-- What groups with one file make up, the draft of them says. -/
theorem madeOf_iff {r : Request} {groups : List Group} (hone : (files groups).length ≤ 1) :
    MadeOf r groups ↔ (nothing.addAll groups).file = some r.file
      ∧ (nothing.addAll groups).standalone = r.standalone
      ∧ (nothing.addAll groups).stylesheet = r.stylesheet := by
  rw [Draft.file_addAll, Draft.stylesheet_addAll, Bool.eq_iff_iff, Draft.standalone_addAll,
    Option.or_none, Option.or_none]
  have hfile : files groups = [r.file] ↔ (files groups).getLast? = some r.file := by
    match h : files groups with
    | [] => simp
    | [file] => simp
    | file :: other :: more => simp [h] at hone
  constructor
  · intro h
    exact ⟨hfile.mp h.file, by simp [h.standalone], h.stylesheet.symm⟩
  · rintro ⟨hlast, hstandalone, hstylesheet⟩
    exact ⟨hfile.mpr hlast, by simp [← hstandalone], hstylesheet.symm⟩

/-! ## Reading groups -/

/-- A group is read as a whole, unless it names a second file. -/
theorem parseFrom_arguments (d : Draft) (g : Group) (hfile : d.file = none ∨ g.file? = none)
    (more : List String) : parseFrom d (g.arguments ++ more) = parseFrom (d.add g) more := by
  cases g with
  | standalone =>
    rw [Group.arguments, List.singleton_append, parseFrom.eq_def]
    rfl
  | stylesheet value =>
    rw [Group.arguments, List.cons_append, List.singleton_append, parseFrom.eq_def]
    rfl
  | file argument isFile =>
    have hnone : d.file = none := hfile.resolve_right nofun
    -- The words of the parser are flags, so the argument is none of them.
    have hword (word : String) (hflag : isFlag word = true) : (argument == word) = false := by
      rw [beq_eq_false_iff_ne]
      rintro rfl
      rw [isFile] at hflag
      cases hflag
    rw [Group.arguments, List.singleton_append, parseFrom.eq_def]
    simp only [hword "--help" (by decide), hword "-h" (by decide), hword "--standalone" (by decide),
      hword "--stylesheet" (by decide), isFile, hnone, Bool.or_self, Bool.false_eq_true, if_false,
      Option.isSome_none]
    rfl

/-- Groups that name at most one file, with the one before them, are read one
after another. -/
theorem parseFrom_spell {groups : List Group} {d : Draft}
    (hone : (d.file.toList ++ files groups).length ≤ 1) (more : List String) :
    parseFrom d (spell groups ++ more) = parseFrom (d.addAll groups) more := by
  induction groups generalizing d with
  | nil => rfl
  | cons g groups ih =>
    have hsplit : spell (g :: groups) ++ more = g.arguments ++ (spell groups ++ more) :=
      List.append_assoc ..
    rw [hsplit]
    cases g with
    | standalone => exact (parseFrom_arguments d _ (Or.inr rfl) _).trans (ih hone)
    | stylesheet value => exact (parseFrom_arguments d _ (Or.inr rfl) _).trans (ih hone)
    | file argument isFile =>
      have hnone : d.file = none := by
        cases hd : d.file with
        | none => rfl
        | some file => simp [files, Group.file?, hd] at hone
      refine (parseFrom_arguments d _ (Or.inl hnone) _).trans (ih ?_)
      rw [hnone] at hone
      exact hone

/-- How an answer comes about: group by group, up to the end of the line or a
call for help. -/
inductive Reads : Draft → List String → Option Request → Prop
  | done {d : Draft} {file : String} (h : d.file = some file) :
      Reads d [] (some ⟨file, d.standalone, d.stylesheet⟩)
  | help {d : Draft} {word : String} {more : List String} (h : IsHelp word) :
      Reads d (word :: more) none
  | group {d : Draft} {more : List String} {answer : Option Request} (g : Group)
      (hfile : d.file = none ∨ g.file? = none) (h : Reads (d.add g) more answer) :
      Reads d (g.arguments ++ more) answer

/-- The parser answers nothing that does not come about so. -/
theorem reads_of_parseFrom {d : Draft} {line : List String} {answer : Option Request}
    (h : parseFrom d line = .ok answer) : Reads d line answer := by
  induction d, line using parseFrom.induct with
  | case1 d file hd =>
    rw [parseFrom, hd] at h
    cases h
    exact .done hd
  | case2 d hd =>
    rw [parseFrom, hd] at h
    cases h
  | case3 d argument more hhelp =>
    rw [parseFrom.eq_def] at h
    simp only [hhelp, if_true] at h
    cases h
    rw [Bool.or_eq_true, beq_iff_eq, beq_iff_eq] at hhelp
    exact .help hhelp
  | case4 d argument more hhelp hstandalone ih =>
    obtain rfl : argument = "--standalone" := eq_of_beq hstandalone
    have hread := parseFrom_arguments d .standalone (Or.inr rfl) more
    exact .group .standalone (Or.inr rfl) (ih (hread.symm.trans h))
  | case5 d argument hhelp hstandalone hstylesheet value more ih =>
    obtain rfl : argument = "--stylesheet" := eq_of_beq hstylesheet
    have hread := parseFrom_arguments d (.stylesheet value) (Or.inr rfl) more
    exact .group (.stylesheet value) (Or.inr rfl) (ih (hread.symm.trans h))
  | case6 d argument hhelp hstandalone hstylesheet =>
    rw [parseFrom.eq_def] at h
    simp only [hhelp, hstandalone, hstylesheet, if_true] at h
    cases h
  | case7 d argument more hhelp hstandalone hstylesheet hflag =>
    rw [parseFrom.eq_def] at h
    simp only [hhelp, hstandalone, hstylesheet, hflag, if_true] at h
    cases h
  | case8 d argument more hhelp hstandalone hstylesheet hflag hd =>
    rw [parseFrom.eq_def] at h
    simp only [hhelp, hstandalone, hstylesheet, hflag, hd, if_true] at h
    cases h
  | case9 d argument more hhelp hstandalone hstylesheet hflag hd ih =>
    have hnone : d.file = none := Option.not_isSome_iff_eq_none.mp hd
    let g := Group.file argument (by simpa using hflag)
    have hread := parseFrom_arguments d g (Or.inl hnone) more
    exact .group g (Or.inl hnone) (ih (hread.symm.trans h))

/-- So an answer comes from groups that name at most one file: from all of the
line, or from those before a call for help. -/
theorem Reads.exists_groups {d : Draft} {line : List String} {answer : Option Request}
    (h : Reads d line answer) :
    ∃ groups, (d.file.toList ++ files groups).length ≤ 1
      ∧ ((line = spell groups ∧ ∃ file, (d.addAll groups).file = some file
          ∧ answer = some ⟨file, (d.addAll groups).standalone, (d.addAll groups).stylesheet⟩)
        ∨ ∃ word more, IsHelp word ∧ line = spell groups ++ word :: more ∧ answer = none) := by
  induction h with
  | @done d file hd =>
    refine ⟨[], ?_, Or.inl ⟨rfl, file, hd, rfl⟩⟩
    simp [hd, files]
  | @help d word more hhelp =>
    refine ⟨[], ?_, Or.inr ⟨word, more, hhelp, rfl, rfl⟩⟩
    cases hd : d.file <;> simp [files]
  | @group d more answer g hfile _ ih =>
    obtain ⟨groups, hone, hanswer⟩ := ih
    refine ⟨g :: groups, ?_, ?_⟩
    · cases g with
      | standalone => exact hone
      | stylesheet value => exact hone
      | file argument isFile =>
        rw [hfile.resolve_right nofun]
        exact hone
    · rcases hanswer with ⟨rfl, hend⟩ | ⟨word, more, hhelp, rfl, hnone⟩
      · exact Or.inl ⟨rfl, hend⟩
      · exact Or.inr ⟨word, more, hhelp, (List.append_assoc ..).symm, hnone⟩

/-! ## Command lines -/

/-- A request is made of one file. -/
theorem MadeOf.one {r : Request} {groups : List Group} (h : MadeOf r groups) :
    (files groups).length = 1 := by
  rw [h.file, List.length_singleton]

/-- Groups with one file make up a request. -/
theorem exists_madeOf {groups : List Group} (h : (files groups).length = 1) :
    ∃ r, MadeOf r groups := by
  obtain ⟨file, hfile⟩ := List.length_eq_one_iff.mp h
  exact ⟨⟨file, decide (.standalone ∈ groups), (stylesheets groups).getLast?⟩, hfile, by simp, rfl⟩

/-- Of what a request is made up, only the order of the stylesheets matters. -/
theorem MadeOf.perm {r : Request} {groups groups' : List Group} (h : MadeOf r groups)
    (hperm : groups.Perm groups')
    (hlast : (stylesheets groups).getLast? = (stylesheets groups').getLast?) :
    MadeOf r groups' where
  file := by
    have hfiles : (files groups).Perm (files groups') := hperm.filterMap _
    rw [h.file] at hfiles
    exact List.perm_singleton.mp hfiles.symm
  standalone := h.standalone.trans hperm.mem_iff
  stylesheet := h.stylesheet.trans hlast

/-- The groups of a request are read back from how they are spelled. -/
theorem parse_spell {r : Request} {groups : List Group} (h : MadeOf r groups) :
    parse (spell groups) = .ok (some r) := by
  have hone : (files groups).length ≤ 1 := Nat.le_of_eq h.one
  obtain ⟨hfile, hstandalone, hstylesheet⟩ := (madeOf_iff hone).mp h
  have hread := parseFrom_spell (d := nothing) hone []
  rw [List.append_nil] at hread
  rw [parse, hread, parseFrom, hfile]
  simp only [hstandalone, hstylesheet]

/-- A line is a request exactly when it spells the groups of one. -/
theorem parse_eq_some_iff {line : List String} {r : Request} :
    parse line = .ok (some r) ↔ ∃ groups, line = spell groups ∧ MadeOf r groups := by
  constructor
  · intro h
    obtain ⟨groups, hone, ⟨rfl, file, hfile, hr⟩ | ⟨_, _, -, -, hnone⟩⟩ :=
      (reads_of_parseFrom h).exists_groups
    · cases hr
      exact ⟨groups, rfl, (madeOf_iff hone).mpr ⟨hfile, rfl, rfl⟩⟩
    · cases hnone
  · rintro ⟨groups, rfl, hr⟩
    exact parse_spell hr

/-- It asks for help exactly when groups with one file at most come before a word for it. -/
theorem parse_eq_none_iff {line : List String} :
    parse line = .ok none ↔ ∃ groups word more, line = spell groups ++ word :: more
      ∧ (files groups).length ≤ 1 ∧ IsHelp word := by
  constructor
  · intro h
    obtain ⟨groups, hone, ⟨-, _, -, hsome⟩ | ⟨word, more, hhelp, hline, -⟩⟩ :=
      (reads_of_parseFrom h).exists_groups
    · cases hsome
    · exact ⟨groups, word, more, hline, hone, hhelp⟩
  · rintro ⟨groups, word, more, rfl, hone, hhelp⟩
    rw [parse, parseFrom_spell (d := nothing) hone, parseFrom.eq_def]
    rcases hhelp with rfl | rfl
    · rfl
    · rfl

/-- Whether a line is a sequence of groups with one file. -/
def IsRequest (line : List String) : Prop :=
  ∃ groups, line = spell groups ∧ (files groups).length = 1

/-- Whether a line begins with groups that name at most one file and goes on
with a call for help. -/
def IsCallForHelp (line : List String) : Prop :=
  ∃ groups word more, line = spell groups ++ word :: more ∧ (files groups).length ≤ 1 ∧ IsHelp word

/-- What is read from a line. It is a request exactly when the line is a sequence
of groups with one file among them, and then the one that these groups make up.
It is a call for help exactly when the line begins with groups that name at most
one file and goes on with a word for help. Every other line is a fault. Groups
with one file may stand in any order that leaves the last stylesheet the last. -/
theorem parse_reads_groups :
    (∀ line, (∃ r, parse line = .ok (some r)) ↔ IsRequest line)
    ∧ (∀ line r, parse line = .ok (some r) ↔ ∃ groups, line = spell groups ∧ MadeOf r groups)
    ∧ (∀ line, parse line = .ok none ↔ IsCallForHelp line)
    ∧ (∀ line, (∃ fault, parse line = .error fault) ↔ ¬IsRequest line ∧ ¬IsCallForHelp line)
    ∧ ∀ groups groups', groups.Perm groups' → (files groups).length = 1 →
      (stylesheets groups).getLast? = (stylesheets groups').getLast? →
      parse (spell groups') = parse (spell groups) := by
  have hrequest (line : List String) : (∃ r, parse line = .ok (some r)) ↔ IsRequest line := by
    constructor
    · rintro ⟨r, hr⟩
      obtain ⟨groups, hline, hmade⟩ := parse_eq_some_iff.mp hr
      exact ⟨groups, hline, hmade.one⟩
    · rintro ⟨groups, rfl, hone⟩
      obtain ⟨r, hmade⟩ := exists_madeOf hone
      exact ⟨r, parse_spell hmade⟩
  refine ⟨hrequest, fun _ _ => parse_eq_some_iff, fun _ => parse_eq_none_iff, fun line => ?_, ?_⟩
  · rw [← hrequest, IsCallForHelp, ← parse_eq_none_iff]
    cases parse line with
    | error fault => simp
    | ok answer => cases answer <;> simp
  · intro groups groups' hperm hone hlast
    obtain ⟨r, hmade⟩ := exists_madeOf hone
    rw [parse_spell hmade, parse_spell (hmade.perm hperm hlast)]

example : parse ["--stylesheet", "--help", "a"] = .ok (some ⟨"a", false, some "--help"⟩) := rfl

end ApiPages.Request
