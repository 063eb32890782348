import ApiPages.Run.Parameters
import ApiPages.Proofs.Result
import ApiPages.Proofs.Text.Pieces
import ApiPages.Proofs.Text.Trim

/-!
# Parameter files as they are written

One parameter file can be written in many ways. Blanks may stand around the
sources and the output directory, blank items between the commas, either line
end behind the lines, and anything below them (`Parameters.WrittenAs`). The
reader gives the parameters back from every one of these texts and from no other
(`parse_eq_ok_iff`). That needs both halves of the file to be found again:
commas and line feeds are in nothing that is listed, and trimming undoes any
padding. A carriage return needs no rule, as it is one more blank at the end of
its line.
-/

namespace ApiPages.Parameters

open Text (isBlank splitOn joinWith trimWhile dropEndWhile IsTrimmed)

/-! ## Writing -/

/-- Blanks that stay on their line. -/
def IsPadding (cs : List Char) : Prop := ∀ c ∈ cs, isBlank c = true ∧ c ≠ '\n'

/-- Whether characters are a text with blanks around it. -/
def Padded (inner cs : List Char) : Prop :=
  ∃ before after, cs = before ++ inner ++ after ∧ IsPadding before ∧ IsPadding after

/-- Items between commas that list some sources: each source in its turn, and
blank items anywhere. -/
inductive Lists : List String → List (List Char) → Prop
  | nil : Lists [] []
  | blank {sources : List String} {item : List Char} {items : List (List Char)}
      (h : IsPadding item) (more : Lists sources items) : Lists sources (item :: items)
  | source {source : String} {sources : List String} {item : List Char} {items : List (List Char)}
      (h : Padded source.toList item) (more : Lists sources items) :
      Lists (source :: sources) (item :: items)

/-- Either line end. -/
def IsLineEnd (cs : List Char) : Prop := cs = ['\n'] ∨ cs = ['\r', '\n']

/-- What may stand behind the second line: nothing, or a line end and any text. -/
def IsRest (cs : List Char) : Prop :=
  cs = [] ∨ ∃ lineEnd more, IsLineEnd lineEnd ∧ cs = lineEnd ++ more

/-- Whether a text is a way to write parameters. -/
def WrittenAs (p : Parameters) (text : String) : Prop :=
  ∃ items lineEnd line rest, Lists p.sources items ∧ IsLineEnd lineEnd ∧ Padded p.out.toList line
    ∧ IsRest rest ∧ text.toList = joinWith [','] items ++ lineEnd ++ line ++ rest

/-- Whether a text can stand on a line and be found again. -/
structure IsLine (cs : List Char) : Prop where
  ne_nil : cs ≠ []
  trimmed : IsTrimmed isBlank cs
  single : '\n' ∉ cs

/-- Whether parameters can be written: there are sources, and all paths can
stand on a line, those of the sources between commas. -/
structure IsWritable (p : Parameters) : Prop where
  sources_ne_nil : p.sources ≠ []
  source : ∀ s ∈ p.sources, IsLine s.toList ∧ ',' ∉ s.toList
  out : IsLine p.out.toList

/-- Parameters in their plainest form. -/
def print (p : Parameters) : String := ",".intercalate p.sources ++ "\n" ++ p.out

/-! ## Lines -/

variable {first second rest : List Char}

/-- A line is what stands before its line feed. -/
theorem lines_cons (h : '\n' ∉ first) (rest : List Char) :
    lines (first ++ '\n' :: rest) = dropEndWhile (· == '\r') first :: lines rest := by
  obtain ⟨piece, more, hrest⟩ := List.exists_cons_of_ne_nil (Text.splitOn_ne_nil '\n' rest)
  have hpieces : splitOn '\n' (first ++ '\n' :: rest) = first :: piece :: more := by
    rw [Text.splitOn_append_cons, Text.splitOn_of_not_mem h, hrest, List.singleton_append]
  unfold lines
  dsimp only
  rw [hpieces, hrest, List.getLast?_cons_cons]
  split
  · rw [List.dropLast_cons_cons, List.map_cons]
  · rw [List.map_cons]

/-- The last line counts when it is not empty. -/
theorem lines_of_not_mem (h : '\n' ∉ first) :
    lines first = if first = [] then [] else [dropEndWhile (· == '\r') first] := by
  unfold lines
  dsimp only
  rw [Text.splitOn_of_not_mem h, List.getLast?_singleton]
  cases first with
  | nil => rfl
  | cons c cs => rfl

/-- The first two lines are cut off as they stand, but for carriage returns. -/
theorem lines_eq_cons_cons {a b : List Char} {more : List (List Char)} {cs : List Char}
    (h : lines cs = a :: b :: more) :
    ∃ first second rest, cs = first ++ '\n' :: (second ++ rest) ∧ '\n' ∉ first ∧ '\n' ∉ second
      ∧ IsRest rest ∧ a = dropEndWhile (· == '\r') first ∧ b = dropEndWhile (· == '\r') second := by
  by_cases hfirst : '\n' ∈ cs
  · obtain ⟨first, after, rfl, hnone⟩ := List.eq_append_cons_of_mem hfirst
    rw [lines_cons hnone, List.cons.injEq] at h
    obtain ⟨rfl, h⟩ := h
    by_cases hsecond : '\n' ∈ after
    · obtain ⟨second, rest, rfl, hnone'⟩ := List.eq_append_cons_of_mem hsecond
      rw [lines_cons hnone', List.cons.injEq] at h
      exact ⟨first, second, '\n' :: rest, rfl, hnone, hnone', Or.inr ⟨_, rest, Or.inl rfl, rfl⟩,
        rfl, h.1.symm⟩
    · rw [lines_of_not_mem hsecond] at h
      split at h
      · cases h
      · obtain ⟨rfl, -⟩ := List.cons.inj h
        exact ⟨first, after, [], by rw [List.append_nil], hnone, hsecond, Or.inl rfl, rfl, rfl⟩
  · rw [lines_of_not_mem hfirst] at h
    split at h
    · cases h
    · cases h

/-! ## Carriage returns -/

/-- A carriage return is blank. -/
theorem isBlank_of_mem_return {cs : List Char} (h : ∀ c ∈ cs, (c == '\r') = true) :
    ∀ c ∈ cs, isBlank c = true := by
  intro c hc
  rw [eq_of_beq (h c hc)]
  decide

/-- So trimming drops those at the end of a line anyway. -/
theorem trimWhile_dropEndWhile (cs : List Char) :
    trimWhile isBlank (dropEndWhile (· == '\r') cs) = trimWhile isBlank cs := by
  obtain ⟨after, hcut, hafter⟩ := Text.exists_eq_dropEndWhile_append (· == '\r') cs
  conv => rhs; rw [hcut]
  exact (Text.trimWhile_append_right (isBlank_of_mem_return hafter)).symm

/-- Blanks behind a line change none of its items. -/
theorem itemsOf_append {line after : List Char} (h : ∀ c ∈ after, isBlank c = true) :
    itemsOf (line ++ after) = itemsOf line := by
  have hcomma : ',' ∉ after := fun hmem => absurd (h ',' hmem) (by decide)
  obtain ⟨pieces, last, hpieces⟩ := Text.exists_splitOn_append ',' line
  have hline := hpieces [] List.not_mem_nil
  rw [List.append_nil] at hline
  unfold itemsOf
  rw [hline, hpieces after hcomma, List.map_append, List.map_append, List.map_singleton,
    List.map_singleton, Text.trimWhile_append_right h, List.append_nil]

/-- And the items of a line do not depend on them. -/
theorem itemsOf_dropEndWhile (line : List Char) :
    itemsOf (dropEndWhile (· == '\r') line) = itemsOf line := by
  obtain ⟨after, hcut, hafter⟩ := Text.exists_eq_dropEndWhile_append (· == '\r') line
  conv => rhs; rw [hcut]
  exact (itemsOf_append (isBlank_of_mem_return hafter)).symm

/-! ## Items -/

/-- The text of a padded line is found again. -/
theorem IsLine.trimWhile_eq {inner cs : List Char} (h : IsLine inner) (hcs : Padded inner cs) :
    trimWhile isBlank cs = inner := by
  obtain ⟨before, after, rfl, hbefore, hafter⟩ := hcs
  exact h.trimmed.trimWhile_append (fun c hc => (hbefore c hc).1) fun c hc => (hafter c hc).1

/-- A line is what is left of it when it is trimmed, with padding. -/
theorem padded_trimWhile {cs : List Char} (h : '\n' ∉ cs) : Padded (trimWhile isBlank cs) cs := by
  obtain ⟨before, after, hcut, hbefore, hafter⟩ := Text.exists_eq_append_trimWhile isBlank cs
  refine ⟨before, after, hcut, fun c hc => ⟨hbefore c hc, ?_⟩, fun c hc => ⟨hafter c hc, ?_⟩⟩
  · rintro rfl
    exact h (hcut ▸ List.mem_append_left _ (List.mem_append_left _ hc))
  · rintro rfl
    exact h (hcut ▸ List.mem_append_right _ hc)

/-- A trimmed line with something in it is a proper one. -/
theorem isLine_trimWhile {cs : List Char} (h : '\n' ∉ cs) (hne : trimWhile isBlank cs ≠ []) :
    IsLine (trimWhile isBlank cs) where
  ne_nil := hne
  trimmed := Text.isTrimmed_trimWhile isBlank cs
  single hmem := by
    obtain ⟨before, after, hcut, -, -⟩ := padded_trimWhile h
    exact h (hcut ▸ List.mem_append_left _ (List.mem_append_right _ hmem))

/-- The texts that are left of items when they are trimmed, without the blank
ones. -/
def found (items : List (List Char)) : List String :=
  ((items.map (trimWhile isBlank)).filter fun item => !item.isEmpty).map String.ofList

/-- Listed sources are found again. -/
theorem Lists.found_eq {sources : List String} {items : List (List Char)} (h : Lists sources items)
    (hline : ∀ s ∈ sources, IsLine s.toList) : found items = sources := by
  induction h with
  | nil => rfl
  | @blank sources item items hblank _ ih =>
    have htrim : trimWhile isBlank item = [] :=
      Text.trimWhile_eq_nil_iff.mpr fun c hc => (hblank c hc).1
    rw [← ih hline]
    simp [found, htrim]
  | @source source sources item items hitem _ ih =>
    have hsource := hline source List.mem_cons_self
    have hrest := ih fun s hs => hline s (List.mem_cons_of_mem source hs)
    have htrim : trimWhile isBlank item = source.toList := hsource.trimWhile_eq hitem
    have hne : source.toList.isEmpty = false := List.isEmpty_eq_false_iff.mpr hsource.ne_nil
    conv => rhs; rw [← hrest]
    simp only [found, List.map_cons, htrim, List.filter_cons, hne, Bool.not_false, if_true,
      String.ofList_toList]

/-- Whatever is found in items, they list. -/
theorem lists_found {items : List (List Char)} (h : ∀ item ∈ items, '\n' ∉ item) :
    Lists (found items) items := by
  induction items with
  | nil => exact .nil
  | cons item items ih =>
    have hitem := h item List.mem_cons_self
    have hrest := ih fun x hx => h x (List.mem_cons_of_mem item hx)
    by_cases hblank : trimWhile isBlank item = []
    · have hfound : found (item :: items) = found items := by simp [found, hblank]
      rw [hfound]
      refine .blank (fun c hc => ⟨Text.trimWhile_eq_nil_iff.mp hblank c hc, ?_⟩) hrest
      rintro rfl
      exact hitem hc
    · have hfound : found (item :: items)
          = String.ofList (trimWhile isBlank item) :: found items := by
        simp [found, hblank]
      rw [hfound]
      refine .source ?_ hrest
      rw [String.toList_ofList]
      exact padded_trimWhile hitem

/-- What is found among items is a proper line without a comma. -/
theorem isLine_of_mem_found {items : List (List Char)} (hline : ∀ item ∈ items, '\n' ∉ item)
    (hcomma : ∀ item ∈ items, ',' ∉ item) {s : String} (h : s ∈ found items) :
    IsLine s.toList ∧ ',' ∉ s.toList := by
  obtain ⟨cs, hcs, rfl⟩ := List.mem_map.mp h
  obtain ⟨hmem, hne⟩ := List.mem_filter.mp hcs
  obtain ⟨item, hitem, rfl⟩ := List.mem_map.mp hmem
  obtain ⟨before, after, hcut, -, -⟩ := padded_trimWhile (hline item hitem)
  rw [String.toList_ofList]
  refine ⟨isLine_trimWhile (hline item hitem) (by simpa using hne), fun hmem => ?_⟩
  exact hcomma item hitem (hcut ▸ List.mem_append_left _ (List.mem_append_right _ hmem))

/-- What is listed stands on one line, and holds no commas if the sources do
not. -/
theorem Lists.not_mem {sources : List String} {items : List (List Char)} (h : Lists sources items)
    {x : Char} (hx : x = '\n' ∨ isBlank x = false) (hsource : ∀ s ∈ sources, x ∉ s.toList) :
    ∀ item ∈ items, x ∉ item := by
  have hpadding (cs : List Char) (hcs : IsPadding cs) : x ∉ cs := by
    intro hmem
    obtain ⟨hblank, hne⟩ := hcs x hmem
    rcases hx with hx | hx
    · exact hne hx
    · rw [hx] at hblank
      cases hblank
  induction h with
  | nil => exact fun _ hitem => absurd hitem List.not_mem_nil
  | @blank sources item items hblank _ ih =>
    intro other hother
    rcases List.mem_cons.mp hother with rfl | hother
    · exact hpadding other hblank
    · exact ih hsource other hother
  | @source source sources item items hitem _ ih =>
    intro other hother
    rcases List.mem_cons.mp hother with rfl | hother
    · obtain ⟨before, after, rfl, hbefore, hafter⟩ := hitem
      simp [hpadding before hbefore, hpadding after hafter, hsource source List.mem_cons_self]
    · exact ih (fun s hs => hsource s (List.mem_cons_of_mem source hs)) other hother

/-! ## Reading -/

variable {p : Parameters} {text : String}

/-- The items of a line are found between its commas. -/
theorem itemsOf_eq_found (line : List Char) : itemsOf line = found (splitOn ',' line) := rfl

/-- What is read from the first two lines of a text. -/
theorem parse_of_lines {a b : List Char} {more : List (List Char)}
    (h : lines text.toList = a :: b :: more) :
    parse text = if (itemsOf a).isEmpty then .error (.parameters "no input files on line 1")
      else if (trimWhile isBlank b).isEmpty then
        .error (.parameters "output directory on line 2 is empty")
      else .ok ⟨itemsOf a, String.ofList (trimWhile isBlank b)⟩ := by
  unfold parse
  rw [h]

/-- A line end is a line feed with returns before it. -/
theorem IsLineEnd.exists_returns {cs : List Char} (h : IsLineEnd cs) :
    ∃ returns, cs = returns ++ ['\n'] ∧ '\n' ∉ returns ∧ ∀ c ∈ returns, isBlank c = true := by
  rcases h with rfl | rfl
  · exact ⟨[], rfl, List.not_mem_nil, fun c hc => absurd hc List.not_mem_nil⟩
  · exact ⟨['\r'], rfl, by simp, by simpa using (by decide : isBlank '\r' = true)⟩

/-- The first line of a text, when something stands on it. -/
theorem exists_lines_append_rest (hne : first ≠ []) (hfirst : '\n' ∉ first) (hrest : IsRest rest) :
    ∃ a more, lines (first ++ rest) = a :: more
      ∧ trimWhile isBlank a = trimWhile isBlank first := by
  rcases hrest with rfl | ⟨lineEnd, below, hend, rfl⟩
  · refine ⟨_, [], ?_, trimWhile_dropEndWhile first⟩
    rw [List.append_nil, lines_of_not_mem hfirst, if_neg hne]
  · obtain ⟨returns, rfl, hnone, hblank⟩ := hend.exists_returns
    have hline : '\n' ∉ first ++ returns := by simp [hfirst, hnone]
    refine ⟨_, lines below, ?_,
      (trimWhile_dropEndWhile _).trans (Text.trimWhile_append_right hblank)⟩
    rw [List.append_assoc, List.singleton_append, ← List.append_assoc]
    exact lines_cons hline below

/-- Every way to write parameters is read as them. -/
theorem parse_of_writtenAs (hp : p.IsWritable) (h : p.WrittenAs text) : parse text = .ok p := by
  obtain ⟨items, lineEnd, line, rest, hitems, hend, hline, hrest, htext⟩ := h
  obtain ⟨returns, rfl, hnone, hblank⟩ := hend.exists_returns
  have hcommas : ∀ item ∈ items, ',' ∉ item :=
    hitems.not_mem (Or.inr (by decide)) fun s hs => (hp.source s hs).2
  have hfeeds : ∀ item ∈ items, '\n' ∉ item :=
    hitems.not_mem (Or.inl rfl) fun s hs => (hp.source s hs).1.single
  have hfound : found items = p.sources := hitems.found_eq fun s hs => (hp.source s hs).1
  have hne : items ≠ [] := by
    rintro rfl
    exact hp.sources_ne_nil hfound.symm
  -- The first line is the items with the returns of its end.
  have hfirst : '\n' ∉ joinWith [','] items ++ returns := by
    rw [List.mem_append, not_or]
    refine ⟨fun hmem => ?_, hnone⟩
    rcases Text.mem_joinWith hmem with hcomma | ⟨item, hitem, hmem⟩
    · exact absurd hcomma (by decide)
    · exact hfeeds item hitem hmem
  have hsources : itemsOf (dropEndWhile (· == '\r') (joinWith [','] items ++ returns))
      = p.sources := by
    rw [itemsOf_dropEndWhile, itemsOf_append hblank, itemsOf_eq_found,
      Text.splitOn_joinWith hne hcommas, hfound]
  -- The second line is the directory with its padding.
  have hout : trimWhile isBlank line = p.out.toList := hp.out.trimWhile_eq hline
  have hlineNe : line ≠ [] := by
    rintro rfl
    exact hp.out.ne_nil hout.symm
  have hlineFeed : '\n' ∉ line := by
    obtain ⟨before, after, rfl, hbefore, hafter⟩ := hline
    simp only [List.mem_append, not_or]
    exact ⟨⟨fun hmem => (hbefore _ hmem).2 rfl, hp.out.single⟩, fun hmem => (hafter _ hmem).2 rfl⟩
  obtain ⟨second, more, hmore, hsecond⟩ := exists_lines_append_rest hlineNe hlineFeed hrest
  have hlines : lines text.toList
      = dropEndWhile (· == '\r') (joinWith [','] items ++ returns) :: second :: more := by
    rw [htext, ← hmore, ← lines_cons hfirst]
    simp only [List.append_assoc, List.cons_append, List.nil_append]
  have hlisted : p.sources.isEmpty = false := List.isEmpty_eq_false_iff.mpr hp.sources_ne_nil
  have houtNe : p.out.toList.isEmpty = false := List.isEmpty_eq_false_iff.mpr hp.out.ne_nil
  rw [parse_of_lines hlines, hsources, hsecond, hout, hlisted, houtNe, String.ofList_toList]
  rfl

/-- Whatever is read is written so. -/
theorem writtenAs_of_parse (h : parse text = .ok p) : p.IsWritable ∧ p.WrittenAs text := by
  match hlines : lines text.toList with
  | [] =>
    unfold parse at h
    rw [hlines] at h
    cases h
  | [_] =>
    unfold parse at h
    rw [hlines] at h
    cases h
  | a :: b :: more =>
    rw [parse_of_lines hlines] at h
    obtain ⟨first, second, rest, htext, hfirst, hsecond, hrest, rfl, rfl⟩ :=
      lines_eq_cons_cons hlines
    rw [itemsOf_dropEndWhile, trimWhile_dropEndWhile, itemsOf_eq_found] at h
    split at h
    · cases h
    · next hsources =>
      split at h
      · cases h
      · next hout =>
        cases h
        have hitems : ∀ item ∈ splitOn ',' first, '\n' ∉ item :=
          fun item hitem hmem => hfirst (Text.mem_of_mem_splitOn hitem hmem)
        have hnotBlank : trimWhile isBlank second ≠ [] := by simpa using hout
        refine ⟨⟨by simpa using hsources, fun s hs => ?_, ?_⟩, splitOn ',' first, ['\n'], second,
          rest, lists_found hitems, Or.inl rfl, ?_, hrest, ?_⟩
        · exact isLine_of_mem_found hitems (fun item hitem => Text.not_mem_of_mem_splitOn hitem) hs
        · rw [String.toList_ofList]
          exact isLine_trimWhile hsecond hnotBlank
        · rw [String.toList_ofList]
          exact padded_trimWhile hsecond
        · rw [htext, Text.joinWith_splitOn]
          simp only [List.append_assoc, List.cons_append, List.nil_append]

/-- A text holds parameters exactly when they can be written and it is one way to
write them. -/
theorem parse_eq_ok_iff : parse text = .ok p ↔ p.IsWritable ∧ p.WrittenAs text :=
  ⟨writtenAs_of_parse, fun h => parse_of_writtenAs h.1 h.2⟩

/-- A text that is not read has a fault in its parameters. -/
theorem parse_failsWith (text : String) :
    FailsWith (fun f => ∃ reason, f = .parameters reason) (parse text) := by
  intro f h
  unfold parse at h
  split at h
  · cases h
    exact ⟨_, rfl⟩
  · cases h
    exact ⟨_, rfl⟩
  · dsimp only at h
    split at h
    · cases h
      exact ⟨_, rfl⟩
    · split at h
      · cases h
        exact ⟨_, rfl⟩
      · cases h

/-- The plainest form is one of the ways to write parameters. -/
theorem writtenAs_print (p : Parameters) : p.WrittenAs p.print := by
  have hnone : IsPadding [] := fun c hc => absurd hc List.not_mem_nil
  have hplain (inner : List Char) : Padded inner inner := ⟨[], [], by simp, hnone, hnone⟩
  have hlists (sources : List String) : Lists sources (sources.map String.toList) := by
    induction sources with
    | nil => exact .nil
    | cons source sources ih => exact .source (hplain source.toList) ih
  refine ⟨p.sources.map String.toList, ['\n'], p.out.toList, [], hlists p.sources, Or.inl rfl,
    hplain p.out.toList, Or.inl rfl, ?_⟩
  simp only [print, String.toList_append, String.toList_intercalate,
    ← Text.joinWith_eq_intercalate, List.append_nil]
  rfl

/-- Parameter files are read as they are written. A text gives parameters exactly
when these can be written and it is a way to write them: the sources in order
between commas, blanks around them and around the directory, blank items
anywhere, either line end, perhaps more lines. All other texts have a fault. What
can be written can be written plainly. -/
theorem parse_inverts_writing :
    (∀ text p, parse text = .ok p ↔ p.IsWritable ∧ p.WrittenAs text)
    ∧ (∀ text, (∃ reason, parse text = .error (.parameters reason))
      ↔ ¬∃ p : Parameters, p.IsWritable ∧ p.WrittenAs text)
    ∧ ∀ p : Parameters, p.IsWritable → p.WrittenAs p.print ∧ parse p.print = .ok p := by
  refine ⟨fun _ _ => parse_eq_ok_iff, fun text => ?_, fun p hp =>
    ⟨p.writtenAs_print, parse_of_writtenAs hp p.writtenAs_print⟩⟩
  simp only [← parse_eq_ok_iff]
  cases h : parse text with
  | error f =>
    obtain ⟨reason, rfl⟩ := parse_failsWith text f h
    simp
  | ok p => simp

example : parse " a.json ,,b c\r\n out \n..." = .ok ⟨["a.json", "b c"], "out"⟩ := by decide

end ApiPages.Parameters
