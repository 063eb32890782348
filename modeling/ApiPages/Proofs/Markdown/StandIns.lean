import ApiPages.Markdown.Language
import ApiPages.Proofs.Text.Words

/-!
# Languages that stand in

What a fence says starts with its language, and only this word is replaced when
another grammar stands in for it. The word is read off the text as its first one
and cut out of it by a search and a count of bytes; both mean the same place,
since a first word occurs nowhere before it stands (`standIn?_of_firstWord`). The
languages that stand in need nobody to stand in for them, and what follows a word
does not lengthen it, so one replacement is all there is (`retarget_standIn`).
-/

namespace ApiPages.Markdown

open Text (FirstWord eqIgnoringAsciiCase byteLength)

variable {table : StandIns} {info before word after : List Char}

/-! ## The table -/

/-- Nothing but the language decides which other one stands in for it. -/
theorem standIn_unique :
    ∀ s ∈ candidates, ∀ t ∈ candidates,
      s.1.map Text.asciiLower = t.1.map Text.asciiLower → s.2 = t.2 := by
  decide

/-- What stands in is a word, and nothing stands in for it. -/
theorem standIn_settled :
    ∀ s ∈ candidates, s.2 ≠ [] ∧ s.2.any Text.isBlank = false
      ∧ ∀ t ∈ candidates, eqIgnoringAsciiCase t.1 s.2 = false := by
  decide

/-- An entry that is found names the word, up to case. -/
theorem matches_of_find? {s : List Char × List Char}
    (h : (table.find? fun s => eqIgnoringAsciiCase s.1 word) = some s) :
    eqIgnoringAsciiCase s.1 word = true :=
  List.find?_some (p := fun s : List Char × List Char => eqIgnoringAsciiCase s.1 word) h

/-- A language finds the one that stands in for it, whichever row is met first. -/
theorem exists_find?_eq_some (htable : table ⊆ candidates) {standIn : List Char × List Char}
    (hmem : standIn ∈ table) (heq : eqIgnoringAsciiCase standIn.1 word = true) :
    ∃ wanted, table.find? (fun s => eqIgnoringAsciiCase s.1 word) = some (wanted, standIn.2) := by
  cases hfind : table.find? fun s => eqIgnoringAsciiCase s.1 word with
  | none => exact absurd heq (List.find?_eq_none.mp hfind standIn hmem)
  | some found =>
    have hsame : found.2 = standIn.2 :=
      standIn_unique found (htable (List.mem_of_find?_eq_some hfind)) standIn (htable hmem)
        ((eq_of_beq (matches_of_find? hfind)).trans (eq_of_beq heq).symm)
    exact ⟨found.1, by rw [← hsame]⟩

/-! ## The word -/

/-- No word, no stand-in. -/
theorem standIn?_of_blank (h : ∀ c ∈ info, Text.isBlank c = true) : standIn? table info = none := by
  rw [standIn?, Text.words_of_blank h]
  rfl

/-- The place where a language ends is the one behind the first word. -/
theorem standIn?_of_firstWord (h : FirstWord info before word after) :
    standIn? table info = (table.find? fun s => eqIgnoringAsciiCase s.1 word).map fun s =>
      (s.2, byteLength before + byteLength word) := by
  rw [standIn?, h.head?_words]
  cases hfind : table.find? fun s => eqIgnoringAsciiCase s.1 word with
  | none => simp [hfind]
  | some s => simp [hfind, h.byteIndex?_eq]

/-- The first word is replaced by what stands in for it, and what is behind it stays. -/
theorem retarget_of_firstWord (h : FirstWord info before word after) :
    retarget table info = .ok ((table.find? fun s => eqIgnoringAsciiCase s.1 word).map fun s =>
      s.2 ++ after) := by
  rw [retarget, standIn?_of_firstWord h]
  cases table.find? fun s => eqIgnoringAsciiCase s.1 word with
  | none => rfl
  | some s =>
    simp only [Option.map_some, h.fromByte_eq, Except.map]

/-- A fence keeps its language when it says nothing, or when nothing stands in
for its language. -/
theorem retarget_eq_none_iff :
    retarget table info = .ok none ↔ (∀ c ∈ info, Text.isBlank c = true)
      ∨ ∃ before word after, FirstWord info before word after
        ∧ ∀ s ∈ table, eqIgnoringAsciiCase s.1 word = false := by
  constructor
  · intro hnone
    rcases Text.blank_or_firstWord info with hblank | ⟨before, word, after, h⟩
    · exact Or.inl hblank
    · rw [retarget_of_firstWord h, Except.ok.injEq, Option.map_eq_none_iff,
        List.find?_eq_none] at hnone
      exact Or.inr ⟨before, word, after, h, fun s hs => Bool.eq_false_iff.mpr (hnone s hs)⟩
  · rintro (hblank | ⟨before, word, after, h, hnone⟩)
    · rw [retarget, standIn?_of_blank hblank]
    · rw [retarget_of_firstWord h, Except.ok.injEq, Option.map_eq_none_iff, List.find?_eq_none]
      exact fun s hs => Bool.eq_false_iff.mp (hnone s hs)

/-- A fence gets another language when one stands in for its own, and keeps all
that follows. -/
theorem retarget_eq_some_iff (htable : table ⊆ candidates) {other : List Char} :
    retarget table info = .ok (some other) ↔ ∃ before word after, FirstWord info before word after
      ∧ ∃ s ∈ table, eqIgnoringAsciiCase s.1 word = true ∧ other = s.2 ++ after := by
  constructor
  · intro hsome
    rcases Text.blank_or_firstWord info with hblank | ⟨before, word, after, h⟩
    · rw [retarget_eq_none_iff.mpr (Or.inl hblank)] at hsome
      cases hsome
    · rw [retarget_of_firstWord h, Except.ok.injEq] at hsome
      obtain ⟨s, hfind, hother⟩ := Option.map_eq_some_iff.mp hsome
      exact ⟨before, word, after, h, s, List.mem_of_find?_eq_some hfind, matches_of_find? hfind,
        hother.symm⟩
  · rintro ⟨before, word, after, h, s, hs, hword, rfl⟩
    obtain ⟨wanted, hfind⟩ := exists_find?_eq_some htable hs hword
    rw [retarget_of_firstWord h, hfind]
    rfl

/-- What stands in is left as it is. -/
theorem retarget_standIn (htable : table ⊆ candidates) {standIn : List Char × List Char}
    (hmem : standIn ∈ table) (hafter : ∀ c ∈ after.head?, Text.isBlank c = true) :
    retarget table (standIn.2 ++ after) = .ok none := by
  obtain ⟨hne, hword, hsettled⟩ := standIn_settled standIn (htable hmem)
  have hfirst : FirstWord (standIn.2 ++ after) [] standIn.2 after :=
    ⟨rfl, nofun, by simpa using hword, hne, hafter⟩
  exact retarget_eq_none_iff.mpr
    (Or.inr ⟨[], standIn.2, after, hfirst, fun s hs => hsettled s (htable hs)⟩)

/-- Another language changes only the word for it. A fence always gets an answer:
its first word is found by its bytes, and behind it a text can be cut. The answer
is none exactly when there is no word, or when it is no language of the table but
for the case of ASCII letters. Otherwise it is the language that stands in with all
that follows the word, and this has no answer but none. -/
theorem retarget_swaps_language (htable : table ⊆ candidates) (info : List Char) :
    (∀ cut, retarget table info ≠ .error cut)
    ∧ (∀ before word after, FirstWord info before word after →
      Text.byteIndex? word info = some (byteLength before)
      ∧ Text.fromByte (byteLength before + byteLength word) info = .ok after)
    ∧ (retarget table info = .ok none ↔ (∀ c ∈ info, Text.isBlank c = true)
      ∨ ∃ before word after, FirstWord info before word after
        ∧ ∀ s ∈ table, eqIgnoringAsciiCase s.1 word = false)
    ∧ ∀ other,
      (retarget table info = .ok (some other) ↔ ∃ before word after,
        FirstWord info before word after
        ∧ ∃ s ∈ table, eqIgnoringAsciiCase s.1 word = true ∧ other = s.2 ++ after)
      ∧ (retarget table info = .ok (some other) → retarget table other = .ok none) := by
  refine ⟨fun cut hcut => ?_, fun before word after h => ⟨h.byteIndex?_eq, h.fromByte_eq⟩,
    retarget_eq_none_iff, fun other => ⟨retarget_eq_some_iff htable, fun hother => ?_⟩⟩
  · rcases Text.blank_or_firstWord info with hblank | ⟨before, word, after, h⟩
    · rw [retarget_eq_none_iff.mpr (Or.inl hblank)] at hcut
      cases hcut
    · rw [retarget_of_firstWord h] at hcut
      cases hcut
  · obtain ⟨before, word, after, h, s, hs, -, rfl⟩ := (retarget_eq_some_iff htable).mp hother
    exact retarget_standIn htable hs h.blank_after

/-- A language that comes again in what follows is replaced where it stands. -/
theorem retarget_swaps_language_first :
    [("ts".toList, "js".toList)] ⊆ candidates
    ∧ retarget [("ts".toList, "js".toList)] " TS é=\"ts\" ts".toList
      = .ok (some "js é=\"ts\" ts".toList) := by
  have htable : [("ts".toList, "js".toList)] ⊆ candidates := by decide
  have hfirst : FirstWord " TS é=\"ts\" ts".toList [' '] ['T', 'S']
      (' ' :: "é=\"ts\" ts".toList) := by
    refine ⟨by decide, List.forall_mem_singleton.mpr (by decide), ?_, by decide, ?_⟩
    · exact List.forall_mem_cons.mpr ⟨by decide, List.forall_mem_singleton.mpr (by decide)⟩
    · rintro _ ⟨⟩
      decide
  have hanswer := (retarget_swaps_language htable " TS é=\"ts\" ts".toList).2.2.2
    "js é=\"ts\" ts".toList
  exact ⟨htable, hanswer.1.mpr
    ⟨_, _, _, hfirst, _, List.mem_singleton_self _, by decide, by decide⟩⟩

end ApiPages.Markdown
