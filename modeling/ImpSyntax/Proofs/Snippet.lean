import Mathlib
import ImpSyntax.Source.Snippet

/-!
# The line a snippet shows

A snippet finds its line by offsets: it skips line feeds one at a time from the start of the
text, and reads the line around the offset where it stopped (`Source.lineAt`). This module
shows that the search picks out a line of the text split at line feeds: the line whose
number is the line number clamped to the lines there are (`lineAt_eq_lines`). The split is
`lines`, the pieces between line feeds, which is the list library's `splitOn`
(`lines_eq_splitOn`) and the string library's `split` (`snippet_eq_split`).

The search is followed by induction on the number of lines to skip. The text is then a part
`pre` that ends at a line start, followed by its remaining lines joined by line feeds;
skipping a line moves the first remaining line and the line feed after it into `pre`, and the
search stops at the end of the text when there is no line feed after it.
-/

namespace ImpSyntax.Source

/-! ## Lines of a text -/

/-- **The lines of a text**, split at line feeds; there is one more line than there are
line feeds. -/
def lines : List Char → List (List Char)
  | [] => [[]]
  | c :: rest =>
    match lines rest with
    | [] => [[c]]
    | l :: ls => if c = '\n' then [] :: l :: ls else (c :: l) :: ls

theorem lines_ne_nil (cs : List Char) : lines cs ≠ [] := by
  cases cs with
  | nil => simp [lines]
  | cons c rest =>
    simp only [lines]
    split
    · simp
    · split <;> simp

/-- **The lines are the pieces between line feeds**: splitting at line feeds, as the list
library does it. -/
theorem lines_eq_splitOn (cs : List Char) : lines cs = cs.splitOn '\n' := by
  induction cs with
  | nil => rfl
  | cons c rest ih =>
    rw [List.splitOn_cons_eq_if_modifyHead, ← ih]
    obtain ⟨l, ls, h⟩ := List.exists_cons_of_ne_nil (lines_ne_nil rest)
    simp only [lines, h]
    by_cases hc : c = '\n' <;> simp [hc]

/-- Joined by line feeds again, the lines give back the text. -/
theorem intercalate_lines (cs : List Char) : ['\n'].intercalate (lines cs) = cs := by
  rw [lines_eq_splitOn, List.intercalate_splitOn]

theorem lines_cons_newline (rest : List Char) : lines ('\n' :: rest) = [] :: lines rest := by
  obtain ⟨l, ls, h⟩ := List.exists_cons_of_ne_nil (lines_ne_nil rest)
  simp [lines, h]

theorem lines_cons_of_ne {c : Char} (hc : c ≠ '\n') (rest : List Char) :
    lines (c :: rest) = (c :: (lines rest).headD []) :: (lines rest).tail := by
  obtain ⟨l, ls, h⟩ := List.exists_cons_of_ne_nil (lines_ne_nil rest)
  simp [lines, h, hc]

/-- Text without a line feed in front of a text goes to the front of its first line. -/
theorem lines_append_of_line {x : List Char} (hx : '\n' ∉ x) (rest : List Char) :
    lines (x ++ rest) = (x ++ (lines rest).headD []) :: (lines rest).tail := by
  induction x with
  | nil =>
    obtain ⟨l, ls, h⟩ := List.exists_cons_of_ne_nil (lines_ne_nil rest)
    simp [h]
  | cons c x ih =>
    have hc : c ≠ '\n' := fun h => hx (h ▸ List.mem_cons_self)
    rw [List.cons_append, lines_cons_of_ne hc, ih (fun h => hx (List.mem_cons_of_mem c h))]
    simp

/-- **No line holds a line feed.** -/
theorem newline_not_mem_of_mem_lines {cs l : List Char} (h : l ∈ lines cs) : '\n' ∉ l := by
  induction cs generalizing l with
  | nil =>
    simp only [lines, List.mem_singleton] at h
    simp [h]
  | cons c cs ih =>
    by_cases hc : c = '\n'
    · rw [hc, lines_cons_newline] at h
      rcases List.mem_cons.1 h with rfl | h
      · simp
      · exact ih h
    · rw [lines_cons_of_ne hc] at h
      rcases List.mem_cons.1 h with rfl | h
      · obtain ⟨l', ls, hl⟩ := List.exists_cons_of_ne_nil (lines_ne_nil cs)
        rw [hl] at ih
        simpa [hl, Ne.symm hc] using ih List.mem_cons_self
      · exact ih (List.mem_of_mem_tail h)

/-! ## Searching for line feeds around a line -/

/-- A search for a line feed passes over text that holds none. -/
theorem idxOf?_newline_append {l : List Char} (hl : '\n' ∉ l) (r : List Char) :
    (l ++ r).idxOf? '\n' = (r.idxOf? '\n').map (· + l.length) := by
  have h : l.idxOf? '\n' = none := List.idxOf?_eq_none_iff.2 hl
  simp only [List.idxOf?] at h ⊢
  simp [h]

/-- **A line start**: the start of the text, or the offset just after a line feed. -/
def LineStart (pre : List Char) : Prop := pre = [] ∨ ∃ p, pre = p ++ ['\n']

/-- Searching forward from inside a line finds the line feed that ends it, if any. -/
theorem findNewline_line (pre : List Char) {l : List Char} (rest : List Char) (hl : '\n' ∉ l) {d : Nat}
    (hd : d ≤ l.length) :
    findNewline (pre ++ l ++ rest) (pre.length + d) =
      (rest.idxOf? '\n').map (pre.length + l.length + ·) := by
  have hdrop : (pre ++ l ++ rest).drop (pre.length + d) = l.drop d ++ rest := by
    simp [List.drop_append, Nat.sub_eq_zero_of_le hd]
  have hnl : '\n' ∉ l.drop d := fun h => hl (List.mem_of_mem_drop h)
  rw [findNewline, hdrop, idxOf?_newline_append hnl, Option.map_map]
  congr 1
  funext i
  simp only [Function.comp, List.length_drop]
  omega

/-- Searching backward from inside a line finds the line feed before it, if any. -/
theorem rfindNewline_line (pre : List Char) {l : List Char} (rest : List Char) (hl : '\n' ∉ l) {d : Nat}
    (hd : d ≤ l.length) :
    rfindNewline (pre ++ l ++ rest) (pre.length + d) =
      (pre.reverse.idxOf? '\n').map (pre.length - 1 - ·) := by
  have htake : (pre ++ l ++ rest).take (pre.length + d) = pre ++ l.take d := by
    simp [List.take_append, Nat.sub_eq_zero_of_le hd]
  have hnl : '\n' ∉ (l.take d).reverse :=
    fun h => hl (List.mem_of_mem_take (List.mem_reverse.1 h))
  rw [rfindNewline, htake, List.reverse_append, idxOf?_newline_append hnl, Option.map_map]
  congr 1
  funext i
  simp only [Function.comp, List.length_append, List.length_reverse, List.length_take]
  omega

/-- **The bounds of a line**: from anywhere inside a line that starts a line and ends at a
line feed or at the end of the text, the line spans from its start to its end. -/
theorem lineBounds_line {pre l rest : List Char} (hpre : LineStart pre) (hl : '\n' ∉ l)
    (hrest : rest = [] ∨ ∃ r, rest = '\n' :: r) {d : Nat} (hd : d ≤ l.length) :
    lineBounds (pre ++ l ++ rest) (pre.length + d) = (pre.length, pre.length + l.length) := by
  rw [lineBounds, rfindNewline_line pre rest hl hd, findNewline_line pre rest hl hd]
  -- the line starts the text or follows a line feed, and ends the text or a line feed follows
  rcases hpre with rfl | ⟨p, rfl⟩ <;> rcases hrest with rfl | ⟨r, rfl⟩
  · simp
  · simp [List.idxOf?_cons]
  · simp [List.idxOf?_cons]
    ring
  · simp [List.idxOf?_cons]

/-- The slice between a line's bounds is the line. -/
theorem slice_line (pre l rest : List Char) :
    slice (pre ++ l ++ rest) pre.length (pre.length + l.length) = l := by
  simp [slice]

/-- A line followed by more lines is the line, a line feed, and the other lines. -/
theorem intercalate_newline_cons_cons (l l' : List Char) (ls : List (List Char)) :
    ['\n'].intercalate (l :: l' :: ls) = l ++ '\n' :: ['\n'].intercalate (l' :: ls) := by
  simp [List.intercalate_cons_cons]

/-- **Skipping lines finds the clamped line**: from a line start `pre`, skipping `n` lines of
the lines that follow and reading the line around where the search stops gives line number
`n` of them, or the last one when there are not so many. -/
theorem slice_skipLines (n : Nat) {pre l : List Char} {ls : List (List Char)}
    (hpre : LineStart pre) (hl : '\n' ∉ l) (hls : ∀ x ∈ ls, '\n' ∉ x) :
    let cs := pre ++ ['\n'].intercalate (l :: ls)
    let bounds := lineBounds cs (skipLines cs pre.length n)
    slice cs bounds.1 bounds.2 = (l :: ls).getD (min n ls.length) [] := by
  -- the induction moves the first line and its line feed into `pre`
  induction n generalizing pre l ls with
  | zero =>
    -- nothing to skip: the line around the end of `pre` is the first line
    cases ls with
    | nil =>
      have h := lineBounds_line hpre hl (Or.inl rfl) (Nat.zero_le l.length)
      simp only [List.append_nil, Nat.add_zero] at h
      simp [skipLines, h, slice]
    | cons l' ls' =>
      have h := lineBounds_line hpre hl (Or.inr ⟨['\n'].intercalate (l' :: ls'), rfl⟩)
        (Nat.zero_le l.length)
      rw [Nat.add_zero] at h
      simp only [intercalate_newline_cons_cons, ← List.append_assoc, skipLines, h, slice_line]
      simp
  | succ n ih =>
    cases ls with
    | nil =>
      -- no line feed is left: the search stops at the end, on the last line
      have hfind := findNewline_line pre [] hl (Nat.zero_le l.length)
      have h := lineBounds_line hpre hl (Or.inl rfl) (le_refl l.length)
      simp only [List.append_nil, Nat.add_zero, List.idxOf?_nil, Option.map_none] at hfind h
      simp [skipLines, hfind, h, slice]
    | cons l' ls' =>
      -- the line feed after the first line: the search goes on from the next line
      have hfind := findNewline_line pre ('\n' :: ['\n'].intercalate (l' :: ls')) hl
        (Nat.zero_le l.length)
      simp only [Nat.add_zero, List.idxOf?_cons, beq_self_eq_true, if_true,
        Option.map_some] at hfind
      have hrest := ih (show LineStart (pre ++ l ++ ['\n']) from Or.inr ⟨_, rfl⟩)
        (List.forall_mem_cons.1 hls).1 (List.forall_mem_cons.1 hls).2
      have hnext : pre ++ l ++ ['\n'] ++ ['\n'].intercalate (l' :: ls') =
          pre ++ l ++ ('\n' :: ['\n'].intercalate (l' :: ls')) := by
        simp
      simp only [hnext, List.length_append, List.length_singleton] at hrest
      simp only [intercalate_newline_cons_cons, ← List.append_assoc, skipLines, hfind]
      rw [List.length_cons, Nat.add_min_add_right, List.getD_cons_succ]
      exact hrest

/-- **The line a snippet shows is the clamped line**: for line number `n`, the search by
offsets reads line number `min (max n 1) k` of the text split at line feeds, counting from
1, where `k` is the number of lines. -/
theorem lineAt_eq_lines (src : String) (n : Int) :
    lineAt src n = String.ofList ((lines src.toList).getD
      ((min (max n 1) (lines src.toList).length).toNat - 1) []) := by
  obtain ⟨l, ls, hcs⟩ := List.exists_cons_of_ne_nil (lines_ne_nil src.toList)
  have htext : src.toList = [] ++ ['\n'].intercalate (l :: ls) := by
    rw [← hcs, intercalate_lines, List.nil_append]
  have hl : '\n' ∉ l := newline_not_mem_of_mem_lines (hcs ▸ List.mem_cons_self)
  have hls : ∀ x ∈ ls, '\n' ∉ x := fun x hx =>
    newline_not_mem_of_mem_lines (hcs ▸ List.mem_cons_of_mem l hx)
  have hline := slice_skipLines (n - 1).toNat (Or.inl rfl) hl hls
  have hidx : (min (max n 1) (ls.length + 1 : Nat)).toNat - 1 = min (n - 1).toNat ls.length := by
    omega
  rw [hcs, List.length_cons, hidx, lineAt, lineStartOffset, htext]
  exact congrArg String.ofList hline

/-- The line shown for any line number holds no line feed. -/
theorem newline_not_mem_lineAt (src : String) (n : Int) : '\n' ∉ (lineAt src n).toList := by
  rw [lineAt_eq_lines]
  simp only [String.toList_ofList, List.getD_eq_getElem?_getD]
  cases hl : (lines src.toList)[(min (max n 1) (lines src.toList).length).toNat - 1]? with
  | none => simp
  | some l => exact newline_not_mem_of_mem_lines (List.mem_of_getElem? hl)

/-- The line shown for a line number that is in range is that line. -/
theorem lineAt_eq_drop {src : String} {n : Int} (hn : 1 ≤ n)
    (hlen : (n - 1).toNat < (lines src.toList).length) :
    (lineAt src n).toList = ((lines src.toList).drop (n - 1).toNat).headD [] := by
  have hmin : (min (max n 1) (lines src.toList).length).toNat - 1 = (n - 1).toNat := by omega
  rw [lineAt_eq_lines]
  simp only [hmin, String.toList_ofList, List.getD_eq_getElem?_getD]
  rw [← List.head?_drop, List.headD_eq_head?_getD]

/-- **A snippet is the clamped piece of the split source, a line feed and a caret.** -/
theorem snippet_eq_split (src : String) (line col : Int) :
    let ls := (src.split '\n').toList.map String.Slice.copy
    snippet src line col =
      ls.getD ((min (max line 1) ls.length).toNat - 1) "" ++ "\n" ++
        String.ofList (List.replicate (max (col - 1) 0).toNat ' ') ++ "^" := by
  simp only [String.toList_split_char, snippet, lineAt_eq_lines, List.length_map,
    ← lines_eq_splitOn]
  have hcol : (max (col - 1) 0).toNat = (col - 1).toNat := by omega
  rw [hcol, ← String.ofList_nil]
  simp only [List.getD_eq_getElem?_getD, List.getElem?_map, Option.getD_map]

end ImpSyntax.Source
