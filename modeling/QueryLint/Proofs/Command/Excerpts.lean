import QueryLint.Command.Report
import QueryLint.Proofs.Query.Spans
import QueryLint.Proofs.Text.Lines

/-!
# Excerpts in reports for people

Under the first line of a complaint with a span stands its place, and then the line of the query
with marks under the part that the complaint is about.  Since that part neither begins nor ends in
white space, the line is always found, and the part begins in it (`exists_isExcerpt`).

Two things are not as they should be.  The number of the line takes up three places at least, but
the row of marks begins as if it took up two; so the marks begin to the left of the part
(`check_location`).  And there is a mark for each byte of the part, or of the rest of the line; so
there are too many of them as soon as these have more bytes than characters (`check_marks`).

* `placeLine`, `numberedLine`, `markLine`: the lines of an excerpt.
* `IsExcerpt`: the lines about a complaint, with the place of its part.
-/

namespace QueryLint.Command

open Text
open Schema (Model)

/-! ## The lines of an excerpt -/

/-- The line with the place of a complaint. -/
def placeLine (name : String) (line column : Nat) : String :=
  "  --> " ++ name ++ ":" ++ line.repr ++ ":" ++ column.repr

/-- A line of the query behind its number. -/
def numberedLine (number : Nat) (row : List Char) : String :=
  padLeft 3 number.repr ++ " | " ++ String.ofList row

/-- Marks behind some blanks. -/
def markLine (indent count : Nat) : String :=
  "   | " ++ repeatChar indent ' ' ++ repeatChar count '^'

/-- What to do about a complaint, if there is something. -/
def hintLines (d : Diagnostic) : List String :=
  match d.help with
  | some help => ["   = help: " ++ help]
  | none => []

variable {name sql : String} {d : Diagnostic} {s : Span}
variable {part done lead row shown : List Char}

theorem toList_repeatChar (n : Nat) (c : Char) : (repeatChar n c).toList = List.replicate n c :=
  String.toList_ofList

theorem length_padLeft (width : Nat) (s : String) :
    (padLeft width s).toList.length = max width s.length := by
  rw [padLeft, String.toList_append, String.toList_ofList, List.length_append,
    List.length_replicate, String.length_toList]
  omega

/-- The characters of the query stand behind the number and three more characters. -/
theorem getElem?_numberedLine (number : Nat) (row : List Char) (i : Nat) :
    (numberedLine number row).toList[max 3 number.repr.length + 3 + i]? = row[i]? := by
  have hfront : (padLeft 3 number.repr ++ " | ").toList.length = max 3 number.repr.length + 3 := by
    rw [String.toList_append, List.length_append, length_padLeft]
    rfl
  rw [numberedLine, String.toList_append, String.toList_ofList, ← hfront,
    List.getElem?_append_right (Nat.le_add_right _ i), Nat.add_sub_cancel_left]

/-- The first mark stands behind the blanks and five more characters. -/
theorem idxOf_markLine (indent : Nat) {count : Nat} (hcount : 1 ≤ count) :
    (markLine indent count).toList.idxOf '^' = 5 + indent := by
  obtain ⟨n, rfl⟩ := Nat.exists_eq_add_of_le' hcount
  have hfront : '^' ∉ ("   | " ++ repeatChar indent ' ').toList := by
    simp [toList_repeatChar]
  have hlength : ("   | " ++ repeatChar indent ' ').toList.length = 5 + indent := by
    rw [String.toList_append, List.length_append, toList_repeatChar, List.length_replicate]
    rfl
  rw [markLine, String.toList_append, List.idxOf_append_of_notMem hfront, hlength,
    toList_repeatChar, List.replicate_succ, List.idxOf_cons_self, Nat.add_zero]

/-! ## The number of marks -/

/-- A part that ends in its line gets a mark for each of its bytes. -/
theorem markCount_whole (hpart : part ≠ []) (before lead rest : List Char) :
    markCount (.ofParts before part) (1 + lead.length) (lead ++ part ++ rest) = byteSize part := by
  have hbytes := byteSize_pos hpart
  have hlead := length_le_byteSize lead
  simp only [markCount, Span.ofParts, byteSize_append, Nat.add_sub_cancel_left]
  omega

/-- A part that goes on behind its line also gets marks for the bytes that the line has in front of
it more than characters, as long as there are bytes of the part left. -/
theorem markCount_broken (hshown : shown ≠ []) (before lead hidden : List Char) :
    markCount (.ofParts before (shown ++ hidden)) (1 + lead.length) (lead ++ shown) =
      byteSize shown + min (byteSize hidden) (byteSize lead - lead.length) := by
  have hbytes := byteSize_pos hshown
  have hlead := length_le_byteSize lead
  simp only [markCount, Span.ofParts, byteSize_append, Nat.add_sub_cancel_left]
  omega

/-- There is a mark for each character that is shown of a part, and there are no more marks if these
characters, and those in front of them in a line in which the part does not end, are ASCII. -/
theorem length_le_markCount (h : ShowsPart lead row part shown) (hshown : shown ≠ [])
    (before : List Char) :
    shown.length ≤ markCount (.ofParts before part) (1 + lead.length) row ∧
      (markCount (.ofParts before part) (1 + lead.length) row = shown.length ↔
        IsAscii shown ∧ (shown ≠ part → IsAscii lead)) := by
  have hlength := length_le_byteSize shown
  cases h with
  | whole part rest =>
    rw [markCount_whole hshown, byteSize_eq_length_iff]
    exact ⟨hlength, fun h => ⟨h, fun hne => absurd rfl hne⟩, And.left⟩
  | @broken _ ending more hending =>
    have hlead := length_le_byteSize lead
    have hne : ending ++ more ≠ [] := by
      rcases hending with rfl | rfl <;> exact List.cons_ne_nil _ _
    have hbytes := byteSize_pos hne
    have hpart : shown ≠ shown ++ (ending ++ more) := fun h => hne (List.self_eq_append_right.1 h)
    rw [List.append_assoc, markCount_broken hshown, ← byteSize_eq_length_iff,
      ← byteSize_eq_length_iff, imp_iff_right hpart]
    omega

/-! ## Excerpts -/

/-- The lines about a complaint whose span marks `part`, which has the place that is given. -/
structure IsExcerpt (name sql : String) (d : Diagnostic) (s : Span)
    (part done lead row shown : List Char) (count : Nat) : Prop where
  span_eq : s = .ofParts (done ++ lead) part
  framed : Framed part
  placed : Placed sql.toList part done lead row shown
  count_eq : count = markCount s (1 + lead.length) row
  humanLines_eq : humanLines name sql d =
    [headLine d, placeLine name (1 + (done ++ lead).count '\n') (1 + lead.length), "   |",
      numberedLine (1 + (done ++ lead).count '\n') row, markLine lead.length count] ++
      hintLines d ++ [""]

theorem humanLines_of_span (hs : d.span = some s) :
    humanLines name sql d = headLine d :: locationLines name sql s ++ hintLines d ++ [""] := by
  rw [humanLines, hs]
  rfl

/-- Under a complaint with a span stands an excerpt. -/
theorem exists_isExcerpt {schema : Option Model} (hd : d ∈ Query.check schema sql)
    (hs : d.span = some s) (name : String) :
    ∃ part done lead row shown count, IsExcerpt name sql d s part done lead row shown count := by
  obtain ⟨part, ⟨front, behind, htext, rfl⟩, hframed⟩ := Query.exists_marks_of_mem_check hd hs
  obtain ⟨done, lead, row, shown, rfl, hplaced, hrow⟩ := exists_placed htext hframed
  refine ⟨part, done, lead, row, shown, _, rfl, hframed, hplaced, rfl, ?_⟩
  have hposition : positionAt (Span.ofParts (done ++ lead) part).offset sql.toList =
      ⟨1 + (done ++ lead).count '\n', 1 + lead.length⟩ := hplaced.positionAt_eq
  rw [humanLines_of_span hs, locationLines]
  simp only [hposition, hrow]
  rw [excerpt, Nat.add_sub_cancel_left]
  rfl

/-! ## What the reader sees -/

/-- The place that is printed is that of the character at the offset of the span.  The line of this
character is printed, too, and the character stands in it in the column that is printed; but the
first mark stands to the left of it, by one place or, in large queries, by more. -/
theorem check_location {schema : Option Model} (hd : d ∈ Query.check schema sql)
    (hs : d.span = some s) (name : String) :
    ∃ part done lead row shown count, IsExcerpt name sql d s part done lead row shown count ∧
      part ≠ [] ∧ row[lead.length]? = part.head? ∧
      (numberedLine (1 + (done ++ lead).count '\n') row).toList[
        (markLine lead.length count).toList.idxOf '^' +
          (max 3 (1 + (done ++ lead).count '\n').repr.length - 2)]? = part.head? := by
  obtain ⟨part, done, lead, row, shown, count, h⟩ := exists_isExcerpt hd hs name
  have hcount : 1 ≤ count := by
    rw [h.count_eq]
    exact Nat.le_max_left 1 _
  refine ⟨part, done, lead, row, shown, count, h, h.framed.ne_nil, h.placed.getElem?_row, ?_⟩
  generalize 1 + (done ++ lead).count '\n' = number
  have hindex : 5 + lead.length + (max 3 number.repr.length - 2) =
      max 3 number.repr.length + 3 + lead.length := by omega
  rw [idxOf_markLine lead.length hcount, hindex, getElem?_numberedLine, h.placed.getElem?_row]

/-- In front of the parenthesis there are an empty line and two characters of several bytes. -/
theorem location_closing_parenthesis :
    ∃ d ∈ Query.check none "\r\n\u3000é )\r\n", d.span = some ⟨8, 1⟩ ∧
      ∃ part done lead row shown count,
        IsExcerpt "<query>" "\r\n\u3000é )\r\n" d ⟨8, 1⟩ part done lead row shown count ∧
        part ≠ [] ∧ row[lead.length]? = part.head? ∧
        (numberedLine (1 + (done ++ lead).count '\n') row).toList[
          (markLine lead.length count).toList.idxOf '^' +
            (max 3 (1 + (done ++ lead).count '\n').repr.length - 2)]? = part.head? := by
  have hd : (Query.Finding.unexpectedClose 3).diagnostic.shifted 5 ∈
      Query.check none "\r\n\u3000é )\r\n" := by
    decide +kernel
  exact ⟨_, hd, rfl, check_location hd rfl "<query>"⟩

/-- The parenthesis is the seventh character of its line, and the mark the sixth of its own. -/
theorem mark_beside_parenthesis :
    let d := (Query.Finding.unexpectedClose 0).diagnostic
    d ∈ Query.check none ")" ∧ d.span = some ⟨0, 1⟩ ∧
      humanLines "<query>" ")" d =
        [headLine d, "  --> <query>:1:1", "   |", "  1 | )", "   | ^", ""] ∧
      "  1 | )".toList.idxOf ')' = 6 ∧ "   | ^".toList.idxOf '^' = 5 := by
  decide +kernel

/-- There is at least a mark for each character of the part that its line shows.  There are as many
marks as characters if and only if all these characters are ASCII, and, for a part that goes on
behind its line, all characters in front of it, too. -/
theorem check_marks {schema : Option Model} (hd : d ∈ Query.check schema sql)
    (hs : d.span = some s) (name : String) :
    ∃ part done lead row shown count, IsExcerpt name sql d s part done lead row shown count ∧
      shown.length ≤ count ∧
      (count = shown.length ↔ IsAscii shown ∧ (shown ≠ part → IsAscii lead)) := by
  obtain ⟨part, done, lead, row, shown, count, h⟩ := exists_isExcerpt hd hs name
  refine ⟨part, done, lead, row, shown, count, h, ?_⟩
  rw [h.count_eq, h.span_eq]
  exact length_le_markCount h.placed.showsPart h.placed.shown_ne_nil _

/-- The line has a character of two bytes in front of the part, which goes on in the next line. -/
theorem marks_join_over_lines :
    ∃ d ∈ Query.check none "é JOIN\r\nü x", d.span = some ⟨3, 10⟩ ∧
      ∃ part done lead row shown count,
        IsExcerpt "<query>" "é JOIN\r\nü x" d ⟨3, 10⟩ part done lead row shown count ∧
        shown.length ≤ count ∧
        (count = shown.length ↔ IsAscii shown ∧ (shown ≠ part → IsAscii lead)) := by
  have hd : (Query.Finding.possibleCrossJoin ⟨3, 10⟩).diagnostic ∈
      Query.check none "é JOIN\r\nü x" := by
    decide +kernel
  exact ⟨_, hd, rfl, check_marks hd rfl "<query>"⟩

/-- There are seven marks under six characters, and the line ends with the sixth. -/
theorem marks_behind_line :
    let d := (Query.Finding.possibleCrossJoin ⟨0, 7⟩).diagnostic
    d ∈ Query.check none "JOIN é" ∧ d.span = some ⟨0, 7⟩ ∧
      humanLines "<query>" "JOIN é" d =
        [headLine d, "  --> <query>:1:1", "   |", "  1 | JOIN é", "   | ^^^^^^^",
          "   = help: add an ON clause relating the joined tables", ""] ∧
      "JOIN é".length = 6 ∧ "^^^^^^^".length = 7 := by
  decide +kernel

end QueryLint.Command
