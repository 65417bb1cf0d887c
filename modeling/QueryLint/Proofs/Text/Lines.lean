import Mathlib.Data.List.Basic
import QueryLint.Proofs.Text.Trimming
import QueryLint.Text.Position

/-!
# The line of a place in a text

What stands in front of a place is a number of whole lines, each with its line feed, and the front
of the line of the place, in which there is no line feed (`exists_wholeLines`).  The number of the
lines and the length of that front are what the position of the place is made of, and the line with
that number goes on behind the front with what stands at the place.

A line is shown without its line break, which may have a carriage return.  So what is shown of a
part of the text ends with the line, and the part may begin in the line break, unless it is framed.

* `WholeLines`: a text of whole lines.
* `LineEnd`: what stands behind a line as it is shown.
* `ShowsPart`: what a line shows of a part of the text.
* `positionAt_eq`: the position of a place.
* `Placed`: all of this for a part of a text, and `exists_placed`: every framed part has its place.
-/

namespace QueryLint.Text

/-! ## Whole lines -/

/-- A text of whole lines, each with its line feed. -/
inductive WholeLines : List Char → Prop
  | nil : WholeLines []
  | cons {body rest : List Char} (hbody : '\n' ∉ body) (hrest : WholeLines rest) :
    WholeLines (body ++ '\n' :: rest)

/-- Every text is made of whole lines and of what stands behind them without a line feed. -/
theorem exists_wholeLines (cs : List Char) :
    ∃ done lead, cs = done ++ lead ∧ WholeLines done ∧ '\n' ∉ lead := by
  induction cs with
  | nil => exact ⟨[], [], rfl, .nil, List.not_mem_nil⟩
  | cons c cs ih =>
    obtain ⟨done, lead, rfl, hdone, hlead⟩ := ih
    by_cases hc : c = '\n'
    · subst hc
      exact ⟨'\n' :: done, lead, rfl, .cons List.not_mem_nil hdone, hlead⟩
    · have hne : '\n' ≠ c := Ne.symm hc
      cases hdone with
      | nil => exact ⟨[], c :: lead, rfl, .nil, List.not_mem_cons_of_ne_of_not_mem hne hlead⟩
      | @cons body rest hbody hrest =>
        exact ⟨c :: body ++ '\n' :: rest, lead, rfl,
          .cons (List.not_mem_cons_of_ne_of_not_mem hne hbody) hrest, hlead⟩

/-! ## Positions -/

theorem foldl_next_of_notMem {cs : List Char} (h : '\n' ∉ cs) (p : Position) :
    cs.foldl Position.next p = ⟨p.line, p.column + cs.length⟩ := by
  induction cs generalizing p with
  | nil => rfl
  | cons c cs ih =>
    rw [List.mem_cons, not_or] at h
    have hnext : p.next c = ⟨p.line, p.column + 1⟩ := if_neg (Ne.symm h.1)
    rw [List.foldl_cons, ih h.2, hnext, List.length_cons, Nat.add_right_comm, Nat.add_assoc]

theorem WholeLines.foldl_next {cs : List Char} (h : WholeLines cs) (n : Nat) :
    cs.foldl Position.next ⟨n, 1⟩ = ⟨n + cs.count '\n', 1⟩ := by
  induction h generalizing n with
  | nil => rfl
  | @cons body rest hbody hrest ih =>
    have hnext : Position.next ⟨n, 1 + body.length⟩ '\n' = ⟨n + 1, 1⟩ := if_pos rfl
    rw [List.foldl_append, List.foldl_cons, foldl_next_of_notMem hbody, hnext, ih,
      List.count_append, List.count_eq_zero.2 hbody, List.count_cons_self]
    congr 1
    omega

/-- The position of a place tells how many line feeds stand in front of it, and how many characters
there are in its line. -/
theorem positionAt_eq {done lead : List Char} (hdone : WholeLines done) (hlead : '\n' ∉ lead)
    (back : List Char) :
    positionAt (byteSize (done ++ lead)) (done ++ lead ++ back) =
      ⟨1 + (done ++ lead).count '\n', 1 + lead.length⟩ := by
  rw [positionAt_append, List.foldl_append, Position.start, hdone.foldl_next,
    foldl_next_of_notMem hlead, List.count_append, List.count_eq_zero.2 hlead, Nat.add_zero]

/-! ## Lines -/

/-- What stands behind a line as it is shown: a line feed, maybe behind a carriage return, or
nothing. -/
inductive LineEnd : List Char → Prop
  | atEnd : LineEnd []
  | feed (behind : List Char) : LineEnd ('\n' :: behind)
  | returnFeed (behind : List Char) : LineEnd ('\r' :: '\n' :: behind)

theorem brokenLines_line {body : List Char} (h : '\n' ∉ body) (rest : List Char) :
    brokenLines (body ++ '\n' :: rest) = (body ++ ['\n']) :: brokenLines rest := by
  induction body with
  | nil => rw [List.nil_append, brokenLines, if_pos rfl, List.nil_append]
  | cons c body ih =>
    rw [List.mem_cons, not_or] at h
    rw [List.cons_append, brokenLines, if_neg (Ne.symm h.1), ih h.2, List.cons_append]

theorem brokenLines_of_notMem {cs : List Char} (h : '\n' ∉ cs) (hne : cs ≠ []) :
    brokenLines cs = [cs] := by
  induction cs with
  | nil => exact absurd rfl hne
  | cons c cs ih =>
    rw [List.mem_cons, not_or] at h
    rw [brokenLines, if_neg (Ne.symm h.1)]
    cases cs with
    | nil => rfl
    | cons d ds => rw [ih h.2 (List.cons_ne_nil d ds)]

theorem WholeLines.linesOf_append {done : List Char} (h : WholeLines done) (rest : List Char) :
    linesOf (done ++ rest) = linesOf done ++ linesOf rest := by
  induction h with
  | nil => rfl
  | @cons body more hbody hmore ih =>
    rw [List.append_assoc, List.cons_append, linesOf, brokenLines_line hbody, linesOf,
      brokenLines_line hbody]
    exact congrArg (_ :: ·) ih

theorem WholeLines.length_linesOf {done : List Char} (h : WholeLines done) :
    (linesOf done).length = done.count '\n' := by
  induction h with
  | nil => rfl
  | @cons body more hbody hmore ih =>
    rw [linesOf, brokenLines_line hbody, List.map_cons, List.length_cons, List.count_append,
      List.count_eq_zero.2 hbody, List.count_cons_self, ← ih, linesOf, Nat.zero_add]

/-- A line with its line feed is shown without its line break. -/
theorem exists_withoutBreak {body : List Char} (hbody : '\n' ∉ body) (behind : List Char) :
    '\n' ∉ withoutBreak (body ++ ['\n']) ∧ ∃ tail,
      body ++ '\n' :: behind = withoutBreak (body ++ ['\n']) ++ tail ∧ LineEnd tail := by
  have hline : withoutBreak (body ++ ['\n']) =
      if body.getLast? = some '\r' then body.dropLast else body := by
    rw [withoutBreak, List.getLast?_concat, if_pos rfl, List.dropLast_concat]
  rw [hline]
  by_cases hlast : body.getLast? = some '\r'
  · rw [if_pos hlast]
    refine ⟨fun h => hbody (List.dropLast_subset body h), '\r' :: '\n' :: behind, ?_,
      .returnFeed behind⟩
    obtain ⟨front, rfl⟩ := List.getLast?_eq_some_iff.1 hlast
    rw [List.dropLast_concat, List.append_assoc, List.singleton_append]
  · rw [if_neg hlast]
    exact ⟨hbody, '\n' :: behind, rfl, .feed behind⟩

/-- A text without line feeds is one line. -/
theorem linesOf_of_notMem {cs : List Char} (h : '\n' ∉ cs) (hne : cs ≠ []) : linesOf cs = [cs] := by
  have hline : withoutBreak cs = cs := by
    rw [withoutBreak, if_neg fun hlast => h (List.mem_of_getLast? hlast)]
  rw [linesOf, brokenLines_of_notMem h hne, List.map_singleton, hline]

/-- Lines are shown without line feeds. -/
theorem newline_notMem_of_mem_linesOf {cs line : List Char} (h : line ∈ linesOf cs) :
    '\n' ∉ line := by
  obtain ⟨done, lead, rfl, hdone, hlead⟩ := exists_wholeLines cs
  rw [hdone.linesOf_append] at h
  rcases List.mem_append.1 h with h | h
  · induction hdone with
    | nil => exact absurd h List.not_mem_nil
    | @cons body rest hbody hrest ih =>
      rw [linesOf, brokenLines_line hbody, List.map_cons] at h
      rcases List.mem_cons.1 h with rfl | hline
      · exact (exists_withoutBreak hbody []).1
      · exact ih (List.mem_append_left _ hline) hline
  · by_cases hne : lead = []
    · subst hne
      exact absurd h List.not_mem_nil
    · rw [linesOf_of_notMem hlead hne] at h
      rwa [List.mem_singleton.1 h]

/-- The first line of a text is what the text begins with, up to a line break or the end. -/
theorem exists_firstLine {cs : List Char} (hne : cs ≠ []) : ∃ row tail,
    (linesOf cs)[0]? = some row ∧ '\n' ∉ row ∧ cs = row ++ tail ∧ LineEnd tail := by
  by_cases hmem : '\n' ∈ cs
  · obtain ⟨body, behind, rfl, hbody⟩ := List.eq_append_cons_of_mem hmem
    obtain ⟨hrow, tail, hsplit, htail⟩ := exists_withoutBreak hbody behind
    refine ⟨_, tail, ?_, hrow, hsplit, htail⟩
    rw [linesOf, brokenLines_line hbody]
    rfl
  · refine ⟨cs, [], ?_, hmem, (List.append_nil cs).symm, .atEnd⟩
    rw [linesOf_of_notMem hmem hne]
    rfl

/-- The line behind some whole lines begins where they end. -/
theorem WholeLines.exists_line? {done cs : List Char} (hdone : WholeLines done) (hne : cs ≠ []) :
    ∃ row tail, line? (1 + done.count '\n') (done ++ cs) = some row ∧ '\n' ∉ row ∧
      cs = row ++ tail ∧ LineEnd tail := by
  obtain ⟨row, tail, hrow, hmem, hsplit, htail⟩ := exists_firstLine hne
  refine ⟨row, tail, ?_, hmem, hsplit, htail⟩
  rw [line?, hdone.linesOf_append, Nat.add_sub_cancel_left, ← hdone.length_linesOf,
    List.getElem?_append_right (Nat.le_refl _), Nat.sub_self, hrow]

/-! ## Parts of a line -/

/-- What stands between a line and the next. -/
def IsLineBreak (cs : List Char) : Prop := cs = ['\n'] ∨ cs = ['\r', '\n']

/-- What a line shows of a part of the text that begins in it behind `lead`: all of it, or what
stands in front of the first line break. -/
inductive ShowsPart (lead : List Char) : List Char → List Char → List Char → Prop
  | whole (part rest : List Char) : ShowsPart lead (lead ++ part ++ rest) part part
  | broken {shown ending : List Char} (more : List Char) (hending : IsLineBreak ending) :
    ShowsPart lead (lead ++ shown) (shown ++ ending ++ more) shown

/-- What ends a line begins with a line break, but for a carriage return alone. -/
theorem LineEnd.exists_ending {xs ys : List Char} (h : LineEnd (xs ++ ys)) (hne : xs ≠ []) :
    (∃ behind, xs = ['\r'] ∧ ys = '\n' :: behind) ∨
      ∃ ending more, xs = ending ++ more ∧ IsLineBreak ending := by
  obtain ⟨x, xs, rfl⟩ := List.exists_cons_of_ne_nil hne
  rw [List.cons_append] at h
  generalize hall : xs ++ ys = zs at h
  cases h with
  | feed => exact .inr ⟨['\n'], xs, rfl, .inl rfl⟩
  | returnFeed behind =>
    cases xs with
    | nil => exact .inl ⟨behind, rfl, hall⟩
    | cons y xs =>
      obtain ⟨rfl, -⟩ := List.cons.inj hall
      exact .inr ⟨['\r', '\n'], xs, rfl, .inr rfl⟩

theorem mem_of_isLineBreak {cs : List Char} (h : IsLineBreak cs) : '\n' ∈ cs := by
  rcases h with rfl | rfl
  · exact List.mem_singleton_self _
  · exact List.mem_cons_of_mem _ (List.mem_singleton_self _)

theorem LineEnd.isBlank_head {c : Char} {cs : List Char} (h : LineEnd (c :: cs)) :
    isBlank c = true := by
  cases h <;> decide

/-- A line goes on as long as there is no line feed, and with what is not white space. -/
theorem exists_row_eq {lead row tail cs : List Char} {c : Char} (hlead : '\n' ∉ lead)
    (hc : isBlank c = false) (htail : LineEnd tail) (hall : lead ++ c :: cs = row ++ tail) :
    ∃ x, row = lead ++ c :: x ∧ cs = x ++ tail := by
  have hnot : ∀ ys, ¬ LineEnd (c :: ys) := fun ys h => by simp [h.isBlank_head] at hc
  rcases List.append_eq_append_iff.1 hall with ⟨x, hrow, hx⟩ | ⟨x, hx, htl⟩
  · cases x with
    | nil =>
      rw [List.nil_append] at hx
      exact absurd (hx ▸ htail) (hnot cs)
    | cons d x =>
      obtain ⟨rfl, hcs⟩ := List.cons.inj hx
      exact ⟨x, hrow, hcs⟩
  · rw [htl] at htail
    by_cases hne : x = []
    · subst hne
      exact absurd htail (hnot cs)
    · rcases htail.exists_ending hne with ⟨behind, -, hbehind⟩ | ⟨ending, more, rfl, hending⟩
      · obtain ⟨rfl, -⟩ := List.cons.inj hbehind
        exact absurd hc (by decide)
      · refine absurd ?_ hlead
        rw [hx]
        exact List.mem_append_right _ (List.mem_append_left _ (mem_of_isLineBreak hending))

/-- A framed part that begins behind `lead`, in which there is no line feed, is shown from its first
character on. -/
theorem exists_showsPart {lead part behind row tail : List Char} (hlead : '\n' ∉ lead)
    (hpart : Framed part) (htail : LineEnd tail) (hall : lead ++ part ++ behind = row ++ tail) :
    ∃ shown, shown ≠ [] ∧ ShowsPart lead row part shown := by
  obtain ⟨c, cs, rfl⟩ := List.exists_cons_of_ne_nil hpart.ne_nil
  have hc : isBlank c = false := hpart.head c rfl
  rw [List.append_assoc, List.cons_append] at hall
  obtain ⟨x, rfl, hx⟩ := exists_row_eq hlead hc htail hall
  -- the part ends in the line, or the line in the part
  rcases List.append_eq_append_iff.1 hx with ⟨rest, rfl, -⟩ | ⟨left, rfl, htl⟩
  · refine ⟨c :: cs, List.cons_ne_nil _ _, ?_⟩
    rw [← List.cons_append, ← List.append_assoc]
    exact .whole (c :: cs) rest
  · by_cases hne : left = []
    · subst hne
      rw [List.append_nil]
      have hwhole : ShowsPart lead (lead ++ c :: x ++ []) (c :: x) (c :: x) := .whole (c :: x) []
      rw [List.append_nil] at hwhole
      exact ⟨c :: x, List.cons_ne_nil _ _, hwhole⟩
    · rw [htl] at htail
      rcases htail.exists_ending hne with ⟨_, rfl, -⟩ | ⟨ending, more, rfl, hending⟩
      · have hlast := hpart.last '\r' (by rw [← List.cons_append, List.getLast?_concat]; rfl)
        exact absurd hlast (by decide)
      · refine ⟨c :: x, List.cons_ne_nil _ _, ?_⟩
        rw [← List.cons_append, ← List.append_assoc]
        exact .broken more hending

/-- Where a part of a text stands: `done` are the whole lines in front of its line, `lead` is what
its line has in front of it, and `row` is its line as it is shown, which has `shown` of the part. -/
structure Placed (text part done lead row shown : List Char) : Prop where
  text_eq : ∃ behind, text = done ++ lead ++ part ++ behind
  wholeLines : WholeLines done
  notMem_lead : '\n' ∉ lead
  row_eq : ∃ tail, text = done ++ row ++ tail ∧ LineEnd tail
  notMem_row : '\n' ∉ row
  showsPart : ShowsPart lead row part shown
  shown_ne_nil : shown ≠ []

variable {text part done lead row shown : List Char}

/-- A framed part of a text has a place, and the line of that place is found. -/
theorem exists_placed {front behind : List Char} (htext : text = front ++ part ++ behind)
    (hpart : Framed part) : ∃ done lead row shown, front = done ++ lead ∧
      Placed text part done lead row shown ∧ line? (1 + front.count '\n') text = some row := by
  obtain ⟨done, lead, rfl, hdone, hlead⟩ := exists_wholeLines front
  have hsplit : text = done ++ (lead ++ part ++ behind) := by
    rw [htext, List.append_assoc done, List.append_assoc done]
  have hne : lead ++ part ++ behind ≠ [] := by simp [hpart.ne_nil]
  obtain ⟨row, tail, hrow, hmem, hall, htail⟩ := hdone.exists_line? hne
  obtain ⟨shown, hshown, hshows⟩ := exists_showsPart hlead hpart htail hall
  refine ⟨done, lead, row, shown, rfl, ⟨⟨behind, htext⟩, hdone, hlead, ⟨tail, ?_, htail⟩, hmem,
    hshows, hshown⟩, ?_⟩
  · rw [hsplit, hall, List.append_assoc]
  · rw [List.count_append, List.count_eq_zero.2 hlead, Nat.add_zero, hsplit, hrow]

/-- The position of a part of a text. -/
theorem Placed.positionAt_eq (h : Placed text part done lead row shown) :
    positionAt (byteSize (done ++ lead)) text =
      ⟨1 + (done ++ lead).count '\n', 1 + lead.length⟩ := by
  obtain ⟨behind, rfl⟩ := h.text_eq
  rw [List.append_assoc (done ++ lead), Text.positionAt_eq h.wholeLines h.notMem_lead]

/-- What is shown of a part begins as the part does. -/
theorem ShowsPart.exists_append (h : ShowsPart lead row part shown) :
    (∃ rest, row = lead ++ shown ++ rest) ∧ ∃ hidden, part = shown ++ hidden := by
  cases h with
  | whole part rest => exact ⟨⟨rest, rfl⟩, [], (List.append_nil part).symm⟩
  | broken more hending => exact ⟨⟨[], (List.append_nil _).symm⟩, _, List.append_assoc ..⟩

/-- In its line a part stands behind what is in front of it. -/
theorem Placed.getElem?_row (h : Placed text part done lead row shown) :
    row[lead.length]? = part.head? := by
  obtain ⟨⟨rest, rfl⟩, hidden, rfl⟩ := h.showsPart.exists_append
  rw [List.append_assoc, List.getElem?_append_right (Nat.le_refl _), Nat.sub_self,
    ← List.head?_eq_getElem?, List.head?_append_of_ne_nil _ h.shown_ne_nil,
    List.head?_append_of_ne_nil _ h.shown_ne_nil]

end QueryLint.Text
