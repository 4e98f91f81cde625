import Mathlib.Data.List.Forall2
import SqlppBench.Http.Answer
import SqlppBench.Proofs.Text.Pieces
import SqlppBench.Proofs.Text.Utf8

/-! # The lines of a body

Lines of text that were joined by line feeds arrive as they were, up to a carriage return at the end
of each, which is a blank (`forall₂_arrives_lines`). What comes behind them does not matter for
them, be it no text or cut off. A body that is cut off has the lines that are complete in it in
common with the whole one (`Body.IsCutOf.exists_lines`).
-/

namespace SqlppBench

namespace Http

/-- Bytes of one line. -/
def IsLine (s : Bytes) : Prop := lineFeed ∉ s

/-- No byte of a line ends it. -/
theorem IsLine.beq_lineFeed {s : Bytes} (h : IsLine s) : ∀ b ∈ s, (b == lineFeed) = false := by
  intro b hb
  rw [beq_eq_false_iff_ne]
  rintro rfl
  exact h hb

/-- A line that a line feed ends comes first. -/
theorem lines_append_lineFeed {s : Bytes} (h : IsLine s) (rest : Bytes)
    (failure : Option String) :
    Body.lines ⟨s ++ lineFeed :: rest, failure⟩ =
      Line.ofBytes (withoutReturn s) :: Body.lines ⟨rest, failure⟩ := by
  obtain ⟨piece, pieces, hpieces⟩ := Text.exists_piecesBy (· == lineFeed) rest
  simp only [Body.lines, Text.piecesBy_append_cons h.beq_lineFeed (beq_self_eq_true lineFeed),
    hpieces]
  rw [List.dropLast_cons_of_ne_nil (by simp), List.getLast?_cons_cons]
  rfl

/-- The last line needs no line feed. -/
theorem lines_of_isLine {s : Bytes} (h : IsLine s) (hne : s ≠ []) :
    Body.lines ⟨s, none⟩ = [Line.ofBytes s] := by
  simp [Body.lines, Text.piecesBy_of_forall h.beq_lineFeed, hne]

/-! ## Bodies that are cut off -/

/-- A body that is cut off: some first bytes of the whole one arrive, and then reading fails. -/
structure Body.IsCutOf (cut whole : Body) (reason : String) : Prop where
  arrived : cut.bytes <+: whole.bytes
  failure : cut.failure = some reason

/-- An unfinished line is not read. -/
theorem lines_of_unfinished {s : Bytes} (h : IsLine s) (reason : String) :
    Body.lines ⟨s, some reason⟩ = [.error (.broken reason)] := by
  simp [Body.lines, Text.piecesBy_of_forall h.beq_lineFeed]

/-- The lines that are complete when reading fails are the first ones, whatever was to come. -/
theorem exists_lines_append (s rest : Bytes) (reason : String) (failure : Option String) :
    ∃ complete others, Body.lines ⟨s, some reason⟩ = complete ++ [.error (.broken reason)] ∧
      Body.lines ⟨s ++ rest, failure⟩ = complete ++ others := by
  induction hn : s.length using Nat.strongRecOn generalizing s with
  | ind n ih =>
      by_cases hline : IsLine s
      · exact ⟨[], _, lines_of_unfinished hline reason, rfl⟩
      · -- the first line is complete, and the others are shorter
        obtain ⟨line, later, rfl, hfirst⟩ := List.eq_append_cons_of_mem (not_not.1 hline)
        have hlater : later.length < n := by
          rw [← hn, List.length_append, List.length_cons]
          omega
        obtain ⟨complete, others, hcut, hwhole⟩ := ih later.length hlater later rfl
        refine ⟨Line.ofBytes (withoutReturn line) :: complete, others, ?_, ?_⟩
        · rw [lines_append_lineFeed hfirst, hcut, List.cons_append]
        · rw [List.append_assoc, List.cons_append, lines_append_lineFeed hfirst, hwhole,
            List.cons_append]

theorem Body.IsCutOf.exists_lines {cut whole : Body} {reason : String}
    (h : cut.IsCutOf whole reason) :
    ∃ complete others, cut.lines = complete ++ [.error (.broken reason)] ∧
      whole.lines = complete ++ others := by
  obtain ⟨bytes, failure⟩ := cut
  obtain ⟨arrived, rfl⟩ := h
  obtain ⟨rest, hrest⟩ := arrived
  obtain ⟨complete, others, hcut, hwhole⟩ := exists_lines_append bytes rest reason whole.failure
  refine ⟨complete, others, hcut, ?_⟩
  rw [← hwhole, hrest]

/-! ## Lines of text -/

/-- A line arrives as it was, up to a carriage return at its end. -/
def Arrives (line : String) (arrived : Line) : Prop :=
  arrived = .ok line ∨ ∃ s, line.toList = s ++ ['\x0D'] ∧ arrived = .ok (String.ofList s)

theorem isLine_encode {line : String} (h : '\n' ∉ line.toList) : IsLine (Utf8.encode line) := by
  intro hmem
  exact h (Utf8.mem_of_mem_encodeChars hmem (by decide))

/-- The line feed of a line may take a carriage return with it. -/
theorem arrives_withoutReturn (line : String) :
    Arrives line (Line.ofBytes (withoutReturn (Utf8.encode line))) := by
  unfold withoutReturn
  split
  · rename_i hreturn
    right
    -- the last byte is a carriage return, so the last character is one
    have hlast : (Utf8.encode line).getLast? = some carriageReturn := by simpa using hreturn
    rcases List.eq_nil_or_concat line.toList with hnil | ⟨s, c, hconcat⟩
    · simp [Utf8.encode, hnil, Utf8.encodeChars] at hlast
    · have hbytes : Utf8.encode line = Utf8.encodeChars s ++ String.utf8EncodeChar c := by
        rw [Utf8.encode, hconcat, List.concat_eq_append, Utf8.encodeChars_append]
        simp [Utf8.encodeChars]
      rw [hbytes, List.getLast?_append_of_ne_nil _ String.utf8EncodeChar_ne_nil] at hlast
      have hc : c = '\x0D' :=
        Utf8.eq_of_mem_utf8EncodeChar (List.mem_of_getLast? hlast) (by decide)
      subst hc
      have hdrop : (Utf8.encode line).dropLast = Utf8.encodeChars s := by
        rw [hbytes, Utf8.utf8EncodeChar_ascii (by decide), List.dropLast_concat]
      refine ⟨s, by rw [hconcat, List.concat_eq_append], ?_⟩
      rw [hdrop, Line.ofBytes, Utf8.decode?, Utf8.decodeChars?_encodeChars]
      rfl
  · left
    simp [Line.ofBytes]

/-- Lines that were joined by line feeds arrive. The last of them must not be empty unless there is
something behind it. -/
theorem forall₂_arrives_lines {lines : List String} (hlines : ∀ line ∈ lines, '\n' ∉ line.toList)
    {trailing : List Bytes} {failure : Option String}
    (hend : trailing ≠ [] ∨ failure = none ∧ lines.getLast? ≠ some "") :
    ∃ arrived rest,
      Body.lines ⟨[lineFeed].intercalate (lines.map Utf8.encode ++ trailing), failure⟩ =
        arrived ++ rest ∧ List.Forall₂ Arrives lines arrived := by
  induction lines with
  | nil => exact ⟨[], _, rfl, .nil⟩
  | cons line lines ih =>
      have hline := isLine_encode (hlines line (by simp))
      -- the last line of all has no line feed behind it and is not split off by one
      by_cases hmore : lines.map Utf8.encode ++ trailing = []
      · obtain ⟨hnil, rfl⟩ := List.append_eq_nil_iff.1 hmore
        obtain rfl : lines = [] := List.map_eq_nil_iff.1 hnil
        obtain ⟨rfl, hlast⟩ : failure = none ∧ [line].getLast? ≠ some "" := by simpa using hend
        have hne : Utf8.encode line ≠ [] := by
          intro hempty
          rw [Utf8.encode_eq_nil_iff] at hempty
          simp [hempty] at hlast
        refine ⟨[Line.ofBytes (Utf8.encode line)], [], ?_, .cons (.inl ?_) .nil⟩
        · simpa using lines_of_isLine hline hne
        · simp [Line.ofBytes]
      · have hothers : trailing ≠ [] ∨ failure = none ∧ lines.getLast? ≠ some "" := by
          rcases hend with htrailing | ⟨hfailure, hlast⟩
          · exact .inl htrailing
          · cases lines with
            | nil => exact .inl (by simpa using hmore)
            | cons next lines => exact .inr ⟨hfailure, by simpa using hlast⟩
        obtain ⟨arrived, rest, hbody, harrived⟩ :=
          ih (fun line hmem => hlines line (List.mem_cons_of_mem _ hmem)) hothers
        refine ⟨_ :: arrived, rest, ?_, .cons (arrives_withoutReturn line) harrived⟩
        rw [List.map_cons, List.cons_append, List.intercalate_cons_of_ne_nil hmore,
          List.append_assoc, List.singleton_append, lines_append_lineFeed hline, hbody]
        rfl

end Http

end SqlppBench
