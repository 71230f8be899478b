import Letterbox.Envelope.Header
import Letterbox.Proofs.Text.Lines
import Letterbox.Proofs.Text.Trim

namespace Letterbox.Header

open Text

inductive LineEnd where
  | lf
  | crlf
  deriving DecidableEq, Repr

def LineEnd.text : LineEnd → List Char
  | .lf => ['\n']
  | .crlf => ['\r', '\n']

structure Segment where
  text : List Char
  oneLine : '\n' ∉ text
  trimmed : IsTrimmed text

structure Fold where
  ending : LineEnd
  tab : Bool
  segment : Segment
  nonempty : segment.text ≠ []

structure FoldedField where
  name : List Char
  named : name ≠ []
  plain : ∀ c ∈ name, c ≠ ':' ∧ isBlank c = false
  spaced : Bool
  first : Segment
  folds : List Fold
  ending : LineEnd

namespace Fold

def line (f : Fold) : List Char :=
  (if f.tab then '\t' else ' ') :: f.segment.text

def write (f : Fold) : List Char :=
  f.ending.text ++ f.line

end Fold

namespace FoldedField

def firstLine (f : FoldedField) : List Char :=
  f.name ++ ':' :: ((if f.spaced then [' '] else []) ++ f.first.text)

def text (f : FoldedField) : List Char :=
  f.firstLine ++ f.folds.flatMap Fold.write

def write (f : FoldedField) : List Char :=
  f.text ++ f.ending.text

def value (f : FoldedField) : List Char :=
  joinWith [' '] ((f.first.text :: f.folds.map fun c => c.segment.text).filter fun s => !s.isEmpty)

def unfolded (f : FoldedField) : Field :=
  (lower f.name, f.first.text ++ f.folds.flatMap fun c => ' ' :: c.segment.text)

end FoldedField

structure IsWholeLine (line : List Char) : Prop where
  oneLine : '\n' ∉ line
  last : line.getLast? ≠ some '\r'

theorem not_isBlank_lineFeed {c : Char} (hc : isBlank c = false) : c ≠ '\n' := by
  rintro rfl
  cases hc

theorem Segment.isWholeLine_append (s : Segment) {start : List Char} (hstart : IsWholeLine start) :
    IsWholeLine (start ++ s.text) where
  oneLine := by
    rw [List.mem_append, not_or]
    exact ⟨hstart.oneLine, s.oneLine⟩
  last := by
    intro hlast
    by_cases hs : s.text = []
    · rw [hs, List.append_nil] at hlast
      exact hstart.last hlast
    · rw [List.getLast?_append_of_ne_nil _ hs] at hlast
      cases s.trimmed.last _ hlast

theorem Fold.isWholeLine (f : Fold) : IsWholeLine f.line := by
  have hblank : IsWholeLine [if f.tab then '\t' else ' '] := by
    cases f.tab <;> constructor <;> decide
  exact f.segment.isWholeLine_append hblank

theorem FoldedField.isWholeLine (f : FoldedField) : IsWholeLine f.firstLine := by
  have hname : '\n' ∉ f.name := fun hmem => not_isBlank_lineFeed (f.plain _ hmem).2 rfl
  have hstart : IsWholeLine (f.name ++ ':' :: (if f.spaced then [' '] else [])) := by
    cases f.spaced <;> constructor <;> simp [hname]
  have hline := f.first.isWholeLine_append hstart
  rwa [List.append_assoc, List.cons_append] at hline

theorem lines_append_ending {line : List Char} (h : IsWholeLine line) (e : LineEnd)
    (rest : List Char) : lines (line ++ (e.text ++ rest)) = line :: lines rest := by
  cases e with
  | lf =>
    have hkept : dropReturn line = line := if_neg (by simpa using h.last)
    exact (lines_append_line h.oneLine rest).trans (by rw [hkept])
  | crlf =>
    have hone : '\n' ∉ line ++ ['\r'] := by simpa using h.oneLine
    have hkept : dropReturn (line ++ ['\r']) = line := by simp [dropReturn]
    have hlines := lines_append_line hone rest
    rw [hkept, List.append_assoc] at hlines
    exact hlines

theorem lines_append_folds {after : List Char} {rest : List (List Char)}
    (hafter : ∀ line, IsWholeLine line → line ≠ [] → lines (line ++ after) = line :: rest)
    (folds : List Fold) {line : List Char} (h : IsWholeLine line) (hne : line ≠ []) :
    lines (line ++ (folds.flatMap Fold.write ++ after)) =
      line :: (folds.map Fold.line ++ rest) := by
  induction folds generalizing line with
  | nil => exact hafter line h hne
  | cons f folds ih =>
    -- the break in front of a fold ends the line before it
    have hwrite : (f :: folds).flatMap Fold.write ++ after =
        f.ending.text ++ (f.line ++ (folds.flatMap Fold.write ++ after)) := by
      simp only [List.flatMap_cons, Fold.write, List.append_assoc]
    rw [hwrite, lines_append_ending h, ih f.isWholeLine (by simp [Fold.line])]
    rfl

theorem FoldedField.lines_text (f : FoldedField) :
    lines f.text = f.firstLine :: (f.folds.map Fold.line ++ []) := by
  have hone (line : List Char) (h : IsWholeLine line) (hne : line ≠ []) :
      lines (line ++ []) = [line] := by
    rw [List.append_nil, lines, splitAt_eq_singleton_of_not_mem h.oneLine, endLines,
      if_neg (by simpa using hne)]
  have hlines := lines_append_folds hone f.folds f.isWholeLine (by simp [firstLine])
  rwa [List.append_nil] at hlines

theorem FoldedField.lines_write (f : FoldedField) (rest : List Char) :
    lines (f.write ++ rest) = f.firstLine :: (f.folds.map Fold.line ++ lines rest) := by
  rw [write, text, List.append_assoc, List.append_assoc]
  exact lines_append_folds (fun line h _ => lines_append_ending h f.ending rest) f.folds
    f.isWholeLine (by simp [firstLine])

theorem unfold_folds (f : Field) (folds : List Fold) (rest : List (List Char)) :
    unfold (some f) (folds.map Fold.line ++ rest) =
      unfold (some (f.1, f.2 ++ folds.flatMap fun c => ' ' :: c.segment.text)) rest := by
  induction folds generalizing f with
  | nil => simp
  | cons c folds ih =>
    have hcontinues : isContinuation c.line = true := by
      unfold Fold.line
      cases c.tab <;> rfl
    have hblank : isBlank (if c.tab then '\t' else ' ') = true := by
      cases c.tab <;> rfl
    have htrim : trim c.line = c.segment.text := by
      rw [Fold.line, trim_cons_of_blank hblank, c.segment.trimmed.trim_eq]
    rw [List.map_cons, List.cons_append, unfold, if_pos hcontinues, extend, Option.map_some, htrim,
      ih, List.flatMap_cons, ← List.append_assoc]

theorem FoldedField.begin?_firstLine (f : FoldedField) :
    begin? f.firstLine = some (some (lower f.name, f.first.text)) := by
  have hcolon : ∀ c ∈ f.name, (c == ':') = false := fun c hc =>
    beq_eq_false_iff_ne.mpr (f.plain c hc).1
  have hword : IsWord f.name := ⟨f.named, fun c hc => (f.plain c hc).2⟩
  have hblank : f.name.any isBlank = false := by
    simpa using hword.2
  have hvalue : trim ((if f.spaced then [' '] else []) ++ f.first.text) = f.first.text := by
    cases f.spaced with
    | false => exact f.first.trimmed.trim_eq
    | true => exact (trim_cons_of_blank rfl _).trans f.first.trimmed.trim_eq
  rw [begin?, firstLine, cut_append hcolon (beq_self_eq_true ':'), Option.map_some]
  simp [hword.isTrimmed.trim_eq, hvalue, hblank, f.named]

theorem FoldedField.not_isContinuation (f : FoldedField) : isContinuation f.firstLine = false := by
  obtain ⟨c, name, hname⟩ := List.exists_cons_of_ne_nil f.named
  have hc := (f.plain c (by simp [hname])).2
  have hspace : c ≠ ' ' := by
    rintro rfl
    cases hc
  have htab : c ≠ '\t' := by
    rintro rfl
    cases hc
  simp [firstLine, hname, isContinuation, hspace, htab]

theorem FoldedField.unfold_lines (f : FoldedField) (open? : Option Field)
    (rest : List (List Char)) :
    unfold open? (f.firstLine :: (f.folds.map Fold.line ++ rest)) =
      open?.toList ++ unfold (some f.unfolded) rest := by
  rw [unfold, f.not_isContinuation, f.begin?_firstLine]
  exact congrArg (open?.toList ++ ·) (unfold_folds _ f.folds _)

theorem unfold_writeAll (open? : Option Field) (fs : List FoldedField) {rest : List Char}
    {others : List Field}
    (hrest : ∀ open?, unfold open? (lines rest) = open?.toList ++ others) :
    unfold open? (lines (fs.flatMap FoldedField.write ++ rest)) =
      open?.toList ++ (fs.map FoldedField.unfolded ++ others) := by
  induction fs generalizing open? with
  | nil => exact hrest open?
  | cons f fs ih =>
    rw [List.flatMap_cons, List.append_assoc, f.lines_write, f.unfold_lines, ih]
    rfl

theorem fields_writeAll (fs : List FoldedField) :
    fields (fs.flatMap FoldedField.write) = fs.map FoldedField.unfolded := by
  have hnone (open? : Option Field) : unfold open? (lines []) = open?.toList ++ [] :=
    (List.append_nil _).symm
  have hall := unfold_writeAll none fs hnone
  rwa [List.append_nil, List.append_nil] at hall

theorem fields_writeAll_text (fs : List FoldedField) (f : FoldedField) :
    fields (fs.flatMap FoldedField.write ++ f.text) = (fs ++ [f]).map FoldedField.unfolded := by
  have hlast (open? : Option Field) : unfold open? (lines f.text) = open?.toList ++ [f.unfolded] :=
    f.lines_text ▸ f.unfold_lines open? []
  rw [fields, unfold_writeAll none fs hlast, List.map_append]
  rfl

theorem FoldedField.trim_unfolded (f : FoldedField) : trim f.unfolded.2 = f.value := by
  have hfolds : ∀ s ∈ f.folds.map fun c => c.segment.text, s ≠ [] ∧ IsTrimmed s := by
    intro s hs
    obtain ⟨c, -, rfl⟩ := List.mem_map.mp hs
    exact ⟨c.nonempty, c.segment.trimmed⟩
  have hkept : ((f.folds.map fun c => c.segment.text).filter fun s => !s.isEmpty) =
      f.folds.map fun c => c.segment.text := by
    refine List.filter_eq_self.mpr ?_
    intro s hs
    simpa using (hfolds s hs).1
  have hjoined : (f.folds.flatMap fun c => ' ' :: c.segment.text) =
      (f.folds.map fun c => c.segment.text).flatMap fun s => [' '] ++ s := by
    rw [List.flatMap_map]
    rfl
  rw [unfolded, value, hjoined]
  by_cases hfirst : f.first.text = []
  · rw [hfirst, List.nil_append, List.filter_cons_of_neg (by simp), hkept]
    cases hrest : f.folds.map fun c => c.segment.text with
    | nil => rfl
    | cons s rest =>
      -- the space in front of the first segment is trimmed away
      have htrimmed : IsTrimmed (joinWith [' '] (s :: rest)) :=
        isTrimmed_joinWith (hrest ▸ hfolds)
      rw [List.flatMap_cons, List.append_assoc, ← joinWith_cons]
      exact (trim_cons_of_blank rfl _).trans htrimmed.trim_eq
  · have htrimmed : IsTrimmed (joinWith [' '] (f.first.text :: f.folds.map fun c =>
        c.segment.text)) := by
      refine isTrimmed_joinWith ?_
      intro s hs
      rcases List.mem_cons.mp hs with rfl | hs
      · exact ⟨hfirst, f.first.trimmed⟩
      · exact hfolds s hs
    rw [List.filter_cons_of_pos (by simpa using hfirst), hkept, ← joinWith_cons]
    exact htrimmed.trim_eq

theorem fields_folded (fs : List FoldedField) :
    (fields (fs.flatMap FoldedField.write)).map (fun f => (f.1, trim f.2)) =
        fs.map (fun f => (lower f.name, f.value)) ∧
      ∀ last : FoldedField,
        (fields (fs.flatMap FoldedField.write ++ last.text)).map (fun f => (f.1, trim f.2)) =
          (fs ++ [last]).map fun f => (lower f.name, f.value) := by
  have hvalues (fs : List FoldedField) :
      (fs.map FoldedField.unfolded).map (fun f => (f.1, trim f.2)) =
        fs.map fun f => (lower f.name, f.value) := by
    rw [List.map_map]
    refine List.map_congr_left ?_
    intro f _
    exact Prod.ext rfl f.trim_unfolded
  constructor
  · rw [fields_writeAll, hvalues]
  · intro last
    rw [fields_writeAll_text, hvalues]

theorem fields_folded_mixed :
    let empty : Segment := ⟨[], by decide, by decide⟩
    let uno : Segment := ⟨['1', ' ', '2'], by decide, by decide⟩
    let tre : Segment := ⟨['3', ':'], by decide, by decide⟩
    let subject : FoldedField := {
      name := ['S'], named := by decide, plain := by simp; decide, spaced := true, first := uno
      folds := [⟨.crlf, true, tre, by decide⟩, ⟨.lf, false, uno, by decide⟩], ending := .lf }
    let tags : FoldedField := {
      name := ['X', '-', 'T'], named := by decide, plain := by simp; decide, spaced := false
      first := empty, folds := [⟨.lf, true, tre, by decide⟩], ending := .crlf }
    (subject.write ++ tags.write = "S: 1 2\r\n\t3:\n 1 2\nX-T:\n\t3:\r\n".toList ∧
      (fields (subject.write ++ tags.write)).map (fun f => (f.1, trim f.2)) =
        [(['s'], "1 2 3: 1 2".toList), (['x', '-', 't'], "3:".toList)]) ∧
      (fields (tags.write ++ subject.text)).map (fun f => (f.1, trim f.2)) =
        [(['x', '-', 't'], "3:".toList), (['s'], "1 2 3: 1 2".toList)] := by
  intro empty uno tre subject tags
  obtain ⟨hended, -⟩ := fields_folded [subject, tags]
  obtain ⟨-, hopen⟩ := fields_folded [tags]
  refine ⟨⟨by decide +kernel, ?_⟩, ?_⟩
  · exact hended.trans (by decide +kernel)
  · exact (hopen subject).trans (by decide +kernel)

end Letterbox.Header
