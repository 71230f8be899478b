import Letterbox.Envelope.Header
import Letterbox.Proofs.Text.Lines
import Letterbox.Proofs.Text.Utf8

namespace Letterbox.Header

open Text

def IsLine (l : Bytes) : Prop :=
  ∃ text : Bytes, 10 ∉ text ∧ l = text ++ [10]

def IsBlankLine (l : Bytes) : Prop :=
  l = [10] ∨ l = [13, 10]

def EndsWithBlankLine (head : Bytes) : Prop :=
  ∃ (before : List Bytes) (blank : Bytes), (∀ l ∈ before, IsLine l ∧ ¬ IsBlankLine l) ∧
    IsBlankLine blank ∧ head = before.flatten ++ blank

/-- Whether the last two line ends are next to each other and alike. -/
def IsClosed (head : Bytes) : Prop :=
  [10, 10] <:+ head ∨ [13, 10, 13, 10] <:+ head

theorem IsBlankLine.isLine {l : Bytes} (h : IsBlankLine l) : IsLine l := by
  rcases h with rfl | rfl
  · exact ⟨[], by simp, rfl⟩
  · exact ⟨[13], by decide, rfl⟩

theorem block_cons {b : UInt8} {s : Bytes} (hlf : ¬ [10, 10] <+: b :: s)
    (hcrlf : ¬ [13, 10, 13, 10] <+: b :: s) : block (b :: s) = b :: block s := by
  refine block.eq_4 b s ?_ ?_
  · rintro rest rfl rfl
    exact hlf (List.prefix_append [10, 10] rest)
  · rintro rest rfl rfl
    exact hcrlf (List.prefix_append [13, 10, 13, 10] rest)

theorem begins_of_append {s body : Bytes} (hs : IsClosed s) (h : [10, 13, 10] <+: s ++ body) :
    [10, 13, 10] <+: s := by
  match s with
  | [] => simp [IsClosed] at hs
  | [c] => simp [IsClosed, List.suffix_cons_iff] at hs
  | [c, d] =>
    have hlast : d = 10 := by
      simp only [IsClosed, List.suffix_cons_iff, List.cons.injEq] at hs
      simp_all
    rw [hlast] at h
    simp [List.cons_prefix_cons] at h
  | c :: d :: e :: s => simpa [List.cons_prefix_cons] using h

theorem block_append_of_isClosed {head : Bytes} (h : IsClosed head) (body : Bytes) :
    block (head ++ body) = block head := by
  fun_induction block head with
  | case1 => simp [IsClosed] at h
  | case2 s => rfl
  | case3 s => rfl
  | case4 b s hlf hcrlf ih =>
    have hs : IsClosed s := by
      rcases h with h | h
      · rcases List.suffix_cons_iff.mp h with heq | hsuffix
        · cases heq
          exact (hlf [] rfl rfl).elim
        · exact Or.inl hsuffix
      · rcases List.suffix_cons_iff.mp h with heq | hsuffix
        · cases heq
          exact (hcrlf [] rfl rfl).elim
        · exact Or.inr hsuffix
    rw [List.cons_append, block_cons, ih hs]
    · rw [List.cons_prefix_cons]
      rintro ⟨rfl, hnext⟩
      cases s with
      | nil => simp [IsClosed] at hs
      | cons c s =>
        rw [List.cons_append, List.cons_prefix_cons] at hnext
        exact hlf s rfl (by rw [← hnext.1])
    · rw [List.cons_prefix_cons]
      rintro ⟨rfl, hnext⟩
      obtain ⟨rest, rfl⟩ := begins_of_append hs hnext
      exact hcrlf rest rfl rfl

theorem block_line {l rest : Bytes} (hl : IsLine l) (hlf : ¬ [10] <+: rest)
    (hcrlf : [13, 10] <:+ l → ¬ [13, 10] <+: rest) : block (l ++ rest) = l ++ block rest := by
  obtain ⟨text, hfree, rfl⟩ := hl
  induction text with
  | nil =>
    refine block_cons ?_ ?_
    · rwa [List.cons_prefix_cons, and_iff_right rfl]
    · rw [List.cons_prefix_cons]
      rintro ⟨h, -⟩
      cases h
  | cons b text ih =>
    rw [List.mem_cons, not_or] at hfree
    have hrest := ih hfree.2 fun h => hcrlf (h.trans (List.suffix_cons b _))
    rw [List.cons_append, List.cons_append, block_cons, hrest, List.cons_append]
    · rw [List.cons_prefix_cons]
      exact fun h => hfree.1 h.1
    · rw [List.cons_prefix_cons]
      rintro ⟨rfl, h⟩
      cases text with
      | nil =>
        rw [List.nil_append, List.singleton_append, List.cons_prefix_cons] at h
        exact hcrlf List.suffix_rfl h.2
      | cons c text =>
        rw [List.cons_append, List.cons_append, List.cons_prefix_cons] at h
        exact hfree.2 (by simp [h.1])

theorem not_begins_blank {l : Bytes} (hl : IsLine l) (hblank : ¬ IsBlankLine l) (rest : Bytes) :
    ¬ [10] <+: l ++ rest ∧ ¬ [13, 10] <+: l ++ rest := by
  obtain ⟨text, hfree, rfl⟩ := hl
  match text with
  | [] => exact absurd (Or.inl rfl) hblank
  | [b] =>
    have hb : b ≠ 10 := by simpa [eq_comm] using hfree
    have hcr : b ≠ 13 := by
      rintro rfl
      exact hblank (Or.inr rfl)
    simp [List.cons_prefix_cons, hb.symm, hcr.symm]
  | b :: c :: text =>
    have hbc : (10 : UInt8) ≠ b ∧ (10 : UInt8) ≠ c := by
      simp only [List.mem_cons, not_or] at hfree
      exact ⟨hfree.1, hfree.2.1⟩
    simp [List.cons_prefix_cons, hbc.1, hbc.2]

theorem block_lines {before : List Bytes} (hbefore : ∀ l ∈ before, IsLine l ∧ ¬ IsBlankLine l)
    {rest : Bytes} (hlf : before ≠ [] → ¬ [10] <+: rest)
    (hcrlf : [13, 10] <:+ before.flatten → ¬ [13, 10] <+: rest) :
    block (before.flatten ++ rest) = before.flatten ++ block rest := by
  induction before with
  | nil => rfl
  | cons l before ih =>
    obtain ⟨hl, -⟩ := hbefore l (by simp)
    rw [List.flatten_cons, List.append_assoc]
    cases before with
    | nil =>
      rw [List.flatten_nil, List.nil_append, List.append_nil]
      exact block_line hl (hlf (by simp)) (by simpa using hcrlf)
    | cons next before =>
      obtain ⟨hnext, hblank⟩ := hbefore next (by simp)
      have hbegins := not_begins_blank hnext hblank (before.flatten ++ rest)
      rw [← List.append_assoc, ← List.flatten_cons] at hbegins
      have hrest := ih (fun l' hl' => hbefore l' (by simp [hl'])) (fun _ => hlf (by simp))
        (fun h => hcrlf (h.trans (List.suffix_append l _)))
      rw [block_line hl hbegins.1 (fun _ => hbegins.2), hrest, List.append_assoc]

theorem ends_of_lines {ls : List Bytes} (hls : ∀ l ∈ ls, IsLine l) (hne : ls ≠ []) :
    ∃ start, ls.flatten = start ++ [10] := by
  obtain ⟨init, l, rfl⟩ := (List.eq_nil_or_concat ls).resolve_left hne
  obtain ⟨text, -, rfl⟩ := hls l (by simp)
  exact ⟨init.flatten ++ text, by simp⟩

theorem block_append_of_not_isClosed {head : Bytes} (h : EndsWithBlankLine head)
    (hopen : ¬ IsClosed head) {body : Bytes} (hlf : ¬ [10] <+: body) (hcrlf : ¬ [13, 10] <+: body) :
    block (head ++ body) = head ++ block body := by
  obtain ⟨before, blank, hbefore, hblank, rfl⟩ := h
  rw [List.append_assoc, block_lines hbefore, block_line hblank.isLine hlf fun _ => hcrlf,
    List.append_assoc]
  · intro hne hbegins
    rcases hblank with rfl | rfl
    · obtain ⟨start, hstart⟩ := ends_of_lines (fun l hl => (hbefore l hl).1) hne
      exact hopen (Or.inl ⟨start, by rw [hstart]; simp⟩)
    · simp [List.cons_prefix_cons] at hbegins
  · intro hends hbegins
    rcases hblank with rfl | rfl
    · simp [List.cons_prefix_cons] at hbegins
    · obtain ⟨init, hinit⟩ := hends
      exact hopen (Or.inr ⟨init, by rw [← hinit]; simp⟩)

theorem decode_append_lineFeed (s rest : Bytes) :
    decode (s ++ [10] ++ rest) = decode s ++ ['\n'] ++ decode rest := by
  rw [List.append_assoc, List.append_assoc]
  exact decode_append_ascii s (by decide) rest

theorem EndsWithBlankLine.decode_append {head : Bytes} (h : EndsWithBlankLine head) :
    ∃ s, ∀ rest, decode (head ++ rest) = s ++ ['\n'] ++ decode rest := by
  obtain ⟨before, blank, -, hblank, rfl⟩ := h
  obtain ⟨text, -, rfl⟩ := hblank.isLine
  refine ⟨decode (before.flatten ++ text), ?_⟩
  intro rest
  rw [← decode_append_lineFeed, List.append_assoc before.flatten text]

theorem unfold_append_line {line : List Char} {f : Field} (hfirst : isContinuation line = false)
    (hbegin : begin? line = some (some f)) (open? : Option Field) (ls : List (List Char)) :
    unfold open? (ls ++ [line]) = unfold open? ls ++ [f] := by
  induction ls generalizing open? with
  | nil => simp [unfold, hfirst, hbegin]
  | cons l ls ih =>
    rw [List.cons_append, unfold, unfold]
    split
    · exact ih _
    · split
      · rw [ih, List.append_assoc]
      · exact ih _

theorem fields_append_line (s : List Char) {line : List Char} {f : Field} (hone : '\n' ∉ line)
    (hne : line ≠ []) (hfirst : isContinuation line = false)
    (hbegin : begin? line = some (some f)) :
    fields (s ++ '\n' :: line) = fields (s ++ ['\n']) ++ [f] := by
  have hline : lines line = [line] := by
    rw [lines, splitAt_eq_singleton_of_not_mem hone, endLines, if_neg (by simpa using hne)]
  have hnone : lines [] = [] := rfl
  rw [fields, fields, lines_append, lines_append, hline, hnone, List.append_nil,
    unfold_append_line hfirst hbegin]

theorem read_append_iff {head : Bytes} (h : EndsWithBlankLine head) :
    (∀ body other, read (head ++ body) = read (head ++ other)) ↔ IsClosed head := by
  constructor
  · intro hsame
    by_contra hopen
    -- a body of one short field, and none
    have hfield := hsame [120, 58, 121] []
    have hbody : decode (block [120, 58, 121]) = ['x', ':', 'y'] := by decide +kernel
    have hnone : decode (block []) = [] := by decide +kernel
    obtain ⟨s, hs⟩ := h.decode_append
    rw [read, read, block_append_of_not_isClosed h hopen (by decide) (by decide),
      block_append_of_not_isClosed h hopen (by decide) (by decide), hs, hs, hbody, hnone,
      List.append_nil, List.append_assoc, List.singleton_append,
      fields_append_line s (f := (['x'], ['y'])) (by decide) (by decide) rfl (by decide +kernel)]
      at hfield
    simp at hfield
  · intro hclosed body other
    rw [read, read, block_append_of_isClosed hclosed, block_append_of_isClosed hclosed]

theorem read_append_iff_crlf :
    let head : Bytes := encode "Subject: a\r\n\r\n".toList
    EndsWithBlankLine head ∧ ∀ body other, read (head ++ body) = read (head ++ other) := by
  intro head
  have hhead : EndsWithBlankLine head := by
    refine ⟨[encode "Subject: a\r\n".toList], [13, 10], ?_, Or.inr rfl, by decide +kernel⟩
    intro l hl
    obtain rfl := List.mem_singleton.mp hl
    exact ⟨⟨encode "Subject: a\r".toList, by decide +kernel, by decide +kernel⟩,
      by unfold IsBlankLine; decide +kernel⟩
  exact ⟨hhead, (read_append_iff hhead).mpr (Or.inr (by decide +kernel))⟩

theorem read_append_mixed :
    let head : Bytes := encode "Subject: a\n\r\n".toList
    EndsWithBlankLine head ∧ read (head ++ []) = [("subject".toList, "a".toList)] ∧
      read (head ++ encode "X-Tags: b\n".toList) =
        [("subject".toList, "a".toList), ("x-tags".toList, "b".toList)] := by
  intro head
  refine ⟨⟨[encode "Subject: a\n".toList], [13, 10], ?_, Or.inr rfl, by decide +kernel⟩,
    by decide +kernel, by decide +kernel⟩
  intro l hl
  obtain rfl := List.mem_singleton.mp hl
  exact ⟨⟨encode "Subject: a".toList, by decide +kernel, by decide +kernel⟩,
    by unfold IsBlankLine; decide +kernel⟩

end Letterbox.Header
