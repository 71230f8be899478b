import Letterbox.Html.Text
import Letterbox.Proofs.Text.Lines
import Letterbox.Proofs.Text.Trim
import Mathlib.Data.List.Chain

namespace Letterbox

namespace Text

def shownLines (s : List Char) : List (List Char) :=
  (lines s).filter fun l => !allBlank l

def OneShown (l k : List Char) : Prop :=
  allBlank l = false ∨ allBlank k = false

structure IsTidy (s : List Char) : Prop where
  trimmed : IsTrimmed s
  lines_trimmed : ∀ l ∈ lines s, IsTrimmed l
  lines_spaced : (lines s).IsChain OneShown

def ended (ls : List (List Char)) : List Char :=
  ls.flatMap fun l => l ++ ['\n']

theorem ended_eq_joinWith {ls : List (List Char)} (h : ls ≠ []) :
    ended ls = joinWith ['\n'] ls ++ ['\n'] := by
  induction ls with
  | nil => exact absurd rfl h
  | cons l ls ih =>
    cases ls with
    | nil => simp [ended, joinWith]
    | cons k ls =>
      have hrest := ih (by simp)
      rw [ended, List.flatMap_cons, ← ended, hrest]
      simp [joinWith]

theorem allBlank_ended {ls : List (List Char)} (h : ∀ l ∈ ls, allBlank l = true) :
    allBlank (ended ls) = true := by
  have hfeed : isBlank '\n' = true := rfl
  simp only [allBlank, List.all_eq_true] at h
  simp only [allBlank, ended, List.all_flatMap, List.all_append, List.all_eq_true, Bool.and_eq_true]
  intro l hl
  exact ⟨h l hl, by simp [hfeed]⟩

theorem mem_of_mem_dropReturn {l : List Char} {c : Char} (hc : c ∈ dropReturn l) : c ∈ l := by
  rw [dropReturn] at hc
  split at hc
  · exact (List.dropLast_sublist l).subset hc
  · exact hc

theorem not_mem_of_mem_endLines {ps : List (List Char)} (hps : ∀ p ∈ ps, '\n' ∉ p) {l : List Char}
    (hl : l ∈ endLines ps) : '\n' ∉ l := by
  induction ps with
  | nil => cases hl
  | cons p ps ih =>
    obtain ⟨hp, hps'⟩ := List.forall_mem_cons.mp hps
    cases ps with
    | nil =>
      rw [endLines] at hl
      split at hl
      · cases hl
      · exact List.mem_singleton.mp hl ▸ hp
    | cons q ps =>
      rw [endLines] at hl
      · rcases List.mem_cons.mp hl with rfl | hl
        · exact fun hmem => hp (mem_of_mem_dropReturn hmem)
        · exact ih hps' hl
      · simp

theorem not_mem_of_mem_lines {s l : List Char} (hl : l ∈ lines s) : '\n' ∉ l := by
  refine not_mem_of_mem_endLines ?_ hl
  intro p hp hmem
  exact absurd (mem_of_mem_splitAt hp hmem).2 (by simp)

theorem IsTrimmed.dropReturn_eq {l : List Char} (h : IsTrimmed l) : dropReturn l = l := by
  rw [dropReturn, if_neg]
  intro hlast
  have hblank := h.last '\r' (by simpa using hlast)
  exact absurd hblank (by decide)

theorem lines_joinWith {ls : List (List Char)} (htrimmed : ∀ l ∈ ls, IsTrimmed l)
    (hfeed : ∀ l ∈ ls, '\n' ∉ l) (hlast : ∀ l ∈ ls.getLast?, l ≠ []) :
    lines (joinWith ['\n'] ls) = ls := by
  induction ls with
  | nil => rfl
  | cons l ls ih =>
    obtain ⟨hl, hls⟩ := List.forall_mem_cons.mp htrimmed
    obtain ⟨hl', hls'⟩ := List.forall_mem_cons.mp hfeed
    cases ls with
    | nil =>
      have hne : l.isEmpty = false := by simpa using hlast l rfl
      rw [joinWith, lines, splitAt_eq_singleton_of_not_mem hl', endLines, hne]
      rfl
    | cons k ls =>
      have hrest := ih hls hls' (by simpa using hlast)
      rw [joinWith, List.append_assoc, List.singleton_append, lines_append_line hl',
        hl.dropReturn_eq, hrest]

theorem exists_joinWith_append (sep w : List Char) (ws : List (List Char)) :
    ∃ before, joinWith sep (ws ++ [w]) = before ++ w := by
  cases ws with
  | nil => exact ⟨[], rfl⟩
  | cons v ws =>
    refine ⟨v ++ (ws.flatMap fun u => sep ++ u) ++ sep, ?_⟩
    rw [List.cons_append, joinWith_cons]
    simp

theorem isTrimmed_joinWith_of_ends {sep : List Char} {ls : List (List Char)}
    (htrimmed : ∀ l ∈ ls, IsTrimmed l) (hfirst : ∀ l ∈ ls.head?, l ≠ [])
    (hlast : ∀ l ∈ ls.getLast?, l ≠ []) : IsTrimmed (joinWith sep ls) where
  first c hc := by
    cases ls with
    | nil => cases hc
    | cons l ls =>
      have hl := htrimmed l (by simp)
      rw [joinWith_cons, List.head?_append_of_ne_nil _ (hfirst l rfl)] at hc
      exact hl.first c hc
  last c hc := by
    rcases List.eq_nil_or_concat' ls with rfl | ⟨ls, l, rfl⟩
    · cases hc
    · have hl := htrimmed l (by simp)
      obtain ⟨before, hbefore⟩ := exists_joinWith_append sep l ls
      rw [hbefore, List.getLast?_append_of_ne_nil _ (hlast l (by simp))] at hc
      exact hl.last c hc

theorem exists_between {α : Type} (p : α → Bool) (l : List α) :
    ∃ before core after, l = before ++ (core ++ after) ∧ (∀ a ∈ before, p a = true) ∧
      (∀ a ∈ after, p a = true) ∧ (∀ a ∈ core.head?, p a = false) ∧
      ∀ a ∈ core.getLast?, p a = false := by
  have hprefix : (l.dropWhile p).rdropWhile p <+: l.dropWhile p := List.rdropWhile_prefix p _
  refine ⟨l.takeWhile p, (l.dropWhile p).rdropWhile p, (l.dropWhile p).rtakeWhile p, ?_, ?_, ?_, ?_,
    ?_⟩
  · rw [List.rdropWhile_append_rtakeWhile, List.takeWhile_append_dropWhile]
  · exact fun a ha => List.mem_takeWhile_imp ha
  · exact fun a ha => List.mem_rtakeWhile_imp ha
  · intro a ha
    obtain ⟨rest, hrest⟩ := hprefix
    have hnot := List.head?_dropWhile_not p l
    rw [← hrest, List.head?_append, ha] at hnot
    exact hnot
  · intro a ha
    obtain ⟨hne, rfl⟩ := List.mem_getLast?_eq_getLast ha
    exact Bool.eq_false_iff.mpr (List.rdropWhile_last_not p _ hne)

theorem trim_ended {ls : List (List Char)} (htrimmed : ∀ l ∈ ls, IsTrimmed l) :
    ∃ core, core <:+: ls ∧ trim (ended ls) = joinWith ['\n'] core ∧
      IsTrimmed (joinWith ['\n'] core) ∧ (∀ l ∈ core.getLast?, l ≠ []) ∧
      core.filter (fun l => !allBlank l) = ls.filter fun l => !allBlank l := by
  obtain ⟨before, core, after, rfl, hbefore, hafter, hfirst, hlast⟩ := exists_between allBlank ls
  have hne {l : List Char} (hl : allBlank l = false) : l ≠ [] := by
    rintro rfl
    cases hl
  have hcore : IsTrimmed (joinWith ['\n'] core) :=
    isTrimmed_joinWith_of_ends (fun l hl => htrimmed l (by simp [hl]))
      (fun l hl => hne (hfirst l hl)) fun l hl => hne (hlast l hl)
  have hdropped {ls : List (List Char)} (h : ∀ l ∈ ls, allBlank l = true) :
      ls.filter (fun l => !allBlank l) = [] := by
    rw [List.filter_eq_nil_iff]
    intro l hl
    simp [h l hl]
  refine ⟨core, ⟨before, after, by simp⟩, ?_, hcore, fun l hl => hne (hlast l hl), ?_⟩
  · have hsplit : ended (before ++ (core ++ after)) =
        ended before ++ (ended core ++ ended after) := by
      simp [ended]
    rw [hsplit, trim_blank_append (allBlank_ended hbefore),
      trim_append_blank (allBlank_ended hafter)]
    by_cases hnone : core = []
    · subst hnone
      rfl
    · rw [ended_eq_joinWith hnone, trim_append_blank rfl, hcore.trim_eq]
  · simp [hdropped hbefore, hdropped hafter]

end Text

namespace Html

open Text

def squeeze (afterBlank : Bool) : List (List Char) → List (List Char)
  | [] => []
  | l :: rest =>
    if (trim l).isEmpty then
      if afterBlank then squeeze true rest else [] :: squeeze true rest
    else trim l :: squeeze false rest

theorem cleanLines_eq (afterBlank : Bool) (ls : List (List Char)) :
    cleanLines afterBlank ls = ended (squeeze afterBlank ls) := by
  induction ls generalizing afterBlank with
  | nil => rfl
  | cons l ls ih =>
    rw [cleanLines, squeeze]
    by_cases hblank : (trim l).isEmpty
    · cases afterBlank <;> simp [hblank, ih, ended]
    · simp [hblank, ih, ended]

theorem mem_squeeze {afterBlank : Bool} {ls : List (List Char)} {l : List Char}
    (hl : l ∈ squeeze afterBlank ls) : ∃ k ∈ ls, l = trim k := by
  induction ls generalizing afterBlank with
  | nil => cases hl
  | cons k ls ih =>
    have hlater {b : Bool} (h : l ∈ squeeze b ls) : ∃ k' ∈ k :: ls, l = trim k' := by
      obtain ⟨k', hk', heq⟩ := ih h
      exact ⟨k', List.mem_cons_of_mem k hk', heq⟩
    rw [squeeze] at hl
    split at hl
    · rename_i hblank
      split at hl
      · exact hlater hl
      · rcases List.mem_cons.mp hl with rfl | hl
        · exact ⟨k, by simp, (List.isEmpty_iff.mp hblank).symm⟩
        · exact hlater hl
    · rcases List.mem_cons.mp hl with rfl | hl
      · exact ⟨k, by simp, rfl⟩
      · exact hlater hl

theorem isChain_squeeze (afterBlank : Bool) (ls : List (List Char)) :
    (squeeze afterBlank ls).IsChain OneShown ∧
      (afterBlank = true → ∀ l ∈ (squeeze afterBlank ls).head?, allBlank l = false) := by
  induction ls generalizing afterBlank with
  | nil => simp [squeeze]
  | cons l ls ih =>
    obtain ⟨hblankChain, hblankHead⟩ := ih true
    rw [squeeze]
    split
    · cases afterBlank with
      | true => exact ⟨hblankChain, hblankHead⟩
      | false =>
        refine ⟨?_, nofun⟩
        rw [if_neg (by simp), List.isChain_cons]
        exact ⟨fun k hk => Or.inr (hblankHead rfl k hk), hblankChain⟩
    · rename_i hshown
      have hl : allBlank (trim l) = false := by
        rw [allBlank_trim, ← isEmpty_trim]
        simpa using hshown
      refine ⟨?_, fun _ k hk => ?_⟩
      · rw [List.isChain_cons]
        exact ⟨fun _ _ => Or.inl hl, (ih false).1⟩
      · obtain rfl : trim l = k := by simpa using hk
        exact hl

theorem filter_squeeze (afterBlank : Bool) (ls : List (List Char)) :
    (squeeze afterBlank ls).filter (fun l => !allBlank l) =
      (ls.filter fun l => !allBlank l).map trim := by
  induction ls generalizing afterBlank with
  | nil => rfl
  | cons l ls ih =>
    have hempty : allBlank [] = true := rfl
    rw [squeeze, isEmpty_trim]
    cases hl : allBlank l with
    | true => cases afterBlank <;> simp [hl, ih, hempty]
    | false => simp [hl, ih, allBlank_trim]

theorem clean_isTidy (rendered : List Char) :
    IsTidy (clean rendered) ∧ shownLines (clean rendered) = (shownLines rendered).map trim := by
  have hkept : ∀ l ∈ squeeze false (lines rendered), IsTrimmed l ∧ '\n' ∉ l := by
    intro l hl
    obtain ⟨k, hk, rfl⟩ := mem_squeeze hl
    refine ⟨isTrimmed_trim k, fun hmem => not_mem_of_mem_lines hk ?_⟩
    exact (trimBoth_sublist isBlank k).subset hmem
  obtain ⟨core, hinner, htrim, htrimmed, hlast, hfilter⟩ := trim_ended fun l hl => (hkept l hl).1
  have hclean : clean rendered = joinWith ['\n'] core := by
    rw [clean, cleanLines_eq, htrim]
  have hcore : ∀ l ∈ core, IsTrimmed l ∧ '\n' ∉ l := fun l hl => hkept l (hinner.subset hl)
  have hlines : lines (clean rendered) = core := by
    rw [hclean]
    exact lines_joinWith (fun l hl => (hcore l hl).1) (fun l hl => (hcore l hl).2) hlast
  constructor
  · exact {
      trimmed := hclean ▸ htrimmed
      lines_trimmed := fun l hl => (hcore l (hlines ▸ hl)).1
      lines_spaced := hlines ▸ List.IsChain.infix (isChain_squeeze false (lines rendered)).1 hinner }
  · rw [shownLines, hlines, hfilter, filter_squeeze, shownLines]

open Rules

def emptyBody : Document :=
  { nodes := #[{ content := .root, children := [1] },
      { content := .element .html "html" [], parent := some 0, children := [3, 2] },
      { content := .element .html "head" [], parent := some 1 },
      { content := .element .html "body" [], parent := some 1 }] }

def bodyWith (reversed : List Char) : Document :=
  { nodes := #[{ content := .root, children := [1] },
      { content := .element .html "html" [], parent := some 0, children := [3, 2] },
      { content := .element .html "head" [], parent := some 1 },
      { content := .element .html "body" [], parent := some 1, children := [4] },
      { content := .text reversed, parent := some 3 }] }

def inBodyWith (framesetAllowed : Bool) (reversed : List Char) : Builder :=
  { document := bodyWith reversed, stack := [3, 1], stage := .inBody, head := some 2
    framesetAllowed, legacy := true }

def IsBlankDocument (d : Document) : Prop :=
  d = emptyBody ∨ ∃ t, allBlank t = true ∧ d = bodyWith t

inductive Awaits : Builder → Prop
  | start : Awaits {}
  | text (framesetAllowed : Bool) {reversed : List Char} (h : allBlank reversed = true) :
      Awaits (inBodyWith framesetAllowed reversed)

theorem kindOf_blank {c : Char} (hc : isBlank c = true) : Token.kindOf c ≠ .nul := by
  rw [Token.kindOf]
  split
  · simp
  · rw [if_neg]
    · simp
    · intro hzero
      simp only [beq_iff_eq] at hzero
      simp [isBlank, hzero] at hc

theorem next_blank {c : Char} (hc : isBlank c = true) (rest : List Char) :
    ∃ kind run after, Token.next .data false (c :: rest) = (.text kind (c :: run), after) ∧
      run ++ after = rest ∧ kind ≠ .nul := by
  have hmark (d : Char) (hd : isBlank d = false) : (c == d) = false := by
    rw [beq_eq_false_iff_ne]
    rintro rfl
    rw [hd] at hc
    cases hc
  refine ⟨Token.kindOf c, _, _, ?_, List.takeWhile_append_dropWhile (p := fun d =>
    Token.kindOf d == Token.kindOf c && !(d == '<' || d == '&')), kindOf_blank hc⟩
  simp only [Token.next, hmark '<' rfl, hmark '&' rfl, Bool.false_eq_true, if_false, Token.textRun]

theorem awaits_feed {b : Builder} (hb : Awaits b) {kind : TextKind} (hkind : kind ≠ .nul)
    {c : Char} {s : List Char} (hs : allBlank (c :: s) = true) :
    Awaits (feed b (.text kind (c :: s))) ∧ (feed b (.text kind (c :: s))).stopped = false := by
  have hreverse : allBlank (c :: s).reverse = true := by
    rw [allBlank, List.all_reverse]
    exact hs
  cases hb with
  | start =>
    cases kind with
    | nul => exact absurd rfl hkind
    | blank => exact ⟨.start, rfl⟩
    | other => exact ⟨.text false hreverse, rfl⟩
  | @text framesetAllowed reversed h =>
    have hgrown : allBlank ((c :: s).reverse ++ reversed) = true := by
      rw [allBlank, List.all_append, ← allBlank, ← allBlank, hreverse, h]
      rfl
    cases kind with
    | nul => exact absurd rfl hkind
    | blank => exact ⟨.text framesetAllowed hgrown, rfl⟩
    | other => exact ⟨.text false hgrown, rfl⟩

theorem isBlankDocument_run {fuel : Nat} {b : Builder} {s : List Char} (hb : Awaits b)
    (hs : allBlank s = true) (hfuel : s.length < fuel) :
    IsBlankDocument (run fuel b s).document := by
  induction fuel generalizing b s with
  | zero => omega
  | succ fuel ih =>
    have hmode : b.mode = .data ∧ inForeign b = false := by
      cases hb <;> exact ⟨rfl, rfl⟩
    rw [run, hmode.1, hmode.2]
    cases s with
    | nil =>
      cases hb with
      | start => exact Or.inl rfl
      | text framesetAllowed h => exact Or.inr ⟨_, h, rfl⟩
    | cons c rest =>
      have hblank := hs
      rw [allBlank, List.all_cons, Bool.and_eq_true, ← allBlank] at hblank
      obtain ⟨kind, run, after, hnext, rfl, hkind⟩ := next_blank hblank.1 rest
      have hparts : allBlank run = true ∧ allBlank after = true := by
        simpa [allBlank] using hblank.2
      have htoken : allBlank (c :: run) = true := by
        rw [allBlank, List.all_cons, hblank.1, ← allBlank, hparts.1]
        rfl
      obtain ⟨hawaits, hgoesOn⟩ := awaits_feed hb hkind htoken
      simp only [hnext, hgoesOn, Bool.false_eq_true, if_false]
      refine ih hawaits hparts.2 ?_
      simp only [List.length_cons, List.length_append] at hfuel
      omega

theorem allBlank_normalize {s : List Char} (hs : allBlank s = true) :
    allBlank (Token.normalize s) = true := by
  simp only [allBlank, List.all_eq_true] at hs ⊢
  fun_induction Token.normalize s with
  | case1 => simp
  | case2 rest ih =>
    have hfeed : isBlank '\n' = true := rfl
    simp only [List.mem_cons, forall_eq_or_imp] at hs ⊢
    exact ⟨hfeed, ih hs.2.2⟩
  | case3 rest hnot ih =>
    have hfeed : isBlank '\n' = true := rfl
    simp only [List.mem_cons, forall_eq_or_imp] at hs ⊢
    exact ⟨hfeed, ih hs.2⟩
  | case4 c rest hfirst hsecond ih =>
    simp only [List.mem_cons, forall_eq_or_imp] at hs ⊢
    exact ⟨hs.1, ih hs.2⟩

theorem dropMark_blank {s : List Char} (hs : allBlank s = true) : dropMark s = s := by
  cases s with
  | nil => rfl
  | cons c rest =>
    rw [dropMark, if_neg]
    intro hmark
    simp [allBlank, isBlank] at hs hmark
    omega

theorem isBlankDocument_document {s : List Char} (hs : allBlank s = true) :
    IsBlankDocument (document s) := by
  rw [document, dropMark_blank hs]
  exact isBlankDocument_run .start (allBlank_normalize hs) (by omega)

theorem add_blank {w : Wrap} (hline : w.line = []) (hword : w.word = []) {s : List Char}
    (hs : allBlank s = true) : w.add false s = w := by
  have hstep {c : Char} (hc : isBlank c = true) : w.addChar false c = w := by
    simp [Wrap.addChar, hc, Wrap.endWord, hline, hword]
  rw [Wrap.add]
  induction s with
  | nil => rfl
  | cons c s ih =>
    rw [allBlank, List.all_cons, Bool.and_eq_true, ← allBlank] at hs
    rw [List.foldl_cons, hstep hs.1, ih hs.2]

theorem render_blank {html : List Char} (hs : allBlank html = true) : render html = [] := by
  rcases isBlankDocument_document hs with hd | ⟨t, ht, hd⟩
  · rw [render, Markup.parse, hd]
    rfl
  · have hreverse : allBlank t.reverse = true := by rwa [allBlank, List.all_reverse]
    have hadd := add_blank (w := { width := pageWidth }) rfl rfl hreverse
    have hflow : Flow.ofMarkup (Markup.ofNode (bodyWith t) ((bodyWith t).nodes.size + 1) 0) =
        some (.group [.group [.group [.text t.reverse]]]) := rfl
    rw [render, Markup.parse, hd, hflow]
    simp [Page.put, Page.putAll, Page.addText, Page.strikeTimes, hadd, Page.rendered, Page.flush,
      Wrap.finish, Wrap.endWord, Wrap.endFilledLine]

theorem toText_blank {html : String} (h : allBlank html.toList = true) : toText html = "" := by
  rw [toText, render_blank h]
  rfl

end Html

end Letterbox
