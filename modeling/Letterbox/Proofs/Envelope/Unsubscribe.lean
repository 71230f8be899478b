import Letterbox.Envelope.Unsubscribe
import Letterbox.Proofs.Text.Lines
import Letterbox.Proofs.Text.Trim
import Mathlib.Data.List.Forall2

namespace Letterbox.Unsubscribe

open Text

theorem not_comma_of_allBlank {t : List Char} (ht : allBlank t = true) :
    ∀ c ∈ t, (c == ',') = false := by
  intro c hc
  rw [beq_eq_false_iff_ne]
  rintro rfl
  exact absurd (List.all_eq_true.mp ht ',' hc) (by decide)

theorem items_append (s rest : List Char) : items (s ++ ',' :: rest) = items s ++ items rest := by
  rw [items, splitAt_append rfl, List.map_append, List.filter_append]
  rfl

theorem items_blank_append {t : List Char} (ht : allBlank t = true) (s : List Char) :
    items (t ++ s) = items s := by
  obtain ⟨w, ws, hs⟩ := List.exists_cons_of_ne_nil (splitAt_ne_nil (· == ',') s)
  rw [items, splitAt_prepend (not_comma_of_allBlank ht) hs, items, hs, List.map_cons, List.map_cons,
    trim_blank_append ht]

theorem items_append_blank {t : List Char} (ht : allBlank t = true) (s : List Char) :
    items (s ++ t) = items s := by
  obtain ⟨ws, w, hs⟩ :=
    (List.eq_nil_or_concat' (splitAt (· == ',') s)).resolve_left (splitAt_ne_nil (· == ',') s)
  rw [items, splitAt_extend (not_comma_of_allBlank ht) hs, items, hs, List.map_append,
    List.map_append, List.map_singleton, List.map_singleton, trim_append_blank ht]

theorem items_trim (s : List Char) : items (trim s) = items s := by
  obtain ⟨before, after, hbefore, hafter, hsplit⟩ := exists_trim_between s
  calc items (trim s) = items (trim s ++ after) := (items_append_blank hafter _).symm
    _ = items (before ++ (trim s ++ after)) := (items_blank_append hbefore _).symm
    _ = items s := by rw [hsplit]

theorem length_items (s : List Char) :
    (items s).length = (splitAt (· == ',') s).countP fun i => !allBlank i := by
  rw [items, ← List.countP_eq_length_filter, List.countP_map]
  refine List.countP_congr ?_
  intro i _
  rw [Function.comp_apply, isEmpty_trim]

theorem items_sublist (s : List Char) : (items s).Sublist ((splitAt (· == ',') s).map trim) :=
  List.filter_sublist

theorem not_mem_of_mem_items {s item : List Char} (hitem : item ∈ items s) : ',' ∉ item := by
  intro hcomma
  obtain ⟨piece, hpiece, rfl⟩ := List.mem_map.mp ((items_sublist s).subset hitem)
  have hmem := mem_of_mem_splitAt hpiece ((trimBoth_sublist isBlank piece).subset hcomma)
  exact absurd hmem.2 (by decide)

theorem subset_of_mem_items {s item : List Char} (hitem : item ∈ items s) : item ⊆ s := by
  intro c hc
  obtain ⟨piece, hpiece, rfl⟩ := List.mem_map.mp ((items_sublist s).subset hitem)
  exact (mem_of_mem_splitAt hpiece ((trimBoth_sublist isBlank piece).subset hc)).1

theorem items_of_not_mem {s : List Char} (hcomma : ',' ∉ s) (hs : IsTrimmed s) (hne : s ≠ []) :
    items s = [s] := by
  have hsplit : splitAt (· == ',') s = [s] := by
    refine splitAt_eq_singleton fun c hc => ?_
    rw [beq_eq_false_iff_ne]
    rintro rfl
    exact hcomma hc
  simp [items, hsplit, hs.trim_eq, hne]

def bracketed (uri : List Char) : List Char :=
  '<' :: uri ++ ['>']

theorem isTrimmed_bracketed (uri : List Char) : IsTrimmed (bracketed uri) where
  first c hc := by
    obtain rfl : '<' = c := by simpa [bracketed] using hc
    decide
  last c hc := by
    obtain rfl : '>' = c := by simpa [bracketed, List.getLast?_cons] using hc
    decide

theorem inside?_bracketed (inner : List Char) : inside? (bracketed inner) = some inner := by
  simp [bracketed, inside?]

theorem eq_bracketed_of_inside? {item inner : List Char} (h : inside? item = some inner) :
    item = bracketed inner := by
  unfold inside? at h
  split at h
  · rename_i rest
    split at h
    · rename_i hlast
      obtain ⟨before, rfl⟩ := List.getLast?_eq_some_iff.mp (beq_iff_eq.mp hlast)
      rw [List.dropLast_concat] at h
      cases h
      rfl
    · cases h
  · cases h

def IsTarget (uri : List Char) : Prop :=
  hasScheme "mailto:" uri = true ∧ uri.length ≠ 7 ∨
    (hasScheme "http://" uri = true ∨ hasScheme "https://" uri = true) ∧
      ∀ c ∈ uri, isBlank c = false

theorem not_mailto_of_page {uri : List Char}
    (h : hasScheme "http://" uri = true ∨ hasScheme "https://" uri = true) :
    hasScheme "mailto:" uri = false := by
  cases uri with
  | nil => rfl
  | cons c uri =>
    have hfirst : 'h' = c.toLower := by
      rcases h with h | h <;>
        exact (by simpa [hasScheme, lowerAscii, List.isPrefixOf] using h : _ ∧ _).1
    simp [hasScheme, lowerAscii, List.isPrefixOf, ← hfirst]

theorem readItem_of_isTarget {inner : List Char} (h : IsTarget (trim inner)) :
    readItem (bracketed inner) = .ok (trim inner) := by
  rcases h with ⟨hmail, hlength⟩ | ⟨hpage, hblank⟩
  · simp [readItem, inside?_bracketed, hmail, hlength]
  · simpa [readItem, inside?_bracketed, not_mailto_of_page hpage, hpage] using hblank

theorem eq_bracketed_of_readItem {item uri : List Char} (h : readItem item = .ok uri) :
    ∃ inner, item = bracketed inner ∧ uri = trim inner ∧ IsTarget uri := by
  unfold readItem at h
  split at h
  · cases h
  · rename_i inner hinner
    refine ⟨inner, eq_bracketed_of_inside? hinner, ?_⟩
    dsimp only at h
    split at h
    · rename_i hmail
      split at h
      · cases h
      · rename_i hlength
        cases h
        exact ⟨rfl, Or.inl ⟨hmail, by simpa using hlength⟩⟩
    · split at h
      · rename_i hpage
        split at h
        · cases h
        · rename_i hblank
          cases h
          exact ⟨rfl, Or.inr ⟨by simpa using hpage, by simpa using hblank⟩⟩
      · cases h

theorem link?_bracketed {uri : List Char} (htrimmed : IsTrimmed uri) (htarget : IsTarget uri) :
    link? (bracketed uri) = some (String.ofList uri) := by
  have hread := readItem_of_isTarget (htrimmed.trim_eq.symm ▸ htarget)
  rw [htrimmed.trim_eq] at hread
  rw [link?, hread]

theorem eq_bracketed_of_link? {item : List Char} {link : String} (h : link? item = some link) :
    ∃ inner, item = bracketed inner ∧ link.toList = trim inner ∧ IsTarget link.toList := by
  unfold link? at h
  split at h
  · rename_i uri hread
    cases h
    rw [String.toList_ofList]
    exact eq_bracketed_of_readItem hread
  · cases h

theorem isSome_problem? (item : List Char) : (problem? item).isSome = (link? item).isNone := by
  unfold problem? link?
  cases readItem item <;> rfl

theorem length_links_add_problems (l : List (List Char)) :
    (l.filterMap link?).length + (l.filterMap problem?).length = l.length := by
  have hproblems : l.countP (fun i => (problem? i).isSome) =
      l.countP fun i => ¬ (link? i).isSome = true := by
    refine List.countP_congr fun item _ => ?_
    simp [isSome_problem?]
  rw [List.length_filterMap_eq_countP, List.length_filterMap_eq_countP, hproblems,
    ← List.length_eq_countP_add_countP]

theorem items_bracketed {uri : List Char} (hcomma : ',' ∉ uri) :
    items (bracketed uri) = [bracketed uri] := by
  refine items_of_not_mem ?_ (isTrimmed_bracketed uri) (by simp [bracketed])
  simpa [bracketed] using hcomma

theorem items_joinWith (ws : List (List Char)) :
    items (joinWith [',', ' '] ws) = ws.flatMap items := by
  induction ws with
  | nil => rfl
  | cons w ws ih =>
    cases ws with
    | nil => simp [joinWith]
    | cons v ws =>
      have hspace : items (' ' :: joinWith [',', ' '] (v :: ws)) = (v :: ws).flatMap items := by
        rw [← ih]
        exact items_blank_append (t := [' ']) rfl _
      rw [joinWith, List.append_assoc, List.cons_append, items_append, List.singleton_append,
        hspace]
      rfl

theorem items_write (links : List String) :
    items (write links).toList = links.flatMap fun l => items (bracketed l.toList) := by
  rw [write, String.toList_ofList, items_joinWith, List.flatMap_map]
  rfl

theorem allBlank_write {links : List String} (h : links ≠ []) :
    allBlank (write links).toList = false := by
  obtain ⟨l, links, rfl⟩ := List.exists_cons_of_ne_nil h
  rw [write, String.toList_ofList, List.map_cons, joinWith_cons]
  rfl

theorem parse_of_not_blank {header : String} (h : allBlank header.toList = false) (post : String) :
    parse header post = some {
      header := String.ofList (trim header.toList)
      links := (items header.toList).filterMap link?
      errors := (items header.toList).filterMap problem? ++ postProblems (trim post.toList)
      post := String.ofList (trim post.toList) } := by
  rw [parse, items_trim]
  simp [isEmpty_trim, h]

theorem parse_write {links : List String} (h : links ≠ []) :
    ∃ r, parse (write links) "" = some r ∧
      r.links = links.flatMap (fun l => (items (bracketed l.toList)).filterMap link?) ∧
      r.errors = links.flatMap fun l => (items (bracketed l.toList)).filterMap problem? := by
  refine ⟨_, parse_of_not_blank (allBlank_write h) "", ?_, ?_⟩
  · rw [items_write, List.filterMap_flatMap]
  · have hpost : postProblems (trim "".toList) = [] := rfl
    simp only [items_write, List.filterMap_flatMap, hpost, List.append_nil]

theorem links_of_not_mem {uri : List Char} (hcomma : ',' ∉ uri) (htrimmed : IsTrimmed uri)
    (htarget : IsTarget uri) :
    (items (bracketed uri)).filterMap link? = [String.ofList uri] ∧
      (items (bracketed uri)).filterMap problem? = [] := by
  have hlink := link?_bracketed htrimmed htarget
  have hproblem := isSome_problem? (bracketed uri)
  rw [hlink, Option.isNone_some, Option.isSome_eq_false_iff, Option.isNone_iff_eq_none] at hproblem
  rw [items_bracketed hcomma]
  exact ⟨List.filterMap_cons_some hlink, List.filterMap_cons_none hproblem⟩

theorem parse_write_targets {links : List String} (hne : links ≠ [])
    (h : ∀ l ∈ links, ',' ∉ l.toList ∧ IsTrimmed l.toList ∧ IsTarget l.toList) :
    ∃ r, parse (write links) "" = some r ∧ r.links = links ∧ r.errors = [] := by
  obtain ⟨r, hr, hlinks, herrors⟩ := parse_write hne
  refine ⟨r, hr, ?_, ?_⟩
  · have hsingle : ∀ l ∈ links, (items (bracketed l.toList)).filterMap link? = [l] := by
      intro l hl
      obtain ⟨hcomma, htrimmed, htarget⟩ := h l hl
      rw [(links_of_not_mem hcomma htrimmed htarget).1, String.ofList_toList]
    rw [hlinks, List.flatMap_congr hsingle, List.flatMap_singleton']
  · rw [herrors, List.flatMap_eq_nil_iff]
    intro l hl
    obtain ⟨hcomma, htrimmed, htarget⟩ := h l hl
    exact (links_of_not_mem hcomma htrimmed htarget).2

theorem exists_sublist_filterMap {α β : Type} (f : α → Option β) (l : List α) :
    ∃ chosen, chosen.Sublist l ∧
      List.Forall₂ (fun a b => f a = some b) chosen (l.filterMap f) := by
  induction l with
  | nil => exact ⟨[], .slnil, .nil⟩
  | cons a l ih =>
    obtain ⟨chosen, hsub, hall⟩ := ih
    cases hf : f a with
    | none => exact ⟨chosen, hsub.cons a, by rwa [List.filterMap_cons_none hf]⟩
    | some b =>
      rw [List.filterMap_cons_some hf]
      exact ⟨a :: chosen, hsub.cons_cons a, .cons hf hall⟩

theorem length_postProblems (post : List Char) :
    (postProblems post).length =
      if post = [] ∨ lowerAscii post = lowerAscii oneClick then 0 else 1 := by
  simp only [postProblems, sameAscii, Bool.or_eq_true, List.isEmpty_iff, beq_iff_eq]
  split <;> rfl

theorem isTarget_of_mem_links {header : List Char} {link : String}
    (hlink : link ∈ (items header).filterMap link?) :
    ',' ∉ link.toList ∧ IsTrimmed link.toList ∧ IsTarget link.toList := by
  obtain ⟨item, hitem, hread⟩ := List.mem_filterMap.mp hlink
  obtain ⟨inner, rfl, htrim, htarget⟩ := eq_bracketed_of_link? hread
  refine ⟨fun hcomma => ?_, htrim ▸ isTrimmed_trim inner, htarget⟩
  rw [htrim] at hcomma
  have hinner : ',' ∈ inner := (trimBoth_sublist isBlank inner).subset hcomma
  exact not_mem_of_mem_items hitem (by simp [bracketed, hinner])

theorem parse_accounts (header post : String) (hheader : allBlank header.toList = false) :
    ∃ r, parse header post = some r ∧
      r.links.length + r.errors.length =
        ((splitAt (· == ',') header.toList).countP fun item => !allBlank item) +
          (if trim post.toList = [] ∨
              lowerAscii (trim post.toList) = lowerAscii "List-Unsubscribe=One-Click".toList
            then 0 else 1) ∧
      (∃ chosen, chosen.Sublist ((splitAt (· == ',') header.toList).map trim) ∧
        List.Forall₂ (fun item link => ∃ inner, item = '<' :: inner ++ ['>'] ∧
          link = String.ofList (trim inner)) chosen r.links) ∧
      (r.links ≠ [] → ∃ again, parse (write r.links) "" = some again ∧
        again.links = r.links ∧ again.errors = []) := by
  refine ⟨_, parse_of_not_blank hheader post, ?_, ?_, ?_⟩
  · have hitems := length_links_add_problems (items header.toList)
    have hpost := length_postProblems (trim post.toList)
    rw [length_items] at hitems
    rw [List.length_append, ← Nat.add_assoc, hitems, hpost]
    rfl
  · obtain ⟨chosen, hsub, hall⟩ := exists_sublist_filterMap link? (items header.toList)
    refine ⟨chosen, hsub.trans (items_sublist header.toList), hall.imp fun item link hlink => ?_⟩
    obtain ⟨inner, hitem, hlink, -⟩ := eq_bracketed_of_link? hlink
    exact ⟨inner, hitem, by rw [← hlink, String.ofList_toList]⟩
  · intro hne
    exact parse_write_targets hne fun l hl => isTarget_of_mem_links hl

theorem parse_accounts_mixed :
    allBlank "<mailto: a b>,, <ftp://x>,y".toList = false ∧
      ∃ r, parse "<mailto: a b>,, <ftp://x>,y" "no" = some r ∧
        r.links = ["mailto: a b"] ∧ r.links.length + r.errors.length = 4 ∧
        ∃ again, parse (write r.links) "" = some again ∧ again.links = r.links ∧
          again.errors = [] := by
  have hheader : allBlank "<mailto: a b>,, <ftp://x>,y".toList = false := by decide +kernel
  obtain ⟨r, hr, hcount, -, hagain⟩ := parse_accounts "<mailto: a b>,, <ftp://x>,y" "no" hheader
  have hlinks : (parse "<mailto: a b>,, <ftp://x>,y" "no").map Unsubscribe.links =
      some ["mailto: a b"] := by decide +kernel
  rw [hr] at hlinks
  have hlinks' : r.links = ["mailto: a b"] := Option.some.inj hlinks
  exact ⟨hheader, r, hr, hlinks', hcount.trans (by decide +kernel), hagain (by simp [hlinks'])⟩

structure IsPlainLink (uri : List Char) : Prop where
  scheme : ∃ start rest, uri = start ++ rest ∧ (sameAscii start "http://".toList = true ∨
    sameAscii start "https://".toList = true ∨
      sameAscii start "mailto:".toList = true ∧ rest ≠ [])
  plain : ∀ c ∈ uri, isBlank c = false ∧ c ≠ '<' ∧ c ≠ '>'

theorem isPlainLink_of_all {uri : List Char} (start rest : List Char) (huri : uri = start ++ rest)
    (hscheme : sameAscii start "http://".toList = true ∨ sameAscii start "https://".toList = true ∨
      sameAscii start "mailto:".toList = true ∧ rest ≠ [])
    (hplain : (uri.all fun c => !isBlank c && c != '<' && c != '>') = true) : IsPlainLink uri where
  scheme := ⟨start, rest, huri, hscheme⟩
  plain := by simpa [and_assoc] using hplain

theorem hasScheme_append {scheme : String} (hlower : lowerAscii scheme.toList = scheme.toList)
    {start : List Char} (h : sameAscii start scheme.toList = true) (rest : List Char) :
    hasScheme scheme (start ++ rest) = true := by
  rw [sameAscii, beq_iff_eq, hlower] at h
  rw [hasScheme, List.isPrefixOf_iff_prefix, lowerAscii, List.map_append, ← lowerAscii, h]
  exact List.prefix_append _ _

namespace IsPlainLink

variable {uri : List Char} (h : IsPlainLink uri)

include h

theorem isTarget : IsTarget uri := by
  obtain ⟨start, rest, rfl, hscheme⟩ := h.scheme
  have hplain : ∀ c ∈ start ++ rest, isBlank c = false := fun c hc => (h.plain c hc).1
  rcases hscheme with hpage | hpage | ⟨hmail, hrest⟩
  · exact Or.inr ⟨Or.inl (hasScheme_append rfl hpage rest), hplain⟩
  · exact Or.inr ⟨Or.inr (hasScheme_append rfl hpage rest), hplain⟩
  · refine Or.inl ⟨hasScheme_append rfl hmail rest, ?_⟩
    have hlength : start.length = 7 := by
      have hsame := congrArg List.length (beq_iff_eq.mp hmail)
      simpa [lowerAscii] using hsame
    have hpositive := List.length_pos_iff.mpr hrest
    rw [List.length_append]
    omega

theorem isTrimmed : IsTrimmed uri where
  first c hc := (h.plain c (List.mem_of_mem_head? hc)).1
  last c hc := (h.plain c (List.mem_of_getLast? hc)).1

end IsPlainLink

theorem link?_eq_none {item : List Char} (h : '<' ∉ item ∨ '>' ∉ item) : link? item = none := by
  rw [Option.eq_none_iff_forall_ne_some]
  intro link hlink
  obtain ⟨inner, rfl, -⟩ := eq_bracketed_of_link? hlink
  simp [bracketed] at h

theorem bracketed_append (before after : List Char) :
    bracketed (before ++ ',' :: after) = ('<' :: before) ++ ',' :: (after ++ ['>']) := by
  simp [bracketed]

theorem IsPlainLink.link?_of_mem_items {before after item : List Char}
    (h : IsPlainLink (before ++ ',' :: after))
    (hitem : item ∈ items ('<' :: before) ++ items (after ++ ['>'])) : link? item = none := by
  refine link?_eq_none ?_
  rcases List.mem_append.mp hitem with hitem | hitem
  · refine Or.inr fun hclose => ?_
    have hmem : '>' ∈ before := by simpa using subset_of_mem_items hitem hclose
    exact (h.plain '>' (by simp [hmem])).2.2 rfl
  · refine Or.inl fun hopen => ?_
    have hmem : '<' ∈ after := by simpa using subset_of_mem_items hitem hopen
    exact (h.plain '<' (by simp [hmem])).2.1 rfl

theorem IsPlainLink.problems_of_mem {uri : List Char} (h : IsPlainLink uri) (hcomma : ',' ∈ uri) :
    (items (bracketed uri)).filterMap link? = [] ∧
      (items (bracketed uri)).filterMap problem? ≠ [] := by
  obtain ⟨before, after, rfl, hbefore⟩ := List.eq_append_cons_of_mem hcomma
  have hword : IsWord ('<' :: before) :=
    isWord_cons rfl fun c hc => (h.plain c (List.mem_append_left _ hc)).1
  have hfirst : items ('<' :: before) = ['<' :: before] :=
    items_of_not_mem (by simpa using hbefore) hword.isTrimmed hword.1
  rw [bracketed_append, items_append]
  have hlinks := List.filterMap_eq_nil_iff.mpr fun item hitem => h.link?_of_mem_items hitem
  refine ⟨hlinks, fun hproblems => ?_⟩
  -- the first item is there whatever the link is, and it has to count as something
  have hlength := length_links_add_problems (items ('<' :: before) ++ items (after ++ ['>']))
  rw [hlinks, hproblems, hfirst] at hlength
  simp at hlength

theorem IsPlainLink.links_eq {l : String} (h : IsPlainLink l.toList) :
    (items (bracketed l.toList)).filterMap link? = [l].filter fun l => !l.toList.contains ',' := by
  by_cases hcomma : ',' ∈ l.toList
  · rw [(h.problems_of_mem hcomma).1]
    simp [hcomma]
  · rw [(links_of_not_mem hcomma h.isTrimmed h.isTarget).1, String.ofList_toList]
    simp [hcomma]

theorem IsPlainLink.problems_eq_nil_iff {l : String} (h : IsPlainLink l.toList) :
    (items (bracketed l.toList)).filterMap problem? = [] ↔ ',' ∉ l.toList := by
  constructor
  · exact fun hnone hcomma => (h.problems_of_mem hcomma).2 hnone
  · exact fun hcomma => (links_of_not_mem hcomma h.isTrimmed h.isTarget).2

theorem parse_write_plain (links : List String) (hne : links ≠ [])
    (h : ∀ l ∈ links, IsPlainLink l.toList) :
    ∃ r, parse (write links) "" = some r ∧
      r.links = (links.filter fun l => !l.toList.contains ',') ∧
      (r.errors = [] ↔ ∀ l ∈ links, ',' ∉ l.toList) := by
  obtain ⟨r, hr, hlinks, herrors⟩ := parse_write hne
  refine ⟨r, hr, ?_, ?_⟩
  · rw [hlinks, List.flatMap_congr fun l hl => (h l hl).links_eq, ← List.filter_flatMap,
      List.flatMap_singleton']
  · rw [herrors, List.flatMap_eq_nil_iff]
    exact forall₂_congr fun l hl => (h l hl).problems_eq_nil_iff

theorem parse_write_plain_two :
    ["HTTP://a/?b;c", "mailto:x,y"] ≠ [] ∧
      (∀ l ∈ ["HTTP://a/?b;c", "mailto:x,y"], IsPlainLink l.toList) ∧
      ∃ r, parse "<HTTP://a/?b;c>, <mailto:x,y>" "" = some r ∧ r.links = ["HTTP://a/?b;c"] ∧
        r.errors ≠ [] := by
  have hplain : ∀ l ∈ ["HTTP://a/?b;c", "mailto:x,y"], IsPlainLink l.toList := by
    intro l hl
    rcases List.mem_pair.mp hl with rfl | rfl
    · exact isPlainLink_of_all "HTTP://".toList "a/?b;c".toList rfl (by decide) (by decide)
    · exact isPlainLink_of_all "mailto:".toList "x,y".toList rfl (by decide) (by decide)
  obtain ⟨r, hr, hlinks, herrors⟩ := parse_write_plain _ (by simp) hplain
  have hwrite : write ["HTTP://a/?b;c", "mailto:x,y"] = "<HTTP://a/?b;c>, <mailto:x,y>" := by
    decide +kernel
  rw [hwrite] at hr
  refine ⟨by simp, hplain, r, hr, hlinks.trans (by decide +kernel), fun hnone => ?_⟩
  exact herrors.mp hnone "mailto:x,y" (by simp) (by decide)

theorem parse_write_comma :
    IsPlainLink "mailto:a@x.org,b@x.org".toList ∧
      parse (write ["mailto:a@x.org,b@x.org"]) "" = some {
        header := "<mailto:a@x.org,b@x.org>"
        links := []
        errors := ["\"<mailto:a@x.org\" is not enclosed in angle brackets",
          "\"b@x.org>\" is not enclosed in angle brackets"]
        post := "" } := by
  refine ⟨isPlainLink_of_all "mailto:".toList "a@x.org,b@x.org".toList rfl ?_ ?_, ?_⟩ <;>
    decide +kernel

end Letterbox.Unsubscribe
