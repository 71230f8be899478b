import Letterbox.Mime.Tree
import Mathlib.Data.List.Nodup

namespace Letterbox.Mime

namespace Tree

mutual

theorem prefix_of_mem_leavesAt (path : List Nat) :
    (t : Tree) → ∀ leaf ∈ leavesAt path t, path <+: leaf.1
  | .leaf place => by simp [leavesAt]
  | .branch children => by
    intro leaf hleaf
    obtain ⟨k, -, hk⟩ := prefix_of_mem_leavesFrom path 1 children leaf hleaf
    exact (List.prefix_append path [k]).trans hk

theorem prefix_of_mem_leavesFrom (path : List Nat) (n : Nat) :
    (ts : List Tree) → ∀ leaf ∈ leavesFrom path n ts, ∃ k, n ≤ k ∧ path ++ [k] <+: leaf.1
  | [] => by simp [leavesFrom]
  | t :: ts => by
    intro leaf hleaf
    rw [leavesFrom, List.mem_append] at hleaf
    rcases hleaf with hleaf | hleaf
    · exact ⟨n, Nat.le_refl n, prefix_of_mem_leavesAt (path ++ [n]) t leaf hleaf⟩
    · obtain ⟨k, hk, hprefix⟩ := prefix_of_mem_leavesFrom path (n + 1) ts leaf hleaf
      exact ⟨k, Nat.le_of_succ_le hk, hprefix⟩

end

mutual

theorem nodup_leavesAt (path : List Nat) :
    (t : Tree) → ((leavesAt path t).map Prod.fst).Nodup
  | .leaf place => by simp [leavesAt]
  | .branch children => nodup_leavesFrom path 1 children

theorem nodup_leavesFrom (path : List Nat) (n : Nat) :
    (ts : List Tree) → ((leavesFrom path n ts).map Prod.fst).Nodup
  | [] => by simp [leavesFrom]
  | t :: ts => by
    rw [leavesFrom, List.map_append, List.nodup_append]
    refine ⟨nodup_leavesAt (path ++ [n]) t, nodup_leavesFrom path (n + 1) ts, ?_⟩
    -- the ways part at the branch that is taken from the root of the siblings
    intro way hway other hother heq
    obtain ⟨leaf, hleaf, rfl⟩ := List.mem_map.mp hway
    obtain ⟨later, hlater, rfl⟩ := List.mem_map.mp hother
    have hfirst := prefix_of_mem_leavesAt (path ++ [n]) t leaf hleaf
    obtain ⟨k, hk, hsecond⟩ := prefix_of_mem_leavesFrom path (n + 1) ts later hlater
    rw [heq] at hfirst
    have hsame := List.prefix_of_prefix_length_le hfirst hsecond (by simp)
    have hbranch : n = k := by simpa using hsame
    omega

end

theorem toList_toString (n : Nat) : (toString n).toList = Nat.toDigits 10 n :=
  Nat.toList_repr

theorem fullStop_not_mem_digits (n : Nat) : '.' ∉ (toString n).toList := by
  intro hmem
  have hdigit : '.'.isDigit = true := by
    refine Nat.isDigit_of_mem_toDigits (b := 10) (n := n) (by decide) (by decide) ?_
    exact toList_toString n ▸ hmem
  exact absurd hdigit (by decide)

theorem splitOn_identifier {path : List Nat} (h : path ≠ []) :
    (identifier path).toList.splitOn '.' = path.map fun n => (toString n).toList := by
  have hchars : (identifier path).toList =
      ['.'].intercalate (path.map fun n => (toString n).toList) := by
    rw [identifier, if_neg (by simpa using h), String.toList_intercalate, List.map_map]
    rfl
  rw [hchars]
  refine List.splitOn_intercalate '.' ?_ (by simpa using h)
  intro digits hdigits
  obtain ⟨n, -, rfl⟩ := List.mem_map.mp hdigits
  exact fullStop_not_mem_digits n

theorem identifier_inj {path other : List Nat} (hpath : path ≠ []) (hother : other ≠ [])
    (h : identifier path = identifier other) : path = other := by
  have hsame := splitOn_identifier hpath
  rw [h, splitOn_identifier hother] at hsame
  refine (List.map_inj_right ?_).mp hsame.symm
  intro n k hnk
  rw [toList_toString, toList_toString] at hnk
  rw [← Nat.ofDigitChars_ten_toDigits (n := n), hnk, Nat.ofDigitChars_ten_toDigits]

theorem nodup_identifiers (t : Tree) : (t.leaves.map fun leaf => identifier leaf.1).Nodup := by
  cases t with
  | leaf place => simp [leaves, leavesAt]
  | branch children =>
    have hnodup := nodup_leavesAt [] (.branch children)
    have hways : (leaves (.branch children)).map (fun leaf => identifier leaf.1) =
        ((leavesAt [] (.branch children)).map Prod.fst).map identifier := by
      rw [List.map_map]
      rfl
    rw [hways]
    refine List.Nodup.map_on ?_ hnodup
    have hway : ∀ way ∈ (leavesAt [] (.branch children)).map Prod.fst, way ≠ [] := by
      intro way hway hnil
      obtain ⟨leaf, hleaf, rfl⟩ := List.mem_map.mp hway
      obtain ⟨k, -, hk⟩ := prefix_of_mem_leavesFrom [] 1 children leaf hleaf
      rw [hnil] at hk
      simpa using hk.length_le
    intro way hmem other hother h
    exact identifier_inj (hway way hmem) (hway other hother) h

theorem mem_leavesFrom {path : List Nat} {n : Nat} {ts : List Tree} {leaf : List Nat × Nat}
    (h : leaf ∈ leavesFrom path n ts) : ∃ t ∈ ts, ∃ way, leaf ∈ leavesAt way t := by
  induction ts generalizing n with
  | nil => simp [leavesFrom] at h
  | cons t ts ih =>
    rw [leavesFrom, List.mem_append] at h
    rcases h with h | h
    · exact ⟨t, by simp, _, h⟩
    · obtain ⟨t', ht', hway⟩ := ih h
      exact ⟨t', by simp [ht'], hway⟩

end Tree

namespace Message

theorem exists_part_of_mem_treeAt {parts : List Part} {fuel place : Nat} {path : List Nat}
    {leaf : List Nat × Nat} (h : leaf ∈ Tree.leavesAt path (treeAt parts fuel place)) :
    ∃ p, parts[leaf.2]? = some p := by
  induction fuel generalizing place path with
  | zero => simp [treeAt, Tree.leavesAt, Tree.leavesFrom] at h
  | succ fuel ih =>
    unfold treeAt at h
    split at h
    · simp [Tree.leavesAt, Tree.leavesFrom] at h
    · rename_i p hp
      split at h
      · rename_i children hchildren
        obtain ⟨t, ht, way, hway⟩ := Tree.mem_leavesFrom h
        obtain ⟨child, -, rfl⟩ := List.mem_map.mp ht
        exact ih hway
      · rw [Tree.leavesAt, List.mem_singleton] at h
        subst h
        exact ⟨p, hp⟩

theorem exists_part_of_mem_leaves {m : Message} {leaf : List Nat × Nat} (h : leaf ∈ m.tree.leaves) :
    ∃ p, m.parts[leaf.2]? = some p :=
  exists_part_of_mem_treeAt h

end Message

end Letterbox.Mime
