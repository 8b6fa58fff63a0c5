import MarkupEditor.Value.Groups
import Mathlib.Data.List.Chain

/-!
# What groups are made of

Groups give the list back, as far as alike values are the same.  No group is empty, and
neighbors differ.
-/

namespace MarkupEditor.Value

/-- The members of groups. -/
def members (groups : List (Option Value × Nat)) : List (Option Value) :=
  groups.flatMap fun group => List.replicate group.2 group.1

/-- Values that are the same where they are alike. -/
def Exact (values : List (Option Value)) : Prop :=
  ∀ left ∈ values, ∀ right ∈ values, AlikeOption left right → left = right

theorem exact_cons_cons {value next : Option Value} {rest : List (Option Value)}
    (h : Exact (value :: next :: rest)) : Exact (value :: rest) ∧ Exact (next :: rest) := by
  constructor
  · intro left hleft right hright
    apply h
    · exact List.cons_subset_cons _ (List.subset_cons_self ..) hleft
    · exact List.cons_subset_cons _ (List.subset_cons_self ..) hright
  · intro left hleft right hright
    exact h left (List.mem_cons_of_mem _ hleft) right (List.mem_cons_of_mem _ hright)

/-- A group that is continued stays the first one. -/
theorem exists_groupOnto (value : Option Value) (count : Nat) (rest : List (Option Value)) :
    ∃ count' later, groupOnto value count rest = (value, count') :: later := by
  induction rest generalizing count with
  | nil => exact ⟨count, [], rfl⟩
  | cons next rest ih =>
      rw [groupOnto]
      split
      · exact ih (count + 1)
      · exact ⟨count, _, rfl⟩

theorem members_groupOnto {value : Option Value} {rest : List (Option Value)}
    (h : Exact (value :: rest)) (count : Nat) :
    members (groupOnto value count rest) = List.replicate count value ++ rest := by
  induction rest generalizing value count with
  | nil => rfl
  | cons next rest ih =>
      obtain ⟨hvalue, hnext⟩ := exact_cons_cons h
      rw [groupOnto]
      split
      · next halike =>
        have hsame : value = next :=
          h value List.mem_cons_self next (List.mem_cons_of_mem _ List.mem_cons_self) halike
        rw [ih hvalue, List.replicate_succ', List.append_assoc, hsame]
        rfl
      · exact congrArg (List.replicate count value ++ ·) (ih hnext 1)

theorem length_members_groupOnto (value : Option Value) (count : Nat) (rest : List (Option Value)) :
    (members (groupOnto value count rest)).length = count + rest.length := by
  induction rest generalizing value count with
  | nil => simp [groupOnto, members]
  | cons next rest ih =>
      rw [groupOnto, List.length_cons]
      split
      · rw [ih]
        omega
      · calc
          _ = (List.replicate count value ++ members (groupOnto next 1 rest)).length := rfl
          _ = count + (rest.length + 1) := by
            rw [List.length_append, List.length_replicate, ih]
            omega

theorem pos_of_mem_groupOnto {value : Option Value} {count : Nat} (hcount : 0 < count)
    {rest : List (Option Value)} :
    ∀ group ∈ groupOnto value count rest, 0 < group.2 := by
  induction rest generalizing value count with
  | nil =>
      intro group hgroup
      rwa [List.mem_singleton.1 hgroup]
  | cons next rest ih =>
      rw [groupOnto]
      split
      · exact ih (Nat.succ_pos count)
      · intro group hgroup
        obtain rfl | hlater := List.mem_cons.1 hgroup
        · exact hcount
        · exact ih Nat.one_pos group hlater

theorem isChain_groupOnto (value : Option Value) (count : Nat) (rest : List (Option Value)) :
    ((groupOnto value count rest).map Prod.fst).IsChain (· ≠ ·) := by
  induction rest generalizing value count with
  | nil => exact .singleton _
  | cons next rest ih =>
      rw [groupOnto]
      split
      · exact ih value (count + 1)
      · next hother =>
        obtain ⟨count', later, hlater⟩ := exists_groupOnto next 1 rest
        have hrest := ih next 1
        rw [hlater] at hrest ⊢
        refine .cons_cons ?_ hrest
        rintro rfl
        exact hother rfl

variable (values : List (Option Value))

theorem members_groups (h : Exact values) : members (groups values) = values := by
  cases values with
  | nil => rfl
  | cons value rest => exact members_groupOnto h 1

/-- There are as many members as values, alike or not. -/
theorem length_members_groups : (members (groups values)).length = values.length := by
  cases values with
  | nil => rfl
  | cons value rest => rw [groups, length_members_groupOnto, List.length_cons, Nat.add_comm]

theorem pos_of_mem_groups : ∀ group ∈ groups values, 0 < group.2 := by
  cases values with
  | nil => exact fun _ h => absurd h List.not_mem_nil
  | cons value rest => exact pos_of_mem_groupOnto Nat.one_pos

theorem isChain_groups : ((groups values).map Prod.fst).IsChain (· ≠ ·) := by
  cases values with
  | nil => exact .nil
  | cons value rest => exact isChain_groupOnto value 1 rest

end MarkupEditor.Value
