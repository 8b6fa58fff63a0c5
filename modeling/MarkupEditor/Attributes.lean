import MarkupEditor.Value.Basic

/-!
# Attribute sets

An attribute set gives values to names.  What it says is how it answers
look-ups: two sets are alike when every look-up gives alike values.
-/

namespace MarkupEditor

structure AttributeSet where
  entries : List (String × Value)

namespace AttributeSet

def empty : AttributeSet := ⟨[]⟩

instance : EmptyCollection AttributeSet := ⟨empty⟩

instance : Inhabited AttributeSet := ⟨empty⟩

def get? (attributes : AttributeSet) (name : String) : Option Value :=
  attributes.entries.lookup name

def names (attributes : AttributeSet) : List String := attributes.entries.map Prod.fst

def insertEntry (name : String) (value : Value) : List (String × Value) → List (String × Value)
  | [] => [(name, value)]
  | entry :: rest =>
    if entry.1 = name then (name, value) :: rest else entry :: insertEntry name value rest

/-- Gives a name a value, in place of the one it had. -/
def insert (attributes : AttributeSet) (name : String) (value : Value) : AttributeSet :=
  ⟨insertEntry name value attributes.entries⟩

/-- Takes a name's value away. -/
def erase (attributes : AttributeSet) (name : String) : AttributeSet :=
  ⟨attributes.entries.filter fun entry => entry.1 != name⟩

/-- Gives a name a value, or takes its value away. -/
def assign (attributes : AttributeSet) (name : String) : Option Value → AttributeSet
  | some value => attributes.insert name value
  | none => attributes.erase name

/-- The attributes that the same text gives when it is read another time. -/
def reread (turn : Nat) (attributes : AttributeSet) : AttributeSet :=
  ⟨Value.rereadFields turn attributes.entries⟩

theorem lookup_cons_eq (name key : String) (value : Value) (rest : List (String × Value)) :
    ((key, value) :: rest).lookup name = if name = key then some value else rest.lookup name := by
  rw [List.lookup_cons]
  by_cases h : name = key
  · simp [h]
  · rw [if_neg h, beq_false_of_ne h]

theorem lookup_insertEntry (name other : String) (value : Value)
    (entries : List (String × Value)) :
    (insertEntry name value entries).lookup other =
      if other = name then some value else entries.lookup other := by
  induction entries with
  | nil => exact lookup_cons_eq other name value []
  | cons entry rest ih =>
    obtain ⟨key, stored⟩ := entry
    simp only [insertEntry]
    split
    · next h =>
      subst h
      simp only [lookup_cons_eq]
      split <;> rfl
    · next h =>
      simp only [lookup_cons_eq, ih]
      grind

@[simp]
theorem get?_insert (attributes : AttributeSet) (name other : String) (value : Value) :
    (attributes.insert name value).get? other =
      if other = name then some value else attributes.get? other :=
  lookup_insertEntry name other value attributes.entries

theorem lookup_filter_ne (name other : String) (entries : List (String × Value)) :
    (entries.filter fun entry => entry.1 != name).lookup other =
      if other = name then none else entries.lookup other := by
  induction entries with
  | nil => simp
  | cons entry rest ih =>
    obtain ⟨key, stored⟩ := entry
    by_cases hk : key = name
    · rw [List.filter_cons_of_neg (by simp [hk]), ih, lookup_cons_eq]
      grind
    · rw [List.filter_cons_of_pos (by simp [hk]), lookup_cons_eq, lookup_cons_eq, ih]
      grind

@[simp]
theorem get?_erase (attributes : AttributeSet) (name other : String) :
    (attributes.erase name).get? other =
      if other = name then none else attributes.get? other :=
  lookup_filter_ne name other attributes.entries

@[simp]
theorem get?_assign (attributes : AttributeSet) (name other : String) (value : Option Value) :
    (attributes.assign name value).get? other =
      if other = name then value else attributes.get? other := by
  cases value <;> simp [assign]

/-- Two attribute sets that answer every look-up with alike values. -/
def Alike (left right : AttributeSet) : Prop :=
  ∀ name, Value.AlikeOption (left.get? name) (right.get? name)

theorem get?_eq_none_of_not_mem {attributes : AttributeSet} {name : String}
    (h : name ∉ attributes.names) : attributes.get? name = none := by
  have (entries : List (String × Value)) (h : name ∉ entries.map Prod.fst) :
      entries.lookup name = none := by
    induction entries with
    | nil => rfl
    | cons entry rest ih =>
      obtain ⟨key, stored⟩ := entry
      simp only [List.map_cons, List.mem_cons, not_or] at h
      rw [lookup_cons_eq, if_neg h.1, ih h.2]
  exact this attributes.entries h

theorem isSome_get?_of_mem {attributes : AttributeSet} {name : String}
    (h : name ∈ attributes.names) : (attributes.get? name).isSome := by
  have (entries : List (String × Value)) (h : name ∈ entries.map Prod.fst) :
      (entries.lookup name).isSome := by
    induction entries with
    | nil => simp at h
    | cons entry rest ih =>
      obtain ⟨key, stored⟩ := entry
      rw [lookup_cons_eq]
      split
      · rfl
      · exact ih (by simp_all)
  exact this attributes.entries h

/-- Compares what two sets say about the names of the first one, and looks for
names that only the second one has. -/
def isAlike (left right : AttributeSet) : Bool :=
  (left.entries.all fun entry => Value.AlikeOption (left.get? entry.1) (right.get? entry.1))
    && right.entries.all fun entry => (left.get? entry.1).isSome

theorem isAlike_iff (left right : AttributeSet) : left.isAlike right = true ↔ Alike left right := by
  simp only [isAlike, Bool.and_eq_true, List.all_eq_true, decide_eq_true_eq]
  refine ⟨fun h name => ?_, fun h => ⟨fun entry _ => h entry.1, fun entry hentry => ?_⟩⟩
  · by_cases hleft : name ∈ left.names
    · obtain ⟨entry, hentry, rfl⟩ := List.mem_map.1 hleft
      exact h.1 entry hentry
    · have hnone := get?_eq_none_of_not_mem hleft
      have hright : name ∉ right.names := fun hright => by
        obtain ⟨entry, hentry, rfl⟩ := List.mem_map.1 hright
        simpa [hnone] using h.2 entry hentry
      rw [hnone, get?_eq_none_of_not_mem hright]
      rfl
  · have hname := isSome_get?_of_mem (List.mem_map_of_mem hentry)
    have := congrArg Option.isSome (h entry.1)
    simpa [hname] using this

instance (left right : AttributeSet) : Decidable (Alike left right) :=
  decidable_of_iff _ (isAlike_iff left right)

theorem Alike.refl (attributes : AttributeSet) : Alike attributes attributes := fun _ => rfl

theorem Alike.symm {left right : AttributeSet} (h : Alike left right) : Alike right left :=
  fun name => (h name).symm

theorem Alike.trans {first second third : AttributeSet} (h : Alike first second)
    (h' : Alike second third) : Alike first third := fun name => (h name).trans (h' name)

theorem Alike.assign {left right : AttributeSet} (h : left.Alike right) (name : String)
    (value : Option Value) : (left.assign name value).Alike (right.assign name value) := by
  intro key
  rw [get?_assign, get?_assign]
  by_cases hkey : key = name
  · rw [if_pos hkey, if_pos hkey]
    rfl
  · rw [if_neg hkey, if_neg hkey]
    exact h key

theorem assign_alike (attributes : AttributeSet) (name : String) {value value' : Option Value}
    (h : Value.AlikeOption value value') :
    (attributes.assign name value).Alike (attributes.assign name value') := by
  intro key
  rw [get?_assign, get?_assign]
  by_cases hkey : key = name
  · rwa [if_pos hkey, if_pos hkey]
  · rw [if_neg hkey, if_neg hkey]
    rfl

/-- Of two values given to one name the second one stays. -/
theorem assign_assign_alike (attributes : AttributeSet) (name : String)
    (value value' : Option Value) :
    ((attributes.assign name value).assign name value').Alike (attributes.assign name value') := by
  intro key
  rw [get?_assign, get?_assign, get?_assign]
  by_cases hkey : key = name
  · rw [if_pos hkey, if_pos hkey]
    rfl
  · rw [if_neg hkey, if_neg hkey, if_neg hkey]
    rfl

/-- The order in which two names get their values does not matter. -/
theorem assign_comm_alike (attributes : AttributeSet) {name other : String} (hname : name ≠ other)
    (value value' : Option Value) :
    ((attributes.assign other value').assign name value).Alike
      ((attributes.assign name value).assign other value') := by
  intro key
  rw [get?_assign, get?_assign, get?_assign, get?_assign]
  by_cases hkey : key = name
  · have hother : key ≠ other := hkey ▸ hname
    rw [if_pos hkey, if_neg hother, if_pos hkey]
    rfl
  · rw [if_neg hkey, if_neg hkey]
    rfl

end AttributeSet

end MarkupEditor
